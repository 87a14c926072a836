/-
# ReleaseHistory.Proofs.TextListGrammar -- the JSON texts that are lists of texts

`SpellsList` is the grammar of a list of texts in JSON:

* between the quotes of a text a character stands for itself or behind a backslash, as a letter, as a
  code unit or as the two halves of a surrogate pair, and no control character stands for itself
  (`SpellsChar`, `SpellsText`, `SpellsText.visible`);
* the texts of a list stand between brackets with commas between them, and blanks around them all
  (`SpellsEntries`, `SpellsList`).

The reader finds a list of texts exactly in what the grammar spells (`read_eq_list_iff`), so that nothing
spells two lists (`SpellsList.unique`).  It takes one turn for each character of a text and one for each
entry, so that the length of what it reads bounds the turns it needs.
-/
import ReleaseHistory.Json.Reader
import ReleaseHistory.Proofs.Outcome

namespace ReleaseHistory.Json

set_option autoImplicit false

open Text (LooseText Symbol)

/-! ## The grammar -/

/-- Four hexadecimal digits, in either case, write the number. -/
inductive WritesUnit : Nat → List Char → Prop where
  | intro {a b c d : Char} {p q r s : Nat} (first : hexValue? a = some p)
      (second : hexValue? b = some q) (third : hexValue? c = some r) (fourth : hexValue? d = some s) :
      WritesUnit (p * 4096 + q * 256 + r * 16 + s) [a, b, c, d]

/-- What may stand for a character between quotes: the character itself, unless it is a quote, a
backslash or a control character; a letter for it behind a backslash; its code unit, or the two
halves of its surrogate pair. -/
inductive SpellsChar : Char → List Char → Prop where
  | plain {c : Char} (visible : 32 ≤ c.toNat) (notQuote : c ≠ '"') (notBackslash : c ≠ '\\') :
      SpellsChar c [c]
  | letter {c e : Char} (stands : escapedChar? e = some c) : SpellsChar c ['\\', e]
  | unit {c : Char} {ds : List Char} (written : WritesUnit c.toNat ds) : SpellsChar c ('\\' :: 'u' :: ds)
  | pair {c : Char} {n m : Nat} {ds es : List Char} (first : WritesUnit n ds) (second : WritesUnit m es)
      (high : isHighSurrogate n = true) (low : isLowSurrogate m = true)
      (joined : c.toNat = 0x10000 + (n - 0xD800) * 0x400 + (m - 0xDC00)) :
      SpellsChar c ('\\' :: 'u' :: (ds ++ '\\' :: 'u' :: es))

/-- What stands between the quotes of a text. -/
inductive SpellsText : List Char → List Char → Prop where
  | nil : SpellsText [] []
  | cons {c : Char} {cs piece raw : List Char} (first : SpellsChar c piece) (rest : SpellsText cs raw) :
      SpellsText (c :: cs) (piece ++ raw)

/-- Blanks, if anything. -/
def IsGap (cs : List Char) : Prop := ∀ c ∈ cs, isSpace c = true

/-- Texts in quotes with a comma between every two, and blanks behind each and before all but the
first. -/
inductive SpellsEntries : List String → List Char → Prop where
  | last {s : String} {raw gap : List Char} (spelt : SpellsText s.toList raw) (blank : IsGap gap) :
      SpellsEntries [s] ('"' :: (raw ++ '"' :: gap))
  | more {s : String} {ss : List String} {raw gap gap' rest : List Char}
      (spelt : SpellsText s.toList raw) (blank : IsGap gap) (blank' : IsGap gap')
      (later : SpellsEntries ss rest) :
      SpellsEntries (s :: ss) ('"' :: (raw ++ '"' :: (gap ++ ',' :: (gap' ++ rest))))

/-- A JSON list of texts, blanks around it and its entries. -/
inductive SpellsList : List String → List Char → Prop where
  | empty {gap inner gap' : List Char} (blank : IsGap gap) (within : IsGap inner) (blank' : IsGap gap') :
      SpellsList [] (gap ++ '[' :: (inner ++ ']' :: gap'))
  | entries {ss : List String} {gap inner raw gap' : List Char} (blank : IsGap gap)
      (within : IsGap inner) (spelt : SpellsEntries ss raw) (blank' : IsGap gap') :
      SpellsList ss (gap ++ '[' :: (inner ++ (raw ++ ']' :: gap')))

/-! ## Code units -/

theorem readUnit_eq_some_iff {cs r : List Char} {n : Nat} :
    readUnit cs = some (n, r) ↔ r ≠ [] ∧ ∃ ds, WritesUnit n ds ∧ cs = ds ++ r := by
  constructor
  · intro read
    unfold readUnit at read
    split at read
    · rename_i a b c d e r'
      simp only [Option.bind_eq_bind, Option.bind_eq_some_iff, Option.pure_def, Option.some.injEq,
        Prod.mk.injEq] at read
      obtain ⟨p, first, q, second, u, third, s, fourth, rfl, rfl⟩ := read
      exact ⟨List.cons_ne_nil _ _, _, .intro first second third fourth, rfl⟩
    · cases read
  · rintro ⟨more, ds, ⟨first, second, third, fourth⟩, rfl⟩
    obtain ⟨e, r', rfl⟩ := List.exists_cons_of_ne_nil more
    simp [readUnit, first, second, third, fourth]

theorem of_hexValue? {c : Char} {d : Nat} (digit : hexValue? c = some d) : d < 16 ∧ 48 ≤ c.toNat := by
  simp only [hexValue?, Char.le_def, UInt32.le_iff_toNat_le, Char.reduceVal, UInt32.reduceToNat,
    Char.toNat_val] at digit
  split at digit
  · cases digit
    omega
  · split at digit
    · cases digit
      omega
    · split at digit
      · cases digit
        omega
      · cases digit

theorem WritesUnit.bounds {n : Nat} {ds : List Char} (written : WritesUnit n ds) :
    n < 65536 ∧ ∀ c ∈ ds, 32 ≤ c.toNat := by
  obtain ⟨first, second, third, fourth⟩ := written
  have := of_hexValue? first
  have := of_hexValue? second
  have := of_hexValue? third
  have := of_hexValue? fourth
  simp only [List.forall_mem_cons, List.not_mem_nil, false_imp_iff, implies_true, and_true]
  omega

theorem isHighSurrogate_iff {n : Nat} : isHighSurrogate n = true ↔ 0xD800 ≤ n ∧ n ≤ 0xDBFF := by
  simp [isHighSurrogate]

theorem isLowSurrogate_iff {n : Nat} : isLowSurrogate n = true ↔ 0xDC00 ≤ n ∧ n ≤ 0xDFFF := by
  simp [isLowSurrogate]

theorem toNat_ofNat {n : Nat} (valid : n.isValidChar) : (Char.ofNat n).toNat = n := by
  rw [Char.ofNat, dif_pos valid]
  rfl

/-- A code unit is a character if it is no half of a surrogate pair. -/
theorem unitSymbol_eq_char_iff {n : Nat} (small : n < 65536) {c : Char} :
    unitSymbol n = .char c ↔ n = c.toNat := by
  have valid : c.toNat.isValidChar := c.valid
  unfold unitSymbol
  split
  · rename_i half
    rw [Bool.or_eq_true, isHighSurrogate_iff, isLowSurrogate_iff] at half
    refine iff_of_false nofun ?_
    rintro rfl
    omega
  · rename_i whole
    rw [Bool.or_eq_true, isHighSurrogate_iff, isLowSurrogate_iff] at whole
    have number : n.isValidChar := by
      unfold Nat.isValidChar
      omega
    constructor
    · intro same
      rw [← Symbol.char.inj same, toNat_ofNat number]
    · rintro rfl
      rw [Char.ofNat_toNat]

theorem not_isHighSurrogate_toNat (c : Char) : isHighSurrogate c.toNat = false := by
  have valid : c.toNat.isValidChar := c.valid
  refine Bool.eq_false_iff.2 fun high => ?_
  rw [isHighSurrogate_iff] at high
  omega

/-- The escape behind a `u` is read as a character only if it writes it, by its code unit or by its
surrogate pair. -/
theorem exists_of_readEscapedUnit {cs r : List Char} {c : Char}
    (read : readEscapedUnit cs = .ok (.char c, r)) :
    ∃ ds, SpellsChar c ('\\' :: 'u' :: ds) ∧ cs = ds ++ r := by
  unfold readEscapedUnit at read
  split at read
  · cases read
  · rename_i n r' found
    obtain ⟨-, ds, written, rfl⟩ := readUnit_eq_some_iff.1 found
    -- A unit that is given alone is a character only if it is no half, on whichever branch.
    have single {r'' : List Char} (alone : Except.ok (unitSymbol n, r'') = .ok (ε := Stop) (.char c, r)) :
        SpellsChar c ('\\' :: 'u' :: ds) ∧ r'' = r := by
      obtain ⟨same, rfl⟩ := Prod.mk.inj (Except.ok.inj alone)
      exact ⟨.unit ((unitSymbol_eq_char_iff written.bounds.1).1 same ▸ written), rfl⟩
    split at read
    · rename_i behind high
      split at read
      · obtain ⟨spelt, rfl⟩ := single read
        exact ⟨ds, spelt, rfl⟩
      · split at read
        · cases read
        · rename_i m rest next
          obtain ⟨-, es, low, rfl⟩ := readUnit_eq_some_iff.1 next
          split at read
          · rename_i isLow
            obtain ⟨same, rfl⟩ := Prod.mk.inj (Except.ok.inj read)
            refine ⟨_, .pair written low high isLow ?_, by simp⟩
            rw [← Symbol.char.inj same, toNat_ofNat]
            rw [isHighSurrogate_iff] at high
            rw [isLowSurrogate_iff] at isLow
            unfold Nat.isValidChar
            omega
          · obtain ⟨spelt, rfl⟩ := single read
            exact ⟨ds, spelt, rfl⟩
    · obtain ⟨spelt, rfl⟩ := single read
      exact ⟨ds, spelt, rfl⟩

theorem readEscapedUnit_of_unit {c : Char} {ds r : List Char} (written : WritesUnit c.toNat ds) (more : r ≠ []) :
    readEscapedUnit (ds ++ r) = .ok (.char c, r) := by
  rw [readEscapedUnit, readUnit_eq_some_iff.2 ⟨more, ds, written, rfl⟩]
  simp only [not_isHighSurrogate_toNat]
  rw [(unitSymbol_eq_char_iff written.bounds.1).2 rfl]

theorem readEscapedUnit_of_pair {c : Char} {n m : Nat} {ds es r : List Char} (first : WritesUnit n ds)
    (second : WritesUnit m es) (high : isHighSurrogate n = true) (low : isLowSurrogate m = true)
    (joined : c.toNat = 0x10000 + (n - 0xD800) * 0x400 + (m - 0xDC00)) (more : r ≠ []) :
    readEscapedUnit (ds ++ '\\' :: 'u' :: (es ++ r)) = .ok (.char c, r) := by
  have goesOn : ((es ++ r).drop 4).isEmpty = false := by
    obtain ⟨-, -, -, -⟩ := second
    simpa using more
  rw [readEscapedUnit, readUnit_eq_some_iff.2 ⟨List.cons_ne_nil _ _, ds, first, rfl⟩]
  simp only [high, goesOn, readUnit_eq_some_iff.2 ⟨more, es, second, rfl⟩, low, if_true, ← joined,
    Char.ofNat_toNat]
  rfl

/-! ## Characters -/

theorem readPiece_escape (start : List Char) {e : Char} (notUnit : e ≠ 'u') (r : List Char) :
    readPiece start ('\\' :: e :: r) =
      match escapedChar? e with
      | some c => .ok (some (.char c), r)
      | none => .error (.complaint .badEscape (r.length + 2)) := by
  cases stands : escapedChar? e <;> simp only [readPiece, stands]

theorem readPiece_plain (start : List Char) {c : Char} (notQuote : c ≠ '"') (notBackslash : c ≠ '\\')
    (r : List Char) :
    readPiece start (c :: r) =
      if c.toNat < 32 then .error (.complaint .controlCharacter (r.length + 1))
      else .ok (some (.char c), r) := by
  rw [readPiece] <;> simp_all

/-- A spelling is read as the character it stands for if the text goes on behind it. -/
theorem readPiece_of_spellsChar (start : List Char) {c : Char} {piece r : List Char} (spelt : SpellsChar c piece)
    (more : r ≠ []) : readPiece start (piece ++ r) = .ok (some (.char c), r) := by
  cases spelt with
  | plain visible notQuote notBackslash =>
      rw [List.singleton_append, readPiece_plain start notQuote notBackslash, if_neg (Nat.not_lt.2 visible)]
  | @letter e stands =>
      have notUnit : e ≠ 'u' := by
        rintro rfl
        cases stands
      rw [List.cons_append, List.singleton_append, readPiece_escape start notUnit, stands]
  | unit written =>
      rw [List.cons_append, List.cons_append, readPiece, readEscapedUnit_of_unit written more]
      rfl
  | pair first second high low joined =>
      simp only [List.cons_append, List.append_assoc]
      rw [readPiece, readEscapedUnit_of_pair first second high low joined more]
      rfl

theorem exists_of_readPiece {start cs r : List Char} {c : Char}
    (read : readPiece start cs = .ok (some (.char c), r)) : ∃ piece, SpellsChar c piece ∧ cs = piece ++ r := by
  unfold readPiece at read
  split at read
  · cases read
  · cases read
  · cases read
  · obtain ⟨⟨symbol, r'⟩, found, same⟩ := bind_eq_ok_iff.1 read
    cases same
    obtain ⟨ds, spelt, rfl⟩ := exists_of_readEscapedUnit found
    exact ⟨_, spelt, rfl⟩
  · split at read
    · rename_i stands
      cases read
      exact ⟨_, .letter stands, rfl⟩
    · cases read
  · rename_i d r' notQuote notLast _ notEscape
    split at read
    · cases read
    · rename_i visible
      cases read
      have notBackslash : c ≠ '\\' := by
        rintro rfl
        cases r with
        | nil => exact notLast rfl rfl
        | cons e r => exact notEscape e r rfl rfl
      exact ⟨[c], .plain (Nat.not_lt.1 visible) notQuote notBackslash, rfl⟩

/-- The end of a text is read at a quote that stands for itself. -/
theorem readPiece_eq_end_iff {start cs r : List Char} :
    readPiece start cs = .ok (none, r) ↔ cs = '"' :: r := by
  constructor
  · intro read
    unfold readPiece at read
    split at read
    · cases read
    · cases read
      rfl
    · cases read
    · obtain ⟨_, -, same⟩ := bind_eq_ok_iff.1 read
      cases same
    · split at read <;> cases read
    · split at read <;> cases read
  · rintro rfl
    rfl

/-! ## Texts -/

/-- The piece of a character is not empty. -/
theorem SpellsChar.one_le_length {c : Char} {piece : List Char} (spelt : SpellsChar c piece) :
    1 ≤ piece.length := by
  cases spelt <;> simp

/-- No control character stands in a spelling as it is. -/
theorem SpellsChar.visible {c : Char} {piece : List Char} (spelt : SpellsChar c piece) :
    ∀ d ∈ piece, 32 ≤ d.toNat := by
  have escape : ∀ d ∈ ['\\', 'u'], 32 ≤ d.toNat := by simp
  cases spelt with
  | plain visible => simpa using visible
  | @letter e stands =>
      have letter : 32 ≤ e.toNat := by
        unfold escapedChar? at stands
        split at stands <;> first | decide | cases stands
      simpa using letter
  | unit written => exact List.forall_mem_append.2 ⟨escape, written.bounds.2⟩
  | pair first second =>
      exact List.forall_mem_append.2 ⟨escape, List.forall_mem_append.2
        ⟨first.bounds.2, List.forall_mem_append.2 ⟨escape, second.bounds.2⟩⟩⟩

theorem SpellsText.visible {cs raw : List Char} (spelt : SpellsText cs raw) : ∀ d ∈ raw, 32 ≤ d.toNat := by
  induction spelt with
  | nil => nofun
  | cons first _ ih => exact List.forall_mem_append.2 ⟨first.visible, ih⟩

theorem SpellsText.length_le {cs raw : List Char} (spelt : SpellsText cs raw) : cs.length ≤ raw.length := by
  induction spelt with
  | nil => exact Nat.le_refl 0
  | cons first rest ih =>
      have := first.one_le_length
      simp only [List.length_cons, List.length_append]
      omega

/-- A spelling of a text is read up to its closing quote, given a turn for each character and one for
the quote. -/
theorem readTextFrom_of_spellsText (start r : List Char) {cs raw : List Char} (spelt : SpellsText cs raw)
    (turns : Nat) (enough : cs.length < turns) :
    readTextFrom start turns (raw ++ '"' :: r) = .ok (LooseText.ofList cs, r) := by
  induction spelt generalizing turns with
  | nil =>
      obtain ⟨turns, rfl⟩ := Nat.exists_eq_succ_of_ne_zero (Nat.ne_of_gt enough)
      rw [List.nil_append, readTextFrom, readPiece_eq_end_iff.2 rfl]
      rfl
  | @cons c cs piece raw first rest ih =>
      obtain ⟨turns, rfl⟩ := Nat.exists_eq_succ_of_ne_zero (Nat.ne_zero_of_lt enough)
      have more : raw ++ '"' :: r ≠ [] := by simp
      have ih := ih turns (by simpa using enough)
      rw [List.append_assoc, readTextFrom, readPiece_of_spellsChar start first more]
      simp only [bind, Except.bind]
      rw [ih]
      rfl

/-- Characters that are read up to a quote were spelt before it. -/
theorem exists_of_readTextFrom {start cs r raw : List Char} {turns : Nat}
    (read : readTextFrom start turns raw = .ok (LooseText.ofList cs, r)) :
    ∃ before, SpellsText cs before ∧ raw = before ++ '"' :: r := by
  induction turns generalizing cs raw with
  | zero => cases read
  | succ turns ih =>
      obtain ⟨⟨symbol?, r'⟩, found, next⟩ := bind_eq_ok_iff.1 read
      cases symbol? with
      | none =>
          obtain ⟨none, rfl⟩ := Prod.mk.inj (Except.ok.inj next)
          obtain rfl := List.map_eq_nil_iff.1 none.symm
          exact ⟨[], .nil, readPiece_eq_end_iff.1 found⟩
      | some symbol =>
          obtain ⟨⟨t, r''⟩, later, whole⟩ := bind_eq_ok_iff.1 next
          obtain ⟨split, rfl⟩ := Prod.mk.inj (Except.ok.inj whole)
          obtain ⟨c, cs', rfl, rfl, rfl⟩ := List.map_eq_cons_iff.1 split.symm
          obtain ⟨before, rest, rfl⟩ := ih later
          obtain ⟨piece, first, rfl⟩ := exists_of_readPiece found
          exact ⟨piece ++ before, .cons first rest, by simp⟩

/-! ## Blanks -/

theorem skipSpace_append {gap : List Char} (blank : IsGap gap) (cs : List Char) :
    skipSpace (gap ++ cs) = skipSpace cs := by
  rw [skipSpace, List.dropWhile_append_of_pos blank]
  rfl

theorem skipSpace_cons {c : Char} (visible : isSpace c = false) (r : List Char) :
    skipSpace (c :: r) = c :: r := by
  rw [skipSpace, List.dropWhile_cons, visible]
  rfl

/-- What is skipped is a gap. -/
theorem exists_gap (cs : List Char) : ∃ gap, IsGap gap ∧ cs = gap ++ skipSpace cs :=
  ⟨cs.takeWhile isSpace, List.all_eq_true.1 List.all_takeWhile, List.takeWhile_append_dropWhile.symm⟩

theorem isGap_iff {cs : List Char} : IsGap cs ↔ skipSpace cs = [] := by
  constructor
  · intro blank
    rw [← List.append_nil cs, skipSpace_append blank]
    rfl
  · intro skipped
    obtain ⟨gap, blank, split⟩ := exists_gap cs
    rw [skipped, List.append_nil] at split
    exact split ▸ blank

/-! ## Values -/

variable {cs r : List Char} {turns depth : Nat}

theorem of_readMagnitude {negative : Bool} {v : Tree} (read : readMagnitude negative cs = some (.ok (v, r))) :
    (∃ n, v = .int n) ∨ ∃ x, v = .float x := by
  unfold readMagnitude at read
  split at read
  · cases read
  · dsimp only at read
    split at read
    · split at read
      · cases read
        exact .inl ⟨_, rfl⟩
      · cases read
    · cases read
      exact .inr ⟨_, rfl⟩

/-- The value is neither a text nor a list. -/
def IsOther (v : Tree) : Prop := (∀ t, v ≠ .text t) ∧ ∀ vs, v ≠ .list vs

/-- No word and no number is a text or a list. -/
theorem isOther_of_readAtom {v : Tree} (read : readAtom cs = .ok (v, r)) : IsOther v := by
  have number {negative : Bool} {ds : List Char}
      (found : (readMagnitude negative ds).getD (.error (.complaint .expectingValue cs.length)) = .ok (v, r)) :
      IsOther v := by
    cases magnitude : readMagnitude negative ds with
    | none =>
        rw [magnitude] at found
        cases found
    | some outcome =>
        rw [magnitude, Option.getD_some] at found
        obtain ⟨n, rfl⟩ | ⟨x, rfl⟩ := of_readMagnitude (found ▸ magnitude)
        · exact ⟨nofun, nofun⟩
        · exact ⟨nofun, nofun⟩
  unfold readAtom at read
  split at read
  · rename_i word
    cases read
    obtain ⟨⟨w, v'⟩, listed, after⟩ := List.exists_of_findSome?_eq_some word
    obtain ⟨r', -, same⟩ := Option.map_eq_some_iff.1 after
    obtain ⟨rfl, rfl⟩ := Prod.mk.inj same
    simp only [wordValues, List.mem_cons, Prod.mk.injEq, List.not_mem_nil, or_false] at listed
    rcases listed with ⟨-, rfl⟩ | ⟨-, rfl⟩ | ⟨-, rfl⟩ | ⟨-, rfl⟩ | ⟨-, rfl⟩ | ⟨-, rfl⟩
    all_goals exact ⟨nofun, nofun⟩
  · dsimp only at read
    split at read <;> exact number read

/-- A text is read at a quote, and a list at a bracket. -/
theorem readValue_cases {v : Tree} (read : readValue turns depth cs = .ok (v, r)) :
    (∃ n cs' t, cs = '"' :: cs' ∧ v = .text t ∧ readText n cs' = .ok (t, r)) ∨
      (∃ cs', cs = '[' :: cs' ∧ v = .list [] ∧ skipSpace cs' = ']' :: r) ∨
      (∃ n d cs' vs, cs = '[' :: cs' ∧ v = .list vs ∧ readItems n d (skipSpace cs') = .ok (vs, r)) ∨
      IsOther v := by
  cases turns with
  | zero => cases read
  | succ turns =>
      unfold readValue at read
      split at read
      · obtain ⟨⟨t, r'⟩, found, same⟩ := bind_eq_ok_iff.1 read
        cases same
        exact .inl ⟨_, _, t, rfl, rfl, found⟩
      · split at read
        · cases read
        · rename_i closed
          cases read
          exact .inr (.inl ⟨_, rfl, rfl, closed⟩)
        · rename_i depth _
          obtain ⟨⟨vs, r'⟩, found, same⟩ := bind_eq_ok_iff.1 read
          cases same
          exact .inr (.inr (.inl ⟨turns, depth, _, vs, rfl, rfl, found⟩))
      · split at read
        · cases read
        · cases read
          exact .inr (.inr (.inr ⟨nofun, nofun⟩))
        · obtain ⟨⟨fs, r'⟩, -, same⟩ := bind_eq_ok_iff.1 read
          cases same
          exact .inr (.inr (.inr ⟨nofun, nofun⟩))
      · exact .inr (.inr (.inr (isOther_of_readAtom read)))

theorem readValue_of_spellsText {s : String} {raw : List Char} (spelt : SpellsText s.toList raw)
    (r : List Char) (enough : raw.length < turns) :
    readValue turns depth ('"' :: (raw ++ '"' :: r)) = .ok (.text (LooseText.ofString s), r) := by
  obtain ⟨turns, rfl⟩ := Nat.exists_eq_succ_of_ne_zero (Nat.ne_zero_of_lt enough)
  have := spelt.length_le
  rw [readValue, readText, readTextFrom_of_spellsText _ r spelt (turns + 1) (by omega)]
  rfl

theorem exists_of_readValue_text {s : String}
    (read : readValue turns depth cs = .ok (.text (LooseText.ofString s), r)) :
    ∃ raw, SpellsText s.toList raw ∧ cs = '"' :: (raw ++ '"' :: r) := by
  rcases readValue_cases read with ⟨n, cs', t, rfl, same, text⟩ | ⟨_, _, same, _⟩ |
    ⟨_, _, _, _, _, same, _⟩ | ⟨apart, -⟩
  · cases same
    obtain ⟨raw, spelt, rfl⟩ := exists_of_readTextFrom text
    exact ⟨raw, spelt, rfl⟩
  · cases same
  · cases same
  · exact absurd rfl (apart _)

/-! ## Lists -/

/-- The entries of a list of texts. -/
def values (ss : List String) : List Tree := ss.map fun s => .text (LooseText.ofString s)

variable {ss : List String}

theorem SpellsEntries.exists_cons {body : List Char} (spelt : SpellsEntries ss body) :
    ∃ tail, body = '"' :: tail := by
  cases spelt <;> exact ⟨_, rfl⟩

/-- Entries are read up to the bracket behind them. -/
theorem readItems_of_spellsEntries (depth : Nat) (r : List Char) {body : List Char}
    (spelt : SpellsEntries ss body) (turns : Nat) (enough : body.length < turns) :
    readItems turns depth (body ++ ']' :: r) = .ok (values ss, r) := by
  -- An entry takes one turn and is longer than that, so that the turns left exceed what is left to read.
  induction spelt generalizing turns with
  | @last s raw gap spelt blank =>
      obtain ⟨turns, rfl⟩ := Nat.exists_eq_succ_of_ne_zero (Nat.ne_zero_of_lt enough)
      simp only [List.length_cons, List.length_append] at enough
      simp only [List.cons_append, List.append_assoc, readItems]
      rw [readValue_of_spellsText spelt _ (by omega)]
      simp only [bind, Except.bind, skipSpace_append blank, skipSpace_cons (c := ']') rfl]
      rfl
  | @more s ss raw gap gap' rest spelt blank blank' later ih =>
      obtain ⟨turns, rfl⟩ := Nat.exists_eq_succ_of_ne_zero (Nat.ne_zero_of_lt enough)
      simp only [List.length_cons, List.length_append] at enough
      have ih := ih turns (by omega)
      obtain ⟨tail, opens⟩ := later.exists_cons
      have quote : skipSpace (rest ++ ']' :: r) = rest ++ ']' :: r := by
        rw [opens]
        exact skipSpace_cons rfl _
      simp only [List.cons_append, List.append_assoc, readItems]
      rw [readValue_of_spellsText spelt _ (by omega)]
      simp only [bind, Except.bind, skipSpace_append blank, skipSpace_cons (c := ',') rfl,
        skipSpace_append blank', quote]
      rw [ih]
      rfl

theorem exists_of_readItems (read : readItems turns depth cs = .ok (values ss, r)) :
    ∃ body, SpellsEntries ss body ∧ cs = body ++ ']' :: r := by
  induction turns generalizing cs ss with
  | zero => cases read
  | succ turns ih =>
      unfold readItems at read
      obtain ⟨⟨v, r'⟩, first, next⟩ := bind_eq_ok_iff.1 read
      obtain ⟨gap, blank, split⟩ := exists_gap r'
      dsimp only at next
      split at next
      · rename_i closed
        obtain ⟨same, rfl⟩ := Prod.mk.inj (Except.ok.inj next)
        obtain ⟨s, ss', rfl, rfl, none⟩ := List.map_eq_cons_iff.1 same.symm
        obtain rfl := List.map_eq_nil_iff.1 none
        obtain ⟨raw, spelt, rfl⟩ := exists_of_readValue_text first
        rw [closed] at split
        exact ⟨_, .last spelt blank, by simp [split]⟩
      · rename_i behind comma
        obtain ⟨⟨vs, r''⟩, later, whole⟩ := bind_eq_ok_iff.1 next
        obtain ⟨same, rfl⟩ := Prod.mk.inj (Except.ok.inj whole)
        obtain ⟨s, ss', rfl, rfl, rfl⟩ := List.map_eq_cons_iff.1 same.symm
        obtain ⟨raw, spelt, rfl⟩ := exists_of_readValue_text first
        obtain ⟨gap', blank', split'⟩ := exists_gap behind
        obtain ⟨rest, spelt', body⟩ := ih later
        rw [comma] at split
        rw [body] at split'
        exact ⟨_, .more spelt blank blank' spelt', by simp [split, split']⟩
      · cases next

/-- A list stands between brackets and holds entries, if any. -/
theorem exists_of_readValue_list (read : readValue turns depth cs = .ok (.list (values ss), r)) :
    ∃ gap body, IsGap gap ∧ cs = '[' :: (gap ++ (body ++ ']' :: r)) ∧
      (SpellsEntries ss body ∨ ss = [] ∧ body = []) := by
  rcases readValue_cases read with ⟨_, _, _, _, same, _⟩ | ⟨cs', rfl, same, closed⟩ |
    ⟨n, d, cs', vs, rfl, same, items⟩ | ⟨-, apart⟩
  · cases same
  · obtain ⟨gap, blank, split⟩ := exists_gap cs'
    rw [closed] at split
    refine ⟨gap, [], blank, by rw [split, List.nil_append], .inr ⟨?_, rfl⟩⟩
    exact List.map_eq_nil_iff.1 (Datum.list.inj same)
  · cases same
    obtain ⟨gap, blank, split⟩ := exists_gap cs'
    obtain ⟨body, spelt, entries⟩ := exists_of_readItems items
    rw [entries] at split
    exact ⟨gap, body, blank, by rw [split], .inl spelt⟩
  · exact absurd rfl (apart _)

theorem readValue_empty {inner : List Char} (within : IsGap inner) (turns depth : Nat) (r : List Char) :
    readValue (turns + 1) (depth + 1) ('[' :: (inner ++ ']' :: r)) = .ok (.list [], r) := by
  have closed : skipSpace (inner ++ ']' :: r) = ']' :: r := by
    rw [skipSpace_append within, skipSpace_cons rfl]
  unfold readValue
  simp only [closed]

theorem readValue_of_spellsEntries {inner body : List Char} (within : IsGap inner)
    (spelt : SpellsEntries ss body) (turns depth : Nat) (r : List Char) (enough : body.length < turns) :
    readValue (turns + 1) (depth + 1) ('[' :: (inner ++ (body ++ ']' :: r))) = .ok (.list (values ss), r) := by
  have items := readItems_of_spellsEntries depth r spelt turns enough
  obtain ⟨tail, opens⟩ := spelt.exists_cons
  have quote : skipSpace (inner ++ (body ++ ']' :: r)) = '"' :: (tail ++ ']' :: r) := by
    rw [skipSpace_append within, opens]
    exact skipSpace_cons rfl _
  rw [opens, List.cons_append] at items
  unfold readValue
  simp only [quote]
  show (readItems turns depth ('"' :: (tail ++ ']' :: r)) >>= fun read =>
    pure (Datum.list read.1, read.2)) = _
  rw [items]
  rfl

theorem readWholeText_eq_ok_iff {v : Tree} :
    readWholeText cs = .ok v ↔ cs.head? ≠ some '\uFEFF' ∧
      ∃ r, readValue (2 * cs.length + 2) maxDepth (skipSpace cs) = .ok (v, r) ∧ IsGap r := by
  unfold readWholeText
  split
  · simp
  · rename_i unmarked
    have head : cs.head? ≠ some '\uFEFF' := by
      intro marked
      obtain ⟨r, rfl⟩ := List.head?_eq_some_iff.1 marked
      exact unmarked r rfl
    rw [bind_eq_ok_iff, and_iff_right head]
    constructor
    · rintro ⟨⟨v', r⟩, read, next⟩
      dsimp only at next
      split at next
      · rename_i done
        cases next
        exact ⟨r, read, isGap_iff.2 done⟩
      · cases next
    · rintro ⟨r, read, blank⟩
      refine ⟨(v, r), read, ?_⟩
      simp only [isGap_iff.1 blank]
      rfl

theorem SpellsList.unmarked {raw : List Char} (spelt : SpellsList ss raw) : raw.head? ≠ some '\uFEFF' := by
  have unmarked {gap tail : List Char} (blank : IsGap gap) : (gap ++ '[' :: tail).head? ≠ some '\uFEFF' := by
    cases gap with
    | nil => simp
    | cons c gap =>
        have space := blank c List.mem_cons_self
        rw [List.cons_append, List.head?_cons]
        intro mark
        rw [Option.some.inj mark] at space
        exact absurd space (by decide)
  cases spelt with
  | empty blank => exact unmarked blank
  | entries blank => exact unmarked blank

theorem SpellsList.ne_nil {raw : List Char} (spelt : SpellsList ss raw) : raw ≠ [] := by
  cases spelt <;> simp

/-- A text is read as a list of texts exactly if it spells that list. -/
theorem readWholeText_eq_list_iff : readWholeText cs = .ok (.list (values ss)) ↔ SpellsList ss cs := by
  constructor
  · intro read
    obtain ⟨-, r, found, blank'⟩ := readWholeText_eq_ok_iff.1 read
    obtain ⟨gap, blank, split⟩ := exists_gap cs
    obtain ⟨inner, body, within, list, spelt | ⟨rfl, rfl⟩⟩ := exists_of_readValue_list found
    · rw [split, list]
      exact .entries blank within spelt blank'
    · rw [split, list]
      exact .empty blank within blank'
  · intro spelt
    refine readWholeText_eq_ok_iff.2 ⟨spelt.unmarked, ?_⟩
    cases spelt with
    | @empty gap inner gap' blank within blank' =>
        refine ⟨gap', ?_, blank'⟩
        rw [skipSpace_append blank, skipSpace_cons rfl]
        exact readValue_empty within _ _ _
    | @entries _ gap inner body gap' blank within spelt blank' =>
        refine ⟨gap', ?_, blank'⟩
        rw [skipSpace_append blank, skipSpace_cons rfl]
        refine readValue_of_spellsEntries within spelt _ _ _ ?_
        simp only [List.length_append, List.length_cons]
        omega

/-- A column holds a list of texts exactly if it spells that list. -/
theorem read_eq_list_iff {column : String} :
    read column = .ok (.list (values ss)) ↔ SpellsList ss column.toList := by
  rw [read, mapError_eq_ok_iff, readWholeText_eq_list_iff]

theorem values_injective {ss ss' : List String} (same : values ss = values ss') : ss = ss' := by
  refine (List.map_inj_right fun s s' same => ?_).1 same
  have shown := congrArg LooseText.toString (Datum.text.inj same)
  simpa only [LooseText.toString_ofString] using shown

/-- Nothing spells two lists. -/
theorem SpellsList.unique {ss' : List String} (spelt : SpellsList ss cs) (other : SpellsList ss' cs) :
    ss = ss' := by
  have read := readWholeText_eq_list_iff.2 spelt
  rw [readWholeText_eq_list_iff.2 other] at read
  exact values_injective (Datum.list.inj (Except.ok.inj read)).symm

end ReleaseHistory.Json
