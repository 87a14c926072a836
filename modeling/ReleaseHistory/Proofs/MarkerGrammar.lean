/-
# ReleaseHistory.Proofs.MarkerGrammar -- the grammar of the markers that close a name

`RunOf es run` is the grammar of a run of edition markers, with the editions of its markers in
their order:

* a marker is `proper`, `repack` with at most one decimal digit, or `rerip`, after a `real` with
  separators behind it or not (`Keyword`, `Marker`);
* a run is a marker, more markers with separators in front of each, and separators
  (`Tail`, `RunOf`).

The scanner reads words where the grammar reads characters; both accept the same texts
(`runOf_iff`).  A marker is found in a text exactly if it is one of the words of its letters and
digits (`mentions_iff`), so that a run mentions the editions of its markers and no other
(`RunOf.mentions_iff`).

What is cut off the end of a text is the longest run that ends it and starts where a word can, and
its editions are what the text announces (`trailingText_longest`).
-/
import ReleaseHistory.Proofs.EditionMarkers
import Mathlib.Data.List.Forall2

namespace ReleaseHistory

set_option autoImplicit false

namespace Edition

open Text

/-! ## The grammar -/

/-- The text is the word, each letter in either case. -/
def Spells (word cs : List Char) : Prop := List.Forall₂ (fun k c => sameLetter k c = true) word cs

/-- The text is made up of separators, if of anything. -/
def IsGap (cs : List Char) : Prop := ∀ c ∈ cs, isSeparator c = true

/-- A word that marks an edition by itself. -/
inductive Keyword : Edition → List Char → Prop where
  | proper {w : List Char} (spelt : Spells properWord w) : Keyword .proper w
  | repack {w : List Char} (spelt : Spells repackWord w) : Keyword .repack w
  | numbered {w : List Char} {d : Char} (spelt : Spells repackWord w) (digit : isDecimal d = true) :
      Keyword .repack (w ++ [d])
  | rerip {w : List Char} (spelt : Spells reripWord w) : Keyword .repack w

/-- A keyword, after a `real` with separators behind it or not. -/
inductive Marker : Edition → List Char → Prop where
  | plain {e : Edition} {w : List Char} (keyword : Keyword e w) : Marker e w
  | real {e : Edition} {v gap w : List Char} (spelt : Spells realWord v) (some_ : gap ≠ [])
      (separates : IsGap gap) (keyword : Keyword e w) : Marker e (v ++ (gap ++ w))

/-- More markers, separators in front of each, and separators at the end. -/
inductive Tail : List Edition → List Char → Prop where
  | gap {s : List Char} (separates : IsGap s) : Tail [] s
  | more {e : Edition} {es : List Edition} {s m r : List Char} (some_ : s ≠ []) (separates : IsGap s)
      (marker : Marker e m) (tail : Tail es r) : Tail (e :: es) (s ++ (m ++ r))

/-- One marker or more, separators between them and possibly behind the last. -/
inductive RunOf : List Edition → List Char → Prop where
  | intro {e : Edition} {es : List Edition} {m r : List Char} (marker : Marker e m) (tail : Tail es r) :
      RunOf (e :: es) (m ++ r)

/-- The text ends with a run of these editions, which starts at its beginning or directly after a
separator. -/
def Closes (cs : List Char) (es : List Edition) (run : List Char) : Prop :=
  ∃ before, before ++ run = cs ∧ EndsApart before ∧ RunOf es run

/-! ## Keywords -/

variable {e : Edition} {es : List Edition} {w cs : List Char}

/-- The words that make up markers. -/
def markerWords : List (List Char) := [properWord, repackWord, reripWord, realWord]

theorem isNameChar_of_sameLetter {k c : Char} (letter : k ∈ markerWords.flatten) (same : sameLetter k c = true) :
    isNameChar c = true := by
  have either : c = k ∨ c = k.toUpper ∨ k = 'k' ∧ c = '\u212A' ∨ k = 'i' ∧ (c = '\u0130' ∨ c = '\u0131') := by
    simpa [sameLetter, or_assoc] using same
  have all : markerWords.flatten.all (fun k => k.isAlphanum && k.toUpper.isAlphanum) = true := by decide
  obtain ⟨small, capital⟩ := Bool.and_eq_true_iff.1 (List.all_eq_true.1 all k letter)
  rcases either with rfl | rfl | ⟨-, rfl⟩ | ⟨-, rfl | rfl⟩
  · simp [isNameChar, small]
  · simp [isNameChar, capital]
  all_goals decide

/-- Each character of a word that is spelt is one of its letters, in either case. -/
theorem Spells.exists_letter {word : List Char} (spelt : Spells word w) :
    ∀ c ∈ w, ∃ k ∈ word, sameLetter k c = true := by
  induction spelt with
  | nil => simp
  | cons same _ ih =>
      rintro c (_ | inside)
      · exact ⟨_, List.mem_cons_self, same⟩
      · obtain ⟨k, later, same⟩ := ih c ‹_›
        exact ⟨k, List.mem_cons_of_mem _ later, same⟩

theorem Spells.nameChars {word : List Char} (spelt : Spells word w) (marks : word ∈ markerWords) :
    ∀ c ∈ w, isNameChar c = true := by
  intro c inside
  obtain ⟨k, held, same⟩ := spelt.exists_letter c inside
  exact isNameChar_of_sameLetter (List.mem_flatten_of_mem marks held) same

theorem not_isSeparator_of_isNameChar {c : Char} (letter : isNameChar c = true) : isSeparator c = false := by
  by_contra separates
  rw [isNameChar_of_isSeparator (Bool.not_eq_false _ ▸ separates)] at letter
  cases letter

theorem exists_decimalZero {d : Char} (digit : isDecimal d = true) :
    ∃ z ∈ decimalZeros, z ≤ d.toNat ∧ d.toNat < z + 10 := by
  rw [isDecimal, decimalValue?, Option.isSome_map, List.find?_isSome] at digit
  simpa using digit

theorem not_isSeparator_of_isDecimal {d : Char} (digit : isDecimal d = true) : isSeparator d = false := by
  by_contra separates
  have number := mem_separatorNumbers (Bool.not_eq_false _ ▸ separates)
  obtain ⟨z, zero, le, lt⟩ := exists_decimalZero digit
  have apart : ∀ n ∈ separatorNumbers, ∀ z ∈ decimalZeros, ¬(z ≤ n ∧ n < z + 10) := by decide +kernel
  exact apart _ number z zero ⟨le, lt⟩

namespace Keyword

/-- A keyword is made up of letters and digits of names, or is one with a digit of another script
behind it. -/
theorem cases_nameChars (keyword : Keyword e w) :
    (∀ c ∈ w, isNameChar c = true) ∨
      ∃ v d, w = v ++ [d] ∧ Keyword e v ∧ (∀ c ∈ v, isNameChar c = true) ∧
        isNameChar d = false ∧ isDecimal d = true := by
  cases keyword with
  | proper spelt => exact .inl (spelt.nameChars (by decide))
  | repack spelt => exact .inl (spelt.nameChars (by decide))
  | @numbered v d spelt digit =>
      have letters := spelt.nameChars (by decide)
      by_cases letter : isNameChar d = true
      · exact .inl (List.forall_mem_append.2 ⟨letters, by simpa using letter⟩)
      · exact .inr ⟨v, d, rfl, .repack spelt, letters, Bool.eq_false_iff.2 letter, digit⟩
  | rerip spelt => exact .inl (spelt.nameChars (by decide))

theorem not_isSeparator (keyword : Keyword e w) : ∀ c ∈ w, isSeparator c = false := by
  rcases keyword.cases_nameChars with letters | ⟨v, d, rfl, -, letters, -, digit⟩
  · exact fun c inside => not_isSeparator_of_isNameChar (letters c inside)
  · refine List.forall_mem_append.2 ⟨fun c inside => not_isSeparator_of_isNameChar (letters c inside), ?_⟩
    simpa using not_isSeparator_of_isDecimal digit

theorem five_le_length (keyword : Keyword e w) : 5 ≤ w.length := by
  cases keyword with
  | proper spelt => rw [← spelt.length_eq]; decide
  | repack spelt => rw [← spelt.length_eq]; decide
  | numbered spelt digit => rw [List.length_append, ← spelt.length_eq]; exact Nat.le_add_right_of_le (by decide)
  | rerip spelt => rw [← spelt.length_eq]; decide

theorem ne_nil (keyword : Keyword e w) : w ≠ [] := by
  rintro rfl
  exact absurd keyword.five_le_length (by decide)

/-- A `real` is no keyword. -/
theorem not_spells_real (keyword : Keyword e w) : ¬ Spells realWord w := by
  intro spelt
  have short : w.length = 4 := spelt.length_eq.symm
  have long := keyword.five_le_length
  omega

theorem head?_eq (keyword : Keyword e w) :
    ∃ c, w.head? = some c ∧ sameLetter (if e = .proper then 'p' else 'r') c = true := by
  cases keyword with
  | proper spelt => cases spelt with | cons same _ => exact ⟨_, rfl, same⟩
  | repack spelt => cases spelt with | cons same _ => exact ⟨_, rfl, same⟩
  | numbered spelt digit => cases spelt with | cons same _ => exact ⟨_, rfl, same⟩
  | rerip spelt => cases spelt with | cons same _ => exact ⟨_, rfl, same⟩

/-- A keyword marks one edition: its first letter tells which. -/
theorem unique {e' : Edition} (keyword : Keyword e w) (other : Keyword e' w) : e = e' := by
  obtain ⟨c, first, same⟩ := keyword.head?_eq
  obtain ⟨d, first', same'⟩ := other.head?_eq
  obtain rfl := Option.some.inj (first.symm.trans first')
  have apart : ∀ c, ¬(sameLetter 'p' c = true ∧ sameLetter 'r' c = true) := by
    rintro c ⟨p, r⟩
    have either : c = 'p' ∨ c = 'P' := by simpa [sameLetter] using p
    rcases either with rfl | rfl <;> exact absurd r (by decide)
  cases e <;> cases e'
  · rfl
  · exact absurd ⟨same, same'⟩ (apart c)
  · exact absurd ⟨same', same⟩ (apart c)
  · rfl

end Keyword

/-! ## What the scanner reads -/

theorem afterKeyword_eq_some_iff {word r : List Char} :
    afterKeyword word cs = some r ↔ ∃ w, Spells word w ∧ cs = w ++ r := by
  induction word generalizing cs with
  | nil =>
      rw [afterKeyword, Option.some_inj]
      constructor
      · rintro rfl
        exact ⟨[], .nil, rfl⟩
      · rintro ⟨w, spelt, rfl⟩
        cases spelt
        rfl
  | cons k ks ih =>
      cases cs with
      | nil =>
          refine ⟨nofun, ?_⟩
          rintro ⟨w, spelt, split⟩
          cases spelt
          cases split
      | cons c cs =>
          rw [afterKeyword]
          constructor
          · intro read
            split at read
            · rename_i same
              obtain ⟨w, spelt, rfl⟩ := ih.1 read
              exact ⟨c :: w, .cons same spelt, rfl⟩
            · cases read
          · rintro ⟨w, spelt, split⟩
            cases spelt with
            | cons same spelt =>
                obtain ⟨rfl, rfl⟩ := List.cons.inj split
                rw [if_pos same]
                exact ih.2 ⟨_, spelt, rfl⟩

/-- The texts that may follow a marker are those that follow its keyword. -/
theorem mem_afterMarker_iff {r : List Char} :
    r ∈ afterMarker e cs ↔ ∃ w, Keyword e w ∧ cs = w ++ r := by
  cases e with
  | proper =>
      rw [afterMarker, Option.mem_toList, afterKeyword_eq_some_iff]
      constructor
      · rintro ⟨w, spelt, rfl⟩
        exact ⟨w, .proper spelt, rfl⟩
      · rintro ⟨w, ⟨spelt⟩, rfl⟩
        exact ⟨w, spelt, rfl⟩
  | repack =>
      rw [afterMarker, List.mem_append, Option.mem_toList, afterKeyword_eq_some_iff]
      constructor
      · rintro (packed | ⟨w, spelt, rfl⟩)
        · split at packed
          · cases packed
          · rename_i whole
            obtain rfl := List.mem_singleton.1 packed
            obtain ⟨w, spelt, rfl⟩ := afterKeyword_eq_some_iff.1 whole
            exact ⟨w, .repack spelt, rfl⟩
          · rename_i d rest found
            obtain ⟨w, spelt, rfl⟩ := afterKeyword_eq_some_iff.1 found
            split at packed
            · rename_i digit
              rcases List.mem_cons.1 packed with rfl | packed
              · exact ⟨w, .repack spelt, rfl⟩
              · obtain rfl := List.mem_singleton.1 packed
                exact ⟨w ++ [d], .numbered spelt digit, by simp⟩
            · obtain rfl := List.mem_singleton.1 packed
              exact ⟨w, .repack spelt, rfl⟩
        · exact ⟨w, .rerip spelt, rfl⟩
      · rintro ⟨w, keyword, rfl⟩
        cases keyword with
        | repack spelt =>
            left
            rw [afterKeyword_eq_some_iff.2 ⟨w, spelt, rfl⟩]
            cases r with
            | nil => exact List.mem_singleton_self _
            | cons d rest =>
                show d :: rest ∈ if isDecimal d = true then [d :: rest, rest] else [d :: rest]
                split <;> exact List.mem_cons_self
        | @numbered w d spelt digit =>
            left
            rw [afterKeyword_eq_some_iff.2 ⟨w, spelt, List.append_assoc w [d] r⟩]
            show r ∈ if isDecimal d = true then [d :: r, r] else [d :: r]
            rw [if_pos digit]
            exact List.mem_cons_of_mem _ List.mem_cons_self
        | rerip spelt => exact .inr ⟨w, spelt, rfl⟩

theorem nil_mem_afterMarker_iff : [] ∈ afterMarker e cs ↔ Keyword e cs := by
  rw [mem_afterMarker_iff]
  simp

theorem ofWord?_eq_some_iff : ofWord? w = some e ↔ Keyword e w := by
  have proper : (afterMarker .proper w).contains [] = true ↔ Keyword .proper w := by
    rw [List.contains_iff_mem, nil_mem_afterMarker_iff]
  have repack : (afterMarker .repack w).contains [] = true ↔ Keyword .repack w := by
    rw [List.contains_iff_mem, nil_mem_afterMarker_iff]
  rw [ofWord?]
  constructor
  · intro marks
    split at marks
    · rename_i first
      obtain rfl := Option.some.inj marks
      exact proper.1 first
    · split at marks
      · rename_i second
        obtain rfl := Option.some.inj marks
        exact repack.1 second
      · cases marks
  · intro keyword
    split
    · rename_i first
      rw [(proper.1 first).unique keyword]
    · rename_i other
      cases e with
      | proper => exact absurd (proper.2 keyword) other
      | repack => rw [if_pos (repack.2 keyword)]

/-- A word goes on with a run as a `real` or as a keyword. -/
theorem nextPending?_eq_some_iff {pending next : Bool} :
    nextPending? pending w = some next ↔
      pending = false ∧ next = true ∧ Spells realWord w ∨ next = false ∧ ∃ e, Keyword e w := by
  have real : afterKeyword realWord w = some [] ↔ Spells realWord w := by
    rw [afterKeyword_eq_some_iff]
    simp
  have marks : (∃ e, Keyword e w) ↔ ∃ e, ofWord? w = some e := by simp only [ofWord?_eq_some_iff]
  rw [nextPending?, marks]
  split
  · rename_i found
    simp only [Bool.and_eq_true, Bool.not_eq_true', beq_iff_eq, real] at found
    obtain ⟨rfl, spelt⟩ := found
    rw [Option.some_inj]
    constructor
    · rintro rfl
      exact .inl ⟨rfl, rfl, spelt⟩
    · rintro (⟨-, rfl, -⟩ | ⟨-, e, named⟩)
      · rfl
      · exact absurd spelt (ofWord?_eq_some_iff.1 named).not_spells_real
  · rename_i other
    simp only [Bool.and_eq_true, Bool.not_eq_true', beq_iff_eq, real] at other
    constructor
    · intro found
      obtain ⟨e, named, rfl⟩ := Option.map_eq_some_iff.1 found
      exact .inr ⟨rfl, e, named⟩
    · rintro (⟨rfl, -, spelt⟩ | ⟨rfl, e, named⟩)
      · exact absurd ⟨rfl, spelt⟩ other
      · rw [named]
        rfl

/-! ## A run is a run of the grammar -/

/-- The editions of the keywords among words. -/
def editions (ws : List (List Char)) : List Edition := ws.filterMap ofWord?

theorem editions_append (vs ws : List (List Char)) : editions (vs ++ ws) = editions vs ++ editions ws :=
  List.filterMap_append ..

theorem editions_of_keyword (keyword : Keyword e w) : editions [w] = [e] := by
  rw [editions, List.filterMap_cons, ofWord?_eq_some_iff.2 keyword, List.filterMap_nil]

theorem editions_of_real (spelt : Spells realWord w) : editions [w] = [] := by
  cases marks : ofWord? w with
  | none => rw [editions, List.filterMap_cons, marks, List.filterMap_nil]
  | some e => exact absurd spelt (ofWord?_eq_some_iff.1 marks).not_spells_real

theorem nameWords_of_ne_nil (some_ : w ≠ []) (letters : ∀ c ∈ w, isSeparator c = false) : nameWords w = [w] :=
  runs_of_all some_ fun c inside => by rw [letters c inside]; rfl

namespace Marker

/-- The words of a marker are a keyword, or a `real` and a keyword. -/
theorem nameWords_cases {m : List Char} (marker : Marker e m) :
    ∃ w, Keyword e w ∧ (nameWords m = [w] ∨ ∃ v, Spells realWord v ∧ nameWords m = [v, w]) := by
  cases marker with
  | plain keyword =>
      exact ⟨m, keyword, .inl (nameWords_of_ne_nil keyword.ne_nil keyword.not_isSeparator)⟩
  | @real v gap w spelt some_ separates keyword =>
      refine ⟨w, keyword, .inr ⟨v, spelt, ?_⟩⟩
      have letters : ∀ c ∈ v, isSeparator c = false := fun c inside =>
        not_isSeparator_of_isNameChar (spelt.nameChars (by decide) c inside)
      have nonempty : v ≠ [] := by
        rintro rfl
        cases spelt
      have first : ∀ c ∈ (gap ++ w).head?, isSeparator c = true := by
        intro c first
        rw [List.head?_append_of_ne_nil _ some_] at first
        exact separates c (List.mem_of_mem_head? first)
      rw [cutsAt_nameWords.append_of_head? first, cutsAt_nameWords.append_left separates,
        nameWords_of_ne_nil nonempty letters, nameWords_of_ne_nil keyword.ne_nil keyword.not_isSeparator]
      rfl

theorem areMarkers_nameWords {m : List Char} (marker : Marker e m) :
    areMarkers false (nameWords m) = true ∧ editions (nameWords m) = [e] := by
  obtain ⟨w, keyword, alone | ⟨v, spelt, both⟩⟩ := marker.nameWords_cases
  · have next : nextPending? false w = some false := nextPending?_eq_some_iff.2 (.inr ⟨rfl, e, keyword⟩)
    rw [alone]
    exact ⟨areMarkers_cons_iff.2 ⟨false, next, rfl⟩, editions_of_keyword keyword⟩
  · have first : nextPending? false v = some true := nextPending?_eq_some_iff.2 (.inl ⟨rfl, rfl, spelt⟩)
    have next : nextPending? true w = some false := nextPending?_eq_some_iff.2 (.inr ⟨rfl, e, keyword⟩)
    rw [both]
    refine ⟨areMarkers_cons_iff.2 ⟨true, first, areMarkers_cons_iff.2 ⟨false, next, rfl⟩⟩, ?_⟩
    rw [← List.singleton_append, editions_append, editions_of_real spelt, editions_of_keyword keyword]
    rfl

/-- A marker starts with a letter. -/
theorem exists_cons {m : List Char} (marker : Marker e m) : ∃ c r, m = c :: r ∧ isSeparator c = false := by
  cases marker with
  | plain keyword =>
      obtain ⟨c, r, rfl⟩ := List.exists_cons_of_ne_nil keyword.ne_nil
      exact ⟨c, r, rfl, keyword.not_isSeparator c List.mem_cons_self⟩
  | real spelt some_ separates keyword =>
      cases spelt with
      | cons same _ =>
          exact ⟨_, _, rfl, not_isSeparator_of_isNameChar (isNameChar_of_sameLetter (by decide) same)⟩

end Marker

theorem Tail.head? {r : List Char} (tail : Tail es r) : ∀ c ∈ r.head?, isSeparator c = true := by
  intro c first
  cases tail with
  | gap separates => exact separates c (List.mem_of_mem_head? first)
  | more some_ separates marker tail =>
      rw [List.head?_append_of_ne_nil _ some_] at first
      exact separates c (List.mem_of_mem_head? first)

/-- The words of the markers behind the first are markers. -/
theorem Tail.areMarkers_nameWords {r : List Char} (tail : Tail es r) :
    areMarkers false (nameWords r) = true ∧ editions (nameWords r) = es := by
  induction tail with
  | gap separates =>
      rw [cutsAt_nameWords.of_all separates]
      exact ⟨rfl, rfl⟩
  | more some_ separates marker tail ih =>
      obtain ⟨marks, named⟩ := marker.areMarkers_nameWords
      rw [cutsAt_nameWords.append_left separates, cutsAt_nameWords.append_of_head? tail.head?,
        areMarkers_append _ marks, editions_append, named]
      exact ⟨ih.1, congrArg _ ih.2⟩

theorem isRun_of_runOf (run : RunOf es cs) : isRun cs = true ∧ editions (nameWords cs) = es := by
  obtain ⟨marker, tail⟩ := run
  obtain ⟨marks, named⟩ := marker.areMarkers_nameWords
  obtain ⟨marksToo, namedToo⟩ := tail.areMarkers_nameWords
  obtain ⟨c, r, rfl, letter⟩ := marker.exists_cons
  rw [isRun_iff, cutsAt_nameWords.append_of_head? tail.head?, areMarkers_append _ marks, editions_append,
    named, namedToo]
  refine ⟨⟨?_, marksToo⟩, rfl⟩
  simp [letter]

/-- The first word of a name, the gap in front of it and what follows it. -/
theorem of_nameWords_eq_cons {ws : List (List Char)} (wordsAre : nameWords cs = w :: ws) :
    ∃ before after, cs = before ++ (w ++ after) ∧ IsGap before ∧ nameWords after = ws ∧
      ∀ c ∈ after.head?, isSeparator c = true := by
  obtain ⟨before, after, split, front, rest, next⟩ := of_runs_eq_cons wordsAre
  refine ⟨before, after, split, fun c inside => ?_, rest, fun c first => ?_⟩
  · simpa using front c inside
  · simpa using next c first

/-- The first of words that are markers is a keyword, or a `real` with its keyword behind it. -/
theorem of_areMarkers_cons {ws : List (List Char)} (marks : areMarkers false (w :: ws) = true) :
    (∃ e, Keyword e w ∧ areMarkers false ws = true) ∨
      ∃ e v vs, Spells realWord w ∧ ws = v :: vs ∧ Keyword e v ∧ areMarkers false vs = true := by
  obtain ⟨next, found, later⟩ := areMarkers_cons_iff.1 marks
  rcases nextPending?_eq_some_iff.1 found with ⟨-, rfl, spelt⟩ | ⟨rfl, e, keyword⟩
  · cases ws with
    | nil => cases later
    | cons v vs =>
        obtain ⟨last, found, later⟩ := areMarkers_cons_iff.1 later
        rcases nextPending?_eq_some_iff.1 found with ⟨pending, -⟩ | ⟨rfl, e, keyword⟩
        · cases pending
        · exact .inr ⟨e, v, vs, spelt, rfl, keyword, later⟩
  · exact .inl ⟨e, keyword, later⟩

/-- Words that are markers start with a marker. -/
theorem exists_marker {ws : List (List Char)} (wordsAre : nameWords cs = ws) (some_ : ws ≠ [])
    (marks : areMarkers false ws = true) :
    ∃ before e m after, cs = before ++ (m ++ after) ∧ IsGap before ∧ Marker e m ∧
      (∀ c ∈ after.head?, isSeparator c = true) ∧ areMarkers false (nameWords after) = true ∧
      (nameWords after).length < ws.length := by
  obtain ⟨w, ws, rfl⟩ := List.exists_cons_of_ne_nil some_
  obtain ⟨before, after, rfl, gap, rest, next⟩ := of_nameWords_eq_cons wordsAre
  rcases of_areMarkers_cons marks with ⟨e, keyword, more⟩ | ⟨e, v, vs, spelt, rfl, keyword, more⟩
  · refine ⟨before, e, w, after, rfl, gap, .plain keyword, next, ?_, ?_⟩
    · rwa [rest]
    · rw [rest, List.length_cons]
      omega
  · obtain ⟨gap', after', rfl, separates, rest', next'⟩ := of_nameWords_eq_cons rest
    have someGap : gap' ≠ [] := by
      rintro rfl
      obtain ⟨c, r, rfl⟩ := List.exists_cons_of_ne_nil keyword.ne_nil
      have letter := keyword.not_isSeparator c List.mem_cons_self
      rw [next c rfl] at letter
      cases letter
    refine ⟨before, e, w ++ (gap' ++ v), after', by simp, gap, .real spelt someGap separates keyword, next',
      ?_, ?_⟩
    · rwa [rest']
    · rw [rest', List.length_cons, List.length_cons]
      omega

/-- A text behind a marker is the tail of a run if its words are markers. -/
theorem exists_tail (separates : ∀ c ∈ cs.head?, isSeparator c = true)
    (marks : areMarkers false (nameWords cs) = true) : ∃ es, Tail es cs := by
  generalize count : (nameWords cs).length = n
  induction n using Nat.strongRecOn generalizing cs with
  | ind n ih =>
    by_cases none : nameWords cs = []
    · exact ⟨[], .gap fun c inside => by simpa using runs_eq_nil_iff.1 none c inside⟩
    · obtain ⟨before, e, m, after, rfl, gap, marker, next, more, fewer⟩ := exists_marker rfl none marks
      obtain ⟨es, tail⟩ := ih _ (count ▸ fewer) next more rfl
      refine ⟨e :: es, .more ?_ gap marker tail⟩
      rintro rfl
      obtain ⟨c, r, rfl, letter⟩ := marker.exists_cons
      rw [separates c rfl] at letter
      cases letter

theorem exists_runOf_iff : (∃ es, RunOf es cs) ↔ isRun cs = true := by
  constructor
  · rintro ⟨es, run⟩
    exact (isRun_of_runOf run).1
  · intro run
    obtain ⟨starts, marks⟩ := (isRun_iff cs).1 run
    have some_ : nameWords cs ≠ [] := by
      cases cs with
      | nil => cases starts
      | cons c r => exact runs_cons_ne_nil starts r
    obtain ⟨before, e, m, after, rfl, gap, marker, next, more, -⟩ := exists_marker rfl some_ marks
    -- the text starts with a letter, so that no gap stands in front of the marker
    obtain rfl : before = [] := by
      cases before with
      | nil => rfl
      | cons c r =>
          have letter : (!isSeparator c) = true := starts
          rw [gap c List.mem_cons_self] at letter
          cases letter
    obtain ⟨es, tail⟩ := exists_tail next more
    have run : RunOf (e :: es) (m ++ after) := .intro marker tail
    exact ⟨e :: es, run⟩

/-- The scanner accepts the runs of the grammar, and reads the editions of their markers. -/
theorem runOf_iff : RunOf es cs ↔ isRun cs = true ∧ editions (nameWords cs) = es := by
  constructor
  · exact isRun_of_runOf
  · rintro ⟨run, rfl⟩
    obtain ⟨es, run⟩ := exists_runOf_iff.2 run
    rwa [(isRun_of_runOf run).2]

/-! ## Markers anywhere in a text -/

/-- The text is nothing, or starts with neither a letter nor a digit. -/
def StartsApart (cs : List Char) : Prop := ∀ c ∈ cs.head?, isNameChar c = false

/-- The letters and digits that open a text are the same however it is split in front of another
character. -/
theorem eq_of_append_eq {v v' r r' : List Char} (letters : ∀ c ∈ v, isNameChar c = true)
    (letters' : ∀ c ∈ v', isNameChar c = true) (next : StartsApart r) (next' : StartsApart r')
    (same : v ++ r = v' ++ r') : v = v' := by
  have opening {v r : List Char} (letters : ∀ c ∈ v, isNameChar c = true) (next : StartsApart r) :
      (v ++ r).takeWhile isNameChar = v := by
    rw [List.takeWhile_append_of_pos letters]
    cases r with
    | nil => simp
    | cons c r => rw [List.takeWhile_cons_of_neg (by simp [next c rfl]), List.append_nil]
  rw [← opening letters next, same, opening letters' next']

/-- A marker opens letters and digits, if they end where the text goes on otherwise, exactly if they
are its keyword: a digit that ends one is either among them or cannot be told from none. -/
theorem opens_iff {v r : List Char} (letters : ∀ c ∈ v, isNameChar c = true) (next : StartsApart r) :
    opens e (v ++ r) = true ↔ Keyword e v := by
  have apart : ∀ r : List Char, (!r.head?.any isNameChar) = true ↔ StartsApart r := by
    intro r
    cases r with
    | nil => simp [StartsApart]
    | cons c r => simp [StartsApart]
  rw [opens, List.any_eq_true]
  constructor
  · rintro ⟨rest, read, ends⟩
    obtain ⟨w, keyword, same⟩ := mem_afterMarker_iff.1 read
    have next' := (apart rest).1 ends
    rcases keyword.cases_nameChars with letters' | ⟨u, d, rfl, shorter, letters', other, -⟩
    · rwa [eq_of_append_eq letters letters' next next' same]
    · have next' : StartsApart (d :: rest) := by
        rintro c first
        rwa [← Option.some.inj first]
      rw [List.append_assoc, List.singleton_append] at same
      rwa [eq_of_append_eq letters letters' next next' same]
  · intro keyword
    exact ⟨r, mem_afterMarker_iff.2 ⟨v, keyword, rfl⟩, (apart r).2 next⟩

/-- Nothing that is neither a letter nor a digit opens a marker. -/
theorem mentionsFrom_of_startsApart (inside : Bool) {r : List Char} (next : StartsApart r) :
    mentionsFrom e inside r = mentions e r := by
  cases r with
  | nil => rfl
  | cons c r =>
      have shut : opens e (c :: r) = false := by
        by_contra opened
        have keyword := (opens_iff (v := []) (by simp) next).1 (Bool.not_eq_false _ ▸ opened)
        exact keyword.ne_nil rfl
      rw [mentions, mentionsFrom, mentionsFrom, shut, Bool.and_false, Bool.and_false]

/-- No marker starts among letters and digits behind another. -/
theorem mentionsFrom_append_of_nameChars {v r : List Char} (letters : ∀ c ∈ v, isNameChar c = true) :
    mentionsFrom e true (v ++ r) = mentionsFrom e true r := by
  induction v with
  | nil => rfl
  | cons c v ih =>
      rw [List.cons_append, mentionsFrom, letters c List.mem_cons_self,
        ih fun d inside => letters d (List.mem_cons_of_mem _ inside)]
      rfl

/-- Nothing in front of a text but characters that are neither letters nor digits changes what it
mentions. -/
theorem mentions_append_of_apart {before r : List Char} (apart : ∀ c ∈ before, isNameChar c = false) :
    mentions e (before ++ r) = mentions e r := by
  induction before with
  | nil => rfl
  | cons c before ih =>
      have here : isNameChar c = false := apart c List.mem_cons_self
      have next : StartsApart (c :: (before ++ r)) := by
        rintro d first
        obtain rfl := Option.some.inj first
        exact here
      rw [List.cons_append, ← mentionsFrom_of_startsApart true next, mentionsFrom, here]
      exact ih fun d inside => apart d (List.mem_cons_of_mem _ inside)

/-- A marker of the edition stands in a text exactly if one of the words of its letters and digits
is a keyword. -/
theorem mentions_iff : mentions e cs = true ↔ ∃ w ∈ runs isNameChar cs, Keyword e w := by
  generalize wordsAre : runs isNameChar cs = ws
  induction ws generalizing cs with
  | nil =>
      have apart := runs_eq_nil_iff.1 wordsAre
      have none := mentions_append_of_apart (e := e) (r := []) apart
      rw [List.append_nil] at none
      rw [none]
      simp [mentions, mentionsFrom]
  | cons w ws ih =>
      obtain ⟨some_, letters⟩ := of_mem_runs (wordsAre ▸ List.mem_cons_self : w ∈ runs isNameChar cs)
      obtain ⟨before, after, rfl, front, rest, next⟩ := of_runs_eq_cons wordsAre
      obtain ⟨c, v, rfl⟩ := List.exists_cons_of_ne_nil some_
      have step : mentions e (c :: v ++ after) = (opens e (c :: v ++ after) || mentions e after) := by
        have inner : ∀ d ∈ v, isNameChar d = true := fun d inside => letters d (List.mem_cons_of_mem _ inside)
        rw [mentions, List.cons_append, mentionsFrom, letters c List.mem_cons_self,
          mentionsFrom_append_of_nameChars inner, mentionsFrom_of_startsApart true next]
        rfl
      rw [mentions_append_of_apart front, step, Bool.or_eq_true, opens_iff letters next, ih rest]
      simp

theorem mentions_append {r : List Char} (next : StartsApart r) :
    mentions e (cs ++ r) = true ↔ mentions e cs = true ∨ mentions e r = true := by
  rw [mentions_iff, mentions_iff, mentions_iff, (cutsAt_runs isNameChar).append_of_head? next]
  simp only [List.mem_append, or_and_right, exists_or]

/-! ## What a run mentions -/

/-- Letters and digits mention an edition as a whole or not at all. -/
theorem mentions_of_nameChars (letters : ∀ c ∈ w, isNameChar c = true) (some_ : w ≠ []) :
    mentions e w = true ↔ Keyword e w := by
  rw [mentions_iff, runs_of_all some_ letters]
  simp

theorem Keyword.mentions_iff {e' : Edition} (keyword : Keyword e' w) : mentions e w = true ↔ e = e' := by
  have same {v : List Char} (named : Keyword e' v) : Keyword e v ↔ e = e' :=
    ⟨fun other => other.unique named, fun equal => equal ▸ named⟩
  rcases keyword.cases_nameChars with letters | ⟨v, d, rfl, shorter, letters, other, -⟩
  · rw [mentions_of_nameChars letters keyword.ne_nil, same keyword]
  · have apart : ∀ c ∈ [d], isNameChar c = false := by simpa using other
    have none : mentions e [d] = false := mentions_append_of_apart (r := []) apart
    rw [mentions_append fun c first => apart c (List.mem_of_mem_head? first),
      mentions_of_nameChars letters shorter.ne_nil, same shorter, none]
    simp

/-- A gap with a text behind it mentions what the text does, and ends letters and digits. -/
theorem IsGap.mentions_append {s r : List Char} (gap : IsGap s) : mentions e (s ++ r) = mentions e r :=
  mentions_append_of_apart fun c inside => isNameChar_of_isSeparator (gap c inside)

theorem startsApart_of_isSeparator {r : List Char} (next : ∀ c ∈ r.head?, isSeparator c = true) :
    StartsApart r :=
  fun c first => isNameChar_of_isSeparator (next c first)

theorem Marker.mentions_iff {e' : Edition} {m : List Char} (marker : Marker e' m) :
    mentions e m = true ↔ e = e' := by
  cases marker with
  | plain keyword => exact keyword.mentions_iff
  | @real v gap w spelt some_ separates keyword =>
      have next : StartsApart (gap ++ w) := by
        intro c first
        rw [List.head?_append_of_ne_nil _ some_] at first
        exact isNameChar_of_isSeparator (separates c (List.mem_of_mem_head? first))
      have nonempty : v ≠ [] := by
        rintro rfl
        cases spelt
      have none : ¬ Keyword e v := fun named => named.not_spells_real spelt
      rw [mentions_append next, separates.mentions_append, keyword.mentions_iff,
        mentions_of_nameChars (spelt.nameChars (by decide)) nonempty]
      simp [none]

theorem Tail.mentions_iff {r : List Char} (tail : Tail es r) : mentions e r = true ↔ e ∈ es := by
  induction tail with
  | @gap s separates =>
      have none := separates.mentions_append (e := e) (r := [])
      rw [List.append_nil] at none
      rw [none]
      simp [mentions, mentionsFrom]
  | more some_ separates marker tail ih =>
      rw [separates.mentions_append, mentions_append (startsApart_of_isSeparator tail.head?),
        marker.mentions_iff, ih, List.mem_cons]

theorem RunOf.editions_ne_nil (run : RunOf es cs) : es ≠ [] := by
  cases run
  simp

/-- A run mentions the editions of its markers. -/
theorem RunOf.mentions_iff (run : RunOf es cs) : mentions e cs = true ↔ e ∈ es := by
  obtain ⟨marker, tail⟩ := run
  rw [mentions_append (startsApart_of_isSeparator tail.head?), marker.mentions_iff, tail.mentions_iff,
    List.mem_cons]

/-! ## The run that is cut off -/

/-- A text announces an edition exactly if a run of markers ends it. -/
theorem exists_announces_iff (cs : List Char) : (∃ e, announces e cs = true) ↔ trailingRun cs ≠ [] := by
  constructor
  · rintro ⟨e, announced⟩ none
    rw [announces, none] at announced
    cases announced
  · intro found
    have run := runOf_iff.2 ⟨isRun_trailingRun found, rfl⟩
    obtain ⟨e, named⟩ := List.exists_mem_of_ne_nil _ run.editions_ne_nil
    exact ⟨e, run.mentions_iff.2 named⟩

/-- No run that ends a text is longer than the one that is cut off. -/
theorem Closes.length_le {run : List Char} (closes : Closes cs es run) :
    run.length ≤ (trailingRun cs).length := by
  obtain ⟨before, rfl, apart, marks⟩ := closes
  have cut : (splitRun (before ++ run)).1.length ≤ before.length :=
    length_splitRunFrom_le (runOf_iff.1 marks).1 apart fun _ => rfl
  have whole := congrArg List.length (splitRun_append (before ++ run))
  rw [List.length_append, List.length_append] at whole
  omega

theorem closes_trailingRun (found : trailingRun cs ≠ []) :
    Closes cs (editions (nameWords (trailingRun cs))) (trailingRun cs) :=
  ⟨(splitRun cs).1, splitRun_append cs, endsApart_splitRun found,
    runOf_iff.2 ⟨isRun_trailingRun found, rfl⟩⟩

/-- A string announces neither edition exactly if no run of markers ends it. -/
theorem trailingText_eq_empty_iff (s : String) :
    trailingText s = "" ↔ announcedBy .proper s = false ∧ announcedBy .repack s = false := by
  have ends : trailingText s = "" ↔ trailingRun s.toList = [] := by
    rw [trailingText, String.ofList_eq_empty_iff]
  rw [ends, ← not_iff_not, ← ne_eq, ← exists_announces_iff]
  constructor
  · rintro ⟨_ | _, announced⟩ ⟨proper, repack⟩
    · exact Bool.false_ne_true (proper.symm.trans announced)
    · exact Bool.false_ne_true (repack.symm.trans announced)
  · intro either
    by_contra none
    exact either ⟨Bool.eq_false_iff.2 fun proper => none ⟨_, proper⟩,
      Bool.eq_false_iff.2 fun repack => none ⟨_, repack⟩⟩

/-- What is cut off a string is the longest run of the grammar that ends it and starts at its
beginning or directly after a separator, or nothing if there is none.  The string announces the
editions of the markers of that run, at least one, and no other; stripping it takes away that run
and tidies what is left. -/
theorem trailingText_longest (s : String) :
    (trailingText s = "" ∧ (∀ es run, ¬ Closes s.toList es run) ∧ (∀ e, announcedBy e s = false) ∨
      ∃ es, Closes s.toList es (trailingText s).toList ∧
        (∀ es' run, Closes s.toList es' run → run.length ≤ (trailingText s).toList.length) ∧
        (∀ es', RunOf es' (trailingText s).toList → es' = es) ∧
        (∀ e, announcedBy e s = true ↔ e ∈ es) ∧
        (announcedBy .proper s = true ∨ announcedBy .repack s = true)) ∧
      ∃ before : String, before ++ trailingText s = s ∧
        stripText s = String.ofList (trim isEdge (collapseBlanks before.toList)) := by
  refine ⟨?_, String.ofList (splitRun s.toList).1, ?_, ?_⟩
  · by_cases found : trailingRun s.toList = []
    · have empty : trailingText s = "" := by rw [trailingText, found]
      refine .inl ⟨empty, ?_, ?_⟩
      · intro es run closes
        have short := closes.length_le
        rw [found] at short
        obtain rfl : run = [] := List.eq_nil_of_length_eq_zero (Nat.le_zero.1 short)
        obtain ⟨-, -, -, marks⟩ := closes
        exact absurd (runOf_iff.1 marks).1 Bool.false_ne_true
      · obtain ⟨proper, repack⟩ := (trailingText_eq_empty_iff s).1 empty
        rintro (_ | _)
        · exact proper
        · exact repack
    · have run := runOf_iff.2 ⟨isRun_trailingRun found, rfl⟩
      have announced : ∀ e, announcedBy e s = true ↔ e ∈ _ := fun e => run.mentions_iff
      rw [trailingText, String.toList_ofList]
      refine .inr ⟨_, closes_trailingRun found, fun es' run => Closes.length_le, fun es' other => ?_,
        announced, ?_⟩
      · exact (runOf_iff.1 other).2.symm
      · obtain ⟨e, named⟩ := List.exists_mem_of_ne_nil _ run.editions_ne_nil
        have first := (announced e).2 named
        cases e with
        | proper => exact .inl first
        | repack => exact .inr first
  · rw [trailingText, ← String.ofList_append, splitRun_append, String.ofList_toList]
  · rw [stripText, String.toList_ofList]
    rfl

/-- A name that ends with three markers, one of them behind a `real` in capitals. -/
example : trailingText "The Proper Way-REAL.PROPER repack2_Rerip_" = "REAL.PROPER repack2_Rerip_" := by
  decide +kernel

end Edition

end ReleaseHistory
