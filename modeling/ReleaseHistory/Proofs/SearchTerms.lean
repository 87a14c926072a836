/-
# ReleaseHistory.Proofs.SearchTerms -- terms stand for themselves

A pattern is a list of items, and a text matches it if it can be cut into parts that match the
items one after the other (`Matches`).  An escaped term gives one item for each of its characters
(`patternItems_escapeTerm`): no wildcard and no backslash of the term is read as one.  Between two
wildcards it matches the texts that contain the term (`matches_between_iff`), and behind one
wildcard those that end with it (`matches_behind_iff`).

Before a text is compared it is read in its own way (`comparable`): in lower case, up to its first
NUL, with two noncharacters replaced.  Characters that are special in a pattern stay as they are
and no other becomes one, so that an escaped term is read as the term, escaped
(`comparable_termPattern`).  If the term has a NUL, the wildcard behind it is lost, and it is found
at the end of names only.

A query selects a release by its search terms and, apart from them, by its other conditions
(`selects_by_terms`).
-/
import ReleaseHistory.Proofs.CanonicalWords
import ReleaseHistory.Proofs.Paging

namespace ReleaseHistory

set_option autoImplicit false

namespace Search

open Text

variable {cs t : List Char} {items : List PatternItem}

/-! ## Patterns -/

/-- The whole text matches the pattern. -/
def Matches (text pattern : List Char) : Prop :=
  ∃ items, patternItems pattern = some items ∧ itemsMatch items text = true

theorem isLike_iff (text pattern : List Char) :
    isLike text pattern = true ↔ Matches (comparable text) (comparable pattern) := by
  rw [isLike, Option.any_eq_true]
  rfl

/-- The character has a meaning of its own in patterns. -/
def isSpecial (c : Char) : Bool := c == '\\' || c == '%' || c == '_'

/-- A character of a term, escaped, stands for itself. -/
theorem patternItems_escapeChar (c : Char) (rest : List Char) :
    patternItems (escapeChar c ++ rest) = (patternItems rest).map (.char c :: ·) := by
  rw [escapeChar]
  split
  · rw [List.cons_append, List.singleton_append, patternItems]
  · rename_i plain
    simp only [Bool.or_eq_true, beq_iff_eq, not_or] at plain
    rw [List.singleton_append, patternItems]
    all_goals simp_all

/-- A term, escaped, stands for itself whatever comes behind it. -/
theorem patternItems_escapeTerm (t rest : List Char) :
    patternItems (escapeTerm t ++ rest) = (patternItems rest).map (t.map .char ++ ·) := by
  induction t with
  | nil => simp [escapeTerm]
  | cons c t ih =>
      rw [escapeTerm, List.flatMap_cons, List.append_assoc, patternItems_escapeChar]
      rw [escapeTerm] at ih
      rw [ih, Option.map_map]
      rfl

theorem mem_endings_iff {ending : List Char} : ending ∈ endings cs ↔ ending <:+ cs := by
  induction cs with
  | nil => simp [endings]
  | cons c r ih => rw [endings, List.mem_cons, ih, List.suffix_cons_iff]

theorem itemsMatch_anyText_iff :
    itemsMatch (.anyText :: items) cs = true ↔ ∃ ending, ending <:+ cs ∧ itemsMatch items ending = true := by
  rw [itemsMatch, List.any_eq_true]
  simp only [mem_endings_iff]

theorem itemsMatch_char_iff :
    itemsMatch (t.map .char ++ items) cs = true ↔ ∃ rest, cs = t ++ rest ∧ itemsMatch items rest = true := by
  induction t generalizing cs with
  | nil => simp
  | cons p t ih =>
      cases cs with
      | nil => simp [itemsMatch]
      | cons c r =>
          rw [List.map_cons, List.cons_append, itemsMatch, Bool.and_eq_true, beq_iff_eq, ih]
          constructor
          · rintro ⟨rfl, rest, rfl, matched⟩
            exact ⟨rest, rfl, matched⟩
          · rintro ⟨rest, split, matched⟩
            obtain ⟨rfl, rfl⟩ := List.cons.inj split
            exact ⟨rfl, rest, rfl, matched⟩

/-- Between two wildcards a term matches the texts that contain it. -/
theorem matches_between_iff (t text : List Char) :
    Matches text ('%' :: escapeTerm t ++ ['%']) ↔ t <:+: text := by
  have read : patternItems ('%' :: escapeTerm t ++ ['%']) =
      some (.anyText :: (t.map .char ++ [.anyText])) := by
    rw [List.cons_append, patternItems, patternItems_escapeTerm]
    rfl
  rw [Matches, read]
  simp only [Option.some_inj, exists_eq_left', itemsMatch_anyText_iff, itemsMatch_char_iff]
  constructor
  · rintro ⟨ending, ⟨before, rfl⟩, rest, rfl, -⟩
    exact ⟨before, rest, by simp⟩
  · rintro ⟨before, rest, rfl⟩
    exact ⟨t ++ rest, ⟨before, by simp⟩, rest, rfl, [], List.nil_suffix, rfl⟩

/-- Behind a wildcard a term matches the texts that end with it. -/
theorem matches_behind_iff (t text : List Char) : Matches text ('%' :: escapeTerm t) ↔ t <:+ text := by
  have read : patternItems ('%' :: escapeTerm t) = some (.anyText :: (t.map .char ++ [])) := by
    have whole := patternItems_escapeTerm t []
    rw [List.append_nil] at whole
    rw [patternItems, whole]
    rfl
  rw [Matches, read]
  simp only [Option.some_inj, exists_eq_left', itemsMatch_anyText_iff, itemsMatch_char_iff]
  constructor
  · rintro ⟨ending, ended, rest, rfl, nothing⟩
    obtain rfl : rest = [] := by simpa [itemsMatch] using nothing
    rwa [List.append_nil] at ended
  · intro ended
    exact ⟨t, ended, [], by simp, rfl⟩

/-! ## How texts are read -/

/-- A character as it is compared. -/
def readChar (c : Char) : Char := replaceNoncharacter c.toLower

theorem toLower_of_not_ascii {c : Char} (beyond : ¬ c.toNat < 128) : c.toLower = c := by
  refine dif_neg fun capital => beyond ?_
  have last : c.val.toNat ≤ 90 := UInt32.le_iff_toNat_le.1 capital.2
  have number : c.toNat = c.val.toNat := rfl
  omega

theorem toLower_eq_nul_iff (c : Char) : c.toLower = '\x00' ↔ c = '\x00' := by
  by_cases ascii : c.toNat < 128
  · exact of_ascii (P := fun c => c.toLower = '\x00' ↔ c = '\x00') (by decide +kernel) ascii
  · rw [toLower_of_not_ascii ascii]

theorem isSpecial_toLower (c : Char) : isSpecial c.toLower = isSpecial c := by
  by_cases ascii : c.toNat < 128
  · exact of_ascii (P := fun c => isSpecial c.toLower = isSpecial c) (by decide +kernel) ascii
  · rw [toLower_of_not_ascii ascii]

theorem isSpecial_replaceNoncharacter (c : Char) : isSpecial (replaceNoncharacter c) = isSpecial c := by
  rw [replaceNoncharacter]
  split
  · rename_i either
    have either : c = '\uFFFE' ∨ c = '\uFFFF' := by simpa using either
    rcases either with rfl | rfl <;> rfl
  · rfl

/-- Characters that are special stay special, and no other becomes so: an escaped term is changed as
the term is. -/
theorem map_escapeTerm {f : Char → Char} (special : ∀ c, isSpecial (f c) = isSpecial c)
    (escape : f '\\' = '\\') (t : List Char) : (escapeTerm t).map f = escapeTerm (t.map f) := by
  have each (c : Char) : (escapeChar c).map f = escapeChar (f c) := by
    show (if isSpecial c = true then ['\\', c] else [c]).map f =
      if isSpecial (f c) = true then ['\\', f c] else [f c]
    rw [special]
    split
    · rw [List.map_cons, List.map_singleton, escape]
    · rfl
  rw [escapeTerm, escapeTerm, List.map_flatMap, List.flatMap_map]
  simp only [each]

theorem map_readChar_escapeTerm (t : List Char) :
    (escapeTerm t).map readChar = escapeTerm (t.map readChar) :=
  map_escapeTerm (fun c => (isSpecial_replaceNoncharacter c.toLower).trans (isSpecial_toLower c)) rfl t

theorem lowerAscii_termPattern (term : String) :
    lowerAscii (termPattern term) = '%' :: escapeTerm (lowerAscii term.toList) ++ ['%'] := by
  have lowered := map_escapeTerm isSpecial_toLower rfl term.toList
  rw [lowerAscii, termPattern, List.map_append, List.map_cons, lowered]
  rfl

theorem comparable_eq (cs : List Char) : comparable cs = (cs.takeWhile (· ≠ '\x00')).map readChar := by
  have same : (fun c : Char => decide (c ≠ '\x00')) ∘ Char.toLower = fun c => decide (c ≠ '\x00') := by
    funext c
    simp [toLower_eq_nul_iff]
  rw [comparable, lowerAscii, List.takeWhile_map, same, List.map_map]
  rfl

theorem forall_ne_nul (free : '\x00' ∉ cs) : ∀ c ∈ cs, decide (c ≠ '\x00') = true :=
  fun _ inside => decide_eq_true fun nul => free (nul ▸ inside)

theorem nul_not_mem_escapeTerm (free : '\x00' ∉ t) : '\x00' ∉ escapeTerm t := by
  intro inside
  obtain ⟨d, held, inside⟩ := List.mem_flatMap.1 inside
  rw [escapeChar] at inside
  split at inside
  · have same : '\x00' = d := by simpa using inside
    exact free (same ▸ held)
  · exact free (List.mem_singleton.1 inside ▸ held)

/-- The pattern for a term is read as the pattern for the term as it is read, but a NUL takes away
the wildcard behind it. -/
theorem comparable_termPattern (t : List Char) :
    comparable ('%' :: escapeTerm t ++ ['%']) =
      '%' :: escapeTerm (comparable t) ++ (if '\x00' ∈ t then [] else ['%']) := by
  have kept {u : List Char} (free : '\x00' ∉ u) (r : List Char) :
      (escapeTerm u ++ r).takeWhile (· ≠ '\x00') = escapeTerm u ++ r.takeWhile (· ≠ '\x00') :=
    List.takeWhile_append_of_pos (forall_ne_nul (nul_not_mem_escapeTerm free))
  rw [comparable_eq, comparable_eq, List.cons_append, List.takeWhile_cons_of_pos (by decide), List.map_cons]
  split
  · rename_i cut
    obtain ⟨u, v, rfl, free⟩ := List.eq_append_cons_of_mem cut
    have first : (u ++ '\x00' :: v).takeWhile (· ≠ '\x00') = u := by
      rw [List.takeWhile_append_of_pos (forall_ne_nul free)]
      simp
    have split : escapeTerm (u ++ '\x00' :: v) ++ ['%'] = escapeTerm u ++ '\x00' :: (escapeTerm v ++ ['%']) := by
      simp [escapeTerm, escapeChar]
    rw [split, kept free, first, ← map_readChar_escapeTerm]
    simp
    rfl
  · rename_i free
    rw [kept free, List.takeWhile_eq_self_iff.2 (forall_ne_nul free), List.map_append,
      map_readChar_escapeTerm]
    rfl

/-! ## Finding terms -/

/-- The term stands in the name, as both are compared; of a term with a NUL the part in front of it
ends the name. -/
def FoundIn (t name : List Char) : Prop :=
  if '\x00' ∈ t then comparable t <:+ comparable name else comparable t <:+: comparable name

theorem holdsTerm_iff (name term : String) : holdsTerm name term = true ↔ FoundIn term.toList name.toList := by
  rw [holdsTerm, isLike_iff, termPattern, comparable_termPattern, FoundIn]
  split
  · rw [List.append_nil, matches_behind_iff]
  · rw [matches_between_iff]

/-- The character is compared as it is, but for its case. -/
def IsPlain (c : Char) : Prop := c ≠ '\x00' ∧ c ≠ '\uFFFE' ∧ c ≠ '\uFFFF'

instance : DecidablePred IsPlain := fun _ => inferInstanceAs (Decidable (_ ∧ _))

theorem comparable_of_plain (plain : ∀ c ∈ cs, IsPlain c) : comparable cs = lowerAscii cs := by
  have whole : cs.takeWhile (· ≠ '\x00') = cs :=
    List.takeWhile_eq_self_iff.2 fun c inside => decide_eq_true (plain c inside).1
  rw [comparable_eq, whole, lowerAscii]
  refine List.map_congr_left fun c inside => ?_
  by_cases ascii : c.toNat < 128
  · exact of_ascii (P := fun c => readChar c = c.toLower) (by decide +kernel) ascii
  · obtain ⟨-, first, second⟩ := plain c inside
    rw [readChar, toLower_of_not_ascii ascii, replaceNoncharacter, if_neg (by simp [first, second])]

theorem foundIn_of_plain {name : List Char} (term : ∀ c ∈ t, IsPlain c) (plain : ∀ c ∈ name, IsPlain c) :
    FoundIn t name ↔ lowerAscii t <:+: lowerAscii name := by
  have free : '\x00' ∉ t := fun inside => (term _ inside).1 rfl
  rw [FoundIn, if_neg free, comparable_of_plain term, comparable_of_plain plain]

/-- A query selects a release by its terms and by its other conditions. -/
theorem selects_iff (q : Query) (ts : Tables) (row : Int × StoredRelease) :
    q.selects ts row = true ↔
      (∀ t ∈ words q.search.toList, FoundIn t row.2.torrentName.toList) ∧
        ({ q with search := "" } : Query).selects ts row = true := by
  have found : (∀ term ∈ terms q.search, holdsTerm row.2.torrentName term = true) ↔
      ∀ t ∈ words q.search.toList, FoundIn t row.2.torrentName.toList := by
    rw [terms, List.forall_mem_map]
    simp only [holdsTerm_iff, String.toList_ofList]
  rw [Query.selects_iff_matches, Query.selects_iff_matches, Query.Matches, Query.Matches, found]
  simp

/-- An escaped term between two wildcards matches the texts that contain it, in either case of the
letters of ASCII.  A query selects a release exactly if each word of its search is found in the
name and its other conditions hold; where neither search nor name has a NUL or one of the two
noncharacters, a word is found exactly if the name contains it, in either case. -/
theorem selects_by_terms :
    (∀ term name : String, Matches (lowerAscii name.toList) (lowerAscii (termPattern term)) ↔
      lowerAscii term.toList <:+: lowerAscii name.toList) ∧
    ∀ (q : Query) (ts : Tables) (row : Int × StoredRelease),
      (q.selects ts row = true ↔
        (∀ t ∈ words q.search.toList, FoundIn t row.2.torrentName.toList) ∧
          ({ q with search := "" } : Query).selects ts row = true) ∧
      ((∀ c ∈ q.search.toList, IsPlain c) → (∀ c ∈ row.2.torrentName.toList, IsPlain c) →
        (q.selects ts row = true ↔
          (∀ t ∈ words q.search.toList, lowerAscii t <:+: lowerAscii row.2.torrentName.toList) ∧
            ({ q with search := "" } : Query).selects ts row = true)) := by
  refine ⟨fun term name => ?_, fun q ts row => ⟨selects_iff q ts row, fun search name => ?_⟩⟩
  · rw [lowerAscii_termPattern, matches_between_iff]
  · rw [selects_iff]
    refine and_congr_left' (forall₂_congr fun t held => ?_)
    exact foundIn_of_plain (fun c inside => search c (mem_of_mem_runs held c inside)) name

/-- A percent sign, an underscore and a backslash are found where they stand in the name. -/
theorem selects_by_terms_special :
    let q : Query := { search := "50% A_b\\%" }
    let row : StoredRelease :=
      { torrentName := "Save.50%.a_B\\%", codecText := "[]", hdrText := "[]", audioText := "[]",
        tagsText := "[]", rejectionsText := "[]", protocolName := "torrent", implementationName := "irc",
        filterStatusName := "pending", normalizedTitle := "", timestamp := Call.inMay.clock }
    (∀ c ∈ q.search.toList, IsPlain c) ∧ (∀ c ∈ row.torrentName.toList, IsPlain c) ∧
      q.selects {} (1, row) = true := by
  intro q row
  have plain {s : String} (all : s.toList.all (fun c => decide (IsPlain c)) = true) : ∀ c ∈ s.toList, IsPlain c :=
    fun c inside => of_decide_eq_true (List.all_eq_true.1 all c inside)
  have search : ∀ c ∈ q.search.toList, IsPlain c := plain (by decide +kernel)
  have name : ∀ c ∈ row.torrentName.toList, IsPlain c := plain (by decide +kernel)
  have contained : ∀ t ∈ words q.search.toList, lowerAscii t <:+: lowerAscii row.torrentName.toList := by
    decide +kernel
  have others : ({ q with search := "" } : Query).selects {} (1, row) = true := by decide +kernel
  exact ⟨search, name, ((selects_by_terms.2 q {} (1, row)).2 search name).2 ⟨contained, others⟩⟩

/-- The name does not contain the replacement character, nor the `a` with a NUL behind it, and both
are found in it: a noncharacter is read as the first, and the second is read as an `a` that ends the
name. -/
theorem find_reads_names :
    let run : Run := [{ operation := .store { torrentName := "\uFFFEa", title := "A" }, call := .inMay }]
    let found (search : String) := (run.database.find {} .inMay { search }).1.toOption.map Page.totalCount
    ¬ lowerAscii "\uFFFD".toList <:+: lowerAscii "\uFFFEa".toList ∧ found "\uFFFD" = some 1 ∧
      ¬ lowerAscii "a\x00b".toList <:+: lowerAscii "\uFFFEa".toList ∧ found "a\x00b" = some 1 := by
  decide +kernel

end Search

end ReleaseHistory
