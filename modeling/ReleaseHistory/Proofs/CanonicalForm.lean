/-
# ReleaseHistory.Proofs.CanonicalForm -- which texts are canonical, and of what

`HasRuns p cs ws` says that the words `ws` are the longest stretches of a text whose characters
satisfy `p`, in their order.  Every text has exactly one such list of words, and `runs` finds it
(`hasRuns_iff`).

The canonical form of a text is therefore its folding with every stretch of other characters
replaced by one space and no space at the ends (`canonical_eq_strip`).  The values that it takes
are the texts of non-empty words of digits and lower-case letters with single spaces between them
(`IsCanonical`), and each of these is its own canonical form (`isCanonical_iff`).
-/
import ReleaseHistory.Proofs.CanonicalWords

namespace ReleaseHistory

set_option autoImplicit false

namespace Text

variable {p : Char → Bool} {cs : List Char} {ws : List (List Char)}

/-! ## The longest stretches of a text -/

/-- The words are the longest stretches of the text whose characters satisfy the condition. -/
inductive HasRuns (p : Char → Bool) : List Char → List (List Char) → Prop
  | gap {gap : List Char} (other : ∀ c ∈ gap, p c = false) : HasRuns p gap []
  | word {gap w rest : List Char} {ws : List (List Char)} (other : ∀ c ∈ gap, p c = false)
      (nonempty : w ≠ []) (held : ∀ c ∈ w, p c = true) (ended : ∀ c ∈ rest.head?, p c = false)
      (more : HasRuns p rest ws) : HasRuns p (gap ++ (w ++ rest)) (w :: ws)

theorem HasRuns.runs_eq (has : HasRuns p cs ws) : runs p cs = ws := by
  induction has with
  | gap other => exact (cutsAt_runs p).of_all other
  | word other nonempty held ended more ih =>
      rw [(cutsAt_runs p).append_left other, (cutsAt_runs p).append_of_head? ended,
        runs_of_all nonempty held, ih]
      rfl

theorem hasRuns_runs (p : Char → Bool) (cs : List Char) : HasRuns p cs (runs p cs) := by
  generalize wordsAre : runs p cs = ws
  induction ws generalizing cs with
  | nil => exact .gap (runs_eq_nil_iff.1 wordsAre)
  | cons w ws ih =>
      obtain ⟨nonempty, held⟩ := of_mem_runs (wordsAre ▸ List.mem_cons_self : w ∈ runs p cs)
      obtain ⟨before, after, rfl, other, later, ended⟩ := of_runs_eq_cons wordsAre
      exact .word other nonempty held ended (ih after later)

/-- A text has one list of runs. -/
theorem hasRuns_iff : HasRuns p cs ws ↔ runs p cs = ws :=
  ⟨HasRuns.runs_eq, fun same => same ▸ hasRuns_runs p cs⟩

/-! ## Words with single spaces between them -/

/-- No blanks stand before a text that does not start with one. -/
theorem eq_nil_of_blanks {before r : List Char} (blanks : ∀ c ∈ before, (!isBlank c) = false)
    (front : (before ++ r).head?.any isBlank = false) : before = [] := by
  cases before with
  | nil => rfl
  | cons c before =>
      have blank : isBlank c = true := by simpa using blanks c List.mem_cons_self
      rw [List.cons_append, List.head?_cons, Option.any_some, blank] at front
      cases front

/-- A text with single spaces and none at its ends is its words with spaces between them. -/
theorem eq_intercalate_words (collapsed : IsCollapsed cs) (front : cs.head?.any isBlank = false)
    (back : cs.getLast?.any isBlank = false) : cs = [' '].intercalate (words cs) := by
  generalize wordsAre : words cs = ws
  induction ws generalizing cs with
  | nil => exact eq_nil_of_blanks (r := []) (runs_eq_nil_iff.1 wordsAre) (by rwa [List.append_nil])
  | cons w ws ih =>
      obtain ⟨nonempty, -⟩ := of_mem_runs (wordsAre ▸ List.mem_cons_self : w ∈ words cs)
      obtain ⟨before, after, rfl, blanks, later, ended⟩ := of_runs_eq_cons wordsAre
      obtain rfl := eq_nil_of_blanks blanks front
      rw [List.nil_append] at collapsed back ⊢
      cases after with
      | nil =>
          obtain rfl : ws = [] := later.symm
          rw [List.append_nil, List.intercalate_singleton]
      | cons c r =>
          have blank : isBlank c = true := by simpa using ended c rfl
          have tail : IsCollapsed (c :: r) := by
            have standing : IsCollapsed (w ++ (c :: r ++ [])) := by rwa [List.append_nil]
            exact standing.of_append
          obtain ⟨rfl, alone⟩ := tail.1 blank
          -- A space at the end is not left, so that another word follows.
          have some_ : r ≠ [] := by
            rintro rfl
            rw [List.getLast?_append_of_ne_nil _ (List.cons_ne_nil _ _)] at back
            cases back
          have last : r.getLast?.any isBlank = false := by
            rwa [List.getLast?_append_of_ne_nil _ (List.cons_ne_nil _ _),
              List.getLast?_cons_of_ne_nil some_] at back
          have rest : words r = ws := by rwa [(cutsAt_runs _).cons (by simp [blank])] at later
          have split := ih tail.2 alone last rest
          cases ws with
          | nil =>
              rw [List.intercalate_nil] at split
              exact absurd split some_
          | cons v vs =>
              rw [List.intercalate_cons_cons, ← split, List.append_assoc]
              rfl

/-- Blanks collapsed and trimmed leave the words with spaces between them. -/
theorem trim_collapseBlanks (cs : List Char) :
    trim isBlank (collapseBlanks cs) = [' '].intercalate (words cs) := by
  have blanks : ∀ c, isBlank c = true → (fun c => !isBlank c) c = false := by simp
  have same : words (trim isBlank (collapseBlanks cs)) = words cs := by
    rw [words, (cutsAt_runs _).read_trim blanks, (cutsAt_runs _).read_collapseBlanks blanks]
    rfl
  rw [← same]
  refine eq_intercalate_words ?_ (head?_trim _ _) (getLast?_trim _ _)
  obtain ⟨before, after, split, -, -⟩ := exists_trim isBlank (collapseBlanks cs)
  exact IsCollapsed.of_append (split ▸ isCollapsed_collapseBlanks cs)

/-- Where spaces stand for the other characters, the pieces between blanks are those between the
other characters. -/
theorem pieces_map_space (letters : ∀ c, p c = true → isBlank c = false) (cs : List Char) :
    pieces (fun c => !isBlank c) (cs.map fun c => if p c then c else ' ') = pieces p cs := by
  induction cs with
  | nil => rfl
  | cons c r ih =>
      rw [List.map_cons, pieces, pieces, ih]
      by_cases held : p c = true
      · simp only [held, if_true, letters c held, Bool.not_false]
      · rw [if_neg held, if_neg held, if_neg (by decide)]

/-- Writing a space for every stretch of other characters, and none at the ends, leaves the runs with
spaces between them. -/
theorem trim_collapseBlanks_map (letters : ∀ c, p c = true → isBlank c = false) (cs : List Char) :
    trim isBlank (collapseBlanks (cs.map fun c => if p c then c else ' ')) =
      [' '].intercalate (runs p cs) := by
  rw [trim_collapseBlanks, words, runs, pieces_map_space letters]
  rfl

/-- The canonical form is the folding with a space for every stretch of other characters, and
without spaces at its ends. -/
theorem canonical_eq_strip (s : String) :
    canonical s = strip (String.ofList (collapseBlanks
      ((foldCase s.toList).map fun c => if isWordChar c then c else ' '))) := by
  rw [strip, String.toList_ofList, trim_collapseBlanks_map fun c => isBlank_of_isWordChar]
  rfl

/-! ## The values of the canonical form -/

/-- Words of digits and lower-case letters with single spaces between them; no words are the empty
text. -/
def IsCanonical (s : String) : Prop :=
  ∃ ws : List (List Char), (∀ w ∈ ws, w ≠ [] ∧ ∀ c ∈ w, isWordChar c = true) ∧
    s = String.ofList ([' '].intercalate ws)

theorem isCanonical_canonical (s : String) : IsCanonical (canonical s) :=
  ⟨canonicalWords s.toList, fun _ => of_mem_runs, rfl⟩

/-- Folding keeps a text whose characters are digits, lower-case letters and spaces. -/
theorem foldCase_eq_self (kept : ∀ c ∈ cs, c = ' ' ∨ isWordChar c = true) : foldCase cs = cs := by
  induction cs with
  | nil => rfl
  | cons c r ih =>
      have first : foldChar c = [c] := by
        rcases kept c List.mem_cons_self with rfl | letter
        · decide
        · exact foldChar_of_isWordChar letter
      rw [foldCase, List.flatMap_cons, first]
      exact congrArg (c :: ·) (ih fun d inside => kept d (List.mem_cons_of_mem _ inside))

theorem mem_intercalate_space {c : Char} (inside : c ∈ [' '].intercalate ws) :
    c = ' ' ∨ ∃ w ∈ ws, c ∈ w := by
  induction ws with
  | nil => cases inside
  | cons w ws ih =>
      cases ws with
      | nil =>
          rw [List.intercalate_singleton] at inside
          exact .inr ⟨w, List.mem_cons_self, inside⟩
      | cons v vs =>
          rw [List.intercalate_cons_cons, List.mem_append, List.mem_append, List.mem_singleton] at inside
          rcases inside with (here | space) | later
          · exact .inr ⟨w, List.mem_cons_self, here⟩
          · exact .inl space
          · rcases ih later with space | ⟨u, listed, here⟩
            · exact .inl space
            · exact .inr ⟨u, List.mem_cons_of_mem _ listed, here⟩

namespace IsCanonical

variable {s : String}

/-- A canonical text has digits, lower-case letters and spaces. -/
theorem chars (is : IsCanonical s) : ∀ c ∈ s.toList, c = ' ' ∨ isWordChar c = true := by
  obtain ⟨ws, letters, rfl⟩ := is
  rw [String.toList_ofList]
  intro c inside
  rcases mem_intercalate_space inside with space | ⟨w, listed, here⟩
  · exact .inl space
  · exact .inr ((letters w listed).2 c here)

theorem foldCase_eq (is : IsCanonical s) : foldCase s.toList = s.toList := foldCase_eq_self is.chars

/-- A canonical text is its own canonical form. -/
theorem canonical_eq (is : IsCanonical s) : canonical s = s := by
  obtain ⟨ws, letters, rfl⟩ := is
  have kept := foldCase_eq ⟨ws, letters, rfl⟩
  rw [String.toList_ofList] at kept
  rw [canonical, canonicalWords, String.toList_ofList, kept, runs_intercalate rfl letters]

end IsCanonical

/-- The canonical texts are those that are their own canonical form. -/
theorem isCanonical_iff {s : String} : IsCanonical s ↔ canonical s = s :=
  ⟨IsCanonical.canonical_eq, fun same => same ▸ isCanonical_canonical s⟩

instance (s : String) : Decidable (IsCanonical s) := decidable_of_iff _ isCanonical_iff.symm

/-- The canonical form of a text has the longest stretches of digits and lower-case letters of its
folding, with single spaces between them: it is the folding with a space for every stretch of other
characters, and without spaces at its ends.  The values of the canonical form are the texts of such
words; it keeps each of them, so that a second time changes nothing.  It is read apart at every
character of ASCII that is neither a letter nor a digit. -/
theorem canonical_by_runs :
    (∀ s : String, ∃ ws, (∀ vs, HasRuns isWordChar (foldCase s.toList) vs ↔ vs = ws) ∧
      canonical s = String.ofList ([' '].intercalate ws)) ∧
    (∀ s : String, canonical s = strip (String.ofList (collapseBlanks
      ((foldCase s.toList).map fun c => if isWordChar c then c else ' ')))) ∧
    (∀ s : String, IsCanonical s ↔ ∃ t, canonical t = s) ∧
    (∀ s : String, IsCanonical s → canonical s = s) ∧
    (∀ s : String, canonical (canonical s) = canonical s) ∧
    ∀ (a b : String) (c : Char), c.toNat < 128 → c.isAlphanum = false →
      words (canonical (a ++ String.singleton c ++ b)).toList =
        words (canonical a).toList ++ words (canonical b).toList := by
  refine ⟨fun s => ⟨canonicalWords s.toList, fun vs => ?_, rfl⟩, canonical_eq_strip, fun s => ?_,
    fun s is => is.canonical_eq, fun s => (isCanonical_canonical s).canonical_eq, ?_⟩
  · rw [hasRuns_iff, eq_comm]
    rfl
  · constructor
    · exact fun is => ⟨s, is.canonical_eq⟩
    · rintro ⟨t, rfl⟩
      exact isCanonical_canonical t
  · intro a b c ascii other
    rw [words_canonical, words_canonical, words_canonical, String.toList_append, String.toList_append,
      String.toList_singleton, List.append_assoc]
    exact cutsAt_canonicalWords.apart (endsWords_of_ascii ascii other) a.toList b.toList

/-- A ligature, a sharp s and the Kelvin sign fold to letters of ASCII; the hyphen parts two names. -/
theorem canonical_by_runs_hyphen :
    IsCanonical "final strasse" ∧ canonical "final strasse" = "final strasse" ∧
      '-'.toNat < 128 ∧ '-'.isAlphanum = false ∧
      words (canonical ("\uFB01nal Stra\u00DFe" ++ String.singleton '-' ++ "(\u212A2)")).toList =
        ["final".toList, "strasse".toList] ++ ["k2".toList] := by
  obtain ⟨-, -, -, fixed, -, apart⟩ := canonical_by_runs
  have left : words (canonical "\uFB01nal Stra\u00DFe").toList = ["final".toList, "strasse".toList] := by
    decide +kernel
  have right : words (canonical "(\u212A2)").toList = ["k2".toList] := by decide +kernel
  have is : IsCanonical "final strasse" := by decide +kernel
  refine ⟨is, fixed _ is, by decide, by decide, ?_⟩
  rw [apart _ _ '-' (by decide) (by decide), left, right]

end Text

end ReleaseHistory
