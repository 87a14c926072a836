/-
# ReleaseHistory.Proofs.FoldedLetters -- what the canonical form tells of letters and digits

The letters and digits of a text, of all scripts, are read off its folding (`letters`).  A form
that keeps all of them and writes one space for every other stretch (`spelledOut`) would tell any
two texts apart whose letters and digits differ.

The canonical form keeps those of ASCII only.  It tells texts apart whose folded letters and digits
of ASCII differ (`filter_canonical`), and it is the spelled out form exactly for the plain texts,
which have no others (`canonical_eq_spelledOut_iff`).  A text that is not plain has the canonical
form of a plain text with other letters (`canonical_tells_letters`).
-/
import ReleaseHistory.Proofs.CanonicalForm
import ReleaseHistory.Text.Alphanumeric

namespace ReleaseHistory

set_option autoImplicit false

namespace Text

variable {p q : Char → Bool} {c : Char} {cs : List Char}

/-! ## Runs and the characters in them -/

theorem pieces_congr (same : ∀ c ∈ cs, p c = q c) : pieces p cs = pieces q cs := by
  induction cs with
  | nil => rfl
  | cons c r ih =>
      rw [pieces, pieces, same c List.mem_cons_self,
        ih fun d inside => same d (List.mem_cons_of_mem _ inside)]

theorem runs_congr (same : ∀ c ∈ cs, p c = q c) : runs p cs = runs q cs := by
  rw [runs, runs, pieces_congr same]

/-- The runs of a text have the characters that satisfy the condition, in their order. -/
theorem flatten_runs (p : Char → Bool) (cs : List Char) : (runs p cs).flatten = cs.filter p := by
  generalize wordsAre : runs p cs = ws
  have has : HasRuns p cs ws := hasRuns_iff.2 wordsAre
  clear wordsAre
  induction has with
  | gap other => exact (List.filter_eq_nil_iff.2 fun c inside => by simp [other c inside]).symm
  | word other nonempty held ended more ih =>
      rw [List.filter_append, List.filter_append, List.filter_eq_self.2 held, ← ih,
        List.filter_eq_nil_iff.2 fun c inside => by simp [other c inside]]
      rfl

/-- Spaces between words do not change the characters that satisfy the condition. -/
theorem filter_intercalate (space : p ' ' = false) (ws : List (List Char)) :
    ([' '].intercalate ws).filter p = ws.flatten.filter p := by
  induction ws with
  | nil => rfl
  | cons w ws ih =>
      cases ws with
      | nil => rw [List.intercalate_singleton, List.flatten_singleton]
      | cons v vs =>
          rw [List.intercalate_cons_cons, List.filter_append, List.filter_append, ih, List.flatten_cons,
            List.filter_append, List.filter_singleton, space]
          simp

theorem filter_intercalate_runs (space : p ' ' = false) (cs : List Char) :
    ([' '].intercalate (runs p cs)).filter p = cs.filter p := by
  rw [filter_intercalate space, flatten_runs, List.filter_filter]
  simp

/-! ## Letters and digits of all scripts -/

theorem isAlphanumeric_of_isWordChar (letter : isWordChar c = true) : isAlphanumeric c = true :=
  of_ascii (P := fun c => isWordChar c = true → isAlphanumeric c = true) (by decide +kernel)
    (ascii_of_isWordChar letter) letter

theorem isBlank_of_isAlphanumeric (letter : isAlphanumeric c = true) : isBlank c = false := by
  have others : Edition.separatorNumbers.all (fun n => !isAlphanumericNumber n) = true := by decide +kernel
  by_contra blank
  have separates := Edition.isSeparator_of_isBlank (Bool.not_eq_false _ ▸ blank)
  have other := List.all_eq_true.1 others c.toNat (Edition.mem_separatorNumbers separates)
  rw [show isAlphanumericNumber c.toNat = true from letter] at other
  cases other

theorem of_alphanumericRange?_eq_some {n : Nat} {r : Nat × Nat} (found : alphanumericRange? n = some r) :
    r ∈ alphanumericRanges ∧ n ≤ r.2 :=
  ⟨List.mem_of_find?_eq_some found, of_decide_eq_true (List.find?_eq_some_iff_append.1 found).1⟩

theorem isAlphanumericNumber_iff {n : Nat} :
    isAlphanumericNumber n = true ↔ ∃ r, alphanumericRange? n = some r ∧ r.1 ≤ n := by
  cases found : alphanumericRange? n <;> simp [isAlphanumericNumber, found]

/-- The range of a number is the range of every greater number up to its end. -/
theorem alphanumericRange?_of_le {m n : Nat} {r : Nat × Nat} (found : alphanumericRange? m = some r)
    (le : m ≤ n) (last : n ≤ r.2) : alphanumericRange? n = some r := by
  obtain ⟨-, before, after, split, below⟩ := List.find?_eq_some_iff_append.1 found
  refine List.find?_eq_some_iff_append.2 ⟨decide_eq_true last, before, after, split, fun s earlier => ?_⟩
  have := below s earlier
  simp only [Bool.not_eq_true', decide_eq_false_iff_not] at this ⊢
  omega

/-- The numbers of letters and digits are numbers of characters. -/
theorem isAlphanumeric_ofNat {n : Nat} (letter : isAlphanumericNumber n = true) :
    isAlphanumeric (Char.ofNat n) = true := by
  have all : alphanumericRanges.all (fun r => r.2 < 0xD800 || 0xDFFF < r.1 && r.2 < 0x110000) = true := by
    decide +kernel
  have valid : n.isValidChar := by
    obtain ⟨r, found, first⟩ := isAlphanumericNumber_iff.1 letter
    obtain ⟨listed, last⟩ := of_alphanumericRange?_eq_some found
    have here := List.all_eq_true.1 all r listed
    simp only [Bool.or_eq_true, Bool.and_eq_true, decide_eq_true_eq] at here
    unfold Nat.isValidChar
    omega
  have same : (Char.ofNat n).toNat = n := by
    rw [Char.ofNat, dif_pos valid]
    rfl
  exact (congrArg isAlphanumericNumber same).trans letter

/-- Whatever a shift of the folding moves comes to lie in one range of letters and digits, or is
before the first range at which it could be a letter or digit. -/
theorem shift_cases {s : Shift} (listed : s ∈ foldMap.shifts) :
    (∃ r, alphanumericRange? (s.first + s.delta).toNat = some r ∧
      r.1 ≤ (s.first + s.delta).toNat ∧ (s.last + s.delta).toNat ≤ r.2) ∨
      ∃ r, alphanumericRange? s.first = some r ∧ s.last < r.1 ∧ r.1 ≤ r.2 := by
  have all : foldMap.shifts.all (fun s =>
      (alphanumericRange? (s.first + s.delta).toNat).any (fun r =>
        r.1 ≤ (s.first + s.delta).toNat && (s.last + s.delta).toNat ≤ r.2) ||
      (alphanumericRange? s.first).any fun r => s.last < r.1 && r.1 ≤ r.2) = true := by
    decide +kernel
  simpa [Option.any_eq_true] using List.all_eq_true.1 all s listed

theorem isAlphanumericNumber_shift {s : Shift} (listed : s ∈ foldMap.shifts) {n : Nat} (low : s.first ≤ n)
    (high : n ≤ s.last) (letter : isAlphanumericNumber n = true) :
    isAlphanumericNumber (n + s.delta).toNat = true := by
  rcases shift_cases listed with ⟨r, found, first, last⟩ | ⟨r, found, beyond, proper⟩
  · exact isAlphanumericNumber_iff.2
      ⟨r, alphanumericRange?_of_le found (by omega) (by omega), by omega⟩
  · obtain ⟨r', found', first⟩ := isAlphanumericNumber_iff.1 letter
    rw [alphanumericRange?_of_le found low (by omega)] at found'
    obtain rfl := Option.some.inj found'
    omega

/-- Folding turns a letter or digit into characters with a letter or digit among them. -/
theorem exists_mem_foldChar (letter : isAlphanumeric c = true) :
    ∃ d ∈ foldChar c, isAlphanumeric d = true := by
  unfold foldChar
  split
  · rename_i ascii
    refine ⟨c.toLower, List.mem_singleton_self _, ?_⟩
    exact of_ascii (P := fun c => isAlphanumeric c = true → isAlphanumeric c.toLower = true)
      (by decide +kernel) ascii letter
  · unfold CaseMap.map
    split
    · rename_i ns found
      have all : foldMap.expansions.all (fun e => e.2.any isAlphanumericNumber) = true := by decide +kernel
      obtain ⟨before, after, split, -⟩ := List.lookup_eq_some_iff.1 found
      have here := List.all_eq_true.1 all (c.toNat, ns) (by rw [split]; simp)
      obtain ⟨n, listed, inside⟩ := List.any_eq_true.1 here
      exact ⟨Char.ofNat n, List.mem_map_of_mem listed, isAlphanumeric_ofNat inside⟩
    · split
      · rename_i s found
        have covers := List.find?_some found
        simp only [Shift.covers, Bool.and_eq_true, decide_eq_true_eq] at covers
        obtain ⟨⟨low, high⟩, -⟩ := covers
        have moved := isAlphanumericNumber_shift (List.mem_of_find?_eq_some found) low high letter
        exact ⟨_, List.mem_singleton_self _, isAlphanumeric_ofNat moved⟩
      · exact ⟨c, List.mem_singleton_self _, letter⟩

/-! ## What the canonical form tells -/

/-- The letters and digits of a text, folded. -/
def letters (s : String) : List Char := (foldCase s.toList).filter isAlphanumeric

/-- The folding with a space for every stretch of characters that are neither letters nor digits, and
without spaces at its ends. -/
def spelledOut (s : String) : String :=
  strip (String.ofList (collapseBlanks
    ((foldCase s.toList).map fun c => if isAlphanumeric c then c else ' ')))

/-- The letters and digits of the folded text are those of ASCII. -/
def HasPlainLetters (s : String) : Prop := ∀ c ∈ letters s, isWordChar c = true

variable {s x y : String}

theorem toList_canonical (s : String) :
    (canonical s).toList = [' '].intercalate (runs isWordChar (foldCase s.toList)) := String.toList_ofList

theorem toList_spelledOut (s : String) :
    (spelledOut s).toList = [' '].intercalate (runs isAlphanumeric (foldCase s.toList)) := by
  rw [spelledOut, strip, String.toList_ofList, String.toList_ofList,
    trim_collapseBlanks_map fun c => isBlank_of_isAlphanumeric]

/-- The canonical form tells the letters and digits of ASCII. -/
theorem filter_canonical (s : String) :
    (canonical s).toList.filter isWordChar = (foldCase s.toList).filter isWordChar := by
  rw [toList_canonical, filter_intercalate_runs (by decide)]

/-- The spelled out form tells all letters and digits. -/
theorem filter_spelledOut (s : String) : (spelledOut s).toList.filter isAlphanumeric = letters s := by
  rw [toList_spelledOut, filter_intercalate_runs (by decide +kernel), letters]

/-- A canonical text has no letters and digits but those of ASCII. -/
theorem IsCanonical.hasPlainLetters (is : IsCanonical s) : HasPlainLetters s := by
  intro c inside
  obtain ⟨here, letter⟩ := List.mem_filter.1 inside
  rw [is.foldCase_eq] at here
  rcases is.chars c here with rfl | plain
  · exact absurd letter (by decide +kernel)
  · exact plain

/-- The canonical form is the spelled out form exactly for the plain texts. -/
theorem canonical_eq_spelledOut_iff : canonical s = spelledOut s ↔ HasPlainLetters s := by
  constructor
  · intro same c inside
    have is := isCanonical_canonical s
    refine is.hasPlainLetters c ?_
    rwa [letters, is.foldCase_eq, same, filter_spelledOut]
  · intro plain
    rw [← String.toList_inj, toList_canonical, toList_spelledOut]
    refine congrArg _ (runs_congr fun c inside => Bool.eq_iff_iff.2 ⟨isAlphanumeric_of_isWordChar, ?_⟩)
    exact fun letter => plain c (List.mem_filter.2 ⟨inside, letter⟩)

/-- Plain texts with one canonical form have the same letters. -/
theorem letters_eq_of_canonical_eq (left : HasPlainLetters x) (right : HasPlainLetters y)
    (same : canonical x = canonical y) : letters x = letters y := by
  rw [canonical_eq_spelledOut_iff.2 left, canonical_eq_spelledOut_iff.2 right] at same
  rw [← filter_spelledOut, ← filter_spelledOut, same]

/-- A text with a letter or digit has one after folding. -/
theorem letters_ne_nil (has : ∃ c ∈ x.toList, isAlphanumeric c = true) : letters x ≠ [] := by
  obtain ⟨c, inside, letter⟩ := has
  obtain ⟨d, here, folded⟩ := exists_mem_foldChar letter
  exact List.ne_nil_of_mem (List.mem_filter.2 ⟨List.mem_flatMap.2 ⟨c, inside, here⟩, folded⟩)

/-- Texts whose folded letters and digits of ASCII differ have different canonical forms.  The
canonical form writes out all letters and digits exactly for the plain texts.  Among these it tells
any two apart whose letters and digits differ, and it is empty for none that has one; a text that is
not plain shares its form with a plain text of other letters. -/
theorem canonical_tells_letters (x y : String) :
    ((foldCase x.toList).filter isWordChar ≠ (foldCase y.toList).filter isWordChar →
      canonical x ≠ canonical y) ∧
    (canonical x = spelledOut x ↔ HasPlainLetters x) ∧
    (HasPlainLetters x → HasPlainLetters y → letters x ≠ letters y → canonical x ≠ canonical y) ∧
    (HasPlainLetters x → (∃ c ∈ x.toList, isAlphanumeric c = true) → canonical x ≠ "") ∧
    (¬HasPlainLetters x → ∃ z, HasPlainLetters z ∧ letters x ≠ letters z ∧ canonical x = canonical z) := by
  refine ⟨fun differ same => ?_, canonical_eq_spelledOut_iff,
    fun left right differ same => differ (letters_eq_of_canonical_eq left right same),
    fun plain has empty => ?_, fun other => ?_⟩
  · rw [← filter_canonical, ← filter_canonical, same] at differ
    exact differ rfl
  · refine letters_ne_nil has ?_
    rw [← filter_spelledOut, ← canonical_eq_spelledOut_iff.2 plain, empty]
    rfl
  · have is := isCanonical_canonical x
    refine ⟨canonical x, is.hasPlainLetters, fun same => ?_, is.canonical_eq.symm⟩
    exact other fun c inside => is.hasPlainLetters c (same ▸ inside)

/-- Two spellings with the Kelvin sign and with a sharp s are plain, as both fold to ASCII; the name of a
city in another script is not. -/
theorem canonical_tells_letters_folded :
    HasPlainLetters "\u212Aelvin" ∧ HasPlainLetters "Stra\u00DFe 2" ∧
      letters "\u212Aelvin" ≠ letters "Stra\u00DFe 2" ∧
      canonical "\u212Aelvin" ≠ canonical "Stra\u00DFe 2" ∧ canonical "\u212Aelvin" ≠ "" ∧
      ¬HasPlainLetters "\u6771\u4EAC" ∧
      ∃ z, HasPlainLetters z ∧ letters "\u6771\u4EAC" ≠ letters z ∧
        canonical "\u6771\u4EAC" = canonical z := by
  obtain ⟨-, -, apart, some_, -⟩ := canonical_tells_letters "\u212Aelvin" "Stra\u00DFe 2"
  obtain ⟨-, -, -, -, merges⟩ := canonical_tells_letters "\u6771\u4EAC" ""
  have left : HasPlainLetters "\u212Aelvin" := List.all_eq_true.1 (by decide +kernel)
  have right : HasPlainLetters "Stra\u00DFe 2" := List.all_eq_true.1 (by decide +kernel)
  have differ : letters "\u212Aelvin" ≠ letters "Stra\u00DFe 2" := by decide +kernel
  have other : ¬HasPlainLetters "\u6771\u4EAC" := fun plain =>
    absurd (List.all_eq_true.2 plain) (by decide +kernel)
  exact ⟨left, right, differ, apart left right differ,
    some_ left ⟨'\u212A', by decide +kernel, by decide +kernel⟩, other, merges other⟩

/-- Letters with accents are taken for separators, so that two titles are not told apart, and a title in
another script is empty. -/
theorem canonical_merges_accents :
    letters "Am\u00E9lie" ≠ letters "Am\u00E8lie" ∧ canonical "Am\u00E9lie" = canonical "Am\u00E8lie" ∧
      (∃ c ∈ "\u6771\u4EAC".toList, isAlphanumeric c = true) ∧ canonical "\u6771\u4EAC" = "" ∧
      spelledOut "\u6771\u4EAC" = "\u6771\u4EAC" := by
  refine ⟨by decide +kernel, by decide +kernel, ⟨'\u6771', by decide +kernel, by decide +kernel⟩,
    by decide +kernel, by decide +kernel⟩

end Text

end ReleaseHistory
