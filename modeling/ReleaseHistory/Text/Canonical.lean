/-
# ReleaseHistory.Text.Canonical -- the form in which loosely written texts are compared

Release fields are written with any case and any punctuation.  The canonical
form of a text is its full case folding cut into maximal runs of ASCII letters
and digits, joined by single spaces; two fields agree when their canonical forms
are equal.  A list of values is compared as the set of its non-empty canonical
forms, kept as a strictly increasing list.
-/
import ReleaseHistory.Text.Blank
import ReleaseHistory.Text.CaseFold

namespace ReleaseHistory.Text

set_option autoImplicit false

/-- A digit or lower-case letter of ASCII. -/
def isWordChar (c : Char) : Bool := ('0' ≤ c && c ≤ '9') || ('a' ≤ c && c ≤ 'z')

/-- Case folding leaves digits and lower-case letters alone. -/
theorem foldChar_of_isWordChar {c : Char} (h : isWordChar c = true) : foldChar c = [c] := by
  simp only [isWordChar, Bool.or_eq_true, Bool.and_eq_true, decide_eq_true_eq, Char.le_def,
    UInt32.le_iff_toNat_le] at h
  have small : c.toNat < 128 := by
    have hc : c.toNat = c.val.toNat := rfl
    rcases h with ⟨-, h⟩ | ⟨-, h⟩
    · exact hc ▸ Nat.lt_of_le_of_lt h (by decide)
    · exact hc ▸ Nat.lt_of_le_of_lt h (by decide)
  have low : ¬(c.val ≥ 65 ∧ c.val ≤ 90) := by
    rw [ge_iff_le, UInt32.le_iff_toNat_le, UInt32.le_iff_toNat_le]
    rcases h with ⟨h₁, h₂⟩ | ⟨h₁, h₂⟩
    · have : c.val.toNat ≤ 57 := h₂
      intro ⟨h, _⟩
      have : 65 ≤ c.val.toNat := h
      omega
    · have : 97 ≤ c.val.toNat := h₁
      intro ⟨_, h⟩
      have : c.val.toNat ≤ 90 := h
      omega
  have same : c.toLower = c := dif_neg low
  rw [foldChar, if_pos small, same]

/-- The folded words of a text. -/
def canonicalWords (cs : List Char) : List (List Char) := runs isWordChar (foldCase cs)

/-- The folded words of a text, joined by single spaces. -/
def canonical (s : String) : String :=
  String.ofList ([' '].intercalate (canonicalWords s.toList))

/-- Insert a text into a strictly increasing list, once. -/
def insertOrdered (s : String) : List String → List String
  | [] => [s]
  | t :: ts => if s < t then s :: t :: ts else if s = t then t :: ts else t :: insertOrdered s ts

theorem mem_insertOrdered {s x : String} :
    ∀ {ts : List String}, x ∈ insertOrdered s ts ↔ x = s ∨ x ∈ ts
  | [] => by simp [insertOrdered]
  | t :: ts => by
      simp only [insertOrdered]
      split
      · simp
      · split
        · rename_i same
          subst same
          simp
        · simp only [List.mem_cons, mem_insertOrdered]
          constructor
          · rintro (h | h | h)
            · exact .inr (.inl h)
            · exact .inl h
            · exact .inr (.inr h)
          · rintro (h | h | h)
            · exact .inr (.inl h)
            · exact .inl h
            · exact .inr (.inr h)

theorem ascending_insertOrdered (s : String) :
    ∀ {ts : List String}, ts.Pairwise (· < ·) → (insertOrdered s ts).Pairwise (· < ·)
  | [], _ => by simp [insertOrdered]
  | t :: ts, h => by
      obtain ⟨first, rest⟩ := List.pairwise_cons.1 h
      simp only [insertOrdered]
      split
      · rename_i lt
        refine List.pairwise_cons.2 ⟨fun y hy => ?_, h⟩
        rcases List.mem_cons.1 hy with rfl | hy
        · exact lt
        · exact String.lt_trans lt (first y hy)
      · split
        · exact h
        · rename_i notLt differ
          refine List.pairwise_cons.2 ⟨fun y hy => ?_, ascending_insertOrdered s rest⟩
          rcases mem_insertOrdered.1 hy with rfl | hy
          · refine Decidable.byContradiction fun h => ?_
            exact differ (String.le_antisymm (String.not_lt.1 h) (String.not_lt.1 notLt))
          · exact first y hy

/-- The set of the texts of a list, as a strictly increasing list. -/
def orderedSet (ss : List String) : List String := ss.foldr insertOrdered []

/-- A text is in the set of a list exactly when it is in the list. -/
theorem mem_orderedSet {x : String} {ss : List String} : x ∈ orderedSet ss ↔ x ∈ ss := by
  induction ss with
  | nil => simp [orderedSet]
  | cons s ss ih =>
      rw [orderedSet, List.foldr_cons, mem_insertOrdered, List.mem_cons]
      exact or_congr_right ih

theorem ascending_orderedSet (ss : List String) : (orderedSet ss).Pairwise (· < ·) := by
  induction ss with
  | nil => simp [orderedSet]
  | cons s ss ih => exact ascending_insertOrdered s ih

/-- The set of the non-empty canonical forms of a list of values. -/
def canonicalSet (ss : List String) : List String :=
  orderedSet ((ss.map canonical).filter (· ≠ ""))

/-- Whether a list of words opens another, and what then follows. -/
def stripWords : List (List Char) → List (List Char) → Option (List (List Char))
  | [], ws => some ws
  | t :: ts, w :: ws => if t = w then stripWords ts ws else none
  | _ :: _, [] => none

/-- The words of a name after the words that spell the title; all words of the
name when it does not open with the title, and when the title has no word. -/
def wordsAfterTitle (name title : List Char) : List (List Char) :=
  (stripWords (canonicalWords title) (canonicalWords name)).getD (canonicalWords name)

/-- The canonical form of a name without the leading words that spell the title. -/
def withoutLeadingTitle (name title : String) : String :=
  String.ofList ([' '].intercalate (wordsAfterTitle name.toList title.toList))

end ReleaseHistory.Text
