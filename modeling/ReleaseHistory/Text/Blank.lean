/-
# ReleaseHistory.Text.Blank -- blank characters, trimming, and the runs of a text

Twenty-nine characters are blank: the ASCII controls from tab to carriage return
and from file separator to unit separator, the space, the next-line control, and
the space, line and paragraph separators of Unicode.  The zero-width space and
the byte order mark are not blank.

* `pieces p` cuts a text at the characters that do not satisfy `p`, and `runs p`
  keeps the pieces that are not empty; the characters cut at are dropped.
* `trim p` drops the characters that satisfy `p` from both ends.
* `collapseBlanks` writes every run of blanks as one space.
-/

namespace ReleaseHistory.Text

set_option autoImplicit false

/-! ## Blank characters -/

/-- A character that separates words in running text. -/
def isBlank (c : Char) : Bool :=
  let n := c.toNat
  (9 ≤ n && n ≤ 13) || (28 ≤ n && n ≤ 32) || n == 0x85 || n == 0xA0 || n == 0x1680 ||
    (0x2000 ≤ n && n ≤ 0x200A) || n == 0x2028 || n == 0x2029 || n == 0x202F || n == 0x205F ||
    n == 0x3000

/-! ## Pieces and runs -/

/-- The pieces of a text between the characters that do not satisfy `p`, empty ones
included. -/
def pieces (p : Char → Bool) : List Char → List (List Char)
  | [] => [[]]
  | c :: r =>
      if p c then
        match pieces p r with
        | [] => [[c]]
        | w :: ws => (c :: w) :: ws
      else [] :: pieces p r

/-- The maximal runs of characters that satisfy `p`, in order. -/
def runs (p : Char → Bool) (cs : List Char) : List (List Char) :=
  (pieces p cs).filter fun w => !w.isEmpty

/-- The words of a text: its maximal runs of characters that are not blank. -/
def words (cs : List Char) : List (List Char) := runs (fun c => !isBlank c) cs

theorem pieces_ne_nil (p : Char → Bool) : ∀ cs : List Char, pieces p cs ≠ []
  | [] => by simp [pieces]
  | c :: r => by
      by_cases hc : p c = true
      · simp only [pieces, hc, if_true]
        split <;> simp
      · simp [pieces, hc]

/-- A character that is in no piece separates the pieces on its two sides. -/
theorem pieces_append_cons {p : Char → Bool} {c : Char} (h : p c = false) (y : List Char) :
    ∀ x : List Char, pieces p (x ++ c :: y) = pieces p x ++ pieces p y
  | [] => by simp [pieces, h]
  | d :: x => by
      have ih := pieces_append_cons h y x
      have nonempty := pieces_ne_nil p x
      by_cases hd : p d = true
      · cases hx : pieces p x with
        | nil => exact absurd hx nonempty
        | cons w ws => simp [pieces, hd, ih, hx]
      · simp [pieces, hd, ih]

theorem runs_append_cons {p : Char → Bool} {c : Char} (h : p c = false) (x y : List Char) :
    runs p (x ++ c :: y) = runs p x ++ runs p y := by
  rw [runs, pieces_append_cons h, List.filter_append]
  rfl

theorem of_mem_pieces {p : Char → Bool} {w : List Char} :
    ∀ {cs : List Char}, w ∈ pieces p cs → ∀ c ∈ w, p c = true
  | [], h, c, hc => by
      rw [pieces, List.mem_singleton] at h
      simp [h] at hc
  | d :: r, h, c, hc => by
      by_cases hd : p d = true
      · cases hr : pieces p r with
        | nil => exact absurd hr (pieces_ne_nil p r)
        | cons v vs =>
            have ih : ∀ u ∈ v :: vs, ∀ c ∈ u, p c = true := fun u hu =>
              of_mem_pieces (hr ▸ hu)
            simp only [pieces, hd, if_true, hr] at h
            rcases List.mem_cons.1 h with rfl | h
            · rcases List.mem_cons.1 hc with rfl | hc
              · exact hd
              · exact ih v (List.mem_cons_self ..) c hc
            · exact ih w (List.mem_cons_of_mem _ h) c hc
      · simp only [pieces, hd] at h
        rcases List.mem_cons.1 h with rfl | h
        · simp at hc
        · exact of_mem_pieces h c hc

/-- A run is not empty, and all of its characters satisfy the condition. -/
theorem of_mem_runs {p : Char → Bool} {w cs : List Char} (h : w ∈ runs p cs) :
    w ≠ [] ∧ ∀ c ∈ w, p c = true := by
  obtain ⟨mem, nonempty⟩ := List.mem_filter.1 h
  exact ⟨by simpa using nonempty, of_mem_pieces mem⟩

/-! ## Trimming -/

/-- Drop the characters that satisfy `p` from the end. -/
def trimEnd (p : Char → Bool) (cs : List Char) : List Char := (cs.reverse.dropWhile p).reverse

/-- Drop the characters that satisfy `p` from both ends. -/
def trim (p : Char → Bool) (cs : List Char) : List Char := trimEnd p (cs.dropWhile p)

/-- Drop the blanks from both ends of a text. -/
def strip (s : String) : String := String.ofList (trim isBlank s.toList)

/-- Write every run of blanks as one space, standing where the run ends. -/
def collapseBlanks : List Char → List Char
  | [] => []
  | c :: r =>
      if isBlank c then
        if r.head?.any isBlank then collapseBlanks r else ' ' :: collapseBlanks r
      else c :: collapseBlanks r

end ReleaseHistory.Text
