/-
# ReleaseHistory.Text.ControlSequence -- texts without terminal control sequences

A control sequence tells a terminal what to do and shows nothing.  It is an
escape character and an opening bracket, then parameters (`0` to `?`), then
intermediates (blank to `/`), then one final character (`@` to `~`).  An escape
that opens nothing of this form stays in the text.
-/

namespace ReleaseHistory.Text

set_option autoImplicit false

def isParameter (c : Char) : Bool := '0' ≤ c && c ≤ '?'
def isIntermediate (c : Char) : Bool := ' ' ≤ c && c ≤ '/'
def isFinal (c : Char) : Bool := '@' ≤ c && c ≤ '~'

/-- The text after the rest of a control sequence, from behind its bracket. -/
def afterSequence? (cs : List Char) : Option (List Char) :=
  match (cs.dropWhile isParameter).dropWhile isIntermediate with
  | c :: r => if isFinal c then some r else none
  | [] => none

/-- A control sequence takes a part of the text away. -/
theorem length_lt_of_afterSequence? {cs r : List Char} (h : afterSequence? cs = some r) :
    r.length < cs.length := by
  unfold afterSequence? at h
  split at h
  · rename_i c r' found
    split at h
    · cases h
      have first := (List.dropWhile_suffix isParameter (l := cs)).length_le
      have second :=
        (List.dropWhile_suffix isIntermediate (l := cs.dropWhile isParameter)).length_le
      rw [found, List.length_cons] at second
      omega
    · cases h
  · cases h

/-- The text without its control sequences. -/
def withoutSequences : List Char → List Char
  | [] => []
  | '\x1b' :: '[' :: r =>
      match h : afterSequence? r with
      | some r' =>
          have := length_lt_of_afterSequence? h
          withoutSequences r'
      | none => '\x1b' :: '[' :: withoutSequences r
  | c :: r => c :: withoutSequences r
termination_by cs => cs.length
decreasing_by all_goals simp_wf <;> omega

end ReleaseHistory.Text
