/-
# ReleaseHistory.Text.CaseShift -- case maps given by shifted ranges and expansions

A case map of Unicode moves most of its characters by a fixed distance, in
ranges of every or of every second code point, and sends a few characters to two
or three.  `CaseMap` holds both parts; a character that neither part mentions
stays as it is.
-/

namespace ReleaseHistory.Text

set_option autoImplicit false

/-- Every `stride`-th code point from `first` to `last` moves by `delta`. -/
structure Shift where
  first : Nat
  last : Nat
  stride : Nat
  delta : Int

/-- The code point lies in the range and on its grid. -/
def Shift.covers (s : Shift) (n : Nat) : Bool :=
  s.first ≤ n && n ≤ s.last && (n - s.first) % s.stride == 0

/-- Shifted ranges of characters beyond ASCII, and characters that become several. -/
structure CaseMap where
  shifts : List Shift
  expansions : List (Nat × List Nat)

/-- The image of one character beyond ASCII. -/
def CaseMap.map (m : CaseMap) (c : Char) : List Char :=
  match m.expansions.lookup c.toNat with
  | some ns => ns.map Char.ofNat
  | none =>
      match m.shifts.find? (·.covers c.toNat) with
      | some s => [Char.ofNat ((c.toNat : Int) + s.delta).toNat]
      | none => [c]

end ReleaseHistory.Text
