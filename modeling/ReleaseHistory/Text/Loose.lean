/-
# ReleaseHistory.Text.Loose -- texts in which half of a surrogate pair may stand alone

JSON spells a character outside the basic plane by the two halves of a surrogate
pair, and a text may spell one half without the other.  Such a half is no
character: `LooseText.toString` puts the replacement character in its place, and
`quotedLoose` spells it as it came.
-/
import ReleaseHistory.Text.Quoted

namespace ReleaseHistory.Text

set_option autoImplicit false

/-- A character, or the code of half of a surrogate pair that stands alone. -/
inductive Symbol where
  | char (c : Char)
  | half (code : Nat)
  deriving DecidableEq, Repr

/-- The character that is shown for a symbol. -/
def Symbol.shown : Symbol → Char
  | .char c => c
  | .half _ => '\uFFFD'

/-- A text of symbols. -/
abbrev LooseText := List Symbol

namespace LooseText

def ofList (cs : List Char) : LooseText := cs.map .char

def ofString (s : String) : LooseText := ofList s.toList

/-- The text with the replacement character for every half. -/
def toString (t : LooseText) : String := String.ofList (t.map Symbol.shown)

/-- A text of characters is shown as it is. -/
theorem toString_ofString (s : String) : (ofString s).toString = s := by
  have shown : Symbol.shown ∘ Symbol.char = id := rfl
  rw [ofString, ofList, toString, List.map_map, shown, List.map_id, String.ofList_toList]

end LooseText

/-- One symbol between the quotes `q`. -/
def quotedSymbol (q : Char) : Symbol → List Char
  | .char c => quotedChar q c
  | .half code => '\\' :: 'u' :: hexDigits 4 code

/-- The quoted form of a loose text. -/
def quotedLoose (t : LooseText) : String :=
  let q := enclosingQuote (t.map Symbol.shown)
  String.ofList (q :: t.flatMap (quotedSymbol q) ++ [q])

end ReleaseHistory.Text
