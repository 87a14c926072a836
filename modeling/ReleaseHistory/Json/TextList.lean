/-
# ReleaseHistory.Json.TextList -- lists of texts as JSON

A list of texts is kept in one column as a JSON list.  Written, a text is
enclosed in double quotes; the double quote, the backslash and the control
characters below the space are escaped, all else stands as it is.  Reading
accepts any JSON text: entries that are not texts are displayed, a value that is
not a list counts as an empty one, and so does an empty column.  A text with half
of a surrogate pair that stands alone comes out as it is (`decodeLoose`), or with
the replacement character for that half (`decode`).
-/
import ReleaseHistory.Json.Reader
import ReleaseHistory.Value.Display

namespace ReleaseHistory.Json.TextList

set_option autoImplicit false

/-! ## Writing -/

/-- The letter that stands for a character behind a backslash. -/
def escapeLetter? : Char → Option Char
  | '"' => some '"'
  | '\\' => some '\\'
  | '\n' => some 'n'
  | '\r' => some 'r'
  | '\t' => some 't'
  | '\x0c' => some 'f'
  | '\x08' => some 'b'
  | _ => none

/-- One character of a text between its quotes. -/
def writeChar (c : Char) : List Char :=
  match escapeLetter? c with
  | some e => ['\\', e]
  | none => if c.toNat < 32 then '\\' :: 'u' :: Text.hexDigits 4 c.toNat else [c]

/-- A text in quotes. -/
def writeText (s : String) : List Char := '"' :: s.toList.flatMap writeChar ++ ['"']

/-- Texts in quotes with commas between. -/
def writeItems : List String → List Char
  | [] => []
  | [s] => writeText s
  | s :: ss => writeText s ++ ',' :: ' ' :: writeItems ss

/-- A list of texts as JSON. -/
def encode (ss : List String) : String := String.ofList ('[' :: writeItems ss ++ [']'])

/-! ## Reading -/

/-- The entries of a list as texts; nothing for any other value. -/
def ofTree : Tree → List Text.LooseText
  | .list vs => vs.map Datum.displayLoose
  | _ => []

/-- The loose texts that a column holds. -/
def decodeLoose (column : String) : Except Flaw (List Text.LooseText) :=
  if column = "" then .ok [] else (read column).map ofTree

/-- The texts that a column holds. -/
def decode (column : String) : Except Flaw (List String) :=
  (decodeLoose column).map fun ts => ts.map Text.LooseText.toString

end ReleaseHistory.Json.TextList
