/-
# ReleaseHistory.Text.Quoted -- a text in quotes, on one line

A quoted text shows printable characters as they are and escapes the rest.
Single quotes enclose it unless it holds a single quote and no double quote; the
enclosing quote and the backslash are escaped by a backslash.  Tab, line feed
and carriage return have letters of their own; other characters are given by
two, four or eight hexadecimal digits, the shortest form that holds them.
-/
import ReleaseHistory.Text.Printable

namespace ReleaseHistory.Text

set_option autoImplicit false

/-- The `width` lowest hexadecimal digits of a number, lower case. -/
def hexDigits : Nat → Nat → List Char
  | 0, _ => []
  | width + 1, n => hexDigits width (n / 16) ++ [Nat.digitChar (n % 16)]

/-- The quote that encloses a text. -/
def enclosingQuote (cs : List Char) : Char :=
  if cs.contains '\'' && !cs.contains '"' then '"' else '\''

/-- One character between the quotes `q`. -/
def quotedChar (q c : Char) : List Char :=
  if c == q || c == '\\' then ['\\', c]
  else if c == '\t' then ['\\', 't']
  else if c == '\n' then ['\\', 'n']
  else if c == '\r' then ['\\', 'r']
  else if isPrintable c then [c]
  else if c.toNat < 0x100 then '\\' :: 'x' :: hexDigits 2 c.toNat
  else if c.toNat < 0x10000 then '\\' :: 'u' :: hexDigits 4 c.toNat
  else '\\' :: 'U' :: hexDigits 8 c.toNat

/-- The quoted form of a text. -/
def quoted (s : String) : String :=
  let q := enclosingQuote s.toList
  String.ofList (q :: s.toList.flatMap (quotedChar q) ++ [q])

end ReleaseHistory.Text
