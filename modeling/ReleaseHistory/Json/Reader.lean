/-
# ReleaseHistory.Json.Reader -- reading a JSON text

Reads one value with blanks around it.  Beyond the standard, the words `NaN`,
`Infinity` and `-Infinity` are numbers, a decimal that is too large is infinite,
and of fields with one name the last counts.  Control characters must be escaped
inside a text, and half of a surrogate pair may stand alone in one.  Lists and
records may be nested 985 deep.

A refusal says what was wrong and where: the character's index, its line and its
column.  While reading, a place is kept as the number of characters left.
-/
import ReleaseHistory.Text.Loose
import ReleaseHistory.Value.Basic
import ReleaseHistory.Entries

namespace ReleaseHistory.Json

set_option autoImplicit false

open Text (LooseText Symbol)

/-- What a JSON text denotes. -/
abbrev Tree := Datum LooseText

/-! ## Refusals -/

/-- What is wrong with a text that is not JSON. -/
inductive Complaint where
  | expectingValue
  | expectingName
  | expectingColon
  | expectingComma
  | extraData
  | unterminatedText
  | controlCharacter
  | badEscape
  | badUnicodeEscape
  | byteOrderMark
  deriving DecidableEq, Repr

/-- The wording of a complaint. -/
def Complaint.message : Complaint → String
  | .expectingValue => "Expecting value"
  | .expectingName => "Expecting property name enclosed in double quotes"
  | .expectingColon => "Expecting ':' delimiter"
  | .expectingComma => "Expecting ',' delimiter"
  | .extraData => "Extra data"
  | .unterminatedText => "Unterminated string starting at"
  | .controlCharacter => "Invalid control character at"
  | .badEscape => "Invalid \\escape"
  | .badUnicodeEscape => "Invalid \\uXXXX escape"
  | .byteOrderMark => "Unexpected UTF-8 BOM (decode using utf-8-sig)"

/-- Why reading stops: a complaint with the number of characters left, a whole number
with too many digits, or too deep a nesting. -/
inductive Stop where
  | complaint (c : Complaint) (left : Nat)
  | longNumeral (digits : Nat)
  | tooDeep
  deriving DecidableEq, Repr

/-- Why a text is not read: a complaint with its place, a whole number with too many
digits, or too deep a nesting. -/
inductive Flaw where
  | malformed (c : Complaint) (line column index : Nat)
  | longNumeral (digits : Nat)
  | tooDeep
  deriving DecidableEq, Repr

/-- A stop as a flaw of the text it happened in. -/
def Stop.toFlaw (cs : List Char) : Stop → Flaw
  | .longNumeral digits => .longNumeral digits
  | .tooDeep => .tooDeep
  | .complaint c left =>
      let before := cs.take (cs.length - left)
      let column := (before.reverse.takeWhile (· != '\n')).length + 1
      .malformed c (before.count '\n' + 1) column before.length

/-! ## Texts -/

/-- A blank between the parts of a JSON text. -/
def isSpace (c : Char) : Bool := c == ' ' || c == '\t' || c == '\n' || c == '\r'

/-- The text after leading blanks. -/
def skipSpace (cs : List Char) : List Char := cs.dropWhile isSpace

/-- The value of a hexadecimal digit. -/
def hexValue? (c : Char) : Option Nat :=
  if '0' ≤ c ∧ c ≤ '9' then some (c.toNat - 48)
  else if 'a' ≤ c ∧ c ≤ 'f' then some (c.toNat - 87)
  else if 'A' ≤ c ∧ c ≤ 'F' then some (c.toNat - 55)
  else none

/-- The value of four hexadecimal digits at the head of a text that goes on after them. -/
def readUnit : List Char → Option (Nat × List Char)
  | a :: b :: c :: d :: e :: r => do
      let n := (← hexValue? a) * 4096 + (← hexValue? b) * 256 + (← hexValue? c) * 16
      return (n + (← hexValue? d), e :: r)
  | _ => none

/-- The character that stands for itself or for a control behind a backslash. -/
def escapedChar? : Char → Option Char
  | '"' => some '"'
  | '\\' => some '\\'
  | '/' => some '/'
  | 'b' => some '\x08'
  | 'f' => some '\x0c'
  | 'n' => some '\n'
  | 'r' => some '\r'
  | 't' => some '\t'
  | _ => none

def isHighSurrogate (n : Nat) : Bool := 0xD800 ≤ n && n ≤ 0xDBFF
def isLowSurrogate (n : Nat) : Bool := 0xDC00 ≤ n && n ≤ 0xDFFF

/-- The symbol of a code unit. -/
def unitSymbol (n : Nat) : Symbol :=
  if isHighSurrogate n || isLowSurrogate n then .half n else .char (Char.ofNat n)

/-- The symbol given by a `\u` escape, reading from behind the `u`.  A high surrogate
takes the escape of a low one that follows it. -/
def readEscapedUnit (cs : List Char) : Except Stop (Symbol × List Char) :=
  match readUnit cs with
  | none => .error (.complaint .badUnicodeEscape (cs.length + 1))
  | some (n, r) =>
      match isHighSurrogate n, r with
      | true, '\\' :: 'u' :: r' =>
          if (r'.drop 4).isEmpty then .ok (unitSymbol n, r)
          else
            match readUnit r' with
            | none => .error (.complaint .badUnicodeEscape (r'.length + 1))
            | some (m, r'') =>
                if isLowSurrogate m then
                  .ok (.char (Char.ofNat (0x10000 + (n - 0xD800) * 0x400 + (m - 0xDC00))), r'')
                else .ok (unitSymbol n, r)
      | _, _ => .ok (unitSymbol n, r)

/-- The next symbol of a text, or nothing at its closing quote.  `start` is what stands
behind the quote that opened it. -/
def readPiece (start : List Char) : List Char → Except Stop (Option Symbol × List Char)
  | [] => .error (.complaint .unterminatedText (start.length + 1))
  | '"' :: r => .ok (none, r)
  | ['\\'] => .error (.complaint .unterminatedText (start.length + 1))
  | '\\' :: 'u' :: r => do
      let (c, r) ← readEscapedUnit r
      return (some c, r)
  | '\\' :: e :: r =>
      match escapedChar? e with
      | some c => .ok (some (.char c), r)
      | none => .error (.complaint .badEscape (r.length + 2))
  | c :: r =>
      if c.toNat < 32 then .error (.complaint .controlCharacter (r.length + 1))
      else .ok (some (.char c), r)

/-- The symbols of a text up to its closing quote, reading at most the given number of
them. -/
def readTextFrom (start : List Char) : Nat → List Char → Except Stop (LooseText × List Char)
  | 0, _ => .error (.complaint .unterminatedText (start.length + 1))
  | fuel + 1, cs => do
      match ← readPiece start cs with
      | (none, r) => return ([], r)
      | (some c, r) =>
          let (t, r) ← readTextFrom start fuel r
          return (c :: t, r)

/-- The text whose opening quote stands before the given characters, if it has at most
the given number of symbols. -/
def readText (fuel : Nat) (cs : List Char) : Except Stop (LooseText × List Char) :=
  readTextFrom cs (fuel + 1) cs

/-! ## Numbers -/

/-- The value of ASCII digits. -/
def digitsValue (ds : List Char) : Nat := ds.foldl (fun n c => n * 10 + (c.toNat - 48)) 0

/-- The digits of a whole number at the head of a text: a zero alone, or digits that
do not start with one. -/
def readWhole : List Char → Option (List Char × List Char)
  | '0' :: r => some (['0'], r)
  | c :: r =>
      if c.isDigit then some (c :: r.takeWhile Char.isDigit, r.dropWhile Char.isDigit) else none
  | [] => none

/-- The digits behind a decimal point; none where no digit follows it. -/
def readPlaces : List Char → List Char × List Char
  | '.' :: r =>
      match r.takeWhile Char.isDigit with
      | [] => ([], '.' :: r)
      | ds => (ds, r.dropWhile Char.isDigit)
  | r => ([], r)

/-- The exponent behind an `e`; none where no digit follows it. -/
def readExponent (cs : List Char) : Option (Int × List Char) :=
  match cs with
  | e :: r =>
      if e == 'e' || e == 'E' then
        let (negative, ds) :=
          match r with
          | '-' :: r' => (true, r')
          | '+' :: r' => (false, r')
          | _ => (false, r)
        match ds.takeWhile Char.isDigit with
        | [] => none
        | places =>
            let n : Int := digitsValue places
            some (if negative then -n else n, ds.dropWhile Char.isDigit)
      else none
  | [] => none

/-- An unsigned number at the head of a text. -/
def readMagnitude (negative : Bool) (cs : List Char) :
    Option (Except Stop (Tree × List Char)) :=
  match readWhole cs with
  | none => none
  | some (whole, r) =>
      let (places, r) := readPlaces r
      match places, readExponent r with
      | [], none =>
          let n : Int := digitsValue whole
          some (if whole.length ≤ Numeral.maxDigits then .ok (.int (if negative then -n else n), r)
            else .error (.longNumeral whole.length))
      | _, e =>
          let (exponent, r) := e.getD (0, r)
          some (.ok (.float (Binary64.ofDecimal negative (digitsValue (whole ++ places))
            (exponent - places.length)), r))

/-- The text after a word that opens it. -/
def afterWord (word : List Char) (cs : List Char) : Option (List Char) :=
  if word.isPrefixOf cs then some (cs.drop word.length) else none

/-- The words that are values. -/
def wordValues : List (List Char × Tree) :=
  [("null".toList, .null), ("true".toList, .bool true), ("false".toList, .bool false),
    ("NaN".toList, .float .nan), ("Infinity".toList, .float (.infinite false)),
    ("-Infinity".toList, .float (.infinite true))]

/-- A value that is a word or a number. -/
def readAtom (cs : List Char) : Except Stop (Tree × List Char) :=
  match wordValues.findSome? fun (w, v) => (afterWord w cs).map fun r => (v, r) with
  | some found => .ok found
  | none =>
      let number :=
        match cs with
        | '-' :: r => readMagnitude true r
        | r => readMagnitude false r
      number.getD (.error (.complaint .expectingValue cs.length))

/-! ## Values -/

/-- How deep lists and records may be nested. -/
def maxDepth : Nat := 985

mutual

/-- A value at the head of a text.  The first argument bounds the recursion and exceeds
what any text of the given length needs; the second is the depth that is left. -/
def readValue : Nat → Nat → List Char → Except Stop (Tree × List Char)
  | 0, _, cs => .error (.complaint .expectingValue cs.length)
  | fuel + 1, depth, cs =>
      match cs with
      | '"' :: r => do
          let (s, r) ← readText fuel r
          return (.text s, r)
      | '[' :: r =>
          match depth, skipSpace r with
          | 0, _ => .error .tooDeep
          | _ + 1, ']' :: r => .ok (.list [], r)
          | depth + 1, r => do
              let (vs, r) ← readItems fuel depth r
              return (.list vs, r)
      | '\x7b' :: r =>
          match depth, skipSpace r with
          | 0, _ => .error .tooDeep
          | _ + 1, '\x7d' :: r => .ok (.record [], r)
          | depth + 1, r => do
              let (fs, r) ← readFields fuel depth [] r
              return (.record fs, r)
      | cs => readAtom cs

/-- The entries of a list up to its closing bracket. -/
def readItems : Nat → Nat → List Char → Except Stop (List Tree × List Char)
  | 0, _, cs => .error (.complaint .expectingValue cs.length)
  | fuel + 1, depth, cs => do
      let (v, r) ← readValue fuel depth cs
      match skipSpace r with
      | ']' :: r => return ([v], r)
      | ',' :: r =>
          let (vs, r) ← readItems fuel depth (skipSpace r)
          return (v :: vs, r)
      | r => .error (.complaint .expectingComma r.length)

/-- The fields of a record up to its closing brace, after those already read. -/
def readFields : Nat → Nat → List (LooseText × Tree) → List Char →
    Except Stop (List (LooseText × Tree) × List Char)
  | 0, _, _, cs => .error (.complaint .expectingName cs.length)
  | fuel + 1, depth, fs, cs =>
      match cs with
      | '"' :: r => do
          let (name, r) ← readText fuel r
          match skipSpace r with
          | ':' :: r =>
              let (v, r) ← readValue fuel depth (skipSpace r)
              let fs := Entries.set name v fs
              match skipSpace r with
              | '\x7d' :: r => return (fs, r)
              | ',' :: r => readFields fuel depth fs (skipSpace r)
              | r => .error (.complaint .expectingComma r.length)
          | r => .error (.complaint .expectingColon r.length)
      | _ => .error (.complaint .expectingName cs.length)

end

/-- One value with blanks around it and nothing else. -/
def readWholeText (cs : List Char) : Except Stop Tree :=
  match cs with
  | '\uFEFF' :: _ => .error (.complaint .byteOrderMark cs.length)
  | _ => do
      let (v, r) ← readValue (2 * cs.length + 2) maxDepth (skipSpace cs)
      match skipSpace r with
      | [] => return v
      | r => .error (.complaint .extraData r.length)

/-- The value that a JSON text denotes. -/
def read (s : String) : Except Flaw Tree :=
  (readWholeText s.toList).mapError (Stop.toFlaw s.toList)

end ReleaseHistory.Json
