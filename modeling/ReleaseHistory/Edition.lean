/-
# ReleaseHistory.Edition -- the edition markers that close a release name

A release that replaces an earlier one says so by a marker word at the end of
its name.  This module reads those markers.

* A *separator* is a blank, a full stop, an underscore or a dash.
* A *marker* is `proper`, `repack` with at most one decimal digit, or `rerip`,
  optionally after the word `real` and separators; case does not matter.
* A *run* is one or more markers with separators between neighbours and
  possibly after the last.

Only a run that ends the text and starts at its beginning or after a separator
is an edition; a marker word with title words after it belongs to the title
(`trailingRun`).  `mentions` looks for a marker anywhere, bounded on both sides
by something other than an ASCII letter or digit.
-/
import ReleaseHistory.Text.Blank
import ReleaseHistory.Text.Digit

namespace ReleaseHistory

set_option autoImplicit false

/-- What a marker announces: a corrected release, or the same one packed again. -/
inductive Edition where
  | proper
  | repack
  deriving DecidableEq, Repr

namespace Edition

open Text

/-! ## Letters and words -/

/-- A character that separates the words of a release name. -/
def isSeparator (c : Char) : Bool := isBlank c || c == '.' || c == '_' || c == '-'

/-- Whether a character is the given lower-case letter in either case.  The Kelvin
sign is a `k`; the dotted capital and the dotless small i are an `i`. -/
def sameLetter (letter c : Char) : Bool :=
  c == letter || c == letter.toUpper || (letter == 'k' && c == '\u212A') ||
    (letter == 'i' && (c == '\u0130' || c == '\u0131'))

/-- A letter or digit of ASCII in either case, with the four characters beyond
ASCII that have an ASCII letter as their other case. -/
def isNameChar (c : Char) : Bool :=
  c.isAlphanum || c == '\u0130' || c == '\u0131' || c == '\u017F' || c == '\u212A'

/-- What follows a keyword that opens a text. -/
def afterKeyword : List Char → List Char → Option (List Char)
  | [], r => some r
  | k :: ks, c :: r => if sameLetter k c then afterKeyword ks r else none
  | _ :: _, [] => none

def properWord : List Char := ['p', 'r', 'o', 'p', 'e', 'r']
def repackWord : List Char := ['r', 'e', 'p', 'a', 'c', 'k']
def reripWord : List Char := ['r', 'e', 'r', 'i', 'p']
def realWord : List Char := ['r', 'e', 'a', 'l']

/-- The texts that may follow a marker of the given edition at the head of a text.
A `repack` followed by a digit is a marker with and without that digit. -/
def afterMarker : Edition → List Char → List (List Char)
  | .proper, cs => (afterKeyword properWord cs).toList
  | .repack, cs =>
      (match afterKeyword repackWord cs with
        | none => []
        | some [] => [[]]
        | some (d :: r) => if isDecimal d then [d :: r, r] else [d :: r]) ++
      (afterKeyword reripWord cs).toList

/-! ## Markers anywhere in a text -/

/-- A marker of the edition opens the text and no letter or digit follows it. -/
def opens (e : Edition) (cs : List Char) : Bool :=
  (afterMarker e cs).any fun r => !r.head?.any isNameChar

/-- A marker of the edition stands somewhere in the text; `inside` tells whether a
letter or digit comes before the text. -/
def mentionsFrom (e : Edition) : Bool → List Char → Bool
  | _, [] => false
  | inside, c :: r => (!inside && opens e (c :: r)) || mentionsFrom e (isNameChar c) r

/-- A marker of the edition stands somewhere in the text. -/
def mentions (e : Edition) (cs : List Char) : Bool := mentionsFrom e false cs

/-! ## The run that ends a text -/

/-- The edition that a whole word marks. -/
def ofWord? (w : List Char) : Option Edition :=
  if (afterMarker .proper w).contains [] then some .proper
  else if (afterMarker .repack w).contains [] then some .repack
  else none

/-- What one more word does to a run: whether it is a `real` that needs its marker, or
none if the word is out of place.  `pending` tells whether such a `real` came before. -/
def nextPending? (pending : Bool) (w : List Char) : Option Bool :=
  if !pending && afterKeyword realWord w == some [] then some true
  else (ofWord? w).map fun _ => false

/-- The words of a text, and the one whose last characters come before it, are markers.
`word` holds those characters, last first. -/
def onlyMarkers : Bool → List Char → List Char → Bool
  | pending, word, [] =>
      if word.isEmpty then !pending else nextPending? pending word.reverse == some false
  | pending, word, c :: r =>
      if !isSeparator c then onlyMarkers pending (c :: word) r
      else if word.isEmpty then onlyMarkers pending [] r
      else
        match nextPending? pending word.reverse with
        | none => false
        | some pending => onlyMarkers pending [] r

/-- The text is a run: it starts with a word, and its words are markers. -/
def isRun (cs : List Char) : Bool :=
  match cs with
  | [] => false
  | c :: _ => !isSeparator c && onlyMarkers false [] cs

/-- A text cut in front of the longest run that ends it and that starts after a
separator, or at the very start if `free` holds. -/
def splitRunFrom : Bool → List Char → List Char × List Char
  | _, [] => ([], [])
  | free, c :: r =>
      if free && isRun (c :: r) then ([], c :: r)
      else
        let (before, run) := splitRunFrom (isSeparator c) r
        (c :: before, run)

/-- A text cut in front of the run of markers that ends it. -/
def splitRun (cs : List Char) : List Char × List Char := splitRunFrom true cs

/-- Cutting a text loses nothing. -/
theorem splitRunFrom_append :
    ∀ (free : Bool) (cs : List Char), (splitRunFrom free cs).1 ++ (splitRunFrom free cs).2 = cs
  | _, [] => rfl
  | free, c :: r => by
      simp only [splitRunFrom]
      split
      · rfl
      · rw [List.cons_append, splitRunFrom_append (isSeparator c) r]

/-- What is cut off is a run, if it is anything. -/
theorem isRun_splitRunFrom :
    ∀ (free : Bool) (cs : List Char),
      (splitRunFrom free cs).2 = [] ∨ isRun (splitRunFrom free cs).2 = true
  | _, [] => .inl rfl
  | free, c :: r => by
      simp only [splitRunFrom]
      split
      · rename_i h
        exact .inr (Bool.and_eq_true_iff.1 h).2
      · exact isRun_splitRunFrom (isSeparator c) r

/-- The run of markers that ends a text, or nothing. -/
def trailingRun (cs : List Char) : List Char := (splitRun cs).2

/-- The run that ends the text announces the edition. -/
def announces (e : Edition) (cs : List Char) : Bool := mentions e (trailingRun cs)

/-- Space, full stop, underscore and dash: what is trimmed where a run was removed. -/
def isEdge (c : Char) : Bool := c == ' ' || c == '.' || c == '_' || c == '-'

/-- The text without the run that ends it, its blanks collapsed and its ends trimmed. -/
def withoutRun (cs : List Char) : List Char :=
  trim isEdge (collapseBlanks (splitRun cs).1)

/-! ## On strings -/

/-- The `trailingRun` of a string. -/
def trailingText (s : String) : String := String.ofList (trailingRun s.toList)

/-- A string `withoutRun`. -/
def stripText (s : String) : String := String.ofList (withoutRun s.toList)

/-- The run that ends the string announces the edition. -/
def announcedBy (e : Edition) (s : String) : Bool := e.announces s.toList

/-- The title of a name: without its edition markers, unless nothing else is left. -/
def titleText (s : String) : String := if stripText s = "" then s else stripText s

end Edition

end ReleaseHistory
