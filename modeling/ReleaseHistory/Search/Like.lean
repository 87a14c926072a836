/-
# ReleaseHistory.Search.Like -- patterns with wildcards, and search terms

In a pattern `%` stands for any sequence of characters, `_` for any one
character, and a backslash makes the next character stand for itself.  Letters
of ASCII match in either case, text and pattern end at their first NUL, and the
noncharacters U+FFFE and U+FFFF match as the replacement character does.

A search term is found in a name when the pattern `%term%`, its special
characters escaped, matches the name.
-/
import ReleaseHistory.Text.Blank
import ReleaseHistory.Text.UpperCase

namespace ReleaseHistory.Search

set_option autoImplicit false

open Text

/-! ## Patterns -/

/-- One item of a pattern. -/
inductive PatternItem where
  | anyText
  | anyChar
  | char (c : Char)
  deriving DecidableEq, Repr

/-- The items of a pattern; none if it ends with a lone backslash. -/
def patternItems : List Char → Option (List PatternItem)
  | [] => some []
  | ['\\'] => none
  | '\\' :: c :: r => (patternItems r).map (.char c :: ·)
  | '%' :: r => (patternItems r).map (.anyText :: ·)
  | '_' :: r => (patternItems r).map (.anyChar :: ·)
  | c :: r => (patternItems r).map (.char c :: ·)

/-- The endings of a text, the whole text first and the empty one last. -/
def endings : List Char → List (List Char)
  | [] => [[]]
  | c :: r => (c :: r) :: endings r

/-- The items match the whole text. -/
def itemsMatch : List PatternItem → List Char → Bool
  | [], cs => cs.isEmpty
  | .anyText :: items, cs => (endings cs).any (itemsMatch items)
  | .anyChar :: items, _ :: cs => itemsMatch items cs
  | .char p :: items, c :: cs => p == c && itemsMatch items cs
  | _ :: _, [] => false

/-- The replacement character for a noncharacter at the end of the basic plane. -/
def replaceNoncharacter (c : Char) : Char :=
  if c == '\uFFFE' || c == '\uFFFF' then '\uFFFD' else c

/-- A text as it is compared: in lower case, up to its first NUL. -/
def comparable (cs : List Char) : List Char :=
  ((lowerAscii cs).takeWhile (· ≠ '\x00')).map replaceNoncharacter

/-- The pattern matches the whole text. -/
def isLike (text pattern : List Char) : Bool :=
  (patternItems (comparable pattern)).any fun items => itemsMatch items (comparable text)

/-! ## Terms -/

/-- A character of a term in a pattern. -/
def escapeChar (c : Char) : List Char :=
  if c == '\\' || c == '%' || c == '_' then ['\\', c] else [c]

/-- A term in a pattern, standing for itself. -/
def escapeTerm (cs : List Char) : List Char := cs.flatMap escapeChar

/-- The `escapeTerm` of a string. -/
def escapeText (s : String) : String := String.ofList (escapeTerm s.toList)

/-- The terms of a search: its words. -/
def terms (search : String) : List String := (words search.toList).map String.ofList

@[simp] theorem terms_empty : terms "" = [] := by decide +kernel

/-- The pattern that finds a term anywhere in a name. -/
def termPattern (term : String) : List Char := '%' :: escapeTerm term.toList ++ ['%']

/-- The name holds the term. -/
def holdsTerm (name term : String) : Bool := isLike name.toList (termPattern term)

/-- The length in bytes of the pattern for a term. -/
def patternBytes (term : String) : Nat := (String.ofList (termPattern term)).utf8ByteSize

/-- Looking for terms in a name one after the other, as long as they are found, comes to
a pattern that is longer than the given number of bytes. -/
def meetsLongPattern (maxBytes : Nat) (name : String) : List String → Bool
  | [] => false
  | t :: ts => maxBytes < patternBytes t || (holdsTerm name t && meetsLongPattern maxBytes name ts)

end ReleaseHistory.Search
