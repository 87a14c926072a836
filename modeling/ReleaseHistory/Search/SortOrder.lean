/-
# ReleaseHistory.Search.SortOrder -- sort orders

A sort order is a list of keys with directions.  `SortOrder.resolve` turns it into
clauses and names the first entry that is no key or no direction.  Newest first
is the order where none is asked for; the id, falling, always comes last, so that
no two releases are equal in the order.

A written sort option is `key:direction`; the direction may be missing
(`SortOrder.ofOptions`).
-/
import ReleaseHistory.Entries
import ReleaseHistory.Fault
import ReleaseHistory.Store.Record
import ReleaseHistory.Text.UpperCase

namespace ReleaseHistory

set_option autoImplicit false

/-- One column of an order with its direction. -/
structure SortClause where
  column : SortColumn
  descending : Bool
  deriving DecidableEq, Repr

/-- A clause in words. -/
def SortClause.write (c : SortClause) : String :=
  "releases." ++ c.column.name ++ (if c.descending then " DESC" else " ASC")

namespace SortOrder

/-! ## Reading an order -/

/-- A key or direction without blanks around it and in lower case. -/
def fold (s : String) : String :=
  String.ofList (Text.lowerAscii (Text.trim Text.isBlank s.toList))

/-- Whether a direction is the falling one; a missing or empty direction is rising. -/
def isDescending? (direction : Option String) : Option Bool :=
  match fold (if direction.getD "" = "" then "asc" else direction.getD "") with
  | "asc" => some false
  | "desc" => some true
  | _ => none

/-- The clause of one entry. -/
def resolveEntry (entry : String × Option String) : Except ArgumentFault SortClause :=
  match SortColumn.ofKey? (fold entry.1) with
  | none => .error (.unknownSortKey entry.1)
  | some column =>
      match isDescending? entry.2 with
      | none => .error (.unknownDirection entry.1 (entry.2.getD ""))
      | some descending => .ok ⟨column, descending⟩

/-- The clauses of an order, closed by the falling id. -/
def resolve (entries : List (String × Option String)) :
    Except ArgumentFault (List SortClause) := do
  let clauses ← entries.mapM resolveEntry
  let clauses := if clauses.isEmpty then [⟨.timestamp, true⟩] else clauses
  return clauses ++ [⟨.id, true⟩]

/-- The part of a text before its first colon, and the part after it. -/
def splitOption (s : String) : String × String :=
  (String.ofList (s.toList.takeWhile (· ≠ ':')),
    String.ofList ((s.toList.dropWhile (· ≠ ':')).drop 1))

/-- Key and direction of one written option. -/
def readOption (s : String) : String × String :=
  let (key, direction) := splitOption s
  let direction := Text.strip direction
  (Text.strip key, if direction = "" then "asc" else direction)

/-- The order that a list of written options asks for.  A repeated key keeps its
first place and takes its last direction. -/
def ofOptions (options : List String) : List (String × String) :=
  Entries.ofList (options.map readOption)

/-! ## Comparing releases -/

/-- A kept release with its id. -/
abbrev Row := Int × StoredRelease

/-- The order of two releases by one column, rising. -/
def compareBy (column : SortColumn) (a b : Row) : Ordering :=
  match column with
  | .id => compare a.1 b.1
  | .timestamp => compare a.2.timestamp.fields b.2.timestamp.fields
  | .title => compare a.2.title b.2.title
  | .torrentName => compare a.2.torrentName b.2.torrentName
  | .indexerIdentifier => compare a.2.indexer.identifier b.2.indexer.identifier
  | .filterName => compare a.2.filterName b.2.filterName
  | .season => compare a.2.season b.2.season
  | .episode => compare a.2.episode b.2.episode
  | .year => compare a.2.year b.2.year
  | .size => compare a.2.size b.2.size
  | .resolution => compare a.2.resolution b.2.resolution
  | .source => compare a.2.source b.2.source
  | .group => compare a.2.group b.2.group
  | .protocol => compare a.2.protocolName b.2.protocolName

/-- The order of two releases by clauses, the first that tells them apart deciding. -/
def order : List SortClause → Row → Row → Ordering
  | [], _, _ => .eq
  | c :: cs, a, b =>
      (if c.descending then compareBy c.column b a else compareBy c.column a b).then (order cs a b)

/-- Releases in the order of the clauses. -/
def sort (clauses : List SortClause) (rows : List Row) : List Row :=
  rows.mergeSort fun a b => order clauses a b ≠ .gt

end SortOrder

end ReleaseHistory
