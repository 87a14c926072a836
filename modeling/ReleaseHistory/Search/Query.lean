/-
# ReleaseHistory.Search.Query -- finding releases page by page

A query selects releases by search terms, indexers, filter status and push
status, orders them, and shows one page of them.  All conditions must hold; an
empty list of indexers and a missing status ask for nothing.

The page size is the default where none is asked for and never exceeds the
greatest.  With the page come the number of all matches and the offset at which
the next page starts.

A query with too many conditions or indexers is refused (`Store.Statement`).  So
is one with a long term, if that term comes to be looked for: the store goes
through the releases of the single indexer, else of the filter status, else of
the indexers that are asked for (`Query.visits`), and looks for the terms in
their order as long as they are found.
-/
import ReleaseHistory.Search.Like
import ReleaseHistory.Search.SortOrder
import ReleaseHistory.Settings.Basic
import ReleaseHistory.Store.Release
import ReleaseHistory.Store.Statement

namespace ReleaseHistory

set_option autoImplicit false

/-- A request for one page of releases. -/
structure Query where
  limit : Int := 0
  offset : Int := 0
  search : String := ""
  sort : List (String × Option String) := []
  indexers : List String := []
  pushStatus : Option PushStatus := none
  filterStatus : Option FilterStatus := none

/-- One page of releases. -/
structure Page where
  releases : List Release
  totalCount : Nat
  nextCursor : Int

namespace Query

/-- The offset at which the page after the given one starts. -/
def nextCursor (offset pageSize : Int) : Int := offset + pageSize

/-- Size and offset of the page that is asked for. -/
def page (q : Query) (s : PageSettings) : Except ArgumentFault (Int × Int) :=
  if q.offset < 0 then .error (.negativeOffset q.offset)
  else .ok (min (if 0 < q.limit then q.limit else s.defaultSize) s.maxSize, q.offset)

/-- The release satisfies all conditions. -/
def selects (q : Query) (ts : Tables) (row : Int × StoredRelease) : Bool :=
  (Search.terms q.search).all (Search.holdsTerm row.2.torrentName) &&
    (q.indexers.isEmpty || q.indexers.contains row.2.indexer.identifier) &&
    q.filterStatus.all (fun f => row.2.filterStatusName == f.name) &&
    q.pushStatus.all (fun p => ts.hasStatus row.1 [p.name])

/-- All releases that satisfy the conditions. -/
def matching (q : Query) (ts : Tables) : List (Int × StoredRelease) :=
  ts.releases.rows.filter (q.selects ts)

/-! ## The statements of a query -/

/-- The numbers of values that the conditions carry, one after another. -/
def conditions (q : Query) : List Nat :=
  (Search.terms q.search).map (fun _ => 1) ++
    (if q.indexers.isEmpty then [] else [q.indexers.length]) ++
    q.filterStatus.toList.map (fun _ => 1) ++ q.pushStatus.toList.map (fun _ => 1)

/-- The store looks for the terms in this release. -/
def visits (q : Query) (row : Int × StoredRelease) : Bool :=
  match q.indexers, q.filterStatus with
  | [identifier], _ => row.2.indexer.identifier == identifier
  | _, some f => row.2.filterStatusName == f.name
  | [], none => true
  | identifiers, none => identifiers.contains row.2.indexer.identifier

/-- The search comes to a term whose pattern is too long. -/
def meetsLongPattern (q : Query) (ts : Tables) : Bool :=
  let terms := Search.terms q.search
  terms.any (fun t => Statement.maxPatternBytes < Search.patternBytes t) &&
    ts.releases.rows.any fun row => q.visits row &&
      Search.meetsLongPattern Statement.maxPatternBytes row.2.torrentName terms

end Query

/-- The first elements of a list, all of them for a negative number. -/
def takeRows {α : Type} (limit : Int) (rows : List α) : List α :=
  if limit < 0 then rows else rows.take limit.toNat

/-- The releases of kept records, each with its own statuses among those given. -/
def readReleases (statuses : List ActionStatus) (rows : List (Int × StoredRelease)) :
    Except Fault (List Release) :=
  rows.mapM fun row => row.2.toRelease row.1 (statuses.filter fun s => s.releaseId == row.1)

/-- The page that a query asks for. -/
def Database.find (db : Database) (s : PageSettings) (c : Call) (q : Query) :
    Except Fault Page × Database :=
  match q.page s, SortOrder.resolve q.sort with
  | .error f, _ => (.error (.invalidArgument f), db)
  | .ok _, .error f => (.error (.invalidArgument f), db)
  | .ok (limit, offset), .ok clauses =>
      db.run c 1 do
        Work.compose q.conditions 0
        let ts ← Work.tables .release
        Work.resolve q.pushStatus.isSome q.conditions
        if q.meetsLongPattern ts then throw (.unavailable .longPattern)
        let found := q.matching ts
        Work.compose q.conditions 2
        Work.carry [limit, offset]
        let rows := takeRows limit ((SortOrder.sort clauses found).drop offset.toNat)
        let statuses ← Work.readStatuses (rows.map Prod.fst)
        let releases ← Work.ofExcept (readReleases statuses rows)
        return { releases
                 totalCount := found.length
                 nextCursor := Query.nextCursor offset releases.length }

end ReleaseHistory
