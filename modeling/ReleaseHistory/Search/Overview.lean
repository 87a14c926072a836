/-
# ReleaseHistory.Search.Overview -- counts and indexers of a history

`Database.stats` counts releases by what the filter made of them and action
statuses by how they ended.  `Database.indexers` lists the identifiers of the
indexers that announced something, each once, in ascending order.
-/
import ReleaseHistory.Store.Status
import ReleaseHistory.Text.Canonical

namespace ReleaseHistory

set_option autoImplicit false

/-- Counts over a whole history. -/
structure Stats where
  total : Nat
  filtered : Nat
  filterRejected : Nat
  pushApproved : Nat
  pushRejected : Nat
  pushErrors : Nat
  deriving DecidableEq, Repr

namespace Tables

/-- The number of releases of which the filter made this. -/
def countFiltered (ts : Tables) (f : FilterStatus) : Nat :=
  ts.releases.rows.countP fun r => r.2.filterStatusName == f.name

/-- The number of action statuses that ended like this. -/
def countPushed (ts : Tables) (p : PushStatus) : Nat :=
  ts.statuses.rows.countP fun s => s.2.statusName == p.name

end Tables

namespace Database

/-- The counts of the history. -/
def stats (db : Database) (c : Call) : Except Fault Stats × Database :=
  db.run c 1 do
    let ts ← Work.tables .release
    return { total := ts.releases.size
             filtered := ts.countFiltered .approved
             filterRejected := ts.countFiltered .rejected
             pushApproved := ts.countPushed .approved
             pushRejected := ts.countPushed .rejected
             pushErrors := ts.countPushed .error }

/-- The identifiers of all indexers, ascending. -/
def indexers (db : Database) (c : Call) : Except Fault (List String) × Database :=
  db.run c 1 do
    let ts ← Work.tables .release
    let identifiers := ts.releases.rows.map fun r => r.2.indexer.identifier
    return Text.orderedSet (identifiers.filter (· ≠ ""))

end Database

end ReleaseHistory
