/-
# ReleaseHistory.Store.Purge -- deleting many releases in batches

A purge deletes the releases of an age, of some indexers and with some action
statuses; an age of zero hours and an empty list ask for nothing.  It works in
batches of ascending ids, one transaction each, until a look finds nothing more.
What earlier batches deleted stays deleted when a later one fails.
-/
import ReleaseHistory.Search.Query
import ReleaseHistory.Store.Statement

namespace ReleaseHistory

set_option autoImplicit false

/-- Which releases to delete. -/
structure Purge where
  olderThanHours : Int := 0
  indexers : List String := []
  statuses : List PushStatus := []

namespace Purge

/-- The point in time, without an offset, before which a release is old enough; none
if age does not matter. -/
def cutoff? (p : Purge) (c : Call) : Except Fault (Option DateTime) :=
  if p.olderThanHours ≤ 0 then .ok none
  else do
    let now ← c.time
    match (now.addMicros? (-(p.olderThanHours * microsPerHour))).bind DateTime.toNaiveUtc? with
    | none => .error .overflow
    | some t => return some t

/-- The release is to be deleted. -/
def selects (p : Purge) (cutoff : Option DateTime) (ts : Tables) (row : Int × StoredRelease) :
    Bool :=
  cutoff.all (fun t => row.2.timestamp.fields < t.fields) &&
    (p.indexers.isEmpty || p.indexers.contains row.2.indexer.identifier) &&
    (p.statuses.isEmpty || ts.hasStatus row.1 (p.statuses.map PushStatus.name))

/-- The ids of the releases to be deleted, ascending. -/
def matching (p : Purge) (cutoff : Option DateTime) (ts : Tables) : List Int :=
  (ts.releases.rows.filter (p.selects cutoff ts)).map Prod.fst

/-- The numbers of values that the conditions of a look carry, one after another. -/
def conditions (p : Purge) (cutoff : Option DateTime) : List Nat :=
  cutoff.toList.map (fun _ => 1) ++ (if p.indexers.isEmpty then [] else [p.indexers.length]) ++
    (if p.statuses.isEmpty then [] else [p.statuses.length])

/-- Delete one batch and tell which releases it held.  The `k`-th batch, counted from
zero, makes two checks, the last look of a purge one. -/
def batch (p : Purge) (cutoff : Option DateTime) (size : Int) (c : Call) (k : Nat) :
    Work (List Int) := do
  Work.compose (p.conditions cutoff) 2
  let ts ← Work.tables .release
  Work.carry [size]
  let ids := takeRows size (p.matching cutoff ts)
  if ids.isEmpty then return []
  Work.deleteReleases ids
  Work.check c (2 * k + 2)
  return ids

/-- Delete batches from the `k`-th on, at most the given number of them. -/
def batchesFrom (p : Purge) (cutoff : Option DateTime) (size : Int) (c : Call) :
    Nat → Nat → Database → Except Fault Nat × Database
  | 0, _, db => (.ok 0, db)
  | fuel + 1, k, db =>
      match db.run c (2 * k + 1) (p.batch cutoff size c k) with
      | (.error f, db) => (.error f, db)
      | (.ok [], db) => (.ok 0, db)
      | (.ok ids, db) =>
          match batchesFrom p cutoff size c fuel (k + 1) db with
          | (.error f, db) => (.error f, db)
          | (.ok n, db) => (.ok (ids.length + n), db)

end Purge

/-- The number of releases of a history. -/
def Database.releaseCount (db : Database) : Nat := (db.tables.map (·.releases.size)).getD 0

/-- Delete releases in batches of the given size and count them. -/
def Database.purge (db : Database) (size : Int) (c : Call) (p : Purge) :
    Except Fault Nat × Database :=
  if p.olderThanHours < 0 then (.error (.invalidArgument (.negativeAge p.olderThanHours)), db)
  else
    match p.cutoff? c with
    | .error f => (.error f, db)
    | .ok cutoff => p.batchesFrom cutoff size c (db.releaseCount + 1) 0 db

end ReleaseHistory
