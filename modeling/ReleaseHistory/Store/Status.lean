/-
# ReleaseHistory.Store.Status -- the log of action statuses

An action status belongs to a kept release.  It is appended under the next id;
its own id is not used.  Without a timestamp it takes the time of the call, which
it keeps even if the write then fails.
-/
import ReleaseHistory.Store.Statement

namespace ReleaseHistory

set_option autoImplicit false

namespace Tables

/-- The kept statuses of the given releases, in ascending order of their ids. -/
def statusesOf (ts : Tables) (releaseIds : List Int) : List (Int × StoredStatus) :=
  ts.statuses.rows.filter fun s => releaseIds.contains s.2.releaseId

/-- Some status of the release has one of the given names. -/
def hasStatus (ts : Tables) (releaseId : Int) (names : List String) : Bool :=
  ts.statuses.rows.any fun s => s.2.releaseId == releaseId && names.contains s.2.statusName

end Tables

namespace Work

/-- The statuses of the given releases, read in ascending order of their ids. -/
def readStatuses (releaseIds : List Int) : Work (List ActionStatus) :=
  if releaseIds.isEmpty then pure []
  else do
    compose [releaseIds.length] 0
    let ts ← tables .actionStatus
    carry releaseIds
    (ts.statusesOf releaseIds).mapM fun s => ofExcept (s.2.toStatus s.1)

/-- Append a status to the log. -/
def insertStatus (draws : List DrawnId) (s : StoredStatus) : Work Int := do
  let ts ← tables .actionStatus
  carry s.numbers
  acquireLock
  let id ← takeId (ts.statuses.nextId? draws)
  if !ts.releases.contains s.releaseId then throw (.conflict .statusOwner)
  setTables { ts with statuses := ts.statuses.insert id s }
  return id

end Work

namespace Database

/-- Append a status to the log of its release. -/
def storeStatus (db : Database) (c : Call) (s : ActionStatus) : Written ActionStatus :=
  match c.stamp s.timestamp with
  | .error f => ⟨.error f, s, db⟩
  | .ok timestamp =>
      let s := { s with timestamp := some timestamp }
      match StoredStatus.ofStatus s timestamp with
      | .error f => ⟨.error f, s, db⟩
      | .ok row =>
          let result := db.run c 1 do
            let id ← Work.insertStatus c.draws row
            Work.check c 2
            return id
          match result with
          | (.error f, db) => ⟨.error f, s, db⟩
          | (.ok id, db) => ⟨.ok id, { s with id }, db⟩

/-- The status with the given id. -/
def getStatus (db : Database) (c : Call) (id : Int) : Except Fault ActionStatus × Database :=
  db.run c 1 do
    let ts ← Work.tables .actionStatus
    Work.carry [id]
    match ts.statuses.get? id with
    | none => throw (.notFound .actionStatus id)
    | some s => Work.ofExcept (s.toStatus id)

/-- The statuses of a release in the order in which they were stored. -/
def listStatuses (db : Database) (c : Call) (releaseId : Int) :
    Except Fault (List ActionStatus) × Database :=
  db.run c 1 (Work.readStatuses [releaseId])

end Database

end ReleaseHistory
