/-
# ReleaseHistory.Store.Release -- keeping, reading and deleting single releases

A release with an id is kept under that id, which must be free; one without an
id gets the next one.  Reading a release attaches its action statuses; deleting
it takes them along.
-/
import ReleaseHistory.Store.Status

namespace ReleaseHistory

set_option autoImplicit false

namespace Tables

/-- The tables without the given releases and their statuses. -/
def dropReleases (ts : Tables) (ids : List Int) : Tables :=
  { ts with
    releases := ts.releases.filter fun id _ => !ids.contains id
    statuses := ts.statuses.filter fun _ s => !ids.contains s.releaseId }

end Tables

namespace Work

/-- Insert a release under the given id, or under the next one if it is 0. -/
def insertRelease (draws : List DrawnId) (id : Int) (r : StoredRelease) : Work Int := do
  let ts ← tables .release
  carry (id :: r.numbers)
  acquireLock
  if id ≠ 0 ∧ ts.releases.contains id then throw (.conflict .uniqueReleaseId)
  let id ← takeId (if id ≠ 0 then some id else ts.releases.nextId? draws)
  setTables { ts with releases := ts.releases.insert id r }
  return id

/-- Delete releases with their statuses. -/
def deleteReleases (ids : List Int) : Work Unit := do
  compose [ids.length] 0
  let ts ← tables .actionStatus
  acquireLock
  setTables (ts.dropReleases ids)

end Work

namespace Database

/-- Keep a release.  Without a timestamp it takes the time of the call, which it
keeps even if the write then fails; its id is set only on success. -/
def store (db : Database) (c : Call) (r : Release) : Written Release :=
  match c.stamp r.timestamp with
  | .error f => ⟨.error f, r, db⟩
  | .ok timestamp =>
      let r := { r with timestamp := some timestamp }
      match StoredRelease.ofRelease r timestamp with
      | .error f => ⟨.error f, r, db⟩
      | .ok row =>
          let result := db.run c 1 do
            let id ← Work.insertRelease c.draws r.id row
            Work.check c 2
            return id
          match result with
          | (.error f, db) => ⟨.error f, r, db⟩
          | (.ok id, db) => ⟨.ok id, { r with id }, db⟩

/-- The release with the given id and its action statuses. -/
def getRelease (db : Database) (c : Call) (id : Int) : Except Fault Release × Database :=
  db.run c 1 do
    let ts ← Work.tables .release
    Work.carry [id]
    match ts.releases.get? id with
    | none => throw (.notFound .release id)
    | some r =>
        let statuses ← Work.readStatuses [id]
        Work.ofExcept (r.toRelease id statuses)

/-- Delete a release with its statuses; false when there is none under the id. -/
def deleteRelease (db : Database) (c : Call) (id : Int) : Except Fault Bool × Database :=
  db.run c 1 do
    let ts ← Work.tables .release
    Work.carry [id]
    if !ts.releases.contains id then return false
    Work.deleteReleases [id]
    Work.check c 2
    return true

end Database

end ReleaseHistory
