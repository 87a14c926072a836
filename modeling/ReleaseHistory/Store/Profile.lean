/-
# ReleaseHistory.Store.Profile -- keeping duplicate profiles

Profiles have distinct names.  A profile with an id replaces the kept one; one
without an id is added.  Replacing a profile by itself writes nothing.
-/
import ReleaseHistory.Store.Database

namespace ReleaseHistory

set_option autoImplicit false

namespace Tables

/-- Some profile other than the one with the given id has the name. -/
def nameTaken (ts : Tables) (id : Int) (name : String) : Bool :=
  ts.profiles.rows.any fun p => p.1 ≠ id && p.2.name == name

/-- The profiles ordered by name. -/
def profilesByName (ts : Tables) : List (Int × NamedSwitches) :=
  ts.profiles.rows.mergeSort fun a b => a.2.name ≤ b.2.name

end Tables

namespace Work

/-- Add a profile under the next id. -/
def addProfile (draws : List DrawnId) (p : NamedSwitches) : Work Int := do
  let ts ← tables .profile
  acquireLock
  let id ← takeId (ts.profiles.nextId? draws)
  if ts.profiles.rows.any (·.2.name == p.name) then throw (.conflict .uniqueProfileName)
  setTables { ts with profiles := ts.profiles.insert id p }
  return id

/-- Replace the profile with the given id. -/
def replaceProfile (id : Int) (p : NamedSwitches) : Work Int := do
  let ts ← tables .profile
  carry [id]
  match ts.profiles.get? id with
  | none => throw (.notFound .profile id)
  | some old =>
      if old ≠ p then
        acquireLock
        if ts.nameTaken id p.name then throw (.conflict .uniqueProfileName)
        setTables { ts with profiles := ts.profiles.insert id p }
      return id

end Work

namespace Database

/-- Add a profile without an id, or replace the kept one that has its id. -/
def storeProfile (db : Database) (c : Call) (p : Profile) : Written Profile :=
  let result := db.run c 1 do
    let id ←
      if p.id = 0 then Work.addProfile c.draws p.toNamedSwitches
      else Work.replaceProfile p.id p.toNamedSwitches
    Work.check c 2
    return id
  match result with
  | (.error f, db) => ⟨.error f, p, db⟩
  | (.ok id, db) => ⟨.ok id, { p with id }, db⟩

/-- The profile with the given id. -/
def getProfile (db : Database) (c : Call) (id : Int) : Except Fault Profile × Database :=
  db.run c 1 do
    let ts ← Work.tables .profile
    Work.carry [id]
    match ts.profiles.get? id with
    | none => throw (.notFound .profile id)
    | some p => return { toNamedSwitches := p, id }

/-- All profiles in the order of their names. -/
def listProfiles (db : Database) (c : Call) : Except Fault (List Profile) × Database :=
  db.run c 1 do
    let ts ← Work.tables .profile
    return ts.profilesByName.map fun p => { toNamedSwitches := p.2, id := p.1 }

/-- Delete a profile; false when there is none under the id. -/
def deleteProfile (db : Database) (c : Call) (id : Int) : Except Fault Bool × Database :=
  db.run c 1 do
    let ts ← Work.tables .profile
    Work.carry [id]
    if !ts.profiles.contains id then return false
    Work.check c 2
    Work.acquireLock
    Work.setTables { ts with profiles := ts.profiles.erase id }
    return true

end Database

end ReleaseHistory
