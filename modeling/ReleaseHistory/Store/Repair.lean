/-
# ReleaseHistory.Store.Repair -- changing a history by hand

Text columns can be set and releases removed without the checks of a
transaction.  A record spoilt this way is noticed when it is read.  Each repair
answers the number of records it changed.
-/
import ReleaseHistory.Store.Release

namespace ReleaseHistory

set_option autoImplicit false

/-- A text column of a kept release. -/
inductive ReleaseColumn where
  | codec
  | hdr
  | audio
  | tags
  | rejections
  | filterStatus
  | protocol
  | implementation
  | normalizedTitle
  deriving DecidableEq, Repr

/-- A text column of a kept action status. -/
inductive StatusColumn where
  | status
  | type
  | rejections
  deriving DecidableEq, Repr

/-- The record with one text column set. -/
def StoredRelease.setColumn (r : StoredRelease) (text : String) : ReleaseColumn → StoredRelease
  | .codec => { r with codecText := text }
  | .hdr => { r with hdrText := text }
  | .audio => { r with audioText := text }
  | .tags => { r with tagsText := text }
  | .rejections => { r with rejectionsText := text }
  | .filterStatus => { r with filterStatusName := text }
  | .protocol => { r with protocolName := text }
  | .implementation => { r with implementationName := text }
  | .normalizedTitle => { r with normalizedTitle := text }

/-- The record with one text column set. -/
def StoredStatus.setColumn (s : StoredStatus) (text : String) : StatusColumn → StoredStatus
  | .status => { s with statusName := text }
  | .type => { s with typeName := text }
  | .rejections => { s with rejectionsText := text }

namespace Database

/-- Change the record of one id in some table by hand, if it is there. -/
def repair (db : Database) (id : Int) (change : Tables → Option Tables) :
    Except Fault Nat × Database :=
  match db.tables with
  | none => (.error .storeFailure, db)
  | some ts =>
      if db.locked then (.error .storeFailure, db)
      else if !Work.fits64 id then (.error .overflow, db)
      else
        match change ts with
        | none => (.ok 0, db)
        | some ts => (.ok 1, { db with tables := some ts })

/-- Set a text column of a kept release. -/
def setReleaseColumn (db : Database) (id : Int) (column : ReleaseColumn) (text : String) :
    Except Fault Nat × Database :=
  db.repair id fun ts => (ts.releases.get? id).map fun r =>
    { ts with releases := ts.releases.insert id (r.setColumn text column) }

/-- Set a text column of a kept action status. -/
def setStatusColumn (db : Database) (id : Int) (column : StatusColumn) (text : String) :
    Except Fault Nat × Database :=
  db.repair id fun ts => (ts.statuses.get? id).map fun s =>
    { ts with statuses := ts.statuses.insert id (s.setColumn text column) }

/-- Remove a kept release with its action statuses. -/
def removeRelease (db : Database) (id : Int) : Except Fault Nat × Database :=
  db.repair id fun ts => (ts.releases.get? id).map fun _ => ts.dropReleases [id]

end Database

end ReleaseHistory
