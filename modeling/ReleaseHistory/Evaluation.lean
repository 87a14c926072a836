/-
# ReleaseHistory.Evaluation -- accepting releases and recording what was done

`Database.evaluate` normalizes a release and runs the requested checks on it: that
it repeats no delivered release, and that its episode was not delivered before.
A check that the history cannot complete rejects the release, so that nothing is
fetched twice because the history could not be read.  The verdict is written on
the release.

`Database.record` keeps a release, if it is new, and then its action statuses one
by one, each in a transaction of its own; it stops at the first that fails.  Time
goes on from one transaction to the next, and the write lock may come and go, so
each of them meets a `Moment` of its own.
-/
import ReleaseHistory.Store.Deliveries
import ReleaseHistory.Store.Release

namespace ReleaseHistory

set_option autoImplicit false

/-! ## Evaluation -/

/-- The checks to be run on a release. -/
structure Checks where
  profile : Option Profile := none
  smartEpisode : Bool := false
  allowReacquire : Bool := false

/-- What an evaluation says of a release. -/
structure Verdict where
  accepted : Bool
  rejections : List String
  deriving DecidableEq, Repr

/-- A verdict, or the fault that kept it from being given, with the release as the
evaluation left it and the database. -/
structure Evaluated where
  outcome : Except Fault Verdict
  release : Release
  database : Database

/-- Why a release is rejected. -/
inductive Rejection where
  | duplicate
  | episodeDelivered
  | checkFailed (code : String)
  deriving DecidableEq, Repr

def Rejection.message : Rejection → String
  | .duplicate => "duplicate release"
  | .episodeDelivered => "episode already delivered"
  | .checkFailed code => "duplicate check failed: " ++ code

/-- The release with a verdict written on it. -/
def Release.judge (r : Release) (rejections : List String) : Release :=
  if rejections.isEmpty then { r with filterStatus := .approved }
  else { r with filterStatus := .rejected, rejections := r.rejections ++ rejections }

/-- The lookup of the unit that a release delivers. -/
def Release.airing (r : Release) : Airing where
  title := r.title
  season := r.season
  episode := r.episode
  year := r.year
  month := r.month
  day := r.day

namespace Database

/-- The rejections by the duplicate check. -/
def duplicateRejections (db : Database) (c : Call) (k : Checks) (r : Release) :
    Except Fault (List Rejection) × Database :=
  match k.profile with
  | none => (.ok [], db)
  | some p =>
      let (found, db) := db.isDuplicate c p r
      (found.map fun b => if b then [.duplicate] else [], db)

/-- The rejections by the episode check. -/
def episodeRejections (db : Database) (c : Call) (k : Checks) (r : Release) :
    Except Fault (List Rejection) × Database :=
  if k.smartEpisode then
    let (allowed, db) := db.mayDownload c r.airing k.allowReacquire
    (allowed.map fun b => if b then [] else [.episodeDelivered], db)
  else (.ok [], db)

/-- Both checks in turn: the rejections found, and the fault that ended the checks. -/
def rejections (db : Database) (c : Call) (k : Checks) (r : Release) :
    List Rejection × Option Fault × Database :=
  match db.duplicateRejections c k r with
  | (.error f, db) => ([], some f, db)
  | (.ok found, db) =>
      match db.episodeRejections c k r with
      | (.error f, db) => (found, some f, db)
      | (.ok more, db) => (found ++ more, none, db)

/-- The verdict on a release whose checks found the given rejections. -/
def conclude (db : Database) (r : Release) (found : List Rejection) : Evaluated :=
  let rejections := found.map Rejection.message
  ⟨.ok ⟨rejections.isEmpty, rejections⟩, r.judge rejections, db⟩

/-- Evaluate a release at the given time.  A fault of the history is a rejection;
any other fault ends the evaluation. -/
def evaluate (db : Database) (clock : DateTime) (k : Checks) (r : Release) : Evaluated :=
  let r := r.normalize
  match db.rejections { clock } k r with
  | (found, none, db) => db.conclude r found
  | (found, some f, db) =>
      match f.code? with
      | some code => db.conclude r (found ++ [.checkFailed code])
      | none => ⟨.error f, r, db⟩

end Database

/-! ## Recording -/

/-- What one of several transactions meets: the time, the ids that are drawn for its record,
and whether another party holds the write lock. -/
structure Moment where
  clock : DateTime
  draws : List DrawnId := []
  locked : Bool := false

/-- A call without limits at the moment. -/
def Moment.call (m : Moment) : Call := { clock := m.clock, draws := m.draws }

/-- The database as it is found at the moment. -/
def Database.foundAt (db : Database) (m : Moment) : Database := { db with locked := m.locked }

/-- The id of a recorded release, or the fault that ended the recording, with the
release and the statuses as it left them and the database. -/
structure Recorded where
  outcome : Except Fault Int
  release : Release
  statuses : List ActionStatus
  database : Database

/-- The status as one of the given release, whose filter it takes where it names none. -/
def ActionStatus.assign (s : ActionStatus) (r : Release) : ActionStatus :=
  { s with
    releaseId := r.id
    filterId := if s.filterId = 0 then r.filterId else s.filterId
    filter := if s.filter = "" then r.filterName else s.filter }

namespace Database

/-- Store statuses for a release one by one up to the first that fails, from the `k`-th
moment on. -/
def recordStatuses (moments : Nat → Moment) (r : Release) :
    Nat → Database → List ActionStatus → Except Fault Unit × List ActionStatus × Database
  | _, db, [] => (.ok (), [], db)
  | k, db, s :: ss =>
      let written := (db.foundAt (moments k)).storeStatus (moments k).call (s.assign r)
      match written.outcome with
      | .error f => (.error f, written.subject :: ss, written.database)
      | .ok _ =>
          let (outcome, rest, db) := recordStatuses moments r (k + 1) written.database ss
          (outcome, written.subject :: rest, db)

/-- Store statuses for a kept release and attach them to it. -/
def attach (db : Database) (moments : Nat → Moment) (r : Release) (ss : List ActionStatus) :
    Recorded :=
  match recordStatuses moments r 1 db ss with
  | (.error f, ss, db) => ⟨.error f, r, ss, db⟩
  | (.ok (), ss, db) => ⟨.ok r.id, { r with actionStatus := r.actionStatus ++ ss }, ss, db⟩

/-- Keep a release, if it is new, and its action statuses.  The release meets the moment 0,
the statuses those from 1 on. -/
def record (db : Database) (moments : Nat → Moment) (r : Release) (ss : List ActionStatus) :
    Recorded :=
  let db := db.foundAt (moments 0)
  if r.id = 0 then
    let written := db.store (moments 0).call r
    match written.outcome with
    | .error f => ⟨.error f, written.subject, ss, written.database⟩
    | .ok _ => written.database.attach moments written.subject ss
  else db.attach moments r ss

end Database

end ReleaseHistory
