/-
# ReleaseHistory.Proofs.Retry -- a single write that fails leaves nothing behind

A `SingleWrite` is one of the five writes that consist of a single transaction, with the
object that the caller hands over.  `attempt` gives all that comes of one: its answer, the
object as the caller holds it afterwards, and the database.

* A write that fails leaves the database as it was.  In the object a missing timestamp may
  have become the time of the call; nothing else changes (`attempt_of_error`).
* So a failed write can be left out of a run (`Run.database_append_of_same`), and making it
  again does what it would have done the first time: with the timestamp that it has by then,
  or as it was, if the clock shows what it showed.
-/
import ReleaseHistory.Proofs.Ledger

namespace ReleaseHistory

set_option autoImplicit false

/-! ## Timestamps that a write fills in -/

namespace Call

variable {c again : Call}

/-- A timestamp after a write: where there was none, the time of the call, if it has one. -/
def fill (c : Call) (timestamp : Option DateTime) : Option DateTime :=
  timestamp.orElse fun _ => c.time.toOption

theorem fill_of_stamp {timestamp : Option DateTime} {t : DateTime} (stamped : c.stamp timestamp = .ok t) :
    c.fill timestamp = some t := by
  cases timestamp with
  | some u => exact congrArg some (Except.ok.inj stamped)
  | none =>
      have told : c.time = .ok t := stamped
      show c.time.toOption = some t
      rw [told]
      rfl

/-- A write that cannot take the time leaves the timestamp out. -/
theorem fill_of_stamp_error {timestamp : Option DateTime} {f : Fault}
    (untold : c.stamp timestamp = .error f) : c.fill timestamp = timestamp := by
  cases timestamp with
  | some u => cases untold
  | none =>
      have failed : c.time = .error f := untold
      show c.time.toOption = none
      rw [failed]
      rfl

theorem stamp_of_clock (same : again.clock = c.clock) (timestamp : Option DateTime) :
    again.stamp timestamp = c.stamp timestamp := by
  cases timestamp with
  | some u => rfl
  | none => exact congrArg readClock same

/-- A filled timestamp stands for the same time as long as the clock does. -/
theorem stamp_fill (same : again.clock = c.clock) (timestamp : Option DateTime) :
    again.stamp (c.fill timestamp) = again.stamp timestamp := by
  rw [stamp_of_clock same, stamp_of_clock same]
  cases stamped : c.stamp timestamp with
  | error f => rw [fill_of_stamp_error stamped, stamped]
  | ok t =>
      rw [fill_of_stamp stamped]
      rfl

end Call

/-- A release after a write of the call that failed. -/
def Release.stampedBy (c : Call) (r : Release) : Release := { r with timestamp := c.fill r.timestamp }

/-- A status after a write of the call that failed. -/
def ActionStatus.stampedBy (c : Call) (s : ActionStatus) : ActionStatus :=
  { s with timestamp := c.fill s.timestamp }

namespace Database

variable {db : Database} {c again : Call}

/-- A write whose transaction failed leaves its object as it went in. -/
theorem written_subject_of_error {α : Type} {ran : Except Fault Int × Database} {given : α}
    {done : Int → α} {f : Fault}
    (failure : (match ran with
      | (.error f, db) => (⟨.error f, given, db⟩ : Written α)
      | (.ok id, db) => ⟨.ok id, done id, db⟩).outcome = .error f) :
    (match ran with
      | (.error f, db) => (⟨.error f, given, db⟩ : Written α)
      | (.ok id, db) => ⟨.ok id, done id, db⟩).subject = given := by
  obtain ⟨outcome, after⟩ := ran
  cases outcome with
  | error g => rfl
  | ok id => cases failure

theorem store_subject_of_error {r : Release} {f : Fault}
    (failure : (db.store c r).outcome = .error f) : (db.store c r).subject = r.stampedBy c := by
  unfold Database.store at failure ⊢
  cases stamped : c.stamp r.timestamp with
  | error g => rw [Release.stampedBy, Call.fill_of_stamp_error stamped]
  | ok t =>
      rw [Release.stampedBy, Call.fill_of_stamp stamped]
      cases written : StoredRelease.ofRelease { r with timestamp := some t } t with
      | error g => simp only [written]
      | ok row =>
          simp only [stamped, written] at failure ⊢
          exact written_subject_of_error failure

theorem storeStatus_subject_of_error {s : ActionStatus} {f : Fault}
    (failure : (db.storeStatus c s).outcome = .error f) :
    (db.storeStatus c s).subject = s.stampedBy c := by
  unfold Database.storeStatus at failure ⊢
  cases stamped : c.stamp s.timestamp with
  | error g => rw [ActionStatus.stampedBy, Call.fill_of_stamp_error stamped]
  | ok t =>
      rw [ActionStatus.stampedBy, Call.fill_of_stamp stamped]
      cases written : StoredStatus.ofStatus { s with timestamp := some t } t with
      | error g => simp only [written]
      | ok row =>
          simp only [stamped, written] at failure ⊢
          exact written_subject_of_error failure

theorem storeProfile_subject_of_error {p : Profile} {f : Fault}
    (failure : (db.storeProfile c p).outcome = .error f) : (db.storeProfile c p).subject = p :=
  written_subject_of_error failure

/-- Keeping a release whose timestamp was filled in is keeping it as it was, while the clock
stands. -/
theorem store_stampedBy (same : again.clock = c.clock) (r : Release) :
    db.store again (r.stampedBy c) = db.store again r := by
  unfold Database.store
  simp only [Release.stampedBy]
  rw [Call.stamp_fill same]
  cases stamped : again.stamp r.timestamp with
  | ok t => rfl
  | error f =>
      rw [Call.stamp_of_clock same] at stamped
      simp only [Call.fill_of_stamp_error stamped]

theorem storeStatus_stampedBy (same : again.clock = c.clock) (s : ActionStatus) :
    db.storeStatus again (s.stampedBy c) = db.storeStatus again s := by
  unfold Database.storeStatus
  simp only [ActionStatus.stampedBy]
  rw [Call.stamp_fill same]
  cases stamped : again.stamp s.timestamp with
  | ok t => rfl
  | error f =>
      rw [Call.stamp_of_clock same] at stamped
      simp only [Call.fill_of_stamp_error stamped]

end Database

/-! ## The five single writes -/

/-- A write that is one transaction, with its object or the id of a record. -/
inductive SingleWrite where
  | store (r : Release)
  | storeStatus (s : ActionStatus)
  | storeProfile (p : Profile)
  | deleteRelease (id : Int)
  | deleteProfile (id : Int)
  deriving DecidableEq

/-- The answer of a single write: the id of what was kept, or whether there was something to
delete. -/
inductive WriteAnswer where
  | kept (id : Int)
  | deleted (existed : Bool)
  deriving DecidableEq, Repr

/-- All that comes of a single write: its answer, the write with its object as the caller holds
it afterwards, and the database. -/
structure WriteResult where
  answer : Except Fault WriteAnswer
  left : SingleWrite
  database : Database

/-- The outcome of a write with the object that it leaves. -/
def Written.toResult {α : Type} (w : Written α) (object : α → SingleWrite) : WriteResult :=
  ⟨w.outcome.map .kept, object w.subject, w.database⟩

namespace SingleWrite

/-- Make the write. -/
def attempt (w : SingleWrite) (c : Call) (db : Database) : WriteResult :=
  match w with
  | .store r => (db.store c r).toResult .store
  | .storeStatus s => (db.storeStatus c s).toResult .storeStatus
  | .storeProfile p => (db.storeProfile c p).toResult .storeProfile
  | .deleteRelease id => ⟨(db.deleteRelease c id).1.map .deleted, w, (db.deleteRelease c id).2⟩
  | .deleteProfile id => ⟨(db.deleteProfile c id).1.map .deleted, w, (db.deleteProfile c id).2⟩

/-- The write as an operation of a history. -/
def operation : SingleWrite → Operation
  | .store r => .store r
  | .storeStatus s => .storeStatus s
  | .storeProfile p => .storeProfile p
  | .deleteRelease id => .deleteRelease id
  | .deleteProfile id => .deleteProfile id

/-- The id of the object, or of the record to delete. -/
def id : SingleWrite → Int
  | .store r => r.id
  | .storeStatus s => s.id
  | .storeProfile p => p.id
  | .deleteRelease id => id
  | .deleteProfile id => id

/-- The write with a missing timestamp of its object filled in; all else is as it was. -/
def stampedBy (c : Call) : SingleWrite → SingleWrite
  | .store r => .store (r.stampedBy c)
  | .storeStatus s => .storeStatus (s.stampedBy c)
  | w => w

variable {w : SingleWrite} {c again : Call} {db : Database} {f : Fault}

theorem id_stampedBy (c : Call) (w : SingleWrite) : (w.stampedBy c).id = w.id := by
  cases w <;> rfl

theorem database_attempt (w : SingleWrite) (c : Call) (db : Database) :
    (w.attempt c db).database = w.operation.perform c db := by
  cases w <;> rfl

/-- A single write that fails leaves the database as it was, and of its object at most a missing
timestamp is filled in. -/
theorem attempt_of_error (failed : (w.attempt c db).answer = .error f) :
    (w.attempt c db).database = db ∧ (w.attempt c db).left = w.stampedBy c := by
  cases w with
  | store r =>
      have failure := map_eq_error_iff.1 failed
      exact ⟨Database.store_database_of_error failure,
        congrArg store (Database.store_subject_of_error failure)⟩
  | storeStatus s =>
      have failure := map_eq_error_iff.1 failed
      exact ⟨Database.storeStatus_database_of_error failure,
        congrArg storeStatus (Database.storeStatus_subject_of_error failure)⟩
  | storeProfile p =>
      have failure := map_eq_error_iff.1 failed
      exact ⟨Database.storeProfile_database_of_error failure,
        congrArg storeProfile (Database.storeProfile_subject_of_error failure)⟩
  | deleteRelease id =>
      have failure := map_eq_error_iff.1 failed
      exact ⟨Database.run_of_error (Prod.ext failure rfl), rfl⟩
  | deleteProfile id =>
      have failure := map_eq_error_iff.1 failed
      exact ⟨Database.run_of_error (Prod.ext failure rfl), rfl⟩

/-- Making a write with its timestamp filled in is making it as it was, while the clock
stands. -/
theorem attempt_stampedBy (same : again.clock = c.clock) (w : SingleWrite) (db : Database) :
    (w.stampedBy c).attempt again db = w.attempt again db := by
  cases w with
  | store r => exact congrArg (Written.toResult · store) (Database.store_stampedBy same r)
  | storeStatus s =>
      exact congrArg (Written.toResult · storeStatus) (Database.storeStatus_stampedBy same s)
  | storeProfile p => rfl
  | deleteRelease id => rfl
  | deleteProfile id => rfl

end SingleWrite

/-! ## Leaving failed writes out of a run -/

/-- What follows in a run depends on the database alone. -/
theorem Run.database_append_of_same {run run' : Run} (same : run.database = run'.database)
    (later : Run) : Run.database (later ++ run) = Run.database (later ++ run') := by
  induction later with
  | nil => exact same
  | cons s later ih => exact congrArg s.after ih

/-- A step that leaves the database as it found it can be left out of a run. -/
theorem Run.database_cons_of_unchanged {s : Step} {run : Run}
    (unchanged : s.operation.perform s.call (s.before run.database) = s.before run.database) :
    Run.database (s :: run) = run.database := by
  obtain ⟨ts, database, -⟩ := run.faithful
  show s.after run.database = run.database
  rw [Step.after, unchanged, database]
  rfl

namespace SingleWrite

/-- A single write that fails changes no table, and in its object at most a missing timestamp,
which becomes the time of the call.  Every run goes on as if the write had not been made; the
write that the caller is left with, made again after any such run, under any limits and with
any lock, does what it does where the first one was not made.  That is what the write does as
it was given, if the clock shows what it showed then. -/
theorem retry_eq (earlier : Run) (w : SingleWrite) (c : Call) (locked : Bool) (f : Fault)
    (left : SingleWrite) (db : Database)
    (failed : w.attempt c { earlier.database with locked } = ⟨.error f, left, db⟩) :
    db = { earlier.database with locked } ∧ left = w.stampedBy c ∧ left.id = w.id ∧
      ∀ later : Run,
        Run.database (later ++ ⟨w.operation, c, locked⟩ :: earlier) = Run.database (later ++ earlier) ∧
        ∀ (again : Call) (held : Bool),
          left.attempt again
              { Run.database (later ++ ⟨w.operation, c, locked⟩ :: earlier) with locked := held } =
            (w.stampedBy c).attempt again { Run.database (later ++ earlier) with locked := held } ∧
          (again.clock = c.clock →
            left.attempt again
                { Run.database (later ++ ⟨w.operation, c, locked⟩ :: earlier) with locked := held } =
              w.attempt again { Run.database (later ++ earlier) with locked := held }) := by
  obtain ⟨unchanged, stamped⟩ := attempt_of_error (congrArg WriteResult.answer failed)
  have skipped : Run.database (⟨w.operation, c, locked⟩ :: earlier) = earlier.database :=
    Run.database_cons_of_unchanged ((database_attempt w c _).symm.trans unchanged)
  rw [failed] at unchanged stamped
  subst unchanged stamped
  refine ⟨rfl, rfl, id_stampedBy c w, ?_⟩
  intro later
  -- what follows a failed write finds what it would find without it
  have same := Run.database_append_of_same skipped later
  refine ⟨same, ?_⟩
  intro again held
  rw [same]
  exact ⟨rfl, fun stands => attempt_stampedBy stands w _⟩

/-- A release that was to take an id in use is kept under it once the id is free, with the time
of the first attempt. -/
theorem retry_eq_delivery :
    let w : SingleWrite := .store { torrentName := "b", title := "B", id := 1 }
    let left := w.stampedBy .inMay
    let freed : Step := { operation := .deleteRelease 1, call := .inMay }
    let tomorrow : Call := { clock := ⟨⟨2024, 5, 2, by decide⟩, 0, some 0, by decide⟩ }
    (w.attempt .inMay Run.delivery.database).answer = .error (.conflict .uniqueReleaseId) ∧
      left.attempt tomorrow
          (Run.database (freed :: ⟨w.operation, .inMay, false⟩ :: Run.delivery)) =
        left.attempt tomorrow (Run.database (freed :: Run.delivery)) ∧
      (left.attempt tomorrow (Run.database (freed :: Run.delivery))).answer = .ok (.kept 1) := by
  intro w left freed tomorrow
  have failed : (w.attempt .inMay Run.delivery.database).answer =
      .error (.conflict .uniqueReleaseId) := by decide +kernel
  have stamped : (w.attempt .inMay Run.delivery.database).left = left := by decide +kernel
  obtain ⟨-, -, -, goesOn⟩ := retry_eq Run.delivery w .inMay false (.conflict .uniqueReleaseId) left
    (w.attempt .inMay Run.delivery.database).database (by rw [← failed, ← stamped]; rfl)
  refine ⟨failed, ?_, by decide +kernel⟩
  exact ((goesOn [freed]).2 tomorrow false).1

/-- A deadline that passes after the first check and before the one at the end of the write. -/
example :
    let deadline : DateTime := ⟨Call.inMay.clock.date, 1, some 0, by decide⟩
    let slow : Call :=
      { Call.inMay with
        limits := { deadline := some deadline }
        clockAt := fun n => if n ≤ 1 then Call.inMay.clock else deadline }
    let out := (store { torrentName := "b", title := "B" }).attempt slow Run.delivery.database
    slow.check 1 = .ok () ∧ out.answer = .error (.deadlineExceeded deadline) ∧
      out.database.tables.map (·.releases.rows.map Prod.fst) = some [1] := by
  decide +kernel

end SingleWrite

end ReleaseHistory
