/-
# ReleaseHistory.Proofs.Persistence -- when a release that was kept counts as kept

An id of 0 stands for a release that is not kept yet.  Three places go by it: a release without
an id is kept under the next one, the check for duplicates leaves out the record of the
candidate only if the candidate has an id, and recording keeps a release that has none.

`Run.CountsAsKept` says that all three take a release for one that is kept, in whatever goes on
after the run.  They do as soon as it has an id (`Run.countsAsKept_of_id_ne_zero`).

A write takes an id that is free.  That id is another than 0 with one exception: ids may be
chosen, below zero, too, and the one after -1 is 0.  So a release counts as kept exactly if it
brought its own id or the greatest one was not -1 (`Run.countsAsKept_iff`).
-/
import ReleaseHistory.Proofs.Pipeline
import ReleaseHistory.Proofs.Recording

namespace ReleaseHistory

set_option autoImplicit false

/-! ## Recording what is kept -/

namespace Database

variable {db : Database} {ts : Tables} {r : Release}

/-- Recording a release that has an id keeps no release. -/
theorem releases_record (moments : Nat → Moment) (found : db.tables = some ts) (old : r.id ≠ 0)
    (ss : List ActionStatus) :
    ∃ ts', (db.record moments r ss).database.tables = some ts' ∧ ts'.releases = ts.releases := by
  have start := foundAt_of_tables found (moments 0)
  obtain ⟨_, _, _, ts', logs, ⟨-, ran⟩ | ⟨_, _, _, -, -, ran⟩⟩ := recordStatuses_cases moments r 0 ts ss
  · rw [record, if_neg old, attach_database, start, ran]
    exact ⟨ts', rfl, logs.releases⟩
  · rw [record, if_neg old, attach_database, start, ran]
    exact ⟨ts', rfl, logs.releases⟩

/-- A release is found to repeat one under another id than its own, if it has one. -/
theorem repeats_of_isDuplicate {run : Run} {locked : Bool} {c : Call} {p : Profile}
    (duplicate : (({ run.database with locked } : Database).isDuplicate c p r).1 = .ok true) :
    run.ledger.Repeats p.toSwitches r := by
  obtain ⟨ts, database, faithful⟩ := run.faithful
  have found : ({ run.database with locked } : Database).tables = some ts :=
    congrArg Database.tables database
  obtain ⟨-, -, -, -, hit⟩ := (faithful.isDuplicate_eq_ok_iff found).1 duplicate
  exact hit.1 rfl

end Database

namespace Run

/-- Whatever goes on after the run, the release counts as kept: it has an id, what it is found to
repeat is a release under another one, and recording it keeps no release. -/
structure CountsAsKept (run : Run) (kept : Release) : Prop where
  identified : kept.id ≠ 0
  apart (later : Run) (locked : Bool) (c : Call) (p : Profile)
    (duplicate : (({ Run.database (later ++ run) with locked } : Database).isDuplicate c p kept).1 =
      .ok true) :
    ∃ id prior, id ≠ kept.id ∧ (Run.ledger (later ++ run)).release? id = some prior ∧
      prior.filterId = kept.filterId ∧ (Run.ledger (later ++ run)).Delivered id ∧
      p.sameRelease kept.projection prior.projection = true
  once (later : Run) (moments : Nat → Moment) (ss : List ActionStatus) :
    let db := Run.database (later ++ run)
    (db.record moments kept ss).database.tables.map Tables.releases = db.tables.map Tables.releases

/-- An id is all that a release needs to count as kept. -/
theorem countsAsKept_of_id_ne_zero (run : Run) {kept : Release} (identified : kept.id ≠ 0) :
    CountsAsKept run kept where
  identified := identified
  apart later locked c p duplicate := by
    obtain ⟨id, prior, entered, sameFilter, other, delivered, same⟩ :=
      Database.repeats_of_isDuplicate duplicate
    exact ⟨id, prior, other identified, entered, sameFilter, delivered, same⟩
  once later moments ss := by
    intro db
    obtain ⟨ts, database, -⟩ := Run.faithful (later ++ run)
    have found : db.tables = some ts := congrArg Database.tables database
    obtain ⟨ts', recorded, same⟩ := Database.releases_record moments found identified ss
    rw [recorded, found, Option.map_some, Option.map_some, same]

/-- A write that succeeds keeps a release under an id that was free.  The release counts as kept
from then on exactly if it brought an id of its own or the greatest one was not -1, provided that
there was room for another id. -/
theorem countsAsKept_iff (run : Run) (s : Step) {r kept : Release} {k : Int} {db : Database}
    {ts : Tables} (operation : s.operation = .store r) (found : run.database.tables = some ts)
    (room : ts.releases.greatestId < Table.maxId)
    (done : (s.before run.database).store s.call r = ⟨.ok k, kept, db⟩) :
    kept.id = k ∧ run.database.holds k = false ∧ (Run.database (s :: run)).holds k = true ∧
      (CountsAsKept (s :: run) kept ↔ (r.id = 0 → ts.releases.greatestId ≠ -1)) := by
  obtain ⟨t, row, us, -, rfl, -, -, -, found', -, -, apart, chosen, rfl⟩ :=
    Database.store_ok_iff.1 done
  obtain rfl : ts = us := Option.some.inj (found.symm.trans found')
  have free := free_newId chosen apart
  rw [Table.nextId?_eq room] at chosen
  refine ⟨rfl, ?_, ?_, ?_, ?_⟩
  · rw [Database.holds, found]
    exact free
  · rw [Run.database, Step.after, operation, Operation.perform, done]
    refine Table.contains_iff.2 ⟨row, ?_⟩
    rw [Table.get?_insert, if_pos rfl]
  · rintro counts new greatest
    refine counts.identified ?_
    show k = 0
    obtain ⟨old, -⟩ | ⟨-, next⟩ := newId_cases chosen
    · exact absurd new old
    · rw [greatest] at next
      exact (Option.some.inj next).symm
  · intro other
    refine countsAsKept_of_id_ne_zero _ ?_
    show k ≠ 0
    obtain ⟨old, rfl⟩ | ⟨new, next⟩ := newId_cases chosen
    · exact old
    · have := other new
      obtain rfl := Option.some.inj next
      omega

/-- A second release is kept behind the first, and counts as kept. -/
theorem countsAsKept_delivery :
    let s : Step := { operation := .store { torrentName := "b", title := "B" }, call := .inMay }
    let written := Run.delivery.database.store .inMay { torrentName := "b", title := "B" }
    written.outcome = .ok 2 ∧ Run.delivery.database.holds 2 = false ∧
      CountsAsKept (s :: Run.delivery) written.subject := by
  intro s written
  obtain ⟨ts, found, greatest⟩ : ∃ ts, Run.delivery.database.tables = some ts ∧
      ts.releases.greatestId = 1 := by
    rw [← Option.map_eq_some_iff (f := fun ts : Tables => ts.releases.greatestId)]
    decide +kernel
  have kept : written.outcome = .ok 2 := by decide +kernel
  have done : written = ⟨.ok 2, written.subject, written.database⟩ := by rw [← kept]
  obtain ⟨-, free, -, counts⟩ :=
    countsAsKept_iff Run.delivery s rfl found (by rw [greatest]; decide) done
  exact ⟨kept, free, counts.2 fun _ => by rw [greatest]; decide⟩

/-- A release is kept under an id below zero. -/
def belowZero : Run :=
  [{ operation := .store { torrentName := "a", title := "A", id := -1 }, call := .inMay }]

/-- The release that is kept behind the id -1 gets the id 0 and does not count as kept: once it is
delivered it repeats itself, and recording it keeps it again. -/
theorem not_countsAsKept_belowZero :
    let second : Step := { operation := .store { torrentName := "b", title := "B" }, call := .inMay }
    let delivered : Step := { operation := .storeStatus { releaseId := 0 }, call := .inMay }
    let written := belowZero.database.store .inMay { torrentName := "b", title := "B" }
    belowZero.database.tables.map (·.releases.greatestId) = some (-1) ∧ written.outcome = .ok 0 ∧
      ¬CountsAsKept (second :: belowZero) written.subject ∧
      ((Run.database (delivered :: second :: belowZero)).isDuplicate .inMay
        { toSwitches := { title := true } } written.subject).1 = .ok true ∧
      (((Run.database (second :: belowZero)).record (fun _ => { clock := Call.inMay.clock })
        written.subject []).database.tables.map (·.releases.rows.map Prod.fst)) = some [-1, 0, 1] := by
  intro second delivered written
  refine ⟨by decide +kernel, by decide +kernel, ?_, by decide +kernel, by decide +kernel⟩
  intro counts
  have zero : written.subject.id = 0 := by decide +kernel
  exact counts.identified zero

end Run

end ReleaseHistory
