/-
# ReleaseHistory.Proofs.Ledger -- what a run put into a history and left there

A `Run` is a list of operations, each with its call, the last one first; any of them may
fail, and another party may hold the write lock during any of them.  It starts from a
history whose tables are empty.

The `Ledger` of a run is kept beside the database and knows nothing of records: under
each id it has the release that was kept there last, as it was when it was kept, and the
statuses that were appended for it since, the last one first.  What the database no
longer holds is struck out.

`Run.faithful` is what holds along every run: the tables have exactly the records of the
releases and statuses of the ledger.
-/
import ReleaseHistory.Proofs.Operation
import Mathlib.Data.List.Forall2

namespace ReleaseHistory

set_option autoImplicit false

/-! ## Runs -/

/-- One operation with its call; another party may hold the write lock meanwhile. -/
structure Step where
  operation : Operation
  call : Call
  locked : Bool := false

/-- Operations one after another, the last one first. -/
abbrev Run := List Step

namespace Step

/-- The database as the operation finds it. -/
def before (s : Step) (db : Database) : Database := { db with locked := s.locked }

/-- The database after the step, with its lock released. -/
def after (s : Step) (db : Database) : Database :=
  { s.operation.perform s.call (s.before db) with locked := false }

end Step

/-- The database that a run leaves. -/
def Run.database : Run → Database
  | [] => .initialised
  | s :: run => s.after (Run.database run)

/-- A step finds the tables as the run before it left them. -/
theorem Step.tables_before (s : Step) {run : Run} {ts : Tables}
    (database : run.database = { tables := some ts }) :
    (s.before run.database).tables = some ts := by
  rw [database]
  rfl

/-- A step does one of four things to the tables. -/
theorem Run.exists_effect (s : Step) {run : Run} {ts : Tables}
    (database : run.database = { tables := some ts }) :
    ∃ ts', Run.database (s :: run) = { tables := some ts' } ∧
      Effect ts (s.operation.kept? s.call (s.before run.database))
        (s.operation.logged? s.call (s.before run.database)) ts' := by
  obtain ⟨ts', left, effect⟩ := s.operation.effect s.call (s.tables_before database)
  exact ⟨ts', by rw [Run.database, Step.after, left], effect⟩

/-- The database holds a release under the id. -/
def Database.holds (db : Database) (id : Int) : Bool := db.tables.any (·.releases.contains id)

/-! ## Ledgers -/

/-- The releases that a history has, as they were kept, and their statuses. -/
structure Ledger where
  release? : Int → Option Release
  log : Int → List ActionStatus

namespace Ledger

def empty : Ledger := ⟨fun _ => none, fun _ => []⟩

/-- Enter a release and a status, if there are any, and strike out what is not held. -/
def update (l : Ledger) (kept : Option Release) (logged : Option ActionStatus)
    (held : Int → Bool) : Ledger where
  release? id :=
    if held id then (kept.filter (·.id == id)).orElse fun _ => l.release? id else none
  log id := if held id then (logged.filter (·.releaseId == id)).toList ++ l.log id else []

theorem release?_update (l : Ledger) (kept : Option Release) (logged : Option ActionStatus)
    (held : Int → Bool) (id : Int) :
    (l.update kept logged held).release? id =
      if held id then (kept.filter (·.id == id)).orElse fun _ => l.release? id else none := rfl

theorem log_update (l : Ledger) (kept : Option Release) (logged : Option ActionStatus)
    (held : Int → Bool) (id : Int) :
    (l.update kept logged held).log id =
      if held id then (logged.filter (·.releaseId == id)).toList ++ l.log id else [] := rfl

/-- Some action on the release was approved. -/
def Delivered (l : Ledger) (id : Int) : Prop := ∃ s ∈ l.log id, s.status = .approved

/-- A status and its record under an id. -/
def Logged (s : ActionStatus) (row : Int × StoredStatus) : Prop := s.KeptAs row.2 ∧ s.id = row.1

/-- The tables have the records of the releases and statuses of the ledger. -/
structure Faithful (l : Ledger) (ts : Tables) : Prop where
  release {id : Int} {row : StoredRelease} (held : ts.releases.get? id = some row) :
    ∃ r, l.release? id = some r ∧ r.KeptAs row ∧ r.id = id
  struck {id : Int} (absent : ts.releases.get? id = none) : l.release? id = none
  log (id : Int) : ∃ rows, rows.Perm (ts.statusesOf [id]) ∧ List.Forall₂ Logged (l.log id) rows
  owned : ∀ row ∈ ts.statuses.rows, ts.releases.contains row.2.releaseId = true
  fits : ∀ row ∈ ts.releases.rows, Work.fits64 row.1 = true

end Ledger

/-- The ledger of a run. -/
def Run.ledger : Run → Ledger
  | [] => .empty
  | s :: run =>
      let db := s.before (Run.database run)
      (Run.ledger run).update (s.operation.kept? s.call db) (s.operation.logged? s.call db)
        (s.after (Run.database run)).holds

namespace Ledger.Faithful

variable {l : Ledger} {ts ts' : Tables}

theorem initially : Ledger.empty.Faithful {} where
  release held := by cases held
  struck _ := rfl
  log _ := ⟨[], .refl _, .nil⟩
  owned _ held := by cases held
  fits _ held := by cases held

/-! ## One step -/

/-- Only what is held has to be looked at after an update. -/
theorem update (ts : Tables) {kept : Option Release} {logged : Option ActionStatus}
    (release : ∀ id row, ts.releases.get? id = some row →
      ∃ r, ((kept.filter (·.id == id)).orElse fun _ => l.release? id) = some r ∧ r.KeptAs row ∧
        r.id = id)
    (log : ∀ id, ts.releases.contains id = true →
      ∃ rows, rows.Perm (ts.statusesOf [id]) ∧
        List.Forall₂ Logged ((logged.filter (·.releaseId == id)).toList ++ l.log id) rows)
    (owned : ∀ row ∈ ts.statuses.rows, ts.releases.contains row.2.releaseId = true)
    (fits : ∀ row ∈ ts.releases.rows, Work.fits64 row.1 = true) :
    (l.update kept logged ts.releases.contains).Faithful ts where
  release {id row} held := by
    obtain ⟨r, entered, written⟩ := release id row held
    have present : ts.releases.contains id = true := Table.contains_iff.2 ⟨row, held⟩
    exact ⟨r, by rw [release?_update, if_pos present, entered], written⟩
  struck {id} absent := by
    rw [release?_update, Table.contains_eq_false_iff.2 absent, if_neg Bool.false_ne_true]
  log id := by
    cases present : ts.releases.contains id with
    | true =>
        rw [log_update, if_pos present]
        exact log id present
    | false =>
        have none := Tables.statusesOf_eq_nil owned present
        refine ⟨[], by rw [none], ?_⟩
        rw [log_update, present, if_neg Bool.false_ne_true]
        exact .nil
  owned := owned
  fits := fits

/-- A write that drops releases with their statuses, and else changes nothing but
profiles. -/
theorem shrinks (faithful : l.Faithful ts)
    (release : ∀ id row, ts'.releases.get? id = some row → ts.releases.get? id = some row)
    (log : ∀ id, ts'.releases.contains id = true → ts'.statusesOf [id] = ts.statusesOf [id])
    (owned : ∀ row ∈ ts'.statuses.rows, ts'.releases.contains row.2.releaseId = true) :
    (l.update none none ts'.releases.contains).Faithful ts' := by
  refine .update ts' (fun id row held => faithful.release (release id row held)) ?_ owned ?_
  · intro id present
    rw [log id present]
    exact faithful.log id
  · rintro ⟨id, row⟩ held
    have before := release id row (ts'.releases.get?_eq_some_iff.2 held)
    exact faithful.fits (id, row) (ts.releases.get?_eq_some_iff.1 before)

theorem drops (faithful : l.Faithful ts) (ids : List Int) :
    (l.update none none (ts.dropReleases ids).releases.contains).Faithful (ts.dropReleases ids) := by
  refine faithful.shrinks ?_ ?_ ?_
  · intro id row held
    rw [Tables.get?_dropReleases] at held
    split at held
    · cases held
    · exact held
  · intro id present
    rw [Tables.statusesOf_dropReleases, if_neg (Tables.contains_dropReleases.1 present).1]
  · intro row held
    obtain ⟨before, apart⟩ := Tables.mem_statuses_dropReleases.1 held
    exact Tables.contains_dropReleases.2 ⟨apart, faithful.owned row before⟩

theorem keeps (faithful : l.Faithful ts) {r : Release} {row : StoredRelease} (written : r.KeptAs row)
    (fit : Work.fits64 r.id = true) :
    (l.update (some r) none (ts.releases.insert r.id row).contains).Faithful
      { ts with releases := ts.releases.insert r.id row } := by
  refine .update { ts with releases := ts.releases.insert r.id row } ?_ ?_ ?_ ?_
  · intro id row' held
    rw [Table.get?_insert] at held
    by_cases same : id = r.id
    · rw [if_pos same] at held
      obtain rfl := Option.some.inj held
      exact ⟨r, by simp [same], written, same.symm⟩
    · rw [if_neg same] at held
      have other : ((some r).filter (·.id == id)) = none := by
        simpa [Option.filter_some] using Ne.symm same
      rw [other]
      exact faithful.release held
  · intro id _
    exact faithful.log id
  · intro s held
    obtain ⟨old, found⟩ := Table.contains_iff.1 (faithful.owned s held)
    refine Table.contains_iff.2 ?_
    rw [Table.get?_insert]
    split
    · exact ⟨_, rfl⟩
    · exact ⟨old, found⟩
  · intro new held
    rcases Table.eq_or_mem_of_mem_insertRow held with rfl | held
    · exact fit
    · exact faithful.fits new held

theorem logs (faithful : l.Faithful ts) {s : ActionStatus} {row : StoredStatus}
    (written : s.KeptAs row) (owned : ts.releases.contains s.releaseId = true)
    (free : ts.statuses.contains s.id = false) :
    (l.update none (some s) ts.releases.contains).Faithful
      { ts with statuses := ts.statuses.insert s.id row } := by
  have owner : row.releaseId = s.releaseId := congrArg Attempt.releaseId written.attempt
  refine .update { ts with statuses := ts.statuses.insert s.id row }
    (fun id row held => faithful.release held) ?_ ?_ faithful.fits
  · intro id _
    obtain ⟨rows, perm, logged⟩ := faithful.log id
    by_cases own : s.releaseId = id
    · have joined := Tables.statusesOf_insert_perm row free
      rw [owner, own] at joined
      refine ⟨(s.id, row) :: rows, ?_, ?_⟩
      · exact (perm.cons _).trans ((List.perm_append_singleton _ _).symm.trans joined.symm)
      · have entered : (some s).filter (·.releaseId == id) = some s := by
          simp [Option.filter_some, own]
        rw [entered]
        exact .cons ⟨written, rfl⟩ logged
    · have other : id ≠ row.releaseId := by rw [owner]; exact Ne.symm own
      refine ⟨rows, by rwa [Tables.statusesOf_insert_of_ne free other], ?_⟩
      have unlogged : (some s).filter (·.releaseId == id) = none := by
        simpa [Option.filter_some] using own
      rw [unlogged]
      exact logged
  · intro new held
    rcases Table.eq_or_mem_of_mem_insertRow held with rfl | held
    · rw [owner]
      exact owned
    · exact faithful.owned new held

/-- Whatever an operation does, the ledger keeps telling what the tables have. -/
theorem step (faithful : l.Faithful ts) {kept : Option Release} {logged : Option ActionStatus}
    (effect : Effect ts kept logged ts') :
    (l.update kept logged ts'.releases.contains).Faithful ts' := by
  cases effect with
  | keeps written _ fits => exact faithful.keeps written (fits faithful.fits)
  | logs written owned free => exact faithful.logs written owned free
  | drops ids => exact faithful.drops ids
  | profiles kept => exact faithful.shrinks (fun _ _ held => held) (fun _ _ => rfl) faithful.owned

/-! ## Reading the ledger in the tables -/

/-- Every entry of the ledger has its record. -/
theorem record (faithful : l.Faithful ts) {id : Int} {r : Release} (entered : l.release? id = some r) :
    ∃ row, (id, row) ∈ ts.releases.rows ∧ r.KeptAs row ∧ r.id = id := by
  cases held : ts.releases.get? id with
  | none =>
      rw [faithful.struck held] at entered
      cases entered
  | some row =>
      obtain ⟨r', entered', written⟩ := faithful.release held
      obtain rfl := Option.some.inj (entered.symm.trans entered')
      exact ⟨row, ts.releases.get?_eq_some_iff.1 held, written⟩

/-- Every record has its entry in the ledger. -/
theorem entry (faithful : l.Faithful ts) {row : Int × StoredRelease} (held : row ∈ ts.releases.rows) :
    ∃ r, l.release? row.1 = some r ∧ r.KeptAs row.2 ∧ r.id = row.1 :=
  faithful.release (ts.releases.get?_eq_some_iff.2 held)

/-- Points in time are kept without an offset. -/
theorem utc (faithful : l.Faithful ts) {row : Int × StoredRelease} (held : row ∈ ts.releases.rows) :
    row.2.timestamp.offset = none := by
  obtain ⟨r, -, written, -⟩ := faithful.entry held
  exact written.timestamp.1

theorem exists_related {α β : Type} {R : α → β → Prop} {as : List α} {bs : List β} {a : α}
    (related : List.Forall₂ R as bs) (held : a ∈ as) : ∃ b ∈ bs, R a b := by
  induction related with
  | nil => cases held
  | cons first _ ih =>
      rcases List.mem_cons.1 held with rfl | held
      · exact ⟨_, List.mem_cons_self, first⟩
      · obtain ⟨b, later, pair⟩ := ih held
        exact ⟨b, List.mem_cons_of_mem _ later, pair⟩

/-- A status is found among those of a release exactly if it is in the log of the release. -/
theorem hasStatus_iff (faithful : l.Faithful ts) {id : Int} {names : List String} :
    ts.hasStatus id names = true ↔ ∃ s ∈ l.log id, s.status.name ∈ names := by
  obtain ⟨rows, perm, logged⟩ := faithful.log id
  rw [Tables.hasStatus_eq, List.any_eq_true]
  simp only [List.contains_eq_mem, decide_eq_true_eq]
  constructor
  · rintro ⟨row, held, named⟩
    obtain ⟨s, entered, written, -⟩ := exists_related logged.flip (perm.mem_iff.2 held)
    exact ⟨s, entered, written.statusName ▸ named⟩
  · rintro ⟨s, entered, named⟩
    obtain ⟨row, held, written, -⟩ := exists_related logged entered
    exact ⟨row, perm.mem_iff.1 held, written.statusName.symm ▸ named⟩

theorem isDelivered_iff (faithful : l.Faithful ts) {id : Int} :
    ts.isDelivered id = true ↔ l.Delivered id := by
  rw [Tables.isDelivered, faithful.hasStatus_iff, Delivered]
  simp only [List.mem_singleton]
  exact exists_congr fun s => and_congr_right fun _ =>
    ⟨PushStatus.name_injective, congrArg PushStatus.name⟩

end Ledger.Faithful

/-! ## Runs keep the ledger -/

/-- After every run the tables have the records of the releases and statuses of the
ledger. -/
theorem Run.faithful (run : Run) :
    ∃ ts, run.database = { tables := some ts } ∧ run.ledger.Faithful ts := by
  induction run with
  | nil => exact ⟨{}, rfl, .initially⟩
  | cons s run ih =>
      obtain ⟨ts, found, faithful⟩ := ih
      obtain ⟨ts', after, effect⟩ := Run.exists_effect s found
      have held : (s.after (Run.database run)).holds = ts'.releases.contains := by
        show (Run.database (s :: run)).holds = ts'.releases.contains
        rw [after]
        rfl
      refine ⟨ts', after, ?_⟩
      rw [Run.ledger, held]
      exact faithful.step effect

/-! ## A short run -/

/-- A call at the start of May 2024, without limits. -/
def Call.inMay : Call := { clock := ⟨⟨2024, 5, 1, by decide⟩, 0, some 0, by decide⟩ }

/-- A release is kept and delivered. -/
def Run.delivery : Run :=
  [{ operation := .storeStatus { releaseId := 1 }, call := .inMay },
    { operation := .store { torrentName := "a", title := "A" }, call := .inMay }]

end ReleaseHistory
