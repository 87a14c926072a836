/-
# ReleaseHistory.Proofs.Operation -- what one operation does to a history

`Operation` lists the operations of a history with their arguments, and
`Operation.perform` gives the database that an operation leaves.  Every operation
does one of four things to the tables (`Effect`), whatever its arguments, the limits
of its call and the lock:

* it keeps one release under a free id (`store`);
* it appends one status of a kept release (`storeStatus`);
* it drops releases together with their statuses (`deleteRelease`, `purge`);
* it changes at most the profiles.

`Operation.effect` is the only place where the operations are taken apart; what holds
along a run follows from the four cases.
-/
import ReleaseHistory.Proofs.Record
import ReleaseHistory.Proofs.Tables
import ReleaseHistory.Proofs.Transaction

namespace ReleaseHistory

set_option autoImplicit false

/-- An operation of a history with its arguments. -/
inductive Operation where
  | initialise
  | store (r : Release)
  | getRelease (id : Int)
  | deleteRelease (id : Int)
  | storeStatus (s : ActionStatus)
  | getStatus (id : Int)
  | listStatuses (releaseId : Int)
  | storeProfile (p : Profile)
  | getProfile (id : Int)
  | listProfiles
  | deleteProfile (id : Int)
  | isDuplicate (p : Profile) (r : Release)
  | mayDownload (a : Airing) (again : Bool)
  | find (s : PageSettings) (q : Query)
  | stats
  | indexers
  | purge (size : Int) (p : Purge)

namespace Operation

/-- The database that an operation leaves, whether it succeeds or not. -/
def perform (o : Operation) (c : Call) (db : Database) : Database :=
  match o with
  | .initialise => db.initialise.2
  | .store r => (db.store c r).database
  | .getRelease id => (db.getRelease c id).2
  | .deleteRelease id => (db.deleteRelease c id).2
  | .storeStatus s => (db.storeStatus c s).database
  | .getStatus id => (db.getStatus c id).2
  | .listStatuses releaseId => (db.listStatuses c releaseId).2
  | .storeProfile p => (db.storeProfile c p).database
  | .getProfile id => (db.getProfile c id).2
  | .listProfiles => (db.listProfiles c).2
  | .deleteProfile id => (db.deleteProfile c id).2
  | .isDuplicate p r => (db.isDuplicate c p r).2
  | .mayDownload a again => (db.mayDownload c a again).2
  | .find s q => (db.find s c q).2
  | .stats => (db.stats c).2
  | .indexers => (db.indexers c).2
  | .purge size p => (db.purge size c p).2

/-- The release that an operation kept, as the write left it: with its timestamp and
under its id. -/
def kept? (o : Operation) (c : Call) (db : Database) : Option Release :=
  match o with
  | .store r =>
      match db.store c r with
      | ⟨.ok _, kept, _⟩ => some kept
      | ⟨.error _, _, _⟩ => none
  | _ => none

/-- The status that an operation appended, as the write left it. -/
def logged? (o : Operation) (c : Call) (db : Database) : Option ActionStatus :=
  match o with
  | .storeStatus s =>
      match db.storeStatus c s with
      | ⟨.ok _, logged, _⟩ => some logged
      | ⟨.error _, _, _⟩ => none
  | _ => none

end Operation

/-! ## Writing -/

section NewId

variable {ts : Tables} {draws : List DrawnId} {id k : Int}

/-- A new release has the id that it brings, or else the next one. -/
theorem newId_cases {next : Option Int} (chosen : (if id ≠ 0 then some id else next) = some k) :
    id ≠ 0 ∧ id = k ∨ id = 0 ∧ next = some k := by
  by_cases new : id = 0
  · rw [if_neg (fun old => old new)] at chosen
    exact .inr ⟨new, chosen⟩
  · rw [if_pos new] at chosen
    exact .inl ⟨new, Option.some.inj chosen⟩

variable (chosen : (if id ≠ 0 then some id else ts.releases.nextId? draws) = some k)

include chosen

/-- No release has the id of a new one. -/
theorem free_newId (apart : id ≠ 0 → ts.releases.contains id = false) :
    ts.releases.contains k = false := by
  obtain ⟨old, rfl⟩ | ⟨-, next⟩ := newId_cases chosen
  · exact apart old
  · exact Table.contains_of_nextId? next

/-- The id of a new release fits if the ids of the others do. -/
theorem fits64_newId {row : StoredRelease} (fit : (id :: row.numbers).all Work.fits64 = true)
    (others : ∀ old ∈ ts.releases.rows, Work.fits64 old.1 = true) : Work.fits64 k = true := by
  obtain ⟨-, rfl⟩ | ⟨-, next⟩ := newId_cases chosen
  · exact (Bool.and_eq_true_iff.1 fit).1
  · have low : (-9223372036854775808 : Int) ≤ k :=
      Table.le_nextId? (by decide) (fun old held => by
        have := others old held
        simp only [Work.fits64, Bool.and_eq_true, decide_eq_true_eq] at this
        exact this.1) next
    simp only [Work.fits64, Bool.and_eq_true, decide_eq_true_eq]
    exact ⟨low, Table.le_maxId_of_nextId? next⟩

end NewId

namespace Database

variable {db db' : Database} {c : Call}

/-- A write whose transaction ended as given succeeds exactly if the transaction did. -/
theorem written_ok_iff {α : Type} {ran : Except Fault Int × Database} {failed : α} {done : Int → α}
    {k : Int} {a : α} :
    (match ran with
      | (.error f, db) => (⟨.error f, failed, db⟩ : Written α)
      | (.ok id, db) => ⟨.ok id, done id, db⟩) = ⟨.ok k, a, db'⟩ ↔
      ran = (.ok k, db') ∧ a = done k := by
  obtain ⟨outcome, after⟩ := ran
  cases outcome with
  | error f => simp
  | ok id =>
      simp only [Written.mk.injEq, Except.ok.injEq, Prod.mk.injEq]
      constructor
      · rintro ⟨rfl, rfl, rfl⟩
        exact ⟨⟨rfl, rfl⟩, rfl⟩
      · rintro ⟨⟨rfl, rfl⟩, rfl⟩
        exact ⟨rfl, rfl, rfl⟩

/-- When a release is kept, under which id, and what that changes. -/
theorem store_ok_iff {r kept : Release} {k : Int} :
    db.store c r = ⟨.ok k, kept, db'⟩ ↔
      ∃ t row ts, c.stamp r.timestamp = .ok t ∧ kept = { r with timestamp := some t, id := k } ∧
        StoredRelease.ofRelease kept t = .ok row ∧ c.check 1 = .ok () ∧ c.check 2 = .ok () ∧
        db.tables = some ts ∧ (r.id :: row.numbers).all Work.fits64 = true ∧ db.locked = false ∧
        (r.id ≠ 0 → ts.releases.contains r.id = false) ∧
        (if r.id ≠ 0 then some r.id else ts.releases.nextId? c.draws) = some k ∧
        db' = { db with tables := some { ts with releases := ts.releases.insert k row } } := by
  unfold Database.store
  cases stamped : c.stamp r.timestamp with
  | error f => simp
  | ok t =>
      have sameRow : ∀ k : Int, StoredRelease.ofRelease { r with timestamp := some t, id := k } t =
          StoredRelease.ofRelease { r with timestamp := some t } t := fun _ => rfl
      simp only [Except.ok.injEq, exists_and_left, exists_eq_left']
      cases written : StoredRelease.ofRelease { r with timestamp := some t } t with
      | error f =>
          simp only [Written.mk.injEq, reduceCtorEq, false_and, false_iff]
          rintro ⟨rfl, row, unwritten, -⟩
          rw [sameRow, written] at unwritten
          cases unwritten
      | ok row =>
          refine written_ok_iff.trans ?_
          simp only [run_ok_iff, Work.yields_bind, Work.yields_insertRelease, Work.yields_check,
            Work.yields_pure]
          constructor
          · rintro ⟨⟨first, k, _, ⟨ts, found, fit, free, apart, chosen, rfl⟩, _, _, ⟨second, rfl⟩,
              rfl, rfl⟩, rfl⟩
            exact ⟨rfl, row, written, first, second, ts, found, fit, free, apart, chosen, rfl⟩
          · rintro ⟨rfl, row', written', first, second, ts, found, fit, free, apart, chosen, rfl⟩
            rw [sameRow, written] at written'
            obtain rfl := Except.ok.inj written'
            exact ⟨⟨first, k, _, ⟨ts, found, fit, free, apart, chosen, rfl⟩, (), _,
              ⟨second, rfl⟩, rfl, rfl⟩, rfl⟩

/-- A write whose transaction failed leaves the database as it was. -/
theorem written_database_of_error {α : Type} {w : Work Int} {failed : α} {done : Int → α} {f : Fault}
    (failure : (match db.run c 1 w with
      | (.error f, db) => (⟨.error f, failed, db⟩ : Written α)
      | (.ok id, db) => ⟨.ok id, done id, db⟩).outcome = .error f) :
    (match db.run c 1 w with
      | (.error f, db) => (⟨.error f, failed, db⟩ : Written α)
      | (.ok id, db) => ⟨.ok id, done id, db⟩).database = db := by
  obtain ⟨g, ran⟩ | ⟨id, after, ran⟩ := db.run_cases c 1 w
  · rw [ran]
  · rw [ran] at failure
    cases failure

/-- A release that is not kept leaves the database as it was. -/
theorem store_database_of_error {r : Release} {f : Fault}
    (failure : (db.store c r).outcome = .error f) : (db.store c r).database = db := by
  unfold Database.store at failure ⊢
  cases stamped : c.stamp r.timestamp with
  | error g => rfl
  | ok t =>
      cases written : StoredRelease.ofRelease { r with timestamp := some t } t with
      | error g => simp only [written]
      | ok row =>
          simp only [stamped, written] at failure ⊢
          exact written_database_of_error failure

/-- A release is not kept and the database stays as it was, or it is kept under a free
id. -/
theorem store_cases {ts : Tables} (found : db.tables = some ts) (c : Call) (r : Release) :
    (∃ f, (db.store c r).outcome = .error f ∧ (db.store c r).database = db) ∨
      ∃ kept row,
        db.store c r = ⟨.ok kept.id, kept,
          { db with tables := some { ts with releases := ts.releases.insert kept.id row } }⟩ ∧
        (∃ t k, kept = { r with timestamp := some t, id := k }) ∧ kept.KeptAs row ∧
        ts.releases.contains kept.id = false ∧
        ((∀ old ∈ ts.releases.rows, Work.fits64 old.1 = true) → Work.fits64 kept.id = true) := by
  cases ran : db.store c r with
  | mk outcome kept after =>
      cases outcome with
      | error f =>
          have unchanged : (db.store c r).database = db := store_database_of_error (by rw [ran])
          rw [ran] at unchanged
          exact .inl ⟨f, rfl, unchanged⟩
      | ok k =>
          obtain ⟨t, row, us, -, rfl, written, -, -, found', fit, -, apart, chosen, rfl⟩ :=
            store_ok_iff.1 ran
          obtain rfl := Option.some.inj (found.symm.trans found')
          exact .inr ⟨_, row, rfl, ⟨t, k, rfl⟩, ⟨t, rfl, written⟩, free_newId chosen apart,
            fits64_newId chosen fit⟩

/-- When a status is appended, under which id, and what that changes. -/
theorem storeStatus_ok_iff {s logged : ActionStatus} {k : Int} :
    db.storeStatus c s = ⟨.ok k, logged, db'⟩ ↔
      ∃ t row ts, c.stamp s.timestamp = .ok t ∧ logged = { s with timestamp := some t, id := k } ∧
        StoredStatus.ofStatus logged t = .ok row ∧ c.check 1 = .ok () ∧ c.check 2 = .ok () ∧
        db.tables = some ts ∧ row.numbers.all Work.fits64 = true ∧ db.locked = false ∧
        ts.statuses.nextId? c.draws = some k ∧ ts.releases.contains row.releaseId = true ∧
        db' = { db with tables := some { ts with statuses := ts.statuses.insert k row } } := by
  unfold Database.storeStatus
  cases stamped : c.stamp s.timestamp with
  | error f => simp
  | ok t =>
      have sameRow : ∀ k : Int, StoredStatus.ofStatus { s with timestamp := some t, id := k } t =
          StoredStatus.ofStatus { s with timestamp := some t } t := fun _ => rfl
      simp only [Except.ok.injEq, exists_and_left, exists_eq_left']
      cases written : StoredStatus.ofStatus { s with timestamp := some t } t with
      | error f =>
          simp only [Written.mk.injEq, reduceCtorEq, false_and, false_iff]
          rintro ⟨rfl, row, unwritten, -⟩
          rw [sameRow, written] at unwritten
          cases unwritten
      | ok row =>
          refine written_ok_iff.trans ?_
          simp only [run_ok_iff, Work.yields_bind, Work.yields_insertStatus, Work.yields_check,
            Work.yields_pure]
          constructor
          · rintro ⟨⟨first, k, _, ⟨ts, found, fit, free, chosen, owned, rfl⟩, _, _, ⟨second, rfl⟩,
              rfl, rfl⟩, rfl⟩
            exact ⟨rfl, row, written, first, second, ts, found, fit, free, chosen, owned, rfl⟩
          · rintro ⟨rfl, row', written', first, second, ts, found, fit, free, chosen, owned, rfl⟩
            rw [sameRow, written] at written'
            obtain rfl := Except.ok.inj written'
            exact ⟨⟨first, k, _, ⟨ts, found, fit, free, chosen, owned, rfl⟩, (), _,
              ⟨second, rfl⟩, rfl, rfl⟩, rfl⟩

/-- A status that is not appended leaves the database as it was. -/
theorem storeStatus_database_of_error {s : ActionStatus} {f : Fault}
    (failure : (db.storeStatus c s).outcome = .error f) : (db.storeStatus c s).database = db := by
  unfold Database.storeStatus at failure ⊢
  cases stamped : c.stamp s.timestamp with
  | error g => rfl
  | ok t =>
      cases written : StoredStatus.ofStatus { s with timestamp := some t } t with
      | error g => simp only [written]
      | ok row =>
          simp only [stamped, written] at failure ⊢
          exact written_database_of_error failure

/-- A status is not appended and the database stays as it was, or it is appended under a
free id, for a release that is there. -/
theorem storeStatus_cases {ts : Tables} (found : db.tables = some ts) (c : Call) (s : ActionStatus) :
    (∃ f, (db.storeStatus c s).outcome = .error f ∧ (db.storeStatus c s).database = db) ∨
      ∃ logged row,
        db.storeStatus c s = ⟨.ok logged.id, logged,
          { db with tables := some { ts with statuses := ts.statuses.insert logged.id row } }⟩ ∧
        (∃ t k, logged = { s with timestamp := some t, id := k }) ∧ logged.KeptAs row ∧
        ts.releases.contains logged.releaseId = true ∧ ts.statuses.contains logged.id = false := by
  cases ran : db.storeStatus c s with
  | mk outcome logged after =>
      cases outcome with
      | error f =>
          have unchanged : (db.storeStatus c s).database = db :=
            storeStatus_database_of_error (by rw [ran])
          rw [ran] at unchanged
          exact .inl ⟨f, rfl, unchanged⟩
      | ok k =>
          obtain ⟨t, row, us, -, rfl, written, -, -, found', -, -, chosen, owned, rfl⟩ :=
            storeStatus_ok_iff.1 ran
          obtain rfl := Option.some.inj (found.symm.trans found')
          have owner : row.releaseId = s.releaseId := by
            obtain ⟨u, -, rfl⟩ := StoredStatus.ofStatus_eq_ok_iff.1 written
            rfl
          exact .inr ⟨_, row, rfl, ⟨t, k, rfl⟩, ⟨t, rfl, written⟩, owner ▸ owned,
            Table.contains_of_nextId? chosen⟩

/-! ## Reading -/

/-- Work that leaves the database as it is makes a transaction that does so, too. -/
theorem run_snd_of_reads {α : Type} {n : Nat} {w : Work α}
    (reads : ∀ a mid, w.Yields db a mid → mid = db) : (db.run c n w).2 = db := by
  obtain ⟨f, ran⟩ | ⟨a, after, ran⟩ := db.run_cases c n w
  · rw [ran]
  · rw [ran]
    exact reads a after (run_ok_iff.1 ran).2

@[simp] theorem getRelease_snd (id : Int) : (db.getRelease c id).2 = db := by
  apply run_snd_of_reads
  intro r mid ran
  simp only [Work.yields_bind, Work.yields_tables, Work.yields_carry] at ran
  obtain ⟨ts, _, ⟨-, rfl⟩, _, _, ⟨-, rfl⟩, rest⟩ := ran
  split at rest
  · exact absurd rest Work.not_yields_throw
  · simp only [Work.yields_bind, Work.yields_readStatuses, Work.yields_ofExcept] at rest
    obtain ⟨_, _, ⟨rfl, -⟩, -, rfl⟩ := rest
    rfl

@[simp] theorem getStatus_snd (id : Int) : (db.getStatus c id).2 = db := by
  apply run_snd_of_reads
  intro s mid ran
  simp only [Work.yields_bind, Work.yields_tables, Work.yields_carry] at ran
  obtain ⟨ts, _, ⟨-, rfl⟩, _, _, ⟨-, rfl⟩, rest⟩ := ran
  split at rest
  · exact absurd rest Work.not_yields_throw
  · exact (Work.yields_ofExcept.1 rest).2.symm

@[simp] theorem listStatuses_snd (id : Int) : (db.listStatuses c id).2 = db :=
  run_snd_of_reads fun _ _ ran => (Work.yields_readStatuses.1 ran).1.symm

@[simp] theorem getProfile_snd (id : Int) : (db.getProfile c id).2 = db := by
  apply run_snd_of_reads
  intro p mid ran
  simp only [Work.yields_bind, Work.yields_tables, Work.yields_carry] at ran
  obtain ⟨ts, _, ⟨-, rfl⟩, _, _, ⟨-, rfl⟩, rest⟩ := ran
  split at rest
  · exact absurd rest Work.not_yields_throw
  · exact (Work.yields_pure.1 rest).2.symm

@[simp] theorem listProfiles_snd : (db.listProfiles c).2 = db := by
  apply run_snd_of_reads
  intro ps mid ran
  simp only [Work.yields_bind, Work.yields_tables, Work.yields_pure] at ran
  obtain ⟨ts, _, ⟨-, rfl⟩, -, rfl⟩ := ran
  rfl

@[simp] theorem isDuplicate_snd (p : Profile) (r : Release) : (db.isDuplicate c p r).2 = db := by
  unfold Database.isDuplicate
  split
  · rfl
  · have reads : (db.run c 1 (do
        let ts ← Work.tables .release
        Work.carry [r.filterId, r.id]
        return ts.priors p.toSwitches r)).2 = db := by
      apply run_snd_of_reads
      intro rows mid ran
      simp only [Work.yields_bind, Work.yields_tables, Work.yields_carry, Work.yields_pure] at ran
      obtain ⟨ts, _, ⟨-, rfl⟩, _, _, ⟨-, rfl⟩, -, rfl⟩ := ran
      rfl
    simp only
    split
    · rename_i ran
      rw [ran] at reads
      exact reads
    · rename_i ran
      rw [ran] at reads
      exact reads

@[simp] theorem mayDownload_snd (a : Airing) (again : Bool) : (db.mayDownload c a again).2 = db := by
  unfold Database.mayDownload
  simp only
  split
  · rfl
  · split
    · rfl
    · apply run_snd_of_reads
      intro b mid ran
      simp only [Work.yields_bind, Work.yields_tables, Work.yields_carry, Work.yields_pure] at ran
      obtain ⟨ts, _, ⟨-, rfl⟩, _, _, ⟨-, rfl⟩, -, rfl⟩ := ran
      rfl

@[simp] theorem find_snd (s : PageSettings) (q : Query) : (db.find s c q).2 = db := by
  unfold Database.find
  split
  · rfl
  · rfl
  · apply run_snd_of_reads
    intro page mid ran
    simp only [Work.yields_bind, Work.yields_compose, Work.yields_tables, Work.yields_resolve,
      Work.throw_bind, Work.yields_unless, Work.yields_carry, Work.yields_readStatuses,
      Work.yields_ofExcept, Work.yields_pure] at ran
    obtain ⟨_, _, ⟨-, rfl⟩, ts, _, ⟨-, rfl⟩, _, _, ⟨-, rfl⟩, -, _, _, ⟨-, rfl⟩, _, _, ⟨-, rfl⟩, _, _,
      ⟨rfl, -⟩, _, _, ⟨-, rfl⟩, -, rfl⟩ := ran
    rfl

@[simp] theorem stats_snd : (db.stats c).2 = db := by
  apply run_snd_of_reads
  intro ps mid ran
  simp only [Work.yields_bind, Work.yields_tables, Work.yields_pure] at ran
  obtain ⟨ts, _, ⟨-, rfl⟩, -, rfl⟩ := ran
  rfl

@[simp] theorem indexers_snd : (db.indexers c).2 = db := by
  apply run_snd_of_reads
  intro ps mid ran
  simp only [Work.yields_bind, Work.yields_tables, Work.yields_pure] at ran
  obtain ⟨ts, _, ⟨-, rfl⟩, -, rfl⟩ := ran
  rfl

/-! ## Dropping releases, and profiles -/

/-- When a release is deleted, and what that changes. -/
theorem deleteRelease_ok_iff {id : Int} {b : Bool} :
    db.deleteRelease c id = (.ok b, db') ↔
      c.check 1 = .ok () ∧ ∃ ts, db.tables = some ts ∧ Work.fits64 id = true ∧
        (ts.releases.contains id = false ∧ b = false ∧ db' = db ∨
          ts.releases.contains id = true ∧ b = true ∧ db.locked = false ∧ c.check 2 = .ok () ∧
            db' = { db with tables := some (ts.dropReleases [id]) }) := by
  have few : Statement.outage? [[id].length] 0 = none := rfl
  unfold Database.deleteRelease
  rw [run_ok_iff]
  apply and_congr_right
  intro _
  simp only [Work.yields_bind, Work.yields_tables, Work.yields_carry, List.all_cons, List.all_nil,
    Bool.and_true]
  constructor
  · rintro ⟨ts, _, ⟨found, rfl⟩, _, _, ⟨fit, rfl⟩, rest⟩
    refine ⟨ts, found, fit, ?_⟩
    cases present : ts.releases.contains id with
    | false =>
        simp only [present, Bool.not_false, if_true, Work.yields_pure] at rest
        exact .inl ⟨rfl, rest.1.symm, rest.2.symm⟩
    | true =>
        simp only [present, Bool.not_true, Bool.false_eq_true, if_false, Work.yields_bind,
          Work.yields_deleteReleases, Work.yields_check, Work.yields_pure] at rest
        obtain ⟨_, _, ⟨us, found', -, free, rfl⟩, _, _, ⟨second, rfl⟩, rfl, rfl⟩ := rest
        obtain rfl := Option.some.inj (found.symm.trans found')
        exact .inr ⟨rfl, rfl, free, second, rfl⟩
  · rintro ⟨ts, found, fit, ⟨absent, rfl, rfl⟩ | ⟨present, rfl, free, second, rfl⟩⟩
    · refine ⟨ts, _, ⟨found, rfl⟩, (), _, ⟨fit, rfl⟩, ?_⟩
      simp only [absent, Bool.not_false, if_true, Work.yields_pure, and_self]
    · refine ⟨ts, _, ⟨found, rfl⟩, (), _, ⟨fit, rfl⟩, ?_⟩
      simp only [present, Bool.not_true, Bool.false_eq_true, if_false, Work.yields_bind,
        Work.yields_deleteReleases, Work.yields_check, Work.yields_pure]
      exact ⟨(), _, ⟨ts, found, few, free, rfl⟩, (), _, ⟨second, rfl⟩, trivial, rfl⟩

/-- A release is not deleted and the database stays as it was, or it is dropped with its
statuses. -/
theorem deleteRelease_cases {ts : Tables} (found : db.tables = some ts) (c : Call) (id : Int) :
    (db.deleteRelease c id).2 = db ∨
      db.deleteRelease c id = (.ok true, { db with tables := some (ts.dropReleases [id]) }) := by
  have ended : (∃ f, db.deleteRelease c id = (.error f, db)) ∨
      ∃ b db', db.deleteRelease c id = (.ok b, db') := db.run_cases c 1 _
  obtain ⟨f, ran⟩ | ⟨b, after, ran⟩ := ended
  · exact .inl (congrArg Prod.snd ran)
  · obtain ⟨-, us, found', -, ⟨-, -, rfl⟩ | ⟨-, rfl, -, -, rfl⟩⟩ := deleteRelease_ok_iff.1 ran
    · exact .inl (congrArg Prod.snd ran)
    · obtain rfl := Option.some.inj (found.symm.trans found')
      exact .inr ran

/-- When a profile is deleted, and what that changes. -/
theorem deleteProfile_ok_iff {id : Int} {b : Bool} :
    db.deleteProfile c id = (.ok b, db') ↔
      c.check 1 = .ok () ∧ ∃ ts, db.tables = some ts ∧ Work.fits64 id = true ∧
        (ts.profiles.contains id = false ∧ b = false ∧ db' = db ∨
          ts.profiles.contains id = true ∧ b = true ∧ c.check 2 = .ok () ∧ db.locked = false ∧
            db' = { db with tables := some { ts with profiles := ts.profiles.erase id } }) := by
  unfold Database.deleteProfile
  rw [run_ok_iff]
  apply and_congr_right
  intro _
  simp only [Work.yields_bind, Work.yields_tables, Work.yields_carry, List.all_cons, List.all_nil,
    Bool.and_true]
  constructor
  · rintro ⟨ts, _, ⟨found, rfl⟩, _, _, ⟨fit, rfl⟩, rest⟩
    refine ⟨ts, found, fit, ?_⟩
    cases present : ts.profiles.contains id with
    | false =>
        simp only [present, Bool.not_false, if_true, Work.yields_pure] at rest
        exact .inl ⟨rfl, rest.1.symm, rest.2.symm⟩
    | true =>
        simp only [present, Bool.not_true, Bool.false_eq_true, if_false, Work.yields_bind,
          Work.yields_check, Work.yields_acquireLock, Work.yields_setTables, Work.yields_pure] at rest
        obtain ⟨_, _, ⟨second, rfl⟩, _, _, ⟨free, rfl⟩, _, _, rfl, rfl, rfl⟩ := rest
        exact .inr ⟨rfl, rfl, second, free, rfl⟩
  · rintro ⟨ts, found, fit, ⟨absent, rfl, rfl⟩ | ⟨present, rfl, second, free, rfl⟩⟩
    · refine ⟨ts, _, ⟨found, rfl⟩, (), _, ⟨fit, rfl⟩, ?_⟩
      simp only [absent, Bool.not_false, if_true, Work.yields_pure, and_self]
    · refine ⟨ts, _, ⟨found, rfl⟩, (), _, ⟨fit, rfl⟩, ?_⟩
      simp only [present, Bool.not_true, Bool.false_eq_true, if_false, Work.yields_bind,
        Work.yields_check, Work.yields_acquireLock, Work.yields_setTables, Work.yields_pure]
      exact ⟨(), _, ⟨second, rfl⟩, (), _, ⟨free, rfl⟩, (), _, rfl, trivial, rfl⟩

/-- When a profile is kept, under which id, and what that changes. -/
theorem storeProfile_ok_iff {p kept : Profile} {k : Int} :
    db.storeProfile c p = ⟨.ok k, kept, db'⟩ ↔
      kept = { p with id := k } ∧ c.check 1 = .ok () ∧ c.check 2 = .ok () ∧
        (p.id = 0 ∧ (Work.addProfile c.draws p.toNamedSwitches).Yields db k db' ∨
          p.id ≠ 0 ∧ (Work.replaceProfile p.id p.toNamedSwitches).Yields db k db') := by
  refine written_ok_iff.trans ?_
  rw [run_ok_iff]
  by_cases new : p.id = 0
  · simp only [if_pos new, Work.yields_bind, Work.yields_check, Work.yields_pure]
    constructor
    · rintro ⟨⟨first, _, _, added, _, _, ⟨second, rfl⟩, rfl, rfl⟩, rfl⟩
      exact ⟨rfl, first, second, .inl ⟨new, added⟩⟩
    · rintro ⟨rfl, first, second, ⟨-, added⟩ | ⟨old, -⟩⟩
      · exact ⟨⟨first, k, _, added, (), _, ⟨second, rfl⟩, rfl, rfl⟩, rfl⟩
      · exact absurd new old
  · simp only [if_neg new, Work.yields_bind, Work.yields_check, Work.yields_pure]
    constructor
    · rintro ⟨⟨first, _, _, replaced, _, _, ⟨second, rfl⟩, rfl, rfl⟩, rfl⟩
      exact ⟨rfl, first, second, .inr ⟨new, replaced⟩⟩
    · rintro ⟨rfl, first, second, ⟨old, -⟩ | ⟨-, replaced⟩⟩
      · exact absurd old new
      · exact ⟨⟨first, k, _, replaced, (), _, ⟨second, rfl⟩, rfl, rfl⟩, rfl⟩

/-- A profile that is not kept leaves the database as it was. -/
theorem storeProfile_database_of_error {p : Profile} {f : Fault}
    (failure : (db.storeProfile c p).outcome = .error f) : (db.storeProfile c p).database = db :=
  written_database_of_error failure

end Database

/-! ## Purges -/

namespace Purge

variable {p : Purge} {cutoff : Option DateTime} {size : Int} {c : Call} {db db' : Database}

/-- When a batch of a purge succeeds, and what it deletes. -/
theorem yields_batch {k : Nat} {ids : List Int} :
    (p.batch cutoff size c k).Yields db ids db' ↔
      ∃ ts, db.tables = some ts ∧ Statement.outage? (p.conditions cutoff) 2 = none ∧
        Work.fits64 size = true ∧ ids = takeRows size (p.matching cutoff ts) ∧
        (ids = [] ∧ db' = db ∨
          ids ≠ [] ∧ Statement.outage? [ids.length] 0 = none ∧ db.locked = false ∧
            c.check (2 * k + 2) = .ok () ∧
            db' = { db with tables := some (ts.dropReleases ids) }) := by
  unfold batch
  simp only [Work.yields_bind, Work.yields_compose, Work.yields_tables, Work.yields_carry,
    List.all_cons, List.all_nil, Bool.and_true]
  constructor
  · rintro ⟨_, _, ⟨short, rfl⟩, ts, _, ⟨found, rfl⟩, _, _, ⟨fit, rfl⟩, rest⟩
    cases chosen : takeRows size (p.matching cutoff ts) with
    | nil =>
        simp only [chosen, List.isEmpty_nil, if_true, Work.yields_pure] at rest
        exact ⟨ts, found, short, fit, by rw [chosen, rest.1], .inl ⟨rest.1.symm, rest.2.symm⟩⟩
    | cons id more =>
        simp only [chosen, List.isEmpty_cons, Bool.false_eq_true, if_false, Work.yields_bind,
          Work.yields_deleteReleases, Work.yields_check, Work.yields_pure] at rest
        obtain ⟨_, _, ⟨us, found', few, free, rfl⟩, _, _, ⟨later, rfl⟩, rfl, rfl⟩ := rest
        obtain rfl := Option.some.inj (found.symm.trans found')
        exact ⟨ts, found, short, fit, chosen.symm, .inr ⟨by simp, few, free, later, rfl⟩⟩
  · rintro ⟨ts, found, short, fit, taken, rest⟩
    refine ⟨(), _, ⟨short, rfl⟩, ts, _, ⟨found, rfl⟩, (), _, ⟨fit, rfl⟩, ?_⟩
    rw [← taken]
    rcases rest with ⟨rfl, rfl⟩ | ⟨chosen, few, free, later, rfl⟩
    · simp only [List.isEmpty_nil, if_true, Work.yields_pure, and_self]
    · have isEmpty : ids.isEmpty = false := by simpa using chosen
      simp only [isEmpty, Bool.false_eq_true, if_false, Work.yields_bind,
        Work.yields_deleteReleases, Work.yields_check, Work.yields_pure]
      exact ⟨(), _, ⟨ts, found, few, free, rfl⟩, (), _, ⟨later, rfl⟩, trivial, rfl⟩

/-- A batch that deletes something is followed by the next one. -/
theorem batchesFrom_of_batch {fuel k : Nat} {ids : List Int}
    (ran : db.run c (2 * k + 1) (p.batch cutoff size c k) = (.ok ids, db')) (chosen : ids ≠ []) :
    p.batchesFrom cutoff size c (fuel + 1) k db =
      ((p.batchesFrom cutoff size c fuel (k + 1) db').1.map (ids.length + ·),
        (p.batchesFrom cutoff size c fuel (k + 1) db').2) := by
  obtain ⟨id, ids, rfl⟩ := List.exists_cons_of_ne_nil chosen
  rw [batchesFrom, ran]
  simp only
  cases p.batchesFrom cutoff size c fuel (k + 1) db' with
  | mk outcome after => cases outcome <;> rfl

/-- Batches drop releases, whether a later one fails or not. -/
theorem exists_drops_of_batchesFrom (fuel k : Nat) {db : Database} {ts : Tables}
    (found : db.tables = some ts) :
    ∃ ids, (p.batchesFrom cutoff size c fuel k db).2 =
      { db with tables := some (ts.dropReleases ids) } := by
  induction fuel generalizing k db ts with
  | zero => exact ⟨[], by rw [Tables.dropReleases_nil, ← found]; rfl⟩
  | succ fuel ih =>
      have unchanged : db = { db with tables := some (ts.dropReleases []) } := by
        rw [Tables.dropReleases_nil, ← found]
      obtain ⟨f, ran⟩ | ⟨ids, after, ran⟩ := db.run_cases c (2 * k + 1) (p.batch cutoff size c k)
      · exact ⟨[], by simp only [batchesFrom, ran]; exact unchanged⟩
      · obtain ⟨us, found', -, -, -, rest⟩ := yields_batch.1 (Database.run_ok_iff.1 ran).2
        obtain rfl := Option.some.inj (found.symm.trans found')
        rcases rest with ⟨rfl, rfl⟩ | ⟨chosen, -, -, -, rfl⟩
        · exact ⟨[], by simp only [batchesFrom, ran]; exact unchanged⟩
        · have left : ({ db with tables := some (ts.dropReleases ids) } : Database).tables =
              some (ts.dropReleases ids) := rfl
          obtain ⟨more, later⟩ := ih (k + 1) left
          refine ⟨ids ++ more, ?_⟩
          rw [← Tables.dropReleases_dropReleases, batchesFrom_of_batch ran chosen]
          exact later

end Purge

/-! ## Every operation -/

/-- What an operation does to the tables, with the release that it kept and the status
that it appended. -/
inductive Effect (ts : Tables) : Option Release → Option ActionStatus → Tables → Prop where
  | keeps {r : Release} {row : StoredRelease} (written : r.KeptAs row)
      (free : ts.releases.contains r.id = false)
      (fits : (∀ old ∈ ts.releases.rows, Work.fits64 old.1 = true) → Work.fits64 r.id = true) :
      Effect ts (some r) none { ts with releases := ts.releases.insert r.id row }
  | logs {s : ActionStatus} {row : StoredStatus} (written : s.KeptAs row)
      (owned : ts.releases.contains s.releaseId = true)
      (free : ts.statuses.contains s.id = false) :
      Effect ts none (some s) { ts with statuses := ts.statuses.insert s.id row }
  | drops (ids : List Int) : Effect ts none none (ts.dropReleases ids)
  | profiles (kept : Table NamedSwitches) : Effect ts none none { ts with profiles := kept }

namespace Effect

variable {ts : Tables}

theorem nothing (ts : Tables) : Effect ts none none ts := .profiles ts.profiles

end Effect

namespace Operation

variable {db : Database} {c : Call} {ts : Tables}

theorem unchanged (found : db.tables = some ts) : db = { db with tables := some ts } := by
  rw [← found]

theorem effect_store (r : Release) (found : db.tables = some ts) :
    ∃ ts', (store r).perform c db = { db with tables := some ts' } ∧
      Effect ts ((store r).kept? c db) none ts' := by
  obtain ⟨f, failed, same⟩ | ⟨kept, row, ran, -, written, free, fits⟩ := Database.store_cases found c r
  · refine ⟨ts, same.trans (unchanged found), ?_⟩
    simp only [kept?]
    cases ran : db.store c r with
    | mk outcome kept after =>
        rw [ran] at failed
        obtain rfl : outcome = .error f := failed
        exact .nothing ts
  · simp only [perform, kept?, ran]
    exact ⟨_, rfl, .keeps written free fits⟩

theorem effect_storeStatus (s : ActionStatus) (found : db.tables = some ts) :
    ∃ ts', (storeStatus s).perform c db = { db with tables := some ts' } ∧
      Effect ts none ((storeStatus s).logged? c db) ts' := by
  obtain ⟨f, failed, same⟩ | ⟨logged, row, ran, -, written, owned, free⟩ :=
    Database.storeStatus_cases found c s
  · refine ⟨ts, same.trans (unchanged found), ?_⟩
    simp only [logged?]
    cases ran : db.storeStatus c s with
    | mk outcome logged after =>
        rw [ran] at failed
        obtain rfl : outcome = .error f := failed
        exact .nothing ts
  · simp only [perform, logged?, ran]
    exact ⟨_, rfl, .logs written owned free⟩

theorem effect_deleteRelease (id : Int) (found : db.tables = some ts) :
    ∃ ts', (deleteRelease id).perform c db = { db with tables := some ts' } ∧
      Effect ts none none ts' := by
  obtain same | ran := Database.deleteRelease_cases found c id
  · exact ⟨ts, same.trans (unchanged found), .nothing ts⟩
  · exact ⟨_, congrArg Prod.snd ran, .drops [id]⟩

/-- Keeping a profile changes at most the profiles. -/
theorem perform_storeProfile (p : Profile) (found : db.tables = some ts) :
    ∃ kept, (storeProfile p).perform c db =
      { db with tables := some { ts with profiles := kept } } := by
  simp only [perform]
  cases ran : db.storeProfile c p with
  | mk outcome kept after =>
      cases outcome with
      | error f =>
          have kept : (db.storeProfile c p).database = db :=
            Database.storeProfile_database_of_error (by rw [ran])
          rw [ran] at kept
          exact ⟨ts.profiles, kept.trans (unchanged found)⟩
      | ok k =>
          obtain ⟨-, -, -, ⟨-, added⟩ | ⟨-, replaced⟩⟩ := Database.storeProfile_ok_iff.1 ran
          · obtain ⟨us, found', -, -, -, rfl⟩ := Work.yields_addProfile.1 added
            obtain rfl := Option.some.inj (found.symm.trans found')
            exact ⟨_, rfl⟩
          · obtain ⟨us, old, found', -, -, -, ⟨-, rfl⟩ | ⟨-, -, -, rfl⟩⟩ :=
              Work.yields_replaceProfile.1 replaced
            · exact ⟨ts.profiles, unchanged found⟩
            · obtain rfl := Option.some.inj (found.symm.trans found')
              exact ⟨_, rfl⟩

/-- Deleting a profile changes at most the profiles. -/
theorem perform_deleteProfile (id : Int) (found : db.tables = some ts) :
    ∃ kept, (deleteProfile id).perform c db =
      { db with tables := some { ts with profiles := kept } } := by
  have ended : (∃ f, db.deleteProfile c id = (.error f, db)) ∨ ∃ b db', db.deleteProfile c id = (.ok b, db') :=
    db.run_cases c 1 _
  simp only [perform]
  obtain ⟨f, ran⟩ | ⟨b, after, ran⟩ := ended
  · rw [ran]
    exact ⟨ts.profiles, unchanged found⟩
  · rw [ran]
    obtain ⟨-, us, found', -, ⟨-, -, rfl⟩ | ⟨-, -, -, -, rfl⟩⟩ := Database.deleteProfile_ok_iff.1 ran
    · exact ⟨ts.profiles, unchanged found⟩
    · obtain rfl := Option.some.inj (found.symm.trans found')
      exact ⟨_, rfl⟩

theorem effect_purge (size : Int) (p : Purge) (found : db.tables = some ts) :
    ∃ ts', (purge size p).perform c db = { db with tables := some ts' } ∧
      Effect ts none none ts' := by
  simp only [perform, Database.purge]
  split
  · exact ⟨ts, unchanged found, .nothing ts⟩
  · split
    · exact ⟨ts, unchanged found, .nothing ts⟩
    · obtain ⟨ids, dropped⟩ := Purge.exists_drops_of_batchesFrom _ 0 found
      exact ⟨_, dropped, .drops ids⟩

/-- An operation on a database with tables does one of four things to them. -/
theorem effect (o : Operation) (c : Call) (found : db.tables = some ts) :
    ∃ ts', o.perform c db = { db with tables := some ts' } ∧
      Effect ts (o.kept? c db) (o.logged? c db) ts' := by
  have same := unchanged found
  cases o with
  | initialise => exact ⟨ts, by simp only [perform, Database.initialise, found, ← same], .nothing ts⟩
  | store r => exact effect_store r found
  | storeStatus s => exact effect_storeStatus s found
  | deleteRelease id => exact effect_deleteRelease id found
  | storeProfile p =>
      obtain ⟨kept, left⟩ := perform_storeProfile p found
      exact ⟨_, left, .profiles kept⟩
  | deleteProfile id =>
      obtain ⟨kept, left⟩ := perform_deleteProfile id found
      exact ⟨_, left, .profiles kept⟩
  | purge size p => exact effect_purge size p found
  | getRelease id => exact ⟨ts, (Database.getRelease_snd id).trans same, .nothing ts⟩
  | getStatus id => exact ⟨ts, (Database.getStatus_snd id).trans same, .nothing ts⟩
  | listStatuses id => exact ⟨ts, (Database.listStatuses_snd id).trans same, .nothing ts⟩
  | getProfile id => exact ⟨ts, (Database.getProfile_snd id).trans same, .nothing ts⟩
  | listProfiles => exact ⟨ts, Database.listProfiles_snd.trans same, .nothing ts⟩
  | isDuplicate p r => exact ⟨ts, (Database.isDuplicate_snd p r).trans same, .nothing ts⟩
  | mayDownload a again => exact ⟨ts, (Database.mayDownload_snd a again).trans same, .nothing ts⟩
  | find s q => exact ⟨ts, (Database.find_snd s q).trans same, .nothing ts⟩
  | stats => exact ⟨ts, Database.stats_snd.trans same, .nothing ts⟩
  | indexers => exact ⟨ts, Database.indexers_snd.trans same, .nothing ts⟩

end Operation

end ReleaseHistory
