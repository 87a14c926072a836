/-
# ReleaseHistory.Proofs.Transaction -- when a transaction succeeds, and what it leaves

`Work.Yields w db a db'` says that the work `w` succeeds on the database `db` with the
answer `a` and leaves `db'`.  Each statement has one lemma that says when it does;
`yields_bind` cuts a transaction at its statements, so that simplification turns the
success of a whole transaction into its conditions and its effect:

* `yields_insertRelease`, `yields_insertStatus`, `yields_deleteReleases` and the two
  for profiles are the only work that writes;
* `yields_readStatuses` and the others leave the database as it is.
-/
import ReleaseHistory.Proofs.Outcome
import ReleaseHistory.Search.Overview
import ReleaseHistory.Store.Deliveries
import ReleaseHistory.Store.Profile
import ReleaseHistory.Store.Purge

namespace ReleaseHistory

set_option autoImplicit false

/-! ## Limits of a statement -/

namespace Statement

/-- The number of values that conditions carry, given the number for each. -/
def valueCount (conditions : List Nat) : Nat := conditions.foldr (· + ·) 0

@[simp] theorem valueCount_nil : valueCount [] = 0 := rfl

@[simp] theorem valueCount_cons (n : Nat) (ns : List Nat) :
    valueCount (n :: ns) = n + valueCount ns := rfl

theorem valueCount_append (ns ms : List Nat) :
    valueCount (ns ++ ms) = valueCount ns + valueCount ms := by
  induction ns with
  | nil => exact (Nat.zero_add _).symm
  | cons n ns ih => rw [List.cons_append, valueCount_cons, valueCount_cons, ih, Nat.add_assoc]

theorem outageFrom?_eq_none_iff {conditions values behind : Nat} {ns : List Nat}
    (few : conditions ≤ maxConditions) :
    outageFrom? conditions values behind ns = none ↔
      conditions + ns.length ≤ maxConditions ∧ values + valueCount ns + behind ≤ maxValues := by
  induction ns generalizing conditions values with
  | nil =>
      simp only [outageFrom?, ite_eq_right_iff, reduceCtorEq, imp_false, List.length_nil, valueCount_nil]
      omega
  | cons n ns ih =>
      simp only [outageFrom?, List.length_cons, valueCount_cons]
      split
      · simp only [reduceCtorEq, false_iff]
        omega
      · split
        · simp only [reduceCtorEq, false_iff]
          omega
        · rw [ih (by omega)]
          omega

/-- A statement is within its limits exactly if its conditions and its values are not too
many. -/
theorem outage?_eq_none_iff {conditions : List Nat} {behind : Nat} :
    outage? conditions behind = none ↔
      conditions.length ≤ maxConditions ∧ valueCount conditions + behind ≤ maxValues := by
  rw [outage?, outageFrom?_eq_none_iff (Nat.zero_le _), Nat.zero_add, Nat.zero_add]

end Statement

namespace Work

variable {α β : Type} {db db' : Database}

/-- The work succeeds on a database with the given answer and leaves the second one. -/
def Yields (w : Work α) (db : Database) (a : α) (db' : Database) : Prop :=
  w.run db = .ok (a, db')

/-! ## Statements -/

@[simp] theorem yields_bind {w : Work α} {f : α → Work β} {b : β} :
    (w >>= f).Yields db b db' ↔ ∃ a mid, w.Yields db a mid ∧ (f a).Yields mid b db' := by
  unfold Yields
  rw [StateT.run_bind]
  cases w.run db with
  | error f => simp [bind, Except.bind]
  | ok r =>
      obtain ⟨a, mid⟩ := r
      simp only [bind, Except.bind, Except.ok.injEq, Prod.mk.injEq]
      constructor
      · exact fun rest => ⟨a, mid, ⟨rfl, rfl⟩, rest⟩
      · rintro ⟨_, _, ⟨rfl, rfl⟩, rest⟩
        exact rest

@[simp] theorem yields_pure {a b : α} : (pure a : Work α).Yields db b db' ↔ a = b ∧ db = db' := by
  have run : (pure a : Work α).run db = .ok (a, db) := rfl
  rw [Yields, run, Except.ok.injEq, Prod.mk.injEq]

@[simp] theorem not_yields_throw {f : Fault} {a : α} : ¬(throw f : Work α).Yields db a db' := by
  have run : (throw f : Work α).run db = .error f := rfl
  rw [Yields, run]
  exact fun impossible => by cases impossible

@[simp] theorem throw_bind {f : Fault} {g : α → Work β} :
    (throw f : Work α) >>= g = throw f := rfl

/-- Work that refuses under a condition succeeds where the condition fails. -/
@[simp] theorem yields_unless {p : Prop} [Decidable p] {f : Fault} {w : Work α} {a : α} :
    (if p then throw f else w).Yields db a db' ↔ ¬p ∧ w.Yields db a db' := by
  by_cases h : p <;> simp [h]

@[simp] theorem yields_tables {k : RecordKind} {ts : Tables} :
    (tables k).Yields db ts db' ↔ db.tables = some ts ∧ db = db' := by
  obtain ⟨found, locked⟩ := db
  cases found with
  | none =>
      have run : (tables k).run ⟨none, locked⟩ = .error (.unavailable (.missingTable k)) := rfl
      simp [Yields, run]
  | some us =>
      have run : (tables k).run ⟨some us, locked⟩ = .ok (us, ⟨some us, locked⟩) := rfl
      simp [Yields, run]

@[simp] theorem yields_carry {ns : List Int} {u : Unit} :
    (carry ns).Yields db u db' ↔ ns.all fits64 = true ∧ db = db' := by
  unfold carry
  split
  · rename_i fit
    simp [fit]
  · rename_i large
    simp only [not_yields_throw, false_iff]
    exact fun fit => large fit.1

@[simp] theorem yields_acquireLock {u : Unit} :
    acquireLock.Yields db u db' ↔ db.locked = false ∧ db = db' := by
  obtain ⟨found, locked⟩ := db
  cases locked with
  | false =>
      have run : acquireLock.run ⟨found, false⟩ = .ok ((), ⟨found, false⟩) := rfl
      simp [Yields, run]
  | true =>
      have run : acquireLock.run ⟨found, true⟩ = .error (.unavailable .locked) := rfl
      simp [Yields, run]

@[simp] theorem yields_takeId {chosen : Option Int} {id : Int} :
    (takeId chosen).Yields db id db' ↔ chosen = some id ∧ db = db' := by
  cases chosen <;> simp [takeId]

@[simp] theorem yields_setTables {ts : Tables} {u : Unit} :
    (setTables ts).Yields db u db' ↔ { db with tables := some ts } = db' := by
  have run : (setTables ts).run db = .ok ((), { db with tables := some ts }) := rfl
  simp [Yields, run]

@[simp] theorem yields_ofExcept {e : Except Fault α} {a : α} :
    (ofExcept e).Yields db a db' ↔ e = .ok a ∧ db = db' := by
  cases e with
  | error f =>
      have run : (ofExcept (.error f : Except Fault α)).run db = .error f := rfl
      simp [Yields, run]
  | ok b =>
      have run : (ofExcept (.ok b : Except Fault α)).run db = .ok (b, db) := rfl
      simp [Yields, run]

@[simp] theorem yields_check {c : Call} {n : Nat} {u : Unit} :
    (check c n).Yields db u db' ↔ c.check n = .ok () ∧ db = db' :=
  yields_ofExcept

@[simp] theorem yields_compose {conditions : List Nat} {behind : Nat} {u : Unit} :
    (compose conditions behind).Yields db u db' ↔
      Statement.outage? conditions behind = none ∧ db = db' := by
  unfold compose
  split
  · rename_i outage
    simp [outage]
  · rename_i fits
    simp [fits]

@[simp] theorem yields_resolve {lookup : Bool} {conditions : List Nat} {u : Unit} :
    (resolve lookup conditions).Yields db u db' ↔
      (lookup = true → conditions.length ≤ Statement.maxConditionsWithLookup) ∧ db = db' := by
  unfold resolve
  split
  · rename_i many
    simp only [Bool.and_eq_true, decide_eq_true_eq] at many
    simp only [not_yields_throw, many.1, true_implies, Nat.not_le.2 many.2, false_and]
  · rename_i few
    simp only [Bool.and_eq_true, decide_eq_true_eq, not_and, Nat.not_lt] at few
    rw [yields_pure, iff_true_intro few]
    simp

/-- Reading a list entry by entry leaves the database as it is. -/
@[simp] theorem yields_mapM_ofExcept {f : α → Except Fault β} {l : List α} {bs : List β} :
    (l.mapM fun a => ofExcept (f a)).Yields db bs db' ↔ l.mapM f = .ok bs ∧ db = db' := by
  induction l generalizing bs with
  | nil =>
      have none : ([] : List α).mapM f = .ok [] := rfl
      simp [none]
  | cons a l ih =>
      rw [List.mapM_cons, List.mapM_cons, yields_bind]
      simp only [yields_ofExcept, yields_bind, yields_pure]
      cases f a with
      | error e => simp [bind, Except.bind]
      | ok b =>
          cases rest : l.mapM f with
          | error e => simp [ih, rest, bind, Except.bind]
          | ok bs => simp [ih, rest, bind, Except.bind, pure, Except.pure, and_assoc, and_comm]

/-! ## Work that reads -/

/-- Reading statuses answers with those of the given releases, in their order. -/
theorem yields_readStatuses {ids : List Int} {ss : List ActionStatus} :
    (readStatuses ids).Yields db ss db' ↔
      db = db' ∧ (ids = [] ∧ ss = [] ∨
        ids ≠ [] ∧ Statement.outage? [ids.length] 0 = none ∧ ids.all fits64 = true ∧
          ∃ ts, db.tables = some ts ∧
            (ts.statusesOf ids).mapM (fun s => s.2.toStatus s.1) = .ok ss) := by
  unfold readStatuses
  cases ids with
  | nil =>
      simp only [List.isEmpty_nil, if_true, yields_pure, true_and, ne_eq, not_true_eq_false,
        false_and, or_false]
      exact ⟨fun ⟨e, same⟩ => ⟨same, e.symm⟩, fun ⟨same, e⟩ => ⟨e.symm, same⟩⟩
  | cons id ids =>
      simp only [List.isEmpty_cons, Bool.false_eq_true, if_false, yields_bind, yields_compose,
        yields_tables, yields_carry, yields_mapM_ofExcept, reduceCtorEq, false_and, ne_eq,
        not_false_eq_true, true_and, false_or]
      constructor
      · rintro ⟨_, _, ⟨fits, rfl⟩, ts, _, ⟨found, rfl⟩, _, _, ⟨carried, rfl⟩, read, rfl⟩
        exact ⟨rfl, fits, carried, ts, found, read⟩
      · rintro ⟨rfl, fits, carried, ts, found, read⟩
        exact ⟨(), _, ⟨fits, rfl⟩, ts, _, ⟨found, rfl⟩, (), _, ⟨carried, rfl⟩, read, rfl⟩

/-! ## Work that writes -/

/-- A release is inserted under its own id, which must be free, or under the next one. -/
theorem yields_insertRelease {draws : List DrawnId} {id k : Int} {r : StoredRelease} :
    (insertRelease draws id r).Yields db k db' ↔
      ∃ ts, db.tables = some ts ∧ (id :: r.numbers).all fits64 = true ∧ db.locked = false ∧
        (id ≠ 0 → ts.releases.contains id = false) ∧
        (if id ≠ 0 then some id else ts.releases.nextId? draws) = some k ∧
        db' = { db with tables := some { ts with releases := ts.releases.insert k r } } := by
  unfold insertRelease
  simp only [yields_bind, yields_tables, yields_carry, yields_acquireLock, throw_bind,
    yields_unless, yields_takeId, yields_setTables, yields_pure, not_and, Bool.not_eq_true]
  constructor
  · rintro ⟨ts, _, ⟨found, rfl⟩, _, _, ⟨fit, rfl⟩, _, _, ⟨free, rfl⟩, apart, _, _, ⟨chosen, rfl⟩, _,
      _, rfl, rfl, rfl⟩
    exact ⟨ts, found, fit, free, apart, chosen, rfl⟩
  · rintro ⟨ts, found, fit, free, apart, chosen, rfl⟩
    exact ⟨ts, _, ⟨found, rfl⟩, (), _, ⟨fit, rfl⟩, (), _, ⟨free, rfl⟩, apart, k, _, ⟨chosen, rfl⟩,
      (), _, rfl, rfl, rfl⟩

/-- A status is appended under the next id, if its release is there. -/
theorem yields_insertStatus {draws : List DrawnId} {k : Int} {s : StoredStatus} :
    (insertStatus draws s).Yields db k db' ↔
      ∃ ts, db.tables = some ts ∧ s.numbers.all fits64 = true ∧ db.locked = false ∧
        ts.statuses.nextId? draws = some k ∧ ts.releases.contains s.releaseId = true ∧
        db' = { db with tables := some { ts with statuses := ts.statuses.insert k s } } := by
  unfold insertStatus
  simp only [yields_bind, yields_tables, yields_carry, yields_acquireLock, throw_bind,
    yields_unless, yields_takeId, yields_setTables, yields_pure, Bool.not_eq_true,
    Bool.not_eq_false']
  constructor
  · rintro ⟨ts, _, ⟨found, rfl⟩, _, _, ⟨fit, rfl⟩, _, _, ⟨free, rfl⟩, _, _, ⟨chosen, rfl⟩, owned, _,
      _, rfl, rfl, rfl⟩
    exact ⟨ts, found, fit, free, chosen, by simpa using owned, rfl⟩
  · rintro ⟨ts, found, fit, free, chosen, owned, rfl⟩
    exact ⟨ts, _, ⟨found, rfl⟩, (), _, ⟨fit, rfl⟩, (), _, ⟨free, rfl⟩, k, _, ⟨chosen, rfl⟩,
      by simpa using owned, (), _, rfl, rfl, rfl⟩

/-- Releases are dropped together with their statuses. -/
theorem yields_deleteReleases {ids : List Int} {u : Unit} :
    (deleteReleases ids).Yields db u db' ↔
      ∃ ts, db.tables = some ts ∧ Statement.outage? [ids.length] 0 = none ∧ db.locked = false ∧
        db' = { db with tables := some (ts.dropReleases ids) } := by
  unfold deleteReleases
  simp only [yields_bind, yields_compose, yields_tables, yields_acquireLock, yields_setTables]
  constructor
  · rintro ⟨_, _, ⟨fits, rfl⟩, ts, _, ⟨found, rfl⟩, _, _, ⟨free, rfl⟩, rfl⟩
    exact ⟨ts, found, fits, free, rfl⟩
  · rintro ⟨ts, found, fits, free, rfl⟩
    exact ⟨(), _, ⟨fits, rfl⟩, ts, _, ⟨found, rfl⟩, (), _, ⟨free, rfl⟩, rfl⟩

/-- A profile is added under the next id, if its name is new. -/
theorem yields_addProfile {draws : List DrawnId} {k : Int} {p : NamedSwitches} :
    (addProfile draws p).Yields db k db' ↔
      ∃ ts, db.tables = some ts ∧ db.locked = false ∧ ts.profiles.nextId? draws = some k ∧
        (∀ row ∈ ts.profiles.rows, row.2.name ≠ p.name) ∧
        db' = { db with tables := some { ts with profiles := ts.profiles.insert k p } } := by
  unfold addProfile
  simp only [yields_bind, yields_tables, yields_acquireLock, throw_bind, yields_unless,
    yields_takeId, yields_setTables, yields_pure, List.any_eq_true, beq_iff_eq, not_exists, not_and]
  constructor
  · rintro ⟨ts, _, ⟨found, rfl⟩, _, _, ⟨free, rfl⟩, _, _, ⟨chosen, rfl⟩, apart, _, _, rfl, rfl, rfl⟩
    exact ⟨ts, found, free, chosen, apart, rfl⟩
  · rintro ⟨ts, found, free, chosen, apart, rfl⟩
    exact ⟨ts, _, ⟨found, rfl⟩, (), _, ⟨free, rfl⟩, k, _, ⟨chosen, rfl⟩, apart, (), _, rfl, rfl, rfl⟩

/-- A profile is replaced under its id; the name must be that of no other profile.  A
profile that is there already is not written. -/
theorem yields_replaceProfile {id k : Int} {p : NamedSwitches} :
    (replaceProfile id p).Yields db k db' ↔
      ∃ ts old, db.tables = some ts ∧ fits64 id = true ∧ ts.profiles.get? id = some old ∧ k = id ∧
        (old = p ∧ db' = db ∨ old ≠ p ∧ db.locked = false ∧ ts.nameTaken id p.name = false ∧
          db' = { db with tables := some { ts with profiles := ts.profiles.insert id p } }) := by
  unfold replaceProfile
  simp only [yields_bind, yields_tables, yields_carry, List.all_cons, List.all_nil, Bool.and_true]
  constructor
  · rintro ⟨ts, _, ⟨found, rfl⟩, _, _, ⟨fit, rfl⟩, rest⟩
    split at rest
    · exact absurd rest not_yields_throw
    · rename_i old present
      refine ⟨ts, old, found, fit, present, ?_⟩
      split at rest
      · rename_i differ
        simp only [yields_bind, yields_acquireLock, throw_bind, yields_unless, yields_setTables,
          yields_pure, Bool.not_eq_true] at rest
        obtain ⟨_, _, ⟨free, rfl⟩, fresh, _, _, rfl, rfl, rfl⟩ := rest
        exact ⟨rfl, .inr ⟨differ, free, fresh, rfl⟩⟩
      · rename_i same
        obtain ⟨rfl, rfl⟩ := yields_pure.1 rest
        exact ⟨rfl, .inl ⟨Decidable.not_not.1 same, rfl⟩⟩
  · rintro ⟨ts, old, found, fit, present, rfl, ⟨rfl, rfl⟩ | ⟨differ, free, fresh, rfl⟩⟩
    · refine ⟨ts, _, ⟨found, rfl⟩, (), _, ⟨fit, rfl⟩, ?_⟩
      rw [present]
      simp only [ne_eq, not_true_eq_false, if_false, yields_pure, and_self]
    · refine ⟨ts, _, ⟨found, rfl⟩, (), _, ⟨fit, rfl⟩, ?_⟩
      rw [present]
      simp only [if_pos differ, yields_bind, yields_acquireLock, throw_bind, yields_unless,
        yields_setTables, yields_pure, Bool.not_eq_true]
      exact ⟨(), _, ⟨free, rfl⟩, fresh, (), _, rfl, trivial, rfl⟩

end Work

/-! ## Work that fails -/

namespace Work

variable {α β : Type} {db : Database} {f : Fault}

/-- The work fails on a database with the given fault. -/
def Fails (w : Work α) (db : Database) (f : Fault) : Prop := w.run db = .error f

@[simp] theorem fails_bind {w : Work α} {g : α → Work β} :
    (w >>= g).Fails db f ↔ w.Fails db f ∨ ∃ a mid, w.Yields db a mid ∧ (g a).Fails mid f := by
  unfold Fails Yields
  rw [StateT.run_bind]
  cases w.run db with
  | error e => simp [bind, Except.bind]
  | ok r =>
      obtain ⟨a, mid⟩ := r
      simp only [bind, Except.bind, reduceCtorEq, false_or, Except.ok.injEq, Prod.mk.injEq]
      constructor
      · exact fun rest => ⟨a, mid, ⟨rfl, rfl⟩, rest⟩
      · rintro ⟨_, _, ⟨rfl, rfl⟩, rest⟩
        exact rest

@[simp] theorem not_fails_pure {a : α} : ¬(pure a : Work α).Fails db f := by
  have run : (pure a : Work α).run db = .ok (a, db) := rfl
  rw [Fails, run]
  exact fun impossible => by cases impossible

@[simp] theorem fails_throw {g : Fault} : (throw g : Work α).Fails db f ↔ g = f := by
  have run : (throw g : Work α).run db = .error g := rfl
  rw [Fails, run, Except.error.injEq]

/-- Work that refuses under a condition fails there with its fault, and else as it does. -/
@[simp] theorem fails_unless {p : Prop} [Decidable p] {g : Fault} {w : Work α} :
    (if p then throw g else w).Fails db f ↔ p ∧ g = f ∨ ¬p ∧ w.Fails db f := by
  by_cases h : p <;> simp [h]

@[simp] theorem fails_tables {k : RecordKind} :
    (tables k).Fails db f ↔ db.tables = none ∧ .unavailable (.missingTable k) = f := by
  obtain ⟨found, locked⟩ := db
  cases found with
  | none =>
      have run : (tables k).run ⟨none, locked⟩ = .error (.unavailable (.missingTable k)) := rfl
      simp [Fails, run]
  | some ts =>
      have run : (tables k).run ⟨some ts, locked⟩ = .ok (ts, ⟨some ts, locked⟩) := rfl
      simp [Fails, run]

@[simp] theorem fails_carry {ns : List Int} :
    (carry ns).Fails db f ↔ ns.all fits64 = false ∧ .overflow = f := by
  unfold carry
  split
  · rename_i fit
    simp [fit]
  · rename_i large
    rw [fails_throw, Bool.eq_false_iff.2 large]
    simp

@[simp] theorem fails_acquireLock : acquireLock.Fails db f ↔ db.locked = true ∧ .unavailable .locked = f := by
  obtain ⟨found, locked⟩ := db
  cases locked with
  | false =>
      have run : acquireLock.run ⟨found, false⟩ = .ok ((), ⟨found, false⟩) := rfl
      simp [Fails, run]
  | true =>
      have run : acquireLock.run ⟨found, true⟩ = .error (.unavailable .locked) := rfl
      simp [Fails, run]

@[simp] theorem fails_takeId {chosen : Option Int} :
    (takeId chosen).Fails db f ↔ chosen = none ∧ .unavailable .full = f := by
  cases chosen <;> simp [takeId]

@[simp] theorem not_fails_setTables {ts : Tables} : ¬(setTables ts).Fails db f := by
  have run : (setTables ts).run db = .ok ((), { db with tables := some ts }) := rfl
  rw [Fails, run]
  exact fun impossible => by cases impossible

@[simp] theorem fails_ofExcept {e : Except Fault α} : (ofExcept e).Fails db f ↔ e = .error f := by
  cases e with
  | error g =>
      have run : (ofExcept (.error g : Except Fault α)).run db = .error g := rfl
      simp [Fails, run]
  | ok a =>
      have run : (ofExcept (.ok a : Except Fault α)).run db = .ok (a, db) := rfl
      simp [Fails, run]

@[simp] theorem fails_check {c : Call} {n : Nat} : (check c n).Fails db f ↔ c.check n = .error f :=
  fails_ofExcept

@[simp] theorem fails_compose {conditions : List Nat} {behind : Nat} :
    (compose conditions behind).Fails db f ↔
      ∃ o, Statement.outage? conditions behind = some o ∧ .unavailable o = f := by
  unfold compose
  cases Statement.outage? conditions behind <;> simp

@[simp] theorem fails_resolve {lookup : Bool} {conditions : List Nat} :
    (resolve lookup conditions).Fails db f ↔
      (lookup = true ∧ Statement.maxConditionsWithLookup < conditions.length) ∧
        .unavailable .largeExpression = f := by
  unfold resolve
  split
  · rename_i many
    simp only [Bool.and_eq_true, decide_eq_true_eq] at many
    simp [many]
  · rename_i few
    simp only [Bool.and_eq_true, decide_eq_true_eq] at few
    simp [few]

/-- Reading a list entry by entry fails exactly if the list cannot be read. -/
@[simp] theorem fails_mapM_ofExcept {g : α → Except Fault β} {l : List α} :
    (l.mapM fun a => ofExcept (g a)).Fails db f ↔ l.mapM g = .error f := by
  induction l with
  | nil =>
      have nothing : ([] : List α).mapM g = .ok [] := rfl
      simp [nothing]
  | cons a l ih =>
      rw [List.mapM_cons, List.mapM_cons, fails_bind]
      simp only [fails_ofExcept, yields_ofExcept, fails_bind, not_fails_pure]
      cases g a with
      | error e => simp [bind, Except.bind]
      | ok b =>
          constructor
          · rintro (impossible | ⟨_, _, ⟨-, rfl⟩, failed | ⟨_, _, -, impossible⟩⟩)
            · cases impossible
            · simp [ih.1 failed, bind, Except.bind]
            · exact impossible.elim
          · intro failed
            refine .inr ⟨b, db, ⟨rfl, rfl⟩, .inl (ih.2 ?_)⟩
            cases read : l.mapM g with
            | error e => simpa [read, bind, Except.bind] using failed
            | ok bs => simp [read, bind, Except.bind, pure, Except.pure] at failed

end Work

/-! ## Checks -/

/-- A check fails because the call was canceled, because its deadline has passed, or because
the two cannot be told. -/
theorem Call.of_check_eq_error {c : Call} {n : Nat} {f : Fault} (refused : c.check n = .error f) :
    f = .canceled ∨ f = .overflow ∨ f = .typeMismatch ∨ ∃ deadline, f = .deadlineExceeded deadline := by
  unfold Call.check Limits.check readClock at refused
  split at refused
  · exact .inl (Except.error.inj refused).symm
  · split at refused
    · cases refused
    · rename_i deadline _
      cases shown : (c.clockAt n).toAwareUtc? with
      | none =>
          rw [shown] at refused
          exact .inr (.inl (Except.error.inj refused).symm)
      | some now =>
          simp only [shown, bind, Except.bind] at refused
          split at refused
          · exact .inr (.inr (.inl (Except.error.inj refused).symm))
          · split at refused
            · exact .inr (.inr (.inr ⟨deadline, (Except.error.inj refused).symm⟩))
            · cases refused

/-! ## Transactions -/

namespace Database

variable {α : Type} {db db' : Database} {c : Call}

/-- A transaction succeeds if its first check passes and its work succeeds. -/
theorem run_ok_iff {n : Nat} {w : Work α} {a : α} :
    db.run c n w = (.ok a, db') ↔ c.check n = .ok () ∧ w.Yields db a db' := by
  unfold Database.run Work.Yields
  cases c.check n with
  | error f => simp
  | ok u =>
      cases w.run db with
      | error f => simp
      | ok r =>
          obtain ⟨b, mid⟩ := r
          simp

theorem fst_run_ok_iff {n : Nat} {w : Work α} {a : α} :
    (db.run c n w).1 = .ok a ↔ c.check n = .ok () ∧ ∃ db', w.Yields db a db' := by
  constructor
  · intro answer
    obtain ⟨first, yields⟩ := run_ok_iff.1 (Prod.ext answer rfl : db.run c n w = (.ok a, (db.run c n w).2))
    exact ⟨first, _, yields⟩
  · rintro ⟨first, db', yields⟩
    rw [run_ok_iff.2 ⟨first, yields⟩]

/-- A transaction that only looks at the tables answers what it makes of them. -/
theorem fst_run_tables {n : Nat} {k : RecordKind} {ts : Tables} (found : db.tables = some ts)
    (allowed : c.check n = .ok ()) (look : Tables → α) :
    (db.run c n (Work.tables k >>= fun ts => pure (look ts))).1 = .ok (look ts) := by
  refine fst_run_ok_iff.2 ⟨allowed, db, ?_⟩
  rw [Work.yields_bind]
  exact ⟨ts, db, Work.yields_tables.2 ⟨found, rfl⟩, Work.yields_pure.2 ⟨rfl, rfl⟩⟩

/-- A transaction fails if its first check or its work does. -/
theorem run_error_iff {n : Nat} {w : Work α} {f : Fault} :
    (db.run c n w).1 = .error f ↔ c.check n = .error f ∨ c.check n = .ok () ∧ w.Fails db f := by
  unfold Database.run Work.Fails
  cases c.check n with
  | error g => simp
  | ok u =>
      cases w.run db with
      | error g => simp
      | ok r => simp

/-- A transaction that fails leaves the database as it was. -/
theorem run_eq_error_iff {n : Nat} {w : Work α} {f : Fault} :
    db.run c n w = (.error f, db') ↔
      db' = db ∧ (c.check n = .error f ∨ c.check n = .ok () ∧ w.Fails db f) := by
  rw [← run_error_iff]
  constructor
  · intro ran
    exact ⟨run_of_error ran, by rw [ran]⟩
  · rintro ⟨rfl, failed⟩
    have ran : db'.run c n w = (.error f, (db'.run c n w).2) := Prod.ext failed rfl
    rw [ran, run_of_error ran]

/-- A transaction ends in a fault and leaves the database as it was, or succeeds. -/
theorem run_cases (db : Database) (c : Call) (n : Nat) (w : Work α) :
    (∃ f, db.run c n w = (.error f, db)) ∨ ∃ a db', db.run c n w = (.ok a, db') := by
  cases h : db.run c n w with
  | mk outcome db' =>
      cases outcome with
      | error f => exact .inl ⟨f, by rw [run_of_error h]⟩
      | ok a => exact .inr ⟨a, db', rfl⟩

end Database

end ReleaseHistory
