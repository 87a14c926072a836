/-
# ReleaseHistory.Proofs.Purge -- a purge in batches is one sweep

`Purge.Matches` says which releases a purge is asked to delete, in terms of points in
time; `Purge.sweep` deletes them all at once, together with their statuses.

* The comparison of the kept timestamps, field by field, is the comparison of the points
  in time, because kept timestamps are in UTC (`selects_iff_matches`).
* Every batch looks again at what is left.  What it deletes does not change which of the
  others match (`matching_dropReleases`), so the looks see the ids that matched at the
  start, less those already deleted.
* Every batch but the last deletes something, so the batches come to an end
  (`loops_batchesFrom`), whatever the size of a batch.

So a purge within the limits of its statements does what one sweep does and counts what
matched (`purge_eq_sweep`).
-/
import ReleaseHistory.Proofs.Ledger

namespace ReleaseHistory

set_option autoImplicit false

namespace Purge

/-! ## What is to be deleted -/

/-- The point in time before which a release is old enough. -/
def horizon (p : Purge) (c : Call) : Int := c.clock.instant - p.olderThanHours * microsPerHour

/-- The release is old enough, from one of the indexers, and has one of the statuses, each
as far as the purge asks for it. -/
def Matches (p : Purge) (c : Call) (ts : Tables) (row : Int × StoredRelease) : Prop :=
  (p.olderThanHours = 0 ∨ row.2.timestamp.instant < p.horizon c) ∧
    (p.indexers = [] ∨ row.2.indexer.identifier ∈ p.indexers) ∧
    (p.statuses = [] ∨
      ∃ s ∈ ts.statuses.rows, s.2.releaseId = row.1 ∧ s.2.statusName ∈ p.statuses.map PushStatus.name)

instance (p : Purge) (c : Call) (ts : Tables) (row : Int × StoredRelease) :
    Decidable (p.Matches c ts row) :=
  inferInstanceAs (Decidable (_ ∧ _ ∧ _))

/-- The tables without the releases that match and without their statuses. -/
def sweep (p : Purge) (c : Call) (ts : Tables) : Tables :=
  { ts with
    releases := ts.releases.filter fun id r => ¬p.Matches c ts (id, r)
    statuses := ts.statuses.filter fun _ s =>
      ∀ row ∈ ts.releases.rows, row.1 = s.releaseId → ¬p.Matches c ts row }

/-- The number of releases that match. -/
def count (p : Purge) (c : Call) (ts : Tables) : Nat := ts.releases.rows.countP (p.Matches c ts)

/-- The number of values that the conditions of a look carry. -/
def valueCount (p : Purge) : Nat :=
  (if p.olderThanHours = 0 then 0 else 1) + p.indexers.length + p.statuses.length

variable {p : Purge} {c : Call} {ts : Tables} {cutoff : Option DateTime}

/-- A cutoff for the purge: none where age does not matter, else the horizon in UTC. -/
def IsCutoff (p : Purge) (c : Call) : Option DateTime → Prop
  | none => p.olderThanHours = 0
  | some t => p.olderThanHours ≠ 0 ∧ t.offset = none ∧ t.clock = p.horizon c

theorem exists_ofClock? (offset : Option Int) {n : Int} (fits : DateTime.OnCalendar n) :
    ∃ t, DateTime.ofClock? offset n = some t ∧ t.offset = offset ∧ t.clock = n := by
  cases shown : DateTime.ofClock? offset n with
  | none => exact absurd fits (DateTime.ofClock?_eq_none_iff.1 shown)
  | some t => exact ⟨t, rfl, DateTime.ofClock?_eq_some_iff.1 shown⟩

/-- There is a cutoff if clock and horizon lie in the years 1 to 9999. -/
theorem exists_cutoff (age : 0 ≤ p.olderThanHours)
    (representable : p.olderThanHours ≠ 0 →
      DateTime.OnCalendar c.clock.instant ∧ DateTime.OnCalendar (p.horizon c)) :
    ∃ cutoff, p.cutoff? c = .ok cutoff ∧ p.IsCutoff c cutoff := by
  by_cases any : p.olderThanHours = 0
  · exact ⟨none, by simp [cutoff?, any], any⟩
  · obtain ⟨clockFits, horizonFits⟩ := representable any
    obtain ⟨now, shown⟩ : ∃ now, c.clock.toAwareUtc? = some now := by
      cases shown : c.clock.toAwareUtc? with
      | none => exact absurd clockFits ((DateTime.toAwareUtc?_eq_none_iff _).1 shown)
      | some now => exact ⟨now, rfl⟩
    obtain ⟨-, sameInstant⟩ := DateTime.of_toAwareUtc?_eq_some shown
    obtain ⟨aware, moved, utc, at_⟩ := exists_ofClock? (some 0) horizonFits
    have instant : aware.instant = p.horizon c := by simp [DateTime.instant, utc, at_]
    obtain ⟨t, naive, noOffset, clock⟩ := exists_ofClock? none horizonFits
    refine ⟨some t, ?_, any, noOffset, clock⟩
    have added : now.addMicros? (-(p.olderThanHours * microsPerHour)) = some aware := by
      rw [DateTime.addMicros?, sameInstant, ← Int.sub_eq_add_neg]
      exact moved
    have back : aware.toNaiveUtc? = some t := by
      rw [DateTime.toNaiveUtc?, utc]
      simp only [instant, naive]
    have old : ¬p.olderThanHours ≤ 0 := fun young => any (Int.le_antisymm young age)
    rw [cutoff?, if_neg old, Call.time, readClock, shown]
    simp only [bind, Except.bind, added, Option.bind_some, back]
    rfl

/-- The cutoff that a purge takes is the horizon. -/
theorem isCutoff_of_cutoff? (age : 0 ≤ p.olderThanHours) (given : p.cutoff? c = .ok cutoff) :
    p.IsCutoff c cutoff := by
  unfold cutoff? at given
  split at given
  · rename_i young
    obtain rfl := Except.ok.inj given
    exact Int.le_antisymm young age
  · rename_i old
    unfold Call.time readClock at given
    cases shown : c.clock.toAwareUtc? with
    | none =>
        rw [shown] at given
        cases given
    | some now =>
        obtain ⟨-, sameInstant⟩ := DateTime.of_toAwareUtc?_eq_some shown
        rw [shown] at given
        simp only [bind, Except.bind] at given
        split at given
        · cases given
        · rename_i t moved
          obtain rfl := Except.ok.inj given
          obtain ⟨aware, added, back⟩ := Option.bind_eq_some_iff.1 moved
          obtain ⟨utc, clock⟩ := DateTime.ofClock?_eq_some_iff.1 added
          obtain ⟨naive, sameClock⟩ := DateTime.of_toNaiveUtc?_eq_some back
          refine ⟨fun none => old (Int.le_of_eq none), naive, ?_⟩
          rw [sameClock, DateTime.instant, utc, clock, sameInstant, horizon, ← Int.sub_eq_add_neg]
          exact Int.sub_zero _

/-- A purge for the same time has the same cutoff. -/
theorem exists_cutoff_of_same_time {later : Call} (age : 0 ≤ p.olderThanHours)
    (representable : p.olderThanHours ≠ 0 →
      DateTime.OnCalendar c.clock.instant ∧ DateTime.OnCalendar (p.horizon c))
    (same : p.olderThanHours ≠ 0 → later.clock.instant = c.clock.instant) :
    ∃ cutoff, p.cutoff? later = .ok cutoff ∧ p.IsCutoff later cutoff ∧ p.IsCutoff c cutoff := by
  have sameHorizon (asked : p.olderThanHours ≠ 0) : p.horizon later = p.horizon c := by
    rw [horizon, horizon, same asked]
  have representable' : p.olderThanHours ≠ 0 →
      DateTime.OnCalendar later.clock.instant ∧ DateTime.OnCalendar (p.horizon later) := by
    intro asked
    rw [sameHorizon asked, same asked]
    exact representable asked
  obtain ⟨cutoff, given, exact⟩ := exists_cutoff age representable'
  refine ⟨cutoff, given, exact, ?_⟩
  cases cutoff with
  | none => exact exact
  | some t =>
      obtain ⟨asked, naive, clock⟩ := exact
      exact ⟨asked, naive, clock.trans (sameHorizon asked)⟩

/-- On records with their timestamps in UTC a look selects what matches. -/
theorem selects_iff_matches {row : Int × StoredRelease} (exact : p.IsCutoff c cutoff)
    (utc : row.2.timestamp.offset = none) : p.selects cutoff ts row = true ↔ p.Matches c ts row := by
  have instant : row.2.timestamp.instant = row.2.timestamp.clock := by simp [DateTime.instant, utc]
  have listed : (p.indexers.isEmpty || p.indexers.contains row.2.indexer.identifier) = true ↔
      p.indexers = [] ∨ row.2.indexer.identifier ∈ p.indexers := by simp
  have marked : (p.statuses.isEmpty || ts.hasStatus row.1 (p.statuses.map PushStatus.name)) = true ↔
      p.statuses = [] ∨ ∃ s ∈ ts.statuses.rows, s.2.releaseId = row.1 ∧
        s.2.statusName ∈ p.statuses.map PushStatus.name := by
    rw [Bool.or_eq_true, List.isEmpty_iff, Tables.hasStatus_iff]
  unfold selects Matches
  rw [Bool.and_eq_true, Bool.and_eq_true, listed, marked, and_assoc]
  apply and_congr_left
  intro _
  cases cutoff with
  | none => simp only [Option.all_none, show p.olderThanHours = 0 from exact, true_or]
  | some t =>
      obtain ⟨asked, -, clock⟩ := exact
      rw [Option.all_some, decide_eq_true_eq, DateTime.fields_lt_iff, instant, clock]
      simp only [asked, false_or]

/-! ## One batch -/

/-- Deleting releases does not change which of the others are selected. -/
theorem matching_dropReleases (p : Purge) (cutoff : Option DateTime) (ts : Tables) (ids : List Int) :
    p.matching cutoff (ts.dropReleases ids) =
      (p.matching cutoff ts).filter fun id => !ids.contains id := by
  have same : ∀ row ∈ ts.releases.rows, (p.selects cutoff (ts.dropReleases ids) row &&
      !ids.contains row.1) = (!ids.contains row.1 && p.selects cutoff ts row) := by
    intro row _
    by_cases dropped : row.1 ∈ ids
    · simp [dropped]
    · simp [dropped, selects, Tables.hasStatus_dropReleases ts _ dropped]
  unfold matching
  rw [List.filter_map, List.filter_filter]
  refine congrArg (List.map Prod.fst) ?_
  show ((ts.releases.rows.filter _).filter _) = _
  rw [List.filter_filter]
  exact List.filter_congr same

theorem mem_matching {id : Int} :
    id ∈ p.matching cutoff ts ↔ ∃ row ∈ ts.releases.rows, p.selects cutoff ts row = true ∧ row.1 = id := by
  simp only [matching, List.mem_map, List.mem_filter, and_assoc]

theorem ascending_matching (p : Purge) (cutoff : Option DateTime) (ts : Tables) :
    (p.matching cutoff ts).Pairwise (· < ·) :=
  List.pairwise_map.2 (ts.releases.ascending.filter _)

/-- The ids that match are in order, each once. -/
theorem nodup_matching (p : Purge) (cutoff : Option DateTime) (ts : Tables) :
    (p.matching cutoff ts).Nodup :=
  (ascending_matching p cutoff ts).imp fun lt => Int.ne_of_lt lt

theorem filter_not_contains {first rest : List Int} (distinct : (first ++ rest).Nodup) :
    ((first ++ rest).filter fun id => !first.contains id) = rest := by
  have apart := (List.nodup_append.1 distinct).2.2
  rw [List.filter_append, List.filter_eq_nil_iff.2, List.nil_append, List.filter_eq_self.2]
  · intro id held
    simpa using fun early => apart id early id held rfl
  · intro id held
    simp [held]

/-- What is left to be deleted after a batch of the first ids. -/
theorem matching_after_batch (p : Purge) (cutoff : Option DateTime) (ts : Tables) (n : Nat) :
    p.matching cutoff (ts.dropReleases ((p.matching cutoff ts).take n)) =
      (p.matching cutoff ts).drop n := by
  have distinct := nodup_matching p cutoff ts
  rw [matching_dropReleases]
  rw [← List.take_append_drop n (p.matching cutoff ts)] at distinct
  have rest := filter_not_contains distinct
  rw [List.take_append_drop] at rest
  exact rest

/-! ## All batches -/

/-- The batches of a purge from the `k`-th on, until one fails or finds nothing. -/
inductive Loop (p : Purge) (cutoff : Option DateTime) (size : Int) (c : Call) :
    Nat → Database → Except Fault Nat × Database → Prop where
  | failed {k : Nat} {db db' : Database} {f : Fault}
      (ran : db.run c (2 * k + 1) (p.batch cutoff size c k) = (.error f, db')) :
      Loop p cutoff size c k db (.error f, db')
  | finished {k : Nat} {db db' : Database}
      (ran : db.run c (2 * k + 1) (p.batch cutoff size c k) = (.ok [], db')) :
      Loop p cutoff size c k db (.ok 0, db')
  | again {k : Nat} {db db' last : Database} {ids : List Int} {outcome : Except Fault Nat}
      (ran : db.run c (2 * k + 1) (p.batch cutoff size c k) = (.ok ids, db')) (chosen : ids ≠ [])
      (rest : Loop p cutoff size c (k + 1) db' (outcome, last)) :
      Loop p cutoff size c k db (outcome.map (ids.length + ·), last)

variable {size : Int} {db : Database}

theorem takeRows_of_nonneg {α : Type} {limit : Int} (rows : List α) (nonneg : 0 ≤ limit) :
    takeRows limit rows = rows.take limit.toNat := by
  rw [takeRows, if_neg (Int.not_lt.2 nonneg)]

/-- Some first ids of those that match make a batch. -/
theorem exists_takeRows (limit : Int) (ids : List Int) : ∃ n, takeRows limit ids = ids.take n := by
  unfold takeRows
  split
  · exact ⟨ids.length, List.take_length.symm⟩
  · exact ⟨_, rfl⟩

/-- As many looks as there are ids that match, and one more, are enough for the batches to
come to an end. -/
theorem loops_batchesFrom {fuel k : Nat} {db : Database} {ts : Tables} (found : db.tables = some ts)
    (enough : (p.matching cutoff ts).length < fuel) :
    p.Loop cutoff size c k db (p.batchesFrom cutoff size c fuel k db) := by
  induction fuel generalizing k db ts with
  | zero => exact absurd enough (Nat.not_lt_zero _)
  | succ fuel ih =>
      obtain ⟨f, ran⟩ | ⟨ids, after, ran⟩ := db.run_cases c (2 * k + 1) (p.batch cutoff size c k)
      · rw [batchesFrom, ran]
        exact .failed ran
      · obtain ⟨us, found', -, -, taken, rest⟩ := yields_batch.1 (Database.run_ok_iff.1 ran).2
        obtain rfl := Option.some.inj (found.symm.trans found')
        rcases rest with ⟨rfl, rfl⟩ | ⟨chosen, -, -, -, left⟩
        · rw [batchesFrom, ran]
          exact .finished ran
        · rw [batchesFrom_of_batch ran chosen]
          refine .again ran chosen ?_
          have shorter : (p.matching cutoff (ts.dropReleases ids)).length < fuel := by
            obtain ⟨n, first⟩ := exists_takeRows size (p.matching cutoff ts)
            rw [first] at taken
            have some := List.length_pos_iff.2 chosen
            rw [taken, List.length_take] at some
            rw [taken, matching_after_batch, List.length_drop]
            omega
          have leaves : after.tables = some (ts.dropReleases ids) := by rw [left]
          exact ih leaves shorter

/-- Batches drop nothing but what the purge selected from the start. -/
theorem Loop.drops {k : Nat} {db : Database} {result : Except Fault Nat × Database}
    (loop : p.Loop cutoff size c k db result) (found : db.tables = some ts) :
    ∃ ids, (∀ id ∈ ids, id ∈ p.matching cutoff ts) ∧
      result.2 = { db with tables := some (ts.dropReleases ids) } := by
  induction loop generalizing ts with
  | failed ran =>
      refine ⟨[], nofun, ?_⟩
      rw [Tables.dropReleases_nil, ← found]
      exact Database.run_of_error ran
  | finished ran =>
      obtain ⟨us, -, -, -, -, ⟨-, same⟩ | ⟨some, -⟩⟩ := yields_batch.1 (Database.run_ok_iff.1 ran).2
      · refine ⟨[], nofun, ?_⟩
        rw [Tables.dropReleases_nil, ← found]
        exact same
      · exact absurd rfl some
  | @again k db db' last ids outcome ran chosen rest ih =>
      obtain ⟨us, found', -, -, taken, ⟨none, -⟩ | ⟨-, -, -, -, rfl⟩⟩ :=
        yields_batch.1 (Database.run_ok_iff.1 ran).2
      · exact absurd none chosen
      · obtain rfl := Option.some.inj (found.symm.trans found')
        obtain ⟨more, selected, left⟩ := ih rfl
        refine ⟨ids ++ more, ?_, ?_⟩
        · intro id dropped
          rcases List.mem_append.1 dropped with now | later
          · obtain ⟨n, first⟩ := exists_takeRows size (p.matching cutoff ts)
            rw [taken, first] at now
            exact List.mem_of_mem_take now
          · have listed := selected id later
            rw [matching_dropReleases] at listed
            exact (List.mem_filter.1 listed).1
        · rw [← Tables.dropReleases_dropReleases]
          exact left

theorem length_matching_le (p : Purge) (cutoff : Option DateTime) (ts : Tables) :
    (p.matching cutoff ts).length ≤ ts.releases.size := by
  rw [matching, List.length_map]
  exact List.length_filter_le ..

/-- A look that finds nothing ends the batches. -/
theorem run_batch_nil {k : Nat} (fits : Work.fits64 size = true)
    (short : Statement.outage? (p.conditions cutoff) 2 = none) (opened : c.check (2 * k + 1) = .ok ())
    (ended : p.matching cutoff ts = []) :
    Database.run { tables := some ts } c (2 * k + 1) (p.batch cutoff size c k) =
      (.ok [], { tables := some ts }) := by
  have nothing : takeRows size (p.matching cutoff ts) = [] := by
    rw [ended]
    unfold takeRows
    split
    · rfl
    · exact List.take_nil
  apply Database.run_ok_iff.2
  exact ⟨opened, yields_batch.2 ⟨ts, rfl, short, fits, nothing.symm, .inl ⟨rfl, rfl⟩⟩⟩

/-- A batch has something to delete, and not more than a statement can carry. -/
theorem outage?_batch (positive : 1 ≤ size)
    (few : min size.toNat (p.matching cutoff ts).length ≤ Statement.maxValues)
    (more : p.matching cutoff ts ≠ []) :
    (p.matching cutoff ts).take size.toNat ≠ [] ∧
      Statement.outage? [((p.matching cutoff ts).take size.toNat).length] 0 = none := by
  have pos := List.length_pos_iff.2 more
  constructor
  · rw [← List.length_pos_iff, List.length_take]
    omega
  · rw [Statement.outage?_eq_none_iff, List.length_take]
    exact ⟨by simp [Statement.maxConditions], by simpa using few⟩

/-- A batch whose checks pass deletes the first ids that match. -/
theorem run_batch {k : Nat} (positive : 1 ≤ size) (fits : Work.fits64 size = true)
    (short : Statement.outage? (p.conditions cutoff) 2 = none)
    (few : min size.toNat (p.matching cutoff ts).length ≤ Statement.maxValues)
    (opened : c.check (2 * k + 1) = .ok ()) (committed : c.check (2 * k + 2) = .ok ())
    (more : p.matching cutoff ts ≠ []) :
    Database.run { tables := some ts } c (2 * k + 1) (p.batch cutoff size c k) =
      (.ok ((p.matching cutoff ts).take size.toNat),
        { tables := some (ts.dropReleases ((p.matching cutoff ts).take size.toNat)) }) := by
  have chosen : takeRows size (p.matching cutoff ts) = (p.matching cutoff ts).take size.toNat :=
    takeRows_of_nonneg _ (by omega)
  obtain ⟨nonempty, batchFits⟩ := outage?_batch positive few more
  apply Database.run_ok_iff.2
  exact ⟨opened, yields_batch.2 ⟨ts, rfl, short, fits, chosen.symm,
    .inr ⟨nonempty, batchFits, rfl, committed, rfl⟩⟩⟩

/-- The number of batches of the given size that the given number of releases makes. -/
def batchCount (size count : Nat) : Nat := (count + size - 1) / size

theorem batchCount_zero {size : Nat} (positive : 1 ≤ size) : batchCount size 0 = 0 := by
  apply Nat.div_eq_of_lt
  omega

theorem batchCount_sub {size count : Nat} (positive : 1 ≤ size) (more : 0 < count) :
    batchCount size count = batchCount size (count - size) + 1 := by
  have split : count + size - 1 = (count - 1) + size := by omega
  have here : batchCount size count = (count - 1) / size + 1 := by
    rw [batchCount, split, Nat.add_div_right _ positive]
  rw [here, batchCount]
  congr 1
  by_cases full : size ≤ count
  · have rest : count - size + size - 1 = count - 1 := by omega
    rw [rest]
  · rw [Nat.div_eq_of_lt (by omega), Nat.div_eq_of_lt (by omega)]

/-- Batches within their limits delete what matched at the start, and count it, if the two
checks of each batch and the one of the last look pass. -/
theorem batchesFrom_eq (positive : 1 ≤ size) (fits : Work.fits64 size = true)
    (short : Statement.outage? (p.conditions cutoff) 2 = none) {fuel k : Nat} {ts : Tables}
    (undisturbed : ∀ n, n ≤ 2 * (k + batchCount size.toNat (p.matching cutoff ts).length) + 1 →
      c.check n = .ok ())
    (enough : (p.matching cutoff ts).length < fuel)
    (few : min size.toNat (p.matching cutoff ts).length ≤ Statement.maxValues) :
    p.batchesFrom cutoff size c fuel k { tables := some ts } =
      (.ok (p.matching cutoff ts).length,
        { tables := some (ts.dropReleases (p.matching cutoff ts)) }) := by
  induction fuel generalizing k ts with
  | zero => exact absurd enough (Nat.not_lt_zero _)
  | succ fuel ih =>
      by_cases none : p.matching cutoff ts = []
      · rw [batchesFrom, run_batch_nil fits short (undisturbed _ (by omega)) none, none,
          Tables.dropReleases_nil]
        rfl
      · have pos := List.length_pos_iff.2 none
        have counted := batchCount_sub (show 1 ≤ size.toNat by omega) pos
        have ran := run_batch positive fits short few (undisturbed (2 * k + 1) (by omega))
          (undisturbed (2 * k + 2) (by omega)) none
        have rest := matching_after_batch p cutoff ts size.toNat
        have later := @ih (k + 1) (ts.dropReleases ((p.matching cutoff ts).take size.toNat))
        rw [rest, List.length_drop] at later
        rw [batchesFrom_of_batch ran (outage?_batch positive few none).1,
          later (fun n early => undisturbed n (by omega)) (by omega) (by omega),
          Tables.dropReleases_dropReleases, List.take_append_drop, ← List.length_drop]
        have total : ((p.matching cutoff ts).take size.toNat).length +
            ((p.matching cutoff ts).drop size.toNat).length = (p.matching cutoff ts).length := by
          rw [← List.length_append, List.take_append_drop]
        rw [← total]
        rfl

/-! ## The whole purge -/

/-- Dropping releases by their ids is dropping those with a property, if the ids are theirs. -/
theorem dropReleases_eq {ids : List Int} {drop : Int × StoredRelease → Prop} [DecidablePred drop]
    (dropped : ∀ id, id ∈ ids ↔ ∃ row ∈ ts.releases.rows, row.1 = id ∧ drop row) :
    ts.dropReleases ids =
      { ts with
        releases := ts.releases.filter fun id r => ¬drop (id, r)
        statuses := ts.statuses.filter fun _ s =>
          ∀ row ∈ ts.releases.rows, row.1 = s.releaseId → ¬drop row } := by
  unfold Tables.dropReleases
  congr 1
  · refine Table.ext_rows (List.filter_congr ?_)
    intro row held
    have same : row.1 ∈ ids ↔ drop row := by
      rw [dropped]
      refine ⟨?_, fun its => ⟨row, held, rfl, its⟩⟩
      rintro ⟨other, held', sameId, its⟩
      rw [← Table.eq_of_mem held' held sameId]
      exact its
    simp [same]
  · refine Table.ext_rows (List.filter_congr ?_)
    intro row _
    have same : row.2.releaseId ∈ ids ↔
        ¬∀ owner ∈ ts.releases.rows, owner.1 = row.2.releaseId → ¬drop owner := by
      rw [dropped]
      simp only [not_forall, not_not, exists_prop]
    simp only [List.contains_eq_mem, ← decide_not, same, not_not]

/-- The ids that match are those of the releases that match. -/
theorem mem_matching_iff_matches {l : Ledger} (faithful : l.Faithful ts) (exact : p.IsCutoff c cutoff)
    {id : Int} :
    id ∈ p.matching cutoff ts ↔ ∃ row ∈ ts.releases.rows, row.1 = id ∧ p.Matches c ts row := by
  rw [mem_matching]
  refine exists_congr fun row => and_congr_right fun held => ?_
  rw [selects_iff_matches exact (faithful.utc held), and_comm]

/-- Dropping the releases that match is the sweep. -/
theorem dropReleases_matching {l : Ledger} (faithful : l.Faithful ts) (exact : p.IsCutoff c cutoff) :
    ts.dropReleases (p.matching cutoff ts) = p.sweep c ts :=
  dropReleases_eq fun _ => mem_matching_iff_matches faithful exact

theorem length_matching {l : Ledger} (faithful : l.Faithful ts) (exact : p.IsCutoff c cutoff) :
    (p.matching cutoff ts).length = p.count c ts := by
  rw [matching, List.length_map, count, List.countP_eq_length_filter]
  refine congrArg List.length (List.filter_congr ?_)
  intro row held
  rw [Bool.eq_iff_iff, decide_eq_true_eq]
  exact selects_iff_matches exact (faithful.utc held)

theorem matching_sweep {l : Ledger} (faithful : l.Faithful ts) (exact : p.IsCutoff c cutoff) :
    p.matching cutoff (p.sweep c ts) = [] := by
  rw [← dropReleases_matching faithful exact, matching_dropReleases, List.filter_eq_nil_iff]
  intro id held
  simp [held]

theorem valueCount_conditions (exact : p.IsCutoff c cutoff) :
    Statement.valueCount (p.conditions cutoff) = p.valueCount := by
  have one : Statement.valueCount (cutoff.toList.map fun _ => 1) =
      if p.olderThanHours = 0 then 0 else 1 := by
    cases cutoff with
    | none => rw [if_pos (show p.olderThanHours = 0 from exact)]; rfl
    | some t => rw [if_neg exact.1]; rfl
  have named : Statement.valueCount (if p.indexers.isEmpty then [] else [p.indexers.length]) =
      p.indexers.length := by
    cases p.indexers <;> simp
  have marked : Statement.valueCount (if p.statuses.isEmpty then [] else [p.statuses.length]) =
      p.statuses.length := by
    cases p.statuses <;> simp
  rw [conditions, Statement.valueCount_append, Statement.valueCount_append, one, named, marked,
    valueCount]

theorem length_conditions_le (p : Purge) (cutoff : Option DateTime) :
    (p.conditions cutoff).length ≤ 3 := by
  unfold conditions
  cases cutoff <;> cases p.indexers <;> cases p.statuses <;> simp

theorem outage?_conditions (exact : p.IsCutoff c cutoff) (short : p.valueCount + 2 ≤ Statement.maxValues) :
    Statement.outage? (p.conditions cutoff) 2 = none := by
  rw [Statement.outage?_eq_none_iff, valueCount_conditions exact]
  exact ⟨Nat.le_trans (length_conditions_le p cutoff) (by decide), short⟩

theorem fits64_size (positive : 1 ≤ size) (fits : size ≤ Table.maxId) : Work.fits64 size = true := by
  simp only [Work.fits64, Table.maxId, Bool.and_eq_true, decide_eq_true_eq] at fits ⊢
  omega

theorem purge_eq_batchesFrom (age : 0 ≤ p.olderThanHours) (given : p.cutoff? c = .ok cutoff) :
    db.purge size c p = p.batchesFrom cutoff size c (db.releaseCount + 1) 0 db := by
  rw [Database.purge, if_neg (Int.not_lt.2 age)]
  simp only [given]

/-- There are enough looks for the batches to come to an end. -/
theorem length_matching_lt (p : Purge) (cutoff : Option DateTime) (ts : Tables) :
    (p.matching cutoff ts).length < Database.releaseCount { tables := some ts } + 1 :=
  Nat.lt_succ_of_le (length_matching_le p cutoff ts)

/-- A purge, whatever becomes of it, drops nothing but releases that match. -/
theorem exists_drops {l : Ledger} (faithful : l.Faithful ts) (p : Purge) (size : Int) (c : Call)
    {db : Database} (found : db.tables = some ts) :
    ∃ ids, (∀ id ∈ ids, ∃ row ∈ ts.releases.rows, row.1 = id ∧ p.Matches c ts row) ∧
      (db.purge size c p).2 = { db with tables := some (ts.dropReleases ids) } := by
  have unchanged : db = { db with tables := some (ts.dropReleases []) } := by
    rw [Tables.dropReleases_nil, ← found]
  unfold Database.purge
  split
  · exact ⟨[], nofun, unchanged⟩
  · rename_i age
    cases given : p.cutoff? c with
    | error f => exact ⟨[], nofun, unchanged⟩
    | ok cutoff =>
        have exact := isCutoff_of_cutoff? (Int.not_lt.1 age) given
        have enough : (p.matching cutoff ts).length < db.releaseCount + 1 := by
          rw [Database.releaseCount, found]
          exact length_matching_lt p cutoff ts
        have loop : p.Loop cutoff size c 0 db _ := loops_batchesFrom found enough
        obtain ⟨ids, selected, left⟩ := loop.drops found
        exact ⟨ids, fun id dropped => (mem_matching_iff_matches faithful exact).1 (selected id dropped),
          left⟩

/-- A purge within its limits does what one sweep does, if the checks that it makes pass. -/
theorem purge_eq_of_passed {l : Ledger} (faithful : l.Faithful ts) (age : 0 ≤ p.olderThanHours)
    (given : p.cutoff? c = .ok cutoff) (exact : p.IsCutoff c cutoff)
    (passed : ∀ n, n ≤ 2 * batchCount size.toNat (p.count c ts) + 1 → c.check n = .ok ())
    (short : p.valueCount + 2 ≤ Statement.maxValues) (positive : 1 ≤ size) (fits : size ≤ Table.maxId)
    (few : min size.toNat (p.count c ts) ≤ Statement.maxValues) :
    Database.purge { tables := some ts } size c p =
      (.ok (p.count c ts), { tables := some (p.sweep c ts) }) := by
  have counted := length_matching faithful exact
  rw [← counted] at passed few
  rw [purge_eq_batchesFrom age given,
    batchesFrom_eq positive (fits64_size positive fits) (outage?_conditions exact short)
      (by rw [Nat.zero_add]; exact passed) (length_matching_lt p cutoff ts) few,
    counted, dropReleases_matching faithful exact]

/-- A purge within its limits does what one sweep does. -/
theorem purge_eq {l : Ledger} (faithful : l.Faithful ts) (age : 0 ≤ p.olderThanHours)
    (given : p.cutoff? c = .ok cutoff) (exact : p.IsCutoff c cutoff)
    (undisturbed : ∀ n, c.check n = .ok ()) (short : p.valueCount + 2 ≤ Statement.maxValues)
    (positive : 1 ≤ size) (fits : size ≤ Table.maxId)
    (few : min size.toNat (p.count c ts) ≤ Statement.maxValues) :
    Database.purge { tables := some ts } size c p =
      (.ok (p.count c ts), { tables := some (p.sweep c ts) }) :=
  purge_eq_of_passed faithful age given exact (fun n _ => undisturbed n) short positive fits few

/-- After a sweep nothing matches any more. -/
theorem purge_sweep {swept : Call} {l : Ledger} (faithful : l.Faithful ts) (age : 0 ≤ p.olderThanHours)
    (given : p.cutoff? c = .ok cutoff) (exact : p.IsCutoff c cutoff) (exact' : p.IsCutoff swept cutoff)
    (undisturbed : ∀ n, c.check n = .ok ()) (short : p.valueCount + 2 ≤ Statement.maxValues)
    (positive : 1 ≤ size) (fits : size ≤ Table.maxId) :
    Database.purge { tables := some (p.sweep swept ts) } size c p =
      (.ok 0, { tables := some (p.sweep swept ts) }) := by
  have faithful' := faithful.drops (p.matching cutoff ts)
  rw [dropReleases_matching faithful exact'] at faithful'
  have none : p.count c (p.sweep swept ts) = 0 := by
    rw [← length_matching faithful' exact, matching_sweep faithful exact']
    rfl
  have still : p.sweep c (p.sweep swept ts) = p.sweep swept ts := by
    rw [← dropReleases_matching faithful' exact, matching_sweep faithful exact',
      Tables.dropReleases_nil]
  rw [purge_eq faithful' age given exact undisturbed short positive fits (by simp [none]), none, still]

/-- After every run a purge that is not interrupted and stays within the limits of its
statements deletes what one sweep deletes, whatever the size of its batches, and counts the
releases that matched.  Its loop comes to an end, and doing it again for the same time finds
nothing. -/
theorem purge_eq_sweep (run : Run) (c : Call) (p : Purge) (age : 0 ≤ p.olderThanHours)
    (representable : p.olderThanHours ≠ 0 →
      DateTime.OnCalendar c.clock.instant ∧ DateTime.OnCalendar (p.horizon c))
    (undisturbed : ∀ n, c.check n = .ok ()) (short : p.valueCount + 2 ≤ Statement.maxValues) :
    ∃ ts, run.database = { tables := some ts } ∧
      ∀ size : Int, 1 ≤ size → size ≤ Table.maxId →
        min size.toNat (p.count c ts) ≤ Statement.maxValues →
        run.database.purge size c p = (.ok (p.count c ts), { tables := some (p.sweep c ts) }) ∧
        (∃ cutoff, p.cutoff? c = .ok cutoff ∧
          p.Loop cutoff size c 0 run.database (run.database.purge size c p)) ∧
        ∀ (other : Int) (later : Call), 1 ≤ other → other ≤ Table.maxId →
          (∀ n, later.check n = .ok ()) →
          (p.olderThanHours ≠ 0 → later.clock.instant = c.clock.instant) →
          Database.purge { tables := some (p.sweep c ts) } other later p =
            (.ok 0, { tables := some (p.sweep c ts) }) := by
  obtain ⟨ts, database, faithful⟩ := run.faithful
  obtain ⟨cutoff, given, exact⟩ := exists_cutoff age representable
  refine ⟨ts, database, fun size positive fits few => ⟨?_, ⟨cutoff, given, ?_⟩, ?_⟩⟩
  · rw [database]
    exact purge_eq faithful age given exact undisturbed short positive fits few
  · rw [purge_eq_batchesFrom age given, database]
    exact loops_batchesFrom rfl (Nat.lt_succ_of_le (length_matching_le p cutoff ts))
  · intro other later positive' fits' undisturbed' same
    obtain ⟨cutoff', given', exact', exactBefore⟩ :=
      exists_cutoff_of_same_time age representable same
    exact purge_sweep faithful age given' exact' exactBefore undisturbed' short positive' fits'

/-- The delivered release of the short run is deleted two days later. -/
theorem purge_delivery :
    let c : Call := { clock := ⟨⟨2024, 5, 3, by decide⟩, 0, some 0, by decide⟩ }
    let p : Purge := { olderThanHours := 24, statuses := [.approved] }
    ∃ ts, Run.delivery.database = { tables := some ts } ∧ p.count c ts = 1 ∧
      Run.delivery.database.purge 1 c p = (.ok 1, { tables := some (p.sweep c ts) }) := by
  intro c p
  obtain ⟨ts, database, purged⟩ := purge_eq_sweep Run.delivery c p (by decide)
    (fun _ => by decide +kernel) (fun _ => rfl) (by decide)
  have one : Run.delivery.database.tables.map (p.count c) = some 1 := by decide +kernel
  rw [database] at one
  have counted : p.count c ts = 1 := Option.some.inj one
  obtain ⟨result, -, -⟩ := purged 1 (by decide) (by decide) (by rw [counted]; decide)
  rw [counted] at result
  exact ⟨ts, database, counted, result⟩

end Purge

end ReleaseHistory
