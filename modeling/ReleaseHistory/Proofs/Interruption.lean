/-
# ReleaseHistory.Proofs.Interruption -- a purge that is canceled stops between two batches

A purge makes two checks for each batch, one before it looks and one before its changes
last, and one more for the look that finds nothing: for `m` batches `2 * m + 1` checks in
all.  A call that cancels itself at one of them ends the purge there, and the batch under
way is undone.

* `Purge.sweepFirst` deletes some of the releases that match, those with the least ids,
  together with their statuses.
* `batchesFrom_stopped` is the loop: when the `n`-th check fails, `(n - 1) / 2` batches
  were completed.
* A purge whose statements are too large (`Purge.Fits`) deletes nothing at all.

So a purge that is canceled leaves what a partial sweep leaves, no release without its
statuses, and a later purge deletes the rest (`purge_canceled`).
-/
import ReleaseHistory.Proofs.Purge

namespace ReleaseHistory

set_option autoImplicit false

/-! ## Calls that cancel themselves -/

namespace Call

/-- A call without other limits that cancels itself at its `n`-th check. -/
def cancelingAt (clock : DateTime) (n : Nat) : Call := { clock, limits := { cancelAtCheck := some n } }

theorem check_cancelingAt (clock : DateTime) {n : Nat} (counted : 1 ≤ n) (k : Nat) :
    (cancelingAt clock n).check k = if n ≤ k then .error .canceled else .ok () := by
  have asked : ({ cancelAtCheck := some (n : Int) } : Limits).canceledAt k = decide (n ≤ k) := by
    have first : (1 : Int) ≤ n := by omega
    simp [Limits.canceledAt, first]
  unfold check cancelingAt Limits.check
  simp only [asked, decide_eq_true_eq]

end Call

/-! ## Statements that are too large -/

namespace Statement

/-- Conditions that are few enough but carry too many values are refused for that. -/
theorem outageFrom?_eq_manyValues {conditions values behind : Nat} {ns : List Nat}
    (few : conditions + ns.length ≤ maxConditions) (many : maxValues < values + valueCount ns + behind) :
    outageFrom? conditions values behind ns = some .manyValues := by
  induction ns generalizing conditions values with
  | nil =>
      rw [valueCount_nil, Nat.add_zero] at many
      rw [outageFrom?, if_pos many]
  | cons n ns ih =>
      rw [List.length_cons] at few
      rw [valueCount_cons] at many
      rw [outageFrom?]
      by_cases here : maxValues < values + n
      · rw [if_pos here]
      · rw [if_neg here, if_neg (by omega)]
        apply ih
        · omega
        · omega

theorem outage?_eq_manyValues {behind : Nat} {ns : List Nat} (few : ns.length ≤ maxConditions)
    (many : maxValues < valueCount ns + behind) : outage? ns behind = some .manyValues := by
  apply outageFrom?_eq_manyValues
  · rw [Nat.zero_add]
    exact few
  · rw [Nat.zero_add]
    exact many

end Statement

namespace Purge

variable {p : Purge} {c : Call} {ts : Tables} {cutoff : Option DateTime} {size : Int} {f : Fault}

/-! ## Batches that are stopped -/

/-- A batch whose second check fails is undone. -/
theorem run_batch_stopped {k : Nat} (positive : 1 ≤ size) (fits : Work.fits64 size = true)
    (short : Statement.outage? (p.conditions cutoff) 2 = none)
    (few : min size.toNat (p.matching cutoff ts).length ≤ Statement.maxValues)
    (opened : c.check (2 * k + 1) = .ok ()) (stopped : c.check (2 * k + 2) = .error f)
    (more : p.matching cutoff ts ≠ []) :
    Database.run { tables := some ts } c (2 * k + 1) (p.batch cutoff size c k) =
      (.error f, { tables := some ts }) := by
  have chosen : takeRows size (p.matching cutoff ts) = (p.matching cutoff ts).take size.toNat :=
    takeRows_of_nonneg _ (by omega)
  obtain ⟨nonempty, batchFits⟩ := outage?_batch positive few more
  apply Database.run_eq_error_iff.2
  refine ⟨rfl, .inr ⟨opened, ?_⟩⟩
  unfold batch
  simp only [Work.fails_bind]
  refine .inr ⟨(), _, Work.yields_compose.2 ⟨short, rfl⟩, .inr ⟨ts, _, Work.yields_tables.2 ⟨rfl, rfl⟩,
    .inr ⟨(), _, Work.yields_carry.2 ⟨by simpa using fits, rfl⟩, ?_⟩⟩⟩
  rw [chosen, if_neg (by simpa using nonempty)]
  simp only [Work.fails_bind]
  exact .inr ⟨(), _, Work.yields_deleteReleases.2 ⟨ts, rfl, batchFits, rfl, rfl⟩,
    .inl (Work.fails_check.2 stopped)⟩

theorem batchesFrom_of_error {fuel k : Nat} {db db' : Database}
    (ran : db.run c (2 * k + 1) (p.batch cutoff size c k) = (.error f, db')) :
    p.batchesFrom cutoff size c (fuel + 1) k db = (.error f, db') := by
  rw [batchesFrom, ran]

/-- When the `n`-th check is the first to fail, the batches that made both of their checks
before it were completed, and no others. -/
theorem batchesFrom_stopped (positive : 1 ≤ size) (fits : Work.fits64 size = true)
    (short : Statement.outage? (p.conditions cutoff) 2 = none) {n : Nat}
    (passed : ∀ k, k < n → c.check k = .ok ()) (stopped : c.check n = .error f) {fuel k : Nat}
    {ts : Tables} (begun : 2 * k + 1 ≤ n)
    (made : n ≤ 2 * (k + batchCount size.toNat (p.matching cutoff ts).length) + 1)
    (enough : (p.matching cutoff ts).length < fuel)
    (few : min size.toNat (p.matching cutoff ts).length ≤ Statement.maxValues) :
    p.batchesFrom cutoff size c fuel k { tables := some ts } =
      (.error f, { tables := some (ts.dropReleases
        ((p.matching cutoff ts).take (size.toNat * ((n - 1) / 2 - k)))) }) := by
  induction fuel generalizing k ts with
  | zero => exact absurd enough (Nat.not_lt_zero _)
  | succ fuel ih =>
      have unchanged (none : (n - 1) / 2 - k = 0) :
          ts.dropReleases ((p.matching cutoff ts).take (size.toNat * ((n - 1) / 2 - k))) = ts := by
        rw [none, Nat.mul_zero, List.take_zero, Tables.dropReleases_nil]
      by_cases atLook : n = 2 * k + 1
      · rw [unchanged (by omega)]
        exact batchesFrom_of_error (Database.run_eq_error_iff.2 ⟨rfl, .inl (atLook ▸ stopped)⟩)
      · have opened : c.check (2 * k + 1) = .ok () := passed _ (by omega)
        have more : p.matching cutoff ts ≠ [] := by
          intro none
          rw [none, List.length_nil, batchCount_zero (by omega)] at made
          omega
        by_cases atEnd : n = 2 * k + 2
        · rw [unchanged (by omega)]
          exact batchesFrom_of_error
            (run_batch_stopped positive fits short few opened (atEnd ▸ stopped) more)
        · -- Both checks pass, so that one batch more is completed.
          have committed : c.check (2 * k + 2) = .ok () := passed _ (by omega)
          have ran := run_batch positive fits short few opened committed more
          have pos := List.length_pos_iff.2 more
          have counted := batchCount_sub (show 1 ≤ size.toNat by omega) pos
          have later := @ih (k + 1) (ts.dropReleases ((p.matching cutoff ts).take size.toNat))
          rw [matching_after_batch, List.length_drop] at later
          rw [batchesFrom_of_batch ran (outage?_batch positive few more).1,
            later (by omega) (by omega) (by omega) (by omega), Tables.dropReleases_dropReleases,
            ← List.take_add]
          have one : (n - 1) / 2 - k = 1 + ((n - 1) / 2 - (k + 1)) := by omega
          rw [one, Nat.mul_add, Nat.mul_one]
          rfl

/-! ## The releases that come first -/

/-- The number of releases that match and have a smaller id. -/
def rank (p : Purge) (c : Call) (ts : Tables) (id : Int) : Nat :=
  ts.releases.rows.countP fun row => p.Matches c ts row ∧ row.1 < id

/-- The release is one of the first `n` that match, in ascending order of their ids. -/
def MatchesFirst (p : Purge) (n : Nat) (c : Call) (ts : Tables) (row : Int × StoredRelease) : Prop :=
  p.Matches c ts row ∧ p.rank c ts row.1 < n

instance (p : Purge) (n : Nat) (c : Call) (ts : Tables) (row : Int × StoredRelease) :
    Decidable (p.MatchesFirst n c ts row) :=
  inferInstanceAs (Decidable (_ ∧ _))

/-- The tables without the first `n` releases that match and without their statuses. -/
def sweepFirst (p : Purge) (n : Nat) (c : Call) (ts : Tables) : Tables :=
  { ts with
    releases := ts.releases.filter fun id r => ¬p.MatchesFirst n c ts (id, r)
    statuses := ts.statuses.filter fun _ s =>
      ∀ row ∈ ts.releases.rows, row.1 = s.releaseId → ¬p.MatchesFirst n c ts row }

/-- The first numbers of an ascending list are those that have few smaller ones before
them. -/
theorem mem_take_iff_countP {l : List Int} (ascending : l.Pairwise (· < ·)) {n : Nat} {x : Int} :
    x ∈ l.take n ↔ x ∈ l ∧ l.countP (· < x) < n := by
  induction l generalizing n with
  | nil => simp
  | cons a l ih =>
      obtain ⟨first, rest⟩ := List.pairwise_cons.1 ascending
      cases n with
      | zero => simp
      | succ n =>
          rw [List.take_succ_cons, List.mem_cons, List.mem_cons, ih rest]
          by_cases same : x = a
          · subst same
            have none : (x :: l).countP (· < x) = 0 := by
              rw [List.countP_eq_zero]
              intro y held
              rcases List.mem_cons.1 held with rfl | held
              · simp
              · have := first y held
                simp only [decide_eq_true_eq]
                omega
            simp [none]
          · simp only [same, false_or]
            apply and_congr_right
            intro held
            have smaller : a < x := first x held
            rw [List.countP_cons_of_pos (by simpa using smaller), Nat.add_lt_add_iff_right]

/-- The first ids that match are those of the first releases that match. -/
theorem mem_take_matching {l : Ledger} (faithful : l.Faithful ts) (exact : p.IsCutoff c cutoff)
    {n : Nat} {id : Int} :
    id ∈ (p.matching cutoff ts).take n ↔
      ∃ row ∈ ts.releases.rows, row.1 = id ∧ p.MatchesFirst n c ts row := by
  have ranked : (p.matching cutoff ts).countP (· < id) = p.rank c ts id := by
    rw [matching, List.countP_map, List.countP_filter, rank]
    apply List.countP_congr
    intro row held
    simp only [Function.comp_apply, Bool.and_eq_true, decide_eq_true_eq]
    rw [selects_iff_matches exact (faithful.utc held), and_comm]
  rw [mem_take_iff_countP (ascending_matching p cutoff ts), ranked,
    mem_matching_iff_matches faithful exact]
  constructor
  · rintro ⟨⟨row, held, rfl, matched⟩, early⟩
    exact ⟨row, held, rfl, matched, early⟩
  · rintro ⟨row, held, rfl, matched, early⟩
    exact ⟨⟨row, held, rfl, matched⟩, early⟩

theorem dropReleases_take_matching {l : Ledger} (faithful : l.Faithful ts)
    (exact : p.IsCutoff c cutoff) (n : Nat) :
    ts.dropReleases ((p.matching cutoff ts).take n) = p.sweepFirst n c ts :=
  dropReleases_eq fun _ => mem_take_matching faithful exact

/-! ## Limits of the statements -/

/-- Neither a look nor a batch carries more values than a statement can, where the given
number of releases match. -/
structure Fits (p : Purge) (size : Int) (count : Nat) : Prop where
  look : p.valueCount + 2 ≤ Statement.maxValues
  batch : min size.toNat count ≤ Statement.maxValues

/-- A purge whose statements are too large deletes nothing: it is refused as soon as its
first check has passed. -/
theorem purge_refused {l : Ledger} (faithful : l.Faithful ts) (age : 0 ≤ p.olderThanHours)
    (given : p.cutoff? c = .ok cutoff) (exact : p.IsCutoff c cutoff) (positive : 1 ≤ size)
    (fits : size ≤ Table.maxId) (beyond : ¬p.Fits size (p.count c ts)) (opened : c.check 1 = .ok ()) :
    Database.purge { tables := some ts } size c p =
      (.error (.unavailable .manyValues), { tables := some ts }) := by
  rw [purge_eq_batchesFrom age given]
  apply batchesFrom_of_error
  apply Database.run_eq_error_iff.2
  refine ⟨rfl, .inr ⟨opened, ?_⟩⟩
  unfold batch
  simp only [Work.fails_bind]
  by_cases short : p.valueCount + 2 ≤ Statement.maxValues
  · have many : Statement.maxValues < min size.toNat (p.matching cutoff ts).length := by
      rw [length_matching faithful exact]
      by_contra few
      exact beyond ⟨short, Nat.not_lt.1 few⟩
    have taken : takeRows size (p.matching cutoff ts) = (p.matching cutoff ts).take size.toNat :=
      takeRows_of_nonneg _ (by omega)
    have long : Statement.maxValues < ((p.matching cutoff ts).take size.toNat).length := by
      rw [List.length_take]
      exact many
    have nonempty : (p.matching cutoff ts).take size.toNat ≠ [] :=
      List.length_pos_iff.1 (Nat.lt_of_le_of_lt (Nat.zero_le _) long)
    refine .inr ⟨(), _, Work.yields_compose.2 ⟨outage?_conditions exact short, rfl⟩,
      .inr ⟨ts, _, Work.yields_tables.2 ⟨rfl, rfl⟩,
        .inr ⟨(), _, Work.yields_carry.2 ⟨by simpa using fits64_size positive fits, rfl⟩, ?_⟩⟩⟩
    rw [taken, if_neg (by simpa using nonempty)]
    simp only [Work.deleteReleases, Work.fails_bind]
    have refused : Statement.outage? [((p.matching cutoff ts).take size.toNat).length] 0 =
        some .manyValues := by
      apply Statement.outage?_eq_manyValues
      · simp [Statement.maxConditions]
      · simpa using long
    exact .inl (.inl (Work.fails_compose.2 ⟨_, refused, rfl⟩))
  · have refused : Statement.outage? (p.conditions cutoff) 2 = some .manyValues := by
      apply Statement.outage?_eq_manyValues
      · exact Nat.le_trans (length_conditions_le p cutoff) (by decide)
      · rw [valueCount_conditions exact]
        omega
    exact .inl (Work.fails_compose.2 ⟨_, refused, rfl⟩)

/-! ## The whole purge -/

/-- A purge whose `n`-th check fails before its end leaves what a partial sweep leaves. -/
theorem purge_stopped {l : Ledger} (faithful : l.Faithful ts) (age : 0 ≤ p.olderThanHours)
    (given : p.cutoff? c = .ok cutoff) (exact : p.IsCutoff c cutoff) (positive : 1 ≤ size)
    (fits : size ≤ Table.maxId) (within : p.Fits size (p.count c ts)) {n : Nat} (counted : 1 ≤ n)
    (passed : ∀ k, k < n → c.check k = .ok ()) (stopped : c.check n = .error f)
    (made : n ≤ 2 * batchCount size.toNat (p.count c ts) + 1) :
    Database.purge { tables := some ts } size c p =
      (.error f, { tables := some (p.sweepFirst
        (min (size.toNat * ((n - 1) / 2)) (p.count c ts)) c ts) }) := by
  have length := length_matching faithful exact
  have few := within.batch
  rw [← length] at made few
  have first : (p.matching cutoff ts).take (size.toNat * ((n - 1) / 2 - 0)) =
      (p.matching cutoff ts).take (min (size.toNat * ((n - 1) / 2)) (p.count c ts)) := by
    rw [← length, ← List.take_take, List.take_length, Nat.sub_zero]
  rw [purge_eq_batchesFrom age given,
    batchesFrom_stopped positive (fits64_size positive fits) (outage?_conditions exact within.look)
      passed stopped (by omega) (by rw [Nat.zero_add]; exact made) (length_matching_lt p cutoff ts) few,
    first, dropReleases_take_matching faithful exact]

/-- After a partial sweep an undisturbed purge deletes the rest of what matched. -/
theorem purge_rest {swept : Call} {l : Ledger} (faithful : l.Faithful ts) (age : 0 ≤ p.olderThanHours)
    (given : p.cutoff? c = .ok cutoff) (exact : p.IsCutoff c cutoff) (exact' : p.IsCutoff swept cutoff)
    (undisturbed : ∀ k, c.check k = .ok ()) (short : p.valueCount + 2 ≤ Statement.maxValues)
    (positive : 1 ≤ size) (fits : size ≤ Table.maxId) (n : Nat)
    (few : min size.toNat (p.count swept ts - n) ≤ Statement.maxValues) :
    Database.purge { tables := some (p.sweepFirst n swept ts) } size c p =
      (.ok (p.count swept ts - n), { tables := some (p.sweep swept ts) }) := by
  have rest := matching_after_batch p cutoff ts n
  rw [dropReleases_take_matching faithful exact'] at rest
  have counted : (p.matching cutoff (p.sweepFirst n swept ts)).length = p.count swept ts - n := by
    rw [rest, List.length_drop, length_matching faithful exact']
  rw [purge_eq_batchesFrom age given,
    batchesFrom_eq positive (fits64_size positive fits) (outage?_conditions exact short)
      (fun k _ => undisturbed k) (length_matching_lt p cutoff _) (by rw [counted]; exact few),
    counted, rest,
    ← dropReleases_take_matching faithful exact', Tables.dropReleases_dropReleases,
    List.take_append_drop, dropReleases_matching faithful exact']

/-- Whatever becomes of a purge, every release that is left has all its statuses, and every
status that is left has its release. -/
theorem exists_owned_purge {l : Ledger} (faithful : l.Faithful ts) (p : Purge) (size : Int) (c : Call) :
    ∃ left, (Database.purge { tables := some ts } size c p).2 = { tables := some left } ∧
      (∀ row ∈ left.releases.rows, row ∈ ts.releases.rows ∧
        left.statusesOf [row.1] = ts.statusesOf [row.1]) ∧
      ∀ s ∈ left.statuses.rows, left.releases.contains s.2.releaseId = true := by
  have found : ({ tables := some ts } : Database).tables = some ts := rfl
  obtain ⟨ids, -, left⟩ := exists_drops faithful p size c found
  refine ⟨ts.dropReleases ids, left, ?_, (faithful.drops ids).owned⟩
  intro row held
  have kept : row ∈ ts.releases.rows ∧ row.1 ∉ ids := by
    simpa [Tables.dropReleases, Table.filter, List.mem_filter] using held
  refine ⟨kept.1, ?_⟩
  rw [Tables.statusesOf_dropReleases, if_neg kept.2]

/-! ## The purge that is canceled -/

/-- After every run a purge that cancels itself at its `n`-th check, and whose statements are
not too large, either was over by then, or fails: then the batches that were completed are
gone, which are the first releases that match, with their statuses and nothing else.  A later
purge deletes the rest.  If a statement is too large, nothing is deleted.  In no case is a
release left without its statuses, or a status without its release. -/
theorem purge_canceled (run : Run) (clock : DateTime) (p : Purge) (age : 0 ≤ p.olderThanHours)
    (representable : p.olderThanHours ≠ 0 →
      DateTime.OnCalendar clock.instant ∧ DateTime.OnCalendar (p.horizon { clock }))
    (size : Int) (positive : 1 ≤ size) (fits : size ≤ Table.maxId) (n : Nat) (counted : 1 ≤ n) :
    ∃ ts, run.database = { tables := some ts } ∧
      (p.Fits size (p.count { clock } ts) → n ≤ 2 * batchCount size.toNat (p.count { clock } ts) + 1 →
        ∃ deleted, deleted = min (size.toNat * ((n - 1) / 2)) (p.count { clock } ts) ∧
          run.database.purge size (.cancelingAt clock n) p =
            (.error .canceled, { tables := some (p.sweepFirst deleted { clock } ts) }) ∧
          ∀ (other : Int) (later : Call), 1 ≤ other → other ≤ Table.maxId →
            (∀ k, later.check k = .ok ()) →
            (p.olderThanHours ≠ 0 → later.clock.instant = clock.instant) →
            min other.toNat (p.count { clock } ts - deleted) ≤ Statement.maxValues →
            Database.purge { tables := some (p.sweepFirst deleted { clock } ts) } other later p =
              (.ok (p.count { clock } ts - deleted), { tables := some (p.sweep { clock } ts) })) ∧
      (p.Fits size (p.count { clock } ts) → 2 * batchCount size.toNat (p.count { clock } ts) + 1 < n →
        run.database.purge size (.cancelingAt clock n) p = run.database.purge size { clock } p ∧
          run.database.purge size { clock } p =
            (.ok (p.count { clock } ts), { tables := some (p.sweep { clock } ts) })) ∧
      (¬p.Fits size (p.count { clock } ts) →
        run.database.purge size (.cancelingAt clock n) p =
          (.error (if n = 1 then .canceled else .unavailable .manyValues), run.database)) ∧
      ∃ left, (run.database.purge size (.cancelingAt clock n) p).2 = { tables := some left } ∧
        (∀ row ∈ left.releases.rows, row ∈ ts.releases.rows ∧
          left.statusesOf [row.1] = ts.statusesOf [row.1]) ∧
        ∀ s ∈ left.statuses.rows, left.releases.contains s.2.releaseId = true := by
  obtain ⟨ts, database, faithful⟩ := run.faithful
  obtain ⟨cutoff, given, exact⟩ := exists_cutoff (c := .cancelingAt clock n) age representable
  have checks := Call.check_cancelingAt clock counted
  have passed : ∀ k, k < n → (Call.cancelingAt clock n).check k = .ok () := by
    intro k early
    rw [checks, if_neg (Nat.not_le.2 early)]
  have stopped : (Call.cancelingAt clock n).check n = .error .canceled := by
    rw [checks, if_pos (Nat.le_refl n)]
  rw [database]
  refine ⟨ts, rfl, ?_, ?_, ?_, exists_owned_purge faithful p size _⟩
  · intro within made
    refine ⟨_, rfl, ?_, ?_⟩
    · exact purge_stopped faithful age given exact positive fits within counted passed stopped made
    · intro other later positive' fits' undisturbed sameTime few
      obtain ⟨cutoff', given', exact', exactBefore⟩ :=
        exists_cutoff_of_same_time (c := { clock }) age representable sameTime
      exact purge_rest faithful age given' exact' exactBefore undisturbed within.look positive' fits' _ few
  · intro within late
    have free : Database.purge { tables := some ts } size { clock } p =
        (.ok (p.count { clock } ts), { tables := some (p.sweep { clock } ts) }) :=
      purge_eq_of_passed faithful age given exact (fun _ _ => rfl) within.look positive fits within.batch
    have canceled : Database.purge { tables := some ts } size (.cancelingAt clock n) p =
        (.ok (p.count { clock } ts), { tables := some (p.sweep { clock } ts) }) :=
      purge_eq_of_passed faithful age given exact (fun k early => passed k (Nat.lt_of_le_of_lt early late))
        within.look positive fits within.batch
    exact ⟨canceled.trans free.symm, free⟩
  · intro beyond
    by_cases first : n = 1
    · subst first
      rw [if_pos rfl, purge_eq_batchesFrom age given]
      exact batchesFrom_of_error (Database.run_eq_error_iff.2 ⟨rfl, .inl stopped⟩)
    · rw [if_neg first]
      exact purge_refused faithful age given exact positive fits beyond (passed 1 (by omega))

/-- Three releases are kept. -/
def threeKept : Run :=
  [{ operation := .store { torrentName := "c", title := "C" }, call := .inMay },
    { operation := .store { torrentName := "b", title := "B" }, call := .inMay },
    { operation := .store { torrentName := "a", title := "A" }, call := .inMay }]

/-- Of three releases two are deleted two days later, in the one batch that is completed
before the fourth check, which ends the second batch. -/
theorem purge_canceled_threeKept :
    let clock : DateTime := ⟨⟨2024, 5, 3, by decide⟩, 0, some 0, by decide⟩
    let p : Purge := { olderThanHours := 24 }
    ∃ ts, threeKept.database = { tables := some ts } ∧ p.count { clock } ts = 3 ∧
      threeKept.database.purge 2 (.cancelingAt clock 4) p =
        (.error .canceled, { tables := some (p.sweepFirst 2 { clock } ts) }) := by
  intro clock p
  obtain ⟨ts, database, stopped, -⟩ := purge_canceled threeKept clock p (by decide)
    (fun _ => by decide +kernel) 2 (by decide) (by decide) 4 (by decide)
  have three : threeKept.database.tables.map (p.count { clock }) = some 3 := by decide +kernel
  rw [database] at three
  have matched : p.count { clock } ts = 3 := Option.some.inj three
  rw [matched] at stopped
  obtain ⟨deleted, rfl, ended, -⟩ := stopped ⟨by decide, by decide⟩ (by decide)
  exact ⟨ts, database, matched, ended⟩

/-- Where a purge that is canceled does other than stop between two batches and leave exactly the
rest: one with more indexers than a statement can carry values is refused, and deletes nothing,
before the check at which it would have been canceled; and one that goes by age deletes more when it
is made again two days later, a release that was not old enough then. -/
theorem purge_refuses_or_takes_more :
    let p : Purge := { indexers := List.replicate 255000 "" }
    ∃ ts, Run.delivery.database = { tables := some ts } ∧ p.count .inMay ts = 1 ∧
      3 ≤ 2 * batchCount 1 (p.count .inMay ts) + 1 ∧
      Run.delivery.database.purge 1 (.cancelingAt Call.inMay.clock 3) p =
        (.error (.unavailable .manyValues), Run.delivery.database) ∧
      Run.delivery.database.purge 1 (.cancelingAt Call.inMay.clock 3) p ≠
        (.error .canceled, { tables := some (p.sweepFirst 1 .inMay ts) }) ∧
      let early : DateTime := ⟨⟨2024, 5, 3, by decide⟩, 0, some 0, by decide⟩
      let late : DateTime := ⟨⟨2024, 5, 5, by decide⟩, 0, some 0, by decide⟩
      let dayOld : Purge := { olderThanHours := 24 }
      let run : Run :=
        [{ operation := .store { torrentName := "b", title := "B" }, call := { clock := early } },
          { operation := .store { torrentName := "a", title := "A" }, call := .inMay }]
      let canceled := run.database.purge 1 (.cancelingAt early 3) dayOld
      run.database.tables.map (dayOld.count { clock := early }) = some 1 ∧
        canceled.1 = .error .canceled ∧
        (canceled.2.purge 1 { clock := early } dayOld).1 = .ok 0 ∧
        (canceled.2.purge 1 { clock := late } dayOld).1 = .ok 1 := by
  intro p
  obtain ⟨ts, database, faithful⟩ := Run.delivery.faithful
  have many : p.valueCount = 255000 := by
    show 0 + (List.replicate 255000 "").length + 0 = 255000
    rw [List.length_replicate]
  have beyond : ¬p.Fits 1 (p.count .inMay ts) := by
    rintro ⟨look, -⟩
    rw [many] at look
    exact absurd look (by decide)
  have everything : ∀ row : Int × StoredRelease, row.2.indexer.identifier = "" →
      p.Matches .inMay ts row := by
    intro row unnamed
    refine ⟨.inl rfl, .inr ?_, .inl rfl⟩
    rw [unnamed]
    exact List.mem_replicate.2 ⟨by decide, rfl⟩
  have names : Run.delivery.database.tables.map
      (fun ts => ts.releases.rows.map (·.2.indexer.identifier)) = some [""] := by decide +kernel
  rw [database] at names
  have unnamed : ts.releases.rows.map (·.2.indexer.identifier) = [""] := Option.some.inj names
  have one : p.count .inMay ts = 1 := by
    have all : p.count .inMay ts = ts.releases.rows.length := by
      apply List.countP_eq_length.2
      intro row held
      have listed := List.mem_map_of_mem (f := fun row => row.2.indexer.identifier) held
      rw [unnamed, List.mem_singleton] at listed
      exact decide_eq_true (everything row listed)
    rw [all, ← List.length_map (fun row => row.2.indexer.identifier), unnamed]
    rfl
  have ended : Database.purge { tables := some ts } 1 (.cancelingAt Call.inMay.clock 3) p =
      (.error (.unavailable .manyValues), { tables := some ts }) :=
    purge_refused faithful (by decide) (rfl : p.cutoff? _ = .ok none) rfl (by decide) (by decide)
      beyond rfl
  rw [database]
  refine ⟨ts, rfl, one, ?_, ended, ?_, ?_⟩
  · rw [one]
    decide
  · rw [ended]
    intro same
    cases congrArg Prod.fst same
  · decide +kernel

end Purge

end ReleaseHistory
