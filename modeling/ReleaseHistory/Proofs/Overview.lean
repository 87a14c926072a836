/-
# ReleaseHistory.Proofs.Overview -- the counts of a history agree with what it shows

The overview counts whole tables; the rest of a history shows releases and their statuses
one by one.

* Releases are counted as a query counts them that asks for the same (`Database.Counts`).
* Statuses are counted as they are listed, release by release (`countPushed_eq`): every
  status belongs to exactly one release that is there, so that the count of the table is
  the sum over the releases (`countP_eq_totalOver`).
* An indexer is listed exactly if it has a name and a query for it alone finds something.
-/
import ReleaseHistory.Proofs.Paging

namespace ReleaseHistory

set_option autoImplicit false

/-! ## Sums over owners -/

/-- The sum of a count over ids. -/
def totalOver (count : Int → Nat) (ids : List Int) : Nat := ids.foldr (fun id n => count id + n) 0

@[simp] theorem totalOver_nil (count : Int → Nat) : totalOver count [] = 0 := rfl

@[simp] theorem totalOver_cons (count : Int → Nat) (id : Int) (ids : List Int) :
    totalOver count (id :: ids) = count id + totalOver count ids := rfl

theorem totalOver_congr {count count' : Int → Nat} {ids : List Int}
    (same : ∀ id ∈ ids, count id = count' id) : totalOver count ids = totalOver count' ids := by
  induction ids with
  | nil => rfl
  | cons id ids ih =>
      rw [totalOver_cons, totalOver_cons, same id List.mem_cons_self,
        ih fun k later => same k (List.mem_cons_of_mem _ later)]

/-- What each has one owner for is counted owner by owner. -/
theorem countP_eq_totalOver {α : Type} (owner : α → Int) (p : α → Bool) {ids : List Int}
    (once : ids.Nodup) {rows : List α} (owned : ∀ row ∈ rows, owner row ∈ ids) :
    rows.countP p = totalOver (fun id => (rows.filter (owner · == id)).countP p) ids := by
  induction ids generalizing rows with
  | nil =>
      have none : rows = [] := List.eq_nil_iff_forall_not_mem.2 fun row held => by
        cases owned row held
      rw [none]
      rfl
  | cons id ids ih =>
      obtain ⟨first, later⟩ := List.nodup_cons.1 once
      -- the rows of the other owners
      have others : ∀ row ∈ rows.filter (fun row => !(owner row == id)), owner row ∈ ids := by
        intro row held
        obtain ⟨held, other⟩ := List.mem_filter.1 held
        rcases List.mem_cons.1 (owned row held) with own | own
        · simp [own] at other
        · exact own
      have same : ∀ k ∈ ids, ((rows.filter fun row => !(owner row == id)).filter (owner · == k)).countP p =
          (rows.filter (owner · == k)).countP p := by
        intro k listed
        have apart : k ≠ id := fun same => first (same ▸ listed)
        rw [List.filter_filter]
        congr 1
        apply List.filter_congr
        intro row _
        by_cases own : owner row = k <;> simp [own, apart]
      rw [totalOver_cons, List.countP_eq_countP_filter_add rows p (owner · == id), ih later others,
        totalOver_congr same]

/-! ## Counting releases -/

namespace Query

variable {q : Query} {ts : Tables}

/-- A query without terms and for one indexer at most stays within all limits. -/
theorem fits_of_termless (terms : Search.terms q.search = []) (noPush : q.pushStatus = none)
    (few : q.indexers.length ≤ 1) : q.Fits ts := by
  have conditions : q.conditions.length ≤ 2 ∧ Statement.valueCount q.conditions ≤ 2 := by
    unfold Query.conditions
    rw [terms, noPush]
    obtain none | ⟨x, one⟩ : q.indexers = [] ∨ ∃ x, q.indexers = [x] := by
      cases listed : q.indexers with
      | nil => exact .inl rfl
      | cons x rest =>
          rw [listed, List.length_cons] at few
          exact .inr ⟨x, by rw [List.eq_nil_of_length_eq_zero (by omega : rest.length = 0)]⟩
    · cases q.filterStatus <;> simp [none]
    · cases q.filterStatus <;> simp [one]
  refine ⟨?_, ?_, ?_, ?_⟩
  · exact Nat.le_trans conditions.1 (by decide)
  · rw [noPush]
    exact nofun
  · exact Nat.le_trans (Nat.add_le_add_right conditions.2 2) (by decide)
  · simp [meetsLongPattern, terms]

end Query

namespace Database

variable {db : Database} {c : Call} {q : Query} {ts : Tables}

/-- The query counts this many releases, on every page that it is answered with, whatever the
sizes of pages and the order are; and it is answered with the first page of the default size. -/
def Counts (db : Database) (c : Call) (q : Query) (n : Nat) : Prop :=
  (∀ (s : PageSettings) (limit offset : Int) (sort : List (String × Option String)) (page : Page),
      (db.find s c { q with limit, offset, sort }).1 = .ok page → page.totalCount = n) ∧
    ∃ page, (db.find {} c { q with limit := 0, offset := 0, sort := [] }).1 = .ok page

/-- Every page tells how many releases match. -/
theorem totalCount_of_find (found : db.tables = some ts) {s : PageSettings} {page : Page}
    (shown : (db.find s c q).1 = .ok page) : page.totalCount = (q.matching ts).length := by
  unfold find at shown
  split at shown
  · cases shown
  · cases shown
  · rw [fst_run_ok_iff] at shown
    simp only [Work.yields_bind, Work.yields_compose, Work.yields_tables, Work.yields_resolve,
      Work.throw_bind, Work.yields_unless, Work.yields_carry, Work.yields_ofExcept,
      Work.yields_pure] at shown
    obtain ⟨-, _, _, _, ⟨-, rfl⟩, us, _, ⟨found', rfl⟩, _, _, ⟨-, rfl⟩, -, _, _, ⟨-, rfl⟩, _, _,
      ⟨-, rfl⟩, _, _, -, _, _, -, rfl, -⟩ := shown
    obtain rfl := Option.some.inj (found.symm.trans found')
    rfl

/-- A query without terms and for one indexer at most counts the releases that match it. -/
theorem counts_matching {l : Ledger} (faithful : l.Faithful ts) (allowed : c.check 1 = .ok ())
    (terms : Search.terms q.search = []) (noPush : q.pushStatus = none) (few : q.indexers.length ≤ 1) :
    Counts { tables := some ts } c q (q.matching ts).length := by
  constructor
  · intro s limit offset sort page shown
    exact totalCount_of_find (q := { q with limit, offset, sort }) rfl shown
  · have proper : Query.WellFormed { q with limit := 0, offset := 0, sort := [] } {} :=
      ⟨by decide, by decide, by decide, Int.le_refl 0, show (0 : Int) ≤ Table.maxId by decide⟩
    have fits : Query.Fits { q with limit := 0, offset := 0, sort := [] } ts :=
      Query.fits_of_termless terms noPush few
    have short : (20 : Int).toNat ≤ Statement.maxValues := by decide
    obtain ⟨releases, shown, -⟩ := find_eq faithful (.inl ⟨rfl, rfl⟩) proper allowed fits
      (Nat.le_trans (List.length_take_le ..) short)
    exact ⟨_, shown⟩

end Database

/-! ## Counting statuses -/

theorem PushStatus.name_of_ofName? {name : String} {p : PushStatus} (known : ofName? name = some p) :
    p.name = name := by
  simpa using List.find?_some known

/-- A status that was read is the one that its record names. -/
theorem StoredStatus.statusName_of_toStatus {row : StoredStatus} {id : Int} {s : ActionStatus}
    (read : row.toStatus id = .ok s) : s.status.name = row.statusName := by
  unfold StoredStatus.toStatus at read
  cases known : PushStatus.ofName? row.statusName with
  | none =>
      rw [readLabel, known] at read
      cases read
  | some p =>
      rw [readLabel_of_ofName? known] at read
      cases type : readLabel .actionType ActionType.ofName? row.typeName with
      | error f =>
          rw [type] at read
          cases read
      | ok type' =>
          rw [type] at read
          cases texts : readTexts row.rejectionsText with
          | error f =>
              rw [texts] at read
              cases read
          | ok rejections =>
              rw [texts] at read
              obtain rfl := Except.ok.inj read
              exact PushStatus.name_of_ofName? known

namespace Tables

variable {ts : Tables}

/-- The statuses that are read of a release with a value are those whose records name it. -/
theorem countP_of_read {id : Int} {statuses : List ActionStatus} (p : PushStatus)
    (read : ((ts.statusesOf [id]).mapM fun s => s.2.toStatus s.1) = .ok statuses) :
    statuses.countP (·.status = p) = (ts.statusesOf [id]).countP fun s => s.2.statusName == p.name := by
  have chosen := mapM_filter (p := fun s : ActionStatus => decide (s.status = p))
    (q := fun s : Int × StoredStatus => s.2.statusName == p.name) read (by
      intro row _ s readAs
      have name := StoredStatus.statusName_of_toStatus readAs
      rw [← name, Bool.eq_iff_iff, decide_eq_true_eq, beq_iff_eq]
      exact ⟨fun same => congrArg PushStatus.name same, PushStatus.name_injective⟩)
  rw [List.countP_eq_length_filter, List.countP_eq_length_filter]
  exact (mapM_eq_ok_iff.1 chosen).length_eq.symm

/-- The statuses with a value are counted release by release, as they are listed. -/
theorem countPushed_eq (owned : ∀ row ∈ ts.statuses.rows, ts.releases.contains row.2.releaseId = true)
    {listed : Int → List ActionStatus}
    (read : ∀ row ∈ ts.releases.rows,
      ((ts.statusesOf [row.1]).mapM fun s => s.2.toStatus s.1) = .ok (listed row.1))
    (p : PushStatus) :
    ts.countPushed p =
      totalOver (fun id => (listed id).countP (·.status = p)) (ts.releases.rows.map Prod.fst) := by
  have live : ∀ s ∈ ts.statuses.rows, s.2.releaseId ∈ ts.releases.rows.map Prod.fst :=
    fun s held => Table.mem_ids.2 (owned s held)
  rw [countPushed, countP_eq_totalOver (fun s : Int × StoredStatus => s.2.releaseId) _
    ts.releases.nodup_ids live]
  apply totalOver_congr
  intro id listedId
  obtain ⟨row, held, rfl⟩ := List.mem_map.1 listedId
  have same : ts.statuses.rows.filter (fun s => s.2.releaseId == row.1) = ts.statusesOf [row.1] := by
    rw [statusesOf]
    apply List.filter_congr
    intro s _
    by_cases own : s.2.releaseId = row.1 <;> simp [own]
  rw [same, countP_of_read p (read row held)]

/-- All releases match a query that asks for nothing. -/
theorem length_matching_all (ts : Tables) : (({} : Query).matching ts).length = ts.releases.size := by
  have all : ({} : Query).matching ts = ts.releases.rows := by
    apply List.filter_eq_self.2
    intro row _
    simp [Query.selects]
  rw [all, Table.size]

theorem length_matching_filterStatus (ts : Tables) (f : FilterStatus) :
    (({ filterStatus := some f } : Query).matching ts).length = ts.countFiltered f := by
  rw [countFiltered, List.countP_eq_length_filter, Query.matching]
  congr 1
  apply List.filter_congr
  intro row _
  simp [Query.selects]

/-- A query for one indexer finds something exactly if the indexer announced something. -/
theorem length_matching_indexer_pos (ts : Tables) (x : String) :
    0 < (({ indexers := [x] } : Query).matching ts).length ↔
      ∃ row ∈ ts.releases.rows, row.2.indexer.identifier = x := by
  rw [List.length_pos_iff_exists_mem]
  simp [Query.matching, Query.selects]

end Tables

/-! ## The overview -/

/-- Counts and indexers are those that the other operations show. -/
structure Database.Agrees (db : Database) (c : Call) (counted : Stats) (names : List String) : Prop where
  total : db.Counts c {} counted.total
  filtered : db.Counts c { filterStatus := some .approved } counted.filtered
  filterRejected : db.Counts c { filterStatus := some .rejected } counted.filterRejected
  /-- Each release that is held lists its statuses; of each value there are as many as in all lists. -/
  pushes :
    ∃ (ids : List Int) (listed : Int → List ActionStatus),
      ids.Nodup ∧ (∀ id, id ∈ ids ↔ db.holds id = true) ∧
        (∀ id ∈ ids, (db.listStatuses c id).1 = .ok (listed id)) ∧
        counted.pushApproved = totalOver (fun id => (listed id).countP (·.status = .approved)) ids ∧
        counted.pushRejected = totalOver (fun id => (listed id).countP (·.status = .rejected)) ids ∧
        counted.pushErrors = totalOver (fun id => (listed id).countP (·.status = .error)) ids
  ascending : names.Pairwise (· < ·)
  /-- An indexer is listed exactly if it has a name and a query for it alone counts something. -/
  indexers (x : String) :
    ∃ n, db.Counts c { indexers := [x] } n ∧ (x ∈ names ↔ x ≠ "" ∧ 0 < n)

/-- The counts of the tables. -/
def Tables.counted (ts : Tables) : Stats where
  total := ts.releases.size
  filtered := ts.countFiltered .approved
  filterRejected := ts.countFiltered .rejected
  pushApproved := ts.countPushed .approved
  pushRejected := ts.countPushed .rejected
  pushErrors := ts.countPushed .error

/-- The indexers of the tables that have a name. -/
def Tables.indexerNames (ts : Tables) : List String :=
  Text.orderedSet ((ts.releases.rows.map fun row => row.2.indexer.identifier).filter (· ≠ ""))

namespace Database

variable {db : Database} {c : Call} {ts : Tables}

theorem stats_fst (found : db.tables = some ts) (allowed : c.check 1 = .ok ()) :
    (db.stats c).1 = .ok ts.counted :=
  fst_run_tables found allowed Tables.counted

theorem indexers_fst (found : db.tables = some ts) (allowed : c.check 1 = .ok ()) :
    (db.indexers c).1 = .ok ts.indexerNames :=
  fst_run_tables found allowed Tables.indexerNames

end Database

theorem Tables.mem_indexerNames {ts : Tables} {x : String} :
    x ∈ ts.indexerNames ↔ x ≠ "" ∧ ∃ row ∈ ts.releases.rows, row.2.indexer.identifier = x := by
  rw [indexerNames, Text.mem_orderedSet, List.mem_filter, List.mem_map, decide_eq_true_eq, and_comm]

/-- Each release lists the statuses that are read of its records. -/
theorem Ledger.Faithful.exists_listed {l : Ledger} {ts : Tables} (faithful : l.Faithful ts) :
    ∃ listed : Int → List ActionStatus, ∀ row ∈ ts.releases.rows,
      ((ts.statusesOf [row.1]).mapM fun s => s.2.toStatus s.1) = .ok (listed row.1) ∧
        ∀ (db : Database) (c : Call), db.tables = some ts → c.check 1 = .ok () →
          db.listStatuses c row.1 = (.ok (listed row.1), db) := by
  have each (id : Int) : ∃ statuses, ∀ row ∈ ts.releases.rows, row.1 = id →
      ((ts.statusesOf [row.1]).mapM fun s => s.2.toStatus s.1) = .ok statuses ∧
        ∀ (db : Database) (c : Call), db.tables = some ts → c.check 1 = .ok () →
          db.listStatuses c row.1 = (.ok statuses, db) := by
    by_cases live : id ∈ ts.releases.rows.map Prod.fst
    · obtain ⟨row, held, rfl⟩ := List.mem_map.1 live
      obtain ⟨statuses, r, read, -, answers⟩ := faithful.exists_read held
      refine ⟨statuses, fun other _ same => ?_⟩
      rw [same]
      exact ⟨read, fun db c found allowed => (answers db c found allowed).1⟩
    · refine ⟨[], fun row held same => absurd (List.mem_map.2 ⟨row, held, same⟩) live⟩
  choose listed reads using each
  exact ⟨listed, fun row held => reads row.1 row held rfl⟩

/-- The counts and indexers of the tables are those that the other operations show. -/
theorem Ledger.Faithful.agrees {l : Ledger} {ts : Tables} (faithful : l.Faithful ts) {c : Call}
    (allowed : c.check 1 = .ok ()) :
    Database.Agrees { tables := some ts } c ts.counted ts.indexerNames := by
  have counts (q : Query) (termless : q.search = "") (noPush : q.pushStatus = none)
      (few : q.indexers.length ≤ 1) : Database.Counts { tables := some ts } c q (q.matching ts).length :=
    Database.counts_matching faithful allowed (termless ▸ Search.terms_empty) noPush few
  constructor
  case total =>
    show Database.Counts _ c {} ts.releases.size
    rw [← ts.length_matching_all]
    exact counts {} rfl rfl (Nat.zero_le 1)
  case filtered =>
    show Database.Counts _ c { filterStatus := some .approved } (ts.countFiltered .approved)
    rw [← ts.length_matching_filterStatus]
    exact counts { filterStatus := some .approved } rfl rfl (Nat.zero_le 1)
  case filterRejected =>
    show Database.Counts _ c { filterStatus := some .rejected } (ts.countFiltered .rejected)
    rw [← ts.length_matching_filterStatus]
    exact counts { filterStatus := some .rejected } rfl rfl (Nat.zero_le 1)
  case pushes =>
    obtain ⟨listed, reads⟩ := faithful.exists_listed
    have pushed := Tables.countPushed_eq faithful.owned fun row held => (reads row held).1
    refine ⟨ts.releases.rows.map Prod.fst, listed, ts.releases.nodup_ids, fun id => Table.mem_ids, ?_,
      pushed .approved, pushed .rejected, pushed .error⟩
    intro id live
    obtain ⟨row, held, rfl⟩ := List.mem_map.1 live
    exact congrArg Prod.fst ((reads row held).2 { tables := some ts } c rfl allowed)
  case ascending => exact Text.ascending_orderedSet _
  case indexers =>
    intro x
    refine ⟨_, counts { indexers := [x] } rfl rfl (Nat.le_refl 1), ?_⟩
    rw [Tables.mem_indexerNames, Tables.length_matching_indexer_pos]

/-- After every run the overview answers, and what it counts is what the releases and their statuses
show one by one. -/
theorem Run.overview_agrees (run : Run) :
    ∃ counted names, ∀ c : Call, c.check 1 = .ok () →
      (run.database.stats c).1 = .ok counted ∧ (run.database.indexers c).1 = .ok names ∧
        run.database.Agrees c counted names := by
  obtain ⟨ts, database, faithful⟩ := run.faithful
  rw [database]
  refine ⟨ts.counted, ts.indexerNames, fun c allowed => ?_⟩
  exact ⟨Database.stats_fst rfl allowed, Database.indexers_fst rfl allowed, faithful.agrees allowed⟩

/-- Two releases are kept, the first is delivered, the second fails and is deleted. -/
def Run.withdrawal : Run :=
  [{ operation := .deleteRelease 2, call := .inMay },
    { operation := .storeStatus { releaseId := 2, status := .error }, call := .inMay },
    { operation := .store { torrentName := "b", title := "B", indexer := { identifier := "y" } }
      call := .inMay },
    { operation := .storeStatus { releaseId := 1 }, call := .inMay },
    { operation := .store
        { torrentName := "a", title := "A", indexer := { identifier := "x" }, filterStatus := .approved }
      call := .inMay }]

/-- Nothing of a release that was deleted is counted. -/
theorem Run.overview_agrees_withdrawal :
    Call.inMay.check 1 = .ok () ∧
      (Run.withdrawal.database.stats .inMay).1 = .ok ⟨1, 1, 0, 1, 0, 0⟩ ∧
      (Run.withdrawal.database.indexers .inMay).1 = .ok ["x"] ∧
      Run.withdrawal.database.Agrees .inMay ⟨1, 1, 0, 1, 0, 0⟩ ["x"] := by
  obtain ⟨counted, names, answers⟩ := Run.overview_agrees Run.withdrawal
  obtain ⟨stats, indexers, agrees⟩ := answers .inMay rfl
  have counts : (Run.withdrawal.database.stats .inMay).1 = .ok ⟨1, 1, 0, 1, 0, 0⟩ := by decide +kernel
  have lists : (Run.withdrawal.database.indexers .inMay).1 = .ok ["x"] := by decide +kernel
  obtain rfl := Except.ok.inj (stats.symm.trans counts)
  obtain rfl := Except.ok.inj (indexers.symm.trans lists)
  exact ⟨rfl, counts, lists, agrees⟩

end ReleaseHistory
