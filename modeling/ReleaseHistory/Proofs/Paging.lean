/-
# ReleaseHistory.Proofs.Paging -- a page is a slice of one list

`Query.IsListing` describes the list of all releases that match a query, strictly in the
requested order; there is exactly one.  A query that stays within the limits of its
statements (`Query.Fits`) shows a slice of that list, every release with all its
statuses, together with the length of the list and the place where the slice ends; any
other query is refused because the store cannot be used (`find_slice`).

Following the cursor from the start until it reaches the end comes to an end, because
every page but that of an empty list has at least one release, and shows the whole list
(`Query.Pages`).
-/
import ReleaseHistory.Proofs.Order
import ReleaseHistory.Proofs.Reading

namespace ReleaseHistory

set_option autoImplicit false

/-! ## The list that is paged -/

/-- The clauses that are asked for, newest first where none is. -/
def SortOrder.IsRequested (entries : List (String × Option String)) (requested : List SortClause) :
    Prop :=
  entries = [] ∧ requested = [⟨.timestamp, true⟩] ∨
    entries ≠ [] ∧ entries.mapM resolveEntry = .ok requested

/-- The falling id closes the clauses that are asked for. -/
theorem SortOrder.resolve_of_isRequested {entries : List (String × Option String)}
    {requested : List SortClause} (accepted : IsRequested entries requested) :
    resolve entries = .ok (requested ++ [⟨.id, true⟩]) := by
  rcases accepted with ⟨rfl, rfl⟩ | ⟨some, resolved⟩
  · rfl
  · have nonempty : requested.isEmpty = false := by
      obtain ⟨entry, rest, rfl⟩ := List.exists_cons_of_ne_nil some
      rw [List.mapM_cons] at resolved
      cases head : resolveEntry entry with
      | error f => simp [head, bind, Except.bind] at resolved
      | ok clause =>
          cases tail : rest.mapM resolveEntry with
          | error f => simp [head, tail, bind, Except.bind] at resolved
          | ok clauses =>
              simp only [head, tail, bind, Except.bind, pure, Except.pure, Except.ok.injEq] at resolved
              rw [← resolved]
              rfl
    simp only [resolve, resolved, bind, Except.bind, nonempty, Bool.false_eq_true, if_false]
    rfl

namespace Query

variable {q : Query} {ts : Tables}

/-- The release satisfies every condition of the query. -/
def Matches (q : Query) (ts : Tables) (row : Int × StoredRelease) : Prop :=
  (∀ t ∈ Search.terms q.search, Search.holdsTerm row.2.torrentName t = true) ∧
    (q.indexers = [] ∨ row.2.indexer.identifier ∈ q.indexers) ∧
    (∀ f, q.filterStatus = some f → row.2.filterStatusName = f.name) ∧
    ∀ p, q.pushStatus = some p →
      ∃ s ∈ ts.statuses.rows, s.2.releaseId = row.1 ∧ s.2.statusName = p.name

theorem selects_iff_matches {row : Int × StoredRelease} :
    q.selects ts row = true ↔ q.Matches ts row := by
  have listed : (q.indexers.isEmpty || q.indexers.contains row.2.indexer.identifier) = true ↔
      q.indexers = [] ∨ row.2.indexer.identifier ∈ q.indexers := by simp
  have filtered : q.filterStatus.all (fun f => row.2.filterStatusName == f.name) = true ↔
      ∀ f, q.filterStatus = some f → row.2.filterStatusName = f.name := by
    cases q.filterStatus <;> simp
  have pushed : q.pushStatus.all (fun p => ts.hasStatus row.1 [p.name]) = true ↔
      ∀ p, q.pushStatus = some p →
        ∃ s ∈ ts.statuses.rows, s.2.releaseId = row.1 ∧ s.2.statusName = p.name := by
    cases q.pushStatus with
    | none => simp
    | some p => simp [Tables.hasStatus_iff]
  unfold selects Matches
  rw [Bool.and_eq_true, Bool.and_eq_true, Bool.and_eq_true, List.all_eq_true, listed, filtered, pushed,
    and_assoc, and_assoc]

/-- All releases that match, each once, in the requested order. -/
def IsListing (q : Query) (ts : Tables) (requested : List SortClause)
    (rows : List (Int × StoredRelease)) : Prop :=
  (∀ row, row ∈ rows ↔ row ∈ ts.releases.rows ∧ q.Matches ts row) ∧
    rows.Pairwise (SortOrder.Before requested)

/-- The releases that match, sorted. -/
def listing (q : Query) (ts : Tables) (requested : List SortClause) : List (Int × StoredRelease) :=
  SortOrder.sort (requested ++ [⟨.id, true⟩]) (q.matching ts)

theorem mem_listing {requested : List SortClause} {row : Int × StoredRelease} :
    row ∈ q.listing ts requested ↔ row ∈ ts.releases.rows ∧ q.Matches ts row := by
  rw [listing, (SortOrder.sort_perm _ _).mem_iff, matching, List.mem_filter, selects_iff_matches]

theorem length_listing (q : Query) (ts : Tables) (requested : List SortClause) :
    (q.listing ts requested).length = (q.matching ts).length :=
  (SortOrder.sort_perm _ _).length_eq

variable {l : Ledger}

theorem isListing_listing (faithful : l.Faithful ts) (requested : List SortClause) :
    q.IsListing ts requested (q.listing ts requested) := by
  refine ⟨fun row => mem_listing, SortOrder.pairwise_sort requested ?_ ?_⟩
  · intro row matched
    exact faithful.utc (List.mem_filter.1 matched).1
  · exact (ts.releases.ascending.filter _).imp fun lt => Int.ne_of_lt lt

/-- There is only one such list. -/
theorem IsListing.eq_listing (faithful : l.Faithful ts) {requested : List SortClause}
    {rows : List (Int × StoredRelease)} (lists : q.IsListing ts requested rows) :
    rows = q.listing ts requested := by
  obtain ⟨same, sorted⟩ := isListing_listing (q := q) faithful requested
  have once {rows : List (Int × StoredRelease)} (lists : q.IsListing ts requested rows) : rows.Nodup := by
    apply lists.2.imp_of_mem
    intro a b heldA heldB ahead
    rintro rfl
    have naive := faithful.utc ((lists.1 a).1 heldA).1
    exact SortOrder.before_asymm naive naive ahead ahead
  have perm : rows.Perm (q.listing ts requested) :=
    (List.perm_ext_iff_of_nodup (once lists) (once ⟨same, sorted⟩)).2 fun row =>
      (lists.1 row).trans (same row).symm
  refine SortOrder.eq_of_perm_of_pairwise perm ?_ lists.2 sorted
  intro row held
  exact faithful.utc ((lists.1 row).1 held).1

/-! ## One page -/

/-- The greatest number of releases on a page. -/
def pageSize (q : Query) (s : PageSettings) : Int :=
  min (if 0 < q.limit then q.limit else s.defaultSize) s.maxSize

/-- The part of the list that is asked for. -/
def slice (q : Query) (s : PageSettings) (rows : List (Int × StoredRelease)) :
    List (Int × StoredRelease) :=
  (rows.drop q.offset.toNat).take (q.pageSize s).toNat

/-- The conditions of the query stay within the limits of a statement. -/
structure Fits (q : Query) (ts : Tables) : Prop where
  conditions : q.conditions.length ≤ Statement.maxConditions
  lookup : q.pushStatus.isSome = true → q.conditions.length ≤ Statement.maxConditionsWithLookup
  values : Statement.valueCount q.conditions + 2 ≤ Statement.maxValues
  patterns : q.meetsLongPattern ts = false

/-- The sizes of pages are positive, and they and the offset fit in 64 bits. -/
structure WellFormed (q : Query) (s : PageSettings) : Prop where
  positive : 1 ≤ s.defaultSize
  ordered : s.defaultSize ≤ s.maxSize
  sizes : s.maxSize ≤ Table.maxId
  nonneg : 0 ≤ q.offset
  offset : q.offset ≤ Table.maxId

namespace WellFormed

variable {s : PageSettings}

theorem pageSize_pos (proper : q.WellFormed s) : 1 ≤ q.pageSize s := by
  have := proper.positive
  have := proper.ordered
  unfold pageSize
  split <;> omega

theorem fits64_pageSize (proper : q.WellFormed s) : Work.fits64 (q.pageSize s) = true := by
  have low := proper.pageSize_pos
  have high : q.pageSize s ≤ Table.maxId := Int.le_trans (Int.min_le_right ..) proper.sizes
  simp only [Work.fits64, Table.maxId, Bool.and_eq_true, decide_eq_true_eq] at high ⊢
  omega

theorem fits64_offset (proper : q.WellFormed s) : Work.fits64 q.offset = true := by
  have low := proper.nonneg
  have high := proper.offset
  simp only [Work.fits64, Table.maxId, Bool.and_eq_true, decide_eq_true_eq] at high ⊢
  omega

end WellFormed

theorem page_eq (q : Query) (s : PageSettings) (nonneg : 0 ≤ q.offset) :
    q.page s = .ok (q.pageSize s, q.offset) := by
  rw [page, if_neg (Int.not_lt.2 nonneg), pageSize]

theorem takeRows_drop_listing {s : PageSettings} {requested : List SortClause}
    (positive : 1 ≤ q.pageSize s) :
    takeRows (q.pageSize s)
        ((SortOrder.sort (requested ++ [⟨.id, true⟩]) (q.matching ts)).drop q.offset.toNat) =
      q.slice s (q.listing ts requested) := by
  rw [takeRows, if_neg (by omega)]
  rfl

/-- What a page shows is kept. -/
theorem mem_releases_of_mem_slice {s : PageSettings} {requested : List SortClause} :
    ∀ row ∈ q.slice s (q.listing ts requested), row ∈ ts.releases.rows := by
  intro row shown
  exact (mem_listing.1 (List.mem_of_mem_drop (List.mem_of_mem_take shown))).1

end Query

namespace Database

variable {s : PageSettings} {c : Call} {q : Query} {ts : Tables} {l : Ledger}
  {requested : List SortClause}

/-- A query within its limits shows its slice of the list. -/
theorem find_eq (faithful : l.Faithful ts) (accepted : SortOrder.IsRequested q.sort requested)
    (proper : q.WellFormed s) (allowed : c.check 1 = .ok ()) (fits : q.Fits ts)
    (few : (q.slice s (q.listing ts requested)).length ≤ Statement.maxValues) :
    ∃ releases, (find { tables := some ts } s c q).1 =
        .ok ⟨releases, (q.matching ts).length, q.offset + releases.length⟩ ∧
      List.Forall₂ ts.Shows (q.slice s (q.listing ts requested)) releases := by
  have held : ∀ row ∈ q.slice s (q.listing ts requested), row ∈ ts.releases.rows :=
    Query.mem_releases_of_mem_slice
  obtain ⟨statuses, releases, read, made, shows⟩ := faithful.exists_readReleases held
  refine ⟨releases, ?_, shows⟩
  have first : Statement.outage? q.conditions 0 = none :=
    Statement.outage?_eq_none_iff.2 ⟨fits.conditions, Nat.le_of_succ_le (Nat.le_of_succ_le fits.values)⟩
  have second : Statement.outage? q.conditions 2 = none :=
    Statement.outage?_eq_none_iff.2 ⟨fits.conditions, fits.values⟩
  have statusesRead : (Work.readStatuses ((q.slice s (q.listing ts requested)).map Prod.fst)).Yields
      { tables := some ts } statuses { tables := some ts } :=
    Work.yields_readStatuses_of_read rfl (by simpa using few) (faithful.all_fits64 held) read
  unfold find
  rw [q.page_eq s proper.nonneg, SortOrder.resolve_of_isRequested accepted]
  simp only
  rw [fst_run_ok_iff]
  refine ⟨allowed, { tables := some ts }, ?_⟩
  simp only [Work.yields_bind, Work.yields_compose, Work.yields_tables, Work.yields_resolve,
    Work.throw_bind, Work.yields_unless, Work.yields_carry, Work.yields_ofExcept, Work.yields_pure]
  refine ⟨(), _, ⟨first, rfl⟩, ts, _, ⟨rfl, rfl⟩, (), _, ⟨fits.lookup, rfl⟩, by simp [fits.patterns],
    (), _, ⟨second, rfl⟩, (), _, ⟨?_, rfl⟩, statuses, _, ?_, releases, _, ⟨?_, rfl⟩, rfl, rfl⟩
  · simp [proper.fits64_pageSize, proper.fits64_offset]
  · rw [Query.takeRows_drop_listing proper.pageSize_pos]
    exact statusesRead
  · rw [Query.takeRows_drop_listing proper.pageSize_pos]
    exact made

/-- A query beyond its limits is refused because the store cannot be used. -/
theorem find_refused (faithful : l.Faithful ts) (accepted : SortOrder.IsRequested q.sort requested)
    (proper : q.WellFormed s) (allowed : c.check 1 = .ok ())
    (beyond : ¬(q.Fits ts ∧ (q.slice s (q.listing ts requested)).length ≤ Statement.maxValues)) :
    ∃ o, (find { tables := some ts } s c q).1 = .error (.unavailable o) := by
  have held : ∀ row ∈ q.slice s (q.listing ts requested), row ∈ ts.releases.rows :=
    Query.mem_releases_of_mem_slice
  obtain ⟨statuses, releases, read, made, -⟩ := faithful.exists_readReleases held
  cases answer : (find { tables := some ts } s c q).1 with
  | ok page =>
      unfold find at answer
      rw [q.page_eq s proper.nonneg, SortOrder.resolve_of_isRequested accepted] at answer
      simp only at answer
      rw [fst_run_ok_iff] at answer
      simp only [Work.yields_bind, Work.yields_compose, Work.yields_tables, Work.yields_resolve,
        Work.throw_bind, Work.yields_unless, Work.yields_carry, Work.yields_ofExcept,
        Work.yields_pure, Work.yields_readStatuses,
        Query.takeRows_drop_listing proper.pageSize_pos] at answer
      obtain ⟨-, _, _, _, ⟨-, rfl⟩, us, _, ⟨found, rfl⟩, _, _, ⟨lookup, rfl⟩, patterns, _, _,
        ⟨second, rfl⟩, _, _, ⟨-, rfl⟩, _, _, ⟨rfl, few⟩, -⟩ := answer
      obtain rfl := Option.some.inj found
      obtain ⟨conditions, values⟩ := Statement.outage?_eq_none_iff.1 second
      refine absurd ⟨⟨conditions, lookup, values, Bool.eq_false_iff.2 patterns⟩, ?_⟩ beyond
      rcases few with ⟨none, -⟩ | ⟨-, few, -⟩
      · rw [List.map_eq_nil_iff.1 none]
        exact Nat.zero_le _
      · simpa using (Statement.outage?_eq_none_iff.1 few).2
  | error f =>
      unfold find at answer
      rw [q.page_eq s proper.nonneg, SortOrder.resolve_of_isRequested accepted] at answer
      simp only at answer
      rw [run_error_iff, allowed] at answer
      simp only [Work.fails_bind, Work.fails_compose, Work.yields_compose, Work.fails_tables,
        Work.yields_tables, Work.fails_resolve, Work.yields_resolve, Work.throw_bind,
        Work.fails_unless, Work.fails_carry, Work.yields_carry, Work.fails_ofExcept,
        Work.not_fails_pure, Query.takeRows_drop_listing proper.pageSize_pos, reduceCtorEq, false_or,
        true_and, and_false, exists_false, or_false] at answer
      rcases answer with ⟨o, -, rfl⟩ | ⟨_, _, ⟨-, rfl⟩, ⟨-, rfl⟩ | ⟨us, _, ⟨found, rfl⟩, ⟨-, rfl⟩ |
        ⟨_, _, ⟨-, rfl⟩, ⟨-, rfl⟩ | ⟨-, ⟨o, -, rfl⟩ | ⟨_, _, ⟨-, rfl⟩, ⟨unfit, -⟩ | ⟨_, _, ⟨-, rfl⟩,
          unread | ⟨_, _, ran, unmade⟩⟩⟩⟩⟩⟩⟩
      · exact ⟨o, rfl⟩
      · exact ⟨_, rfl⟩
      · exact ⟨_, rfl⟩
      · exact ⟨_, rfl⟩
      · exact ⟨o, rfl⟩
      · simp [proper.fits64_pageSize, proper.fits64_offset] at unfit
      · obtain rfl := Option.some.inj found
        rcases Work.fails_readStatuses rfl unread with ⟨o, -, rfl⟩ | ⟨unfit, -⟩ | unread
        · exact ⟨o, rfl⟩
        · rw [faithful.all_fits64 held] at unfit
          cases unfit
        · rw [read] at unread
          cases unread
      · obtain rfl := Option.some.inj found
        rw [Work.of_yields_readStatuses rfl read ran, made] at unmade
        cases unmade

end Database

/-! ## Following the cursor -/

/-- The releases that are shown from an offset on, page after page, until the cursor reaches
the number of matches. -/
inductive Query.Pages (db : Database) (s : PageSettings) (c : Call) (q : Query) :
    Int → List Release → Prop
  | last {offset : Int} {page : Page} (shown : (db.find s c { q with offset }).1 = .ok page)
      (ended : page.totalCount ≤ page.nextCursor) : Pages db s c q offset page.releases
  | next {offset : Int} {page : Page} {rest : List Release}
      (shown : (db.find s c { q with offset }).1 = .ok page)
      (more : page.nextCursor < page.totalCount) (onward : Pages db s c q page.nextCursor rest) :
      Pages db s c q offset (page.releases ++ rest)

namespace Database

variable {s : PageSettings} {c : Call} {q : Query} {ts : Tables} {l : Ledger}
  {requested : List SortClause}

/-- From every offset that fits the pages end, and show what is left of the list. -/
theorem exists_pages (faithful : l.Faithful ts) (accepted : SortOrder.IsRequested q.sort requested)
    (proper : q.WellFormed s) (allowed : c.check 1 = .ok ()) (fits : q.Fits ts)
    (few : ((q.listing ts requested).take (q.pageSize s).toNat).length ≤ Statement.maxValues)
    (counted : (q.listing ts requested).length ≤ Table.maxId + 1) (n : Nat) (fit : n ≤ Table.maxId) :
    ∃ releases, q.Pages { tables := some ts } s c n releases ∧
      List.Forall₂ ts.Shows ((q.listing ts requested).drop n) releases := by
  generalize left : (q.listing ts requested).length - n = count
  induction count using Nat.strongRecOn generalizing n with
  | ind count ih =>
    have positive := proper.pageSize_pos
    have short : (((q.listing ts requested).drop n).take (q.pageSize s).toNat).length ≤
        Statement.maxValues := by
      rw [List.length_take] at few
      rw [List.length_take, List.length_drop]
      omega
    obtain ⟨releases, shown, shows⟩ := find_eq (q := { q with offset := (n : Int) }) faithful accepted
      ⟨proper.positive, proper.ordered, proper.sizes, Int.natCast_nonneg n, fit⟩ allowed
      ⟨fits.conditions, fits.lookup, fits.values, fits.patterns⟩ short
    have size : releases.length =
        min (q.pageSize s).toNat ((q.listing ts requested).length - n) := by
      rw [← shows.length_eq, Query.slice, List.length_take, List.length_drop]
      rfl
    have total := Query.length_listing q ts requested
    by_cases ended : (q.listing ts requested).length ≤ n + (q.pageSize s).toNat
    · have all : ((q.listing ts requested).drop n).take (q.pageSize s).toNat =
          (q.listing ts requested).drop n :=
        List.take_of_length_le (by rw [List.length_drop]; omega)
      refine ⟨releases, .last shown ?_, all ▸ shows⟩
      show ((q.matching ts).length : Int) ≤ n + releases.length
      omega
    · -- The page is full, so that the cursor moves on by a page.
      have full : (n : Int) + releases.length = (n + (q.pageSize s).toNat : Nat) := by omega
      obtain ⟨rest, onward, restShown⟩ :=
        ih _ (by omega) (n + (q.pageSize s).toNat) (by omega) rfl
      refine ⟨releases ++ rest, .next shown ?_ ?_, ?_⟩
      · show (n : Int) + releases.length < (q.matching ts).length
        omega
      · show q.Pages _ s c ((n : Int) + releases.length) rest
        rw [full]
        exact onward
      · rw [← List.take_append_drop (q.pageSize s).toNat ((q.listing ts requested).drop n),
          List.drop_drop]
        exact List.rel_append shows restShown

/-- After every run there is exactly one list of the releases that match a query, in the
requested order.  Within the limits of its statements the query shows its slice of that
list and how long the list is; beyond them it is refused because the store cannot be used.
Following the cursor from the start ends and shows the whole list. -/
theorem find_slice (run : Run) (s : PageSettings) (c : Call) (q : Query) (requested : List SortClause)
    (accepted : SortOrder.IsRequested q.sort requested) (proper : q.WellFormed s)
    (allowed : c.check 1 = .ok ()) :
    ∃ ts listed, run.database = { tables := some ts } ∧
      (∀ rows, q.IsListing ts requested rows ↔ rows = listed) ∧
      (q.Fits ts ∧ (q.slice s listed).length ≤ Statement.maxValues →
        ∃ releases, (run.database.find s c q).1 =
            .ok ⟨releases, listed.length, q.offset + releases.length⟩ ∧
          List.Forall₂ ts.Shows (q.slice s listed) releases) ∧
      (¬(q.Fits ts ∧ (q.slice s listed).length ≤ Statement.maxValues) →
        ∃ o, (run.database.find s c q).1 = .error (.unavailable o)) ∧
      (q.Fits ts → (listed.take (q.pageSize s).toNat).length ≤ Statement.maxValues →
        listed.length ≤ Table.maxId + 1 →
        ∃ releases, q.Pages run.database s c 0 releases ∧ List.Forall₂ ts.Shows listed releases) := by
  obtain ⟨ts, database, faithful⟩ := run.faithful
  rw [database]
  refine ⟨ts, q.listing ts requested, rfl, fun rows => ⟨fun lists => lists.eq_listing faithful, ?_⟩,
    ?_, find_refused faithful accepted proper allowed, ?_⟩
  · rintro rfl
    exact Query.isListing_listing faithful requested
  · rintro ⟨fits, few⟩
    rw [Query.length_listing]
    exact find_eq faithful accepted proper allowed fits few
  · intro fits few counted
    exact exists_pages faithful accepted proper allowed fits few counted 0 (by decide)

/-- The release of the short run is all that its pages show. -/
theorem find_slice_delivery :
    Query.WellFormed {} {} ∧ SortOrder.IsRequested [] [⟨.timestamp, true⟩] ∧
      ∃ r, Query.Pages Run.delivery.database {} .inMay {} 0 [r] := by
  have proper : Query.WellFormed {} {} := ⟨by decide, by decide, by decide, by decide, by decide⟩
  have accepted : SortOrder.IsRequested [] [⟨.timestamp, true⟩] := .inl ⟨rfl, rfl⟩
  obtain ⟨ts, listed, -, -, shown, -, paged⟩ :=
    find_slice Run.delivery {} .inMay {} _ accepted proper rfl
  have fits : Query.Fits {} ts :=
    ⟨by decide +kernel, nofun, by decide +kernel, by simp [Query.meetsLongPattern, Search.terms_empty]⟩
  have few : (listed.take (Query.pageSize {} {}).toNat).length ≤ Statement.maxValues :=
    Nat.le_trans (List.length_take_le ..) (by decide)
  obtain ⟨page, answer, -⟩ := shown ⟨fits, few⟩
  have counted : (Run.delivery.database.find {} .inMay {}).1.toOption.map Page.totalCount = some 1 := by
    decide +kernel
  rw [answer] at counted
  have one : listed.length = 1 := Option.some.inj counted
  obtain ⟨releases, pages, shows⟩ := paged fits few (by rw [one]; decide)
  obtain ⟨r, rfl⟩ := List.length_eq_one_iff.1 (shows.length_eq.symm.trans one)
  exact ⟨proper, accepted, r, pages⟩

/-- A search for 998 terms has one more than a statement can hold. -/
theorem find_refuses_many_terms :
    let q : Query := { search := String.ofList (List.replicate 998 ['a', ' ']).flatten }
    q.WellFormed {} ∧ SortOrder.IsRequested q.sort [⟨.timestamp, true⟩] ∧
      ∃ o, (Run.delivery.database.find {} .inMay q).1 = .error (.unavailable o) := by
  intro q
  have proper : q.WellFormed {} := ⟨by decide, by decide, by decide, by decide, by decide⟩
  have accepted : SortOrder.IsRequested q.sort [⟨.timestamp, true⟩] := .inl ⟨rfl, rfl⟩
  have terms : (Search.terms q.search).length = 998 := by
    rw [Search.terms, String.toList_ofList, List.length_map]
    decide +kernel
  have many : q.conditions.length = 998 := by
    have only : q.conditions = (Search.terms q.search).map (fun _ => 1) ++ [] ++ [] ++ [] := rfl
    rw [only, List.append_nil, List.append_nil, List.append_nil, List.length_map, terms]
  obtain ⟨ts, database, faithful⟩ := Run.delivery.faithful
  rw [database]
  refine ⟨proper, accepted, find_refused faithful accepted proper rfl ?_⟩
  rintro ⟨fits, -⟩
  have few := fits.conditions
  rw [many] at few
  exact absurd few (by decide)

end Database

end ReleaseHistory
