/-
# ReleaseHistory.Proofs.Tables -- what the tables hold after a write

Three writes change releases and statuses: a row is inserted under a free id, or
releases are dropped together with their statuses.

* An inserted row joins the others (`insert_rows_perm`), whatever place its id gives it.
* Dropping releases is a selection by id on the releases and a selection by owner on
  the statuses, so that dropping in two steps is dropping once
  (`dropReleases_dropReleases`).
-/
import ReleaseHistory.Store.Release

namespace ReleaseHistory

set_option autoImplicit false

namespace Table

variable {α : Type}

theorem ext_rows {t u : Table α} (same : t.rows = u.rows) : t = u := by
  cases t
  cases u
  simp only at same
  subst same
  rfl

theorem contains_iff {t : Table α} {id : Int} :
    t.contains id = true ↔ ∃ a, t.get? id = some a :=
  Option.isSome_iff_exists

theorem contains_eq_false_iff {t : Table α} {id : Int} :
    t.contains id = false ↔ t.get? id = none := by
  simp [contains]

theorem contains_of_mem {t : Table α} {id : Int} {a : α} (row : (id, a) ∈ t.rows) :
    t.contains id = true :=
  contains_iff.2 ⟨a, t.get?_eq_some_iff.2 row⟩

/-- No id is there twice. -/
theorem nodup_ids (t : Table α) : (t.rows.map Prod.fst).Nodup :=
  List.pairwise_map.2 (t.ascending.imp fun less => Int.ne_of_lt less)

theorem mem_ids {t : Table α} {id : Int} : id ∈ t.rows.map Prod.fst ↔ t.contains id = true := by
  rw [contains_iff, List.mem_map]
  constructor
  · rintro ⟨row, held, rfl⟩
    exact ⟨row.2, t.get?_eq_some_iff.2 held⟩
  · rintro ⟨a, held⟩
    exact ⟨(id, a), t.get?_eq_some_iff.1 held, rfl⟩

/-- Rows with the same id are the same row. -/
theorem eq_of_mem {t : Table α} {a b : Int × α} (left : a ∈ t.rows) (right : b ∈ t.rows)
    (same : a.1 = b.1) : a = b := by
  have found : t.get? a.1 = some a.2 := t.get?_eq_some_iff.2 left
  rw [same, t.get?_eq_some_iff.2 right] at found
  exact Prod.ext same (Option.some.inj found).symm

theorem insertRow_perm {id : Int} {a : α} {rows : List (Int × α)} (apart : ∀ r ∈ rows, r.1 ≠ id) :
    (insertRow id a rows).Perm ((id, a) :: rows) := by
  induction rows with
  | nil => exact .refl _
  | cons row rows ih =>
      obtain ⟨k, b⟩ := row
      simp only [insertRow]
      split
      · exact .refl _
      · split
        · rename_i same
          exact absurd same.symm (apart _ (List.mem_cons_self ..))
        · have later := ih fun r hr => apart r (List.mem_cons_of_mem _ hr)
          exact (later.cons (k, b)).trans (.swap ..)

/-- A row that is inserted under a free id joins the others. -/
theorem insert_rows_perm {t : Table α} {id : Int} (a : α) (free : t.contains id = false) :
    (t.insert id a).rows.Perm ((id, a) :: t.rows) := by
  apply insertRow_perm
  intro r hr same
  rw [← same, contains_of_mem hr] at free
  cases free

/-- A row that is inserted under a free id adds nothing to a selection that leaves it out. -/
theorem filter_insertRow {id : Int} {a : α} {rows : List (Int × α)} {p : Int × α → Bool}
    (apart : ∀ r ∈ rows, r.1 ≠ id) (out : p (id, a) = false) :
    (insertRow id a rows).filter p = rows.filter p := by
  have single : [(id, a)].filter p = [] := by simp [out]
  induction rows with
  | nil => exact single
  | cons row rows ih =>
      obtain ⟨k, b⟩ := row
      rw [insertRow]
      split
      · rw [List.filter_cons_of_neg (by simp [out])]
      · split
        · rename_i same
          exact absurd same.symm (apart _ List.mem_cons_self)
        · rw [List.filter_cons, List.filter_cons, ih fun r held => apart r (List.mem_cons_of_mem _ held)]

/-! ## Ids of new records -/

section NextId

variable {t : Table α} {draws : List DrawnId} {k : Int}

theorem contains_of_nextId? (chosen : t.nextId? draws = some k) : t.contains k = false :=
  contains_eq_false_iff.2 (get?_of_nextId? chosen)

/-- What the id of a new record is: the one after the greatest, or one that was drawn. -/
theorem nextId?_cases (chosen : t.nextId? draws = some k) :
    t.rows = [] ∧ k = 1 ∨
      (∃ last, t.rows.getLast? = some last ∧ last.1 < maxId ∧ k = last.1 + 1) ∨
      ∃ last, t.rows.getLast? = some last ∧ maxId ≤ last.1 ∧ ∃ drawn ∈ draws, k = drawn.id := by
  unfold nextId? at chosen
  split at chosen
  · rename_i nothing
    exact .inl ⟨List.getLast?_eq_none_iff.1 nothing, (Option.some.inj chosen).symm⟩
  · rename_i id a last
    split at chosen
    · rename_i room
      exact .inr (.inl ⟨_, last, room, (Option.some.inj chosen).symm⟩)
    · rename_i full
      obtain ⟨drawn, found, rfl⟩ := Option.map_eq_some_iff.1 chosen
      exact .inr (.inr ⟨_, last, Int.not_lt.1 full, drawn, List.mem_of_find?_eq_some found, rfl⟩)

theorem le_maxId_of_nextId? (chosen : t.nextId? draws = some k) : k ≤ maxId := by
  obtain ⟨-, rfl⟩ | ⟨last, -, room, rfl⟩ | ⟨-, -, -, drawn, -, rfl⟩ := nextId?_cases chosen
  · decide
  · omega
  · exact drawn.fits

/-- The id of a new record is no less than the least id that fits if all ids are. -/
theorem le_nextId? {least : Int} (low : least ≤ 1) (above : ∀ row ∈ t.rows, least ≤ row.1)
    (chosen : t.nextId? draws = some k) : least ≤ k := by
  obtain ⟨-, rfl⟩ | ⟨last, ends, -, rfl⟩ | ⟨-, -, -, drawn, -, rfl⟩ := nextId?_cases chosen
  · exact low
  · have := above last (List.mem_of_getLast? ends)
    omega
  · exact Int.le_trans low drawn.positive

end NextId

end Table

namespace Tables

variable {ts : Tables}

/-! ## Dropping releases -/

theorem dropReleases_nil (ts : Tables) : ts.dropReleases [] = ts := by
  have releases : (ts.releases.filter fun id _ => !([] : List Int).contains id) = ts.releases :=
    Table.ext_rows (List.filter_eq_self.2 fun _ _ => rfl)
  have statuses : (ts.statuses.filter fun _ s => !([] : List Int).contains s.releaseId) =
      ts.statuses :=
    Table.ext_rows (List.filter_eq_self.2 fun _ _ => rfl)
  unfold dropReleases
  rw [releases, statuses]

/-- Dropping releases in two steps is dropping them at once. -/
theorem dropReleases_dropReleases (ts : Tables) (first second : List Int) :
    (ts.dropReleases first).dropReleases second = ts.dropReleases (first ++ second) := by
  have both (id : Int) : ((!second.contains id) && !first.contains id) =
      !(first ++ second).contains id := by
    simp [Bool.and_comm]
  unfold dropReleases
  congr 1
  · refine Table.ext_rows ?_
    simp only [Table.filter, List.filter_filter, both]
  · refine Table.ext_rows ?_
    simp only [Table.filter, List.filter_filter, both]

theorem get?_dropReleases (ts : Tables) (ids : List Int) (k : Int) :
    (ts.dropReleases ids).releases.get? k = if k ∈ ids then none else ts.releases.get? k := by
  apply Option.ext
  intro row
  rw [dropReleases, Table.get?_filter_eq_some_iff]
  by_cases dropped : k ∈ ids <;> simp [dropped]

theorem contains_dropReleases {ids : List Int} {id : Int} :
    (ts.dropReleases ids).releases.contains id = true ↔ id ∉ ids ∧ ts.releases.contains id = true := by
  rw [Table.contains, get?_dropReleases]
  by_cases dropped : id ∈ ids <;> simp [dropped, Table.contains]

theorem mem_statuses_dropReleases {ids : List Int} {row : Int × StoredStatus} :
    row ∈ (ts.dropReleases ids).statuses.rows ↔ row ∈ ts.statuses.rows ∧ row.2.releaseId ∉ ids := by
  simp [dropReleases, Table.filter, List.mem_filter]

/-- Dropping releases takes their own statuses along and no others. -/
theorem statusesOf_dropReleases (ts : Tables) (ids : List Int) (k : Int) :
    (ts.dropReleases ids).statusesOf [k] = if k ∈ ids then [] else ts.statusesOf [k] := by
  unfold statusesOf dropReleases Table.filter
  rw [List.filter_filter]
  by_cases dropped : k ∈ ids
  · rw [if_pos dropped, List.filter_eq_nil_iff]
    rintro ⟨id, s⟩ - both
    simp only [Bool.and_eq_true, List.contains_eq_mem, decide_eq_true_eq, List.mem_singleton,
      Bool.not_eq_true', decide_eq_false_iff_not] at both
    exact both.2 (both.1 ▸ dropped)
  · rw [if_neg dropped]
    apply List.filter_congr
    intro row _
    by_cases own : row.2.releaseId = k
    · simp [own, dropped]
    · simp [own]

/-! ## Statuses of one release -/

/-- A release that is not held has no statuses where every status has its release. -/
theorem statusesOf_eq_nil (owned : ∀ row ∈ ts.statuses.rows, ts.releases.contains row.2.releaseId = true)
    {id : Int} (absent : ts.releases.contains id = false) : ts.statusesOf [id] = [] := by
  apply List.filter_eq_nil_iff.2
  intro row held own
  have owner : row.2.releaseId = id := by simpa using own
  rw [← owner, owned row held] at absent
  cases absent

/-- A status that is inserted under a free id joins those of its release. -/
theorem statusesOf_insert_perm {id : Int} (row : StoredStatus) (free : ts.statuses.contains id = false) :
    (({ ts with statuses := ts.statuses.insert id row } : Tables).statusesOf [row.releaseId]).Perm
      (ts.statusesOf [row.releaseId] ++ [(id, row)]) := by
  have joined := (Table.insert_rows_perm row free).filter fun s => [row.releaseId].contains s.2.releaseId
  rw [List.filter_cons_of_pos (by simp)] at joined
  exact joined.trans (List.perm_append_singleton _ _).symm

/-- A status that is inserted under a free id leaves those of other releases alone. -/
theorem statusesOf_insert_of_ne {id k : Int} {row : StoredStatus}
    (free : ts.statuses.contains id = false) (other : k ≠ row.releaseId) :
    ({ ts with statuses := ts.statuses.insert id row } : Tables).statusesOf [k] = ts.statusesOf [k] := by
  refine Table.filter_insertRow (fun old held same => ?_) (by simpa using other.symm)
  rw [← same, Table.contains_of_mem held] at free
  cases free

/-! ## Looking for statuses -/

/-- Looking for a status with one of the given names is looking for one among the statuses
of the release. -/
theorem hasStatus_eq (ts : Tables) (id : Int) (names : List String) :
    ts.hasStatus id names = (ts.statusesOf [id]).any fun s => names.contains s.2.statusName := by
  unfold hasStatus statusesOf
  rw [List.any_filter]
  simp only [List.contains_cons, List.contains_nil, Bool.or_false]

theorem hasStatus_iff {id : Int} {names : List String} :
    ts.hasStatus id names = true ↔
      ∃ s ∈ ts.statuses.rows, s.2.releaseId = id ∧ s.2.statusName ∈ names := by
  simp [hasStatus]

/-- Dropping releases takes no status of another release away. -/
theorem hasStatus_dropReleases (ts : Tables) {ids : List Int} {id : Int} (names : List String)
    (apart : id ∉ ids) : (ts.dropReleases ids).hasStatus id names = ts.hasStatus id names := by
  rw [hasStatus_eq, hasStatus_eq, statusesOf_dropReleases, if_neg apart]

end Tables

end ReleaseHistory
