/-
# ReleaseHistory.Store.Table -- a table of records under ascending ids

A table holds its records in ascending order of their ids, each id once.

* `get?` finds the record of an id; `insert` sets it, at its place.
* `filter` keeps the records that satisfy a condition.
* `nextId?` is the id of a record that comes without one: one more than the
  greatest id, 1 in an empty table.  When the greatest id is the greatest that
  fits, ids are drawn at random, and the first that is free is taken; there is
  none when all that were drawn are taken.
-/

namespace ReleaseHistory

set_option autoImplicit false

variable {α : Type}

/-- Ids increase along the rows. -/
abbrev Ascending (rows : List (Int × α)) : Prop := rows.Pairwise fun a b => a.1 < b.1

/-- Records under ascending ids. -/
structure Table (α : Type) where
  rows : List (Int × α)
  ascending : Ascending rows

namespace Table

/-- The greatest id. -/
def maxId : Int := 9223372036854775807

end Table

/-- An id that can be drawn for a record: any positive one. -/
structure DrawnId where
  id : Int
  positive : 1 ≤ id
  fits : id ≤ Table.maxId

namespace Table

def empty : Table α := ⟨[], List.Pairwise.nil⟩

/-! ## Reading -/

/-- The record of an id. -/
def get? (t : Table α) (id : Int) : Option α := t.rows.lookup id

/-- Some record has the id. -/
def contains (t : Table α) (id : Int) : Bool := (t.get? id).isSome

def size (t : Table α) : Nat := t.rows.length

/-- The id of a record that comes without one, given the ids that are drawn for it in the
order in which they are tried. -/
def nextId? (t : Table α) (draws : List DrawnId) : Option Int :=
  match t.rows.getLast? with
  | none => some 1
  | some (id, _) =>
    if id < maxId then some (id + 1)
    else (draws.find? fun drawn => !t.contains drawn.id).map DrawnId.id

theorem lookup_eq_some_iff {id : Int} {a : α} :
    ∀ {rows : List (Int × α)}, Ascending rows → (rows.lookup id = some a ↔ (id, a) ∈ rows)
  | [], _ => by simp
  | (k, b) :: rows, h => by
      obtain ⟨first, rest⟩ := List.pairwise_cons.1 h
      rw [List.lookup_cons]
      by_cases same : id = k
      · subst same
        simp only [beq_self_eq_true, Option.some.injEq, List.mem_cons, Prod.mk.injEq, true_and]
        constructor
        · exact fun e => .inl e.symm
        · rintro (e | later)
          · exact e.symm
          · exact absurd (first _ later) (Int.lt_irrefl _)
      · have differ : (id == k) = false := by simpa using same
        rw [differ]
        simp [same, lookup_eq_some_iff rest]

/-- A record is found under an id exactly when it is in the table under it. -/
theorem get?_eq_some_iff (t : Table α) {id : Int} {a : α} :
    t.get? id = some a ↔ (id, a) ∈ t.rows :=
  lookup_eq_some_iff t.ascending

theorem lookup_eq_none_of_forall_ne {id : Int} {rows : List (Int × α)} (h : ∀ r ∈ rows, r.1 ≠ id) :
    rows.lookup id = none := by
  rw [List.lookup_eq_none_iff]
  intro r hr
  simpa using Ne.symm (h r hr)

theorem le_getLast {rows : List (Int × α)} {last : Int × α} (h : Ascending rows)
    (hl : rows.getLast? = some last) : ∀ r ∈ rows, r.1 ≤ last.1 := by
  obtain ⟨front, rfl⟩ := List.getLast?_eq_some_iff.1 hl
  intro r hr
  rcases List.mem_append.1 hr with hr | hr
  · exact Int.le_of_lt ((List.pairwise_append.1 h).2.2 r hr last (List.mem_singleton.2 rfl))
  · obtain rfl := List.mem_singleton.1 hr
    exact Int.le_refl _

/-- A record that comes without an id gets one that no record has. -/
theorem get?_of_nextId? {t : Table α} {draws : List DrawnId} {k : Int}
    (chosen : t.nextId? draws = some k) : t.get? k = none := by
  unfold nextId? at chosen
  split at chosen
  · rename_i nothing
    rw [List.getLast?_eq_none_iff] at nothing
    rw [get?, nothing]
    rfl
  · rename_i id a last
    split at chosen
    · obtain rfl := Option.some.inj chosen
      refine lookup_eq_none_of_forall_ne fun r held => ?_
      have le : r.1 ≤ id := le_getLast t.ascending last r held
      omega
    · obtain ⟨drawn, found, rfl⟩ := Option.map_eq_some_iff.1 chosen
      simpa [contains] using List.find?_some found

/-! ## Writing -/

/-- Set the record of an id in ascending rows. -/
def insertRow (id : Int) (a : α) : List (Int × α) → List (Int × α)
  | [] => [(id, a)]
  | (k, b) :: rows =>
      if id < k then (id, a) :: (k, b) :: rows
      else if id = k then (id, a) :: rows
      else (k, b) :: insertRow id a rows

theorem eq_or_mem_of_mem_insertRow {id : Int} {a : α} {x : Int × α} :
    ∀ {rows : List (Int × α)}, x ∈ insertRow id a rows → x = (id, a) ∨ x ∈ rows
  | [], h => by simpa [insertRow] using h
  | (k, b) :: rows, h => by
      simp only [insertRow] at h
      split at h
      · simpa using h
      · split at h
        · rcases List.mem_cons.1 h with rfl | h
          · exact .inl rfl
          · exact .inr (List.mem_cons_of_mem _ h)
        · rcases List.mem_cons.1 h with rfl | h
          · exact .inr (List.mem_cons_self ..)
          · rcases eq_or_mem_of_mem_insertRow h with h | h
            · exact .inl h
            · exact .inr (List.mem_cons_of_mem _ h)

theorem ascending_insertRow (id : Int) (a : α) :
    ∀ {rows : List (Int × α)}, Ascending rows → Ascending (insertRow id a rows)
  | [], _ => by simp [insertRow]
  | (k, b) :: rows, h => by
      obtain ⟨first, rest⟩ := List.pairwise_cons.1 h
      simp only [insertRow]
      split
      · rename_i lt
        refine List.pairwise_cons.2 ⟨fun y hy => ?_, h⟩
        rcases List.mem_cons.1 hy with rfl | hy
        · exact lt
        · exact Int.lt_trans lt (first y hy)
      · split
        · rename_i same
          subst same
          exact List.pairwise_cons.2 ⟨first, rest⟩
        · refine List.pairwise_cons.2 ⟨fun y hy => ?_, ascending_insertRow id a rest⟩
          rcases eq_or_mem_of_mem_insertRow hy with rfl | hy
          · show k < id
            omega
          · exact first y hy

/-- Set the record of an id. -/
def insert (t : Table α) (id : Int) (a : α) : Table α :=
  ⟨insertRow id a t.rows, ascending_insertRow id a t.ascending⟩

theorem lookup_insertRow (id k : Int) (a : α) :
    ∀ rows : List (Int × α),
      (insertRow id a rows).lookup k = if k = id then some a else rows.lookup k
  | [] => by
      by_cases same : k = id
      · simp [insertRow, same]
      · have differ : (k == id) = false := by simpa using same
        simp [insertRow, List.lookup_cons, same, differ]
  | (j, b) :: rows => by
      have ih := lookup_insertRow id k a rows
      simp only [insertRow]
      split
      · by_cases same : k = id
        · simp [same]
        · have differ : (k == id) = false := by simpa using same
          rw [List.lookup_cons, differ, if_neg same]
      · split
        · rename_i moved
          subst moved
          by_cases same : k = id
          · simp [same]
          · have differ : (k == id) = false := by simpa using same
            rw [List.lookup_cons, differ, if_neg same, List.lookup_cons, differ]
        · rename_i apart
          by_cases same : k = j
          · subst same
            simp [Ne.symm apart]
          · have differ : (k == j) = false := by simpa using same
            rw [List.lookup_cons, differ, List.lookup_cons, differ]
            exact ih

/-- Setting a record changes what is found under its id and nothing else. -/
theorem get?_insert (t : Table α) (id k : Int) (a : α) :
    (t.insert id a).get? k = if k = id then some a else t.get? k :=
  lookup_insertRow id k a t.rows

/-- Keep the records that satisfy a condition. -/
def filter (t : Table α) (keep : Int → α → Bool) : Table α :=
  ⟨t.rows.filter fun r => keep r.1 r.2, t.ascending.filter _⟩

/-- A record is found after a selection exactly when it was found and is selected. -/
theorem get?_filter_eq_some_iff (t : Table α) (keep : Int → α → Bool) {id : Int} {a : α} :
    (t.filter keep).get? id = some a ↔ t.get? id = some a ∧ keep id a = true := by
  rw [get?_eq_some_iff, get?_eq_some_iff]
  simp [filter, List.mem_filter]

/-- Drop the record of an id. -/
def erase (t : Table α) (id : Int) : Table α := t.filter fun k _ => k ≠ id

end Table

end ReleaseHistory
