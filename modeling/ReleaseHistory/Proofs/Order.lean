/-
# ReleaseHistory.Proofs.Order -- a sort order puts any two releases in order

`SortOrder.Before` says when one release comes before another: the first clause that
tells them apart decides, and where none does the greater id comes first.

* Each column is compared by the order of its values, points in time by the order of time
  (`compareBy_eq_lt_iff`).
* Sorting puts releases with different ids strictly in order (`pairwise_sort`).
* There is only one way to do so (`eq_of_perm_of_pairwise`), so that a sorted list is
  determined by what is in it.
-/
import ReleaseHistory.Proofs.Calendar
import ReleaseHistory.Search.SortOrder

namespace ReleaseHistory

set_option autoImplicit false

open Std (TransCmp OrientedCmp)

/-! ## When a release comes before another -/

/-- One release has the lesser value in a column. -/
def SortColumn.Less (column : SortColumn) (a b : SortOrder.Row) : Prop :=
  match column with
  | .id => a.1 < b.1
  | .timestamp => a.2.timestamp.instant < b.2.timestamp.instant
  | .title => a.2.title < b.2.title
  | .torrentName => a.2.torrentName < b.2.torrentName
  | .indexerIdentifier => a.2.indexer.identifier < b.2.indexer.identifier
  | .filterName => a.2.filterName < b.2.filterName
  | .season => a.2.season < b.2.season
  | .episode => a.2.episode < b.2.episode
  | .year => a.2.year < b.2.year
  | .size => a.2.size < b.2.size
  | .resolution => a.2.resolution < b.2.resolution
  | .source => a.2.source < b.2.source
  | .group => a.2.group < b.2.group
  | .protocol => a.2.protocolName < b.2.protocolName

/-- A clause puts one release before another. -/
def SortClause.Less (c : SortClause) (a b : SortOrder.Row) : Prop :=
  if c.descending then c.column.Less b a else c.column.Less a b

/-- The first clause that tells two releases apart puts one before the other; where none
does, the greater id comes first. -/
def SortOrder.Before : List SortClause → SortOrder.Row → SortOrder.Row → Prop
  | [], a, b => b.1 < a.1
  | c :: cs, a, b => c.Less a b ∨ ¬c.Less b a ∧ Before cs a b

namespace SortOrder

/-! ## Comparing -/

theorem compare_list_eq_lt_iff {as bs : List Nat} : compare as bs = .lt ↔ as < bs := by
  induction as generalizing bs with
  | nil => cases bs <;> simp
  | cons a as ih =>
      cases bs with
      | nil => simp
      | cons b bs =>
          rw [List.compare_cons_cons, Ordering.then_eq_lt, ih, List.cons_lt_cons_iff, Std.compare_eq_lt,
            Std.compare_eq_iff_eq]

/-- The columns are compared by the orders of their values. -/
theorem compareBy_eq_lt_iff {column : SortColumn} {a b : Row} (left : a.2.timestamp.offset = none)
    (right : b.2.timestamp.offset = none) : compareBy column a b = .lt ↔ column.Less a b := by
  cases column with
  | timestamp =>
      rw [compareBy, compare_list_eq_lt_iff, DateTime.fields_lt_iff]
      simp [SortColumn.Less, DateTime.instant, left, right]
  | id | season | episode | year | size => exact Std.compare_eq_lt
  | title | torrentName | indexerIdentifier | filterName | resolution | source | group | protocol =>
      exact compareOfLessAndEq_eq_lt

theorem transCmp_on {α : Type} [Ord α] [Std.TransOrd α] (f : Row → α) :
    TransCmp fun a b => compare (f a) (f b) where
  eq_swap := OrientedCmp.eq_swap
  isLE_trans := TransCmp.isLE_trans

instance (column : SortColumn) : TransCmp (compareBy column) := by
  cases column <;> exact transCmp_on _

/-- The order of two releases by one clause. -/
def compareClause (c : SortClause) (a b : Row) : Ordering :=
  if c.descending then compareBy c.column b a else compareBy c.column a b

instance (c : SortClause) : TransCmp (compareClause c) where
  eq_swap {a b} := by
    unfold compareClause
    split <;> exact OrientedCmp.eq_swap
  isLE_trans {x y z} := by
    unfold compareClause
    split
    · exact fun first second => TransCmp.isLE_trans second first
    · exact TransCmp.isLE_trans

/-- Comparing by clauses is comparing by the first, then by the others. -/
theorem order_cons (c : SortClause) (cs : List SortClause) :
    order (c :: cs) = compareLex (compareClause c) (order cs) := rfl

instance transCmp_order : ∀ cs : List SortClause, TransCmp (order cs)
  | [] => { eq_swap := rfl, isLE_trans := fun _ _ => rfl }
  | c :: cs => by
      have := transCmp_order cs
      rw [order_cons]
      infer_instance

/-- A clause puts one release before another exactly if it compares them so. -/
theorem compareClause_eq_lt_iff {c : SortClause} {a b : Row} (left : a.2.timestamp.offset = none)
    (right : b.2.timestamp.offset = none) : compareClause c a b = .lt ↔ c.Less a b := by
  unfold compareClause SortClause.Less
  split
  · exact compareBy_eq_lt_iff right left
  · exact compareBy_eq_lt_iff left right

/-- A clause does not tell two releases apart exactly if it puts neither first. -/
theorem compareClause_eq_eq_iff {c : SortClause} {a b : Row} (left : a.2.timestamp.offset = none)
    (right : b.2.timestamp.offset = none) :
    compareClause c a b = .eq ↔ ¬c.Less a b ∧ ¬c.Less b a := by
  have swap : compareClause c a b = (compareClause c b a).swap := OrientedCmp.eq_swap
  rw [← compareClause_eq_lt_iff left right, ← compareClause_eq_lt_iff right left, swap]
  cases compareClause c b a <;> decide

/-- The order by requested clauses and then by the falling id. -/
theorem order_eq_lt_iff {a b : Row} (left : a.2.timestamp.offset = none)
    (right : b.2.timestamp.offset = none) (requested : List SortClause) :
    order (requested ++ [⟨.id, true⟩]) a b = .lt ↔ Before requested a b := by
  induction requested with
  | nil =>
      show (compareClause ⟨.id, true⟩ a b).then .eq = .lt ↔ b.1 < a.1
      rw [Ordering.then_eq, compareClause_eq_lt_iff left right]
      rfl
  | cons c cs ih =>
      rw [List.cons_append, order_cons, compareLex, Ordering.then_eq_lt,
        compareClause_eq_lt_iff left right, compareClause_eq_eq_iff left right, ih, Before]
      by_cases less : c.Less a b <;> simp [less]

/-- Only a release and itself are not put in order. -/
theorem eq_of_order_eq_eq {a b : Row} {requested : List SortClause}
    (same : order (requested ++ [⟨.id, true⟩]) a b = .eq) : a.1 = b.1 := by
  induction requested with
  | nil =>
      have ids : (compare b.1 a.1).then .eq = .eq := same
      rw [Ordering.then_eq] at ids
      exact (Std.compare_eq_iff_eq.1 ids).symm
  | cons c cs ih =>
      rw [List.cons_append, order_cons, compareLex, Ordering.then_eq_eq] at same
      exact ih same.2

theorem before_asymm {a b : Row} (left : a.2.timestamp.offset = none)
    (right : b.2.timestamp.offset = none) {requested : List SortClause}
    (first : Before requested a b) : ¬Before requested b a := by
  have swap : order (requested ++ [⟨.id, true⟩]) b a =
      (order (requested ++ [⟨.id, true⟩]) a b).swap := OrientedCmp.eq_swap
  rw [← order_eq_lt_iff left right] at first
  rw [← order_eq_lt_iff right left, swap, first]
  decide

/-! ## Sorting -/

theorem sort_perm (clauses : List SortClause) (rows : List Row) : (sort clauses rows).Perm rows :=
  List.mergeSort_perm ..

/-- Sorting puts releases with different ids strictly in order. -/
theorem pairwise_sort (requested : List SortClause) {rows : List Row}
    (utc : ∀ row ∈ rows, row.2.timestamp.offset = none)
    (distinct : rows.Pairwise fun a b => a.1 ≠ b.1) :
    (sort (requested ++ [⟨.id, true⟩]) rows).Pairwise (Before requested) := by
  have perm := sort_perm (requested ++ [⟨.id, true⟩]) rows
  have sorted : (sort (requested ++ [⟨.id, true⟩]) rows).Pairwise fun a b =>
      decide (order (requested ++ [⟨.id, true⟩]) a b ≠ .gt) = true := by
    refine List.pairwise_mergeSort ?_ ?_ rows
    · intro x y z first second
      rw [decide_eq_true_eq, ne_eq, ← Ordering.isLE_iff_ne_gt] at first second ⊢
      exact TransCmp.isLE_trans first second
    · intro x y
      have swap : order (requested ++ [⟨.id, true⟩]) y x =
          (order (requested ++ [⟨.id, true⟩]) x y).swap := OrientedCmp.eq_swap
      rw [swap]
      cases order (requested ++ [⟨.id, true⟩]) x y <;> decide
  have apart : (sort (requested ++ [⟨.id, true⟩]) rows).Pairwise fun a b => a.1 ≠ b.1 :=
    (perm.pairwise_iff fun differ => Ne.symm differ).2 distinct
  apply (sorted.and apart).imp_of_mem
  intro a b heldA heldB both
  have left := utc a (perm.mem_iff.1 heldA)
  have right := utc b (perm.mem_iff.1 heldB)
  rw [← order_eq_lt_iff left right]
  have least := of_decide_eq_true both.1
  cases compared : order (requested ++ [⟨.id, true⟩]) a b with
  | lt => rfl
  | eq => exact absurd (eq_of_order_eq_eq compared) both.2
  | gt => exact absurd compared least

/-- Two lists of the same releases that are strictly in order are the same list. -/
theorem eq_of_perm_of_pairwise {requested : List SortClause} {first second : List Row}
    (perm : first.Perm second) (utc : ∀ row ∈ first, row.2.timestamp.offset = none)
    (sorted : first.Pairwise (Before requested)) (sorted' : second.Pairwise (Before requested)) :
    first = second :=
  perm.eq_of_pairwise (fun a b heldA heldB ahead behind =>
    absurd behind (before_asymm (utc a heldA) (utc b (perm.mem_iff.2 heldB)) ahead)) sorted sorted'

end SortOrder

end ReleaseHistory
