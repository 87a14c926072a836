/-
# ReleaseHistory.Entries -- named entries in the order of their first mention

Fields of a record and keys of a sort order are kept in the order in which they
are first named; naming one again changes its value and not its place.
-/

namespace ReleaseHistory.Entries

set_option autoImplicit false

variable {κ α : Type} [DecidableEq κ]

/-- Set the entry of a name, at its old place if it has one and at the end if not. -/
def set (name : κ) (v : α) : List (κ × α) → List (κ × α)
  | [] => [(name, v)]
  | (n, w) :: es => if n = name then (n, v) :: es else (n, w) :: set name v es

/-- Setting an entry changes what is found under its name and nothing else. -/
theorem lookup_set (name key : κ) (v : α) :
    ∀ es : List (κ × α),
      (set name v es).lookup key = if key = name then some v else es.lookup key
  | [] => by
      by_cases same : key = name
      · simp [set, same]
      · have differ : (key == name) = false := by simpa using same
        simp [set, List.lookup_cons, same, differ]
  | (n, w) :: es => by
      have ih := lookup_set name key v es
      simp only [set]
      split
      · rename_i moved
        subst moved
        by_cases same : key = n
        · simp [same]
        · have differ : (key == n) = false := by simpa using same
          rw [List.lookup_cons, differ, if_neg same, List.lookup_cons, differ]
      · rename_i apart
        by_cases same : key = n
        · subst same
          simp [apart]
        · have differ : (key == n) = false := by simpa using same
          rw [List.lookup_cons, differ, List.lookup_cons, differ]
          exact ih

/-- Entries set one after the other. -/
def ofList (es : List (κ × α)) : List (κ × α) :=
  es.foldl (fun acc e => set e.1 e.2 acc) []

end ReleaseHistory.Entries
