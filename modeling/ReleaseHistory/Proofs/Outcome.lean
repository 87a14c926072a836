/-
# ReleaseHistory.Proofs.Outcome -- when a computation that can fail succeeds, and when it fails

An answer that is put into another form, a fault that is, and two steps of which the second takes
the answer of the first.
-/

namespace ReleaseHistory

set_option autoImplicit false

variable {ε δ α β : Type} {e : Except ε α} {v : ε}

/-- An answer that is put into another form fails as it does. -/
theorem map_eq_error_iff {g : α → β} : e.map g = .error v ↔ e = .error v := by
  cases e <;> simp [Except.map]

theorem mapError_eq_ok_iff {g : ε → δ} {a : α} : e.mapError g = .ok a ↔ e = .ok a := by
  cases e with
  | error v => exact iff_of_false nofun nofun
  | ok b =>
      show (Except.ok b : Except δ α) = .ok a ↔ _
      rw [Except.ok.injEq, Except.ok.injEq]

theorem mapError_eq_error_iff {g : ε → δ} {d : δ} :
    e.mapError g = .error d ↔ ∃ v, e = .error v ∧ g v = d := by
  cases e with
  | error v =>
      show (Except.error (g v) : Except δ α) = .error d ↔ _
      simp
  | ok a => exact iff_of_false nofun nofun

/-- A computation in two steps succeeds if both do. -/
theorem bind_eq_ok_iff {next : α → Except ε β} {b : β} :
    (e >>= next) = .ok b ↔ ∃ a, e = .ok a ∧ next a = .ok b := by
  cases e <;> simp [bind, Except.bind]

/-- A computation in two steps fails if the first does or, after it, the second. -/
theorem bind_eq_error_iff {next : α → Except ε β} :
    (e >>= next) = .error v ↔ e = .error v ∨ ∃ a, e = .ok a ∧ next a = .error v := by
  cases e <;> simp [bind, Except.bind]

end ReleaseHistory
