import Mathlib.Data.Nat.Basic

universe u

variable {α : Type u}

/-- A call that reports whether it did anything: it answers `false` and leaves
the value as it was, or answers `true` and leaves one that it allows. -/
def Guarded (old : α) (allowed : α → Prop) (outcome : Bool × α) : Prop :=
  outcome = (false, old) ∨ ∃ new, allowed new ∧ outcome = (true, new)

namespace Guarded

variable {old : α} {allowed : α → Prop} {outcome : Bool × α}

theorem unchanged (guarded : Guarded old allowed outcome) (failed : outcome.1 = false) :
    outcome.2 = old := by
  rcases guarded with rfl | ⟨new, _, rfl⟩
  · rfl
  · cases failed

theorem of_success (guarded : Guarded old allowed outcome) (done : outcome.1 = true) :
    allowed outcome.2 := by
  rcases guarded with rfl | ⟨new, holds, rfl⟩
  · cases done
  · exact holds

theorem fails (guarded : Guarded old allowed outcome) (never : ∀ new, ¬allowed new) :
    outcome.1 = false := by
  rcases guarded with rfl | ⟨new, holds, _⟩
  · rfl
  · exact absurd holds (never new)

/-- What holds of the old value and of every allowed one holds after the call. -/
theorem elim {P : α → Prop} (guarded : Guarded old allowed outcome) (kept : P old)
    (moved : ∀ new, outcome.1 = true → allowed new → P new) : P outcome.2 := by
  rcases guarded with rfl | ⟨new, holds, rfl⟩
  · exact kept
  · exact moved new rfl holds

theorem imp {wider : α → Prop} (guarded : Guarded old allowed outcome)
    (implies : ∀ new, allowed new → wider new) : Guarded old wider outcome := by
  rcases guarded with same | ⟨new, holds, done⟩
  · exact Or.inl same
  · exact Or.inr ⟨new, implies new holds, done⟩

end Guarded
