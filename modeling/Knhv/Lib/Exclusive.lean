import Mathlib.Logic.Function.Basic

universe u v

variable {ι : Type u} {α : Type v}

/-- At most one place of the family holds. -/
def Exclusive (holds : α → Bool) (places : ι → α) : Prop :=
  ∀ a b, holds (places a) = true → holds (places b) = true → a = b

namespace Exclusive

variable {holds : α → Bool} {places : ι → α} {k : ι} {next : α}

theorem other (exclusive : Exclusive holds places) (mine : holds (places k) = true) {a : ι}
    (different : a ≠ k) : holds (places a) = false := by
  by_contra theirs
  exact different (exclusive a k (Bool.not_eq_false _ ▸ theirs) mine)

/-- A place that comes to hold either held before or found that no other does. -/
theorem update [DecidableEq ι] (exclusive : Exclusive holds places)
    (taken : holds next = true → holds (places k) = true ∨
      ∀ a, a ≠ k → holds (places a) = false) :
    Exclusive holds (Function.update places k next) := by
  have alone {a : ι} (different : a ≠ k) (mine : holds next = true) :
      holds (places a) = false := by
    rcases taken mine with already | free
    · exact exclusive.other already different
    · exact free a different
  intro a b first second
  by_cases mine : a = k <;> by_cases yours : b = k
  · rw [mine, yours]
  · subst mine
    rw [Function.update_self] at first
    rw [Function.update_of_ne yours, alone yours first] at second
    cases second
  · subst yours
    rw [Function.update_self] at second
    rw [Function.update_of_ne mine, alone mine second] at first
    cases first
  · rw [Function.update_of_ne mine] at first
    rw [Function.update_of_ne yours] at second
    exact exclusive a b first second

end Exclusive
