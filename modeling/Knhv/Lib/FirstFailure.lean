import Mathlib.Data.List.Basic

universe u

namespace FirstFailure

variable {σ : Type u}

/-- A sequence of checks, each with the status that is returned if it fires:
the status of the first one that does, or `passed` if none does. -/
def verdict (passed : σ) : List (Bool × σ) → σ
  | [] => passed
  | check :: checks => if check.1 then check.2 else verdict passed checks

theorem verdict_eq_of_all_clear {passed : σ} {checks : List (Bool × σ)}
    (clear : ∀ check ∈ checks, check.1 = false) : verdict passed checks = passed := by
  induction checks with
  | nil => rfl
  | cons check checks ih =>
    have first := clear check List.mem_cons_self
    rw [verdict, first, if_neg Bool.false_ne_true]
    exact ih fun later member => clear later (List.mem_cons_of_mem _ member)

/-- The verdict is one of the failures or `passed`. -/
theorem verdict_cases (passed : σ) (checks : List (Bool × σ)) :
    (∃ check ∈ checks, check.1 = true ∧ verdict passed checks = check.2) ∨
      (∀ check ∈ checks, check.1 = false) ∧ verdict passed checks = passed := by
  induction checks with
  | nil => exact Or.inr ⟨fun _ member => absurd member List.not_mem_nil, rfl⟩
  | cons check checks ih =>
    cases fires : check.1 with
    | true =>
      refine Or.inl ⟨check, List.mem_cons_self, fires, ?_⟩
      rw [verdict, fires, if_pos rfl]
    | false =>
      rw [verdict, fires, if_neg Bool.false_ne_true]
      rcases ih with ⟨later, member, fired, same⟩ | ⟨clear, same⟩
      · exact Or.inl ⟨later, List.mem_cons_of_mem _ member, fired, same⟩
      · refine Or.inr ⟨fun one member => ?_, same⟩
        rcases List.mem_cons.mp member with rfl | later
        · exact fires
        · exact clear one later

/-- Checks that never fail with `passed` are all clear if the verdict is
`passed`. -/
theorem clear_of_verdict {passed : σ} {checks : List (Bool × σ)}
    (failures : ∀ check ∈ checks, check.2 ≠ passed) (accepted : verdict passed checks = passed) :
    ∀ check ∈ checks, check.1 = false := by
  rcases verdict_cases passed checks with ⟨check, member, _, same⟩ | ⟨clear, _⟩
  · exact absurd (same.symm.trans accepted) (failures check member)
  · exact clear

/-- One check of such a sequence, as the source writes it: the sequence passes
exactly if the check stays clear and the rest passes. -/
theorem ite_eq_passed_iff {fires : Prop} [Decidable fires] {failure rest passed : σ}
    (fails : failure ≠ passed) :
    (if fires then failure else rest) = passed ↔ ¬fires ∧ rest = passed := by
  split
  · rename_i fired
    exact iff_of_false fails fun clear => clear.1 fired
  · rename_i clear
    exact ⟨fun same => ⟨clear, same⟩, fun both => both.2⟩

end FirstFailure
