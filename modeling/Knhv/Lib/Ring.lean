import Mathlib.Logic.Function.Basic
import Mathlib.Data.Nat.ModEq

universe u

namespace Ring

variable {α : Type u}

/-- The memory of a ring of `c` slots into which the records `0, …, n - 1` were
stored, each in the slot of its number. -/
def written (c : Nat) (initial record : Nat → α) : Nat → Nat → α
  | 0 => initial
  | n + 1 => Function.update (written c initial record n) (n % c) (record n)

variable {c : Nat} {initial record : Nat → α}

/-- A slot keeps the record that was stored last in it. -/
theorem written_recent {k n : Nat} (stored : k < n) (recent : n ≤ k + c) :
    written c initial record n (k % c) = record k := by
  induction n with
  | zero => omega
  | succ n ih =>
    rw [written]
    by_cases last : k = n
    · rw [last, Function.update_self]
    · have apart : k % c ≠ n % c := by
        intro same
        have congruent : k ≡ n [MOD c] := same
        have divides := (Nat.modEq_iff_dvd' (by omega)).mp congruent
        have := Nat.le_of_dvd (by omega) divides
        omega
      rw [Function.update_of_ne apart]
      exact ih (by omega) (by omega)

/-- A slot that no record has reached is as it was. -/
theorem written_fresh {slot n : Nat} (fresh : n ≤ slot) (inside : slot < c) :
    written c initial record n slot = initial slot := by
  induction n with
  | zero => rfl
  | succ n ih =>
    have apart : slot ≠ n % c := by
      rw [Nat.mod_eq_of_lt (by omega)]
      omega
    rw [written, Function.update_of_ne apart]
    exact ih (by omega)

/-- What the slot of the next record holds: the record one lap before it, or
what the ring started with. -/
theorem written_next (positive : 0 < c) (n : Nat) :
    written c initial record n (n % c) = if c ≤ n then record (n - c) else initial (n % c) := by
  by_cases lap : c ≤ n
  · have slot : n % c = (n - c) % c := by
      conv_lhs => rw [← Nat.sub_add_cancel lap, Nat.add_mod_right]
    rw [if_pos lap, slot]
    exact written_recent (by omega) (by omega)
  · rw [if_neg lap, Nat.mod_eq_of_lt (by omega)]
    exact written_fresh le_rfl (by omega)

/-- A loop that stores `value j` in place `base + j` for each `j` that passes. -/
def copyWhere (passes : Nat → Prop) [DecidablePred passes] (value : Nat → α) (base count : Nat)
    (target : Nat → α) : Nat → α :=
  (List.range count).foldl
    (fun copy j => if passes j then Function.update copy (base + j) (value j) else copy) target

variable {passes : Nat → Prop} [DecidablePred passes] {value : Nat → α} {base count : Nat} {target : Nat → α}

theorem copyWhere_succ :
    copyWhere passes value base (count + 1) target =
      if passes count then
        Function.update (copyWhere passes value base count target) (base + count) (value count)
      else copyWhere passes value base count target := by
  simp only [copyWhere, List.range_succ, List.foldl_append, List.foldl_cons, List.foldl_nil]

theorem copyWhere_outside {place : Nat} (outside : place < base ∨ base + count ≤ place) :
    copyWhere passes value base count target place = target place := by
  induction count with
  | zero => rfl
  | succ count ih =>
    have before := ih (by omega)
    rw [copyWhere_succ]
    split
    · rw [Function.update_of_ne (by omega), before]
    · exact before

/-- What a place holds after the loop depends on that place alone. -/
theorem copyWhere_congr {other : Nat → α} {place : Nat} (same : target place = other place) :
    copyWhere passes value base count target place =
      copyWhere passes value base count other place := by
  induction count with
  | zero => exact same
  | succ count ih =>
    rw [copyWhere_succ, copyWhere_succ]
    split
    · by_cases here : place = base + count
      · rw [here, Function.update_self, Function.update_self]
      · rw [Function.update_of_ne here, Function.update_of_ne here, ih]
    · exact ih

theorem copyWhere_apply {j : Nat} (within : j < count) :
    copyWhere passes value base count target (base + j) =
      if passes j then value j else target (base + j) := by
  induction count with
  | zero => omega
  | succ count ih =>
    rw [copyWhere_succ]
    by_cases last : j = count
    · subst last
      by_cases passed : passes j
      · rw [if_pos passed, if_pos passed, Function.update_self]
      · rw [if_neg passed, if_neg passed, copyWhere_outside (Or.inr le_rfl)]
    · have before := ih (by omega)
      split
      · rw [Function.update_of_ne (by omega), before]
      · exact before

end Ring
