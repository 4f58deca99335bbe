import Mathlib.Algebra.Group.Nat.Defs
import Mathlib.Data.Nat.Basic

namespace Checked

variable {w : Nat}

/-- The sum of two words, or nothing if it does not fit. -/
def add (left right : BitVec w) : Option (BitVec w) :=
  if ~~~0#w - right < left then none else some (left + right)

theorem toNat_not_zero_sub (right : BitVec w) :
    (~~~0#w - right).toNat = 2 ^ w - 1 - right.toNat := by
  have inside := right.isLt
  rw [BitVec.toNat_sub_of_le]
  · simp
  · rw [BitVec.le_def]
    simp
    omega

theorem add_eq_some_iff {left right sum : BitVec w} :
    add left right = some sum ↔ sum.toNat = left.toNat + right.toNat := by
  have inside := right.isLt
  unfold add
  split
  · rename_i above
    rw [BitVec.lt_def, toNat_not_zero_sub] at above
    have := sum.isLt
    simp only [reduceCtorEq, false_iff]
    omega
  · rename_i within
    rw [BitVec.lt_def, toNat_not_zero_sub, Nat.not_lt] at within
    rw [Option.some.injEq, BitVec.toNat_eq, BitVec.toNat_add, Nat.mod_eq_of_lt (by omega)]
    exact eq_comm

/-- A sum that fits is returned. -/
theorem add_of_lt {left right : BitVec w} (fits : left.toNat + right.toNat < 2 ^ w) :
    add left right = some (left + right) := by
  rw [add_eq_some_iff, BitVec.toNat_add, Nat.mod_eq_of_lt fits]

/-- The product of two words, or nothing if it does not fit. -/
def mul (left right : BitVec w) : Option (BitVec w) :=
  if right ≠ 0#w ∧ ~~~0#w / right < left then none else some (left * right)

/-- The test of a factor against a quotient is the test of the product. -/
theorem not_quotient_lt_iff {left right : BitVec w} (nonzero : right ≠ 0#w) :
    ¬~~~0#w / right < left ↔ left.toNat * right.toNat < 2 ^ w := by
  have positive : 0 < right.toNat := by
    by_contra none
    exact nonzero (BitVec.eq_of_toNat_eq (by simp; omega))
  have top : (~~~0#w).toNat = 2 ^ w - 1 := by simp
  rw [BitVec.not_lt, BitVec.le_def, BitVec.toNat_udiv, top, Nat.le_div_iff_mul_le positive]
  have := Nat.two_pow_pos w
  omega

theorem toNat_mul_of_lt {left right : BitVec w} (fits : left.toNat * right.toNat < 2 ^ w) :
    (left * right).toNat = left.toNat * right.toNat := by
  rw [BitVec.toNat_mul, Nat.mod_eq_of_lt fits]

theorem mul_eq_some_iff {left right product : BitVec w} :
    mul left right = some product ↔ product.toNat = left.toNat * right.toNat := by
  unfold mul
  by_cases zero : right = 0#w
  · rw [if_neg (fun guard => guard.1 zero), zero, Option.some.injEq, BitVec.mul_zero,
      BitVec.toNat_eq, BitVec.toNat_zero, Nat.mul_zero]
    exact eq_comm
  · by_cases fits : left.toNat * right.toNat < 2 ^ w
    · rw [if_neg (fun guard => (not_quotient_lt_iff zero).mpr fits guard.2), Option.some.injEq,
        BitVec.toNat_eq, toNat_mul_of_lt fits]
      exact eq_comm
    · have above : ~~~0#w / right < left := by
        by_contra below
        exact fits ((not_quotient_lt_iff zero).mp below)
      rw [if_pos ⟨zero, above⟩]
      have := product.isLt
      simp only [reduceCtorEq, false_iff]
      omega

end Checked
