import Mathlib.Algebra.Group.Nat.Defs
import Mathlib.Data.Nat.Basic

namespace Bits

variable {w : Nat}

/-- The usual test of one bit. -/
theorem and_one_shiftLeft_ne_zero (word : BitVec w) {bit : Nat} (inside : bit < w) :
    word &&& 1#w <<< bit ≠ 0#w ↔ word.getLsbD bit = true := by
  rw [← BitVec.twoPow_eq, BitVec.and_twoPow]
  by_cases set : word.getLsbD bit = true
  · simp only [set, if_true, iff_true]
    intro zero
    have here := congrArg (·.getLsbD bit) zero
    simp [inside] at here
  · simp [set]

/-- Setting one bit. -/
theorem getLsbD_or_one_shiftLeft (word : BitVec w) {bit : Nat} (inside : bit < w) (other : Nat) :
    (word ||| 1#w <<< bit).getLsbD other = (word.getLsbD other || decide (other = bit)) := by
  rw [← BitVec.twoPow_eq, BitVec.getLsbD_or, BitVec.getLsbD_twoPow]
  by_cases same : other = bit
  · simp [same, inside]
  · simp [same, Ne.symm same]

/-- Clearing one bit. -/
theorem getLsbD_and_not_one_shiftLeft (word : BitVec w) (bit : Nat) {other : Nat}
    (inside : other < w) :
    (word &&& ~~~(1#w <<< bit)).getLsbD other = (word.getLsbD other && other != bit) := by
  rw [← BitVec.twoPow_eq, BitVec.getLsbD_and, BitVec.getLsbD_not, BitVec.getLsbD_twoPow]
  by_cases same : other = bit
  · subst same
    simp [inside]
  · simp [same, Ne.symm same, inside]

/-- A mask tested on the low part of a word is the widened mask tested on the
word. -/
theorem setWidth_and_eq_zero {value : BitVec 64} {mask : BitVec 32} :
    value.setWidth 32 &&& mask = 0 ↔ value &&& mask.setWidth 64 = 0 := by
  have narrow : mask.toNat &&& (2 ^ 32 - 1) = mask.toNat := by
    rw [Nat.and_two_pow_sub_one_eq_mod, Nat.mod_eq_of_lt mask.isLt]
  have low : value.toNat % 2 ^ 32 &&& mask.toNat = value.toNat &&& mask.toNat := by
    rw [← Nat.and_two_pow_sub_one_eq_mod, Nat.and_assoc, Nat.and_comm (2 ^ 32 - 1), narrow]
  have wide : mask.toNat % 2 ^ 64 = mask.toNat := Nat.mod_eq_of_lt (by have := mask.isLt; omega)
  simp only [BitVec.toNat_eq, BitVec.toNat_and, BitVec.toNat_setWidth, low, wide]
  rfl

/-- Clearing the low bits rounds down to their power of two. -/
theorem toNat_and_not_low (word : BitVec w) (k : Nat) :
    (word &&& BitVec.allOnes w <<< k).toNat = word.toNat / 2 ^ k * 2 ^ k := by
  have shifted : word &&& BitVec.allOnes w <<< k = (word >>> k) <<< k := by
    apply BitVec.eq_of_getLsbD_eq
    intro bit inside
    rw [BitVec.getLsbD_and, BitVec.getLsbD_shiftLeft, BitVec.getLsbD_shiftLeft,
      BitVec.getLsbD_ushiftRight, BitVec.getLsbD_allOnes]
    by_cases low : bit < k
    · simp [low]
    · have moved : bit - k < w := by omega
      simp [low, inside, moved, Nat.add_sub_cancel' (Nat.le_of_not_lt low)]
  rw [shifted, BitVec.toNat_shiftLeft, BitVec.toNat_ushiftRight, Nat.shiftLeft_eq,
    Nat.shiftRight_eq_div_pow, Nat.mod_eq_of_lt]
  exact Nat.lt_of_le_of_lt (Nat.div_mul_le_self _ _) word.isLt

end Bits
