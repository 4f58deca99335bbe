import Mathlib.Algebra.Group.Nat.Defs
import Knhv.Abi
import Knhv.Lib.Checked

/-! What the two mapping contracts share: the same span of pages, and the same
test of an address against a width. -/

namespace Knhv.Paging

/-- The bytes of a page and of the whole mapping. -/
def spanOf (pageShift : U32) (maxMappingPages : U64) (pageCount : U64) (pageOrder : U32) :
    Option (U64 × U64) :=
  if pageCount == 0 || maxMappingPages < pageCount || 2 < pageOrder then none
  else
    let pageSize := 1#64 <<< (pageShift + pageOrder * 9).toNat
    if ~~~0 / pageSize < pageCount then none
    else
      let spanBytes := pageCount * pageSize
      if spanBytes != 0 then some (pageSize, spanBytes) else none

/-- A physical address fits the width. -/
def fitsWidth (address : U64) (bits : U32) : Bool := address >>> bits.toNat == 0

theorem fitsWidth_iff {address : U64} {bits : U32} :
    fitsWidth address bits = true ↔ address.toNat < 2 ^ bits.toNat := by
  rw [fitsWidth, beq_iff_eq, BitVec.toNat_eq, BitVec.toNat_ushiftRight, Nat.shiftRight_eq_div_pow]
  have positive : 0 < 2 ^ bits.toNat := Nat.pow_pos (by decide)
  exact Nat.div_eq_zero_iff_lt positive

theorem spanOf_ne_zero {pageShift : U32} {maxMappingPages pageCount : U64} {pageOrder : U32}
    {pageSize spanBytes : U64}
    (span : spanOf pageShift maxMappingPages pageCount pageOrder = some (pageSize, spanBytes)) :
    spanBytes ≠ 0 := by
  unfold spanOf at span
  dsimp only at span
  split at span
  · cases span
  split at span
  · cases span
  split at span
  · rename_i nonzero
    cases span
    simpa using nonzero
  · cases span

/-- An offset below the span, compared after the subtraction, is an address
inside the range. -/
theorem offset_lt_iff {base spanBytes address : U64} :
    (if address < base then false else decide (address - base < spanBytes)) = true ↔
      base.toNat ≤ address.toNat ∧ address.toNat < base.toNat + spanBytes.toNat := by
  split
  · rename_i below
    rw [BitVec.lt_def] at below
    simp only [Bool.false_eq_true, false_iff]
    omega
  · rename_i above
    rw [BitVec.lt_def, Nat.not_lt] at above
    rw [decide_eq_true_eq, BitVec.lt_def, BitVec.toNat_sub_of_le above]
    omega

/-- A range whose last address is computed without overflow and fits the width
ends inside the width. -/
theorem range_le {base spanBytes last : U64} {bits : U32} (nonzero : spanBytes ≠ 0)
    (sum : Checked.add base (spanBytes - 1) = some last)
    (fits : fitsWidth last bits = true) :
    base.toNat + spanBytes.toNat ≤ 2 ^ bits.toNat := by
  have total := Checked.add_eq_some_iff.mp sum
  rw [fitsWidth_iff] at fits
  have positive : 1 ≤ spanBytes.toNat := by
    by_contra none
    exact nonzero (BitVec.eq_of_toNat_eq (by simp; omega))
  have one : (1 : U64).toNat = 1 := rfl
  rw [BitVec.toNat_sub_of_le (by rw [BitVec.le_def, one]; exact positive), one] at total
  omega

end Knhv.Paging
