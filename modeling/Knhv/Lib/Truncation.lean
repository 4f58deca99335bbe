import Mathlib.Algebra.Order.Field.Rat
import Mathlib.Tactic.Ring
import Mathlib.Tactic.Linarith
import Mathlib.Tactic.FieldSimp
import Mathlib.Tactic.Positivity
import Mathlib.Algebra.Order.Field.Basic

/-! A ratio `rise / run` is kept as a whole number of parts of `1 / unit`, cut
off, and multiplied back. -/

namespace Truncation

/-- The number of parts that is kept. -/
def scale (unit rise run : Nat) : Nat := rise * unit / run

/-- What the kept ratio makes of a distance, cut off once more. -/
def advance (unit rise run distance : Nat) : Nat := distance * scale unit rise run / unit

variable {unit rise run distance : Nat}

/-- Cutting off never overtakes the exact ratio. -/
theorem advance_mul_le (positive : 0 < unit) :
    advance unit rise run distance * run ≤ distance * rise := by
  have kept : scale unit rise run * run ≤ rise * unit := Nat.div_mul_le_self _ _
  have moved : advance unit rise run distance * unit ≤ distance * scale unit rise run :=
    Nat.div_mul_le_self _ _
  refine Nat.le_of_mul_le_mul_right ?_ positive
  calc advance unit rise run distance * run * unit
      = advance unit rise run distance * unit * run := Nat.mul_right_comm _ _ _
    _ ≤ distance * scale unit rise run * run := Nat.mul_le_mul_right _ moved
    _ = distance * (scale unit rise run * run) := Nat.mul_assoc _ _ _
    _ ≤ distance * (rise * unit) := Nat.mul_le_mul_left _ kept
    _ = distance * rise * unit := (Nat.mul_assoc _ _ _).symm

/-- The two cuts lose less than one unit each, the first one once for every
unit of the distance. -/
theorem lt_advance_mul (positive : 0 < unit) (runs : 0 < run) :
    distance * rise * unit <
      advance unit rise run distance * run * unit + distance * run + run * unit := by
  have kept : rise * unit ≤ scale unit rise run * run + run := by
    have step := Nat.lt_div_mul_add (a := rise * unit) runs
    rw [scale]
    omega
  have moved : distance * scale unit rise run <
      advance unit rise run distance * unit + unit := Nat.lt_div_mul_add positive
  calc distance * rise * unit
      = distance * (rise * unit) := Nat.mul_assoc _ _ _
    _ ≤ distance * (scale unit rise run * run + run) := Nat.mul_le_mul_left _ kept
    _ = distance * scale unit rise run * run + distance * run := by ring
    _ < (advance unit rise run distance * unit + unit) * run + distance * run :=
        Nat.add_lt_add_right (Nat.mul_lt_mul_of_pos_right moved runs) _
    _ = advance unit rise run distance * run * unit + distance * run + run * unit := by ring

/-- On the way to the end of the run, the advance stays below the rise. -/
theorem advance_le (rise : Nat) (positive : 0 < unit) (runs : 0 < run) (within : distance ≤ run) :
    advance unit rise run distance ≤ rise := by
  refine Nat.le_of_mul_le_mul_right ?_ runs
  calc advance unit rise run distance * run
      ≤ distance * rise := advance_mul_le positive
    _ ≤ run * rise := Nat.mul_le_mul_right _ within
    _ = rise * run := Nat.mul_comm _ _

theorem advance_le_exact (positive : 0 < unit) (runs : 0 < run) :
    (advance unit rise run distance : ℚ) ≤ distance * (rise / run) := by
  have bound : ((advance unit rise run distance * run : Nat) : ℚ) ≤ ((distance * rise : Nat) : ℚ) :=
    Nat.cast_le.mpr (advance_mul_le positive)
  have runsQ : (0 : ℚ) < run := Nat.cast_pos.mpr runs
  rw [← mul_div_assoc, le_div_iff₀ runsQ]
  exact_mod_cast bound

theorem exact_sub_advance_lt (rise distance : Nat) (positive : 0 < unit) (runs : 0 < run) :
    (distance * (rise / run) : ℚ) - advance unit rise run distance < distance / unit + 1 := by
  have bound : ((distance * rise * unit : Nat) : ℚ) <
      ((advance unit rise run distance * run * unit + distance * run + run * unit : Nat) : ℚ) :=
    Nat.cast_lt.mpr (lt_advance_mul positive runs)
  have runsQ : (0 : ℚ) < run := Nat.cast_pos.mpr runs
  have unitQ : (0 : ℚ) < unit := Nat.cast_pos.mpr positive
  push_cast at bound
  rw [sub_lt_iff_lt_add, ← mul_div_assoc, div_lt_iff₀ runsQ]
  refine lt_of_mul_lt_mul_right ?_ unitQ.le
  calc (distance * rise * unit : ℚ)
      < advance unit rise run distance * run * unit + distance * run + run * unit := bound
    _ = (distance / unit + 1 + advance unit rise run distance) * run * unit := by
        field_simp
        ring

end Truncation
