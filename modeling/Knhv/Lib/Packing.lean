import Mathlib.Data.List.Basic
import Mathlib.Order.Monotone.Basic

/-! Parts that are laid out one behind the other, some of them from the next
multiple of a unit on. -/

namespace Packing

structure Part where
  size : Nat
  aligned : Bool

def roundUp (unit offset : Nat) : Nat := (offset + (unit - 1)) / unit * unit

variable (unit : Nat)

/-- Where a part begins that comes behind `offset`. -/
def startOf (part : Part) (offset : Nat) : Nat :=
  if part.aligned then roundUp unit offset else offset

def behind (part : Part) (offset : Nat) : Nat := startOf unit part offset + part.size

/-- The end of the whole layout. -/
def endOf : List Part → Nat → Nat
  | [], offset => offset
  | part :: parts, offset => endOf parts (behind unit part offset)

theorem endOf_append (first second : List Part) (offset : Nat) :
    endOf unit (first ++ second) offset = endOf unit second (endOf unit first offset) := by
  induction first generalizing offset with
  | nil => rfl
  | cons part parts ih => exact ih (behind unit part offset)

theorem roundUp_mono {low high : Nat} (below : low ≤ high) :
    roundUp unit low ≤ roundUp unit high :=
  Nat.mul_le_mul_right unit (Nat.div_le_div_right (Nat.add_le_add_right below _))

theorem startOf_mono (part : Part) : Monotone (startOf unit part) := by
  intro low high below
  unfold startOf
  split
  · exact roundUp_mono unit below
  · exact below

theorem behind_mono (part : Part) : Monotone (behind unit part) := fun _ _ below =>
  Nat.add_le_add_right (startOf_mono unit part below) part.size

theorem endOf_mono (parts : List Part) : Monotone (endOf unit parts) := by
  induction parts with
  | nil => exact fun _ _ below => below
  | cons part parts ih => exact fun _ _ below => ih (behind_mono unit part below)

section Positive

variable {unit} (positive : 0 < unit)
include positive

theorem le_roundUp (offset : Nat) : offset ≤ roundUp unit offset := by
  have division := Nat.div_add_mod (offset + (unit - 1)) unit
  have left := Nat.mod_lt (offset + (unit - 1)) positive
  rw [Nat.mul_comm] at division
  unfold roundUp
  omega

/-- Rounding up stops at the first multiple. -/
theorem roundUp_lt (offset : Nat) : roundUp unit offset < offset + unit := by
  have division := Nat.div_mul_le_self (offset + (unit - 1)) unit
  unfold roundUp
  omega

theorem le_startOf (part : Part) (offset : Nat) : offset ≤ startOf unit part offset := by
  unfold startOf
  split
  · exact le_roundUp positive offset
  · exact le_rfl

theorem le_behind (part : Part) (offset : Nat) : offset ≤ behind unit part offset :=
  (le_startOf positive part offset).trans (Nat.le_add_right _ _)

theorem le_endOf (parts : List Part) (offset : Nat) : offset ≤ endOf unit parts offset := by
  induction parts generalizing offset with
  | nil => exact le_rfl
  | cons part parts ih => exact (le_behind positive part offset).trans (ih _)

/-- Leaving parts out of the middle never moves the end up: what follows starts
no later than before, and rounding keeps that order. -/
theorem endOf_sublist {some all : List Part} (sublist : some.Sublist all) (offset : Nat) :
    endOf unit some offset ≤ endOf unit all offset := by
  induction sublist generalizing offset with
  | slnil => exact le_rfl
  | @cons some all part _ ih =>
    exact (ih offset).trans (endOf_mono unit all (le_behind positive part offset))
  | @cons_cons some all part _ ih => exact ih (behind unit part offset)

end Positive

end Packing
