import Mathlib.Data.Nat.Basic

/-- A range of addresses that is moved as a whole to another place. -/
structure Segment where
  base : Nat
  target : Nat
  length : Nat

namespace Segment

def Covers (segment : Segment) (address : Nat) : Prop :=
  segment.base ≤ address ∧ address < segment.base + segment.length

def move (segment : Segment) (address : Nat) : Nat := segment.target + (address - segment.base)

/-- Two moves, one after the other. -/
structure Through (first second : Segment) (address : Nat) : Prop where
  inFirst : first.Covers address
  inSecond : second.Covers (first.move address)

theorem move_lt {segment : Segment} {address : Nat} (covers : segment.Covers address) :
    segment.move address < segment.target + segment.length := by
  unfold Covers at covers
  unfold move
  omega

theorem move_injective {segment : Segment} {first second : Nat} (inFirst : segment.Covers first)
    (inSecond : segment.Covers second) (same : segment.move first = segment.move second) :
    first = second := by
  unfold Covers at inFirst inSecond
  unfold move at same
  omega

theorem Through.injective {first second : Segment} {left right : Nat}
    (leftThrough : Through first second left) (rightThrough : Through first second right)
    (same : second.move (first.move left) = second.move (first.move right)) : left = right :=
  move_injective leftThrough.inFirst rightThrough.inFirst
    (move_injective leftThrough.inSecond rightThrough.inSecond same)

end Segment
