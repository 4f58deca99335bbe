import Mathlib.Data.Nat.Basic
import Mathlib.Order.Bounds.Basic
import Mathlib.Tactic.Ring

/-! A range of addresses, cut at the boundaries of equal pages. -/

namespace Pages

variable (page linear length : Nat)

/-- The first address of the range on the page number `k` that it touches. -/
def firstOf (k : Nat) : Nat := if k = 0 then linear else (linear / page + k) * page

/-- How many bytes of the range lie on that page. -/
def countOf (k : Nat) : Nat :=
  min (linear + length - firstOf page linear k) (page - firstOf page linear k % page)

/-- How many pages the range touches. -/
def touched : Nat := (linear + length - 1) / page - linear / page + 1

/-- The page of an address of the range. -/
def indexOf (address : Nat) : Nat := address / page - linear / page

variable {page linear length} (positive : 0 < page)

theorem firstOf_zero : firstOf page linear 0 = linear := rfl

theorem firstOf_of_pos {k : Nat} (later : 0 < k) :
    firstOf page linear k = (linear / page + k) * page :=
  if_neg (Nat.pos_iff_ne_zero.mp later)

include positive

theorem firstOf_succ (k : Nat) :
    firstOf page linear (k + 1) =
      firstOf page linear k + (page - firstOf page linear k % page) := by
  rw [firstOf_of_pos (Nat.succ_pos k), Nat.succ_eq_add_one]
  by_cases first : k = 0
  · subst first
    have division := Nat.div_add_mod linear page
    have left := Nat.mod_lt linear positive
    have next : (linear / page + (0 + 1)) * page = page * (linear / page) + page := by ring
    rw [firstOf_zero, next]
    omega
  · rw [firstOf_of_pos (Nat.pos_of_ne_zero first), Nat.mul_mod_left,
      Nat.sub_zero]
    ring

theorem firstOf_lt_succ (k : Nat) : firstOf page linear k < firstOf page linear (k + 1) := by
  have left := Nat.mod_lt (firstOf page linear k) positive
  rw [firstOf_succ positive]
  omega

theorem firstOf_mono {low high : Nat} (below : low ≤ high) :
    firstOf page linear low ≤ firstOf page linear high := by
  induction high with
  | zero => rw [Nat.le_zero.mp below]
  | succ high ih =>
    rcases Nat.of_le_succ below with earlier | same
    · exact (ih earlier).trans (firstOf_lt_succ positive high).le
    · rw [same]

theorem le_firstOf (k : Nat) : linear ≤ firstOf page linear k :=
  firstOf_mono positive (Nat.zero_le k)

/-- The page of an address is the one that the range enters at or before it and
leaves behind it. -/
theorem indexOf_eq_iff {k address : Nat} (inside : linear ≤ address) :
    indexOf page linear address = k ↔
      firstOf page linear k ≤ address ∧ address < firstOf page linear (k + 1) := by
  have lower := Nat.div_le_div_right (c := page) inside
  have order : firstOf page linear (k + 1) = (linear / page + k + 1) * page := by
    rw [firstOf_of_pos (Nat.succ_pos k)]
    rfl
  have after : address < firstOf page linear (k + 1) ↔ address / page < linear / page + k + 1 := by
    rw [order, Nat.div_lt_iff_lt_mul positive]
  have before : firstOf page linear k ≤ address ↔ linear / page + k ≤ address / page := by
    by_cases first : k = 0
    · subst first
      rw [firstOf_zero]
      exact ⟨fun _ => lower, fun _ => inside⟩
    · rw [firstOf_of_pos (Nat.pos_of_ne_zero first), Nat.le_div_iff_mul_le positive]
  rw [before, after, indexOf]
  omega

variable (nonempty : 0 < length)
include nonempty

theorem lt_touched_iff {k : Nat} :
    k < touched page linear length ↔ firstOf page linear k < linear + length := by
  have last : linear ≤ linear + length - 1 := by omega
  have index := @indexOf_eq_iff page linear positive
    (indexOf page linear (linear + length - 1)) (linear + length - 1) last
  obtain ⟨entered, left⟩ := index.mp rfl
  have count : touched page linear length = indexOf page linear (linear + length - 1) + 1 := rfl
  rw [count]
  constructor
  · intro here
    have mono := @firstOf_mono page linear positive k _ (Nat.lt_succ_iff.mp here)
    omega
  · intro here
    by_contra beyond
    have mono := @firstOf_mono page linear positive
      (indexOf page linear (linear + length - 1) + 1) k (by omega)
    omega

/-- The range goes on behind a page exactly when the page does not hold the rest
of it. -/
theorem countOf_step {k : Nat} (here : k < touched page linear length) :
    0 < countOf page linear length k ∧
      (countOf page linear length k = linear + length - firstOf page linear k →
        touched page linear length = k + 1) ∧
      (countOf page linear length k < linear + length - firstOf page linear k →
        firstOf page linear k + countOf page linear length k = firstOf page linear (k + 1) ∧
          k + 1 < touched page linear length) := by
  have entered := (lt_touched_iff positive nonempty).mp here
  have left := Nat.mod_lt (firstOf page linear k) positive
  have next := @firstOf_succ page linear positive k
  have further := @lt_touched_iff page linear length positive nonempty (k + 1)
  unfold countOf
  refine ⟨by omega, fun rest => ?_, fun more => ?_⟩
  · have stop : ¬k + 1 < touched page linear length := by
      rw [further]
      omega
    omega
  · refine ⟨by omega, ?_⟩
    rw [further]
    omega

omit nonempty in
theorem firstOf_add_countOf {k : Nat} (entered : firstOf page linear k < linear + length) :
    firstOf page linear k + countOf page linear length k =
      min (linear + length) (firstOf page linear (k + 1)) := by
  have left := Nat.mod_lt (firstOf page linear k) positive
  have next := @firstOf_succ page linear positive k
  unfold countOf
  omega

omit nonempty in
/-- The bytes that a page is counted for are the ones of the range on it. -/
theorem counted_iff {k address : Nat} (inside : linear ≤ address)
    (before : address < linear + length) :
    firstOf page linear k ≤ address ∧
        address < firstOf page linear k + countOf page linear length k ↔
      indexOf page linear address = k := by
  rw [indexOf_eq_iff positive inside]
  refine and_congr_right fun entered => ?_
  have count := @firstOf_add_countOf page linear length positive k (by omega)
  rw [count]
  omega

/-- A page that is touched is entered at the least address that the range has on
it. -/
theorem isLeast_firstOf {k : Nat} (here : k < touched page linear length) :
    IsLeast {address | linear ≤ address ∧ address < linear + length ∧
      indexOf page linear address = k} (firstOf page linear k) := by
  have entered := (lt_touched_iff positive nonempty).mp here
  have start := @le_firstOf page linear positive k
  refine ⟨⟨start, entered, ?_⟩, ?_⟩
  · exact (indexOf_eq_iff positive start).mpr ⟨le_rfl, firstOf_lt_succ positive k⟩
  · rintro address ⟨inside, -, index⟩
    exact ((indexOf_eq_iff positive inside).mp index).1

omit nonempty in
theorem indexOf_lt_touched {address : Nat} (inside : linear ≤ address)
    (before : address < linear + length) :
    indexOf page linear address < touched page linear length := by
  obtain ⟨entered, -⟩ := (indexOf_eq_iff positive inside).mp rfl
  exact (lt_touched_iff positive (by omega)).mpr (by omega)

end Pages

/-! A range of addresses, tiled by chunks that follow each other. -/

namespace Tiling

variable {α : Type} (start count : α → Nat)

/-- The chunks cover the addresses from `low` up to `high`, each beginning where
the one before it ends. -/
inductive Tiles : Nat → Nat → List α → Prop
  | done (low : Nat) : Tiles low low []
  | chunk {low high : Nat} {part : α} {parts : List α} : start part = low →
      Tiles (low + count part) high parts → Tiles low high (part :: parts)

/-- Whether a chunk holds an address. -/
def holds (address : Nat) (part : α) : Bool :=
  start part ≤ address && address < start part + count part

variable {start count}

theorem holds_iff {address : Nat} {part : α} :
    holds start count address part = true ↔
      start part ≤ address ∧ address < start part + count part := by
  rw [holds, Bool.and_eq_true, decide_eq_true_iff, decide_eq_true_iff]

theorem Tiles.le {low high : Nat} {parts : List α} (tiles : Tiles start count low high parts) :
    low ≤ high := by
  induction tiles with
  | done => exact le_rfl
  | chunk _ _ ih => omega

theorem Tiles.inside {low high : Nat} {parts : List α} (tiles : Tiles start count low high parts) :
    ∀ part ∈ parts, low ≤ start part ∧ start part + count part ≤ high := by
  induction tiles with
  | done => intro part member; contradiction
  | chunk here rest ih =>
    intro part member
    have further := rest.le
    rcases List.mem_cons.mp member with rfl | later
    · omega
    · have bounds := ih part later
      omega

/-- An address of the range lies in exactly one of the chunks. -/
theorem Tiles.once {low high : Nat} {parts : List α} (tiles : Tiles start count low high parts)
    {address : Nat} (above : low ≤ address) (below : address < high) :
    parts.countP (holds start count address) = 1 := by
  induction tiles with
  | done => omega
  | @chunk low high part parts here rest ih =>
    by_cases first : address < low + count part
    · have held : holds start count address part = true := holds_iff.mpr ⟨by omega, by omega⟩
      have unheld : parts.countP (holds start count address) = 0 := by
        refine List.countP_eq_zero.mpr fun later member held => ?_
        have bounds := rest.inside later member
        have within := holds_iff.mp held
        omega
      rw [List.countP_cons_of_pos held, unheld]
    · have passed : ¬holds start count address part = true := fun held => by
        have within := holds_iff.mp held
        omega
      rw [List.countP_cons_of_neg passed]
      exact ih (by omega) below

end Tiling
