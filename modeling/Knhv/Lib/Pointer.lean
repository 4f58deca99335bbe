import Mathlib.Data.List.GetD
import Mathlib.Data.List.Range
import Mathlib.Data.Nat.Notation

universe u

/-- Cells one behind the other. -/
structure Span where
  start : Nat
  length : Nat

def Span.stop (span : Span) : Nat := span.start + span.length

theorem Span.stop_mk {start length : Nat} : (Span.mk start length).stop = start + length := rfl

/-- A pointer of a caller: what is behind it, without an end, and the cells that
have been accessed through it. -/
structure Pointer (α : Type u) where
  isNull : Bool
  cells : Nat → α
  accesses : List Span

namespace Pointer

variable {α : Type u}

def load (cells : Nat → α) (span : Span) : List α :=
  (List.range span.length).map fun index => cells (span.start + index)

def store (cells : Nat → α) (start : Nat) (values : List α) : Nat → α := fun index =>
  if index < start then cells index else values.getD (index - start) (cells index)

def read (pointer : Pointer α) (span : Span) : List α × Pointer α :=
  (load pointer.cells span, { pointer with accesses := span :: pointer.accesses })

def write (pointer : Pointer α) (start : Nat) (values : List α) : Pointer α where
  isNull := pointer.isNull
  cells := store pointer.cells start values
  accesses := ⟨start, values.length⟩ :: pointer.accesses

/-- Whatever has been accessed is there, below the size. -/
def Within (pointer : Pointer α) (size : Nat) : Prop :=
  ∀ span ∈ pointer.accesses, pointer.isNull = false ∧ span.stop ≤ size

@[simp] theorem length_load {cells : Nat → α} {span : Span} :
    (load cells span).length = span.length := by
  rw [load, List.length_map, List.length_range]

theorem getElem?_load {cells : Nat → α} {span : Span} {index : Nat}
    (inside : index < span.length) :
    (load cells span)[index]? = some (cells (span.start + index)) := by
  rw [load, List.getElem?_map, List.getElem?_range inside, Option.map_some]

/-- The cells of a span are read out of those of a span around it. -/
theorem load_within {cells : Nat → α} {start length size : Nat} (inside : start + length ≤ size) :
    load cells ⟨start, length⟩ = ((load cells ⟨0, size⟩).drop start).take length := by
  apply List.ext_getElem?
  intro index
  by_cases below : index < length
  · have within : start + index < size := by omega
    rw [getElem?_load below, List.getElem?_take_of_lt below, List.getElem?_drop,
      getElem?_load within, Nat.zero_add]
  · have beyond : (load cells ⟨start, length⟩).length ≤ index := length_load.trans_le (Nat.not_lt.mp below)
    rw [List.getElem?_eq_none beyond, List.getElem?_eq_none (by rw [List.length_take]; omega)]

@[simp] theorem store_nil {cells : Nat → α} {start : Nat} : store cells start [] = cells := by
  funext index
  rw [store, List.getD_nil, ite_self]

/-- What is stored in front is found up to its length, and behind it what was
there. -/
theorem store_front {cells : Nat → α} {values : List α} {index : Nat} :
    store cells 0 values index = values.getD index (cells index) := by
  rw [store, if_neg (Nat.not_lt_zero index), Nat.sub_zero]

theorem store_behind {cells : Nat → α} {values : List α} {index : Nat}
    (behind : values.length ≤ index) : store cells 0 values index = cells index := by
  rw [store_front, List.getD_eq_default _ _ behind]

theorem store_replicate {cells : Nat → α} {count index : Nat} {value : α} :
    store cells 0 (List.replicate count value) index =
      if index < count then value else cells index := by
  split
  · rename_i below
    rw [store_front, List.getD_replicate _ below]
  · rename_i behind
    exact store_behind (by rw [List.length_replicate]; omega)

/-- Where what is stored has room it is read back, with what was there behind it. -/
theorem load_store {cells : Nat → α} {values : List α} {size : Nat} (room : values.length ≤ size) :
    load (store cells 0 values) ⟨0, size⟩ =
      values ++ (load cells ⟨0, size⟩).drop values.length := by
  apply List.ext_getElem?
  intro index
  by_cases inside : index < values.length
  · rw [getElem?_load (by exact inside.trans_le room), Nat.zero_add, store_front,
      List.getElem?_append_left inside, List.getD_eq_getElem _ _ inside,
      List.getElem?_eq_getElem inside]
  have behind : values.length ≤ index := Nat.not_lt.mp inside
  have back : values.length + (index - values.length) = index := by omega
  rw [List.getElem?_append_right behind, List.getElem?_drop, back]
  by_cases below : index < size
  · rw [getElem?_load below, getElem?_load below, Nat.zero_add, store_behind behind]
  · have beyond : size ≤ index := Nat.not_lt.mp below
    rw [List.getElem?_eq_none (length_load.trans_le beyond),
      List.getElem?_eq_none (length_load.trans_le beyond)]

theorem load_store_whole {cells : Nat → α} {values : List α} {size : Nat}
    (whole : values.length = size) : load (store cells 0 values) ⟨0, size⟩ = values := by
  have nothing : (load cells ⟨0, size⟩).drop values.length = [] :=
    List.drop_eq_nil_iff.mpr (length_load.trans_le whole.ge)
  rw [load_store whole.le, nothing, List.append_nil]

theorem Within.read {pointer : Pointer α} {size : Nat} {span : Span}
    (within : pointer.Within size) (there : pointer.isNull = false) (inside : span.stop ≤ size) :
    (pointer.read span).2.Within size := by
  exact List.forall_mem_cons.mpr ⟨⟨there, inside⟩, within⟩

theorem Within.write {pointer : Pointer α} {size start : Nat} {values : List α}
    (within : pointer.Within size) (there : pointer.isNull = false)
    (inside : start + values.length ≤ size) : (pointer.write start values).Within size :=
  List.forall_mem_cons.mpr ⟨⟨there, inside⟩, within⟩

end Pointer
