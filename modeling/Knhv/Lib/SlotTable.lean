import Mathlib.Data.Fintype.Card

universe u v w

namespace SlotTable

variable {ι : Type u} {α : Type v} {κ : Type w}

/-- A table of slots in which no two used entries have the same key. -/
def KeysDistinct (used : α → Prop) (key : α → κ) (table : ι → α) : Prop :=
  ∀ first second, used (table first) → used (table second) →
    key (table first) = key (table second) → first = second

theorem KeysDistinct.congr {used : α → Prop} {key : α → κ} {table after : ι → α}
    (distinct : KeysDistinct used key table)
    (sameUsed : ∀ slot, used (after slot) ↔ used (table slot))
    (sameKey : ∀ slot, key (after slot) = key (table slot)) : KeysDistinct used key after := by
  intro first second usedFirst usedSecond same
  rw [sameKey first, sameKey second] at same
  exact distinct first second ((sameUsed first).mp usedFirst) ((sameUsed second).mp usedSecond) same

/-- Storing an entry whose key no used slot has, over any slot. -/
theorem KeysDistinct.update [DecidableEq ι] {used : α → Prop} {key : α → κ} {table : ι → α}
    {slot : ι} {entry : α}
    (distinct : KeysDistinct used key table)
    (absent : ∀ other, used (table other) → key (table other) ≠ key entry) :
    KeysDistinct used key (Function.update table slot entry) := by
  intro first second usedFirst usedSecond same
  by_cases atFirst : first = slot
  · by_cases atSecond : second = slot
    · exact atFirst.trans atSecond.symm
    · rw [Function.update_of_ne atSecond] at usedSecond same
      rw [atFirst, Function.update_self] at same
      exact absurd same.symm (absent second usedSecond)
  · rw [Function.update_of_ne atFirst] at usedFirst same
    by_cases atSecond : second = slot
    · rw [atSecond, Function.update_self] at same
      exact absurd same (absent first usedFirst)
    · rw [Function.update_of_ne atSecond] at usedSecond same
      exact distinct first second usedFirst usedSecond same

/-- Storing an entry that is not in use. -/
theorem KeysDistinct.release [DecidableEq ι] {used : α → Prop} {key : α → κ} {table : ι → α}
    {slot : ι} {entry : α} (distinct : KeysDistinct used key table) (unused : ¬used entry) :
    KeysDistinct used key (Function.update table slot entry) := by
  have elsewhere {other : ι} (usedOther : used (Function.update table slot entry other)) :
      other ≠ slot := by
    rintro rfl
    rw [Function.update_self] at usedOther
    exact unused usedOther
  intro first second usedFirst usedSecond same
  have notFirst := elsewhere usedFirst
  have notSecond := elsewhere usedSecond
  rw [Function.update_of_ne notFirst] at usedFirst same
  rw [Function.update_of_ne notSecond] at usedSecond same
  exact distinct first second usedFirst usedSecond same

/-- Storing an entry over a used one with the same key. -/
theorem KeysDistinct.replace [DecidableEq ι] {used : α → Prop} {key : α → κ} {table : ι → α}
    {slot : ι} {entry : α} (distinct : KeysDistinct used key table) (usedEntry : used entry)
    (usedSlot : used (table slot)) (sameKey : key entry = key (table slot)) :
    KeysDistinct used key (Function.update table slot entry) := by
  refine distinct.congr (fun other => ?_) (fun other => ?_)
  · by_cases same : other = slot
    · subst same
      rw [Function.update_self]
      exact iff_of_true usedEntry usedSlot
    · rw [Function.update_of_ne same]
  · by_cases same : other = slot
    · subst same
      rw [Function.update_self]
      exact sameKey
    · rw [Function.update_of_ne same]

variable [Fintype ι]

/-- How many slots are in use. -/
def countUsed (used : α → Prop) [DecidablePred used] (table : ι → α) : Nat :=
  (Finset.univ.filter fun slot => used (table slot)).card

theorem countUsed_le (used : α → Prop) [DecidablePred used] (table : ι → α) :
    countUsed used table ≤ Fintype.card ι :=
  Finset.card_le_univ _

theorem countUsed_congr {used : α → Prop} [DecidablePred used] {table after : ι → α}
    (same : ∀ slot, used (after slot) ↔ used (table slot)) :
    countUsed used after = countUsed used table := by
  unfold countUsed
  simp only [same]

theorem countUsed_eq_zero {used : α → Prop} [DecidablePred used] {table : ι → α}
    (free : ∀ slot, ¬used (table slot)) : countUsed used table = 0 :=
  Finset.card_eq_zero.mpr (Finset.filter_false_of_mem fun slot _ => free slot)

/-- Filling a free slot. -/
theorem countUsed_update_of_free [DecidableEq ι] {used : α → Prop} [DecidablePred used]
    {table : ι → α} {slot : ι} {entry : α} (free : ¬used (table slot)) (usedEntry : used entry) :
    countUsed used (Function.update table slot entry) = countUsed used table + 1 := by
  unfold countUsed
  have grown : (Finset.univ.filter fun other => used (Function.update table slot entry other)) =
      insert slot (Finset.univ.filter fun other => used (table other)) := by
    ext other
    by_cases same : other = slot
    · subst same
      simp [usedEntry]
    · simp [same]
  rw [grown, Finset.card_insert_of_notMem (by simp [free])]

/-- Emptying a used slot. -/
theorem countUsed_update_of_used [DecidableEq ι] {used : α → Prop} [DecidablePred used]
    {table : ι → α} {slot : ι} {entry : α} (usedSlot : used (table slot)) (unused : ¬used entry) :
    countUsed used (Function.update table slot entry) + 1 = countUsed used table := by
  have free : ¬used (Function.update table slot entry slot) := by
    rw [Function.update_self]
    exact unused
  have refilled := countUsed_update_of_free free usedSlot
  rw [Function.update_idem, Function.update_eq_self] at refilled
  exact refilled.symm

end SlotTable
