import Mathlib.Data.List.OfFn
import Mathlib.Data.List.FinRange
import Mathlib.Logic.Equiv.Defs

universe u v

namespace ArrayQueue

variable {α : Type u} {n : Nat}

/-- The entries of a queue that is kept as a dense prefix of a table. -/
def contents (table : Fin n → α) (count : Nat) : List α := (List.ofFn table).take count

/-- The assignment to one place of the table. -/
def store (table : Fin n → α) (place : Nat) (x : α) : Fin n → α := fun slot =>
  if slot.val = place then x else table slot

/-- The loop that moves every entry after `index` one place down. -/
def shiftDown (table : Fin n → α) (index count : Nat) : Fin n → α := fun slot =>
  if later : index ≤ slot.val ∧ slot.val + 1 < count ∧ slot.val + 1 < n then
    table ⟨slot.val + 1, later.2.2⟩
  else table slot

/-- The slot at which a loop over the used entries stops. -/
def findSlot (table : Fin n → α) (count : Nat) (p : α → Bool) : Option (Fin n) :=
  (List.finRange n).find? fun slot => slot.val < count && p (table slot)

theorem length_contents (table : Fin n → α) {count : Nat} (fits : count ≤ n) :
    (contents table count).length = count := by
  simp only [contents, List.length_take, List.length_ofFn]
  omega

theorem getElem?_contents (table : Fin n → α) {count place : Nat} (used : place < count)
    (inside : place < n) : (contents table count)[place]? = some (table ⟨place, inside⟩) := by
  rw [contents, List.getElem?_take_of_lt used, List.getElem?_ofFn, dif_pos inside]

theorem getElem?_contents_none (table : Fin n → α) {count place : Nat} (unused : count ≤ place) :
    (contents table count)[place]? = none := by
  rw [List.getElem?_eq_none_iff, contents, List.length_take]
  omega

theorem mem_contents {table : Fin n → α} {count : Nat} {x : α} :
    x ∈ contents table count ↔ ∃ slot : Fin n, slot.val < count ∧ table slot = x := by
  constructor
  · intro member
    obtain ⟨place, here⟩ := List.mem_iff_getElem?.mp member
    by_cases used : place < count
    · by_cases inside : place < n
      · rw [getElem?_contents table used inside] at here
        exact ⟨⟨place, inside⟩, used, Option.some.inj here⟩
      · rw [contents, List.getElem?_take_of_lt used, List.getElem?_ofFn, dif_neg inside] at here
        cases here
    · rw [getElem?_contents_none table (by omega)] at here
      cases here
  · rintro ⟨slot, used, rfl⟩
    exact List.mem_iff_getElem?.mpr ⟨slot.val, getElem?_contents table used slot.isLt⟩

theorem nodup_map_contents_iff {κ : Type v} {table : Fin n → α} {count : Nat} (fits : count ≤ n)
    {key : α → κ} :
    ((contents table count).map key).Nodup ↔
      ∀ first second : Fin n, first < second → second.val < count →
        key (table first) ≠ key (table second) := by
  rw [List.Nodup, List.pairwise_map, List.pairwise_iff_getElem]
  have length := length_contents table fits
  have entry (place : Nat) (used : place < (contents table count).length) :
      (contents table count)[place] = table ⟨place, by omega⟩ := by
    have here := getElem?_contents table (by omega : place < count) (by omega)
    rw [List.getElem?_eq_getElem used] at here
    exact Option.some.inj here
  constructor
  · intro distinct first second before used
    have apart := distinct first.val second.val (by omega) (by omega) before
    rwa [entry, entry] at apart
  · intro distinct i j usedI usedJ before
    rw [entry i usedI, entry j usedJ]
    exact distinct _ _ before (by simp; omega)

theorem contents_eq_map (table : Fin n → α) (count : Nat) :
    contents table count = (contents id count).map table := by
  rw [contents, contents, List.map_take, List.map_ofFn]
  rfl

/-- Moving the entries among the used places. -/
theorem contents_shuffle (table : Fin n → α) {count : Nat} (shuffle : Equiv.Perm (Fin n))
    (keeps : ∀ slot : Fin n, count ≤ slot.val → shuffle slot = slot) :
    (contents (table ∘ shuffle) count).Perm (contents table count) := by
  have used (slot : Fin n) : slot ∈ contents id count ↔ slot.val < count := by
    rw [mem_contents]
    exact ⟨fun ⟨_, inside, same⟩ => same ▸ inside, fun inside => ⟨slot, inside, rfl⟩⟩
  have nodup : (contents (id : Fin n → Fin n) count).Nodup :=
    (List.nodup_ofFn.mpr Function.injective_id).sublist (List.take_sublist _ _)
  have places : ((contents id count).map shuffle).Perm (contents id count) := by
    refine (List.perm_ext_iff_of_nodup (nodup.map shuffle.injective) nodup).mpr fun slot => ?_
    rw [List.mem_map, used]
    constructor
    · rintro ⟨source, member, rfl⟩
      by_contra outside
      have fixed := shuffle.injective (keeps (shuffle source) (by omega))
      rw [fixed] at outside
      exact outside ((used source).mp member)
    · intro inside
      refine ⟨shuffle.symm slot, (used _).mpr ?_, shuffle.apply_symm_apply slot⟩
      by_contra outside
      have fixed := keeps (shuffle.symm slot) (by omega)
      rw [shuffle.apply_symm_apply] at fixed
      rw [← fixed] at outside
      exact outside inside
  rw [contents_eq_map, contents_eq_map table, ← List.map_map]
  exact places.map table

/-- Storing an entry behind the last one. -/
theorem contents_push (table : Fin n → α) {count : Nat} (room : count < n) (x : α) :
    contents (store table count x) (count + 1) = contents table count ++ [x] := by
  have length := length_contents table (Nat.le_of_lt room)
  refine List.ext_getElem? fun place => ?_
  rcases Nat.lt_trichotomy place count with before | here | after
  · rw [List.getElem?_append_left (by omega), getElem?_contents _ (by omega) (by omega),
      getElem?_contents _ before (by omega), store, if_neg (by simp; omega)]
  · rw [List.getElem?_append_right (by omega), length, getElem?_contents _ (by omega) (by omega),
      store, if_pos here, here, Nat.sub_self]
    rfl
  · rw [getElem?_contents_none _ (by omega), List.getElem?_append_right (by omega), length]
    symm
    rw [List.getElem?_eq_none_iff, List.length_singleton]
    omega

/-- Taking one entry out and closing the gap. -/
theorem contents_remove (table : Fin n → α) {index last : Nat} (room : last < n)
    (order : index ≤ last) (x : α) :
    contents (store (shiftDown table index (last + 1)) last x) last =
      (contents table (last + 1)).eraseIdx index := by
  refine List.ext_getElem? fun place => ?_
  rw [List.getElem?_eraseIdx]
  rcases Nat.lt_or_ge place last with used | unused
  · rw [getElem?_contents _ used (by omega), store, if_neg (by simp; omega), shiftDown]
    by_cases before : place < index
    · rw [if_pos before, getElem?_contents _ (by omega) (by omega), dif_neg (by simp; omega)]
    · rw [if_neg before, getElem?_contents _ (by omega) (by omega),
        dif_pos (by simp; omega)]
  · rw [getElem?_contents_none _ unused, if_neg (by omega), getElem?_contents_none _ (by omega)]

theorem findSlot_some {table : Fin n → α} {count : Nat} {p : α → Bool} {slot : Fin n}
    (found : findSlot table count p = some slot) : slot.val < count ∧ p (table slot) = true := by
  have holds := List.find?_some found
  simpa only [Bool.and_eq_true, decide_eq_true_eq] using holds

theorem findSlot_isSome_iff {table : Fin n → α} {count : Nat} {p : α → Bool} :
    (findSlot table count p).isSome = true ↔ ∃ x ∈ contents table count, p x = true := by
  rw [findSlot, List.find?_isSome]
  constructor
  · rintro ⟨slot, _, holds⟩
    simp only [Bool.and_eq_true, decide_eq_true_eq] at holds
    exact ⟨table slot, mem_contents.mpr ⟨slot, holds.1, rfl⟩, holds.2⟩
  · rintro ⟨x, member, holds⟩
    obtain ⟨slot, used, rfl⟩ := mem_contents.mp member
    exact ⟨slot, List.mem_finRange slot, by simp [used, holds]⟩

end ArrayQueue
