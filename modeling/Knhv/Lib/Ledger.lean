import Mathlib.Data.List.InsertIdx
import Mathlib.Data.List.Perm.Basic

universe u

/-- The books of a queue: everything it was given, in order, where the place of
an entry is its ticket; the tickets that wait, in the order of the queue; and
the tickets that were taken out, in the order of the removals. -/
structure Ledger (α : Type u) where
  issued : List α
  waiting : List Nat
  taken : List Nat

namespace Ledger

variable {α : Type u}

def empty : Ledger α := ⟨[], [], []⟩

def accept (ledger : Ledger α) (entries : List α) : Ledger α where
  issued := ledger.issued ++ entries
  waiting := ledger.waiting ++ List.range' ledger.issued.length entries.length
  taken := ledger.taken

def remove (ledger : Ledger α) (place : Nat) : Ledger α where
  issued := ledger.issued
  waiting := ledger.waiting.eraseIdx place
  taken := ledger.taken ++ ledger.waiting[place]?.toList

/-- The books agree with the contents of a queue: the tickets that wait stand
for its entries in order, and every ticket waits once or was taken once. -/
structure Balanced (ledger : Ledger α) (contents : List α) : Prop where
  shown : contents.map some = ledger.waiting.map (ledger.issued[·]?)
  once : (ledger.waiting ++ ledger.taken).Perm (List.range ledger.issued.length)

theorem balanced_empty : (empty : Ledger α).Balanced [] := ⟨rfl, List.Perm.refl _⟩

variable {ledger : Ledger α} {contents : List α}

theorem Balanced.length_eq (balanced : ledger.Balanced contents) :
    contents.length = ledger.waiting.length := by
  have lengths := congrArg List.length balanced.shown
  simpa only [List.length_map] using lengths

theorem Balanced.waiting_lt (balanced : ledger.Balanced contents) {ticket : Nat}
    (member : ticket ∈ ledger.waiting) : ticket < ledger.issued.length := by
  have inside := balanced.once.mem_iff.mp (List.mem_append_left _ member)
  exact List.mem_range.mp inside

theorem Balanced.accept (balanced : ledger.Balanced contents) (entries : List α) :
    (ledger.accept entries).Balanced (contents ++ entries) := by
  refine ⟨?_, ?_⟩
  · have old : ledger.waiting.map ((ledger.issued ++ entries)[·]?) =
        ledger.waiting.map (ledger.issued[·]?) := by
      refine List.map_congr_left fun ticket member => ?_
      exact List.getElem?_append_left (balanced.waiting_lt member)
    have new : (List.range' ledger.issued.length entries.length).map
        ((ledger.issued ++ entries)[·]?) = entries.map some := by
      refine List.ext_getElem? fun place => ?_
      rw [List.getElem?_map, List.getElem?_map]
      by_cases inside : place < entries.length
      · rw [List.getElem?_range' inside, Option.map_some,
          List.getElem?_append_right (by omega), List.getElem?_eq_getElem inside]
        simp [inside]
      · rw [List.getElem?_eq_none (by simp; omega), List.getElem?_eq_none (by omega)]
        rfl
    simp only [Ledger.accept, List.map_append, old, new, balanced.shown]
  · have total : (ledger.issued ++ entries).length = ledger.issued.length + entries.length :=
      List.length_append
    simp only [Ledger.accept, total, List.range_add]
    rw [← List.range'_eq_map_range, List.append_assoc]
    have swapped : (List.range' ledger.issued.length entries.length ++ ledger.taken).Perm
        (ledger.taken ++ List.range' ledger.issued.length entries.length) :=
      List.perm_append_comm
    refine (swapped.append_left ledger.waiting).trans ?_
    rw [← List.append_assoc]
    exact balanced.once.append_right _

theorem Balanced.remove (balanced : ledger.Balanced contents) {place : Nat}
    (inside : place < contents.length) :
    (ledger.remove place).Balanced (contents.eraseIdx place) := by
  have waits : place < ledger.waiting.length := by
    rw [← balanced.length_eq]
    exact inside
  refine ⟨?_, ?_⟩
  · simp only [Ledger.remove]
    rw [← List.eraseIdx_map, ← List.eraseIdx_map, balanced.shown]
  · simp only [Ledger.remove, List.getElem?_eq_getElem waits, Option.toList_some]
    rw [← List.append_assoc]
    refine List.Perm.trans ?_ balanced.once
    refine (List.perm_append_singleton _ _).trans ?_
    rw [← List.cons_append]
    exact (List.getElem_cons_eraseIdx_perm waits).append_right _

end Ledger
