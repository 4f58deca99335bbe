import Mathlib.Data.List.Nodup
import Mathlib.Logic.Function.Basic

/-! Straight-line listings of instructions, and register files that are spilled
into memory and loaded back. -/

universe u v w

namespace Listing

/-- A check of a table, entry by entry. -/
theorem forall_of_all {α : Type u} {entries : List α} {P : α → Prop} [DecidablePred P]
    (all : entries.all (fun entry => decide (P entry)) = true) : ∀ entry ∈ entries, P entry :=
  fun entry member => of_decide_eq_true (List.all_eq_true.mp all entry member)

section

variable {ι : Type u} {σ : Type v} (step : ι → σ → σ)

/-- The instructions of a listing, one after the other. -/
def run : List ι → σ → σ
  | [], s => s
  | i :: rest, s => run rest (step i s)

variable {step} {block : List ι}

@[simp] theorem run_nil (s : σ) : run step [] s = s := rfl

@[simp] theorem run_cons (i : ι) (rest : List ι) (s : σ) :
    run step (i :: rest) s = run step rest (step i s) := rfl

theorem run_append (first second : List ι) (s : σ) :
    run step (first ++ second) s = run step second (run step first s) := by
  induction first generalizing s with
  | nil => rfl
  | cons i rest ih => exact ih (step i s)

/-- A relation to the state before that every instruction keeps, the listing
keeps. -/
theorem run_related (related : σ → σ → Prop) (refl : ∀ s, related s s)
    (trans : ∀ s t u, related s t → related t u → related s u)
    (frame : ∀ i ∈ block, ∀ s, related (step i s) s) (s : σ) :
    related (run step block s) s := by
  induction block generalizing s with
  | nil => exact refl s
  | cons i rest ih =>
    have here := frame i List.mem_cons_self s
    have later := ih (fun j member => frame j (List.mem_cons_of_mem _ member)) (step i s)
    exact trans _ _ _ later here

end

section

variable {κ : Type u} {ι : Type v} {α : Type w} {slots : List (κ × ι)}

section

variable [DecidableEq ι]

/-- The registers of the list go to their slots. -/
def spill (regs : κ → α) : List (κ × ι) → (ι → α) → ι → α
  | [], memory => memory
  | (reg, slot) :: rest, memory =>
    spill regs rest (Function.update memory slot (regs reg))

theorem spill_other {regs : κ → α} {slot : ι} (apart : slot ∉ slots.map Prod.snd)
    (memory : ι → α) : spill regs slots memory slot = memory slot := by
  induction slots generalizing memory with
  | nil => rfl
  | cons head rest ih =>
    rw [List.map_cons, List.mem_cons, not_or] at apart
    obtain ⟨here, later⟩ := apart
    rw [spill, ih later, Function.update_of_ne here]

theorem spill_slot {regs : κ → α} (distinct : (slots.map Prod.snd).Nodup) {reg : κ} {slot : ι}
    (member : (reg, slot) ∈ slots) (memory : ι → α) :
    spill regs slots memory slot = regs reg := by
  induction slots generalizing memory with
  | nil => cases member
  | cons head rest ih =>
    rw [List.map_cons, List.nodup_cons] at distinct
    obtain ⟨apart, later⟩ := distinct
    rcases List.mem_cons.mp member with rfl | member
    · rw [spill, spill_other apart, Function.update_self]
    · exact ih later member _

/-- The cells of the list go to other cells, one after the other. -/
def transfer : List (ι × ι) → (ι → α) → ι → α
  | [], memory => memory
  | (source, target) :: rest, memory =>
    transfer rest (Function.update memory target (memory source))

theorem transfer_other {cells : List (ι × ι)} {cell : ι} (apart : cell ∉ cells.map Prod.snd)
    (memory : ι → α) : transfer cells memory cell = memory cell := by
  induction cells generalizing memory with
  | nil => rfl
  | cons head rest ih =>
    rw [List.map_cons, List.mem_cons, not_or] at apart
    obtain ⟨here, later⟩ := apart
    rw [transfer, ih later, Function.update_of_ne here]

/-- No cell is read after it was written. -/
theorem transfer_cell {cells : List (ι × ι)} (distinct : (cells.map Prod.snd).Nodup)
    {source target : ι} (member : (source, target) ∈ cells)
    (fresh : source ∉ cells.map Prod.snd) (memory : ι → α) :
    transfer cells memory target = memory source := by
  induction cells generalizing memory with
  | nil => cases member
  | cons head rest ih =>
    rw [List.map_cons, List.nodup_cons] at distinct
    rw [List.map_cons, List.mem_cons, not_or] at fresh
    obtain ⟨apart, later⟩ := distinct
    rcases List.mem_cons.mp member with rfl | member
    · rw [transfer, transfer_other apart, Function.update_self]
    · rw [transfer, ih later member fresh.2, Function.update_of_ne fresh.1]

end

section

variable [DecidableEq κ]

/-- The registers of the list come from their slots. -/
def reload (memory : ι → α) : List (κ × ι) → (κ → α) → κ → α
  | [], regs => regs
  | (reg, slot) :: rest, regs =>
    reload memory rest (Function.update regs reg (memory slot))

theorem reload_other {memory : ι → α} {reg : κ} (apart : reg ∉ slots.map Prod.fst)
    (regs : κ → α) : reload memory slots regs reg = regs reg := by
  induction slots generalizing regs with
  | nil => rfl
  | cons head rest ih =>
    rw [List.map_cons, List.mem_cons, not_or] at apart
    obtain ⟨here, later⟩ := apart
    rw [reload, ih later, Function.update_of_ne here]

theorem reload_reg {memory : ι → α} (distinct : (slots.map Prod.fst).Nodup) {reg : κ} {slot : ι}
    (member : (reg, slot) ∈ slots) (regs : κ → α) :
    reload memory slots regs reg = memory slot := by
  induction slots generalizing regs with
  | nil => cases member
  | cons head rest ih =>
    rw [List.map_cons, List.nodup_cons] at distinct
    obtain ⟨apart, later⟩ := distinct
    rcases List.mem_cons.mp member with rfl | member
    · rw [reload, reload_other apart, Function.update_self]
    · exact ih later member _

end

end

end Listing
