import Knhv.Lib.Run
import Knhv.Lib.SlotTable
import Knhv.Nested.Effect

namespace Knhv.Nested

variable {σ : Type}

/-- The slot table: no region has two slots, every tracked region passed the
operand checks, and the counter counts the slots in use. -/
structure TableInv (control : NestedControl) : Prop where
  distinct : SlotTable.KeysDistinct (fun vmcs => vmcs.allocated = true) VmcsControl.regionGpa
    control.vmcs
  region : ∀ slot, (control.vmcs slot).allocated = true →
    ValidRegion control (control.vmcs slot).regionGpa
  revision : ∀ slot, (control.vmcs slot).allocated = true →
    (control.vmcs slot).revision = control.capabilities.vmxRevision &&& kNestedVmxRevisionMask
  count : control.vmcsCount.toNat =
    SlotTable.countUsed (fun vmcs => vmcs.allocated = true) control.vmcs

/-- The pointers into the table and the two mode flags. A current VMCS has
been loaded, so its slot is never `Clear`. -/
structure PointerInv (control : NestedControl) : Prop where
  current : control.currentVmcsGpa = kNoCurrentVmcs ∨
    ∃ slot, (control.vmcs slot).allocated = true ∧
      (control.vmcs slot).regionGpa = control.currentVmcsGpa
  loaded : ∀ slot, (control.vmcs slot).allocated = true →
    (control.vmcs slot).regionGpa = control.currentVmcsGpa → (control.vmcs slot).state ≠ .Clear
  vmxonAligned : control.vmxonActive = true → isAlignedPage control.vmxonGpa = true
  vmxon : control.vmxonActive = true → control.currentVmcsGpa ≠ control.vmxonGpa
  off : control.vmxonActive = false → control.currentVmcsGpa = kNoCurrentVmcs
  running : control.l2Running = true →
    control.vmxonActive = true ∧ control.currentVmcsGpa ≠ kNoCurrentVmcs

/-- The table part only reads which slot tracks which region. -/
theorem TableInv.congr {control after : NestedControl} (table : TableInv control)
    (capabilities : after.capabilities = control.capabilities)
    (vmcsCount : after.vmcsCount = control.vmcsCount)
    (slots : ∀ slot, (after.vmcs slot).allocated = (control.vmcs slot).allocated ∧
      (after.vmcs slot).regionGpa = (control.vmcs slot).regionGpa ∧
      (after.vmcs slot).revision = (control.vmcs slot).revision) : TableInv after := by
  have sameUsed : ∀ slot, (after.vmcs slot).allocated = true ↔
      (control.vmcs slot).allocated = true := fun slot => by rw [(slots slot).1]
  refine ⟨table.distinct.congr sameUsed fun slot => (slots slot).2.1, ?_, ?_, ?_⟩
  · intro slot used
    obtain ⟨aligned, physical⟩ := table.region slot ((sameUsed slot).mp used)
    rw [(slots slot).2.1]
    exact ⟨aligned, by rw [capabilities]; exact physical⟩
  · intro slot used
    rw [(slots slot).2.2, capabilities]
    exact table.revision slot ((sameUsed slot).mp used)
  · rw [vmcsCount, table.count]
    exact (SlotTable.countUsed_congr sameUsed).symm

theorem setVmcs_state_slots (control : NestedControl) (slot : Fin kNestedVmcsSlots)
    (state : Vmcs12State) (other : Fin kNestedVmcsSlots) :
    ((control.setVmcs slot { control.vmcs slot with state := state }).vmcs other).allocated =
        (control.vmcs other).allocated ∧
      ((control.setVmcs slot { control.vmcs slot with state := state }).vmcs other).regionGpa =
        (control.vmcs other).regionGpa ∧
      ((control.setVmcs slot { control.vmcs slot with state := state }).vmcs other).revision =
        (control.vmcs other).revision := by
  by_cases same : other = slot
  · subst same
    simp [NestedControl.setVmcs]
  · simp [NestedControl.setVmcs, same]

theorem TableInv.vmcsCount_le {control : NestedControl} (table : TableInv control) :
    control.vmcsCount.toNat ≤ kNestedVmcsSlots := by
  rw [table.count]
  refine (SlotTable.countUsed_le _ _).trans ?_
  rw [Fintype.card_fin]

/-- Setting up a free slot for a region that no slot tracks. -/
theorem TableInv.allocates {control after : NestedControl} {region : U64}
    {slot : Fin kNestedVmcsSlots} (table : TableInv control) (valid : ValidRegion control region)
    (alloc : Allocates control region slot after) : TableInv after := by
  cases alloc with
  | found => exact table
  | fresh untracked free =>
    have absent := NestedControl.find_eq_none_iff.mp untracked
    refine ⟨table.distinct.update fun other used same => absent other ⟨used, same⟩, ?_, ?_, ?_⟩
    · intro other used
      by_cases same : other = slot
      · subst same
        simp only [NestedControl.setVmcs, Function.update_self]
        exact ⟨valid.aligned, valid.physical⟩
      · simp only [NestedControl.setVmcs, Function.update_of_ne same] at used ⊢
        obtain ⟨aligned, physical⟩ := table.region other used
        exact ⟨aligned, physical⟩
    · intro other used
      by_cases same : other = slot
      · subst same
        simp only [NestedControl.setVmcs, Function.update_self]
      · simp only [NestedControl.setVmcs, Function.update_of_ne same] at used ⊢
        exact table.revision other used
    · have bound := table.vmcsCount_le
      have unused : ¬(control.vmcs slot).allocated = true := by simp [free]
      have grown : SlotTable.countUsed (fun vmcs => vmcs.allocated = true)
          (Function.update control.vmcs slot ⟨region,
            control.capabilities.vmxRevision &&& kNestedVmxRevisionMask, .Clear, true⟩) =
          SlotTable.countUsed (fun vmcs => vmcs.allocated = true) control.vmcs + 1 :=
        SlotTable.countUsed_update_of_free unused rfl
      refine Eq.trans ?_ grown.symm
      rw [← table.count]
      change (control.vmcsCount + 1#32).toNat = _
      rw [BitVec.toNat_add]
      simp only [kNestedVmcsSlots] at bound
      change (control.vmcsCount.toNat + 1) % 2 ^ 32 = _
      omega

/-- Every step keeps the slot table sound. -/
theorem TableInv.effect {event : VmxEvent} {control after : NestedControl}
    (table : TableInv control) (effect : NestedEffect event control after) : TableInv after := by
  cases effect with
  | quiet => exact table
  | vmxon | vmxoff | exit => exact table.congr rfl rfl fun _ => ⟨rfl, rfl, rfl⟩
  | clear _ _ valid _ alloc | load _ valid _ alloc =>
    exact (table.allocates valid alloc).congr rfl rfl (setVmcs_state_slots _ _ _)
  | launch | resume => exact table.congr rfl rfl (setVmcs_state_slots _ _ _)

theorem PointerInv.allocates {control after : NestedControl} {region : U64}
    {slot : Fin kNestedVmcsSlots} (pointers : PointerInv control)
    (valid : ValidRegion control region) (alloc : Allocates control region slot after) :
    PointerInv after := by
  cases alloc with
  | found => exact pointers
  | fresh untracked free =>
    have absent := NestedControl.find_eq_none_iff.mp untracked
    have elsewhere : ∀ other, (control.vmcs other).allocated = true → other ≠ slot := by
      rintro other used rfl
      simp [free] at used
    refine ⟨?_, ?_, pointers.vmxonAligned, pointers.vmxon, pointers.off, pointers.running⟩
    · rcases pointers.current with null | ⟨other, used, same⟩
      · exact Or.inl null
      · refine Or.inr ⟨other, ?_⟩
        simp only [NestedControl.setVmcs, Function.update_of_ne (elsewhere other used)]
        exact ⟨used, same⟩
    · intro other used same
      by_cases atSlot : other = slot
      · subst atSlot
        simp only [NestedControl.setVmcs, Function.update_self] at same
        rcases pointers.current with null | tracked
        · exact absurd (same.trans null) (ne_kNoCurrentVmcs_of_aligned valid.aligned)
        · obtain ⟨owner, usedOwner, sameOwner⟩ := tracked
          exact absurd ⟨usedOwner, sameOwner.trans same.symm⟩ (absent owner)
      · simp only [NestedControl.setVmcs, Function.update_of_ne atSlot] at used same ⊢
        exact pointers.loaded other used same

/-- VMCLEAR may reset any slot: the current pointer drops off a cleared one. -/
theorem PointerInv.clear {control : NestedControl} {region : U64} {slot : Fin kNestedVmcsSlots}
    (pointers : PointerInv control) (table : TableInv control)
    (on : control.vmxonActive = true) (idle : control.l2Running = false)
    (tracked : (control.vmcs slot).regionGpa = region) :
    PointerInv { control.setVmcs slot { control.vmcs slot with state := .Clear } with
      currentVmcsGpa :=
        if control.currentVmcsGpa = region then kNoCurrentVmcs else control.currentVmcsGpa } := by
  have slots := setVmcs_state_slots control slot .Clear
  have vmxonNotNull := ne_kNoCurrentVmcs_of_aligned (pointers.vmxonAligned on)
  by_cases same : control.currentVmcsGpa = region
  · simp only [if_pos same]
    refine ⟨Or.inl rfl, ?_, pointers.vmxonAligned, fun _ => vmxonNotNull.symm, fun _ => rfl, ?_⟩
    · intro other used atNull
      rw [(slots other).1] at used
      rw [(slots other).2.1] at atNull
      exact absurd atNull (ne_kNoCurrentVmcs_of_aligned (table.region other used).aligned)
    · intro running
      exact absurd running (by simp [NestedControl.setVmcs, idle])
  · simp only [if_neg same]
    refine ⟨?_, ?_, pointers.vmxonAligned, pointers.vmxon, pointers.off, pointers.running⟩
    · rcases pointers.current with null | ⟨other, used, atCurrent⟩
      · exact Or.inl null
      · exact Or.inr ⟨other, (slots other).1.trans used, (slots other).2.1.trans atCurrent⟩
    · intro other used atCurrent
      rw [(slots other).1] at used
      rw [(slots other).2.1] at atCurrent
      have different : other ≠ slot := by
        rintro rfl
        exact same (atCurrent.symm.trans tracked)
      simp only [NestedControl.setVmcs, Function.update_of_ne different]
      exact pointers.loaded other used atCurrent

/-- Making a slot current in a state other than `Clear`, as VMPTRLD and the VM
entries do. -/
theorem PointerInv.setCurrent {control : NestedControl} {region : U64} {slot : Fin kNestedVmcsSlots}
    {state : Vmcs12State} {running : Bool} (pointers : PointerInv control) (table : TableInv control)
    (on : control.vmxonActive = true) (used : (control.vmcs slot).allocated = true)
    (tracked : (control.vmcs slot).regionGpa = region) (other : region ≠ control.vmxonGpa)
    (loaded : state ≠ .Clear) :
    PointerInv { control.setVmcs slot { control.vmcs slot with state := state } with
      currentVmcsGpa := region, l2Running := running } := by
  have slots := setVmcs_state_slots control slot state
  have notNull : region ≠ kNoCurrentVmcs := by
    rw [← tracked]
    exact ne_kNoCurrentVmcs_of_aligned (table.region slot used).aligned
  refine ⟨Or.inr ⟨slot, (slots slot).1.trans used, (slots slot).2.1.trans tracked⟩, ?_,
    pointers.vmxonAligned, fun _ => other, ?_, fun _ => ⟨on, notNull⟩⟩
  · intro third usedThird atRegion
    rw [(slots third).1] at usedThird
    rw [(slots third).2.1] at atRegion
    have same : third = slot := table.distinct third slot usedThird used
      (atRegion.trans tracked.symm)
    subst same
    simp only [NestedControl.setVmcs, Function.update_self]
    exact loaded
  · intro off
    exact absurd off (by simp [NestedControl.setVmcs, on])

theorem PointerInv.effect {event : VmxEvent} {control after : NestedControl}
    (pointers : PointerInv control) (table : TableInv control)
    (effect : NestedEffect event control after) : PointerInv after := by
  cases effect with
  | quiet => exact pointers
  | vmxon off valid =>
    have notNull := ne_kNoCurrentVmcs_of_aligned valid.aligned
    refine ⟨Or.inl rfl, ?_, fun _ => valid.aligned, fun _ => notNull.symm, fun _ => rfl, nofun⟩
    intro slot used atNull
    exact absurd atNull (ne_kNoCurrentVmcs_of_aligned (table.region slot used).aligned)
  | vmxoff =>
    refine ⟨Or.inl rfl, ?_, nofun, nofun, fun _ => rfl, nofun⟩
    intro slot used atNull
    exact absurd atNull (ne_kNoCurrentVmcs_of_aligned (table.region slot used).aligned)
  | clear on idle valid other alloc =>
    obtain ⟨_, _, _, sameOn, sameIdle, _, sameCurrent⟩ := alloc.frame
    have cleared := (pointers.allocates valid alloc).clear (table.allocates valid alloc)
      (sameOn.trans on) (sameIdle.trans idle) alloc.allocated.2
    rw [sameCurrent] at cleared
    exact cleared
  | load on valid other alloc usable =>
    obtain ⟨_, _, _, sameOn, _, sameVmxon, _⟩ := alloc.frame
    exact (pointers.allocates valid alloc).setCurrent (table.allocates valid alloc)
      (sameOn.trans on) alloc.allocated.1 alloc.allocated.2 (sameVmxon ▸ other) (by decide)
  | launch on idle current found active | resume on idle current found active =>
    obtain ⟨used, tracked, _⟩ := NestedControl.find_eq_some_iff.mp found
    exact pointers.setCurrent table on used tracked (pointers.vmxon on) (by decide)
  | exit running current =>
    exact ⟨pointers.current, pointers.loaded, pointers.vmxonAligned, pointers.vmxon, pointers.off,
      nofun⟩

end Knhv.Nested
