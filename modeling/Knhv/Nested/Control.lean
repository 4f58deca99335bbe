import Knhv.Nested.Instructions

namespace Knhv.Nested

variable {σ : Type}

/-- What decides the lifecycle of a slot: its contents are left out. -/
structure VmcsControl where
  regionGpa : U64
  revision : U32
  state : Vmcs12State
  allocated : Bool
  deriving DecidableEq

def NestedVmcs12.control (vmcs : NestedVmcs12) : VmcsControl :=
  ⟨vmcs.regionGpa, vmcs.revision, vmcs.state, vmcs.allocated⟩

/-- The control part of a vCPU. Field values, dirty groups, the error word,
the generation, the EPTP index and guest memory are left out: no instruction
of the lifecycle is decided by them alone. -/
@[ext]
structure NestedControl where
  version : U32
  size : U32
  capabilities : NestedCapabilities
  vmxonActive : Bool
  l2Running : Bool
  vmxonGpa : U64
  currentVmcsGpa : U64
  vmcsCount : U32
  vmcs : Fin kNestedVmcsSlots → VmcsControl

def NestedVcpu.control (vcpu : NestedVcpu σ) : NestedControl where
  version := vcpu.version
  size := vcpu.size
  capabilities := vcpu.capabilities
  vmxonActive := vcpu.vmxonActive
  l2Running := vcpu.l2Running
  vmxonGpa := vcpu.vmxonGpa
  currentVmcsGpa := vcpu.currentVmcsGpa
  vmcsCount := vcpu.vmcsCount
  vmcs := fun slot => (vcpu.vmcs slot).control

/-- The slot of a region, as `findVmcs` finds it. -/
def NestedControl.find (control : NestedControl) (regionGpa : U64) :
    Option (Fin kNestedVmcsSlots) :=
  Fin.find? fun slot =>
    (control.vmcs slot).allocated && (control.vmcs slot).regionGpa == regionGpa

def NestedControl.setVmcs (control : NestedControl) (slot : Fin kNestedVmcsSlots)
    (vmcs : VmcsControl) : NestedControl :=
  { control with vmcs := Function.update control.vmcs slot vmcs }

theorem findVmcs_eq_find (vcpu : NestedVcpu σ) (regionGpa : U64) :
    findVmcs vcpu regionGpa = vcpu.control.find regionGpa := rfl

theorem NestedControl.find_eq_some_iff {control : NestedControl} {regionGpa : U64}
    {slot : Fin kNestedVmcsSlots} :
    control.find regionGpa = some slot ↔
      (control.vmcs slot).allocated = true ∧ (control.vmcs slot).regionGpa = regionGpa ∧
        ∀ earlier < slot, ¬((control.vmcs earlier).allocated = true ∧
          (control.vmcs earlier).regionGpa = regionGpa) := by
  simp only [find, Fin.find?_eq_some_iff, Bool.and_eq_true, beq_iff_eq, and_assoc,
    ← Bool.not_eq_true]

theorem NestedControl.find_eq_none_iff {control : NestedControl} {regionGpa : U64} :
    control.find regionGpa = none ↔
      ∀ slot, ¬((control.vmcs slot).allocated = true ∧
        (control.vmcs slot).regionGpa = regionGpa) := by
  simp only [find, Fin.find?_eq_none_iff, ← Bool.not_eq_true, Bool.and_eq_true, beq_iff_eq]

/-- The slot that a search finds tracks the region. -/
theorem findVmcs_tracks {vcpu : NestedVcpu σ} {regionGpa : U64} {slot : Fin kNestedVmcsSlots}
    (found : findVmcs vcpu regionGpa = some slot) :
    (vcpu.vmcs slot).allocated = true ∧ (vcpu.vmcs slot).regionGpa = regionGpa := by
  rw [findVmcs_eq_find] at found
  obtain ⟨used, same, _⟩ := NestedControl.find_eq_some_iff.mp found
  exact ⟨used, same⟩

@[simp] theorem control_withContext (vcpu : NestedVcpu σ) (context : σ) :
    (vcpu.withContext context).control = vcpu.control := rfl

theorem setVmcs_vmcs_control (vcpu : NestedVcpu σ) (slot : Fin kNestedVmcsSlots)
    (vmcs : NestedVmcs12) :
    (fun other => ((vcpu.setVmcs slot vmcs).vmcs other).control) =
      Function.update vcpu.control.vmcs slot vmcs.control := by
  funext other
  by_cases same : other = slot
  · subst same
    simp [NestedVcpu.setVmcs]
  · simp [NestedVcpu.control, NestedVcpu.setVmcs, same]

theorem control_setVmcs (vcpu : NestedVcpu σ) (slot : Fin kNestedVmcsSlots) (vmcs : NestedVmcs12) :
    (vcpu.setVmcs slot vmcs).control = vcpu.control.setVmcs slot vmcs.control :=
  NestedControl.ext rfl rfl rfl rfl rfl rfl rfl rfl (setVmcs_vmcs_control vcpu slot vmcs)

/-- Storing a slot with the same control part changes no control state. -/
theorem control_setVmcs_same {vcpu : NestedVcpu σ} {slot : Fin kNestedVmcsSlots}
    {vmcs : NestedVmcs12} (same : vmcs.control = (vcpu.vmcs slot).control) :
    (vcpu.setVmcs slot vmcs).control = vcpu.control := by
  rw [control_setVmcs, same]
  exact NestedControl.ext rfl rfl rfl rfl rfl rfl rfl rfl
    (Function.update_eq_self slot vcpu.control.vmcs)

@[simp] theorem control_setVmcsReadOnly (vmcs : NestedVmcs12) (encoding : U32) (value : U64) :
    (setVmcsReadOnly vmcs encoding value).control = vmcs.control := by
  unfold setVmcsReadOnly
  split <;> rfl

@[simp] theorem control_writeStoredField (vmcs : NestedVmcs12) (rule : FieldRulePtr) (value : U64) :
    (writeStoredField vmcs rule value).control = vmcs.control := rfl

@[simp] theorem control_recordNestedExit (vmcs : NestedVmcs12) (exitRecord : NestedExitRecord) :
    (recordNestedExit vmcs exitRecord).control = vmcs.control := by
  simp only [recordNestedExit, control_setVmcsReadOnly]

@[simp] theorem control_recordVmInstructionError (vcpu : NestedVcpu σ) (instructionError : U32) :
    (recordVmInstructionError vcpu instructionError).control = vcpu.control := by
  unfold recordVmInstructionError
  dsimp only
  split
  · rfl
  · exact control_setVmcs_same (control_setVmcsReadOnly _ _ _)

@[simp] theorem control_clearVmInstructionError (vcpu : NestedVcpu σ) :
    (clearVmInstructionError vcpu).control = vcpu.control :=
  control_recordVmInstructionError vcpu 0

@[simp] theorem control_makeVmfail (vcpu : NestedVcpu σ) (status : HvStatus)
    (instructionError instructionLength : U32) :
    (makeVmfail vcpu status instructionError instructionLength).2.control = vcpu.control := by
  unfold makeVmfail
  split
  · exact control_recordVmInstructionError vcpu instructionError
  · rfl

@[simp] theorem status_makeVmfail (vcpu : NestedVcpu σ) (status : HvStatus)
    (instructionError instructionLength : U32) :
    (makeVmfail vcpu status instructionError instructionLength).1.status = status := by
  unfold makeVmfail
  split <;> rfl

@[simp] theorem control_writeNestedVmcsField (vcpu : NestedVcpu σ) (encoding : U32) (value : U64) :
    (writeNestedVmcsField vcpu encoding value).2.control = vcpu.control := by
  unfold writeNestedVmcsField
  split
  · dsimp only
    split
    · rfl
    · exact control_setVmcs_same rfl
  · rfl

/-- The current pointer names its slot. -/
theorem currentVmcs_eq_some_iff {vcpu : NestedVcpu σ} {slot : Fin kNestedVmcsSlots} :
    currentVmcs vcpu = some slot ↔
      vcpu.currentVmcsGpa ≠ kNoCurrentVmcs ∧
        vcpu.control.find vcpu.currentVmcsGpa = some slot := by
  unfold currentVmcs
  split <;> simp_all [findVmcs_eq_find]

/-- What a validated region operand is known to name. -/
theorem validateVmxRegion_region {vcpu : NestedVcpu σ} {operandLinear region : U64} {context : σ}
    (valid : validateVmxRegion vcpu operandLinear = (some region, context)) :
    isAlignedPage region = true ∧
      isPhysicalAddress region vcpu.capabilities.maxPhysicalAddressBits = true := by
  unfold validateVmxRegion at valid
  split at valid
  · simp at valid
  split at valid
  · simp at valid
  dsimp only at valid
  split at valid
  · simp at valid
  split at valid
  · simp at valid
  rename_i checks
  split at valid
  · simp at valid
  split at valid
  · simp at valid
  split at valid
  · simp at valid
  cases valid
  simp only [Bool.or_eq_true, Bool.not_eq_true', not_or, Bool.not_eq_false] at checks
  exact ⟨checks.1.1.1, checks.1.1.2⟩

/-- A page-aligned address is never the null pointer of the current VMCS. -/
theorem ne_kNoCurrentVmcs_of_aligned {region : U64} (aligned : isAlignedPage region = true) :
    region ≠ kNoCurrentVmcs := by
  rintro rfl
  revert aligned
  decide

/-- An instruction that succeeds in VMX operation has come to its handler. -/
theorem handled_of_success {vcpu : NestedVcpu σ} {instruction : VmxInstruction}
    (notOn : instruction.opcode ≠ .Vmxon) (notOff : instruction.opcode ≠ .Vmxoff)
    (success : (dispatchNestedInstruction vcpu (some instruction)).1.status = .Success) :
    instructionIsValid instruction = true ∧ vcpu.vmxonActive = true := by
  have valid : instructionIsValid instruction = true := by
    by_contra invalid
    rw [Bool.not_eq_true] at invalid
    simp [dispatchNestedInstruction, invalid, invalidInstruction, makeResult] at success
  refine ⟨valid, ?_⟩
  by_contra off
  rw [Bool.not_eq_true] at off
  simp [dispatchNestedInstruction, valid, notOn, notOff, off] at success

end Knhv.Nested
