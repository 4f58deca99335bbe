import Knhv.Nested.Operation

namespace Knhv.Nested

variable {σ : Type}

@[simp] theorem withContext_vmcs (vcpu : NestedVcpu σ) (context : σ) :
    (vcpu.withContext context).vmcs = vcpu.vmcs := rfl

@[simp] theorem withContext_vmxonGpa (vcpu : NestedVcpu σ) (context : σ) :
    (vcpu.withContext context).vmxonGpa = vcpu.vmxonGpa := rfl

@[simp] theorem withContext_currentVmcsGpa (vcpu : NestedVcpu σ) (context : σ) :
    (vcpu.withContext context).currentVmcsGpa = vcpu.currentVmcsGpa := rfl

@[simp] theorem findVmcs_withContext (vcpu : NestedVcpu σ) (context : σ) (region : U64) :
    findVmcs (vcpu.withContext context) region = findVmcs vcpu region := rfl

/-- Past the instruction's own checks, in VMX operation, VMPTRLD is handled by
its emulation. -/
theorem dispatch_vmptrld {vcpu : NestedVcpu σ} {instruction : VmxInstruction}
    (valid : instructionIsValid instruction = true) (opcode : instruction.opcode = .Vmptrld)
    (on : vcpu.vmxonActive = true) :
    dispatchNestedInstruction vcpu (some instruction) = emulateVmptrld vcpu instruction := by
  simp [dispatchNestedInstruction, valid, opcode, on]

/-- VMPTRLD of a region that has a slot. -/
theorem emulateVmptrld_tracked {vcpu : NestedVcpu σ} {instruction : VmxInstruction} {region : U64}
    {context : σ} {slot : Fin kNestedVmcsSlots}
    (operand : validateVmxRegion vcpu instruction.linearOperand = (some region, context))
    (other : region ≠ vcpu.vmxonGpa) (found : findVmcs vcpu region = some slot) :
    emulateVmptrld vcpu instruction =
      if (vcpu.vmcs slot).state = .Active ∧ vcpu.currentVmcsGpa ≠ region then
        makeVmfail (vcpu.withContext context) .VmfailValid kErrorInvalidOperand
          (instructionLength instruction)
      else
        (makeSuccess .ResumeL1 (instructionLength instruction),
          clearVmInstructionError
            { (vcpu.withContext context).setVmcs slot { vcpu.vmcs slot with state := .Active } with
              currentVmcsGpa := region }) := by
  have alloc : allocateVmcs (vcpu.withContext context) region =
      (some slot, vcpu.withContext context) := by
    unfold allocateVmcs
    rw [findVmcs_withContext, found]
  unfold emulateVmptrld
  rw [operand]
  dsimp only
  rw [withContext_vmxonGpa, if_neg other, alloc]
  dsimp only
  rw [withContext_vmcs, withContext_currentVmcsGpa]

/-- VMPTRLD of a region that has none: a free slot makes it succeed. -/
theorem emulateVmptrld_untracked {vcpu : NestedVcpu σ} {instruction : VmxInstruction}
    {region : U64} {context : σ}
    (operand : validateVmxRegion vcpu instruction.linearOperand = (some region, context))
    (other : region ≠ vcpu.vmxonGpa) (untracked : findVmcs vcpu region = none) :
    (emulateVmptrld vcpu instruction).1.status = .Success ↔
      ∃ slot, (vcpu.vmcs slot).allocated = false := by
  cases free : Fin.find? fun slot => !(vcpu.vmcs slot).allocated with
  | none =>
    have full := Fin.find?_eq_none_iff.mp free
    have alloc : allocateVmcs (vcpu.withContext context) region =
        (none, vcpu.withContext context) := by
      unfold allocateVmcs
      rw [findVmcs_withContext, untracked, withContext_vmcs, free]
    unfold emulateVmptrld
    rw [operand]
    dsimp only
    rw [withContext_vmxonGpa, if_neg other, alloc]
    dsimp only
    rw [status_makeVmfail]
    constructor
    · exact nofun
    · rintro ⟨slot, unused⟩
      simpa [unused] using full slot
  | some slot =>
    have unused : (vcpu.vmcs slot).allocated = false := by
      simpa using Fin.eq_true_of_find?_eq_some free
    obtain ⟨after, alloc, fresh⟩ : ∃ after,
        allocateVmcs (vcpu.withContext context) region = (some slot, after) ∧
          (after.vmcs slot).state = .Clear := by
      unfold allocateVmcs
      rw [findVmcs_withContext, untracked, withContext_vmcs, free]
      exact ⟨_, rfl, by simp only [NestedVcpu.setVmcs, Function.update_self]⟩
    unfold emulateVmptrld
    rw [operand]
    dsimp only
    rw [withContext_vmxonGpa, if_neg other, alloc]
    dsimp only
    rw [if_neg (by simp [fresh])]
    exact ⟨fun _ => ⟨slot, unused⟩, fun _ => rfl⟩

/-- The checks of VMPTRLD, read off the state before it: the operand names a
valid region that is not the VMXON region, and that region has a slot which is
not held `Active` behind another current VMCS, or can be given one. -/
structure LoadsRegion (vcpu : NestedVcpu σ) (instruction : VmxInstruction) (region : U64) :
    Prop where
  valid : instructionIsValid instruction = true
  opcode : instruction.opcode = .Vmptrld
  on : vcpu.vmxonActive = true
  operand : (validateVmxRegion vcpu instruction.linearOperand).1 = some region
  other : region ≠ vcpu.vmxonGpa
  slot : (∃ slot, findVmcs vcpu region = some slot ∧
      ((vcpu.vmcs slot).state = .Active → vcpu.currentVmcsGpa = region)) ∨
    findVmcs vcpu region = none ∧ ∃ slot, (vcpu.vmcs slot).allocated = false

theorem emulateVmptrld_success_iff {vcpu : NestedVcpu σ} {instruction : VmxInstruction}
    {region : U64} (operand : (validateVmxRegion vcpu instruction.linearOperand).1 = some region) :
    (emulateVmptrld vcpu instruction).1.status = .Success ↔
      region ≠ vcpu.vmxonGpa ∧
        ((∃ slot, findVmcs vcpu region = some slot ∧
            ((vcpu.vmcs slot).state = .Active → vcpu.currentVmcsGpa = region)) ∨
          findVmcs vcpu region = none ∧ ∃ slot, (vcpu.vmcs slot).allocated = false) := by
  obtain ⟨context, full⟩ : ∃ context,
      validateVmxRegion vcpu instruction.linearOperand = (some region, context) :=
    ⟨_, Prod.ext operand rfl⟩
  by_cases other : region = vcpu.vmxonGpa
  · simp only [emulateVmptrld, full, withContext_vmxonGpa, if_pos other, status_makeVmfail]
    exact ⟨nofun, fun accepted => absurd other accepted.1⟩
  cases found : findVmcs vcpu region with
  | none =>
    rw [emulateVmptrld_untracked full other found]
    simp [other]
  | some slot =>
    rw [emulateVmptrld_tracked full other found]
    by_cases busy : (vcpu.vmcs slot).state = .Active ∧ vcpu.currentVmcsGpa ≠ region
    · rw [if_pos busy, status_makeVmfail]
      simp [other, busy]
    · rw [if_neg busy]
      simp only [makeSuccess, makeResult, true_iff]
      refine ⟨other, Or.inl ⟨slot, rfl, fun active => ?_⟩⟩
      by_contra elsewhere
      exact busy ⟨active, elsewhere⟩

/-- The checks are exact: they pass if and only if the step loads the region. -/
theorem nestedEvent_load_iff {vcpu : NestedVcpu σ} {instruction : VmxInstruction} {region : U64} :
    nestedEvent vcpu (.dispatch (some instruction)) = .load region ↔
      LoadsRegion vcpu instruction region := by
  constructor
  · intro shown
    have refused (status : (dispatchNestedInstruction vcpu (some instruction)).1.status ≠ .Success) :
        False := by
      simp [nestedEvent, outcomeEvent, status] at shown
    have success := Classical.not_not.mp refused
    have operands : instruction.opcode = .Vmptrld ∧
        (validateVmxRegion vcpu instruction.linearOperand).1 = some region := by
      simp only [nestedEvent, outcomeEvent, if_pos success] at shown
      split at shown <;> simp_all
    obtain ⟨opcode, operand⟩ := operands
    have valid : instructionIsValid instruction = true := by
      by_contra invalid
      rw [Bool.not_eq_true] at invalid
      simp [dispatchNestedInstruction, invalid, invalidInstruction, makeResult] at success
    have on : vcpu.vmxonActive = true := by
      by_contra off
      rw [Bool.not_eq_true] at off
      simp [dispatchNestedInstruction, valid, opcode, off] at success
    rw [dispatch_vmptrld valid opcode on, emulateVmptrld_success_iff operand] at success
    exact ⟨valid, opcode, on, operand, success.1, success.2⟩
  · intro loads
    have success : (dispatchNestedInstruction vcpu (some instruction)).1.status = .Success := by
      rw [dispatch_vmptrld loads.valid loads.opcode loads.on]
      exact (emulateVmptrld_success_iff loads.operand).mpr ⟨loads.other, loads.slot⟩
    simp only [nestedEvent, outcomeEvent, if_pos success, loads.opcode, loads.operand]

end Knhv.Nested
