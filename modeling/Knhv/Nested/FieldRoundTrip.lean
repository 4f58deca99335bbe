import Knhv.Lib.Masks
import Knhv.Nested.Representation
import Knhv.Nested.StoredFields

namespace Knhv.Nested

variable {σ : Type}

/-- The reserved bits of a writable field are, or contain, the bits that its
width drops. -/
theorem reserved_covers_width (rule : FieldRulePtr) (writable : (fieldRule rule).writable = true) :
    (fieldRule rule).reservedZeroMask &&& ~~~fieldMask (fieldRule rule).width =
      ~~~fieldMask (fieldRule rule).width := by
  have table : ∀ rule : FieldRulePtr, (fieldRule rule).writable = true →
      (fieldRule rule).reservedZeroMask &&& ~~~fieldMask (fieldRule rule).width =
        ~~~fieldMask (fieldRule rule).width := by decide +kernel
  exact table rule writable

/-- A value that is written fits its field. -/
theorem Written.fits {vcpu after : NestedVcpu σ} {encoding : U32} {value : U64}
    {slot : Fin kNestedVmcsSlots} {rule : FieldRulePtr}
    (written : Written vcpu after encoding value slot rule) :
    value &&& fieldMask (fieldRule rule).width = value :=
  Masks.and_eq_self (Masks.and_eq_zero_of_inside written.reserved
    (reserved_covers_width rule written.writable))

theorem Written.current_after {vcpu after : NestedVcpu σ} {encoding : U32} {value : U64}
    {slot : Fin kNestedVmcsSlots} {rule : FieldRulePtr}
    (written : Written vcpu after encoding value slot rule) :
    currentVmcs after = currentVmcs vcpu := by
  rw [written.after]
  exact currentVmcs_congr (control_setVmcs_same (control_writeStoredField _ _ _))

/-- The field that was written holds the value. -/
theorem Written.read_self {vcpu after : NestedVcpu σ} {encoding : U32} {value : U64}
    {slot : Fin kNestedVmcsSlots} {rule : FieldRulePtr}
    (written : Written vcpu after encoding value slot rule) :
    readNestedVmcsField after encoding = some value := by
  rw [readNestedVmcsField_eq, written.current_after, written.current, written.found,
    Option.bind_some, Option.map_some, written.after]
  simp only [NestedVcpu.setVmcs, Function.update_self]
  rw [readStoredField_writeStoredField_self, written.fits, written.fits]

/-- No other field sees the write. -/
theorem Written.read_other {vcpu after : NestedVcpu σ} {encoding other : U32} {value : U64}
    {slot : Fin kNestedVmcsSlots} {rule : FieldRulePtr}
    (written : Written vcpu after encoding value slot rule) (different : other ≠ encoding) :
    readNestedVmcsField after other = readNestedVmcsField vcpu other := by
  refine readNestedVmcsField_congr written.current_after fun place current => ?_
  rw [written.current, Option.some.injEq] at current
  rw [written.after, ← current]
  simp only [NestedVcpu.setVmcs, Function.update_self]
  refine storedField_writeStoredField_of_ne ?_ value
  rw [findFieldRule_eq_some.mp written.found]
  exact different

theorem Written.vmcs_other {vcpu after : NestedVcpu σ} {encoding : U32} {value : U64}
    {slot other : Fin kNestedVmcsSlots} {rule : FieldRulePtr}
    (written : Written vcpu after encoding value slot rule) (different : other ≠ slot) :
    after.vmcs other = vcpu.vmcs other := by
  rw [written.after]
  simp only [NestedVcpu.setVmcs, Function.update_of_ne different]

/-- A VMREAD of a field into a register. -/
structure RegisterRead (instruction : VmxInstruction) (encoding : U32) : Prop where
  valid : instructionIsValid instruction = true
  opcode : instruction.opcode = .Vmread
  registerForm : instruction.flags &&& kInstructionOperandIsRegister ≠ 0
  encoding : instruction.encoding = encoding

/-- What a register VMREAD returns is decided by the field it reads. -/
theorem RegisterRead.result {vcpu : NestedVcpu σ} {instruction : VmxInstruction} {encoding : U32}
    (read : RegisterRead instruction encoding) (on : vcpu.vmxonActive = true) :
    (dispatchNestedInstruction vcpu (some instruction)).1 =
      match readNestedVmcsField vcpu encoding with
      | none => makeResult .VmfailInvalid .ResumeL1 0 (instructionLength instruction) kRflagsCarry 0
      | some value => makeSuccess .ResumeL1 (instructionLength instruction) value := by
  have run : dispatchNestedInstruction vcpu (some instruction) =
      emulateVmread vcpu instruction := by
    simp [dispatchNestedInstruction, read.valid, on, read.opcode]
  rw [run, emulateVmread, read.encoding]
  cases readNestedVmcsField vcpu encoding with
  | none => rfl
  | some value =>
    dsimp only
    rw [if_pos read.registerForm]

/-- A VMWRITE that succeeds has written its field and cleared the error. -/
theorem dispatch_vmwrite_success {vcpu : NestedVcpu σ} {write : VmxInstruction}
    (opcode : write.opcode = .Vmwrite)
    (success : (dispatchNestedInstruction vcpu (some write)).1.status = .Success) :
    ∃ written slot rule, Written vcpu written write.encoding write.source slot rule ∧
      vcpu.vmxonActive = true ∧
      (dispatchNestedInstruction vcpu (some write)).2 = clearVmInstructionError written := by
  obtain ⟨valid, on⟩ := handled_of_success (by rw [opcode]; decide) (by rw [opcode]; decide) success
  have run : dispatchNestedInstruction vcpu (some write) = emulateVmwrite vcpu write := by
    simp [dispatchNestedInstruction, valid, on, opcode]
  rw [run] at success ⊢
  unfold emulateVmwrite at success ⊢
  dsimp only at success ⊢
  split at success
  · split at success
    · simp at success
    rename_i writable
    rw [if_neg writable]
    split at success
    · simp at success
    · rename_i written made
      obtain ⟨slot, rule, checked⟩ := writeNestedVmcsField_true made
      exact ⟨written, slot, rule, checked, on, rfl⟩
  · simp at success

theorem vmxonActive_recorded (vcpu : NestedVcpu σ) (instructionError : U32) :
    (recordVmInstructionError vcpu instructionError).vmxonActive = vcpu.vmxonActive :=
  congrArg NestedControl.vmxonActive (control_recordVmInstructionError vcpu instructionError)

/-- A VMWRITE that succeeds is read back by VMREAD, changes no other field but
the error, and no other VMCS. -/
theorem vmwrite_vmread {vcpu : NestedVcpu σ} {write : VmxInstruction}
    (opcode : write.opcode = .Vmwrite)
    (success : (dispatchNestedInstruction vcpu (some write)).1.status = .Success) :
    (∀ read, RegisterRead read write.encoding →
      (dispatchNestedInstruction (dispatchNestedInstruction vcpu (some write)).2 (some read)).1 =
        makeSuccess .ResumeL1 (instructionLength read) write.source) ∧
    (∀ read encoding, RegisterRead read encoding → encoding ≠ write.encoding →
      encoding ≠ kVmcsFieldInstructionError →
      (dispatchNestedInstruction (dispatchNestedInstruction vcpu (some write)).2 (some read)).1 =
        (dispatchNestedInstruction vcpu (some read)).1) ∧
    ∀ other, currentVmcs vcpu ≠ some other →
      (dispatchNestedInstruction vcpu (some write)).2.vmcs other = vcpu.vmcs other := by
  obtain ⟨after, slot, rule, written, on, run⟩ := dispatch_vmwrite_success opcode success
  have onAfter : (clearVmInstructionError after).vmxonActive = true := by
    rw [clearVmInstructionError, vmxonActive_recorded, written.after]
    exact on
  rw [run]
  refine ⟨fun read reads => ?_, fun read encoding reads different notError => ?_,
    fun other elsewhere => ?_⟩
  · rw [reads.result onAfter, clearVmInstructionError,
      readNestedVmcsField_recorded_of_ne after 0 written.encoding_ne, written.read_self]
  · rw [reads.result onAfter, reads.result on, clearVmInstructionError,
      readNestedVmcsField_recorded_of_ne after 0 notError, written.read_other different]
  · have notCurrent : currentVmcs after ≠ some other := by
      rw [written.current_after]
      exact elsewhere
    have different : other ≠ slot := by
      rintro rfl
      exact elsewhere written.current
    rw [clearVmInstructionError, recordVmInstructionError_vmcs, if_neg notCurrent,
      written.vmcs_other different]

/-- A VMX instruction with register operands. -/
def registerOperands (opcode : VmxOpcode) (encoding : U32) (source : U64) : VmxInstruction :=
  { vmxOperands opcode 0 with flags := kInstructionOperandIsRegister, encoding, source }

/-- VMXON on page 1 and VMPTRLD of page 2. -/
def loadedVcpu : NestedVcpu Unit :=
  Run.after nestedStep flatVcpu [vmxInstruction .Vmxon 8, vmxInstruction .Vmptrld 16]

theorem vmwrite_vmread_guestCr3 :
    (dispatchNestedInstruction
      (dispatchNestedInstruction loadedVcpu
        (some (registerOperands .Vmwrite kVmcsFieldGuestCr3 0x5000))).2
      (some (registerOperands .Vmread kVmcsFieldGuestCr3 0))).1 =
        makeSuccess .ResumeL1 3 0x5000 :=
  (vmwrite_vmread rfl (by decide +kernel)).1 _
    ⟨by decide, rfl, by decide, rfl⟩

end Knhv.Nested
