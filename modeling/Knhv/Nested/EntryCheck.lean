import Knhv.Nested.Switching

namespace Knhv.Nested

variable {σ : Type}

/-- The encodings that have a rule. -/
def Known (encoding : U32) : Prop := ∃ rule : FieldRulePtr, (fieldRule rule).encoding = encoding

instance (encoding : U32) : Decidable (Known encoding) :=
  inferInstanceAs (Decidable (∃ rule : FieldRulePtr, (fieldRule rule).encoding = encoding))

/-- The stored value of a known encoding. -/
def field (vmcs : NestedVmcs12) (encoding : U32) : U64 := (storedField vmcs encoding).getD 0

theorem field_of_rule {vmcs : NestedVmcs12} {encoding : U32} {rule : FieldRulePtr}
    (found : findFieldRule encoding = some rule) : field vmcs encoding = readStoredField vmcs rule := by
  simp only [field, storedField, found, Option.map_some, Option.getD_some]

theorem field_congr {vmcs other : NestedVmcs12} {encoding : U32}
    (same : storedField other encoding = storedField vmcs encoding) :
    field other encoding = field vmcs encoding :=
  congrArg (Option.getD · 0) same

/-- The current VMCS of a vCPU is read back as it is stored. -/
theorem readNestedVmcsField_eq_field {vcpu : NestedVcpu σ} {slot : Fin kNestedVmcsSlots}
    {encoding : U32} (current : currentVmcs vcpu = some slot) (fits : FieldsFit vcpu)
    (known : Known encoding) :
    readNestedVmcsField vcpu encoding = some (field (vcpu.vmcs slot) encoding) := by
  obtain ⟨rule, same⟩ := known
  have found := findFieldRule_eq_some.mpr same
  rw [field_of_rule found]
  simp only [readNestedVmcsField, current, found]
  exact congrArg some (fits slot rule)

/-- What the entry checks say about the fields that the VMCS02 builder checks
again. -/
structure EntryChecked (capabilities : NestedCapabilities) (vmcs : NestedVmcs12) : Prop where
  guestCr0 : isFixedCrValid (field vmcs kVmcsFieldGuestCr0) capabilities.cr0Fixed0
    capabilities.cr0Fixed1 = true
  guestCr4 : isFixedCrValid (field vmcs kVmcsFieldGuestCr4) capabilities.cr4Fixed0
    capabilities.cr4Fixed1 = true
  guestRip : isCanonicalAddress (field vmcs kVmcsFieldGuestRip) capabilities.linearAddressBits = true
  guestRsp : isCanonicalAddress (field vmcs kVmcsFieldGuestRsp) capabilities.linearAddressBits = true
  guestRflags : field vmcs kVmcsFieldGuestRflags &&& 2 ≠ 0
  ept : field vmcs kVmcsFieldSecondaryControls &&& kNestedSecondaryEnableEpt.setWidth 64 ≠ 0 →
    isAlignedPage (field vmcs kVmcsFieldEptPointer) = true
  vpid : field vmcs kVmcsFieldSecondaryControls &&& kNestedSecondaryEnableVpid.setWidth 64 ≠ 0 →
    capabilities.featureBits &&& kCapVpid ≠ 0 ∧ field vmcs kVmcsFieldVpid ≠ 0 ∧
      ¬capabilities.vpidCount.setWidth 64 < field vmcs kVmcsFieldVpid
  vmfunc : field vmcs kVmcsFieldSecondaryControls &&& kNestedSecondaryEnableVmfunc.setWidth 64 ≠ 0 →
    capabilities.featureBits &&& kCapVirtualTlbFlush ≠ 0

theorem eq_some_of_getD_false {answer : Option Bool} (accepted : answer.getD false = true) :
    answer = some true := by
  cases answer with
  | none => cases accepted
  | some value => exact congrArg some accepted

theorem entryChecked_of_validateEntryState {vcpu : NestedVcpu σ} {vmcs : NestedVmcs12}
    (accepted : validateEntryState vcpu vmcs = true) : EntryChecked vcpu.capabilities vmcs := by
  unfold validateEntryState at accepted
  have rest := eq_some_of_getD_false accepted
  obtain ⟨pinRule, _, rest⟩ := Option.bind_eq_some_iff.mp rest
  obtain ⟨primaryRule, _, rest⟩ := Option.bind_eq_some_iff.mp rest
  obtain ⟨secondaryRule, secondary, rest⟩ := Option.bind_eq_some_iff.mp rest
  obtain ⟨exitRule, _, rest⟩ := Option.bind_eq_some_iff.mp rest
  obtain ⟨entryRule, _, rest⟩ := Option.bind_eq_some_iff.mp rest
  obtain ⟨guestCr0Rule, guestCr0, rest⟩ := Option.bind_eq_some_iff.mp rest
  obtain ⟨guestCr4Rule, guestCr4, rest⟩ := Option.bind_eq_some_iff.mp rest
  obtain ⟨hostCr0Rule, _, rest⟩ := Option.bind_eq_some_iff.mp rest
  obtain ⟨hostCr4Rule, _, rest⟩ := Option.bind_eq_some_iff.mp rest
  obtain ⟨guestRipRule, guestRip, rest⟩ := Option.bind_eq_some_iff.mp rest
  obtain ⟨guestRspRule, guestRsp, rest⟩ := Option.bind_eq_some_iff.mp rest
  obtain ⟨hostRipRule, _, rest⟩ := Option.bind_eq_some_iff.mp rest
  obtain ⟨hostRspRule, _, rest⟩ := Option.bind_eq_some_iff.mp rest
  obtain ⟨guestRflagsRule, guestRflags, rest⟩ := Option.bind_eq_some_iff.mp rest
  obtain ⟨eptRule, ept, rest⟩ := Option.bind_eq_some_iff.mp rest
  obtain ⟨vpidRule, vpid, rest⟩ := Option.bind_eq_some_iff.mp rest
  have checks := Option.some.inj rest
  simp only [Bool.and_eq_true, Bool.not_eq_true', bne_iff_ne, ne_eq, Bool.and_eq_false_iff,
    Bool.or_eq_false_iff, Bool.not_eq_false', beq_eq_false_iff_ne, decide_eq_false_iff_not,
    bne_eq_false_iff_eq, ← field_of_rule secondary, ← field_of_rule guestCr0,
    ← field_of_rule guestCr4, ← field_of_rule guestRip, ← field_of_rule guestRsp,
    ← field_of_rule guestRflags, ← field_of_rule ept, ← field_of_rule vpid] at checks
  obtain ⟨⟨⟨⟨⟨⟨⟨⟨⟨⟨⟨⟨_, cr0⟩, _⟩, cr4⟩, _⟩, rip⟩, rsp⟩, _⟩, _⟩, rflags⟩, eptOk⟩, vpidOk⟩, vmfuncOk⟩ :=
    checks
  refine ⟨cr0, cr4, rip, rsp, rflags, fun on => (eptOk.resolve_left on).1.2, fun on => ?_,
    fun on => vmfuncOk.resolve_left on⟩
  obtain ⟨⟨feature, used⟩, bound⟩ := vpidOk.resolve_left on
  exact ⟨feature, used, bound⟩

/-- The vCPU with the current slot `Launched` and L2 running. -/
def enterVmcs (vcpu : NestedVcpu σ) (slot : Fin kNestedVmcsSlots) : NestedVcpu σ :=
  { vcpu.setVmcs slot { vcpu.vmcs slot with state := .Launched } with l2Running := true }

/-- An entry that succeeds has passed its checks and leaves the current slot
`Launched`. -/
theorem emulateVmEntry_success {vcpu : NestedVcpu σ} {instruction : VmxInstruction} {launch : Bool}
    (success : (emulateVmEntry vcpu instruction launch).1.status = .Success) :
    ∃ slot, currentVmcs vcpu = some slot ∧ validateEntryState vcpu (vcpu.vmcs slot) = true ∧
      (emulateVmEntry vcpu instruction launch).2 =
        clearVmInstructionError (enterVmcs vcpu slot) := by
  unfold emulateVmEntry at success ⊢
  dsimp only at success ⊢
  cases current : currentVmcs vcpu with
  | none => simp [current] at success
  | some slot =>
    simp only [current] at success ⊢
    split at success
    · simp at success
    rename_i launchable
    rw [if_neg launchable]
    split at success
    · simp at success
    rename_i resumable
    rw [if_neg resumable]
    split at success
    · simp at success
    rename_i enterable
    rw [if_neg enterable]
    refine ⟨slot, rfl, ?_, rfl⟩
    by_contra refused
    exact enterable (Or.inr (Bool.not_eq_true _ ▸ refused))

theorem dispatch_entry_success {vcpu : NestedVcpu σ} {instruction : VmxInstruction}
    (opcode : instruction.opcode = .Vmlaunch ∨ instruction.opcode = .Vmresume)
    (success : (dispatchNestedInstruction vcpu (some instruction)).1.status = .Success) :
    ∃ slot, currentVmcs vcpu = some slot ∧ validateEntryState vcpu (vcpu.vmcs slot) = true ∧
      (dispatchNestedInstruction vcpu (some instruction)).2 =
        clearVmInstructionError (enterVmcs vcpu slot) := by
  have notOn : instruction.opcode ≠ .Vmxon := by
    rcases opcode with opcode | opcode <;> rw [opcode] <;> decide
  have notOff : instruction.opcode ≠ .Vmxoff := by
    rcases opcode with opcode | opcode <;> rw [opcode] <;> decide
  obtain ⟨valid, on⟩ := handled_of_success notOn notOff success
  have entry : ∃ launch,
      dispatchNestedInstruction vcpu (some instruction) = emulateVmEntry vcpu instruction launch := by
    rcases opcode with opcode | opcode
    · exact ⟨true, by simp [dispatchNestedInstruction, valid, opcode, on]⟩
    · exact ⟨false, by simp [dispatchNestedInstruction, valid, opcode, on]⟩
  obtain ⟨launch, entry⟩ := entry
  rw [entry] at success ⊢
  exact emulateVmEntry_success success

/-- The entry leaves the VMCS as it was checked, but for its state and its
error word. -/
theorem enterVmcs_vmcs {vcpu : NestedVcpu σ} {slot : Fin kNestedVmcsSlots}
    (current : currentVmcs vcpu = some slot) :
    currentVmcs (clearVmInstructionError (enterVmcs vcpu slot)) = some slot ∧
      (clearVmInstructionError (enterVmcs vcpu slot)).vmcs slot =
        setVmcsReadOnly { vcpu.vmcs slot with state := .Launched } kVmcsFieldInstructionError 0 := by
  obtain ⟨notNull, found⟩ := currentVmcs_eq_some_iff.mp current
  have control : (enterVmcs vcpu slot).control =
      { vcpu.control.setVmcs slot { vcpu.control.vmcs slot with state := .Launched } with
        l2Running := true } :=
    NestedControl.ext rfl rfl rfl rfl rfl rfl rfl rfl (setVmcs_vmcs_control ..)
  have sameFind (region : U64) : (enterVmcs vcpu slot).control.find region =
      vcpu.control.find region := by
    rw [control]
    exact NestedControl.find_congr (setVmcs_state_slots vcpu.control slot .Launched) region
  have here : currentVmcs (enterVmcs vcpu slot) = some slot :=
    currentVmcs_eq_some_iff.mpr ⟨notNull, (sameFind _).trans found⟩
  constructor
  · have gpa : (clearVmInstructionError (enterVmcs vcpu slot)).currentVmcsGpa =
        vcpu.currentVmcsGpa :=
      congrArg NestedControl.currentVmcsGpa (control_clearVmInstructionError (enterVmcs vcpu slot))
    refine currentVmcs_eq_some_iff.mpr ?_
    rw [gpa, control_clearVmInstructionError, sameFind]
    exact ⟨notNull, found⟩
  · unfold clearVmInstructionError
    rw [recordVmInstructionError_vmcs, if_pos here]
    simp only [enterVmcs, NestedVcpu.setVmcs, Function.update_self]
    rfl

theorem NestedEffect.header {event : VmxEvent} {control after : NestedControl}
    (effect : NestedEffect event control after) :
    after.version = control.version ∧ after.size = control.size ∧
      after.capabilities = control.capabilities := by
  cases effect with
  | quiet | vmxon | vmxoff | launch | resume | exit => exact ⟨rfl, rfl, rfl⟩
  | clear _ _ _ _ alloc | load _ _ _ alloc =>
    obtain ⟨version, size, capabilities, _⟩ := alloc.frame
    exact ⟨version, size, capabilities⟩

/-- The header of a vCPU stays as it was initialised. -/
theorem Reachable.header {vcpu : NestedVcpu σ} (reached : Reachable vcpu) :
    vcpu.version = kNestedModelVersion ∧ vcpu.size = sizeofNestedVcpu := by
  induction reached with
  | start => exact ⟨rfl, rfl⟩
  | next _ input ih =>
    obtain ⟨version, size, _⟩ := (nestedStep_effect _ input).header
    exact ⟨version.trans ih.1, size.trans ih.2⟩

end Knhv.Nested
