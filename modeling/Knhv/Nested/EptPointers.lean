import Knhv.Ept.Pointer
import Knhv.Nested.EntryCheck
import Knhv.Nested.FieldRoundTrip

namespace Knhv.Nested

variable {σ : Type}

/-- An EPT pointer is never page-aligned: its low bits carry its format. -/
theorem isAlignedPage_of_built {config : Ept.EptpConfig} {raw : U64}
    (built : Ept.buildEptPointer config = some raw) : isAlignedPage raw = false := by
  have valid : Ept.isEptpConfigValid config Ept.kEptMaxPhysicalAddressBits = true := by
    by_contra invalid
    rw [Bool.not_eq_true] at invalid
    rw [Ept.buildEptPointer, invalid] at built
    cases built
  have decoded := Ept.decodeEptPointer_build (Ept.encodable_of_valid valid)
  rw [Ept.buildEptPointer_of_valid valid] at built
  rw [Option.some.inj built] at decoded
  rw [isAlignedPage, beq_eq_false_iff_ne]
  intro aligned
  rw [Ept.decodeEptPointer_of_aligned aligned] at decoded
  cases decoded

theorem findFieldRule_eptPointer :
    ∃ rule, findFieldRule kVmcsFieldEptPointer = some rule ∧
      (fieldRule rule).reservedZeroMask = 0xFFF :=
  ⟨⟨5, by decide⟩, findFieldRule_eq_some.mpr rfl, rfl⟩

/-- The field rule takes page-aligned pointers only. -/
theorem Written.aligned {vcpu after : NestedVcpu σ} {value : U64} {slot : Fin kNestedVmcsSlots}
    {rule : FieldRulePtr} (written : Written vcpu after kVmcsFieldEptPointer value slot rule) :
    isAlignedPage value = true := by
  obtain ⟨pointerRule, found, mask⟩ := findFieldRule_eptPointer
  have reserved := written.reserved
  rw [Option.some.inj (written.found.symm.trans found), mask] at reserved
  exact beq_iff_eq.mpr reserved

theorem emulateInvept_aligned {vcpu : NestedVcpu σ} {instruction : VmxInstruction}
    {eptPointer reserved : U64} (single : instruction.descriptorType = 1)
    (descriptor : (readDescriptor vcpu instruction).1 = some (eptPointer, reserved))
    (success : (emulateInvept vcpu instruction).1.status = .Success) :
    isAlignedPage eptPointer = true := by
  unfold emulateInvept at success
  dsimp only at success
  split at success
  · cases success
  split at success
  · rename_i run
    rw [run] at descriptor
    cases descriptor
  rename_i run
  rw [run, Option.some.injEq, Prod.mk.injEq] at descriptor
  split at success
  · simp at success
  rename_i passed
  by_contra unaligned
  rw [Bool.not_eq_true] at unaligned
  refine passed (Or.inr (Or.inr ⟨single, ?_⟩))
  rw [descriptor.1, unaligned]
  rfl

/-- No pointer that the encoder makes can be used by L1: the VMWRITE of it is
refused, an entry with it is refused, and so is the INVEPT of it. -/
theorem eptPointer_refused {config : Ept.EptpConfig} {raw : U64}
    (built : Ept.buildEptPointer config = some raw) (vcpu : NestedVcpu σ) :
    (∀ write, write.opcode = .Vmwrite → write.encoding = kVmcsFieldEptPointer →
      write.source = raw →
      (dispatchNestedInstruction vcpu (some write)).1.status ≠ .Success) ∧
    (∀ vmcs, field vmcs kVmcsFieldSecondaryControls &&&
        kNestedSecondaryEnableEpt.setWidth 64 ≠ 0 →
      field vmcs kVmcsFieldEptPointer = raw → validateEntryState vcpu vmcs = false) ∧
    (∀ invept reserved, invept.opcode = .Invept → invept.descriptorType = 1 →
      (readDescriptor vcpu invept).1 = some (raw, reserved) →
      (dispatchNestedInstruction vcpu (some invept)).1.status ≠ .Success) := by
  have unaligned := isAlignedPage_of_built built
  refine ⟨fun write opcode encoding source success => ?_, fun vmcs enabled pointer => ?_,
    fun invept reserved opcode single descriptor success => ?_⟩
  · obtain ⟨after, slot, rule, written, _⟩ := dispatch_vmwrite_success opcode success
    rw [encoding, source] at written
    rw [written.aligned] at unaligned
    cases unaligned
  · by_contra accepted
    rw [Bool.not_eq_false] at accepted
    have aligned := (entryChecked_of_validateEntryState accepted).ept enabled
    rw [pointer, unaligned] at aligned
    cases aligned
  · obtain ⟨valid, on⟩ := handled_of_success (by rw [opcode]; decide) (by rw [opcode]; decide) success
    have run : dispatchNestedInstruction vcpu (some invept) = emulateInvept vcpu invept := by
      simp [dispatchNestedInstruction, valid, on, opcode]
    rw [run] at success
    rw [emulateInvept_aligned single descriptor success] at unaligned
    cases unaligned

/-- A single-context INVEPT with its descriptor inline. -/
def inveptOf (eptPointer : U64) : VmxInstruction :=
  { vmxOperands .Invept 0 with
    flags := kDescriptorIsInline, descriptorType := 1, descriptor := eptPointer }

theorem eptPointer_refused_writeBack :
    Ept.buildEptPointer Ept.writeBackConfig = some 0x10005E ∧
      (dispatchNestedInstruction loadedVcpu
        (some (registerOperands .Vmwrite kVmcsFieldEptPointer 0x10005E))).1.status ≠ .Success := by
  have built : Ept.buildEptPointer Ept.writeBackConfig = some 0x10005E := by decide
  exact ⟨built, (eptPointer_refused built loadedVcpu).1 _ rfl rfl rfl⟩

/-- A vCPU whose current VMCS is ready to enter with EPT, but for the pointer. -/
def eptVcpu : NestedVcpu Unit :=
  Run.after nestedStep loadedVcpu [.writeField kVmcsFieldGuestRflags 2,
    .writeField kVmcsFieldPrimaryControls 0x80000000, .writeField kVmcsFieldSecondaryControls 2]

/-- The current VMCS with an EPT pointer stored past the field rule. -/
def withPointer (eptPointer : U64) : NestedVmcs12 :=
  writeStoredField (eptVcpu.vmcs ⟨0, by decide⟩) ⟨5, by decide⟩ eptPointer

/-- The pointer of a write-back root at 1 MiB is refused in the three places;
an aligned value, which is no pointer, passes the entry check. -/
theorem writeBack_pointer_unusable :
    Ept.buildEptPointer Ept.writeBackConfig = some 0x10005E ∧
      Ept.decodeEptPointer 0x5000 = none ∧
      isPhysicalAddress Ept.writeBackConfig.rootPhysical
        loadedVcpu.capabilities.maxPhysicalAddressBits = true ∧
      loadedVcpu.vmxonActive = true ∧ loadedVcpu.capabilities.featureBits &&& kCapEpt ≠ 0 ∧
      (currentVmcs loadedVcpu).isSome = true ∧
      (dispatchNestedInstruction loadedVcpu
        (some (registerOperands .Vmwrite kVmcsFieldEptPointer 0x10005E))).1.status =
          .VmfailValid ∧
      validateEntryState eptVcpu (withPointer 0x5000) = true ∧
      validateEntryState eptVcpu (withPointer 0x10005E) = false ∧
      (dispatchNestedInstruction loadedVcpu (some (inveptOf 0x10005E))).1.status =
        .VmfailInvalid := by
  decide +kernel

end Knhv.Nested
