import Knhv.Lib.Bits
import Knhv.Nested.EntryCheck
import Knhv.Nested.Vmcs02

namespace Knhv.Vmcs02

open Knhv.Nested

variable {σ : Type}

/-- The model of a VMCS12, field by field. -/
def modelOf (vmcs : NestedVmcs12) : Vmcs12Model where
  size := sizeofVmcs12Model
  version := kVmcs02ModelVersion
  revision := vmcs.revision
  state := stateValue vmcs.state
  pinControls := (field vmcs kVmcsFieldPinControls).setWidth 32
  primaryControls := (field vmcs kVmcsFieldPrimaryControls).setWidth 32
  secondaryControls := (field vmcs kVmcsFieldSecondaryControls).setWidth 32
  exitControls := (field vmcs kVmcsFieldExitControls).setWidth 32
  entryControls := (field vmcs kVmcsFieldEntryControls).setWidth 32
  exceptionBitmap := (field vmcs kVmcsFieldExceptionBitmap).setWidth 32
  reserved := 0
  guestCr0 := field vmcs kVmcsFieldGuestCr0
  guestCr3 := field vmcs kVmcsFieldGuestCr3
  guestCr4 := field vmcs kVmcsFieldGuestCr4
  guestRip := field vmcs kVmcsFieldGuestRip
  guestRsp := field vmcs kVmcsFieldGuestRsp
  guestRflags := field vmcs kVmcsFieldGuestRflags
  eptPointer := field vmcs kVmcsFieldEptPointer
  vpid := field vmcs kVmcsFieldVpid

/-- The error word is not part of the model. -/
theorem modelOf_setVmcsReadOnly (vmcs : NestedVmcs12) (value : U64) :
    modelOf (setVmcsReadOnly vmcs kVmcsFieldInstructionError value) = modelOf vmcs := by
  have same (encoding : U32) (other : encoding ≠ kVmcsFieldInstructionError) :
      field (setVmcsReadOnly vmcs kVmcsFieldInstructionError value) encoding =
        field vmcs encoding :=
    field_congr (storedField_setVmcsReadOnly_of_ne other value)
  have control := control_setVmcsReadOnly vmcs kVmcsFieldInstructionError value
  have revision := congrArg VmcsControl.revision control
  have state := congrArg VmcsControl.state control
  simp only [NestedVmcs12.control] at revision state
  simp only [modelOf, revision, state, same kVmcsFieldPinControls (by decide),
    same kVmcsFieldPrimaryControls (by decide), same kVmcsFieldSecondaryControls (by decide),
    same kVmcsFieldExitControls (by decide), same kVmcsFieldEntryControls (by decide),
    same kVmcsFieldExceptionBitmap (by decide), same kVmcsFieldGuestCr0 (by decide),
    same kVmcsFieldGuestCr3 (by decide), same kVmcsFieldGuestCr4 (by decide),
    same kVmcsFieldGuestRip (by decide), same kVmcsFieldGuestRsp (by decide),
    same kVmcsFieldGuestRflags (by decide), same kVmcsFieldEptPointer (by decide),
    same kVmcsFieldVpid (by decide)]

/-- In every reachable state the model of the current VMCS can be read. -/
theorem readVmcs12Model_current {vcpu : NestedVcpu σ} {slot : Fin kNestedVmcsSlots}
    (reached : Reachable vcpu) (current : currentVmcs vcpu = some slot) :
    readVmcs12Model vcpu slot = some (modelOf (vcpu.vmcs slot)) := by
  obtain ⟨version, size⟩ := reached.header
  obtain ⟨used, same⟩ := findVmcs_tracks (currentVmcs_eq_some_iff.mp current).2
  have revision : (vcpu.vmcs slot).revision =
      vcpu.capabilities.vmxRevision &&& kNestedVmxRevisionMask :=
    reached.tableInv.revision slot used
  have read (encoding : U32) (known : Known encoding) :
      readField vcpu slot encoding = some (field (vcpu.vmcs slot) encoding) := by
    rw [readField, if_pos same.symm]
    exact readNestedVmcsField_eq_field current reached.fieldsFit known
  unfold readVmcs12Model
  dsimp only
  rw [if_neg (by simp [version, size, used, same, revision])]
  simp only [read kVmcsFieldPinControls (by decide +kernel),
    read kVmcsFieldPrimaryControls (by decide +kernel),
    read kVmcsFieldSecondaryControls (by decide +kernel),
    read kVmcsFieldExitControls (by decide +kernel),
    read kVmcsFieldEntryControls (by decide +kernel),
    read kVmcsFieldExceptionBitmap (by decide +kernel),
    read kVmcsFieldGuestCr0 (by decide +kernel), read kVmcsFieldGuestCr3 (by decide +kernel),
    read kVmcsFieldGuestCr4 (by decide +kernel), read kVmcsFieldGuestRip (by decide +kernel),
    read kVmcsFieldGuestRsp (by decide +kernel), read kVmcsFieldGuestRflags (by decide +kernel),
    read kVmcsFieldEptPointer (by decide +kernel), read kVmcsFieldVpid (by decide +kernel)]
  rfl

theorem validateEptPointer_of_aligned {raw : U64} (aligned : isAlignedPage raw = true) (bits : U32) :
    validateEptPointer raw bits = false := by
  have low : raw &&& 0xFFF = 0 := by
    have mask : kNestedPageSize.setWidth 64 - 1 = (0xFFF : U64) := by decide
    simpa only [isAlignedPage, mask, beq_iff_eq] using aligned
  simp only [validateEptPointer, Ept.decodeEptPointer_of_aligned low]

theorem stateValue_valid {state : Vmcs12State} (loaded : state ≠ .Clear) :
    isVmcs12StateValue (stateValue state) = true ∧ stateValue state ≠ stateValue .Clear := by
  cases state with
  | Clear => exact absurd rfl loaded
  | Active | Launched => decide

/-- The two validators agree on everything but two points: the builder decodes
the EPT pointer, which no page-aligned value survives, and it bounds CR3. -/
theorem isVmcs12ModelValid_iff {vmcs : NestedVmcs12} {capabilities : NestedCapabilities}
    (contract : isCapabilitiesContractValid capabilities = true)
    (revision : vmcs.revision = capabilities.vmxRevision &&& kNestedVmxRevisionMask)
    (state : vmcs.state ≠ .Clear) (checked : EntryChecked capabilities vmcs) :
    isVmcs12ModelValid (modelOf vmcs) capabilities = true ↔
      field vmcs kVmcsFieldSecondaryControls &&& kNestedSecondaryEnableEpt.setWidth 64 = 0 ∧
        isPhysical (field vmcs kVmcsFieldGuestCr3) capabilities.maxPhysicalAddressBits = true := by
  obtain ⟨stateOk, notClear⟩ := stateValue_valid state
  have header : isVersionedSizeValid kVmcs02ModelVersion sizeofVmcs12Model sizeofVmcs12Model =
      true := by decide
  have cr0 : isFixedCrValid (field vmcs kVmcsFieldGuestCr0) capabilities.cr0Fixed0
      capabilities.cr0Fixed1 = true := checked.guestCr0
  have cr4 : isFixedCrValid (field vmcs kVmcsFieldGuestCr4) capabilities.cr4Fixed0
      capabilities.cr4Fixed1 = true := checked.guestCr4
  have rip : isCanonical (field vmcs kVmcsFieldGuestRip) capabilities.linearAddressBits = true :=
    checked.guestRip
  have rsp : isCanonical (field vmcs kVmcsFieldGuestRsp) capabilities.linearAddressBits = true :=
    checked.guestRsp
  simp only [isVmcs12ModelValid, modelOf, header, contract, stateOk, notClear, revision, cr0, cr4, rip,
    rsp, checked.guestRflags, Bool.and_eq_true, Bool.not_eq_true', bne_iff_ne, ne_eq,
    not_false_eq_true, beq_self_eq_true, Bool.and_eq_false_iff, Bool.or_eq_false_iff,
    Bool.not_eq_false', beq_eq_false_iff_ne, decide_eq_false_iff_not, bne_eq_false_iff_eq,
    Bits.setWidth_and_eq_zero, true_and, and_true, and_assoc]
  constructor
  · rintro ⟨physical, ept, _⟩
    refine ⟨?_, physical⟩
    by_contra on
    obtain ⟨_, decoded⟩ := ept.resolve_left on
    rw [validateEptPointer_of_aligned (checked.ept on)] at decoded
    cases decoded
  · rintro ⟨off, physical⟩
    refine ⟨physical, Or.inl off, ?_, ?_⟩
    · exact or_iff_not_imp_left.mpr checked.vpid
    · exact or_iff_not_imp_left.mpr checked.vmfunc

/-- What the VMCS02 builder will make of the current VMCS. -/
def MergeAccepts (vcpu : NestedVcpu σ) : Prop :=
  ∃ slot model, currentVmcs vcpu = some slot ∧ readVmcs12Model vcpu slot = some model ∧
    isVmcs12ModelValid model vcpu.capabilities = true

instance (vcpu : NestedVcpu σ) : Decidable (MergeAccepts vcpu) :=
  decidable_of_iff (((currentVmcs vcpu).bind (readVmcs12Model vcpu)).any
      (isVmcs12ModelValid · vcpu.capabilities) = true) (by
    simp only [MergeAccepts, Option.any_eq_true, Option.bind_eq_some_iff]
    constructor
    · rintro ⟨model, ⟨slot, current, read⟩, accepted⟩
      exact ⟨slot, model, current, read, accepted⟩
    · rintro ⟨slot, model, current, read, accepted⟩
      exact ⟨model, ⟨slot, current, read⟩, accepted⟩)

/-- The entry has EPT off and a guest CR3 inside the physical width. -/
def MergeableEntry (vcpu : NestedVcpu σ) : Prop :=
  ∃ secondary guestCr3, readNestedVmcsField vcpu kVmcsFieldSecondaryControls = some secondary ∧
    secondary &&& kNestedSecondaryEnableEpt.setWidth 64 = 0 ∧
    readNestedVmcsField vcpu kVmcsFieldGuestCr3 = some guestCr3 ∧
    isPhysical guestCr3 vcpu.capabilities.maxPhysicalAddressBits = true

/-- A VMCS12 that VMLAUNCH or VMRESUME has entered is one that the VMCS02
builder accepts exactly if it enters with EPT off and a physical CR3. -/
theorem entry_mergeable_iff {vcpu : NestedVcpu σ} {instruction : VmxInstruction}
    (reached : Reachable vcpu) (contract : isCapabilitiesContractValid vcpu.capabilities = true)
    (opcode : instruction.opcode = .Vmlaunch ∨ instruction.opcode = .Vmresume)
    (success : (dispatchNestedInstruction vcpu (some instruction)).1.status = .Success) :
    MergeAccepts (dispatchNestedInstruction vcpu (some instruction)).2 ↔ MergeableEntry vcpu := by
  obtain ⟨slot, current, accepted, after⟩ := dispatch_entry_success opcode success
  have capabilities : (dispatchNestedInstruction vcpu (some instruction)).2.capabilities =
      vcpu.capabilities :=
    (nestedStep_effect vcpu (.dispatch (some instruction))).header.2.2
  obtain ⟨stillCurrent, contents⟩ := enterVmcs_vmcs current
  rw [← after] at stillCurrent contents
  have read := readVmcs12Model_current (reached.next (.dispatch (some instruction))) stillCurrent
  have model : modelOf ((nestedStep vcpu (.dispatch (some instruction))).vmcs slot) =
      modelOf { vcpu.vmcs slot with state := .Launched } := by
    rw [show (nestedStep vcpu (.dispatch (some instruction))).vmcs slot = _ from contents,
      modelOf_setVmcsReadOnly]
  rw [model] at read
  have checked := entryChecked_of_validateEntryState accepted
  obtain ⟨used, _⟩ := findVmcs_tracks (currentVmcs_eq_some_iff.mp current).2
  have valid := @isVmcs12ModelValid_iff { vcpu.vmcs slot with state := .Launched }
    vcpu.capabilities contract (reached.tableInv.revision slot used) nofun
    ⟨checked.guestCr0, checked.guestCr4, checked.guestRip, checked.guestRsp, checked.guestRflags,
      checked.ept, checked.vpid, checked.vmfunc⟩
  have secondary : readNestedVmcsField vcpu kVmcsFieldSecondaryControls =
      some (field (vcpu.vmcs slot) kVmcsFieldSecondaryControls) :=
    readNestedVmcsField_eq_field current reached.fieldsFit (by decide +kernel)
  have guestCr3 : readNestedVmcsField vcpu kVmcsFieldGuestCr3 =
      some (field (vcpu.vmcs slot) kVmcsFieldGuestCr3) :=
    readNestedVmcsField_eq_field current reached.fieldsFit (by decide +kernel)
  constructor
  · rintro ⟨other, accepted, sameSlot, readOther, ok⟩
    rw [Option.some.inj (sameSlot.symm.trans stillCurrent)] at readOther
    rw [← Option.some.inj (read.symm.trans readOther), capabilities] at ok
    obtain ⟨off, physical⟩ := valid.mp ok
    exact ⟨_, _, secondary, off, guestCr3, physical⟩
  · rintro ⟨controls, cr3, readControls, off, readCr3, physical⟩
    cases readControls.symm.trans secondary
    cases readCr3.symm.trans guestCr3
    refine ⟨slot, _, stillCurrent, read, ?_⟩
    rw [capabilities]
    exact valid.mpr ⟨off, physical⟩

/-- A VMCS12 on page 2 with one or more fields written. -/
def fieldTrace (writes : List (U32 × U64)) : List (NestedInput Unit) :=
  [vmxInstruction .Vmxon 8, vmxInstruction .Vmptrld 16] ++
    writes.map fun write => .writeField write.1 write.2

/-- An entry with a VPID and a small CR3 is one that the builder accepts. -/
theorem entry_mergeable_vpid :
    MergeAccepts (dispatchNestedInstruction (Run.after nestedStep flatVcpu (fieldTrace
      [(kVmcsFieldGuestRflags, 2), (kVmcsFieldPrimaryControls, 0x80000000),
        (kVmcsFieldSecondaryControls, 0x20), (kVmcsFieldVpid, 1), (kVmcsFieldGuestCr3, 0x5000)]))
      (some (vmxOperands .Vmlaunch 0))).2 :=
  (entry_mergeable_iff (flatVcpu_reached _) (by decide +kernel) (Or.inl rfl)
    (by decide +kernel)).mpr ⟨0x20, 0x5000, by decide +kernel⟩

/-- A VMLAUNCH after these writes succeeds, on a VMCS12 that the builder
refuses. -/
def EntersUnmergeable (writes : List (U32 × U64)) : Prop :=
  isCapabilitiesContractValid (Run.after nestedStep flatVcpu (fieldTrace writes)).capabilities =
      true ∧
    (dispatchNestedInstruction (Run.after nestedStep flatVcpu (fieldTrace writes))
      (some (vmxOperands .Vmlaunch 0))).1.status = .Success ∧
    (dispatchNestedInstruction (Run.after nestedStep flatVcpu (fieldTrace writes))
      (some (vmxOperands .Vmlaunch 0))).1.action = .EnterL2 ∧
    ¬MergeAccepts (dispatchNestedInstruction (Run.after nestedStep flatVcpu (fieldTrace writes))
      (some (vmxOperands .Vmlaunch 0))).2

/-- A guest CR3 beyond the physical width, and EPT with a page-aligned
pointer. -/
theorem entry_not_mergeable :
    EntersUnmergeable [(kVmcsFieldGuestRflags, 2), (kVmcsFieldGuestCr3, 1 <<< 48)] ∧
      EntersUnmergeable [(kVmcsFieldGuestRflags, 2), (kVmcsFieldPrimaryControls, 0x80000000),
        (kVmcsFieldSecondaryControls, 2), (kVmcsFieldEptPointer, 0x5000)] := by
  unfold EntersUnmergeable
  decide +kernel

end Knhv.Vmcs02
