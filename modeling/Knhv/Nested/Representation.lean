import Mathlib.Algebra.Group.Nat.Defs
import Knhv.Nested.Invariant

namespace Knhv.Nested

variable {σ : Type}

/-- The states of a nested vCPU: the one its owner set up, with any
capabilities and any memory, and then one input after the other. -/
inductive Reachable : NestedVcpu σ → Prop
  | start (capabilities : Option NestedCapabilities) (memory : NestedMemory σ)
      (vmxeEnabled : Bool) : Reachable (nestedStart capabilities memory vmxeEnabled)
  | next {vcpu : NestedVcpu σ} : Reachable vcpu → (input : NestedInput σ) →
      Reachable (nestedStep vcpu input)

theorem Reachable.after {vcpu : NestedVcpu σ} (reached : Reachable vcpu)
    (inputs : List (NestedInput σ)) : Reachable (Run.after nestedStep vcpu inputs) :=
  Run.invariant_always (fun _ input before => .next before input) reached inputs

theorem TableInv.start (capabilities : Option NestedCapabilities) (memory : NestedMemory σ)
    (vmxeEnabled : Bool) : TableInv (nestedStart capabilities memory vmxeEnabled).control := by
  have free (slot) : ¬((nestedStart capabilities memory vmxeEnabled).control.vmcs slot).allocated =
      true := Bool.false_ne_true
  refine ⟨fun first _ used => absurd used (free first), fun slot used => absurd used (free slot),
    fun slot used => absurd used (free slot), ?_⟩
  simp only [SlotTable.countUsed, free]
  rfl

theorem PointerInv.start (capabilities : Option NestedCapabilities) (memory : NestedMemory σ)
    (vmxeEnabled : Bool) : PointerInv (nestedStart capabilities memory vmxeEnabled).control :=
  ⟨Or.inl rfl, nofun, nofun, nofun, fun _ => rfl, nofun⟩

theorem Reachable.tableInv {vcpu : NestedVcpu σ} (reached : Reachable vcpu) :
    TableInv vcpu.control := by
  induction reached with
  | start capabilities memory vmxeEnabled => exact TableInv.start capabilities memory vmxeEnabled
  | next _ input ih => exact ih.effect (nestedStep_effect _ input)

theorem Reachable.pointerInv {vcpu : NestedVcpu σ} (reached : Reachable vcpu) :
    PointerInv vcpu.control := by
  induction reached with
  | start capabilities memory vmxeEnabled => exact PointerInv.start capabilities memory vmxeEnabled
  | next before input ih => exact ih.effect before.tableInv (nestedStep_effect _ input)

theorem Reachable.fieldsFit {vcpu : NestedVcpu σ} (reached : Reachable vcpu) : FieldsFit vcpu := by
  induction reached with
  | start => exact fun _ => NestedVmcs12.fieldsFit_of_zero rfl
  | next _ input ih => exact ih.step input

/-- A region has at most one slot, so any slot that tracks it is the one that
the search finds. -/
theorem TableInv.find_eq {control : NestedControl} (table : TableInv control) {region : U64}
    {slot : Fin kNestedVmcsSlots} (used : (control.vmcs slot).allocated = true)
    (same : (control.vmcs slot).regionGpa = region) : control.find region = some slot := by
  refine NestedControl.find_eq_some_iff.mpr ⟨used, same, ?_⟩
  rintro earlier before ⟨usedEarlier, sameEarlier⟩
  exact before.ne (table.distinct earlier slot usedEarlier used (sameEarlier.trans same.symm))

/-- A pointer that is not null names a tracked region. -/
theorem Reachable.currentVmcs_isSome {vcpu : NestedVcpu σ} (reached : Reachable vcpu)
    (current : vcpu.currentVmcsGpa ≠ kNoCurrentVmcs) : ∃ slot, currentVmcs vcpu = some slot := by
  rcases reached.pointerInv.current with null | ⟨slot, used, same⟩
  · exact absurd null current
  · exact ⟨slot, currentVmcs_eq_some_iff.mpr ⟨current, reached.tableInv.find_eq used same⟩⟩

/-- The width that the address checks use for a configured number of bits. -/
def physicalWidth (addressBits : U32) : Nat :=
  if 1 ≤ addressBits ∧ addressBits ≤ 52 then addressBits.toNat else 48

theorem isPhysicalAddress_iff {value : U64} {addressBits : U32} :
    isPhysicalAddress value addressBits = true ↔ value.toNat < 2 ^ physicalWidth addressBits := by
  unfold isPhysicalAddress physicalWidth
  simp only [beq_iff_eq, BitVec.toNat_eq, BitVec.toNat_ushiftRight, Nat.shiftRight_eq_div_pow]
  split <;> exact Nat.div_eq_zero_iff_lt (Nat.two_pow_pos _)

theorem isAlignedPage_iff {value : U64} :
    isAlignedPage value = true ↔ value.toNat % 4096 = 0 := by
  have mask : kNestedPageSize.setWidth 64 - 1 = 0xFFF#64 := by decide
  have low : value.toNat &&& 4095 = value.toNat % 4096 := Nat.and_two_pow_sub_one_eq_mod _ 12
  simp only [isAlignedPage, mask, beq_iff_eq, BitVec.toNat_eq, BitVec.toNat_and]
  change value.toNat &&& 4095 = 0 ↔ _
  rw [low]

/-- What every reachable nested vCPU looks like, in the words of its own
members. -/
structure Representation (vcpu : NestedVcpu σ) : Prop where
  distinct : ∀ first second, (vcpu.vmcs first).allocated = true →
    (vcpu.vmcs second).allocated = true →
    (vcpu.vmcs first).regionGpa = (vcpu.vmcs second).regionGpa → first = second
  aligned : ∀ slot, (vcpu.vmcs slot).allocated = true → (vcpu.vmcs slot).regionGpa.toNat % 4096 = 0
  physical : ∀ slot, (vcpu.vmcs slot).allocated = true →
    (vcpu.vmcs slot).regionGpa.toNat < 2 ^ physicalWidth vcpu.capabilities.maxPhysicalAddressBits
  count : vcpu.vmcsCount.toNat =
    (Finset.univ.filter fun slot => (vcpu.vmcs slot).allocated = true).card
  bounded : vcpu.vmcsCount.toNat ≤ 16
  revision : ∀ slot, (vcpu.vmcs slot).allocated = true →
    (vcpu.vmcs slot).revision = vcpu.capabilities.vmxRevision &&& kNestedVmxRevisionMask
  current : vcpu.currentVmcsGpa = ~~~0 ∨
    ∃ slot, (vcpu.vmcs slot).allocated = true ∧ (vcpu.vmcs slot).regionGpa = vcpu.currentVmcsGpa
  vmxon : vcpu.vmxonActive = true → vcpu.currentVmcsGpa ≠ vcpu.vmxonGpa
  fields : ∀ slot rule, (vcpu.vmcs slot).fields (fieldIndex rule) &&&
    fieldMask (fieldRule rule).width = (vcpu.vmcs slot).fields (fieldIndex rule)
  running : vcpu.l2Running = true → vcpu.vmxonActive = true ∧ currentVmcs vcpu ≠ none

/-- Every reachable vCPU has the representation above; so an exit always finds
the VMCS it belongs to. -/
theorem reachable_representation {vcpu : NestedVcpu σ} (reached : Reachable vcpu) :
    Representation vcpu ∧
      ∀ exitRecord, (reflectNestedExit vcpu exitRecord).1.status ≠ .RecoveryRequired := by
  have table := reached.tableInv
  have pointers := reached.pointerInv
  have running : vcpu.l2Running = true → vcpu.vmxonActive = true ∧ currentVmcs vcpu ≠ none := by
    intro l2
    obtain ⟨on, current⟩ := pointers.running l2
    obtain ⟨slot, found⟩ := reached.currentVmcs_isSome current
    exact ⟨on, by simp [found]⟩
  refine ⟨⟨table.distinct, ?_, ?_, table.count, table.vmcsCount_le, table.revision,
    pointers.current, pointers.vmxon, fun slot => reached.fieldsFit slot, running⟩, ?_⟩
  · exact fun slot used => isAlignedPage_iff.mp (table.region slot used).aligned
  · exact fun slot used => isPhysicalAddress_iff.mp (table.region slot used).physical
  · intro exitRecord recovery
    unfold reflectNestedExit at recovery
    dsimp only at recovery
    split at recovery
    · simp [makeResult] at recovery
    split at recovery
    · simp [makeResult] at recovery
    rename_i record checks
    split at recovery
    · rename_i lost
      have l2 : vcpu.l2Running = true := by
        by_contra idle
        exact checks (by simp [idle])
      exact (running l2).2 lost
    · simp [makeSuccess, makeResult] at recovery

/-! A small guest. Page 0 holds pointers, the word at `8 * k` being the address
of page `k`; every other page starts with revision 1 and is zero beyond. -/

def flatByte (address : U64) : U8 :=
  if address < 4096 then
    if address &&& 7 = 1 then ((address >>> 3) <<< 4).setWidth 8 else 0
  else if address &&& 4095 = 0 then 1 else 0

def flatMemory : NestedMemory Unit where
  context := ()
  translate := some fun _ linear _ => (some linear, ())
  read := some fun _ guestPhysical _ =>
    (some fun index => flatByte (guestPhysical + BitVec.ofNat 64 index), ())
  write := some fun _ _ _ => (true, ())

def flatVcpu : NestedVcpu Unit := nestedStart none flatMemory true

/-- An instruction whose memory operand is at a linear address. -/
def vmxOperands (opcode : VmxOpcode) (linearOperand : U64) : VmxInstruction where
  version := kNestedModelVersion
  size := sizeofVmxInstruction
  opcode := opcode
  instructionLength := 3
  flags := 0
  descriptorType := 0
  reserved := 0
  encoding := 0
  reserved2 := 0
  linearOperand := linearOperand
  destination := 0
  source := 0
  descriptor := 0

def vmxInstruction (opcode : VmxOpcode) (linearOperand : U64) : NestedInput Unit :=
  .dispatch (some (vmxOperands opcode linearOperand))

/-- An exit that L1 takes from its guest. -/
def hltExit : NestedInput Unit :=
  .reflect (some
    { version := kNestedModelVersion, size := sizeofNestedExitRecord, reason := 12
      instructionLength := 1, qualification := 0 })

/-- VMXON on page 1, VMPTRLD of page 2, and a launch. -/
def launchTrace : List (NestedInput Unit) :=
  [vmxInstruction .Vmxon 8, vmxInstruction .Vmptrld 16, .writeField kVmcsFieldGuestRflags 2,
    vmxInstruction .Vmlaunch 0]

/-- A launch of the current VMCS and the exit from it. -/
def enterAndExit : List (NestedInput Unit) :=
  [.writeField kVmcsFieldGuestRflags 2, vmxInstruction .Vmlaunch 0, hltExit]

theorem representation_of_launched_guest :
    (Run.after nestedStep flatVcpu launchTrace).l2Running = true ∧
      Representation (Run.after nestedStep flatVcpu launchTrace) :=
  ⟨by decide +kernel, (reachable_representation ((Reachable.start none flatMemory true).after _)).1⟩

end Knhv.Nested
