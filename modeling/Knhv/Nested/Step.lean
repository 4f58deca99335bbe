import Knhv.Nested.Control

namespace Knhv.Nested

variable {σ : Type}

/-- Everything that can happen to a nested vCPU: an instruction, a reflected
exit, a field write by the monitor, or the guest changing its own memory
between two of them. -/
inductive NestedInput (σ : Type)
  | dispatch (instruction : Option VmxInstruction)
  | reflect (exitRecord : Option NestedExitRecord)
  | writeField (encoding : U32) (value : U64)
  | guest (context : σ)

def nestedStep (vcpu : NestedVcpu σ) : NestedInput σ → NestedVcpu σ
  | .dispatch instruction => (dispatchNestedInstruction vcpu instruction).2
  | .reflect exitRecord => (reflectNestedExit vcpu exitRecord).2
  | .writeField encoding value => (writeNestedVmcsField vcpu encoding value).2
  | .guest context => vcpu.withContext context

/-- The vCPU as its owner sets it up: `InitializeNestedVcpu`, and then the
virtual CR4.VMXE bit that the control device switches on. -/
def nestedStart (capabilities : Option NestedCapabilities) (memory : NestedMemory σ)
    (vmxeEnabled : Bool) : NestedVcpu σ :=
  { initializeNestedVcpu capabilities memory with vmxeEnabled := vmxeEnabled }

/-- The lifecycle events of a nested vCPU. `quiet` is any step without one. -/
inductive VmxEvent
  | quiet
  | vmxon (region : U64)
  | vmxoff
  | clear (region : U64)
  | load (region : U64)
  | launch (region : U64)
  | resume (region : U64)
  | exit (region : U64)
  deriving DecidableEq

/-- The event that the outcome of an instruction shows from outside: which
instruction succeeded and the region it worked on, that is the validated
operand of VMXON, VMCLEAR and VMPTRLD and the current VMCS of an entry. -/
def outcomeEvent (vcpu : NestedVcpu σ) (instruction : VmxInstruction)
    (outcome : NestedResult × NestedVcpu σ) : VmxEvent :=
  if outcome.1.status = .Success then
    match instruction.opcode, (validateVmxRegion vcpu instruction.linearOperand).1 with
    | .Vmxon, some region => .vmxon region
    | .Vmxoff, _ => .vmxoff
    | .Vmclear, some region => .clear region
    | .Vmptrld, some region => .load region
    | .Vmlaunch, _ => .launch vcpu.currentVmcsGpa
    | .Vmresume, _ => .resume vcpu.currentVmcsGpa
    | _, _ => .quiet
  else .quiet

def nestedEvent (vcpu : NestedVcpu σ) : NestedInput σ → VmxEvent
  | .dispatch (some instruction) =>
    outcomeEvent vcpu instruction (dispatchNestedInstruction vcpu (some instruction))
  | .reflect exitRecord =>
    if (reflectNestedExit vcpu exitRecord).1.status = .Success then .exit vcpu.currentVmcsGpa
    else .quiet
  | _ => .quiet

/-- The two ways in which a region gets a slot: it has one, or a free slot is
set up for it. -/
inductive Allocates (control : NestedControl) (region : U64) (slot : Fin kNestedVmcsSlots) :
    NestedControl → Prop
  | found : control.find region = some slot → Allocates control region slot control
  | fresh : control.find region = none → (control.vmcs slot).allocated = false →
      Allocates control region slot
        { control.setVmcs slot
            ⟨region, control.capabilities.vmxRevision &&& kNestedVmxRevisionMask, .Clear, true⟩ with
          vmcsCount := control.vmcsCount + 1 }

/-- What an operand region is known to be once it has been validated. -/
structure ValidRegion (control : NestedControl) (region : U64) : Prop where
  aligned : isAlignedPage region = true
  physical : isPhysicalAddress region control.capabilities.maxPhysicalAddressBits = true

/-- Everything a step can do to the control state, guards included. -/
inductive NestedEffect : VmxEvent → NestedControl → NestedControl → Prop
  | quiet {control} : NestedEffect .quiet control control
  | vmxon {control region} : control.vmxonActive = false → ValidRegion control region →
      NestedEffect (.vmxon region) control
        { control with
          vmxonActive := true, vmxonGpa := region, currentVmcsGpa := kNoCurrentVmcs
          l2Running := false }
  | vmxoff {control} : control.vmxonActive = true → control.l2Running = false →
      NestedEffect .vmxoff control
        { control with
          vmxonActive := false, l2Running := false, currentVmcsGpa := kNoCurrentVmcs }
  | clear {control region slot allocated} :
      control.vmxonActive = true → control.l2Running = false → ValidRegion control region →
      region ≠ control.vmxonGpa → Allocates control region slot allocated →
      NestedEffect (.clear region) control
        { allocated.setVmcs slot { allocated.vmcs slot with state := .Clear } with
          currentVmcsGpa :=
            if control.currentVmcsGpa = region then kNoCurrentVmcs else control.currentVmcsGpa }
  | load {control region slot allocated} :
      control.vmxonActive = true → ValidRegion control region → region ≠ control.vmxonGpa →
      Allocates control region slot allocated →
      ¬((allocated.vmcs slot).state = .Active ∧ control.currentVmcsGpa ≠ region) →
      NestedEffect (.load region) control
        { allocated.setVmcs slot { allocated.vmcs slot with state := .Active } with
          currentVmcsGpa := region }
  | launch {control slot} :
      control.vmxonActive = true → control.l2Running = false →
      control.currentVmcsGpa ≠ kNoCurrentVmcs → control.find control.currentVmcsGpa = some slot →
      (control.vmcs slot).state = .Active →
      NestedEffect (.launch control.currentVmcsGpa) control
        { control.setVmcs slot { control.vmcs slot with state := .Launched } with l2Running := true }
  | resume {control slot} :
      control.vmxonActive = true → control.l2Running = false →
      control.currentVmcsGpa ≠ kNoCurrentVmcs → control.find control.currentVmcsGpa = some slot →
      (control.vmcs slot).state = .Launched →
      NestedEffect (.resume control.currentVmcsGpa) control
        { control.setVmcs slot { control.vmcs slot with state := .Launched } with l2Running := true }
  | exit {control} : control.l2Running = true → control.currentVmcsGpa ≠ kNoCurrentVmcs →
      NestedEffect (.exit control.currentVmcsGpa) control { control with l2Running := false }

theorem Allocates.allocated {control after : NestedControl} {region : U64}
    {slot : Fin kNestedVmcsSlots} (alloc : Allocates control region slot after) :
    (after.vmcs slot).allocated = true ∧ (after.vmcs slot).regionGpa = region := by
  cases alloc with
  | found at_ =>
    obtain ⟨used, same, _⟩ := NestedControl.find_eq_some_iff.mp at_
    exact ⟨used, same⟩
  | fresh => simp [NestedControl.setVmcs]

/-- Allocation works on the table alone. -/
theorem Allocates.frame {control after : NestedControl} {region : U64}
    {slot : Fin kNestedVmcsSlots} (alloc : Allocates control region slot after) :
    after.version = control.version ∧ after.size = control.size ∧
      after.capabilities = control.capabilities ∧ after.vmxonActive = control.vmxonActive ∧
      after.l2Running = control.l2Running ∧ after.vmxonGpa = control.vmxonGpa ∧
      after.currentVmcsGpa = control.currentVmcsGpa := by
  cases alloc <;> exact ⟨rfl, rfl, rfl, rfl, rfl, rfl, rfl⟩

/-- `AllocateVmcs` fails only with a full table, and then changes nothing. -/
theorem allocateVmcs_none {vcpu after : NestedVcpu σ} {region : U64}
    (run : allocateVmcs vcpu region = (none, after)) : after = vcpu := by
  unfold allocateVmcs at run
  split at run
  · simp at run
  · split at run <;> simp at run
    exact run.symm

theorem allocateVmcs_some {vcpu after : NestedVcpu σ} {region : U64}
    {slot : Fin kNestedVmcsSlots} (run : allocateVmcs vcpu region = (some slot, after)) :
    Allocates vcpu.control region slot after.control ∧
      after.currentVmcsGpa = vcpu.currentVmcsGpa := by
  unfold allocateVmcs at run
  split at run
  next other at_ =>
    simp only [Prod.mk.injEq, Option.some.injEq] at run
    obtain ⟨rfl, rfl⟩ := run
    exact ⟨.found at_, rfl⟩
  next none =>
    split at run
    · simp at run
    next free first =>
      simp only [Prod.mk.injEq, Option.some.injEq] at run
      obtain ⟨rfl, rfl⟩ := run
      have unused : (vcpu.vmcs free).allocated = false := by
        simpa using Fin.eq_true_of_find?_eq_some first
      have shape := @Allocates.fresh vcpu.control region free none unused
      refine ⟨?_, rfl⟩
      convert shape using 1
      exact NestedControl.ext rfl rfl rfl rfl rfl rfl rfl rfl (setVmcs_vmcs_control ..)

/-- A freshly allocated slot is `Clear`; so a slot that VMPTRLD finds `Active`
was tracked before. -/
theorem allocateVmcs_active {vcpu after : NestedVcpu σ} {region : U64}
    {slot : Fin kNestedVmcsSlots} (run : allocateVmcs vcpu region = (some slot, after))
    (active : (after.vmcs slot).state = .Active) : after = vcpu := by
  unfold allocateVmcs at run
  split at run
  · simp only [Prod.mk.injEq] at run
    exact run.2.symm
  · split at run
    · simp at run
    · simp only [Prod.mk.injEq, Option.some.injEq] at run
      obtain ⟨rfl, rfl⟩ := run
      simp [NestedVcpu.setVmcs] at active

end Knhv.Nested
