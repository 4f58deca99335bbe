import Knhv.Nested.Representation

namespace Knhv.Nested

variable {σ : Type}

/-- VMX operation as L1 sees it: which region is the VMXON region, which VMCS
is current, whether L2 runs, and the launch state of every region that has
been cleared or loaded. There is no table, no slot and no counter here. -/
@[ext]
structure VmxOperation where
  vmxon : Option U64
  current : Option U64
  running : Bool
  tracked : U64 → Option Vmcs12State

/-- The events that may happen next. -/
def VmxOperation.Enabled (operation : VmxOperation) : VmxEvent → Prop
  | .quiet => True
  | .vmxon _ => operation.vmxon = none
  | .vmxoff => operation.vmxon.isSome ∧ operation.running = false
  | .clear region =>
    operation.vmxon.isSome ∧ operation.vmxon ≠ some region ∧ operation.running = false
  | .load region =>
    operation.vmxon.isSome ∧ operation.vmxon ≠ some region ∧
      (operation.tracked region = some .Active → operation.current = some region)
  | .launch region =>
    operation.vmxon.isSome ∧ operation.running = false ∧ operation.current = some region ∧
      operation.tracked region = some .Active
  | .resume region =>
    operation.vmxon.isSome ∧ operation.running = false ∧ operation.current = some region ∧
      operation.tracked region = some .Launched
  | .exit region => operation.running = true ∧ operation.current = some region

/-- What an event does. -/
def VmxOperation.apply (operation : VmxOperation) : VmxEvent → VmxOperation
  | .quiet => operation
  | .vmxon region => { operation with vmxon := some region, current := none, running := false }
  | .vmxoff => { operation with vmxon := none, current := none, running := false }
  | .clear region =>
    { operation with
      current := if operation.current = some region then none else operation.current
      tracked := Function.update operation.tracked region (some .Clear) }
  | .load region =>
    { operation with
      current := some region
      tracked := Function.update operation.tracked region (some .Active) }
  | .launch region | .resume region =>
    { operation with
      running := true
      tracked := Function.update operation.tracked region (some .Launched) }
  | .exit _ => { operation with running := false }

def NestedControl.operation (control : NestedControl) : VmxOperation where
  vmxon := if control.vmxonActive then some control.vmxonGpa else none
  current := if control.currentVmcsGpa = kNoCurrentVmcs then none else some control.currentVmcsGpa
  running := control.l2Running
  tracked := fun region => (control.find region).map fun slot => (control.vmcs slot).state

def NestedVcpu.operation (vcpu : NestedVcpu σ) : VmxOperation := vcpu.control.operation

theorem NestedControl.find_congr {control after : NestedControl}
    (slots : ∀ slot, (after.vmcs slot).allocated = (control.vmcs slot).allocated ∧
      (after.vmcs slot).regionGpa = (control.vmcs slot).regionGpa ∧
      (after.vmcs slot).revision = (control.vmcs slot).revision) (region : U64) :
    after.find region = control.find region := by
  unfold find
  congr 1
  funext slot
  rw [(slots slot).1, (slots slot).2.1]

/-- Setting the state of a region's slot sets the state of that region. -/
theorem NestedControl.tracked_setState {control : NestedControl} {region : U64}
    {slot : Fin kNestedVmcsSlots} (found : control.find region = some slot) (state : Vmcs12State) :
    (control.setVmcs slot { control.vmcs slot with state := state }).operation.tracked =
      Function.update control.operation.tracked region (some state) := by
  funext other
  have same := find_congr (setVmcs_state_slots control slot state)
  simp only [operation, same]
  by_cases atRegion : other = region
  · subst atRegion
    simp [found, setVmcs]
  · rw [Function.update_of_ne atRegion]
    cases at_ : control.find other with
    | none => rfl
    | some third =>
      have different : third ≠ slot := by
        rintro rfl
        obtain ⟨_, first, _⟩ := find_eq_some_iff.mp found
        obtain ⟨_, second, _⟩ := find_eq_some_iff.mp at_
        exact atRegion (second.symm.trans first)
      simp [setVmcs, different]

/-- Allocation gives a region its slot and leaves every other region alone. -/
theorem Allocates.find {control after : NestedControl} {region : U64}
    {slot : Fin kNestedVmcsSlots} (alloc : Allocates control region slot after) :
    after.find region = some slot ∧ ∀ other ≠ region,
      after.operation.tracked other = control.operation.tracked other := by
  cases alloc with
  | found at_ => exact ⟨at_, fun _ _ => rfl⟩
  | fresh untracked free =>
    have absent := NestedControl.find_eq_none_iff.mp untracked
    constructor
    · refine NestedControl.find_eq_some_iff.mpr ⟨by simp [NestedControl.setVmcs],
        by simp [NestedControl.setVmcs], fun earlier before => ?_⟩
      simp only [NestedControl.setVmcs, Function.update_of_ne before.ne]
      exact absent earlier
    · intro other different
      set filled : NestedControl := { control.setVmcs slot ⟨region,
        control.capabilities.vmxRevision &&& kNestedVmxRevisionMask, .Clear, true⟩ with
          vmcsCount := control.vmcsCount + 1 } with filledEq
      have kept (third) (elsewhere : third ≠ slot) : filled.vmcs third = control.vmcs third :=
        Function.update_of_ne elsewhere _ _
      have sameFind : filled.find other = control.find other := by
        unfold NestedControl.find
        congr 1
        funext third
        by_cases atSlot : third = slot
        · subst atSlot
          simp [filledEq, NestedControl.setVmcs, free, different.symm]
        · rw [kept third atSlot]
      simp only [NestedControl.operation, sameFind]
      cases at_ : control.find other with
      | none => rfl
      | some third =>
        have elsewhere : third ≠ slot := by
          rintro rfl
          have used := (NestedControl.find_eq_some_iff.mp at_).1
          simp [free] at used
        simp [kept third elsewhere]

/-- VMCLEAR and VMPTRLD: allocate a slot if need be, then set its state. -/
theorem Allocates.tracked_setState {control after : NestedControl} {region : U64}
    {slot : Fin kNestedVmcsSlots} (alloc : Allocates control region slot after)
    (state : Vmcs12State) :
    (after.setVmcs slot { after.vmcs slot with state := state }).operation.tracked =
      Function.update control.operation.tracked region (some state) := by
  obtain ⟨found, others⟩ := alloc.find
  rw [NestedControl.tracked_setState found]
  funext other
  by_cases atRegion : other = region
  · subst atRegion
    simp only [Function.update_self]
  · simp only [Function.update_of_ne atRegion]
    exact others other atRegion

theorem ValidRegion.ne_null {control : NestedControl} {region : U64}
    (valid : ValidRegion control region) : region ≠ kNoCurrentVmcs :=
  ne_kNoCurrentVmcs_of_aligned valid.aligned

/-- Every effect on the table is an event of VMX operation: it was enabled,
and it did what the event says. -/
theorem NestedEffect.refines {event : VmxEvent} {control after : NestedControl}
    (effect : NestedEffect event control after) :
    control.operation.Enabled event ∧ after.operation = control.operation.apply event := by
  cases effect with
  | quiet => exact ⟨trivial, rfl⟩
  | vmxon off valid =>
    refine ⟨by simp [VmxOperation.Enabled, NestedControl.operation, off], ?_⟩
    exact VmxOperation.ext rfl rfl rfl rfl
  | vmxoff on idle =>
    refine ⟨by simp [VmxOperation.Enabled, NestedControl.operation, on, idle], ?_⟩
    exact VmxOperation.ext rfl rfl rfl rfl
  | @clear _ region slot allocated on idle valid other alloc =>
    obtain ⟨_, _, _, sameOn, sameIdle, sameVmxon, _⟩ := alloc.frame
    refine ⟨by simp [VmxOperation.Enabled, NestedControl.operation, on, idle, other.symm], ?_⟩
    refine VmxOperation.ext ?_ ?_ sameIdle (alloc.tracked_setState .Clear)
    · simp [VmxOperation.apply, NestedControl.operation, NestedControl.setVmcs, sameOn, sameVmxon]
    · by_cases same : control.currentVmcsGpa = region
      · simp [VmxOperation.apply, NestedControl.operation, same, valid.ne_null]
      · by_cases null : control.currentVmcsGpa = kNoCurrentVmcs
        · simp [VmxOperation.apply, NestedControl.operation, null]
        · simp [VmxOperation.apply, NestedControl.operation, same, null]
  | @load _ region slot allocated on valid other alloc usable =>
    obtain ⟨_, _, _, sameOn, sameRunning, sameVmxon, _⟩ := alloc.frame
    refine ⟨⟨by simp [NestedControl.operation, on], ?_, ?_⟩, ?_⟩
    · simp [NestedControl.operation, on, other.symm]
    · intro active
      cases alloc with
      | found at_ =>
        simp only [NestedControl.operation, at_, Option.map_some, Option.some.injEq] at active ⊢
        have same : control.currentVmcsGpa = region := by
          by_contra elsewhere
          exact usable ⟨active, elsewhere⟩
        rw [same, if_neg valid.ne_null]
      | fresh untracked free => simp [NestedControl.operation, untracked] at active
    · refine VmxOperation.ext ?_ ?_ sameRunning (alloc.tracked_setState .Active)
      · simp [VmxOperation.apply, NestedControl.operation, NestedControl.setVmcs, sameOn, sameVmxon]
      · simp [VmxOperation.apply, NestedControl.operation, valid.ne_null]
  | launch on idle current found active | resume on idle current found active =>
    constructor
    · simp [VmxOperation.Enabled, NestedControl.operation, on, idle, current, found, active]
    · exact VmxOperation.ext rfl rfl rfl (NestedControl.tracked_setState found .Launched)
  | exit running current =>
    exact ⟨by simp [VmxOperation.Enabled, NestedControl.operation, running, current],
      VmxOperation.ext rfl rfl rfl rfl⟩

/-- The nested vCPU refines VMX operation: with every input it takes the step
of the event it shows, and shows only events that were enabled. -/
theorem nestedStep_refines (vcpu : NestedVcpu σ) (input : NestedInput σ) :
    vcpu.operation.Enabled (nestedEvent vcpu input) ∧
      (nestedStep vcpu input).operation = vcpu.operation.apply (nestedEvent vcpu input) :=
  (nestedStep_effect vcpu input).refines

theorem nestedStart_operation (capabilities : Option NestedCapabilities)
    (memory : NestedMemory σ) (vmxeEnabled : Bool) :
    (nestedStart capabilities memory vmxeEnabled).operation =
      { vmxon := none, current := none, running := false, tracked := fun _ => none } := by
  refine VmxOperation.ext rfl rfl rfl ?_
  funext region
  have untracked : (nestedStart capabilities memory vmxeEnabled).control.find region = none :=
    NestedControl.find_eq_none_iff.mpr fun _ => nofun
  simp only [NestedVcpu.operation, NestedControl.operation, untracked, Option.map_none]

end Knhv.Nested
