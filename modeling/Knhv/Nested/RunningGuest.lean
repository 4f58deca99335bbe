import Knhv.Nested.StoredFields
import Knhv.Nested.Vmptrld

namespace Knhv.Nested

variable {σ : Type}

/-- The steps that show an event. -/
def Showing (event : VmxEvent) (vcpu : NestedVcpu σ) (input : NestedInput σ) : Prop :=
  nestedEvent vcpu input = event

/-- Over a run: two launches of the region have a VMCLEAR of it between them,
and a resume of it follows a launch that no VMCLEAR has undone. -/
structure LaunchDiscipline (region : U64) (vcpu : NestedVcpu σ) (inputs : List (NestedInput σ)) :
    Prop where
  launches : Run.Separated nestedStep (Showing (.launch region)) (Showing (.clear region)) vcpu inputs
  resumes : ∀ pre input post, inputs = pre ++ input :: post →
    Showing (.resume region) (Run.after nestedStep vcpu pre) input →
    Run.Since nestedStep (Showing (.launch region)) (Showing (.clear region)) vcpu pre

/-- VMPTRLD of a region whose slot is `Launched`. -/
def ReloadsLaunched (region : U64) (vcpu : NestedVcpu σ) (input : NestedInput σ) : Prop :=
  ∃ instruction slot, input = .dispatch (some instruction) ∧
    LoadsRegion vcpu instruction region ∧ findVmcs vcpu region = some slot ∧
    (vcpu.vmcs slot).state = .Launched

theorem nestedEvent_eq_load {vcpu : NestedVcpu σ} {input : NestedInput σ} {region : U64}
    (shown : nestedEvent vcpu input = .load region) :
    ∃ instruction, input = .dispatch (some instruction) ∧ LoadsRegion vcpu instruction region := by
  cases input with
  | dispatch instruction =>
    cases instruction with
    | none => cases shown
    | some instruction => exact ⟨instruction, rfl, nestedEvent_load_iff.mp shown⟩
  | reflect exitRecord =>
    simp only [nestedEvent] at shown
    split at shown <;> cases shown
  | writeField | guest => cases shown

theorem NestedVcpu.tracked_eq_some {vcpu : NestedVcpu σ} {region : U64} {state : Vmcs12State} :
    vcpu.operation.tracked region = some state ↔
      ∃ slot, findVmcs vcpu region = some slot ∧ (vcpu.vmcs slot).state = state :=
  Option.map_eq_some_iff

theorem reloadsLaunched_iff {region : U64} {vcpu : NestedVcpu σ} {input : NestedInput σ} :
    ReloadsLaunched region vcpu input ↔
      nestedEvent vcpu input = .load region ∧ vcpu.operation.tracked region = some .Launched := by
  constructor
  · rintro ⟨instruction, slot, rfl, loads, found, state⟩
    exact ⟨nestedEvent_load_iff.mpr loads, NestedVcpu.tracked_eq_some.mpr ⟨slot, found, state⟩⟩
  · rintro ⟨event, launched⟩
    obtain ⟨instruction, dispatched, loads⟩ := nestedEvent_eq_load event
    obtain ⟨slot, found, state⟩ := NestedVcpu.tracked_eq_some.mp launched
    exact ⟨instruction, slot, dispatched, loads, found, state⟩

instance (event : VmxEvent) (vcpu : NestedVcpu σ) (input : NestedInput σ) :
    Decidable (Showing event vcpu input) :=
  inferInstanceAs (Decidable (nestedEvent vcpu input = event))

instance (region : U64) (vcpu : NestedVcpu σ) (input : NestedInput σ) :
    Decidable (ReloadsLaunched region vcpu input) :=
  decidable_of_iff _ reloadsLaunched_iff.symm

/-- Only a launch takes a region to `Launched`, and no VMCLEAR keeps it there. -/
theorem launched_raised {vcpu : NestedVcpu σ} {input : NestedInput σ} {region : U64}
    (launched : (nestedStep vcpu input).operation.tracked region = some .Launched) :
    Showing (.launch region) vcpu input ∨
      vcpu.operation.tracked region = some .Launched ∧ ¬Showing (.clear region) vcpu input := by
  obtain ⟨enabled, step⟩ := nestedStep_refines vcpu input
  unfold Showing
  rw [step] at launched
  cases event : nestedEvent vcpu input with
  | quiet | vmxon | vmxoff | exit =>
    rw [event] at launched
    exact Or.inr ⟨launched, by simp⟩
  | clear other | load other =>
    rw [event] at launched
    by_cases same : region = other
    · subst same
      simp [VmxOperation.apply] at launched
    · simp only [VmxOperation.apply, Function.update_of_ne same] at launched
      exact Or.inr ⟨launched, by simp [Ne.symm same]⟩
  | launch other =>
    rw [event] at launched
    by_cases same : region = other
    · exact Or.inl (by rw [same])
    · simp only [VmxOperation.apply, Function.update_of_ne same] at launched
      exact Or.inr ⟨launched, by simp⟩
  | resume other =>
    rw [event] at launched enabled
    by_cases same : region = other
    · exact Or.inr ⟨same ▸ enabled.2.2.2, by simp⟩
    · simp only [VmxOperation.apply, Function.update_of_ne same] at launched
      exact Or.inr ⟨launched, by simp⟩

/-- A launched region stays `Launched` until it is cleared or reloaded. -/
theorem launched_stays {vcpu : NestedVcpu σ} {input : NestedInput σ} {region : U64}
    (kept : ¬ReloadsLaunched region vcpu input)
    (launched : vcpu.operation.tracked region = some .Launched)
    (uncleared : ¬Showing (.clear region) vcpu input) :
    (nestedStep vcpu input).operation.tracked region = some .Launched := by
  obtain ⟨_, step⟩ := nestedStep_refines vcpu input
  rw [step]
  unfold Showing at uncleared
  cases event : nestedEvent vcpu input with
  | quiet | vmxon | vmxoff | exit => exact launched
  | clear other =>
    have different : region ≠ other := by
      rintro rfl
      exact uncleared event
    simpa only [VmxOperation.apply, Function.update_of_ne different] using launched
  | load other =>
    have different : region ≠ other := by
      rintro rfl
      exact kept (reloadsLaunched_iff.mpr ⟨event, launched⟩)
    simpa only [VmxOperation.apply, Function.update_of_ne different] using launched
  | launch other | resume other =>
    by_cases same : region = other
    · simp [VmxOperation.apply, same]
    · simpa only [VmxOperation.apply, Function.update_of_ne same] using launched

/-- The launch discipline holds for a region in every run that never reloads
it while it is launched. -/
theorem launch_discipline (capabilities : Option NestedCapabilities) (memory : NestedMemory σ)
    (vmxeEnabled : Bool) (region : U64) (inputs : List (NestedInput σ))
    (unloaded : Run.Every nestedStep (fun vcpu input => ¬ReloadsLaunched region vcpu input)
      (nestedStart capabilities memory vmxeEnabled) inputs) :
    LaunchDiscipline region (nestedStart capabilities memory vmxeEnabled) inputs := by
  let launched (vcpu : NestedVcpu σ) : Prop := vcpu.operation.tracked region = some .Launched
  have raise (vcpu : NestedVcpu σ) (input : NestedInput σ)
      (launch : Showing (.launch region) vcpu input) : launched (nestedStep vcpu input) := by
    have step := (nestedStep_refines vcpu input).2
    rw [show nestedEvent vcpu input = .launch region from launch] at step
    simp only [launched, step, VmxOperation.apply, Function.update_self]
  have block (vcpu : NestedVcpu σ) (input : NestedInput σ) (before : launched vcpu) :
      ¬Showing (.launch region) vcpu input := by
    intro launch
    have enabled := (nestedStep_refines vcpu input).1
    rw [show nestedEvent vcpu input = .launch region from launch] at enabled
    have active := enabled.2.2.2.symm.trans before
    simp at active
  refine ⟨?_, ?_⟩
  · exact Run.separated_of_flag (F := launched) raise
      (fun _ _ kept before => launched_stays kept before) (fun vcpu input _ => block vcpu input)
      unloaded
  · intro pre input post split resume
    refine Run.since_of_flag (F := launched) (fun _ _ => launched_raised) ?_ ?_
    · simp only [launched, nestedStart_operation, reduceCtorEq, not_false_eq_true]
    · have enabled := (nestedStep_refines (Run.after nestedStep
        (nestedStart capabilities memory vmxeEnabled) pre) input).1
      rw [show nestedEvent _ input = .resume region from resume] at enabled
      exact enabled.2.2.2

/-- A guest that is launched, exits and is resumed keeps the discipline. -/
theorem launch_discipline_of_resume :
    LaunchDiscipline 0x2000 flatVcpu (launchTrace ++ [hltExit, vmxInstruction .Vmresume 0]) :=
  launch_discipline none flatMemory true 0x2000 _ (by decide +kernel)

/-- A guest that is launched, exits and is loaded again can be launched a
second time: no VMCLEAR came between. -/
theorem launched_twice_without_vmclear :
    ¬LaunchDiscipline 0x2000 flatVcpu
      (launchTrace ++ [hltExit, vmxInstruction .Vmptrld 16, vmxInstruction .Vmlaunch 0]) := by
  intro discipline
  have cleared := discipline.launches (launchTrace.take 3) (vmxInstruction .Vmlaunch 0)
    [hltExit, vmxInstruction .Vmptrld 16] (vmxInstruction .Vmlaunch 0) [] rfl
    (by decide +kernel) (by decide +kernel)
  revert cleared
  decide +kernel

/-- The guest that entered on a region still has it: the region is current and
its slot is `Launched`. -/
structure RunsOn (region : U64) (vcpu : NestedVcpu σ) : Prop where
  current : vcpu.currentVmcsGpa = region
  launched : ∃ slot, findVmcs vcpu region = some slot ∧ (vcpu.vmcs slot).state = .Launched

/-- An exit that is reflected now goes into the slot of the region and into no
other slot. -/
def ReflectsInto (region : U64) (vcpu : NestedVcpu σ) : Prop :=
  ∀ exitRecord, (reflectNestedExit vcpu (some exitRecord)).1.status = .Success →
    ∃ slot, findVmcs vcpu region = some slot ∧
      ExitRecorded ((reflectNestedExit vcpu (some exitRecord)).2.vmcs slot) exitRecord ∧
      ∀ other ≠ slot, (reflectNestedExit vcpu (some exitRecord)).2.vmcs other = vcpu.vmcs other

/-- What L1 is promised between an entry on a region and the exit: in every
state on the way the guest has the region, and the exit is recorded in it. -/
structure EntryHolds (region : U64) (vcpu : NestedVcpu σ) (inputs : List (NestedInput σ)) :
    Prop where
  runs : ∀ pre post, inputs = pre ++ post → RunsOn region (Run.after nestedStep vcpu pre)
  exits : ReflectsInto region (Run.after nestedStep vcpu inputs)

/-- A VMPTRLD that passes its checks, whatever region it names. -/
def LoadsAny (vcpu : NestedVcpu σ) (input : NestedInput σ) : Prop :=
  ∃ instruction region, input = .dispatch (some instruction) ∧ LoadsRegion vcpu instruction region

/-- An exit is reflected. -/
def Exits (vcpu : NestedVcpu σ) (input : NestedInput σ) : Prop :=
  ∃ region, Showing (.exit region) vcpu input

/-- The same in VMX operation, where the steps are decided. -/
structure VmxOperation.RunsOn (operation : VmxOperation) (region : U64) : Prop where
  on : operation.vmxon.isSome
  running : operation.running = true
  current : operation.current = some region
  launched : operation.tracked region = some .Launched

theorem NestedVcpu.current_eq_some {vcpu : NestedVcpu σ} {region : U64} :
    vcpu.operation.current = some region ↔
      vcpu.currentVmcsGpa ≠ kNoCurrentVmcs ∧ vcpu.currentVmcsGpa = region := by
  simp only [NestedVcpu.operation, NestedControl.operation, Option.ite_none_left_eq_some,
    Option.some.injEq]
  rfl

theorem VmxOperation.RunsOn.vcpu {vcpu : NestedVcpu σ} {region : U64}
    (runs : vcpu.operation.RunsOn region) : Nested.RunsOn region vcpu :=
  ⟨(NestedVcpu.current_eq_some.mp runs.current).2, NestedVcpu.tracked_eq_some.mp runs.launched⟩

theorem VmxOperation.RunsOn.reflects {vcpu : NestedVcpu σ} {region : U64}
    (runs : vcpu.operation.RunsOn region) : ReflectsInto region vcpu := by
  intro exitRecord success
  obtain ⟨slot, current, recorded, others⟩ := reflectNestedExit_success success
  have found := (currentVmcs_eq_some_iff.mp current).2
  rw [(NestedVcpu.current_eq_some.mp runs.current).2] at found
  exact ⟨slot, found, recorded, others⟩

/-- While L2 runs, every instruction that would disturb the entry is refused,
VMPTRLD apart. -/
theorem VmxOperation.RunsOn.step {vcpu : NestedVcpu σ} {input : NestedInput σ} {region : U64}
    (runs : vcpu.operation.RunsOn region) (inside : ¬Exits vcpu input)
    (unloaded : ¬LoadsAny vcpu input) : (nestedStep vcpu input).operation.RunsOn region := by
  obtain ⟨enabled, step⟩ := nestedStep_refines vcpu input
  rw [step]
  cases event : nestedEvent vcpu input with
  | quiet => exact runs
  | vmxon other =>
    rw [event] at enabled
    have on := runs.on
    simp [show vcpu.operation.vmxon = none from enabled] at on
  | vmxoff =>
    rw [event] at enabled
    exact absurd (runs.running.symm.trans enabled.2) (by decide)
  | clear other =>
    rw [event] at enabled
    exact absurd (runs.running.symm.trans enabled.2.2) (by decide)
  | load other =>
    obtain ⟨instruction, dispatched, loads⟩ := nestedEvent_eq_load event
    exact absurd ⟨instruction, other, dispatched, loads⟩ unloaded
  | launch other | resume other =>
    rw [event] at enabled
    exact absurd (runs.running.symm.trans enabled.2.1) (by decide)
  | exit other => exact absurd ⟨other, event⟩ inside

theorem runsOn_of_entry {vcpu : NestedVcpu σ} {entry : NestedInput σ} {region : U64}
    (entered : Showing (.launch region) vcpu entry ∨ Showing (.resume region) vcpu entry) :
    (nestedStep vcpu entry).operation.RunsOn region := by
  obtain ⟨enabled, step⟩ := nestedStep_refines vcpu entry
  rw [step]
  rcases entered with event | event
  all_goals
    rw [show nestedEvent vcpu entry = _ from event] at enabled ⊢
    refine ⟨enabled.1, rfl, enabled.2.2.1, ?_⟩
    simp only [VmxOperation.apply, Function.update_self]

/-- After a VMPTRLD no region is both current and `Launched`. -/
theorem not_runsOn_of_loadsAny {vcpu : NestedVcpu σ} {input : NestedInput σ}
    (loads : LoadsAny vcpu input) (region : U64) : ¬RunsOn region (nestedStep vcpu input) := by
  rintro ⟨current, launched⟩
  obtain ⟨instruction, other, rfl, accepted⟩ := loads
  have step := (nestedStep_refines vcpu (.dispatch (some instruction))).2
  rw [nestedEvent_load_iff.mpr accepted] at step
  have loaded : (nestedStep vcpu (.dispatch (some instruction))).operation.current = some other := by
    rw [step]
    rfl
  have same : other = region :=
    (NestedVcpu.current_eq_some.mp loaded).2.symm.trans current
  have tracked := NestedVcpu.tracked_eq_some.mpr launched
  rw [step] at tracked
  simp [VmxOperation.apply, same] at tracked

/-- Between an entry on a region and the exit the guest keeps the region, and
its exit is recorded there, exactly if no VMPTRLD gets through meanwhile. -/
theorem entry_holds_iff {vcpu : NestedVcpu σ} {entry : NestedInput σ} {region : U64}
    {inputs : List (NestedInput σ)}
    (entered : Showing (.launch region) vcpu entry ∨ Showing (.resume region) vcpu entry)
    (inside : Run.Every nestedStep (fun vcpu input => ¬Exits vcpu input) (nestedStep vcpu entry)
      inputs) :
    EntryHolds region (nestedStep vcpu entry) inputs ↔
      Run.Every nestedStep (fun vcpu input => ¬LoadsAny vcpu input) (nestedStep vcpu entry)
        inputs := by
  constructor
  · intro holds pre input post split loads
    have runs := holds.runs (pre ++ [input]) post (by simp [split])
    rw [Run.after_append] at runs
    exact not_runsOn_of_loadsAny loads region runs
  · intro unloaded
    have runs : ∀ pre post, inputs = pre ++ post →
        (Run.after nestedStep (nestedStep vcpu entry) pre).operation.RunsOn region := by
      intro pre post split
      refine Run.invariant (P := fun vcpu : NestedVcpu σ => vcpu.operation.RunsOn region)
        (G := fun vcpu input => ¬Exits vcpu input ∧ ¬LoadsAny vcpu input)
        (fun _ _ runs quiet => runs.step quiet.1 quiet.2) (runsOn_of_entry entered) ?_
      intro first input rest shape
      have whole : inputs = first ++ input :: (rest ++ post) := by simp [split, shape]
      exact ⟨inside first input _ whole, unloaded first input _ whole⟩
    refine ⟨fun pre post split => (runs pre post split).vcpu, ?_⟩
    exact (runs inputs [] (List.append_nil inputs).symm).reflects

theorem not_exits_of_event {vcpu : NestedVcpu σ} {input : NestedInput σ} {event : VmxEvent}
    (shown : nestedEvent vcpu input = event) (other : ∀ region, event ≠ .exit region) :
    ¬Exits vcpu input := by
  rintro ⟨region, exits⟩
  exact other region (shown.symm.trans exits)

/-- VMCLEAR of the running VMCS is refused, and the entry holds. -/
theorem entry_holds_over_vmclear :
    EntryHolds 0x2000 (Run.after nestedStep flatVcpu launchTrace) [vmxInstruction .Vmclear 16] := by
  have inside : Run.Every nestedStep (fun vcpu input => ¬Exits vcpu input)
      (Run.after nestedStep flatVcpu launchTrace) [vmxInstruction .Vmclear 16] :=
    Run.every_cons.mpr ⟨@not_exits_of_event _ _ _ .quiet (by decide +kernel) nofun, Run.every_nil _⟩
  refine (@entry_holds_iff _ (Run.after nestedStep flatVcpu (launchTrace.take 3))
    (vmxInstruction .Vmlaunch 0) 0x2000 _ (Or.inl (by decide +kernel)) inside).mpr ?_
  refine Run.every_cons.mpr ⟨?_, Run.every_nil _⟩
  rintro ⟨instruction, region, dispatched, loads⟩
  cases dispatched
  exact absurd loads.opcode (by decide)

/-- With L2 running on page 2, VMPTRLD of page 3 succeeds and takes the current
pointer away from the guest. -/
theorem vmptrld_moves_running_guest :
    Showing (.launch 0x2000) (Run.after nestedStep flatVcpu (launchTrace.take 3))
        (vmxInstruction .Vmlaunch 0) ∧
      Run.Every nestedStep (fun vcpu input => ¬Exits vcpu input)
        (Run.after nestedStep flatVcpu launchTrace) [vmxInstruction .Vmptrld 24] ∧
      ¬EntryHolds 0x2000 (Run.after nestedStep flatVcpu launchTrace) [vmxInstruction .Vmptrld 24] := by
  refine ⟨by decide +kernel, ?_, ?_⟩
  · exact Run.every_cons.mpr
      ⟨@not_exits_of_event _ _ _ (.load 0x3000) (by decide +kernel) nofun, Run.every_nil _⟩
  · intro holds
    have current := (holds.runs [vmxInstruction .Vmptrld 24] [] rfl).current
    revert current
    decide +kernel

end Knhv.Nested
