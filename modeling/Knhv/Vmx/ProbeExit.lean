import Mathlib
import Knhv.Vmx.FatalEvidence
import Knhv.Vmx.ProbeFrame
import Knhv.Vmx.Fatal

open Std.Do

set_option mvcgen.warning false

namespace Knhv.Vmx

/-- What the probe of an exit depends on. -/
structure ProbeView where
  probe : FirstExitProbe
  rax : U64
  rbx : U64
  rcx : U64
  rdx : U64

def ExitState.probeView (s : ExitState) : ProbeView :=
  ⟨s.vcpu.firstExitProbe, s.ctx.rax, s.ctx.rbx, s.ctx.rcx, s.ctx.rdx⟩

theorem Touched.probeView {writable : VmcsField → Prop} {before now : ExitState}
    (touched : Touched writable before now) : now.probeView = before.probeView := by
  simp only [ExitState.probeView, touched.probe, touched.ctx]

section

variable (m : Machine) (P : ProbeView → Prop)

theorem view_of_touched {α : Type} {x : StateM ExitState α} {writable : VmcsField → Prop}
    (touched : ∀ before, ⦃fun s => ⌜Touched writable before s⌝⦄ x
      ⦃⇓ _ s => ⌜Touched writable before s⌝⦄) :
    ⦃fun s => ⌜P s.probeView⌝⦄ x ⦃⇓ _ s => ⌜P s.probeView⌝⦄ := by
  refine spec_intro fun s holds => ?_
  have after : Touched writable s (x s).2 := touched s s (Touched.refl s)
  rwa [after.probeView]

theorem vmReadChecked_view (field : VmcsField) :
    ⦃fun s => ⌜P s.probeView⌝⦄ vmReadChecked m field ⦃⇓ _ s => ⌜P s.probeView⌝⦄ :=
  view_of_touched P fun before => vmReadChecked_touched m (fun _ => True) before field

theorem vmWriteChecked_view (field : VmcsField) (value : U64) :
    ⦃fun s => ⌜P s.probeView⌝⦄ vmWriteChecked m field value ⦃⇓ _ s => ⌜P s.probeView⌝⦄ :=
  view_of_touched P fun before =>
    vmWriteChecked_touched m (fun _ => True) before field value trivial

theorem writeAll_view (writes : List (VmcsField × U64)) :
    ⦃fun s => ⌜P s.probeView⌝⦄ writeAll m writes ⦃⇓ _ s => ⌜P s.probeView⌝⦄ :=
  view_of_touched P fun before =>
    writeAll_touched m (fun _ => True) before writes fun _ _ => trivial

theorem readLocals_view (fields : List VmcsField) :
    ⦃fun s => ⌜P s.probeView⌝⦄ readLocals m fields ⦃⇓ _ s => ⌜P s.probeView⌝⦄ :=
  view_of_touched P fun before => readLocals_touched m (fun _ => True) before fields

theorem readEach_view (fields : List VmcsField) :
    ⦃fun s => ⌜P s.probeView⌝⦄ readEach m fields ⦃⇓ _ s => ⌜P s.probeView⌝⦄ :=
  view_of_touched P fun before => readEach_touched m (fun _ => True) before fields

theorem modifyVcpu_view (f : VcpuContext → VcpuContext) (still : Still f) :
    ⦃fun s => ⌜P s.probeView⌝⦄ modifyVcpu f ⦃⇓ _ s => ⌜P s.probeView⌝⦄ := by
  refine spec_intro fun s holds => ?_
  have same : ({ s with vcpu := f s.vcpu } : ExitState).probeView = s.probeView := by
    simp only [ExitState.probeView, still s.vcpu]
  exact (congrArg P same).mpr holds

/-- Reads into the state, each of which goes to a place outside the view. -/
theorem readInto_view (fields : List (VmcsField × (U64 → ExitState → ExitState)))
    (apart : ∀ entry ∈ fields, ∀ value s, (entry.2 value s).probeView = s.probeView) :
    ⦃fun s => ⌜P s.probeView⌝⦄ readInto m fields ⦃⇓ _ s => ⌜P s.probeView⌝⦄ := by
  induction fields with
  | nil => exact spec_intro fun _ holds => holds
  | cons entry rest ih =>
    obtain ⟨field, store⟩ := entry
    have read := vmReadChecked_view m P field
    have later := ih fun entry member => apart entry (List.mem_cons_of_mem _ member)
    have here := apart (field, store) List.mem_cons_self
    mvcgen [readInto, read, later]
    case vc3.cons.post.success.h_2 value _ s holds _ => exact (congrArg P (here value s)).mpr holds

end

/-- The probe's own CPUID exit, answered and let go on. -/
structure ProbeExit (start now : ExitState) : Prop where
  entered : ((start.vmcs .vmExitReason).setWidth 32 : U32) &&& 0x80000000 = 0
  reason : ((start.vmcs .vmExitReason).setWidth 32 : U32) &&& 0xFFFF = vmExitReasonCpuid
  leaf : start.ctx.rax.setWidth 32 = kFirstExitProbeLeaf
  subleaf : start.ctx.rcx.setWidth 32 = (0 : U32)
  answer : now.ctx.rax = kFirstExitProbeLeaf.setWidth 64 ∧
    now.ctx.rbx = kFirstExitProbeEbx.setWidth 64 ∧
    now.ctx.rcx = kFirstExitProbeEcx.setWidth 64 ∧ now.ctx.rdx = kFirstExitProbeEdx.setWidth 64
  action : now.vcpu.last.action = .resume
  running : now.ctx.haltVm = false ∧ now.ctx.abortVm = false

/-- The states in which a proof is under way. -/
def Active (state : FirstExitProbeState) : Prop :=
  state = .armed ∨ state = .vmExitEntered ∨ state = .exitValidated

instance (state : FirstExitProbeState) : Decidable (Active state) :=
  inferInstanceAs (Decidable (_ ∨ _))

/-- What an exit can do to the probe. -/
inductive ProbeOutcome (start now : ExitState) : Prop
  | kept (same : now.vcpu.firstExitProbe.state = start.vcpu.firstExitProbe.state)
      (outside : start.vcpu.firstExitProbe.state ≠ .vmExitEntered)
      (running : Active start.vcpu.firstExitProbe.state →
        now.ctx.haltVm = false ∧ now.ctx.abortVm = false)
  | failed (active : Active start.vcpu.firstExitProbe.state)
      (failed : now.vcpu.firstExitProbe.state = .failed)
  | validated (armed : start.vcpu.firstExitProbe.state = .armed)
      (validated : now.vcpu.firstExitProbe.state = .exitValidated) (proven : ProbeExit start now)
  | completed (entered : start.vcpu.firstExitProbe.state = .vmExitEntered)
      (validated : now.vcpu.firstExitProbe.state = .exitValidated)
      (running : now.ctx.haltVm = false ∧ now.ctx.abortVm = false)

/-- The end of an exit: what has become of the probe, and by which movers. -/
structure Ended (start now : ExitState) : Prop where
  outcome : ProbeOutcome start now
  path : ∃ states, ExitPath start.vcpu states now.vcpu

/-- The probe's CPUID has been answered in this exit. -/
structure Marked (start : ExitState) (view : ProbeView) : Prop where
  entered : ((start.vmcs .vmExitReason).setWidth 32 : U32) &&& 0x80000000 = 0
  reason : ((start.vmcs .vmExitReason).setWidth 32 : U32) &&& 0xFFFF = vmExitReasonCpuid
  armed : start.vcpu.firstExitProbe.state = .armed
  probe : view.probe =
    (markFirstExitProbeVmExitEntered vmExitReasonCpuid start.vcpu).firstExitProbe
  leaf : start.ctx.rax.setWidth 32 = kFirstExitProbeLeaf
  subleaf : start.ctx.rcx.setWidth 32 = (0 : U32)
  answer : view.rax = kFirstExitProbeLeaf.setWidth 64 ∧
    view.rbx = kFirstExitProbeEbx.setWidth 64 ∧
    view.rcx = kFirstExitProbeEcx.setWidth 64 ∧ view.rdx = kFirstExitProbeEdx.setWidth 64

/-- In an exit the probe is as it was, or its CPUID has been answered. -/
def Running (start : ExitState) (view : ProbeView) : Prop :=
  view.probe = start.vcpu.firstExitProbe ∨ Marked start view

/-- The exit has not been dispatched yet. -/
structure Arrived (start : ExitState) (view : ProbeView) : Prop where
  probe : view.probe = start.vcpu.firstExitProbe
  rax : view.rax = start.ctx.rax
  rcx : view.rcx = start.ctx.rcx

theorem markFirstExitProbe_state {vcpu : VcpuContext}
    (armed : vcpu.firstExitProbe.state = .armed) (reason : U32) :
    (markFirstExitProbeVmExitEntered reason vcpu).firstExitProbe.state = .vmExitEntered := by
  simp only [markFirstExitProbeVmExitEntered, armed, if_true]

theorem failFirstExitProbe_active {vcpu : VcpuContext} (active : Active vcpu.firstExitProbe.state) :
    (failFirstExitProbeAtFatalBoundary vcpu).firstExitProbe.state = .failed := by
  rcases active with state | state | state
  · simp [failFirstExitProbeAtFatalBoundary, failFirstExitProbeIfActive,
      invalidateValidatedFirstExitProbe, state, setProbeState]
  · simp [failFirstExitProbeAtFatalBoundary, failFirstExitProbeIfActive,
      invalidateValidatedFirstExitProbe, state, setProbeState]
  · simp [failFirstExitProbeAtFatalBoundary, failFirstExitProbeIfActive,
      invalidateValidatedFirstExitProbe, state, setProbeState]

theorem failFirstExitProbe_inactive {vcpu : VcpuContext}
    (inactive : ¬Active vcpu.firstExitProbe.state) :
    failFirstExitProbeAtFatalBoundary vcpu = vcpu := by
  simp only [Active, not_or] at inactive
  obtain ⟨notArmed, notEntered, notValidated⟩ := inactive
  simp [failFirstExitProbeAtFatalBoundary, failFirstExitProbeIfActive,
    invalidateValidatedFirstExitProbe, notArmed, notEntered, notValidated]

/-- The record is reached by the movers. -/
theorem Running.path {start : ExitState} {s : ExitState} (running : Running start s.probeView) :
    ∃ states, ExitPath start.vcpu states s.vcpu := by
  rcases running with same | marked
  · exact ⟨[], .still same⟩
  · exact ⟨_, .trans (.move (.mark vmExitReasonCpuid start.vcpu)) (.still marked.probe)⟩

/-- A fatal boundary of the exit. -/
theorem Running.failed {start s now : ExitState} (running : Running start s.probeView)
    (fails : now.vcpu = failFirstExitProbeAtFatalBoundary s.vcpu) : Ended start now where
  path := by
    obtain ⟨states, path⟩ := running.path
    rw [fails]
    exact ⟨_, path.trans (.move (.fail s.vcpu))⟩
  outcome := by
    rcases running with same | marked
    · have state : s.vcpu.firstExitProbe.state = start.vcpu.firstExitProbe.state :=
        congrArg FirstExitProbe.state same
      by_cases active : Active start.vcpu.firstExitProbe.state
      · refine .failed active ?_
        rw [fails]
        exact failFirstExitProbe_active (by rwa [state])
      · refine .kept ?_ (fun entered => active (Or.inr (Or.inl entered))) fun impossible =>
          absurd impossible active
        rw [fails, failFirstExitProbe_inactive (by rwa [state]), state]
    · have state : s.vcpu.firstExitProbe.state = .vmExitEntered :=
        (congrArg FirstExitProbe.state marked.probe).trans (markFirstExitProbe_state marked.armed _)
      refine .failed (Or.inl marked.armed) ?_
      rw [fails]
      exact failFirstExitProbe_active (Or.inr (Or.inl state))

theorem completeFirstExitProbe_inactive {vcpu : VcpuContext}
    (state : vcpu.firstExitProbe.state ≠ .vmExitEntered) : completeFirstExitProbe vcpu = vcpu := by
  simp only [completeFirstExitProbe, state, if_false]

/-- The probe's exit proves the transaction, and then its action was to resume,
or it fails. -/
theorem completeFirstExitProbe_entered {vcpu : VcpuContext}
    (state : vcpu.firstExitProbe.state = .vmExitEntered) :
    (completeFirstExitProbe vcpu).firstExitProbe.state = .exitValidated ∧
        vcpu.last.action = .resume ∨
      (completeFirstExitProbe vcpu).firstExitProbe.state = .failed := by
  by_cases valid : isProbeExitValid (captureFirstExitProbeObservation vcpu.last.reasonBasic
      vcpu.last.action vcpu).firstExitProbe = true
  · have action := valid
    simp only [isProbeExitValid, captureFirstExitProbeObservation, Bool.and_eq_true] at action
    refine Or.inl ⟨?_, of_decide_eq_true action.1.2⟩
    simp only [completeFirstExitProbe, state, if_true, valid, setProbeState]
  · refine Or.inr ?_
    simp only [completeFirstExitProbe, state, if_true, valid, setProbeState, Bool.false_eq_true,
      if_false]

theorem completeFirstExitProbe_last (vcpu : VcpuContext) :
    (completeFirstExitProbe vcpu).last = vcpu.last := by
  simp only [completeFirstExitProbe]
  split <;> rfl

/-- The last steps of the exit, behind the choice of its action. -/
def concludeExit (s : ExitState) : ExitState :=
  { s with
    vcpu :=
      if s.ctx.haltVm || s.ctx.abortVm then
        completeFirstExitProbe (failFirstExitProbeAtFatalBoundary s.vcpu)
      else
        { completeFirstExitProbe s.vcpu with
          vmResumeAttempts := (completeFirstExitProbe s.vcpu).vmResumeAttempts + 1 } }

theorem Running.concluded {start s : ExitState} (running : Running start s.probeView) :
    Ended start (concludeExit s) := by
  by_cases stopped : (s.ctx.haltVm || s.ctx.abortVm) = true
  · have ended := @Running.failed start s { s with
      vcpu := failFirstExitProbeAtFatalBoundary s.vcpu } running rfl
    have shape : concludeExit s = { s with
        vcpu := completeFirstExitProbe (failFirstExitProbeAtFatalBoundary s.vcpu) } := by
      simp only [concludeExit, stopped, if_true]
    have settled : (failFirstExitProbeAtFatalBoundary s.vcpu).firstExitProbe.state ≠
        .vmExitEntered := by
      by_cases active : Active s.vcpu.firstExitProbe.state
      · rw [failFirstExitProbe_active active]
        decide
      · rw [failFirstExitProbe_inactive active]
        exact fun entered => active (Or.inr (Or.inl entered))
    rw [shape, completeFirstExitProbe_inactive settled]
    exact ended
  · have flags : s.ctx.haltVm = false ∧ s.ctx.abortVm = false := by
      simpa using stopped
    have shape : concludeExit s = { s with
        vcpu := { completeFirstExitProbe s.vcpu with
          vmResumeAttempts := (completeFirstExitProbe s.vcpu).vmResumeAttempts + 1 } } := by
      simp only [concludeExit, stopped, Bool.false_eq_true, if_false]
    rw [shape]
    constructor
    · rcases running with same | marked
      · have state : s.vcpu.firstExitProbe.state = start.vcpu.firstExitProbe.state :=
          congrArg FirstExitProbe.state same
        by_cases entered : s.vcpu.firstExitProbe.state = .vmExitEntered
        · have started : start.vcpu.firstExitProbe.state = .vmExitEntered := state ▸ entered
          rcases completeFirstExitProbe_entered entered with ⟨validated, _⟩ | failed
          · exact .completed started validated flags
          · exact .failed (Or.inr (Or.inl started)) failed
        · refine .kept ?_ (fun started => entered (state.trans started)) fun _ => flags
          show (completeFirstExitProbe s.vcpu).firstExitProbe.state = _
          rw [completeFirstExitProbe_inactive entered, state]
      · have entered : s.vcpu.firstExitProbe.state = .vmExitEntered :=
          (congrArg FirstExitProbe.state marked.probe).trans
            (markFirstExitProbe_state marked.armed _)
        rcases completeFirstExitProbe_entered entered with ⟨validated, action⟩ | failed
        · refine .validated marked.armed validated ⟨marked.entered, marked.reason, marked.leaf,
            marked.subleaf, marked.answer, ?_, flags⟩
          show (completeFirstExitProbe s.vcpu).last.action = .resume
          rw [completeFirstExitProbe_last, action]
        · exact .failed (Or.inl marked.armed) failed
    · obtain ⟨states, path⟩ := running.path
      exact ⟨_, (path.trans (.move (.complete s.vcpu))).trans (.still rfl)⟩

section

variable (m : Machine) (start : ExitState)

theorem failExit_ended (stop : StateM ExitState Unit)
    (keeps : ∀ P : ProbeView → Prop,
      ⦃fun s => ⌜P s.probeView⌝⦄ stop ⦃⇓ _ s => ⌜P s.probeView⌝⦄) :
    ⦃fun s => ⌜Running start s.probeView⌝⦄ failExit stop ⦃⇓ _ s => ⌜Ended start s⌝⦄ := by
  refine spec_intro fun s running => ?_
  rcases run : stop s with ⟨⟨⟩, mid⟩
  have after := spec_run (keeps (Running start)) running run
  let halted : ExitState := { mid with
    vcpu := { mid.vcpu with last := { mid.vcpu.last with action := .halt } } }
  have here : Running start halted.probeView := after
  simp only [failExit, bind, StateT.bind, run]
  exact here.failed rfl

theorem haltVm_view (P : ProbeView → Prop) :
    ⦃fun s => ⌜P s.probeView⌝⦄ haltVm ⦃⇓ _ s => ⌜P s.probeView⌝⦄ :=
  spec_intro fun _ holds => holds

theorem requestFatalStop_view (P : ProbeView → Prop) :
    ⦃fun s => ⌜P s.probeView⌝⦄ requestFatalStop ⦃⇓ _ s => ⌜P s.probeView⌝⦄ :=
  spec_intro fun _ holds => holds

theorem failExit_fatal_ended :
    ⦃fun s => ⌜Running start s.probeView⌝⦄ failExit requestFatalStop ⦃⇓ _ s => ⌜Ended start s⌝⦄ :=
  failExit_ended start requestFatalStop requestFatalStop_view

theorem failExit_halt_ended :
    ⦃fun s => ⌜Running start s.probeView⌝⦄ failExit haltVm ⦃⇓ _ s => ⌜Ended start s⌝⦄ :=
  failExit_ended start haltVm haltVm_view

/-- The action of the exit is chosen, and a stop that is asked for made. -/
def chooseExit (advanceRip : Bool) : StateM ExitState Unit := do
  let vcpu := (← get).vcpu
  if m.hasVcpu && (vcpu.vmcsWrite.failed || vcpu.vmcsRead.failed) then
    requestFatalStop
  let c := (← get).ctx
  modifyVcpu fun vcpu => { vcpu with last := { vcpu.last with action := exitAction c advanceRip } }
  if shouldInjectFault m m.cpuId .beforeVmresume || shouldInjectFault m m.cpuId .vmresumeFailure then
    requestFatalStop
    modifyVcpu fun vcpu => { vcpu with last := { vcpu.last with action := .halt } }

theorem chooseExit_view (P : ProbeView → Prop) (advanceRip : Bool) :
    ⦃fun s => ⌜P s.probeView⌝⦄ chooseExit m advanceRip ⦃⇓ _ s => ⌜P s.probeView⌝⦄ := by
  have stop := requestFatalStop_view P
  have record := modifyVcpu_view P
  mvcgen [chooseExit, stop, record]
  all_goals exact fun _ => rfl

theorem finishExit_run (advanceRip : Bool) (s : ExitState) :
    (finishExit m advanceRip s).2 = concludeExit (chooseExit m advanceRip s).2 := by
  have conclude (mid : ExitState) : ((do
      let c := (← get).ctx
      if c.haltVm || c.abortVm then
        modifyVcpu failFirstExitProbeAtFatalBoundary
      modifyVcpu completeFirstExitProbe
      if !c.haltVm && !c.abortVm then
        modifyVcpu fun vcpu => { vcpu with vmResumeAttempts := vcpu.vmResumeAttempts + 1 } :
      StateM ExitState Unit) mid).2 = concludeExit mid := by
    cases halted : mid.ctx.haltVm <;> cases aborted : mid.ctx.abortVm <;>
      simp only [concludeExit, halted, aborted, bind, StateT.bind, get, getThe, MonadStateOf.get,
        StateT.get, pure] <;> rfl
  rw [← conclude]
  by_cases failed : (m.hasVcpu && (s.vcpu.vmcsWrite.failed || s.vcpu.vmcsRead.failed)) = true
  · by_cases stopped : (shouldInjectFault m m.cpuId .beforeVmresume ||
        shouldInjectFault m m.cpuId .vmresumeFailure) = true
    · simp only [finishExit, chooseExit, bind, StateT.bind, get, getThe, MonadStateOf.get,
        StateT.get, pure, stopped, failed, if_true]
      rfl
    · simp only [finishExit, chooseExit, bind, StateT.bind, get, getThe, MonadStateOf.get,
        StateT.get, pure, stopped, failed, if_true]
      rfl
  · by_cases stopped : (shouldInjectFault m m.cpuId .beforeVmresume ||
        shouldInjectFault m m.cpuId .vmresumeFailure) = true
    · simp only [finishExit, chooseExit, bind, StateT.bind, get, getThe, MonadStateOf.get,
        StateT.get, pure, stopped, failed, if_true]
      rfl
    · simp only [finishExit, chooseExit, bind, StateT.bind, get, getThe, MonadStateOf.get,
        StateT.get, pure, stopped, failed]
      rfl

theorem finishExit_ended (advanceRip : Bool) :
    ⦃fun s => ⌜Running start s.probeView⌝⦄ finishExit m advanceRip ⦃⇓ _ s => ⌜Ended start s⌝⦄ := by
  refine spec_intro fun s running => ?_
  rcases run : chooseExit m advanceRip s with ⟨⟨⟩, mid⟩
  have chosen := spec_run (chooseExit_view m (Running start) advanceRip) running run
  rw [finishExit_run, run]
  exact chosen.concluded

/-- A handler that leaves the probe alone. -/
theorem running_of_probe {α : Type} {x : StateM ExitState α}
    (keeps : ∀ P : FirstExitProbe → Prop,
      ⦃fun s => ⌜P s.vcpu.firstExitProbe⌝⦄ x ⦃⇓ _ s => ⌜P s.vcpu.firstExitProbe⌝⦄) :
    ⦃fun s => ⌜Arrived start s.probeView⌝⦄ x ⦃⇓ _ s => ⌜Running start s.probeView⌝⦄ := by
  refine spec_intro fun s arrived => Or.inl ?_
  exact keeps (fun probe => probe = start.vcpu.firstExitProbe) s arrived.probe

theorem markFirstExitProbe_idle {vcpu : VcpuContext} (state : vcpu.firstExitProbe.state ≠ .armed)
    (reason : U32) : markFirstExitProbeVmExitEntered reason vcpu = vcpu := by
  simp only [markFirstExitProbeVmExitEntered, state, if_false]

theorem handleCpuid_running
    (entered : ((start.vmcs .vmExitReason).setWidth 32 : U32) &&& 0x80000000 = 0)
    (reason : ((start.vmcs .vmExitReason).setWidth 32 : U32) &&& 0xFFFF = vmExitReasonCpuid) :
    ⦃fun s => ⌜Arrived start s.probeView⌝⦄ handleCpuid m
    ⦃⇓ _ s => ⌜Running start s.probeView⌝⦄ := by
  refine spec_intro fun s arrived => ?_
  obtain ⟨probe, rax, rcx⟩ := arrived
  have probe : s.vcpu.firstExitProbe = start.vcpu.firstExitProbe := probe
  have rax : s.ctx.rax = start.ctx.rax := rax
  have rcx : s.ctx.rcx = start.ctx.rcx := rcx
  by_cases user : (decide ((s.ctx.rax.setWidth 32 : U32) = kUserProbeLeaf) &&
      decide ((s.ctx.rcx.setWidth 32 : U32) = kUserProbeSubleaf)) = true
  · refine Or.inl ?_
    simp only [handleCpuid, bind, StateT.bind, get, getThe, MonadStateOf.get, StateT.get, pure,
      user, if_true]
    exact probe
  · by_cases request : (decide ((s.ctx.rax.setWidth 32 : U32) = kFirstExitProbeLeaf) &&
        decide ((s.ctx.rcx.setWidth 32 : U32) = 0)) = true
    · by_cases armed : s.vcpu.firstExitProbe.state = .armed
      · have state := markFirstExitProbe_state armed vmExitReasonCpuid
        have marked : handleCpuid m s = (true, { s with
            vcpu := markFirstExitProbeVmExitEntered vmExitReasonCpuid s.vcpu
            ctx := { s.ctx with
              rax := kFirstExitProbeLeaf.setWidth 64
              rbx := kFirstExitProbeEbx.setWidth 64
              rcx := kFirstExitProbeEcx.setWidth 64
              rdx := kFirstExitProbeEdx.setWidth 64 } }) := by
          simp only [handleCpuid, bind, StateT.bind, get, getThe, MonadStateOf.get, StateT.get, pure,
            user, request, Bool.false_eq_true, if_false, if_true, modifyVcpu, modify, modifyGet,
            MonadStateOf.modifyGet, StateT.modifyGet, state, decide_true, Bool.or_true,
            Bool.and_self]
          rfl
        rw [marked]
        obtain ⟨leaf, subleaf⟩ := Bool.and_eq_true_iff.mp request
        refine Or.inr ⟨entered, reason, ?_, ?_, ?_, ?_, rfl, rfl, rfl, rfl⟩
        · rw [← probe, armed]
        · show (markFirstExitProbeVmExitEntered vmExitReasonCpuid s.vcpu).firstExitProbe = _
          simp only [markFirstExitProbeVmExitEntered, probe]
          split <;> first | rfl | exact probe
        · rw [← rax]
          exact of_decide_eq_true leaf
        · rw [← rcx]
          exact of_decide_eq_true subleaf
      · have same := markFirstExitProbe_idle armed vmExitReasonCpuid
        refine Or.inl ?_
        simp only [handleCpuid, bind, StateT.bind, get, getThe, MonadStateOf.get, StateT.get, pure,
          user, request, Bool.false_eq_true, if_false, if_true, modifyVcpu, modify, modifyGet,
          MonadStateOf.modifyGet, StateT.modifyGet, same]
        split <;> exact probe
    · refine Or.inl ?_
      simp only [handleCpuid, bind, StateT.bind, get, getThe, MonadStateOf.get, StateT.get, pure,
        user, request, Bool.false_eq_true, if_false, Bool.false_and]
      exact probe

theorem Arrived.running {start : ExitState} {view : ProbeView} (arrived : Arrived start view) :
    Running start view := Or.inl arrived.probe

theorem dispatchExit_running {exitReason : U32}
    (entered : ((start.vmcs .vmExitReason).setWidth 32 : U32) &&& 0x80000000 = 0)
    (reason : ((start.vmcs .vmExitReason).setWidth 32 : U32) &&& 0xFFFF = exitReason) :
    ⦃fun s => ⌜Arrived start s.probeView⌝⦄ dispatchExit m exitReason
    ⦃⇓ _ s => ⌜Running start s.probeView⌝⦄ := by
  by_cases cpuid : exitReason = vmExitReasonCpuid
  · have handled := handleCpuid_running m start entered (reason.trans cpuid)
    simpa only [dispatchExit, cpuid, if_true] using handled
  · have others (P : FirstExitProbe → Prop) :
        ⦃fun s => ⌜P s.vcpu.firstExitProbe⌝⦄ dispatchExit m exitReason
        ⦃⇓ _ s => ⌜P s.vcpu.firstExitProbe⌝⦄ := by
      have call := handleVmCall_probe m P
      have read := handleMsrRead_probe m P
      have write := handleMsrWrite_probe m P
      have access := handleCrAccess_probe m P
      have undefined := refuseUndefined_probe m P
      have set := handleXsetbv_probe m P
      have stop := stopVm_probe P
      simp only [dispatchExit, cpuid, if_false]
      mvcgen [call, read, write, access, undefined, set, stop]
    exact running_of_probe start others

/-- The places that the synchronised fields go to are outside the view. -/
theorem syncFields_view :
    (∀ entry ∈ contextFields, ∀ value s, (entry.2 value s).probeView = s.probeView) ∧
      ∀ entry ∈ enabledCetFields m, ∀ value s, (entry.2 value s).probeView = s.probeView := by
  constructor
  · intro entry member value s
    fin_cases member <;> rfl
  · intro entry member value s
    rw [enabledCetFields] at member
    split at member
    · fin_cases member <;> rfl
    · exact absurd member List.not_mem_nil

theorem recordContext_view (P : ProbeView → Prop) (segments : VmcsField → U64) :
    ⦃fun s => ⌜P s.probeView⌝⦄ recordContext segments ⦃⇓ _ s => ⌜P s.probeView⌝⦄ :=
  spec_intro fun _ holds => holds

theorem recordExtendedState_view (P : ProbeView → Prop) :
    ⦃fun s => ⌜P s.probeView⌝⦄ recordExtendedState ⦃⇓ _ s => ⌜P s.probeView⌝⦄ :=
  spec_intro fun _ holds => holds

theorem recordGsPair_view (P : ProbeView → Prop) :
    ⦃fun s => ⌜P s.probeView⌝⦄ recordGsPair ⦃⇓ _ s => ⌜P s.probeView⌝⦄ :=
  spec_intro fun _ holds => holds

/-- Either the exit has been stopped, or it goes on with the view it had. -/
def Going (P : ProbeView → Prop) (start : ExitState) (going : Bool) (s : ExitState) : Prop :=
  if going then P s.probeView else Ended start s

theorem Going.went {P : ProbeView → Prop} {start s : ExitState} {going : Bool}
    (outcome : Going P start going s) (went : ¬(!going) = true) : P s.probeView := by
  rw [Going, if_pos (by simpa using went)] at outcome
  exact outcome

theorem Going.ended {P : ProbeView → Prop} {start s : ExitState} {going : Bool}
    (outcome : Going P start going s) (stopped : (!going) = true) : Ended start s := by
  rw [Going, if_neg (by simpa using stopped)] at outcome
  exact outcome

theorem syncContext_going :
    ⦃fun s => ⌜Arrived start s.probeView⌝⦄ syncContext m
    ⦃⇓ synced s => ⌜Going (Arrived start) start synced s⌝⦄ := by
  have context := readInto_view m (Arrived start) contextFields (syncFields_view m).1
  have cet := readInto_view m (Arrived start) (enabledCetFields m) (syncFields_view m).2
  have segments := readLocals_view m (Arrived start)
  have record := modifyVcpu_view (Arrived start)
  have copy := recordContext_view (Arrived start)
  have extended := recordExtendedState_view (Arrived start)
  have pair := recordGsPair_view (Arrived start)
  have halt := failExit_halt_ended start
  mvcgen [syncContext, context, cet, segments, record, copy, extended, pair, halt]
  case vc3.still => exact fun _ => rfl
  case vc12.still => exact fun _ => rfl
  all_goals exact Arrived.running ‹_›

theorem advanceGuestRip_going (exitLen : U64) :
    ⦃fun s => ⌜Running start s.probeView⌝⦄ advanceGuestRip m exitLen
    ⦃⇓ moved s => ⌜Going (Running start) start moved s⌝⦄ := by
  have move (nextRip : U64) : ⦃fun s => ⌜Running start s.probeView⌝⦄ setGuestRip nextRip
      ⦃⇓ _ s => ⌜Running start s.probeView⌝⦄ := spec_intro fun _ holds => holds
  have write := vmWriteChecked_view m (Running start)
  have stop := failExit_fatal_ended start
  mvcgen [advanceGuestRip, move, write, stop]

theorem emulateExit_ended {exitReason : U32}
    (entered : ((start.vmcs .vmExitReason).setWidth 32 : U32) &&& 0x80000000 = 0)
    (reason : ((start.vmcs .vmExitReason).setWidth 32 : U32) &&& 0xFFFF = exitReason)
    (exitLen : U64) :
    ⦃fun s => ⌜Arrived start s.probeView⌝⦄ emulateExit m exitReason exitLen
    ⦃⇓ _ s => ⌜Ended start s⌝⦄ := by
  have dispatch := dispatchExit_running m start entered reason
  have pair := recordGsPair_view (Running start)
  have advance := advanceGuestRip_going m start
  have finish := finishExit_ended m start
  mvcgen [emulateExit, dispatch, pair, advance, finish]
  case vc4.post.success.isTrue.post.success.isTrue.post.success.isTrue stopped _ outcome =>
    exact outcome.ended stopped
  case vc5.post.success.isTrue.post.success.isTrue.post.success.isFalse went _ outcome =>
    exact outcome.went went
  case vc8.post.success.isFalse.isTrue.post.success.isTrue stopped _ outcome =>
    exact outcome.ended stopped
  case vc9.post.success.isFalse.isTrue.post.success.isFalse went _ outcome =>
    exact outcome.went went

theorem runSynced_ended {exitReason : U32}
    (entered : ((start.vmcs .vmExitReason).setWidth 32 : U32) &&& 0x80000000 = 0)
    (reason : ((start.vmcs .vmExitReason).setWidth 32 : U32) &&& 0xFFFF = exitReason)
    (exitLen : U64) :
    ⦃fun s => ⌜Arrived start s.probeView⌝⦄ runSynced m exitReason exitLen
    ⦃⇓ _ s => ⌜Ended start s⌝⦄ := by
  have stop := failExit_fatal_ended start
  have emulate := emulateExit_ended m start entered reason exitLen
  mvcgen [runSynced, stop, emulate]
  all_goals exact Arrived.running ‹_›

theorem settleEvents_ended {exitReason : U32}
    (entered : ((start.vmcs .vmExitReason).setWidth 32 : U32) &&& 0x80000000 = 0)
    (reason : ((start.vmcs .vmExitReason).setWidth 32 : U32) &&& 0xFFFF = exitReason)
    (idtVectoringInfo exitLen : U64) :
    ⦃fun s => ⌜Arrived start s.probeView⌝⦄ settleEvents m idtVectoringInfo exitReason exitLen
    ⦃⇓ _ s => ⌜Ended start s⌝⦄ := by
  have write := writeAll_view m (Arrived start)
  have stop := failExit_fatal_ended start
  have sync := syncContext_going m start
  have run := runSynced_ended m start entered reason exitLen
  mvcgen [settleEvents, write, stop, sync, run]
  case vc1.isTrue arrived => exact arrived.running
  case vc3.isFalse.post.success.isTrue arrived => exact arrived.running
  case vc5.isFalse.post.success.isFalse.post.success.isTrue went _ outcome =>
    exact outcome.went (by simpa using went)
  case vc6.isFalse.post.success.isFalse.post.success.isFalse stopped _ outcome =>
    exact outcome.ended (by simpa using stopped)

theorem publishEvents_view (P : ProbeView → Prop) (values : VmcsField → U64) :
    ⦃fun s => ⌜P s.probeView⌝⦄ publishEvents values ⦃⇓ _ s => ⌜P s.probeView⌝⦄ := by
  refine spec_intro fun s holds => ?_
  have same : (publishEvents values s).2.probeView = s.probeView := rfl
  rwa [same]

theorem readEach_arrived {fields : List VmcsField} {s now : ExitState}
    {values : Option (VmcsField → U64)} (run : readEach m fields s = (values, now))
    (arrived : Arrived start s.probeView) : Arrived start now.probeView :=
  spec_run (readEach_view m (Arrived start) fields) arrived run

theorem handleGuestExit_ended {exitReason : U32}
    (entered : ((start.vmcs .vmExitReason).setWidth 32 : U32) &&& 0x80000000 = 0)
    (reason : ((start.vmcs .vmExitReason).setWidth 32 : U32) &&& 0xFFFF = exitReason)
    (exitLen : U64) {s : ExitState} (arrived : Arrived start s.probeView) :
    Ended start (handleGuestExit m exitReason exitLen s).2 := by
  have begin_ : modifyVcpu (fun vcpu => { vcpu with lastEventSnapshotValid := false }) s =
      ((), { s with vcpu := { s.vcpu with lastEventSnapshotValid := false } }) := rfl
  have begun : Arrived start
      ({ s with vcpu := { s.vcpu with lastEventSnapshotValid := false } } : ExitState).probeView :=
    arrived
  rcases run : readEach m eventFields
    { s with vcpu := { s.vcpu with lastEventSnapshotValid := false } } with ⟨events, mid⟩
  have read := readEach_arrived m start run begun
  simp only [handleGuestExit, bind, StateT.bind, begin_, run]
  cases events with
  | none => exact failExit_fatal_ended start mid read.running
  | some events =>
    have published := publishEvents_view (Arrived start) events mid read
    exact settleEvents_ended m start entered reason (events .vmExitIdtVectoringInfo) exitLen
      (publishEvents events mid).2 published

theorem handleEntryFailure_ended (rawReason : U32) :
    ⦃fun s => ⌜Running start s.probeView⌝⦄ handleEntryFailure m rawReason
    ⦃⇓ _ s => ⌜Ended start s⌝⦄ := by
  have record := modifyVcpu_view (Running start)
  have read := vmReadChecked_view m (Running start)
  have stop := failExit_fatal_ended start
  mvcgen [handleEntryFailure, record, read, stop]
  all_goals exact fun _ => rfl

theorem failEarly_ended :
    ⦃fun s => ⌜Running start s.probeView⌝⦄ failEarly ⦃⇓ _ s => ⌜Ended start s⌝⦄ :=
  spec_intro fun _ running => running.failed rfl

theorem vmExitHandler_enter (owned : m.hasVcpu = true) {entry mid : ExitState} {value : Option U64}
    (begin_ : captureEntry m start = ((), entry))
    (vacant : entry.vcpu.fatalSnapshotCommitState = .empty)
    (run : vmReadChecked m .vmExitReason entry = (value, mid)) :
    vmExitHandler m start = (do
      let some rawReasonValue := value | failEarly
      let rawExitReason : U32 := rawReasonValue.setWidth 32
      if rawExitReason &&& 0x80000000 ≠ 0 then
        recordExit rawExitReason true 0
        handleEntryFailure m rawExitReason
      else
        let some exitLen ← vmReadChecked m .vmExitInstructionLen
          | failEarly
        recordExit rawExitReason false exitLen
        handleGuestExit m (rawExitReason &&& 0xFFFF) exitLen : StateM ExitState Unit) mid := by
  simp only [vmExitHandler, owned, bind, StateT.bind, begin_, get, getThe, MonadStateOf.get,
    StateT.get, pure, vacant, Bool.not_true, Bool.false_eq_true, if_false, ne_eq,
    not_true_eq_false, run] <;> rfl

/-- Every exit of a processor with a record ends with the probe moved by the
movers only, and proven only by its own CPUID. -/
theorem vmExitHandler_ended (owned : m.hasVcpu = true) :
    Ended start (vmExitHandler m start).2 := by
  rcases begin_ : captureEntry m start with ⟨⟨⟩, entry⟩
  have vmcs : entry.vmcs = start.vmcs := by
    have same : (captureEntry m start).2.vmcs = start.vmcs := rfl
    rwa [begin_] at same
  have arrived : Arrived start entry.probeView := by
    have same : (captureEntry m start).2.probeView = start.probeView := rfl
    rw [begin_] at same
    rw [same]
    exact ⟨rfl, rfl, rfl⟩
  have early (s : ExitState) (running : Running start s.probeView) : Ended start (failEarly s).2 :=
    failEarly_ended start s running
  by_cases vacant : entry.vcpu.fatalSnapshotCommitState = .empty
  · rcases run : vmReadChecked m .vmExitReason entry with ⟨value, mid⟩
    have fetched := spec_run (vmReadChecked_fetched m .vmExitReason entry (by decide)) rfl run
    have read := spec_run (vmReadChecked_view m (Arrived start) .vmExitReason) arrived run
    have enter := vmExitHandler_enter m start owned begin_ vacant run
    cases value with
    | none =>
      rw [enter]
      exact early mid read.running
    | some rawReasonValue =>
      have found : rawReasonValue = start.vmcs .vmExitReason := by
        have value := fetched.value
        rw [vmcs] at value
        split at value
        · exact Option.some.inj value
        · exact absurd value (by simp)
      have record (entryFailure : Bool) (exitLen : U64) {s : ExitState}
          (arrived : Arrived start s.probeView) :
          Arrived start (recordExit (rawReasonValue.setWidth 32) entryFailure exitLen s).2.probeView :=
        arrived
      by_cases entry : (rawReasonValue.setWidth 32 : U32) &&& 0x80000000 = 0
      · rcases lengthRun : vmReadChecked m .vmExitInstructionLen mid with ⟨length, last⟩
        have lengthRead := spec_run
          (vmReadChecked_view m (Arrived start) .vmExitInstructionLen) read lengthRun
        cases length with
        | none =>
          have shape : vmExitHandler m start = failEarly last := by
            rw [enter]
            simp only [ne_eq, entry, not_true_eq_false, if_false, bind, StateT.bind, lengthRun]
          rw [shape]
          exact early last lengthRead.running
        | some exitLen =>
          have shape : vmExitHandler m start =
              handleGuestExit m ((rawReasonValue.setWidth 32 : U32) &&& 0xFFFF) exitLen
                (recordExit (rawReasonValue.setWidth 32) false exitLen last).2 := by
            rw [enter]
            simp only [ne_eq, entry, not_true_eq_false, if_false, bind, StateT.bind, lengthRun]
            cases recordExit (rawReasonValue.setWidth 32) false exitLen last
            rfl
          rw [shape]
          have reason : ((start.vmcs .vmExitReason).setWidth 32 : U32) &&& 0xFFFF =
              (rawReasonValue.setWidth 32 : U32) &&& 0xFFFF := by rw [found]
          rw [found] at entry
          exact handleGuestExit_ended m start entry reason exitLen (record false exitLen lengthRead)
      · have shape : vmExitHandler m start = handleEntryFailure m (rawReasonValue.setWidth 32)
            (recordExit (rawReasonValue.setWidth 32) true 0 mid).2 := by
          rw [enter]
          simp only [ne_eq, entry, not_false_eq_true, if_true, bind, StateT.bind]
          cases recordExit (rawReasonValue.setWidth 32) true 0 mid
          rfl
        rw [shape]
        exact handleEntryFailure_ended m start _ _ (record true 0 read).running
  · have shape : vmExitHandler m start = failEarly entry := by
      simp only [vmExitHandler, owned, bind, StateT.bind, begin_, get, getThe, MonadStateOf.get,
        StateT.get, pure, vacant, Bool.not_true, Bool.false_eq_true, if_false, ne_eq,
        not_false_eq_true, if_true]
      rfl
    rw [shape]
    exact early entry arrived.running

end

end Knhv.Vmx
