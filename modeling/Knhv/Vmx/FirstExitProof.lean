import Mathlib
import Knhv.Vmx.Handler
import Knhv.Vmx.ProbeExit

open Std.Do

set_option mvcgen.warning false

namespace Knhv.Vmx

/-- A failed VMRESUME ends a proof that is under way. -/
structure ResumeEnded (start now : VcpuContext) : Prop where
  failed : Active start.firstExitProbe.state → now.firstExitProbe.state = .failed
  kept : ¬Active start.firstExitProbe.state →
    now.firstExitProbe.state = start.firstExitProbe.state
  path : ∃ states, ExitPath start states now

theorem handleVmResumeFailure_ended (m : Machine) (resumeFlags : U64) (start : ExitState)
    (owned : m.hasVcpu = true) :
    ResumeEnded start.vcpu (handleVmResumeFailure m resumeFlags start).2.vcpu := by
  rcases run : readResumeError m resumeFlags
    { start with vcpu := beginResumeFailure resumeFlags start.vcpu } with ⟨⟨⟩, mid⟩
  have read : mid.vcpu.firstExitProbe = start.vcpu.firstExitProbe := by
    have fetch := vmReadChecked_probe m fun probe => probe = start.vcpu.firstExitProbe
    have record := modifyVcpu_probe fun probe => probe = start.vcpu.firstExitProbe
    have keeps : ⦃fun s => ⌜s.vcpu.firstExitProbe = start.vcpu.firstExitProbe⌝⦄
        readResumeError m resumeFlags
        ⦃⇓ _ s => ⌜s.vcpu.firstExitProbe = start.vcpu.firstExitProbe⌝⦄ := by
      mvcgen [readResumeError, fetch, record]
      case vc3 => exact fun _ _ _ => rfl
    have begun : ({ start with vcpu := beginResumeFailure resumeFlags start.vcpu } :
        ExitState).vcpu.firstExitProbe = start.vcpu.firstExitProbe := rfl
    exact spec_run keeps begun run
  let halted : ExitState := { mid with
    vcpu := haltAtResumeFailure mid.vcpu
    ctx := { mid.ctx with abortVm := false, haltVm := true } }
  have shape : handleVmResumeFailure m resumeFlags start =
      hvCaptureFatalSnapshotPreVmxoff m halted := by
    have step : modifyVcpu (beginResumeFailure resumeFlags) start =
      ((), { start with vcpu := beginResumeFailure resumeFlags start.vcpu }) := rfl
    simp only [handleVmResumeFailure, owned, if_true, bind, StateT.bind, step, run]
    rfl
  have captured : (hvCaptureFatalSnapshotPreVmxoff m halted).2.vcpu.firstExitProbe =
      (haltAtResumeFailure mid.vcpu).firstExitProbe :=
    hvCaptureFatalSnapshotPreVmxoff_probe m
      (fun probe => probe = (haltAtResumeFailure mid.vcpu).firstExitProbe) halted rfl
  rw [shape]
  let stopping : VcpuContext := { mid.vcpu with last := { mid.vcpu.last with action := .halt } }
  have state : stopping.firstExitProbe.state = start.vcpu.firstExitProbe.state :=
    congrArg FirstExitProbe.state read
  refine ⟨fun active => ?_, fun inactive => ?_, ?_⟩
  · rw [captured]
    have stopped : Active stopping.firstExitProbe.state := by rwa [state]
    exact failFirstExitProbe_active stopped
  · rw [captured]
    show (failFirstExitProbeAtFatalBoundary stopping).firstExitProbe.state = _
    rw [failFirstExitProbe_inactive (by rwa [state]), state]
  · have begun : ExitPath start.vcpu [] stopping := .still read
    exact ⟨_, (begun.trans (.move (.fail stopping))).trans (.still captured)⟩

/-- The states that follow one another. -/
inductive ProbeEdge : FirstExitProbeState → FirstExitProbeState → Prop
  | arm : ProbeEdge .idle .armed
  | enter : ProbeEdge .armed .vmExitEntered
  | validate : ProbeEdge .vmExitEntered .exitValidated
  | finish : ProbeEdge .exitValidated .returned
  | fail {state : FirstExitProbeState} (open_ : state = .idle ∨ Active state) :
      ProbeEdge state .failed
  | reset (state : FirstExitProbeState) : ProbeEdge state .idle

/-- A walk along the edges, with the states behind its first. -/
inductive ProbeWalk : FirstExitProbeState → List FirstExitProbeState → FirstExitProbeState → Prop
  | nil (state : FirstExitProbeState) : ProbeWalk state [] state
  | cons {first next last : FirstExitProbeState} {rest : List FirstExitProbeState}
      (edge : ProbeEdge first next) (walk : ProbeWalk next rest last) :
      ProbeWalk first (next :: rest) last

theorem ProbeWalk.append {first middle last : FirstExitProbeState}
    {early late : List FirstExitProbeState} (before : ProbeWalk first early middle)
    (after : ProbeWalk middle late last) : ProbeWalk first (early ++ late) last := by
  induction before with
  | nil => exact after
  | cons edge _ ih => exact .cons edge (ih after)

/-- The last edge of a walk. -/
theorem ProbeWalk.last_edge {first last : FirstExitProbeState} {states : List FirstExitProbeState}
    (walk : ProbeWalk first states last) :
    (states = [] ∧ first = last) ∨
      ∃ early middle, states = early ++ [last] ∧ ProbeWalk first early middle ∧
        ProbeEdge middle last := by
  induction walk with
  | nil => exact Or.inl ⟨rfl, rfl⟩
  | @cons first next last rest edge walk ih =>
    right
    rcases ih with ⟨rfl, rfl⟩ | ⟨early, middle, rfl, before, final⟩
    · exact ⟨[], first, rfl, .nil first, edge⟩
    · exact ⟨next :: early, middle, rfl, .cons edge before, final⟩

/-- From another state a walk comes to `last` over its only predecessor. -/
theorem ProbeWalk.over {first middle last : FirstExitProbeState}
    {states : List FirstExitProbeState} (walk : ProbeWalk first states last)
    (other : first ≠ last) (only : ∀ state, ProbeEdge state last → state = middle) :
    ∃ early, states = early ++ [last] ∧ ProbeWalk first early middle := by
  rcases walk.last_edge with ⟨-, same⟩ | ⟨early, state, shape, before, edge⟩
  · exact absurd same other
  · rw [only state edge] at before
    exact ⟨early, shape, before⟩

/-- Returned is reached in order. -/
theorem ProbeWalk.returned {states : List FirstExitProbeState}
    (walk : ProbeWalk .idle states .returned) :
    ∃ earlier, .idle :: states =
      earlier ++ [.idle, .armed, .vmExitEntered, .exitValidated, .returned] := by
  obtain ⟨fourth, rfl, validated⟩ := walk.over (by decide) fun _ edge => by cases edge; rfl
  obtain ⟨third, rfl, entered⟩ := validated.over (by decide) fun _ edge => by cases edge; rfl
  obtain ⟨second, rfl, armed⟩ := entered.over (by decide) fun _ edge => by cases edge; rfl
  obtain ⟨first, rfl, idle⟩ := armed.over (by decide) fun _ edge => by cases edge; rfl
  rcases idle.last_edge with ⟨rfl, -⟩ | ⟨early, _, rfl, -⟩
  · exact ⟨[], rfl⟩
  · exact ⟨.idle :: early, by simp⟩

/-- A step that keeps the state or takes one edge writes a walk. -/
theorem written_walk {before after : VcpuContext}
    (step : after.firstExitProbe.state = before.firstExitProbe.state ∨
      ProbeEdge before.firstExitProbe.state after.firstExitProbe.state) :
    ProbeWalk before.firstExitProbe.state (written before after) after.firstExitProbe.state := by
  by_cases same : after.firstExitProbe.state = before.firstExitProbe.state
  · rw [written, if_pos same, same]
    exact .nil _
  · rw [written, if_neg same]
    exact .cons (step.resolve_left same) (.nil _)

theorem failFirstExitProbe_step (vcpu : VcpuContext) :
    (failFirstExitProbeAtFatalBoundary vcpu).firstExitProbe.state = vcpu.firstExitProbe.state ∨
      ProbeEdge vcpu.firstExitProbe.state
        (failFirstExitProbeAtFatalBoundary vcpu).firstExitProbe.state := by
  by_cases active : Active vcpu.firstExitProbe.state
  · rw [failFirstExitProbe_active active]
    exact Or.inr (.fail (Or.inr active))
  · exact Or.inl (by rw [failFirstExitProbe_inactive active])

theorem ExitMove.step {before after : VcpuContext} (move : ExitMove before after) :
    after.firstExitProbe.state = before.firstExitProbe.state ∨
      ProbeEdge before.firstExitProbe.state after.firstExitProbe.state := by
  cases move with
  | mark reason =>
    by_cases armed : before.firstExitProbe.state = .armed
    · rw [markFirstExitProbe_state armed, armed]
      exact Or.inr .enter
    · exact Or.inl (by rw [markFirstExitProbe_idle armed])
  | complete =>
    by_cases entered : before.firstExitProbe.state = .vmExitEntered
    · rcases completeFirstExitProbe_entered entered with ⟨validated, _⟩ | failed
      · rw [validated, entered]
        exact Or.inr .validate
      · rw [failed, entered]
        exact Or.inr (.fail (Or.inr (Or.inr (Or.inl rfl))))
    · exact Or.inl (by rw [completeFirstExitProbe_inactive entered])
  | fail => exact failFirstExitProbe_step before

theorem ExitPath.walk {before after : VcpuContext} {states : List FirstExitProbeState}
    (path : ExitPath before states after) :
    ProbeWalk before.firstExitProbe.state states after.firstExitProbe.state := by
  induction path with
  | still same =>
    rw [same]
    exact .nil _
  | move call => exact written_walk call.step
  | trans _ _ first second => exact first.append second

theorem armFirstExitProbe_step (vcpu : VcpuContext) :
    (armFirstExitProbe vcpu).2.firstExitProbe.state = vcpu.firstExitProbe.state ∨
      ProbeEdge vcpu.firstExitProbe.state (armFirstExitProbe vcpu).2.firstExitProbe.state := by
  by_cases idle : vcpu.firstExitProbe.state = .idle
  · right
    rw [idle]
    by_cases flags : vcpu.lastVmResumeFlags = 0
    · simp only [armFirstExitProbe, idle, flags, ne_eq, not_true_eq_false, if_false]
      exact .arm
    · simp only [armFirstExitProbe, idle, flags, ne_eq, not_true_eq_false, if_false,
        not_false_eq_true, if_true, setProbeState]
      exact .fail (Or.inl rfl)
  · left
    simp only [armFirstExitProbe, ne_eq, idle, not_false_eq_true, if_true]

theorem isProbeReturnValid_state {regs : CpuidRegs} {vcpu : VcpuContext}
    (valid : isProbeReturnValid regs vcpu = true) :
    vcpu.firstExitProbe.state = .exitValidated ∧ isMagicTuple regs = true := by
  simp only [isProbeReturnValid, Bool.and_eq_true, decide_eq_true_eq] at valid
  exact ⟨valid.1.1.1.1, valid.1.1.1.2⟩

theorem verifyFirstExitProbe_step (regs : CpuidRegs) (vcpu : VcpuContext) :
    (verifyFirstExitProbeReturn regs vcpu).2.firstExitProbe.state = vcpu.firstExitProbe.state ∨
      ProbeEdge vcpu.firstExitProbe.state
        (verifyFirstExitProbeReturn regs vcpu).2.firstExitProbe.state := by
  by_cases valid : isProbeReturnValid regs vcpu = true
  · rw [(isProbeReturnValid_state valid).1]
    simp only [verifyFirstExitProbeReturn, valid, if_true, setProbeState]
    exact Or.inr .finish
  · simp only [verifyFirstExitProbeReturn, valid, Bool.false_eq_true, if_false]
    exact failFirstExitProbe_step vcpu

theorem eventWrites_exists (vcpu : VcpuContext) (event : ProbeEvent) :
    ∃ states, EventWrites vcpu event states := by
  cases event with
  | exit m owned s => exact (vmExitHandler_ended m (s.on vcpu) owned).path
  | resumeFailure m owned s resumeFlags =>
    exact (handleVmResumeFailure_ended m resumeFlags (s.on vcpu) owned).path
  | prepare => exact ⟨_, rfl⟩
  | arm => exact ⟨_, rfl⟩
  | verify regs => exact ⟨_, rfl⟩
  | other f still => exact ⟨_, rfl⟩

theorem EventWrites.walk {vcpu : VcpuContext} {event : ProbeEvent}
    {states : List FirstExitProbeState} (writes : EventWrites vcpu event states) :
    ProbeWalk vcpu.firstExitProbe.state states (probeStep vcpu event).firstExitProbe.state := by
  cases event with
  | exit m owned s => exact ExitPath.walk writes
  | resumeFailure m owned s resumeFlags => exact ExitPath.walk writes
  | prepare =>
    rw [show states = _ from writes]
    exact written_walk (Or.inr (.reset _))
  | arm =>
    rw [show states = _ from writes]
    exact written_walk (armFirstExitProbe_step vcpu)
  | verify regs =>
    rw [show states = _ from writes]
    exact written_walk (verifyFirstExitProbe_step regs vcpu)
  | other f still =>
    rw [show states = _ from writes]
    exact written_walk (Or.inl (congrArg FirstExitProbe.state (still vcpu)))

theorem runWrites_exists (vcpu : VcpuContext) (events : List ProbeEvent) :
    ∃ states, RunWrites vcpu events states := by
  induction events generalizing vcpu with
  | nil => exact ⟨[], .nil vcpu⟩
  | cons event events ih =>
    obtain ⟨early, first⟩ := eventWrites_exists vcpu event
    obtain ⟨late, rest⟩ := ih (probeStep vcpu event)
    exact ⟨early ++ late, .cons first rest⟩

theorem RunWrites.walk {vcpu : VcpuContext} {events : List ProbeEvent}
    {states : List FirstExitProbeState} (writes : RunWrites vcpu events states) :
    ProbeWalk vcpu.firstExitProbe.state states
      (Run.after probeStep vcpu events).firstExitProbe.state := by
  induction writes with
  | nil vcpu => exact .nil _
  | cons first _ ih => exact first.walk.append ih

/-- The guest stops here: the exit halts or aborts, or the VMRESUME fails. -/
def Stops (vcpu : VcpuContext) : ProbeEvent → Prop
  | .exit m _ s => (vmExitHandler m (s.on vcpu)).2.ctx.haltVm = true ∨
      (vmExitHandler m (s.on vcpu)).2.ctx.abortVm = true
  | .resumeFailure .. => True
  | _ => False

def ProbeEvent.isPrepare : ProbeEvent → Bool
  | .prepare => true
  | _ => false

/-- What has happened when the probe has returned: it was armed, then a CPUID exit
of the probe's leaf was answered and let go on, then the magic tuple came back,
and in between no exit halted or aborted and no VMRESUME failed. -/
def ProvenReturn (vcpu : VcpuContext) (events : List ProbeEvent) : Prop :=
  ∃ before mid m owned s post regs rest,
    events = before ++ .arm :: (mid ++ .exit m owned s :: (post ++ .verify regs :: rest)) ∧
      (armFirstExitProbe (Run.after probeStep vcpu before)).1 = true ∧
      Run.Every probeStep (fun vcpu event => ¬Stops vcpu event)
        (Run.after probeStep vcpu (before ++ [.arm])) (mid ++ .exit m owned s :: post) ∧
      ProbeExit (s.on (Run.after probeStep vcpu (before ++ .arm :: mid)))
        (vmExitHandler m (s.on (Run.after probeStep vcpu (before ++ .arm :: mid)))).2 ∧
      isMagicTuple regs = true

/-- What one event can do to the probe. -/
inductive EventOutcome (vcpu : VcpuContext) (event : ProbeEvent) : Prop
  | kept (same : (probeStep vcpu event).firstExitProbe.state = vcpu.firstExitProbe.state)
  | failed (open_ : vcpu.firstExitProbe.state = .idle ∨ Active vcpu.firstExitProbe.state)
      (state : (probeStep vcpu event).firstExitProbe.state = .failed)
  | reset (prepares : event.isPrepare = true)
      (state : (probeStep vcpu event).firstExitProbe.state = .idle)
  | armed (same : event = .arm) (idle : vcpu.firstExitProbe.state = .idle)
      (taken : (armFirstExitProbe vcpu).1 = true)
      (state : (probeStep vcpu event).firstExitProbe.state = .armed)
  | validated {m : Machine} {owned : m.hasVcpu = true} {s : ExitState}
      (same : event = .exit m owned s)
      (proven : vcpu.firstExitProbe.state = .armed ∧
          ProbeExit (s.on vcpu) (vmExitHandler m (s.on vcpu)).2 ∨
        vcpu.firstExitProbe.state = .vmExitEntered)
      (state : (probeStep vcpu event).firstExitProbe.state = .exitValidated)
  | returned {regs : CpuidRegs} (same : event = .verify regs)
      (valid : vcpu.firstExitProbe.state = .exitValidated ∧ isMagicTuple regs = true)
      (state : (probeStep vcpu event).firstExitProbe.state = .returned)

theorem failFirstExitProbe_outcome {vcpu : VcpuContext} {event : ProbeEvent}
    (fails : (probeStep vcpu event).firstExitProbe =
      (failFirstExitProbeAtFatalBoundary vcpu).firstExitProbe) : EventOutcome vcpu event := by
  by_cases active : Active vcpu.firstExitProbe.state
  · refine .failed (Or.inr active) ?_
    rw [fails, failFirstExitProbe_active active]
  · refine .kept ?_
    rw [fails, failFirstExitProbe_inactive active]

theorem armFirstExitProbe_outcome (vcpu : VcpuContext) : EventOutcome vcpu .arm := by
  by_cases idle : vcpu.firstExitProbe.state = .idle
  · by_cases flags : vcpu.lastVmResumeFlags = 0
    · have taken : armFirstExitProbe vcpu = (true, { vcpu with
          firstExitProbe := ⟨.armed, vcpu.vmExitCount, vcpu.vmResumeAttempts, 0, 0, 0, .none, 0⟩ }) := by
        simp only [armFirstExitProbe, idle, flags, ne_eq, not_true_eq_false, if_false]
      refine .armed rfl idle (by rw [taken]) ?_
      rw [probeStep, taken]
    · refine .failed (Or.inl idle) ?_
      simp only [probeStep, armFirstExitProbe, idle, flags, ne_eq, not_true_eq_false, if_false,
        not_false_eq_true, if_true, setProbeState]
  · refine .kept ?_
    simp only [probeStep, armFirstExitProbe, ne_eq, idle, not_false_eq_true, if_true]

theorem probeStep_outcome (vcpu : VcpuContext) (event : ProbeEvent) : EventOutcome vcpu event := by
  cases event with
  | prepare => exact .reset rfl rfl
  | arm => exact armFirstExitProbe_outcome vcpu
  | exit m owned s =>
    cases (vmExitHandler_ended m (s.on vcpu) owned).outcome with
    | kept same => exact .kept same
    | failed active state => exact .failed (Or.inr active) state
    | validated armed state proven => exact .validated rfl (Or.inl ⟨armed, proven⟩) state
    | completed entered state => exact .validated rfl (Or.inr entered) state
  | resumeFailure m owned s resumeFlags =>
    have ended := handleVmResumeFailure_ended m resumeFlags (s.on vcpu) owned
    by_cases active : Active vcpu.firstExitProbe.state
    · exact .failed (Or.inr active) (ended.failed active)
    · exact .kept (ended.kept active)
  | verify regs =>
    by_cases valid : isProbeReturnValid regs vcpu = true
    · refine .returned rfl (isProbeReturnValid_state valid) ?_
      simp only [probeStep, verifyFirstExitProbeReturn, valid, if_true, setProbeState]
    · refine failFirstExitProbe_outcome ?_
      simp only [probeStep, verifyFirstExitProbeReturn, valid, Bool.false_eq_true, if_false]
  | other f still => exact .kept (congrArg FirstExitProbe.state (still vcpu))

/-- A stop ends a proof that is under way. -/
theorem probeStep_stops {vcpu : VcpuContext} {event : ProbeEvent} (stops : Stops vcpu event)
    (active : Active vcpu.firstExitProbe.state) :
    (probeStep vcpu event).firstExitProbe.state = .failed := by
  cases event with
  | exit m owned s =>
    have goes {flags : GuestContext} (running : flags.haltVm = false ∧ flags.abortVm = false) :
        ¬(flags.haltVm = true ∨ flags.abortVm = true) := by
      simp [running]
    cases (vmExitHandler_ended m (s.on vcpu) owned).outcome with
    | kept _ _ running => exact absurd stops (goes (running active))
    | failed _ failed => exact failed
    | validated _ _ proven => exact absurd stops (goes proven.running)
    | completed _ _ running => exact absurd stops (goes running)
  | resumeFailure m owned s resumeFlags =>
    exact (handleVmResumeFailure_ended m resumeFlags (s.on vcpu) owned).failed active
  | prepare => exact absurd stops id
  | arm => exact absurd stops id
  | verify regs => exact absurd stops id
  | other f still => exact absurd stops id

/-- Failed and Returned stay until the next launch. -/
theorem probeStep_final {vcpu : VcpuContext} {event : ProbeEvent}
    (final : vcpu.firstExitProbe.state = .failed ∨ vcpu.firstExitProbe.state = .returned)
    (goes : event.isPrepare = false) :
    (probeStep vcpu event).firstExitProbe.state = vcpu.firstExitProbe.state := by
  have inactive : ¬(vcpu.firstExitProbe.state = .idle ∨ Active vcpu.firstExitProbe.state) := by
    rcases final with state | state <;> rw [state] <;> decide
  cases probeStep_outcome vcpu event with
  | kept same => exact same
  | failed open_ => exact absurd open_ inactive
  | reset prepares => exact absurd (prepares.symm.trans goes) (by decide)
  | armed _ idle => exact absurd (Or.inl idle) inactive
  | validated _ proven =>
    rcases proven with ⟨armed, -⟩ | entered
    · exact absurd (Or.inr (Or.inl armed)) inactive
    · exact absurd (Or.inr (Or.inr (Or.inl entered))) inactive
  | returned _ valid => exact absurd (Or.inr (Or.inr (Or.inr valid.1))) inactive

/-- Between exits the probe is never left at VmExitEntered. -/
theorem probeStep_notEntered {vcpu : VcpuContext} {event : ProbeEvent}
    (outside : vcpu.firstExitProbe.state ≠ .vmExitEntered) :
    (probeStep vcpu event).firstExitProbe.state ≠ .vmExitEntered := by
  cases probeStep_outcome vcpu event with
  | kept same => rwa [same]
  | failed _ state => rw [state]; decide
  | reset _ state => rw [state]; decide
  | armed _ _ _ state => rw [state]; decide
  | validated _ _ state => rw [state]; decide
  | returned _ _ state => rw [state]; decide

theorem becomes_armed {vcpu : VcpuContext} {event : ProbeEvent}
    (armed : (probeStep vcpu event).firstExitProbe.state = .armed) :
    (event = .arm ∧ (armFirstExitProbe vcpu).1 = true) ∨
      vcpu.firstExitProbe.state = .armed ∧ ¬Stops vcpu event := by
  cases probeStep_outcome vcpu event with
  | kept same =>
    have before : vcpu.firstExitProbe.state = .armed := same.symm.trans armed
    refine Or.inr ⟨before, fun stops => ?_⟩
    exact absurd (armed.symm.trans (probeStep_stops stops (Or.inl before))) (by decide)
  | armed same _ taken => exact Or.inl ⟨same, taken⟩
  | failed _ state => exact absurd (armed.symm.trans state) (by decide)
  | reset _ state => exact absurd (armed.symm.trans state) (by decide)
  | validated _ _ state => exact absurd (armed.symm.trans state) (by decide)
  | returned _ _ state => exact absurd (armed.symm.trans state) (by decide)

/-- The exit that proves the probe of this record. -/
def Proves (vcpu : VcpuContext) (event : ProbeEvent) : Prop :=
  ∃ m owned s, event = .exit m owned s ∧
    (vcpu.firstExitProbe.state = .armed ∧ ProbeExit (s.on vcpu) (vmExitHandler m (s.on vcpu)).2 ∨
      vcpu.firstExitProbe.state = .vmExitEntered)

theorem becomes_validated {vcpu : VcpuContext} {event : ProbeEvent}
    (validated : (probeStep vcpu event).firstExitProbe.state = .exitValidated) :
    Proves vcpu event ∨ vcpu.firstExitProbe.state = .exitValidated ∧ ¬Stops vcpu event := by
  cases probeStep_outcome vcpu event with
  | kept same =>
    have before : vcpu.firstExitProbe.state = .exitValidated := same.symm.trans validated
    refine Or.inr ⟨before, fun stops => ?_⟩
    exact absurd (validated.symm.trans (probeStep_stops stops (Or.inr (Or.inr before)))) (by decide)
  | validated same proven => exact Or.inl ⟨_, _, _, same, proven⟩
  | failed _ state => exact absurd (validated.symm.trans state) (by decide)
  | reset _ state => exact absurd (validated.symm.trans state) (by decide)
  | armed _ _ _ state => exact absurd (validated.symm.trans state) (by decide)
  | returned _ _ state => exact absurd (validated.symm.trans state) (by decide)

/-- The sentinel's return is accepted here. -/
def Accepts (vcpu : VcpuContext) (event : ProbeEvent) : Prop :=
  ∃ regs, event = .verify regs ∧ vcpu.firstExitProbe.state = .exitValidated ∧
    isMagicTuple regs = true

theorem becomes_returned {vcpu : VcpuContext} {event : ProbeEvent}
    (returned : (probeStep vcpu event).firstExitProbe.state = .returned) :
    Accepts vcpu event ∨ vcpu.firstExitProbe.state = .returned ∧ ¬event.isPrepare = true := by
  cases outcome : probeStep_outcome vcpu event with
  | kept same =>
    refine Or.inr ⟨same.symm.trans returned, fun prepares => ?_⟩
    cases event with
    | prepare => exact absurd (show FirstExitProbeState.idle = .returned from returned) (by decide)
    | _ => exact absurd prepares Bool.false_ne_true
  | returned same valid => exact Or.inl ⟨_, same, valid⟩
  | failed _ state => exact absurd (returned.symm.trans state) (by decide)
  | reset _ state => exact absurd (returned.symm.trans state) (by decide)
  | armed _ _ _ state => exact absurd (returned.symm.trans state) (by decide)
  | validated _ _ state => exact absurd (returned.symm.trans state) (by decide)

section

variable {vcpu : VcpuContext} (idle : vcpu.firstExitProbe.state = .idle)

include idle

theorem run_notEntered (events : List ProbeEvent) :
    (Run.after probeStep vcpu events).firstExitProbe.state ≠ .vmExitEntered :=
  Run.invariant_always (P := fun vcpu : VcpuContext => vcpu.firstExitProbe.state ≠ .vmExitEntered)
    (fun _ _ outside => probeStep_notEntered outside) (by rw [idle]; decide) events

/-- A probe that has returned was armed, proven and accepted, in this order and
without a stop. -/
theorem run_provenReturn {events : List ProbeEvent}
    (returned : (Run.after probeStep vcpu events).firstExitProbe.state = .returned) :
    ProvenReturn vcpu events := by
  have notIdle {state : FirstExitProbeState} (other : state ≠ .idle) :
      ¬vcpu.firstExitProbe.state = state := by
    rw [idle]
    exact fun same => other same.symm
  obtain ⟨upToReturn, verify, rest, shape, ⟨regs, rfl, validated, magic⟩, -⟩ :=
    Run.since_of_flag (F := fun vcpu : VcpuContext => vcpu.firstExitProbe.state = .returned)
      (fun _ _ => becomes_returned) (notIdle (by decide)) returned
  obtain ⟨upToExit, exit, post, exitShape, ⟨m, owned, s, rfl, proven⟩, quietPost⟩ :=
    Run.since_of_flag (F := fun vcpu : VcpuContext => vcpu.firstExitProbe.state = .exitValidated)
      (fun _ _ => becomes_validated) (notIdle (by decide)) validated
  obtain ⟨armed, proof⟩ := proven.resolve_right (run_notEntered idle upToExit)
  obtain ⟨before, arming, mid, armShape, ⟨rfl, taken⟩, quietMid⟩ :=
    Run.since_of_flag (F := fun vcpu : VcpuContext => vcpu.firstExitProbe.state = .armed)
      (fun _ _ => becomes_armed) (notIdle (by decide)) armed
  subst armShape
  subst exitShape
  refine ⟨before, mid, m, owned, s, post, regs, rest, ?_, taken, ?_, proof, magic⟩
  · simp only [shape, List.append_assoc, List.cons_append]
  · rw [Run.not_occurs_iff] at quietMid quietPost
    rw [Run.every_append, Run.every_cons]
    have mid_shape : Run.after probeStep (Run.after probeStep vcpu (before ++ [.arm])) mid =
        Run.after probeStep vcpu (before ++ .arm :: mid) := by
      rw [← Run.after_append, List.append_assoc, List.singleton_append]
    rw [mid_shape]
    refine ⟨quietMid, ?_, ?_⟩
    · rintro (halted | aborted)
      · exact absurd (proof.running.1.symm.trans halted) Bool.false_ne_true
      · exact absurd (proof.running.2.symm.trans aborted) Bool.false_ne_true
    · rwa [Run.after_append, Run.after_cons, Run.after_nil] at quietPost

end

/-- The first-exit proof, over every run of launches, armings, exits of any kind
and outcome, failed VMRESUMEs and verifications that starts with an idle probe.
The exit path moves the probe by its three movers only; Returned is reached in
order, and only behind the probe's own CPUID exit; a stop in between makes it
Failed; and Failed and Returned stay until the next launch. -/
theorem firstExitProbe_proof (vcpu : VcpuContext) (idle : vcpu.firstExitProbe.state = .idle)
    (events : List ProbeEvent) :
    (∃ states, RunWrites vcpu events states) ∧
      (∀ states, RunWrites vcpu events states →
        (Run.after probeStep vcpu events).firstExitProbe.state = .returned →
          ∃ earlier, .idle :: states =
            earlier ++ [.idle, .armed, .vmExitEntered, .exitValidated, .returned]) ∧
      ((Run.after probeStep vcpu events).firstExitProbe.state = .returned →
        ProvenReturn vcpu events) ∧
      Run.Every probeStep (fun vcpu event => Stops vcpu event →
        Active vcpu.firstExitProbe.state →
          (probeStep vcpu event).firstExitProbe.state = .failed) vcpu events ∧
      Run.Every probeStep (fun vcpu event => event.isPrepare = false →
        vcpu.firstExitProbe.state = .failed ∨ vcpu.firstExitProbe.state = .returned →
          (probeStep vcpu event).firstExitProbe.state = vcpu.firstExitProbe.state) vcpu events := by
  refine ⟨runWrites_exists vcpu events, fun states writes returned => ?_,
    run_provenReturn idle, ?_, ?_⟩
  · have walk := writes.walk
    rw [idle, returned] at walk
    exact walk.returned
  · exact fun _ _ _ _ stops active => probeStep_stops stops active
  · exact fun _ _ _ _ goes final => probeStep_final final goes

/-- The sentinel CPUID of RunFirstExitProbe, as it exits. -/
def sentinelExit : ExitState :=
  { cpuidExit with
    ctx := { zeroContext with rax := 0x13371337 }
    vmcs := fun
      | .vmExitReason => 10
      | .vmExitInstructionLen => 2
      | .guestRip => 0xFFFFF80000001000
      | _ => 0 }

def sentinelRun : List ProbeEvent :=
  [.arm, .exit quietMachine rfl sentinelExit,
    .verify ⟨kFirstExitProbeLeaf, kFirstExitProbeEbx, kFirstExitProbeEcx, kFirstExitProbeEdx⟩]

theorem firstExitProbe_proof_sentinel :
    (Run.after probeStep zeroVcpu sentinelRun).firstExitProbe.state = .returned ∧
      ProvenReturn zeroVcpu sentinelRun := by
  have returned : (Run.after probeStep zeroVcpu sentinelRun).firstExitProbe.state = .returned := by
    decide +kernel
  exact ⟨returned, (firstExitProbe_proof zeroVcpu rfl sentinelRun).2.2.1 returned⟩

end Knhv.Vmx
