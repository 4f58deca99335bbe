import Knhv.Lifecycle.Worker

namespace Knhv.Lifecycle

open Teardown

/-- What a processor cannot undo by itself: its memory and the handles of its work
are the coordinator's, work that has ended stays so, and a vCPU that nobody
launches stays stopped. -/
structure Calm (q q' : Processor) : Prop where
  memory : q'.memory = q.memory
  handle : q'.work.threadHandle = q.work.threadHandle
  dpcQueued : q'.dpc.dpcQueued = q.dpc.dpcQueued
  launch : q.launch = .absent → q'.launch = .absent
  returned : q.launch = .returned → q'.launch = .returned
  worker : q.worker = .absent → q'.worker = .absent
  exited : q.worker = .exited → q'.worker = .exited
  terminal : q.launch = .absent → isVcpuStopTerminal q.words.state = true →
    q'.words.state = q.words.state ∧ (q.vmcsCurrent = .none → q'.vmcsCurrent = .none)

theorem Calm.refl (q : Processor) : Calm q q :=
  ⟨rfl, rfl, rfl, id, id, id, id, fun _ _ => ⟨rfl, id⟩⟩

/-- A processor without a vCPU, or whose vCPU has been given back. -/
structure Blank (q : Processor) : Prop where
  memory : q.memory = false
  handle : q.work.threadHandle = false
  dpcQueued : q.dpc.dpcQueued = false
  vmcsCurrent : q.vmcsCurrent = .none
  vmxe : q.words.vmxe = false
  halted : q.words.halted = false

variable {q : Processor} {k : Nat} {turn : Turn} {next : Processor × Point}

theorem launchAccess_of_absent (absent : q.launch = .absent) :
    q.launchAccess turn q.launch = (q, .absent) := by
  rw [absent]
  rfl

theorem workerAccess_of_absent (absent : q.worker = .absent) :
    q.workerAccess k turn q.worker = (q, .absent) := by
  rw [absent]
  rfl

theorem launchAccess_returned (returned : q.launch = .returned) :
    q.launchAccess turn q.launch = (q, .returned) := by
  rw [returned]
  rfl

theorem workerAccess_calm (k : Nat) (turn : Turn) :
    Calm q { (q.workerAccess k turn q.worker).1 with
      worker := (q.workerAccess k turn q.worker).2 } := by
  have work := workerAccess_work k turn q q.worker
  revert work
  generalize q.workerAccess k turn q.worker = next
  generalize here : q.worker = p
  intro work
  cases work with
  | absent =>
    exact ⟨rfl, rfl, rfl, id, id, fun _ => rfl, fun exited => (nomatch here.symm.trans exited),
      fun _ _ => ⟨rfl, id⟩⟩
  | stops idle =>
    exact ⟨rfl, rfl, rfl, id, id, fun absent => (nomatch here.symm.trans absent),
      fun exited => (nomatch here.symm.trans exited), fun _ _ => ⟨rfl, id⟩⟩
  | reports p next state result present stays exits stopping =>
    exact ⟨rfl, rfl, rfl, id, id, fun absent => absurd (here.symm.trans absent) present,
      fun exited => exits (here.symm.trans exited), fun _ _ => ⟨rfl, id⟩⟩

theorem launchAccess_calm (turn : Turn) :
    Calm q { (q.launchAccess turn q.launch).1 with
      launch := (q.launchAccess turn q.launch).2 } := by
  obtain ⟨points, dpc, worker, work, memory, root⟩ := launchAccess_frame turn q q.launch
  refine ⟨memory, by simp only [work], dpc, fun absent => ?_, fun returned => ?_, worker.trans,
    worker.trans, fun absent _ => ?_⟩
  · simp only [launchAccess_of_absent absent]
  · simp only [launchAccess_returned returned]
  · rw [launchAccess_of_absent absent]
    exact ⟨rfl, id⟩

namespace Sound

variable (sound : Sound q)

include sound

theorem not_inRoot_of_noGuest (noGuest : q.guest = false) (a : Nat) :
    ¬(q.points a).inRoot = true := by
  intro inside
  have active := (sound.root a inside).1
  rw [noGuest] at active
  cases active

theorem call_terminal (call : Call k q (q.points k) next)
    (terminal : isVcpuStopTerminal q.words.state = true) :
    next.1.words.state = q.words.state ∧ next.1.vmcsCurrent = q.vmcsCurrent := by
  have outside := sound.not_inRoot_of_noGuest (sound.noGuest_of_terminal terminal) k
  constructor
  · rcases call.state with same | ⟨here, _⟩ | ⟨state, _⟩ | ⟨state, _⟩ | ⟨_, state, _⟩
    · exact same
    · exact absurd (by rw [here]; rfl) outside
    all_goals simp [state, isVcpuStopTerminal] at terminal
  · exact call.vmcsCurrent.elim id fun inside => absurd inside.1 outside

theorem calm_call (call : Call k q (q.points k) next) :
    Calm q { next.1 with points := Function.update q.points k next.2 } := by
  obtain ⟨_, launch, dpc, worker, work, memory⟩ := call.frame
  refine ⟨memory, by simp only [work], by simp only [dpc], launch.trans, launch.trans, worker.trans,
    worker.trans, fun _ terminal => ?_⟩
  obtain ⟨state, vmcs⟩ := sound.call_terminal call terminal
  exact ⟨state, vmcs.trans⟩

theorem calm_parked (halted : q.words.halted = true) (turn : Turn) :
    Calm q (q.parkedAccess turn) := by
  have state := (sound.halted halted).state
  have live : isVcpuStopTerminal q.words.state = true → False := by
    rw [state]
    exact nofun
  have parks := parkedAccess_parks turn q
  revert parks
  generalize q.parkedAccess turn = next
  intro parks
  cases parks <;> exact ⟨rfl, rfl, rfl, id, id, id, id, fun _ terminal => (live terminal).elim⟩

/-- Whatever a processor does, it leaves the coordinator's part alone. -/
theorem calm (a : ProcessorAction) : Calm q (q.step a) := by
  cases a with
  | vmcall k =>
    simp only [Processor.step]
    split
    · exact ⟨rfl, rfl, rfl, id, id, id, id, fun _ _ => ⟨rfl, id⟩⟩
    · exact .refl q
  | caller k turn =>
    simp only [Processor.step]
    split
    · exact sound.calm_call (callerAccess_call k turn q (q.points k))
    · exact .refl q
  | launch turn =>
    simp only [Processor.step]
    split
    · exact launchAccess_calm turn
    · exact .refl q
  | worker k turn =>
    simp only [Processor.step]
    split
    · exact workerAccess_calm k turn
    · exact .refl q
  | parked turn =>
    simp only [Processor.step]
    split
    · next halted => exact sound.calm_parked halted turn
    · exact .refl q

variable (blank : Blank q)

include blank

theorem launch_absent : q.launch = .absent := by
  by_contra inserted
  have queued := sound.queued inserted
  rw [blank.dpcQueued] at queued
  cases queued

theorem worker_absent : q.worker = .absent := by
  by_contra present
  have handle := sound.handle present
  rw [blank.handle] at handle
  cases handle

theorem vmxOperation_off : q.vmxOperation = false := by
  by_contra on
  have memory := sound.memory (.inr (by simpa using on))
  rw [blank.memory] at memory
  cases memory

theorem noGuest : q.guest = false := by
  by_contra active
  have on := (sound.guest (by simpa using active)).1
  rw [sound.vmxOperation_off blank] at on
  cases on

/-- A blank processor stays blank. -/
theorem blank_step (a : ProcessorAction) : Blank (q.step a) := by
  have calm := sound.calm a
  have rest : (q.step a).vmcsCurrent = .none ∧ (q.step a).words.vmxe = false ∧
      (q.step a).words.halted = false := by
    cases a with
    | vmcall k =>
      simp only [Processor.step]
      split <;> exact ⟨blank.vmcsCurrent, blank.vmxe, blank.halted⟩
    | caller k turn =>
      simp only [Processor.step]
      split
      · have call := callerAccess_call k turn q (q.points k)
        have outside := sound.not_inRoot_of_noGuest (sound.noGuest blank) k
        refine ⟨?_, ?_, ?_⟩
        · exact (call.vmcsCurrent.resolve_right fun inside => outside inside.1).trans blank.vmcsCurrent
        · exact call.operation.elim (fun same => same.1.trans blank.vmxe) And.left
        · refine (call.halted.resolve_right fun parks => outside ?_).trans blank.halted
          rw [parks.1]
          rfl
      · exact ⟨blank.vmcsCurrent, blank.vmxe, blank.halted⟩
    | launch turn =>
      simp only [Processor.step, launchAccess_of_absent (sound.launch_absent blank)]
      split <;> exact ⟨blank.vmcsCurrent, blank.vmxe, blank.halted⟩
    | worker k turn =>
      simp only [Processor.step, workerAccess_of_absent (sound.worker_absent blank)]
      split <;> exact ⟨blank.vmcsCurrent, blank.vmxe, blank.halted⟩
    | parked turn =>
      simp only [Processor.step, blank.halted]
      exact ⟨blank.vmcsCurrent, blank.vmxe, blank.halted⟩
  exact ⟨calm.memory.trans blank.memory, calm.handle.trans blank.handle,
    calm.dpcQueued.trans blank.dpcQueued, rest.1, rest.2.1, rest.2.2⟩

end Sound

end Knhv.Lifecycle
