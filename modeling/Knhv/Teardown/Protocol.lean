import Knhv.Lib.Run
import Knhv.Teardown.Requests

namespace Knhv.Teardown

/-- Who has the processor, and what a parked vCPU says. -/
structure Rooted (s : Vcpu) : Prop where
  owner : s.words.halted = true ∨ ∀ a, (s.points a).inRoot = true ↔ s.words.root = some a
  parkedStage : s.words.launchStage = .parked →
    s.words.halted = true ∨ ∃ a, s.points a = .parkState
  parkedState : s.words.state = .parked → s.words.halted = true

/-- Between its two restoring accesses a deferred caller finds the stage open,
or the processor parked. -/
def StageRestored (s : Vcpu) : Prop :=
  ∀ a, s.points a = .restoreState →
    s.words.launchStage = .guestActive ∨ s.words.launchStage = .parked

theorem launched_rooted : Rooted launched where
  owner := .inr fun _ => ⟨nofun, nofun⟩
  parkedStage := nofun
  parkedState := nofun

variable {s : Vcpu} {k : Nat} {next : Words × Point}

namespace Rooted

variable (rooted : Rooted s) (runs : s.words.canRun k = true)

include rooted runs

/-- Nobody else is in root while `k` runs. -/
theorem root_own {a : Nat} (inside : (s.points a).inRoot = true) : a = k := by
  obtain ⟨live, free⟩ := Words.canRun_iff.mp runs
  rcases rooted.owner with halted | owner
  · rw [live] at halted
    cases halted
  · rw [(owner a).mp inside] at free
    rcases free with none | mine
    · cases none
    · exact Option.some.inj mine

theorem not_parkedState : s.words.state ≠ .parked := by
  intro parked
  have halted := rooted.parkedState parked
  rw [(Words.canRun_iff.mp runs).1] at halted
  cases halted

theorem parkedStage_own (parked : s.words.launchStage = .parked) : s.points k = .parkState := by
  rcases rooted.parkedStage parked with halted | ⟨a, here⟩
  · rw [(Words.canRun_iff.mp runs).1] at halted
    cases halted
  · rw [← rooted.root_own runs (a := a) (by rw [here]; rfl)]
    exact here

theorem put (move : Move k s.words (s.points k) next) : Rooted (s.put k next) where
  owner := by
    obtain ⟨live, free⟩ := Words.canRun_iff.mp runs
    have owner := rooted.owner.resolve_left (by simp [live])
    refine (move.root (owner k) free).imp_right fun after => ?_
    refine Vcpu.put_all (P := fun a p => p.inRoot = true ↔ next.1.root = some a) after.1
      fun b other => ?_
    have outside : ¬(s.points b).inRoot = true := fun inside =>
      other (rooted.root_own runs inside)
    have elsewhere : next.1.root ≠ some b := fun there => by
      rcases after.2 with none | mine
      · rw [there] at none
        cases none
      · rw [there] at mine
        exact other (Option.some.inj mine)
    exact iff_of_false outside elsewhere
  parkedStage := by
    intro parked
    rcases move.stage with same | ⟨_, _, last⟩ | other | other | other | other
    · exact .inl (move.parks (rooted.parkedStage_own runs (same ▸ parked)))
    · exact .inr ⟨k, by rw [Vcpu.put_points, Function.update_self]; exact last⟩
    all_goals simp_all
  parkedState := by
    intro parked
    rcases move.state with same | ⟨_, _, halted⟩ | other | other | other
    · exact absurd (same ▸ parked) (rooted.not_parkedState runs)
    · exact halted
    all_goals simp_all

end Rooted

variable (claims : Claims s) (rooted : Rooted s) (runs : s.words.canRun k = true)

include claims rooted runs

/-- A caller that runs with the state claim finds the vCPU tearing down, unless
`MarkCurrentVcpuStopped` was faster. -/
theorem state_tearingDown (holds : (s.points k).holdsState = true)
    (early : s.points k ≠ .publishStopped) : s.words.state = .tearingDown := by
  rcases claims.stateTaken k holds with taken | ⟨_, last⟩ | parked
  · exact taken
  · exact absurd last early
  · exact absurd parked (rooted.not_parkedState runs)

theorem stageRestored_put (restored : StageRestored s)
    (move : Move k s.words (s.points k) next)
    (undisturbed : s.points k = .claimStage → s.words.launchStage = .guestActive →
      s.words.state ≠ .tearingDown) :
    StageRestored (s.put k next) := by
  refine Vcpu.put_all (P := fun _ p => p = .restoreState →
    next.1.launchStage = .guestActive ∨ next.1.launchStage = .parked) (fun mine => ?_)
    (fun b _ theirs => ?_)
  · obtain ⟨here, result⟩ := move.restoreState mine
    have tearingDown := state_tearingDown claims rooted runs (by rw [here]; rfl)
      (by rw [here]; exact nofun)
    rw [result]
    rcases claims.stageTaken k (by rw [here]; rfl) with taken | taken | ⟨_, final⟩
    · exact .inl (by simp [Words.casStage, taken])
    · exact .inr (by simp [Words.casStage, taken])
    · rcases final with final | final <;> simp [final] at tearingDown
  · have before := restored b theirs
    rcases move.stage with same | parked | running | claimed | released | stopped
    · rwa [same]
    · exact .inr parked.2.1
    · exact .inl running.2.2
    -- the restoring caller still has the state claim
    · rcases claims.stateTaken b (by rw [theirs]; rfl) with taken | ⟨_, last⟩ | parked
      · exact absurd taken (undisturbed claimed.1 claimed.2.1)
      · rw [theirs] at last
        cases last
      · exact absurd parked (rooted.not_parkedState runs)
    · exact .inl released.2.2.2
    · rw [stopped.2.1] at before
      rcases before with before | before <;> cases before

/-- What a deferred stop leaves behind. -/
theorem deferred_justified (restored : StageRestored s) (here : s.points k = .restoreState) :
    (s.words.casState .tearingDown .launched).state = .launched ∧
      s.words.launchStage = .guestActive ∧ s.words.teardownRequest = false := by
  have tearingDown := state_tearingDown claims rooted runs (by rw [here]; rfl)
    (by rw [here]; exact nofun)
  refine ⟨by simp [Words.casState, tearingDown], ?_, claims.restoring k (by rw [here]; rfl)⟩
  rcases restored k here with opened | parked
  · exact opened
  · have parking := rooted.parkedStage_own runs parked
    rw [here] at parking
    cases parking

/-- Every event of a move is justified by the events before it. -/
theorem emits_justified (requests : Requests s) (restored : StageRestored s) {event : Event}
    (emits : Emits k s.words (s.points k) event) : Justified s.words.log event := by
  generalize at' : s.points k = p at emits
  cases emits with
  | stageWon => trivial
  | stateWon => exact requests.stageWon k (by rw [at']; rfl)
  | published => exact requests.stateWon k (by rw [at']; rfl)
  | authorised _ pending => exact requests.owner pending
  | sawNative => trivial
  | stopped =>
    exact ⟨requests.answered k (by rw [at']; rfl), requests.native k (by rw [at']; rfl)⟩
  | markedStopped => exact requests.quiesced (claims.marked k (by rw [at']; rfl))
  | deferred => exact deferred_justified claims rooted runs restored at'

omit claims rooted runs

/-- The invariant of the stop protocol. -/
structure Protocol (s : Vcpu) : Prop where
  claims : Claims s
  rooted : Rooted s
  requests : Requests s
  restored : StageRestored s
  chronicle : Chronicle s.words.log

theorem launched_protocol : Protocol launched :=
  ⟨launched_claims, launched_rooted, launched_requests, nofun, .nil⟩

theorem Protocol.step {a : Action} (protocol : Protocol s) (undisturbed : Undisturbed s a) :
    Protocol (step s a) := by
  rcases step_cases s a with same | ⟨k, next, runs, move, origin, moved⟩
  · rwa [same]
  obtain ⟨claims, rooted, requests, restored, chronicle⟩ := protocol
  have alone (here : s.points k = .claimStage) :
      s.words.launchStage = .guestActive → s.words.state ≠ .tearingDown := by
    rcases origin with idle | ⟨turn, rfl⟩
    · rw [idle] at here
      cases here
    · exact undisturbed here
  rw [moved]
  refine ⟨claims.put move, rooted.put runs move, requests.put move claims,
    stageRestored_put claims rooted runs restored move alone, ?_⟩
  rcases move.log with same | ⟨event, emits, grown⟩
  · exact same ▸ chronicle
  · rw [Vcpu.put_words, grown]
    exact .cons (emits_justified claims rooted runs requests restored emits) chronicle

/-- The vCPU can be stopped by the next caller. -/
structure Stoppable (w : Words) : Prop where
  state : w.state = .launched
  launchStage : w.launchStage = .guestActive
  vmxe : w.vmxe = true
  live : w.halted = false
  root : w.root = none

/-- The next `n` accesses of a caller that has the processor to itself. -/
def serve (k : Nat) (turn : Turn) : Nat → Words × Point → Words × Point
  | 0, at' => at'
  | n + 1, (w, p) => serve k turn n (if w.canRun k then access k turn w p else (w, p))

theorem after_serve (k : Nat) (turn : Turn) (n : Nat) (points : Nat → Point) (w : Words)
    (p : Point) :
    Run.after step ⟨w, Function.update points k p⟩ (List.replicate n (.proceed k turn)) =
      ⟨(serve k turn n (w, p)).1, Function.update points k (serve k turn n (w, p)).2⟩ := by
  induction n generalizing w p with
  | zero => rfl
  | succ n ih =>
    rw [List.replicate_succ, Run.after_cons, serve]
    by_cases runs : w.canRun k = true
    · have moved : step ⟨w, Function.update points k p⟩ (.proceed k turn) =
          ⟨(access k turn w p).1, Function.update points k (access k turn w p).2⟩ := by
        simp [step, runs, Vcpu.put]
      rw [moved, ih, if_pos runs]
    · have stays : step ⟨w, Function.update points k p⟩ (.proceed k turn) =
          ⟨w, Function.update points k p⟩ := by
        simp [step, runs]
      rw [stays, ih, if_neg runs]

/-- A vCPU that a deferred stop has left behind can be stopped by one caller
that comes after it and is not disturbed. -/
theorem stoppable_stops (stoppable : Stoppable s.words) (idle : s.points k = .idle) :
    (Run.after step s (.enter k .stopHvCallback ::
      List.replicate 16 (.proceed k ⟨.unload, true⟩))).words.state = .stopped := by
  have entered : step s (.enter k .stopHvCallback) =
      ⟨s.words, Function.update s.points k .readState⟩ := by
    simp [step, Words.canRun, stoppable.live, stoppable.root, idle, Vcpu.put, Routine.entry]
  rw [Run.after_cons, entered, after_serve]
  obtain ⟨state, launchStage, vmxe, live, root⟩ := stoppable
  simp [serve, Words.canRun, access, state, launchStage, vmxe, live, root, canClaim, Words.note,
    Words.clearRequest, Words.leaveRoot, Words.leaveVmx]

/-- Along every run in which no caller wins the stage while another one tears
down, every event is justified by those before it: a teardown is authorised by a
request of a caller that won both claims, each request authorises one teardown
at most, a vCPU is stopped only by a caller whose request was consumed and that
saw CR4.VMXE clear, and a deferred stop leaves the vCPU launched, its guest
active and no request, so that the next caller can stop it. -/
theorem stopProtocol (actions : List Action)
    (undisturbed : Run.Every step Undisturbed launched actions) :
    Chronicle (Run.after step launched actions).words.log ∧
      ((Run.after step launched actions).words.vmxe = false →
        ∃ k, .authorised (some k) ∈ (Run.after step launched actions).words.log) ∧
      ((Run.after step launched actions).words.state = .stopped →
        (∃ k, .stopped k ∈ (Run.after step launched actions).words.log) ∨
          .markedStopped ∈ (Run.after step launched actions).words.log) ∧
      ∀ k, Stoppable (Run.after step launched actions).words →
        (Run.after step launched actions).points k = .idle →
        (Run.after step launched (actions ++ .enter k .stopHvCallback ::
          List.replicate 16 (.proceed k ⟨.unload, true⟩))).words.state = .stopped := by
  have protocol : Protocol (Run.after step launched actions) :=
    Run.invariant (fun s a protocol alone => protocol.step alone) launched_protocol undisturbed
  refine ⟨protocol.chronicle, protocol.requests.vmxe, protocol.requests.stopped, ?_⟩
  intro k stoppable idle
  rw [Run.after_append]
  exact stoppable_stops stoppable idle

/-- The guest reports that it runs. -/
def runningRun : List Action :=
  .enter 2 .markCurrentVcpuRunning :: List.replicate 2 (.proceed 2 ⟨.resume, true⟩)

/-- A stop that is deferred, and one that gets through after it. -/
def retriedRun : List Action :=
  runningRun ++ .enter 0 .stopHvCallback :: List.replicate 11 (.proceed 0 ⟨.resume, true⟩) ++
    .enter 1 .stopHvCallback :: List.replicate 17 (.proceed 1 ⟨.unload, true⟩)

theorem stopProtocol_retriedRun :
    (Run.after step launched retriedRun).words.state = .stopped ∧
      .deferred .launched .guestActive false ∈ (Run.after step launched retriedRun).words.log ∧
      Chronicle (Run.after step launched retriedRun).words.log :=
  ⟨by decide +kernel, by decide +kernel, (stopProtocol retriedRun (by decide +kernel)).1⟩

/-- Caller 1 reads the words and waits; caller 0 is deferred and has given the
stage back when caller 1 wins it, loses the state and returns. -/
def strandedRun : List Action :=
  runningRun ++ .enter 1 .stopHvCallback :: List.replicate 2 (.proceed 1 ⟨.resume, true⟩) ++
    .enter 0 .stopHvCallback :: List.replicate 10 (.proceed 0 ⟨.resume, true⟩) ++
    List.replicate 3 (.proceed 1 ⟨.resume, true⟩) ++ [.proceed 0 ⟨.resume, true⟩]

/-- The deferred stop leaves the stage at Teardown without an owner, and every
later caller gives up before its claim. -/
theorem stopProtocol_strandedRun :
    ¬Chronicle (Run.after step launched strandedRun).words.log ∧
      (Run.after step launched strandedRun).words.launchStage = .teardown ∧
      (Run.after step launched (strandedRun ++ .enter 3 .stopHvCallback ::
        List.replicate 2 (.proceed 3 ⟨.unload, true⟩))).points 3 = .done := by
  refine ⟨fun chronicle => ?_, by decide +kernel, by decide +kernel⟩
  have log : (Run.after step launched strandedRun).words.log = [.deferred .launched .teardown false,
      .stageWon 1, .published 0, .stateWon 0, .stageWon 0] := by decide +kernel
  rw [log] at chronicle
  cases chronicle with
  | cons justified _ => exact absurd justified.2.1 (by decide)

end Knhv.Teardown
