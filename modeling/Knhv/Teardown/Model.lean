import Mathlib.Logic.Function.Basic
import Knhv.Lib.Run

namespace Knhv.Teardown

inductive VcpuState
  | uninitialized | starting | vmxOn | launched | stopped | failed | parked | tearingDown
  deriving DecidableEq, Repr

inductive LaunchStage
  | none | entry | vmxOn | ready | handoff | abort | parked | teardown | stopped | guestActive
  deriving DecidableEq, Repr

/-- What `RequestAuthenticatedUnload` asks for: `AbortVm`, `HaltVm` or neither. -/
inductive ExitVerdict
  | unload | park | resume
  deriving DecidableEq, Repr

/-- What the processor answers in one step: the verdict of a VM exit, and
whether the restore path and VMXOFF get through. -/
structure Turn where
  verdict : ExitVerdict
  leavesVmx : Bool

/-- The next access of one caller on the vCPU. `caller` tells the VMCALL of
`StopHvCallback` from one that guest kernel code issues by itself. -/
inductive Point
  | idle
  | readState
  | readStage (state : VcpuState)
  | claimStage
  | claimState
  | rereadState
  | rollBackStage
  | publishRequest
  | vmcall (caller : Bool)
  | exit (caller : Bool)
  | markerRequest (caller : Bool)
  | markerState (caller : Bool)
  | markerStage (caller : Bool)
  | consumeRequest (caller : Bool)
  | vmxoff (caller : Bool)
  | parkStage
  | parkState
  | readCr4
  | dropRequest
  | restoreStage
  | restoreState
  | readRequest
  | publishQuiesced
  | publishStopped
  | publishStoppedStage
  | markedQuiesced
  | markedRequest
  | markedState
  | markStopped
  | markStoppedStage
  | runningState
  | runningStage
  | done
  deriving DecidableEq

inductive Routine
  | stopHvCallback | unloadVmcall | markCurrentVcpuStopped | markCurrentVcpuRunning

def Routine.entry : Routine → Point
  | stopHvCallback => .readState
  | unloadVmcall => .vmcall false
  | markCurrentVcpuStopped => .markedQuiesced
  | markCurrentVcpuRunning => .runningState

/-- What happened, by the number of the caller. `authorised` carries the caller
whose request `MarkCurrentVcpuTearingDown` consumed, `deferred` the words that
a deferred stop leaves. -/
inductive Event
  | stageWon (caller : Nat)
  | stateWon (caller : Nat)
  | published (caller : Nat)
  | authorised (owner : Option Nat)
  | sawNative (caller : Nat)
  | stopped (caller : Nat)
  | markedStopped
  | deferred (state : VcpuState) (stage : LaunchStage) (request : Bool)
  deriving DecidableEq

/-- The words of one vCPU, its processor (`vmxe` is CR4.VMXE, `root` the caller
whose VM exit is being handled, `halted` a parked processor), and as no part of
the program the caller that published the pending request and the events so
far, the newest first. -/
structure Words where
  state : VcpuState
  launchStage : LaunchStage
  teardownRequest : Bool
  teardownQuiesced : Bool
  vmxe : Bool
  root : Option Nat
  halted : Bool
  requestOwner : Option Nat
  log : List Event

namespace Words

def note (w : Words) (event : Event) : Words := { w with log := event :: w.log }

def casState (w : Words) (expected desired : VcpuState) : Words :=
  { w with state := if w.state = expected then desired else w.state }

def casStage (w : Words) (expected desired : LaunchStage) : Words :=
  { w with launchStage := if w.launchStage = expected then desired else w.launchStage }

def clearRequest (w : Words) : Words := { w with teardownRequest := false, requestOwner := none }

/-- The guest goes on after its VMCALL. -/
def leaveRoot (w : Words) : Words := { w with root := none }

def leaveVmx (w : Words) : Words := { w with vmxe := false }

def noteDeferred (w : Words) : Words :=
  w.note (.deferred w.state w.launchStage w.teardownRequest)

end Words

def canClaim (state : VcpuState) (stage : LaunchStage) : Bool :=
  if stage = .handoff || state = .vmxOn || state = .starting then false
  else if state = .stopped || state = .failed || state = .parked || state = .tearingDown ||
      state = .uninitialized then false
  else state = .launched && stage = .guestActive

/-- One access of the caller `k`. -/
def access (k : Nat) (turn : Turn) (w : Words) : Point → Words × Point
  | .idle => (w, .idle)
  -- StopHvCallback
  | .readState => (w, .readStage w.state)
  | .readStage state => if canClaim state w.launchStage then (w, .claimStage) else (w, .done)
  | .claimStage =>
    if w.launchStage = .guestActive then
      (({ w with launchStage := .teardown } : Words).note (.stageWon k), .claimState)
    else
      (w, .done)
  | .claimState =>
    if w.state = .launched then
      (({ w with state := .tearingDown } : Words).note (.stateWon k), .publishRequest)
    else
      (w, .rereadState)
  | .rereadState => if w.state = .launched then (w, .rollBackStage) else (w, .done)
  | .rollBackStage => (w.casStage .teardown .guestActive, .done)
  | .publishRequest =>
    (({ w with teardownRequest := true, requestOwner := some k } : Words).note (.published k),
      .vmcall true)
  | .readCr4 =>
    if w.vmxe then (w, .dropRequest) else (w.note (.sawNative k), .readRequest)
  | .dropRequest => (w.clearRequest, .restoreStage)
  | .restoreStage => (w.casStage .teardown .guestActive, .restoreState)
  | .restoreState => ((w.casState .tearingDown .launched).noteDeferred, .done)
  | .readRequest => if w.teardownRequest then (w, .done) else (w, .publishQuiesced)
  | .publishQuiesced => ({ w with teardownQuiesced := true }, .publishStopped)
  | .publishStopped =>
    if w.state = .tearingDown then
      (({ w with state := .stopped } : Words).note (.stopped k), .publishStoppedStage)
    else
      (w, .done)
  | .publishStoppedStage => (w.casStage .teardown .stopped, .done)
  -- the VMCALL faults outside VMX operation, and the callback's handler returns
  | .vmcall caller => if w.vmxe then ({ w with root := some k }, .exit caller) else (w, .done)
  | .exit caller =>
    match turn.verdict with
    | .unload => (w, .markerRequest caller)
    | .park => (w, .parkStage)
    | .resume => if caller then (w.leaveRoot, .readCr4) else (w.leaveRoot, .done)
  -- MarkCurrentVcpuTearingDown
  | .markerRequest caller => if w.teardownRequest then (w, .markerState caller) else (w, .parkStage)
  | .markerState caller => if w.state = .tearingDown then (w, .markerStage caller) else (w, .parkStage)
  | .markerStage caller =>
    if w.launchStage = .teardown then (w, .consumeRequest caller) else (w, .parkStage)
  | .consumeRequest caller =>
    if w.teardownRequest then (w.clearRequest.note (.authorised w.requestOwner), .vmxoff caller)
    else (w, .parkStage)
  | .vmxoff caller =>
    if turn.leavesVmx then
      if caller then (w.leaveVmx.leaveRoot, .readCr4) else (w.leaveVmx.leaveRoot, .done)
    else
      (w, .parkStage)
  -- MarkCurrentVcpuParked, and the processor halts
  | .parkStage => ({ w with launchStage := .parked }, .parkState)
  | .parkState => ({ w with state := .parked, halted := true }, .done)
  -- MarkCurrentVcpuStopped
  | .markedQuiesced => if w.teardownQuiesced then (w, .markedRequest) else (w, .done)
  | .markedRequest => if w.teardownRequest then (w, .done) else (w, .markedState)
  | .markedState => if w.state = .tearingDown then (w, .markStopped) else (w, .done)
  | .markStopped =>
    if w.state = .tearingDown then
      (({ w with state := .stopped } : Words).note .markedStopped, .markStoppedStage)
    else
      (w, .done)
  | .markStoppedStage => (w.casStage .teardown .stopped, .done)
  -- MarkCurrentVcpuRunning
  | .runningState => if w.state = .launched then (w, .runningStage) else (w, .done)
  | .runningStage => (w.casStage .handoff .guestActive, .done)
  | .done => (w, .done)

/-- One vCPU with its callers. -/
structure Vcpu where
  words : Words
  points : Nat → Point

def Vcpu.put (s : Vcpu) (k : Nat) (next : Words × Point) : Vcpu :=
  ⟨next.1, Function.update s.points k next.2⟩

/-- While a VM exit is handled the processor runs nothing else, and a parked one
runs nothing at all. -/
def Words.canRun (w : Words) (k : Nat) : Bool :=
  !w.halted && (w.root = none || w.root = some k)

inductive Action
  | enter (k : Nat) (routine : Routine)
  | proceed (k : Nat) (turn : Turn)

def step (s : Vcpu) : Action → Vcpu
  | .enter k routine =>
    if s.words.canRun k && s.points k = .idle then s.put k (s.words, routine.entry) else s
  | .proceed k turn =>
    if s.words.canRun k then s.put k (access k turn s.words (s.points k)) else s

/-- The vCPU when `MarkCurrentVcpuLaunched` has returned. -/
def launched : Vcpu where
  words := {
    state := .launched
    launchStage := .handoff
    teardownRequest := false
    teardownQuiesced := false
    vmxe := true
    root := none
    halted := false
    requestOwner := none
    log := [] }
  points := fun _ => .idle

/-- What must have happened before an event. -/
def Justified (older : List Event) : Event → Prop
  | .stageWon _ | .sawNative _ => True
  | .stateWon k => .stageWon k ∈ older
  | .published k => .stageWon k ∈ older ∧ .stateWon k ∈ older
  | .authorised owner => ∃ k, owner = some k ∧ .stageWon k ∈ older ∧ .stateWon k ∈ older ∧
      .published k ∈ older ∧ .authorised (some k) ∉ older
  | .stopped k => .authorised (some k) ∈ older ∧ .sawNative k ∈ older
  | .markedStopped => ∃ k, .authorised (some k) ∈ older ∧ .sawNative k ∈ older
  | .deferred state stage request => state = .launched ∧ stage = .guestActive ∧ request = false

/-- Every event is justified by those before it. -/
inductive Chronicle : List Event → Prop
  | nil : Chronicle []
  | cons {older event} : Justified older event → Chronicle older → Chronicle (event :: older)

/-- No caller wins the stage while the state still says that another one tears
down, as it does between the two restoring accesses of a deferred stop. -/
def Undisturbed (s : Vcpu) : Action → Prop
  | .enter _ _ => True
  | .proceed k _ => s.points k = .claimStage → s.words.launchStage = .guestActive →
      s.words.state ≠ .tearingDown

instance (s : Vcpu) (a : Action) : Decidable (Undisturbed s a) := by
  cases a <;> unfold Undisturbed <;> infer_instance

end Knhv.Teardown
