import Knhv.Driver.Image
import Knhv.Teardown.Model

namespace Knhv.Lifecycle

open Teardown Driver

def statusPending : U32 := 0x00000103
def statusUnsuccessful : U32 := 0xC0000001
def statusCancelled : U32 := 0xC0000120

inductive VmcsCurrent
  | none | active | clearing | failed
  deriving DecidableEq, Repr

inductive TargetOperation
  | none | probe | launch | stop | runtimeCanary
  deriving DecidableEq, Repr

inductive TargetWorkState
  | idle | queued | entered | executing | succeeded | failed | cancelled
  deriving DecidableEq, Repr

def vmxLaunchNotVmxMagic : U64 := 0xBAD0000000000001
def vmxLaunchMarkerFailureMagic : U64 := 0xBAD0000000000002

def isTargetWorkTerminal (state : TargetWorkState) : Bool :=
  state = .succeeded || state = .failed || state = .cancelled

def isVcpuStopTerminal (state : VcpuState) : Bool :=
  state = .stopped || state = .failed || state = .uninitialized

/-- The next access of the launch DPC: `PrepareHvCallback`, the wrapper around
VMLAUNCH, `AbortHvLaunch`, and `MarkCurrentVcpuRunning` in the DPC itself. -/
inductive LaunchPoint
  | absent
  | queued
  | claimState
  | writeStageEntry
  | clearQuiesced
  | clearRequest
  | clearVmcsCurrent
  | check
  | writeCr4
  | vmxon
  | writeStageVmxOn
  | writeStateVmxOn
  | injectAfterVmxon
  | vmclear
  | vmptrld
  | publishVmcs
  | setupVmcs
  | writeStageReady
  | rollBackClear
  | rollBackVmxoff
  | restoreCr4
  | writeFailed
  | inject
  | markStage
  | markState
  | readCr4
  | vmlaunch
  | abortStage (flags : U64)
  | abortClaimStage (flags : U64) (oldStage : LaunchStage)
  | abortNative
  | abortNativeClaim (state : VcpuState)
  | abortState
  | abortClaimState (oldState : VcpuState)
  | abortClear
  | abortVmxoff
  | abortRestoreCr4
  | abortFail
  | parkStage
  | parkState
  | stuck
  | readState
  | runningState
  | runningStage
  | readStage
  | writeResult (result : U32)
  | returned
  deriving DecidableEq

/-- The next access of `TargetCpuWorker`. While it is `stopping` its thread is in
`StopHvCallback`, as one of the callers on the vCPU. -/
inductive WorkerPoint
  | absent
  | claim
  | reread
  | bind
  | execute
  | operate
  | stopping (caller : Nat)
  | readStopped
  | finish (result : U32)
  | readCancelled (result : U32)
  | report (result : U32)
  | exited
  deriving DecidableEq

structure TargetCpuWork where
  operation : TargetOperation
  state : TargetWorkState
  result : U32
  threadHandle : Bool
  deriving DecidableEq

structure TargetLaunchDpcWork where
  state : TargetWorkState
  result : U32
  dpcQueued : Bool
  deriving DecidableEq

/-- One processor: the words of its vCPU with the callers on it, VMX operation
itself, where `guest` says that VMLAUNCH went through and VMXOFF has not yet, the
work that is queued for it, and whether its VMX memory is allocated. -/
structure Processor where
  words : Words
  points : Nat → Point
  vmcsCurrent : VmcsCurrent
  vmxOperation : Bool
  guest : Bool
  launch : LaunchPoint
  dpc : TargetLaunchDpcWork
  worker : WorkerPoint
  work : TargetCpuWork
  memory : Bool

/-- What the processor answers in one step. -/
structure Turn where
  exit : Teardown.Turn
  clears : Bool
  succeeds : Bool
  injects : Bool
  flags : U64
  result : U32

/-- `HvClearCurrentVmcsAndRecord`, where VMPTRST and VMCLEAR answer `clears`. No
other processor tells `clearing` from `active`. -/
def hvClearCurrentVmcsAndRecord (clears : Bool) : VmcsCurrent → VmcsCurrent × Bool
  | .none => (.none, true)
  | .active => if clears then (.none, true) else (.failed, false)
  | .clearing => (.clearing, false)
  | .failed => (.failed, false)

namespace Processor

def setState (q : Processor) (state : VcpuState) : Processor :=
  { q with words := { q.words with state := state } }

def setStage (q : Processor) (stage : LaunchStage) : Processor :=
  { q with words := { q.words with launchStage := stage } }

def setVmxe (q : Processor) (vmxe : Bool) : Processor :=
  { q with words := { q.words with vmxe := vmxe } }

def clearVmcs (q : Processor) (turn : Turn) : Processor :=
  { q with vmcsCurrent := (hvClearCurrentVmcsAndRecord turn.clears q.vmcsCurrent).1 }

def clearsVmcs (q : Processor) (turn : Turn) : Bool :=
  (hvClearCurrentVmcsAndRecord turn.clears q.vmcsCurrent).2

/-- VMXOFF, which the hardware does not refuse, with CR4.VMXE cleared behind it. -/
def leaveVmx (q : Processor) : Processor :=
  { q.setVmxe false with vmxOperation := false, guest := false }

/-- One access of the launch DPC. -/
def launchAccess (turn : Turn) (q : Processor) : LaunchPoint → Processor × LaunchPoint
  | .absent => (q, .absent)
  -- the DPC claims its work and checks that it runs on its target
  | .queued =>
    if q.dpc.state ≠ .queued then (q, .writeResult statusInvalidDeviceState)
    else if turn.succeeds then
      ({ q with dpc := { q.dpc with state := .executing } }, .claimState)
    else
      ({ q with dpc := { q.dpc with state := .executing } }, .writeResult statusInvalidDeviceState)
  -- PrepareHvCallback; an exception takes the way of a check that fails
  | .claimState =>
    if q.words.state = .uninitialized then (q.setState .starting, .writeStageEntry)
    else (q, .readState)
  | .writeStageEntry => (q.setStage .entry, .clearQuiesced)
  | .clearQuiesced => ({ q with words := { q.words with teardownQuiesced := false } }, .clearRequest)
  | .clearRequest => ({ q with words := q.words.clearRequest }, .clearVmcsCurrent)
  | .clearVmcsCurrent => ({ q with vmcsCurrent := .none }, .check)
  | .check => if turn.succeeds then (q, .writeCr4) else (q, .writeFailed)
  | .writeCr4 => (q.setVmxe true, .vmxon)
  | .vmxon =>
    if turn.injects then (q, .restoreCr4)
    else if turn.succeeds then ({ q with vmxOperation := true }, .writeStageVmxOn)
    else (q, .restoreCr4)
  | .writeStageVmxOn => (q.setStage .vmxOn, .writeStateVmxOn)
  | .writeStateVmxOn => (q.setState .vmxOn, .injectAfterVmxon)
  | .injectAfterVmxon => if turn.injects then (q, .rollBackVmxoff) else (q, .vmclear)
  | .vmclear =>
    if turn.injects then (q, .rollBackVmxoff)
    else if turn.succeeds then (q, .vmptrld)
    else (q, .rollBackClear)
  | .vmptrld => if turn.succeeds then (q, .publishVmcs) else (q, .rollBackClear)
  | .publishVmcs => ({ q with vmcsCurrent := .active }, .setupVmcs)
  | .setupVmcs =>
    if turn.injects then (q, .rollBackClear)
    else if turn.succeeds then (q, .writeStageReady)
    else (q, .rollBackClear)
  | .writeStageReady => (q.setStage .ready, .inject)
  | .rollBackClear =>
    if q.clearsVmcs turn then (q.clearVmcs turn, .rollBackVmxoff) else (q.clearVmcs turn, .parkStage)
  | .rollBackVmxoff => ({ q with vmxOperation := false }, .restoreCr4)
  | .restoreCr4 => (q.setVmxe false, .writeFailed)
  | .writeFailed => (q.setState .failed, .readState)
  -- the launch wrapper with MarkCurrentVcpuLaunched and HvLaunchGuest
  | .inject => if turn.injects then (q, .abortStage 0) else (q, .markStage)
  | .markStage =>
    if q.words.launchStage = .ready then (q.setStage .handoff, .markState)
    else (q, .abortStage vmxLaunchMarkerFailureMagic)
  | .markState =>
    if q.words.state = .vmxOn then (q.setState .launched, .readCr4)
    else (q, .abortStage vmxLaunchMarkerFailureMagic)
  | .readCr4 => if q.words.vmxe then (q, .vmlaunch) else (q, .abortStage vmxLaunchNotVmxMagic)
  | .vmlaunch =>
    if turn.succeeds then ({ q with guest := true }, .readState) else (q, .abortStage turn.flags)
  -- AbortHvLaunch
  | .abortStage flags =>
    if q.words.launchStage = .ready || q.words.launchStage = .handoff ||
        q.words.launchStage = .vmxOn then
      (q, .abortClaimStage flags q.words.launchStage)
    else
      (q, .readState)
  | .abortClaimStage flags oldStage =>
    if q.words.launchStage = oldStage then
      if flags = vmxLaunchNotVmxMagic then (q.setStage .abort, .abortNative)
      else (q.setStage .abort, .abortState)
    else
      (q, .readState)
  | .abortNative =>
    if q.words.state = .vmxOn || q.words.state = .launched then
      (q, .abortNativeClaim q.words.state)
    else
      (q, .readState)
  | .abortNativeClaim state =>
    if q.words.state = state then (q.setState .failed, .readState) else (q, .readState)
  | .abortState =>
    if q.words.state = .vmxOn || q.words.state = .launched then
      (q, .abortClaimState q.words.state)
    else
      (q, .readState)
  | .abortClaimState oldState =>
    if q.words.state = oldState then (q.setState .tearingDown, .abortClear) else (q, .readState)
  | .abortClear =>
    if q.clearsVmcs turn then (q.clearVmcs turn, .abortVmxoff) else (q.clearVmcs turn, .parkStage)
  | .abortVmxoff => ({ q with vmxOperation := false }, .abortRestoreCr4)
  | .abortRestoreCr4 => (q.setVmxe false, .abortFail)
  | .abortFail =>
    if q.words.state = .tearingDown then (q.setState .failed, .readState) else (q, .readState)
  -- HvFailVmcsClear with MarkCurrentVcpuParked
  | .parkStage => (q.setStage .parked, .parkState)
  | .parkState =>
    ({ q with words := { q.words with state := .parked, halted := true } }, .stuck)
  | .stuck => (q, .stuck)
  -- TargetLaunchDpcRoutine with MarkCurrentVcpuRunning
  | .readState =>
    if q.words.state = .launched then (q, .runningState) else (q, .writeResult statusUnsuccessful)
  | .runningState => if q.words.state = .launched then (q, .runningStage) else (q, .readStage)
  | .runningStage => ({ q with words := q.words.casStage .handoff .guestActive }, .readStage)
  | .readStage =>
    if q.words.launchStage = .guestActive && turn.succeeds then (q, .writeResult statusSuccess)
    else (q, .writeResult statusUnsuccessful)
  -- only a DPC that never runs has its work cancelled
  | .writeResult result =>
    ({ q with dpc := { q.dpc with
        result := result
        state := if ntSuccess result then .succeeded else .failed } }, .returned)
  | .returned => (q, .returned)

/-- One access of the caller `k` at a point: as on the vCPU alone, but for the
VMCALL, which exits only from a guest and fails in VMX root operation, and for
the way out of VMX, which gives the VMCS back first. -/
def callerAccess (k : Nat) (turn : Turn) (q : Processor) : Point → Processor × Point
  | .vmcall caller =>
    if q.guest then ({ q with words := { q.words with root := some k } }, .exit caller)
    else if q.vmxOperation && caller then (q, .readCr4)
    else (q, .done)
  | .vmxoff caller =>
    if !turn.exit.leavesVmx then
      (q, .parkStage)
    else if q.vmcsCurrent ≠ .none then
      if q.clearsVmcs turn then (q.clearVmcs turn, .vmxoff caller)
      else (q.clearVmcs turn, .parkStage)
    else if caller then
      ({ q.leaveVmx with words := q.leaveVmx.words.leaveRoot }, .readCr4)
    else
      ({ q.leaveVmx with words := q.leaveVmx.words.leaveRoot }, .done)
  | p => ({ q with words := (access k turn.exit q.words p).1 }, (access k turn.exit q.words p).2)

/-- One access of the worker, which takes the number `k` for its caller. -/
def workerAccess (k : Nat) (turn : Turn) (q : Processor) : WorkerPoint → Processor × WorkerPoint
  | .absent => (q, .absent)
  | .claim =>
    if q.work.state = .queued then ({ q with work := { q.work with state := .entered } }, .bind)
    else (q, .reread)
  | .reread =>
    if q.work.state ≠ .cancelled && !isTargetWorkTerminal q.work.state then
      ({ q with work := { q.work with result := statusCancelled, state := .failed } }, .exited)
    else
      (q, .exited)
  -- the worker has bound itself to the processor, or not
  | .bind =>
    if turn.succeeds then (q, .execute)
    else if q.work.state = .cancelled then (q, .finish statusCancelled)
    else (q, .finish statusInvalidDeviceState)
  | .execute =>
    if q.work.state = .entered then
      ({ q with work := { q.work with state := .executing } }, .operate)
    else if q.work.state = .cancelled then
      (q, .finish statusCancelled)
    else
      (q, .finish statusInvalidDeviceState)
  | .operate =>
    match q.work.operation with
    | .probe => (q, .finish statusSuccess)
    | .launch => (q, .finish statusNotSupported)
    -- the canary only reads, and compares what it has read
    | .runtimeCanary => (q, .finish turn.result)
    | .stop =>
      if q.points k = .idle then
        ({ q with points := Function.update q.points k Routine.stopHvCallback.entry }, .stopping k)
      else
        (q, .operate)
    | .none => (q, .finish statusInvalidDeviceState)
  | .stopping caller => if q.points caller = .done then (q, .readStopped) else (q, .stopping caller)
  | .readStopped =>
    if isVcpuStopTerminal q.words.state then (q, .finish statusSuccess)
    else (q, .finish statusUnsuccessful)
  | .finish result => ({ q with work := { q.work with result := result } }, .readCancelled result)
  | .readCancelled result =>
    if q.work.state ≠ .cancelled then (q, .report result) else (q, .exited)
  | .report result =>
    ({ q with work := { q.work with
        state := if ntSuccess result then .succeeded else .failed } }, .exited)
  | .exited => (q, .exited)

/-- The park path behind `MarkCurrentVcpuParked`: it gives the VMCS back and
leaves VMX, or stops where the VMCS cannot be cleared. -/
def parkedAccess (turn : Turn) (q : Processor) : Processor :=
  if q.clearsVmcs turn then (q.clearVmcs turn).leaveVmx else q.clearVmcs turn

end Processor

/-- The worker has bound itself to the processor. -/
def WorkerPoint.onTarget : WorkerPoint → Bool
  | .operate | .stopping _ | .readStopped => true
  | _ => false

inductive ProcessorAction
  | vmcall (k : Nat)
  | caller (k : Nat) (turn : Turn)
  | launch (turn : Turn)
  | worker (k : Nat) (turn : Turn)
  | parked (turn : Turn)

namespace Processor

/-- No VM exit is being handled, and the processor is not parked. -/
def isFree (q : Processor) : Bool := !q.words.halted && q.words.root = none

def step (q : Processor) : ProcessorAction → Processor
  | .vmcall k =>
    if q.words.canRun k && q.points k = .idle then
      { q with points := Function.update q.points k Routine.unloadVmcall.entry }
    else q
  | .caller k turn =>
    if q.words.canRun k then
      { (q.callerAccess k turn (q.points k)).1 with
        points := Function.update q.points k (q.callerAccess k turn (q.points k)).2 }
    else q
  | .launch turn =>
    if q.isFree then
      { (q.launchAccess turn q.launch).1 with launch := (q.launchAccess turn q.launch).2 }
    else q
  | .worker k turn =>
    if !q.worker.onTarget || q.isFree then
      { (q.workerAccess k turn q.worker).1 with worker := (q.workerAccess k turn q.worker).2 }
    else q
  | .parked turn => if q.words.halted then q.parkedAccess turn else q

end Processor

end Knhv.Lifecycle
