import Knhv.Lib.Interleaving
import Knhv.Lifecycle.Rest

namespace Knhv.Lifecycle

open Teardown Driver Interleaving

def statusTimeout : U32 := 0x00000102
def statusInvalidParameter : U32 := 0xC000000D
def statusIoTimeout : U32 := 0xC00000B5

def kStopRetryLimit : Nat := 32

/-- The globals of the driver and its processors. `owner` is no part of the
program: it is the call that has set the lifecycle to starting or stopping. -/
structure System where
  lifecycle : HvLifecycle
  imagePinned : Bool
  driverObject : Bool
  vcpuData : Bool
  targetCpuWork : Bool
  targetLaunchDpcWork : Bool
  processorCount : Nat
  processors : Nat → Processor
  owner : Option Nat

/-- What Windows and the machine answer one access of a lifecycle call. -/
structure Reply where
  holds : Bool
  status : U32
  number : Nat

abbrev LifecycleM := Script System Reply

namespace System

def put (s : System) (i : Nat) (q : Processor) : System :=
  { s with processors := Function.update s.processors i q }

/-- The call `t` sets the lifecycle. -/
def enter (s : System) (t : Nat) (lifecycle : HvLifecycle) : System :=
  { s with
    lifecycle := lifecycle
    owner := if lifecycle = .starting || lifecycle = .stopping then some t else none }

end System

namespace Processor

/-- `RtlZeroMemory` of the vCPU: what is in it, but not what the processor is. -/
def zeroVcpu (q : Processor) : Processor :=
  { q with
    words := { q.words with
      state := .uninitialized
      launchStage := .none
      teardownRequest := false
      teardownQuiesced := false
      requestOwner := none }
    vmcsCurrent := .none }

def zeroWork (q : Processor) : Processor := { q with work := ⟨.none, .idle, statusSuccess, false⟩ }

def zeroDpc (q : Processor) : Processor := { q with dpc := ⟨.idle, statusSuccess, false⟩ }

/-- The thread of the worker has returned and its handle is closed. -/
def closeWork (q : Processor) : Processor :=
  { q with worker := .absent, work := { q.work with threadHandle := false } }

/-- The launch DPC has been drained, or it was never inserted. -/
def closeDpc (q : Processor) : Processor :=
  { q with launch := .absent, dpc := { q.dpc with dpcQueued := false } }

end Processor

def readSystem {α : Type} (f : System → α) : LifecycleM α := Script.read fun _ s => f s

def askVcpu {α : Type} (i : Nat) (g : Reply → Processor → α) : LifecycleM α :=
  Script.read fun o s => g o (s.processors i)

def readVcpu {α : Type} (i : Nat) (f : Processor → α) : LifecycleM α := askVcpu i fun _ => f

def ask {α : Type} (f : Reply → α) : LifecycleM α := Script.read fun o _ => f o

def exchangeVcpu {α : Type} (i : Nat) (f : Reply → Processor → Processor)
    (g : Reply → Processor → α) : LifecycleM α :=
  Script.exchange (fun o s => s.put i (f o (s.processors i))) fun o s => g o (s.processors i)

def writeVcpu (i : Nat) (f : Processor → Processor) : LifecycleM Unit :=
  exchangeVcpu i (fun _ => f) fun _ _ => ()

def exchangeLifecycle (t : Nat) (desired : HvLifecycle) : LifecycleM Unit :=
  Script.write fun s => s.enter t desired

def compareExchangeLifecycle (t : Nat) (desired expected : HvLifecycle) : LifecycleM Bool :=
  Script.exchange (fun _ s => if s.lifecycle = expected then s.enter t desired else s)
    fun _ s => decide (s.lifecycle = expected)

def queueTargetOperation (i : Nat) (operation : TargetOperation) : LifecycleM U32 := do
  if !(← readSystem fun s => s.targetCpuWork && s.driverObject && i < s.processorCount) then
    return statusInvalidDeviceState
  else if ← readVcpu i (·.work.threadHandle) then
    return statusDeviceBusy
  else
    writeVcpu i Processor.zeroWork
    let located ← ask (·.status)
    if !ntSuccess located then
      return located
    else
      writeVcpu i fun q => { q with work := ⟨operation, .queued, statusPending, false⟩ }
      -- the handle is stored behind the start, but only this call asks for it
      let created ← exchangeVcpu i
        (fun o q => if ntSuccess o.status then
            { q with worker := .claim, work := { q.work with threadHandle := true } }
          else q)
        fun o _ => o.status
      if !ntSuccess created then
        writeVcpu i fun q => { q with work := { q.work with result := created, state := .failed } }
        return created
      else
        return statusSuccess

/-- A successful wait means that the thread has returned. -/
def waitThread (i : Nat) : LifecycleM U32 :=
  askVcpu i fun o q =>
    if o.status = statusSuccess && q.worker ≠ .exited then statusTimeout else o.status

def closeCompletedTargetWork (i : Nat) : LifecycleM U32 := do
  let result ← readVcpu i (·.work.result)
  writeVcpu i Processor.closeWork
  return result

def cancelWork (i : Nat) (expected : TargetWorkState) : LifecycleM Bool :=
  exchangeVcpu i
    (fun _ q => if q.work.state = expected then { q with work := { q.work with state := .cancelled } }
      else q)
    fun _ q => decide (q.work.state = expected)

/-- Cancel an operation that its worker has not started on. -/
def cancelTargetWork (i : Nat) : LifecycleM Bool := do
  if ← cancelWork i .queued then return true else cancelWork i .entered

/-- The status, and whether the operation may still run. -/
def waitTargetOperation (i : Nat) : LifecycleM (U32 × Bool) := do
  if !(← readSystem fun s => s.targetCpuWork && i < s.processorCount) then
    return (statusInvalidParameter, false)
  else if !(← readVcpu i (·.work.threadHandle)) then
    return (← readVcpu i (·.work.result), false)
  else
    let waited ← waitThread i
    if waited = statusSuccess then
      return (← closeCompletedTargetWork i, false)
    else if waited = statusTimeout then
      let cancelled ← cancelTargetWork i
      let state ← readVcpu i (·.work.state)
      if cancelled || isTargetWorkTerminal state then
        if (← waitThread i) = statusSuccess then
          let _ ← closeCompletedTargetWork i
          return (statusIoTimeout, false)
        else
          return (statusIoTimeout, true)
      else
        return (statusIoTimeout, true)
    else
      return (waited, true)

def queueTargetLaunchDpc (i : Nat) : LifecycleM U32 := do
  if !(← readSystem fun s => s.targetLaunchDpcWork && i < s.processorCount) then
    return statusInvalidDeviceState
  else if ← exchangeVcpu i (fun _ q => { q with dpc := { q.dpc with dpcQueued := true } })
      fun _ q => q.dpc.dpcQueued then
    return statusDeviceBusy
  else
    let located ← ask (·.status)
    if !ntSuccess located then
      writeVcpu i Processor.closeDpc
      return located
    else
      writeVcpu i fun q => { q with dpc := ⟨.queued, statusPending, true⟩ }
      let targeted ← ask (·.status)
      if !ntSuccess targeted then
        writeVcpu i fun q => { q with dpc := ⟨.failed, targeted, false⟩ }
        return targeted
      else
        let inserted ← exchangeVcpu i
          (fun o q => if o.holds then { q with launch := .queued } else q) fun o _ => o.holds
        if !inserted then
          writeVcpu i fun q => { q with dpc := ⟨.failed, statusUnsuccessful, false⟩ }
          return statusUnsuccessful
        else
          return statusSuccess

def waitTargetLaunchDpc (i : Nat) : LifecycleM (U32 × Bool) := do
  if !(← readSystem fun s => s.targetLaunchDpcWork && i < s.processorCount) then
    return (statusInvalidParameter, false)
  else if !(← readVcpu i (·.dpc.dpcQueued)) then
    return (← readVcpu i (·.dpc.result), false)
  else
    -- behind the event the active callback is drained
    let waited ← askVcpu i fun o q =>
      if o.status = statusSuccess && q.launch ≠ .returned then statusTimeout else o.status
    if waited = statusSuccess then
      writeVcpu i Processor.closeDpc
      return (← readVcpu i (·.dpc.result), false)
    else if waited = statusTimeout then
      -- a removed DPC never runs
      let removed ← exchangeVcpu i
        (fun _ q => if q.launch = .queued then { q with launch := .absent } else q)
        fun _ q => decide (q.launch = .queued)
      if removed then
        writeVcpu i fun q => { q with dpc := ⟨.cancelled, statusIoTimeout, false⟩ }
        return (statusIoTimeout, false)
      else
        return (statusIoTimeout, true)
    else
      return (waited, true)

/-- Queue an operation and wait for it. -/
def runTargetOperation (i : Nat) (operation : TargetOperation) : LifecycleM (U32 × Bool) := do
  let queued ← queueTargetOperation i operation
  if ntSuccess queued then waitTargetOperation i else return (queued, false)

/-- `unresolved` is the flag of the caller, which stays set. -/
def stopTargetProcessorWithRetries (i : Nat) (unresolved : Bool) : Nat → LifecycleM (U32 × Bool)
  | 0 => return (statusUnsuccessful, unresolved)
  | attempts + 1 => do
    let state ← readVcpu i (·.words.state)
    if isVcpuStopTerminal state then
      return (statusSuccess, unresolved)
    else if state ≠ .launched && state ≠ .vmxOn then
      return (statusInvalidDeviceState, unresolved)
    else
      let (status, pending) ← runTargetOperation i .stop
      if (unresolved || pending) || ntSuccess status then
        return (status, unresolved || pending)
      else
        let retryState ← readVcpu i (·.words.state)
        let retryStage ← readVcpu i (·.words.launchStage)
        if retryState ≠ .launched || retryStage ≠ .guestActive then
          return (status, unresolved)
        else
          stopTargetProcessorWithRetries i unresolved attempts

def stopTargetProcessor (i : Nat) (unresolved : Bool) : LifecycleM (U32 × Bool) := do
  if !(← readSystem fun s => s.vcpuData && i < s.processorCount) then
    return (statusInvalidParameter, unresolved)
  else
    stopTargetProcessorWithRetries i unresolved kStopRetryLimit

/-- Ask of every vCPU in turn, of none where there are none. -/
def anyVcpu (f : Nat → LifecycleM Bool) : LifecycleM Bool := do
  if !(← readSystem (·.vcpuData)) then
    return false
  else
    let count ← readSystem (·.processorCount)
    Script.any f (List.range count)

def hasParkedVcpu : LifecycleM Bool := anyVcpu fun i => readVcpu i fun q => q.words.state = .parked

def hasLiveVcpu : LifecycleM Bool := anyVcpu fun i => readVcpu i fun q => isLive q.words.state

/-- `LaunchStageReady ≤ stage < LaunchStageAbort`. -/
def isLaunchPending (stage : LaunchStage) : Bool := stage = .ready || stage = .handoff

def hasUnresolvedVcpu : LifecycleM Bool := anyVcpu fun i => do
  let state ← readVcpu i (·.words.state)
  let stage ← readVcpu i (·.words.launchStage)
  return (state = .failed && isLaunchPending stage) || !isVcpuStopTerminal state

def hasUnclearedVmcs : LifecycleM Bool := anyVcpu fun i => readVcpu i fun q => q.vmcsCurrent ≠ .none

def hasUnresolvedTargetWork : LifecycleM Bool := do
  let cpuWork ← readSystem (·.targetCpuWork)
  let dpcWork ← readSystem (·.targetLaunchDpcWork)
  if !cpuWork && !dpcWork then
    return false
  else
    let count ← readSystem (·.processorCount)
    Script.any (fun i => do
      if ← readVcpu i fun q => cpuWork && q.work.threadHandle then return true
      else readVcpu i fun q => dpcWork && q.dpc.dpcQueued) (List.range count)

def pinImage : LifecycleM Unit := do
  if ← readSystem (·.driverObject) then
    Script.write fun s => { s with imagePinned := true }
  else
    return ()

def quarantineImage (t : Nat) : LifecycleM Unit := do
  pinImage
  exchangeLifecycle t .quarantined

/-- Stop every processor but the coordinator's own. Whether an operation is
unresolved, and whether one has failed. -/
def stopOthers (reserved count : Nat) : LifecycleM (Bool × Bool) :=
  Script.fold (fun i flags => do
    if i = reserved then
      return (flags, false)
    else
      let state ← readVcpu i (·.words.state)
      if state ≠ .launched && state ≠ .vmxOn then
        return (flags, false)
      else
        let (status, unresolved) ← stopTargetProcessor i flags.1
        if !ntSuccess status then
          return ((unresolved, true), true)
        else
          return ((unresolved, flags.2), false)) (List.range count) (false, false)

/-- Without a coordinator that is bound to its processor the stop has failed. -/
def stopFromCoordinator (reserved count : Nat) : LifecycleM (Bool × Bool) := do
  if ← ask (·.holds) then stopOthers reserved count else return (false, true)

/-- Stop the coordinator's own processor from one that is native already. -/
def stopReserved (reserved count : Nat) (unresolved stopFailed : Bool) :
    LifecycleM (Bool × Bool) := do
  let state ← readVcpu reserved (·.words.state)
  if !unresolved && !stopFailed && (state = .launched || state = .vmxOn) then
    let native ← Script.any (fun i => do
      let candidate ← readVcpu i (·.words.state)
      return i ≠ reserved && isVcpuStopTerminal candidate) (List.range count)
    if !native then
      return (unresolved, true)
    else if !(← ask (·.holds)) then
      return (unresolved, true)
    else
      let (status, unresolved) ← stopTargetProcessor reserved unresolved
      return (unresolved, !ntSuccess status)
  else
    return (unresolved, stopFailed)

/-- The loop that frees the VMX memory of each processor, and what follows it. -/
def freeProcessors (t count : Nat) : LifecycleM Unit := do
  Script.forEach (fun i => writeVcpu i fun q => { q with memory := false }) (List.range count)
  Script.write fun s => { s with targetCpuWork := false }
  Script.write fun s => { s with targetLaunchDpcWork := false }
  Script.write fun s => { s with vcpuData := false }
  Script.write fun s => { s with processorCount := 0 }
  exchangeLifecycle t .idle

/-- A stop that has found vCPUs. -/
def stopProcessors (t : Nat) : LifecycleM Unit := do
  if ← hasParkedVcpu then
    quarantineImage t
  else if ← hasUnresolvedTargetWork then
    quarantineImage t
  else
    let count ← readSystem (·.processorCount)
    let current ← ask (·.number)
    let reserved := if current < count then current else 0
    let (unresolved, stopFailed) ← stopFromCoordinator reserved count
    let (unresolved, stopFailed) ← stopReserved reserved count unresolved stopFailed
    if unresolved || stopFailed then
      quarantineImage t
    else if ← hasParkedVcpu then
      quarantineImage t
    else if ← hasLiveVcpu then
      quarantineImage t
    else if ← hasUnresolvedVcpu then
      quarantineImage t
    else if ← hasUnclearedVmcs then
      quarantineImage t
    else if ← hasUnresolvedTargetWork then
      quarantineImage t
    else
      freeProcessors t count

def stopHypervisorInternal (t : Nat) (startRollback : Bool) : LifecycleM Unit := do
  if !(← compareExchangeLifecycle t .stopping (if startRollback then .starting else .running)) then
    return ()
  else if !(← readSystem (·.vcpuData)) then
    Script.write fun s => { s with processorCount := 0 }
    exchangeLifecycle t .idle
  else
    stopProcessors t

def isQuarantined : LifecycleM Bool := readSystem fun s => s.lifecycle = .quarantined || s.imagePinned

/-- `QuarantineUnresolvedTargetWork` reports success. -/
def quarantineTargetWork (t : Nat) : LifecycleM U32 := do
  quarantineImage t
  return statusSuccess

def rejectStart (t : Nat) (status : U32) : LifecycleM U32 := do
  let _ ← compareExchangeLifecycle t .idle .starting
  return status

def rollBack (t : Nat) (status : U32) : LifecycleM U32 := do
  stopHypervisorInternal t true
  return status

def rollBackUnlessQuarantined (t : Nat) (status : U32) : LifecycleM U32 := do
  stopHypervisorInternal t true
  if ← isQuarantined then return statusSuccess else return status

def runRuntimeCanary (i : Nat) : LifecycleM (U32 × Bool) := do
  if !(← readSystem fun s => s.targetCpuWork && i < s.processorCount) then
    return (statusInvalidParameter, false)
  else
    runTargetOperation i .runtimeCanary

def launchTarget (i : Nat) : LifecycleM (U32 × Bool) := do
  let queued ← queueTargetLaunchDpc i
  if ntSuccess queued then waitTargetLaunchDpc i else return (queued, false)

/-- Queue a probe on every processor, then wait for those that have a worker. -/
def probeAll (count : Nat) : LifecycleM Progress := do
  let queued ← Script.fold (fun i p => do
    let status ← queueTargetOperation i .probe
    return (p.keepFirst status, false)) (List.range count) Progress.start
  Script.fold (fun i p => do
    if !(← readVcpu i (·.work.threadHandle)) then
      return (p, false)
    else
      let (status, pending) ← waitTargetOperation i
      return ({ p with unresolved := p.unresolved || pending }.keepFirst status, false))
    (List.range count) queued

/-- The staged launch: one processor after the other, the coordinator last, and
none after the first failure. -/
def launchOthers (count : Nat) (p : Progress) : LifecycleM Progress :=
  Script.fold (fun i p => do
    if i = kCoordinatorCpuIndex then
      return (p, false)
    else
      let (status, pending) ← launchTarget i
      let p := { p with unresolved := p.unresolved || pending }
      if !ntSuccess status then
        return ({ p with status := status }, true)
      else
        let state ← readVcpu i (·.words.state)
        if state ≠ .launched then
          return ({ p with status := statusNotSupported }, true)
        else
          let (canary, pending) ← runRuntimeCanary i
          let p := { p with
            launchedCount := p.launchedCount + 1
            unresolved := p.unresolved || pending }
          if p.unresolved || !ntSuccess canary then
            return ({ p with status := canary }, true)
          else
            return (p, false)) (List.range count) p

/-- The last canary of every processor. -/
def sweepCanaries (count : Nat) (p : Progress) : LifecycleM Progress :=
  Script.fold (fun i p => do
    let (status, pending) ← runRuntimeCanary i
    let p := { p with status := status, unresolved := p.unresolved || pending }
    return (p, p.unresolved || !ntSuccess status)) (List.range count) p

/-- The count of the processors that are launched. -/
def countLaunched (count : Nat) : LifecycleM Nat :=
  Script.fold (fun i ok => do
    let state ← readVcpu i (·.words.state)
    return (if state = .launched then ok + 1 else ok, false)) (List.range count) 0

def finishStart (t count : Nat) (p : Progress) : LifecycleM U32 := do
  if p.launchedCount ≠ count then
    rollBackUnlessQuarantined t statusNotSupported
  else
    let ok ← countLaunched count
    if ok ≠ count then
      rollBack t statusNotSupported
    else if (← ask (·.number)) ≠ count then
      rollBackUnlessQuarantined t statusDeviceConfigurationError
    else
      exchangeLifecycle t .running
      return statusSuccess

/-- The coordinator's processor is launched from one that has already answered. -/
def launchCoordinator (t count : Nat) (p : Progress) : LifecycleM U32 := do
  let ready ← Script.any (fun i => do
    let state ← readVcpu i (·.words.state)
    let returned ← ask (·.holds)
    return i ≠ kCoordinatorCpuIndex && state = .launched && returned) (List.range count)
  if !ready then
    rollBack t statusNotSupported
  else if !(← ask (·.holds)) then
    rollBack t statusInvalidDeviceState
  else
    let (status, pending) ← launchTarget kCoordinatorCpuIndex
    let state ← readVcpu kCoordinatorCpuIndex (·.words.state)
    if pending then
      quarantineTargetWork t
    else if !ntSuccess status || state ≠ .launched then
      rollBack t (if ntSuccess status then statusNotSupported else status)
    else
      let (canary, pending) ← runRuntimeCanary kCoordinatorCpuIndex
      if pending then
        quarantineTargetWork t
      else if !ntSuccess canary then
        rollBack t canary
      else
        let swept ← sweepCanaries count { p with launchedCount := p.launchedCount + 1 }
        if swept.unresolved then
          quarantineTargetWork t
        else if !ntSuccess swept.status then
          rollBack t swept.status
        else
          finishStart t count swept

/-- The part of a start behind the allocations. -/
def bringUp (t count : Nat) : LifecycleM U32 := do
  if count < 2 then
    rollBack t statusNotSupported
  else if !(← ask (·.holds)) then
    rollBack t statusInvalidDeviceState
  else
    let probed ← probeAll count
    if probed.unresolved then
      quarantineTargetWork t
    else if !ntSuccess probed.status then
      rollBack t probed.status
    else
      let staged ← launchOthers count probed
      if staged.unresolved then
        quarantineTargetWork t
      else if !ntSuccess staged.status then
        rollBack t staged.status
      else
        launchCoordinator t count staged

/-- The VMX memory of every processor, up to the first that gets none of some
part. -/
def allocateProcessors (count : Nat) : LifecycleM Bool :=
  Script.any (fun i => do
    writeVcpu i fun q => { q with memory := true }
    let complete ← ask (·.holds)
    return !complete) (List.range count)

/-- A start that has its vCPUs. -/
def startProcessors (t count : Nat) : LifecycleM U32 := do
  if !(← ask (·.holds)) then
    rollBack t statusInsufficientResources
  else
    Script.write fun s =>
      { s with targetCpuWork := true, processors := fun i => (s.processors i).zeroWork }
    if !(← ask (·.holds)) then
      rollBack t statusInsufficientResources
    else
      Script.write fun s =>
        { s with targetLaunchDpcWork := true, processors := fun i => (s.processors i).zeroDpc }
      if ← allocateProcessors count then
        rollBack t statusInsufficientResources
      else
        bringUp t count

/-- A start that owns the lifecycle: the capability gates, the crash blob and the
vCPU array. -/
def startClaimed (t : Nat) : LifecycleM U32 := do
  if !(← ask (·.holds)) then
    rejectStart t statusNotSupported
  else
    let count ← ask (·.number)
    Script.write fun s => { s with processorCount := count }
    if count = 0 then
      rejectStart t statusNotSupported
    else if !(← ask (·.holds)) then
      rejectStart t statusInsufficientResources
    else if !(← ask (·.holds)) then
      rejectStart t statusInsufficientResources
    else
      Script.write fun s =>
        { s with vcpuData := true, processors := fun i => (s.processors i).zeroVcpu }
      startProcessors t count

def startHypervisor (t : Nat) : LifecycleM U32 := do
  if ← readSystem (·.imagePinned) then
    return statusDeviceBusy
  else if ← readSystem (·.vcpuData) then
    return statusDeviceBusy
  else if ← readSystem (·.targetCpuWork) then
    return statusDeviceBusy
  else if ← readSystem (·.targetLaunchDpcWork) then
    return statusDeviceBusy
  else if !(← compareExchangeLifecycle t .starting .idle) then
    return statusDeviceBusy
  else
    startClaimed t

inductive LifecycleCall
  | startHypervisor | stopHypervisor
  deriving DecidableEq, Repr

def LifecycleCall.script (t : Nat) : LifecycleCall → LifecycleM Unit
  | startHypervisor => do let _ ← Lifecycle.startHypervisor t
  | stopHypervisor => stopHypervisorInternal t false

/-- One access of whatever runs on the processor `i`. -/
def System.move (s : System) (a : Nat × ProcessorAction) : System :=
  s.put a.1 ((s.processors a.1).step a.2)

end Knhv.Lifecycle
