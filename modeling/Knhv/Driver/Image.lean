import Knhv.Abi

namespace Knhv.Driver

def statusSuccess : U32 := 0
def statusDeviceBusy : U32 := 0x80000011
def statusInsufficientResources : U32 := 0xC000009A
def statusNotSupported : U32 := 0xC00000BB
def statusDeviceConfigurationError : U32 := 0xC0000182
def statusInvalidDeviceState : U32 := 0xC0000184

def ntSuccess (status : U32) : Bool := !status.msb

def kHvFatalUnloadIncomplete : U32 := 0x554E4C44
def kHvFatalUnloadCallbackState : U32 := 0x43425354
def kHvFatalDeregisterCallback : U32 := 0xCB01

def kCoordinatorCpuIndex : Nat := 0

inductive HvLifecycle
  | idle | starting | running | stopping | quarantined
  deriving DecidableEq, Repr

/-- One `ExFreePoolWithTag` of the crash blob, with the callback registration
and the lifecycle of its moment. -/
structure BlobFree where
  registered : Bool
  lifecycle : HvLifecycle
  deriving DecidableEq

/-- The globals of the loaded image. `crashBlob` holds the processor count that
the blob is sized for. `blobFrees` is no part of the program: it records the
frees of the blob in their order. -/
structure DriverState where
  lifecycle : HvLifecycle
  imagePinned : Bool
  driverObject : Bool
  driverUnload : Bool
  vcpuData : Bool
  targetCpuWork : Bool
  targetLaunchDpcWork : Bool
  processorCount : Nat
  bugCheckReasonRegistered : Bool
  crashBlobReleaseAuthorized : Bool
  crashBlob : Option Nat
  blobFrees : List BlobFree
  deriving DecidableEq

/-- The image as the loader hands it over. -/
def loadedImage : DriverState where
  lifecycle := .idle
  imagePinned := false
  driverObject := false
  driverUnload := false
  vcpuData := false
  targetCpuWork := false
  targetLaunchDpcWork := false
  processorCount := 0
  bugCheckReasonRegistered := false
  crashBlobReleaseAuthorized := false
  crashBlob := none
  blobFrees := []

/-- `KeBugCheckEx` does not return. -/
structure BugCheck where
  argument : U32
  deriving DecidableEq

abbrev DriverM := ExceptT BugCheck (StateM DriverState)

/-- What one stop finds in the vCPU records, the target work and the scheduler,
in the order in which it asks. -/
structure StopFindings where
  parkedVcpu : Bool
  unresolvedTargetWork : Bool
  coordinatorBound : Bool
  unresolved : Bool
  stopFailed : Bool
  parkedVcpuAfter : Bool
  liveVcpuAfter : Bool
  unresolvedVcpuAfter : Bool
  unclearedVmcsAfter : Bool
  unresolvedTargetWorkAfter : Bool

/-- The answer of one queued operation: its status, and whether its deadline
passed while it could still run. -/
structure TargetAnswer where
  status : U32
  unresolved : Bool

/-- What one start finds, in the order in which it asks. The functions are
indexed by the processor. -/
structure StartFindings where
  vmxSupported : Bool
  xssFrameValid : Bool
  xstateFrameFits : Bool
  vmxBasicRead : Bool
  vmxRegionValid : Bool
  systemCr3Valid : Bool
  activeProcessors : Nat
  blobMemory : Bool
  vcpuMemory : Bool
  targetCpuWorkMemory : Bool
  targetLaunchDpcWorkMemory : Bool
  processorMemory : Nat → Bool
  coordinatorBound : Bool
  probeQueued : Nat → U32
  probe : Nat → TargetAnswer
  launchQueued : Nat → U32
  launch : Nat → TargetAnswer
  launched : Nat → Bool
  canary : Nat → TargetAnswer
  handoffReady : Nat → Bool
  handoffBound : Bool
  finalCanary : Nat → TargetAnswer
  stillLaunched : Nat → Bool
  activeProcessorsAfter : Nat
  rollback : StopFindings

def releaseHvCrashBlob : StateM DriverState Unit := do
  let s ← get
  -- a registered callback may still publish the blob, a quarantined vCPU may
  -- still write it, and before Idle only the deregistration owns it
  if s.bugCheckReasonRegistered || s.lifecycle = .quarantined ||
      (!s.crashBlobReleaseAuthorized && s.lifecycle ≠ .idle) then
    return
  else if s.crashBlob.isNone then
    set { s with crashBlobReleaseAuthorized := false }
  else
    set { s with
      crashBlob := none
      crashBlobReleaseAuthorized := false
      blobFrees := s.blobFrees ++ [BlobFree.mk s.bugCheckReasonRegistered s.lifecycle] }

def initializeHvCrashBlob (memory : Bool) (cpuCount : Nat) : StateM DriverState Bool := do
  if cpuCount = 0 then
    return false
  else
    let s ← get
    match s.crashBlob with
    -- the old blob is reused as it is, or kept
    | some size => return size = cpuCount
    | none =>
      if !memory then
        return false
      else
        set { s with crashBlob := some cpuCount }
        return true

def pinImageForParkedCpu : StateM DriverState Unit :=
  modify fun s => if !s.driverObject || s.imagePinned then s else { s with imagePinned := true }

def quarantine : StateM DriverState Unit := do
  pinImageForParkedCpu
  modify fun s => { s with lifecycle := .quarantined }

/-- `QuarantineUnresolvedTargetWork` reports success. -/
def quarantineUnresolvedTargetWork : StateM DriverState U32 := do
  quarantine
  return statusSuccess

def quarantineHypervisorImage : StateM DriverState Unit := do
  if (← get).vcpuData then
    pinImageForParkedCpu
    modify fun s => { s with
      driverUnload := if s.driverObject then false else s.driverUnload
      lifecycle := .quarantined }

/-- No processor and no target work can still use the VMX memory. -/
def StopFindings.settled (o : StopFindings) : Bool :=
  o.coordinatorBound && !o.unresolved && !o.stopFailed && !o.parkedVcpuAfter &&
    !o.liveVcpuAfter && !o.unresolvedVcpuAfter && !o.unclearedVmcsAfter &&
    !o.unresolvedTargetWorkAfter

def stopHypervisorInternal (o : StopFindings) (startRollback : Bool) : StateM DriverState Unit := do
  let s ← get
  if s.lifecycle ≠ (if startRollback then .starting else .running) then
    return
  else
    set { s with lifecycle := .stopping }
    if !s.vcpuData then
      modify fun s => { s with processorCount := 0, lifecycle := .idle }
    else if o.parkedVcpu || o.unresolvedTargetWork || !o.settled then
      quarantine
    else
      modify fun s => { s with
        targetCpuWork := false
        targetLaunchDpcWork := false
        vcpuData := false
        processorCount := 0 }
      releaseHvCrashBlob
      modify fun s => { s with lifecycle := .idle }

def stopHypervisor (o : StopFindings) : StateM DriverState Unit := stopHypervisorInternal o false

def isHypervisorStopComplete (s : DriverState) : Bool :=
  s.lifecycle = .idle && !s.vcpuData && !s.imagePinned

def isHypervisorQuarantined (s : DriverState) : Bool :=
  s.lifecycle = .quarantined || s.imagePinned

/-- `rejectStart` gives up before the vCPU array is allocated. -/
def rejectStart (status : U32) : StateM DriverState U32 := do
  modify fun s => if s.lifecycle = .starting then { s with lifecycle := .idle } else s
  releaseHvCrashBlob
  return status

/-- Roll back and report the failure. -/
def rollBack (o : StartFindings) (status : U32) : StateM DriverState U32 := do
  stopHypervisorInternal o.rollback true
  return status

/-- Roll back and report the failure, unless the rollback had to quarantine. -/
def rollBackUnlessQuarantined (o : StartFindings) (status : U32) : StateM DriverState U32 := do
  stopHypervisorInternal o.rollback true
  return if isHypervisorQuarantined (← get) then statusSuccess else status

/-- Roll back, release the blob and report the failure. -/
def rollBackAndRelease (o : StartFindings) (status : U32) : StateM DriverState U32 := do
  stopHypervisorInternal o.rollback true
  releaseHvCrashBlob
  return status

/-- The first failure of a sequence of operations, and whether any of them is
unresolved. -/
structure Progress where
  status : U32
  unresolved : Bool
  launchedCount : Nat

def Progress.start : Progress := ⟨statusSuccess, false, 0⟩

def Progress.keepFirst (p : Progress) (status : U32) : Progress :=
  if !ntSuccess status && ntSuccess p.status then { p with status := status } else p

/-- Queue a probe on every processor, then wait for those that have a worker. -/
def probeSweep (o : StartFindings) (processors : List Nat) : Progress :=
  let queued := processors.foldl (fun p i => p.keepFirst (o.probeQueued i)) Progress.start
  processors.foldl (fun p i =>
    if !ntSuccess (o.probeQueued i) then p
    else { p with unresolved := p.unresolved || (o.probe i).unresolved }.keepFirst
      (o.probe i).status) queued

/-- Launch one processor and run its canary; `none` means go on with the next. -/
def launchOne (o : StartFindings) (i : Nat) (p : Progress) : Progress × Bool :=
  if !ntSuccess (o.launchQueued i) then ({ p with status := o.launchQueued i }, false) else
  let p := { p with unresolved := p.unresolved || (o.launch i).unresolved }
  if !ntSuccess (o.launch i).status then ({ p with status := (o.launch i).status }, false) else
  if !o.launched i then ({ p with status := statusNotSupported }, false) else
  let p := { p with
    launchedCount := p.launchedCount + 1
    unresolved := p.unresolved || (o.canary i).unresolved }
  if p.unresolved || !ntSuccess (o.canary i).status then
    ({ p with status := (o.canary i).status }, false)
  else
    (p, true)

/-- The staged launch: one processor after the other, the coordinator last, and
none after the first failure. -/
def launchStaged (o : StartFindings) : List Nat → Progress → Progress
  | [], p => p
  | i :: rest, p =>
    if i = kCoordinatorCpuIndex then launchStaged o rest p
    else
      match launchOne o i p with
      | (p, true) => launchStaged o rest p
      | (p, false) => p

/-- The last canary of every processor. -/
def finalSweep (o : StartFindings) : List Nat → Progress → Progress
  | [], p => p
  | i :: rest, p =>
    let p := { p with
      status := (o.finalCanary i).status
      unresolved := p.unresolved || (o.finalCanary i).unresolved }
    if p.unresolved || !ntSuccess p.status then p else finalSweep o rest p

/-- What follows the staged launch of the other processors. -/
def finishStart (o : StartFindings) (processors : List Nat) (p : Progress) :
    StateM DriverState U32 := do
  let expected := processors.length
  if p.launchedCount ≠ expected then
    rollBackUnlessQuarantined o statusNotSupported
  else if (processors.filter o.stillLaunched).length ≠ expected then
    rollBackAndRelease o statusNotSupported
  else if o.activeProcessorsAfter ≠ expected then
    rollBackUnlessQuarantined o statusDeviceConfigurationError
  else
    modify fun s => { s with lifecycle := .running }
    return statusSuccess

/-- The coordinator is launched from a processor that has already answered. -/
def launchCoordinator (o : StartFindings) (processors : List Nat) (p : Progress) :
    StateM DriverState U32 := do
  let reserved := kCoordinatorCpuIndex
  if !processors.any fun i => i ≠ reserved && o.handoffReady i then
    rollBack o statusNotSupported
  else if !o.handoffBound then
    rollBack o statusInvalidDeviceState
  else
    let status := if ntSuccess (o.launchQueued reserved) then (o.launch reserved).status
      else o.launchQueued reserved
    if ntSuccess (o.launchQueued reserved) && (o.launch reserved).unresolved then
      quarantineUnresolvedTargetWork
    else if !ntSuccess status || !o.launched reserved then
      rollBack o (if ntSuccess status then statusNotSupported else status)
    else if (o.canary reserved).unresolved then
      quarantineUnresolvedTargetWork
    else if !ntSuccess (o.canary reserved).status then
      rollBack o (o.canary reserved).status
    else
      let swept := finalSweep o processors { p with launchedCount := p.launchedCount + 1 }
      if swept.unresolved then
        quarantineUnresolvedTargetWork
      else if !ntSuccess swept.status then
        rollBack o swept.status
      else
        finishStart o processors swept

/-- The part of a start behind the allocations. -/
def bringUp (o : StartFindings) (processors : List Nat) : StateM DriverState U32 := do
  if processors.length < 2 then
    rollBack o statusNotSupported
  else if !o.coordinatorBound then
    rollBack o statusInvalidDeviceState
  else
    let probed := probeSweep o processors
    if probed.unresolved then
      quarantineUnresolvedTargetWork
    else if !ntSuccess probed.status then
      rollBack o probed.status
    else
      let staged := launchStaged o processors probed
      if staged.unresolved then
        quarantineUnresolvedTargetWork
      else if !ntSuccess staged.status then
        rollBack o staged.status
      else
        launchCoordinator o processors staged

/-- The capability gates, in order, with the status of the one that refuses. -/
def startGates (o : StartFindings) : List Bool :=
  [o.vmxSupported, o.xssFrameValid, o.xstateFrameFits, o.vmxBasicRead, o.vmxRegionValid,
    o.systemCr3Valid]

def startHypervisor (o : StartFindings) : StateM DriverState U32 := do
  let s ← get
  if s.imagePinned || s.vcpuData || s.targetCpuWork || s.targetLaunchDpcWork then
    return statusDeviceBusy
  else if s.lifecycle ≠ .idle then
    return statusDeviceBusy
  else
    set { s with lifecycle := .starting }
    if !(startGates o).all id then
      rejectStart statusNotSupported
    else
      modify fun s => { s with processorCount := o.activeProcessors }
      let processors := List.range o.activeProcessors
      if o.activeProcessors = 0 then
        rejectStart statusNotSupported
      else if !(← initializeHvCrashBlob o.blobMemory o.activeProcessors) then
        rejectStart statusInsufficientResources
      else if !o.vcpuMemory then
        rejectStart statusInsufficientResources
      else
        modify fun s => { s with vcpuData := true }
        if !o.targetCpuWorkMemory then
          rollBack o statusInsufficientResources
        else
          modify fun s => { s with targetCpuWork := true }
          if !o.targetLaunchDpcWorkMemory then
            rollBack o statusInsufficientResources
          else
            modify fun s => { s with targetLaunchDpcWork := true }
            if !processors.all o.processorMemory then
              rollBackAndRelease o statusInsufficientResources
            else
              bringUp o processors

/-- `KeRegisterBugCheckReasonCallback` answers `accepted`. -/
def registerSecondaryDumpCallback (accepted : Bool) : StateM DriverState Bool := do
  if (← get).bugCheckReasonRegistered then
    return true
  else if !accepted then
    return false
  else
    modify fun s => { s with bugCheckReasonRegistered := true }
    return true

/-- `KeDeregisterBugCheckReasonCallback` answers `removed`. -/
def unregisterSecondaryDumpCallback (removed : Bool) : DriverM Unit := do
  let s ← get
  if !s.bugCheckReasonRegistered then
    releaseHvCrashBlob
  else if s.lifecycle = .quarantined then
    return
  else if !removed then
    throw ⟨kHvFatalDeregisterCallback⟩
  else
    set { s with bugCheckReasonRegistered := false, crashBlobReleaseAuthorized := true }
    releaseHvCrashBlob

/-- What the machine answers while the driver is loaded and unloaded. -/
structure DriverFindings where
  useKdmapper : Bool
  vmxSupported : Bool
  registered : Bool
  start : StartFindings
  stop : StopFindings
  removed : Bool

def requireStopped (argument : U32) : DriverM Unit := do
  let s ← get
  if !isHypervisorStopComplete s || isHypervisorQuarantined s then
    throw ⟨argument⟩

def driverUnload (o : DriverFindings) : DriverM Unit := do
  stopHypervisor o.stop
  requireStopped kHvFatalUnloadIncomplete
  unregisterSecondaryDumpCallback o.removed
  requireStopped kHvFatalUnloadCallbackState

/-- The way out of `driverEntry` when the start failed. -/
def abandonEntry (o : DriverFindings) (status : U32) : DriverM U32 := do
  stopHypervisor o.stop
  if isHypervisorQuarantined (← get) then
    modify fun s => { s with driverUnload := false }
    return statusSuccess
  else if !isHypervisorStopComplete (← get) then
    throw ⟨kHvFatalUnloadIncomplete⟩
  else
    unregisterSecondaryDumpCallback o.removed
    requireStopped kHvFatalUnloadCallbackState
    return status

def driverEntry (o : DriverFindings) : DriverM U32 := do
  modify fun s => { s with driverObject := true }
  if !o.vmxSupported then
    return statusNotSupported
  else
    modify fun s => { s with driverUnload := s.driverUnload || !o.useKdmapper }
    -- without the callback the driver goes on
    let _ ← registerSecondaryDumpCallback o.registered
    let status ← startHypervisor o.start
    if !ntSuccess status then
      abandonEntry o status
    else if isHypervisorQuarantined (← get) then
      modify fun s => { s with driverUnload := false }
      return statusSuccess
    else
      return statusSuccess

/-- The entry points of the image. -/
inductive ImageCall
  | entry (o : DriverFindings)
  | start (o : StartFindings)
  | stop (o : StopFindings)
  | quarantine
  | unload (o : DriverFindings)

def imageCall : ImageCall → DriverM Unit
  | .entry o => do let _ ← driverEntry o
  | .start o => do let _ ← startHypervisor o
  | .stop o => stopHypervisor o
  | .quarantine => quarantineHypervisorImage
  | .unload o => driverUnload o

/-- A series of calls, which ends early where one bug checks. -/
def imageRun : List ImageCall → DriverM Unit
  | [] => return
  | call :: rest => do
    imageCall call
    imageRun rest

def imageAfter (calls : List ImageCall) : DriverState :=
  ((imageRun calls).run.run loadedImage).2

end Knhv.Driver
