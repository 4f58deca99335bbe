import Knhv.Vmx.LaunchChecks

namespace Knhv.Vmx

open Teardown

/-- How the callback ends: with its value, in an exception that nothing catches,
or on a processor that `HvFailVmcsClear` has stopped. -/
inductive LaunchExit
  | returned (value : U32)
  | raised
  | stopped
  deriving DecidableEq

abbrev Launch := ExceptT LaunchExit (StateM LaunchState)

def failLaunch {α : Type} : Launch α := do
  modify fun s => { s with state := .failed }
  throw (.returned 0)

def operate (raises : Bool) : Launch Unit :=
  if raises then throw .raised else pure ()

def passGates (gates : LaunchState → List Gate) : Launch Unit := do
  match firstStop (gates (← get)) with
  | none => return ()
  | some .refused => failLaunch
  | some .raised => throw .raised

section

variable (e : LaunchEnvironment)

/-- `__readmsr` -/
def readUnguarded (msr : U32) : Launch U64 := do
  operate (raisesReading e msr)
  return (e.machine.readMsr msr).getD 0

def adjustCr (value : U64) (fixed0Msr fixed1Msr : U32) : Launch U64 := do
  let fixed0 ← readUnguarded e fixed0Msr
  let fixed1 ← readUnguarded e fixed1Msr
  return (value &&& fixed1) ||| fixed0

def adjustCr0 (cr0 : U64) : Launch U64 := adjustCr e cr0 msrIa32VmxCr0Fixed0 msrIa32VmxCr0Fixed1

def adjustCr4 (cr4 : U64) : Launch U64 := adjustCr e cr4 msrIa32VmxCr4Fixed0 msrIa32VmxCr4Fixed1

def writeCr0 (operation : LaunchOperation) (cr0 : U64) : Launch Unit := do
  operate (e.raises operation)
  modify fun s => { s with cr0 }

def writeCr4 (operation : LaunchOperation) (cr4 : U64) : Launch Unit := do
  operate (e.raises operation)
  modify fun s => { s with cr4 }

def restoreControlRegisters (cr0 cr4 : LaunchOperation) : Launch Unit := do
  writeCr0 e cr0 (← get).originalCr0
  writeCr4 e cr4 (← get).originalCr4

def writeXssSafe (write : XssWrite) (xss : U64) : Launch Bool := do
  if e.acceptsXss write then
    modify fun s => { s with xss }
  return e.acceptsXss write

/-- HvVmxOff, with the flag behind it. -/
def leaveVmx : Launch Unit :=
  modify fun s => { s with vmxOperation := false, currentVmcs := none, vmxActive := false }

/-- VMCLEAR of the vCPU's VMCS, which is then not current. -/
def clearVmcs (s : LaunchState) : LaunchState :=
  { s with currentVmcs := s.currentVmcs.filter (· ≠ e.vmcsPhys) }

def hvClearCurrentVmcsAndRecord : Launch Bool := do
  if !e.machine.hasVcpu then return false
  match (← get).vmcsCurrent with
  | .none => return true
  | .clearing | .failed => return false
  | .active =>
    modify fun s => { s with vmcsCurrent := .clearing }
    operate (e.raises .clearVmptrst)
    let (ptrFlags, currentPhys) := e.clearVmptrst
    if !vmxOk ptrFlags || currentPhys = ~~~0 || currentPhys ≠ e.vmcsPhys then
      modify fun s => { s with vmcsCurrent := .failed }
      return false
    operate (e.raises .clearVmclear)
    if !vmxOk e.clearFlags then
      modify fun s => { s with vmcsCurrent := .failed }
      return false
    modify fun s => { clearVmcs e s with vmcsCurrent := .none }
    return true

def hvFailVmcsClear : Launch Unit := do
  modify fun s => { s with state := .parked, launchStage := .parked }
  throw .stopped

/-- The vCPU's VMCS is given up and VMX operation left. -/
def releaseVmx : Launch Unit := do
  if !(← hvClearCurrentVmcsAndRecord e) then
    hvFailVmcsClear
  leaveVmx

def restoreAndFail : Launch Unit := do
  restoreControlRegisters e .restoreCr0 .restoreCr4
  failLaunch

def rollBack : Launch Unit := do
  releaseVmx e
  restoreAndFail e

def injects (stage : HvFaultStage) : Bool := shouldInjectFault e.machine e.machine.cpuId stage

/-- The end of `LaunchCheckRegions`: what the handler writes back. -/
def captureHost : Launch Unit := do
  modify fun s =>
    let hostXss := if e.machine.xsavesEnabled then s.xss else 0
    { s with hostXss, guestXss := hostXss, originalCr0 := s.cr0, originalCr4 := s.cr4 }
  if e.hostCr3 &&& ~~~(pageSize - 1) = 0 then
    failLaunch

def prepareControlRegisters : Launch Unit := do
  writeCr0 e .writeCr0 (← adjustCr0 e (← get).originalCr0)
  writeCr4 e .writeCr4 (← adjustCr4 e ((← get).originalCr4 ||| cr4Vmxe))
  modify fun s => { s with cr4Prepared := true }

/-- Under `LaunchCheckVmxon`, from the first fault stage on. -/
def enterVmx : Launch Unit := do
  if injects e .beforeVmxon then
    restoreAndFail e
  operate (e.raises .vmxon)
  if !vmxOk e.vmxonFlags then
    restoreAndFail e
  modify fun s => { s with
    vmxOperation := true, currentVmcs := none, vmxActive := true
    launchStage := .vmxOn, state := .vmxOn }
  if injects e .afterVmxon then
    leaveVmx
    restoreAndFail e

def clearLaunchVmcs : Launch Unit := do
  operate (e.raises .vmclear)
  if vmxOk e.vmclearFlags then
    modify (clearVmcs e)
  if injects e .afterVmclear then
    leaveVmx
    restoreAndFail e

def loadLaunchVmcs : Launch Unit := do
  if vmxOk e.vmclearFlags then
    operate (e.raises .vmptrld)
    if vmxOk e.vmptrldFlags then
      modify fun s => { s with currentVmcs := some e.vmcsPhys, vmcsCurrent := .active }

def injectAfterVmptrld : Launch Unit := do
  if injects e .afterVmptrld then
    rollBack e

/-- VM_INSTRUCTION_ERROR is read only after a VMPTRLD that failed as VMfailValid,
and only from the vCPU's own VMCS. -/
def readLaunchInstructionError : Launch Unit := do
  if vmxOk e.vmclearFlags && !vmxOk e.vmptrldFlags && e.vmptrldFlags &&& bit 6 ≠ 0 then
    operate (e.raises .diagnosticVmptrst)
    let (ptrFlags, currentPhys) := e.diagnosticVmptrst
    if vmxOk ptrFlags && currentPhys ≠ ~~~0 && currentPhys = e.vmcsPhys then
      operate (e.raises .diagnosticVmread)

/-- Under `LaunchCheckVmcs`. -/
def setUpVmcs : Launch Unit := do
  let loaded := vmxOk e.vmclearFlags && vmxOk e.vmptrldFlags
  if loaded then
    operate (e.raises .setupVmcs)
  if !loaded || !e.setupVmcs then
    readLaunchInstructionError e
    rollBack e

/-- The IA32_XSS of the guest, unless the live one is not what was captured. -/
def writeGuestXss : Launch Bool := do
  let s ← get
  if readXss e s = some s.hostXss then
    writeXssSafe e .guest s.guestXss
  else
    return false

/-- Under `LaunchCheckXss`. -/
def installXss : Launch Unit := do
  if e.machine.xsavesEnabled then
    if !(← writeGuestXss e) then
      releaseVmx e
      let _ ← writeXssSafe e .rejected (← get).hostXss
      restoreAndFail e

def launchFromCapture : Launch U32 := do
  captureHost e
  prepareControlRegisters e
  enterVmx e
  clearLaunchVmcs e
  loadLaunchVmcs e
  injectAfterVmptrld e
  setUpVmcs e
  installXss e
  modify fun s => { s with launchStage := .ready }
  return 1

/-- The body of `__try`. -/
def guardedRegion : Launch U32 := do
  passGates (gatesBeforeCapture e)
  launchFromCapture e

def undoVmx : Launch Unit := do
  if (← get).vmxActive then
    releaseVmx e

def undoXss : Launch Unit := do
  if e.machine.xsavesEnabled then
    let _ ← writeXssSafe e .exception (← get).hostXss

def undoControlRegisters : Launch Unit := do
  if (← get).cr4Prepared then
    restoreControlRegisters e .handlerCr0 .handlerCr4

/-- The body of `__except`. -/
def undoLaunch : Launch U32 := do
  undoVmx e
  undoXss e
  undoControlRegisters e
  failLaunch

def launchOnce : Launch U32 :=
  tryCatch (guardedRegion e) fun
    | .raised => undoLaunch e
    | exit => throw exit

/-- The callback claims the vCPU. -/
def claims (s : LaunchState) : Bool :=
  e.machine.vcpuData && e.guestSp ≠ 0 && e.guestIp ≠ 0 &&
    e.machine.cpuId < e.machine.processorCount && e.shouldLaunchOnThisProcessor &&
    s.state = .uninitialized

def claimed (s : LaunchState) : LaunchState :=
  { s with
    state := .starting, launchStage := .entry, vmcsCurrent := .none
    vmxActive := false, cr4Prepared := false }

def prepareHvCallback (before : LaunchState) : LaunchExit × LaunchState :=
  if claims e before then
    match (launchOnce e).run (claimed before) with
    | (.ok value, after) => (.returned value, after)
    | (.error exit, after) => (exit, after)
  else
    (.returned 0, before)

end

end Knhv.Vmx
