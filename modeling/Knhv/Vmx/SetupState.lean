import Knhv.Vmx.LaunchChecks

namespace Knhv.Vmx.Setup

/-- The fields that a setup programs, and VM_INSTRUCTION_ERROR. -/
inductive SetupField
  | guestEsSelector | guestCsSelector | guestSsSelector | guestDsSelector | guestFsSelector
  | guestGsSelector | guestLdtrSelector | guestTrSelector
  | hostEsSelector | hostCsSelector | hostSsSelector | hostDsSelector | hostFsSelector
  | hostGsSelector | hostTrSelector
  | controlMsrBitmapAddress | controlTscOffset | controlXssExitingBitmap
  | controlTertiaryProcessorBasedVmExecutionControls
  | guestVmcsLinkPtr | guestDebugctl | guestPat | guestEfer | hostPat | hostEfer
  | controlPinBasedVmExecutionControls | controlPrimaryProcessorBasedVmExecutionControls
  | controlExceptionBitmap | controlPageFaultErrorCodeMask | controlPageFaultErrorCodeMatch
  | controlCr3TargetCount | controlVmExitControls | controlVmExitMsrStoreCount
  | controlVmExitMsrLoadCount | controlVmEntryControls | controlVmEntryMsrLoadCount
  | controlVmEntryIntrInfoField | controlVmEntryExceptionErrorCode
  | controlVmEntryInstructionLength | controlSecondaryProcessorBasedVmExecutionControls
  | vmInstructionError
  | guestEsLimit | guestCsLimit | guestSsLimit | guestDsLimit | guestFsLimit | guestGsLimit
  | guestLdtrLimit | guestTrLimit | guestGdtrLimit | guestIdtrLimit
  | guestEsArBytes | guestCsArBytes | guestSsArBytes | guestDsArBytes | guestFsArBytes
  | guestGsArBytes | guestLdtrArBytes | guestTrArBytes
  | guestInterruptibilityInfo | guestActivityState | guestSmBase | guestSysenterCs
  | hostIa32SysenterCs
  | controlCr0GuestHostMask | controlCr4GuestHostMask | controlCr0ReadShadow
  | controlCr4ReadShadow
  | guestCr0 | guestCr3 | guestCr4 | guestEsBase | guestCsBase | guestSsBase | guestDsBase
  | guestFsBase | guestGsBase | guestLdtrBase | guestTrBase | guestGdtrBase | guestIdtrBase
  | guestDr7 | guestRsp | guestRip | guestRflags | guestPendingDbgExceptions
  | guestSysenterEsp | guestSysenterEip | guestSCet | guestSsp | guestIntrSspTable
  | hostCr0 | hostCr3 | hostCr4 | hostFsBase | hostGsBase | hostTrBase | hostGdtrBase
  | hostIdtrBase | hostIa32SysenterEsp | hostIa32SysenterEip | hostRsp | hostRip | hostSCet
  | hostSsp | hostIntrSspTable
  deriving DecidableEq, Repr

def SetupField.encoding : SetupField → U64
  | guestEsSelector => 0x800 | guestCsSelector => 0x802 | guestSsSelector => 0x804
  | guestDsSelector => 0x806 | guestFsSelector => 0x808 | guestGsSelector => 0x80a
  | guestLdtrSelector => 0x80c | guestTrSelector => 0x80e
  | hostEsSelector => 0xc00 | hostCsSelector => 0xc02 | hostSsSelector => 0xc04
  | hostDsSelector => 0xc06 | hostFsSelector => 0xc08 | hostGsSelector => 0xc0a
  | hostTrSelector => 0xc0c
  | controlMsrBitmapAddress => 0x2004 | controlTscOffset => 0x2010
  | controlXssExitingBitmap => 0x202c
  | controlTertiaryProcessorBasedVmExecutionControls => 0x2034
  | guestVmcsLinkPtr => 0x2800 | guestDebugctl => 0x2802 | guestPat => 0x2804
  | guestEfer => 0x2806 | hostPat => 0x2c00 | hostEfer => 0x2c02
  | controlPinBasedVmExecutionControls => 0x4000
  | controlPrimaryProcessorBasedVmExecutionControls => 0x4002
  | controlExceptionBitmap => 0x4004 | controlPageFaultErrorCodeMask => 0x4006
  | controlPageFaultErrorCodeMatch => 0x4008 | controlCr3TargetCount => 0x400a
  | controlVmExitControls => 0x400c | controlVmExitMsrStoreCount => 0x400e
  | controlVmExitMsrLoadCount => 0x4010 | controlVmEntryControls => 0x4012
  | controlVmEntryMsrLoadCount => 0x4014 | controlVmEntryIntrInfoField => 0x4016
  | controlVmEntryExceptionErrorCode => 0x4018 | controlVmEntryInstructionLength => 0x401a
  | controlSecondaryProcessorBasedVmExecutionControls => 0x401e
  | vmInstructionError => 0x4400
  | guestEsLimit => 0x4800 | guestCsLimit => 0x4802 | guestSsLimit => 0x4804
  | guestDsLimit => 0x4806 | guestFsLimit => 0x4808 | guestGsLimit => 0x480a
  | guestLdtrLimit => 0x480c | guestTrLimit => 0x480e | guestGdtrLimit => 0x4810
  | guestIdtrLimit => 0x4812 | guestEsArBytes => 0x4814 | guestCsArBytes => 0x4816
  | guestSsArBytes => 0x4818 | guestDsArBytes => 0x481a | guestFsArBytes => 0x481c
  | guestGsArBytes => 0x481e | guestLdtrArBytes => 0x4820 | guestTrArBytes => 0x4822
  | guestInterruptibilityInfo => 0x4824 | guestActivityState => 0x4826
  | guestSmBase => 0x4828 | guestSysenterCs => 0x482a | hostIa32SysenterCs => 0x4c00
  | controlCr0GuestHostMask => 0x6000 | controlCr4GuestHostMask => 0x6002
  | controlCr0ReadShadow => 0x6004 | controlCr4ReadShadow => 0x6006
  | guestCr0 => 0x6800 | guestCr3 => 0x6802 | guestCr4 => 0x6804 | guestEsBase => 0x6806
  | guestCsBase => 0x6808 | guestSsBase => 0x680a | guestDsBase => 0x680c
  | guestFsBase => 0x680e | guestGsBase => 0x6810 | guestLdtrBase => 0x6812
  | guestTrBase => 0x6814 | guestGdtrBase => 0x6816 | guestIdtrBase => 0x6818
  | guestDr7 => 0x681a | guestRsp => 0x681c | guestRip => 0x681e | guestRflags => 0x6820
  | guestPendingDbgExceptions => 0x6822 | guestSysenterEsp => 0x6824
  | guestSysenterEip => 0x6826 | guestSCet => 0x6828 | guestSsp => 0x682a
  | guestIntrSspTable => 0x682c
  | hostCr0 => 0x6c00 | hostCr3 => 0x6c02 | hostCr4 => 0x6c04 | hostFsBase => 0x6c06
  | hostGsBase => 0x6c08 | hostTrBase => 0x6c0a | hostGdtrBase => 0x6c0c
  | hostIdtrBase => 0x6c0e | hostIa32SysenterEsp => 0x6c10 | hostIa32SysenterEip => 0x6c12
  | hostRsp => 0x6c14 | hostRip => 0x6c16 | hostSCet => 0x6c18 | hostSsp => 0x6c1a
  | hostIntrSspTable => 0x6c1c

/-- The reasons of `HvVmcsFailureReason` that a setup gives. -/
inductive SetupFailure
  | none | cetWriteProtect | msrSnapshot | guestTr | descriptorCr3 | ldtr | sampledTr | vmwrite
  | vmread | mismatch | guestEntry | controlPolicy | xstatePolicy | injected | readback
  deriving DecidableEq, Repr

inductive VmcsSetupPhase
  | none | descriptors | hostState | guestState | executionControls | tertiaryControls
  | exitEntryControls | readback
  deriving DecidableEq, Repr

def VmcsSetupPhase.code : VmcsSetupPhase → U64
  | none => 0 | descriptors => 1 | hostState => 2 | guestState => 3 | executionControls => 4
  | tertiaryControls => 5 | exitEntryControls => 6 | readback => 7

/-- What a setup finds around it. `machine.vmxFlags n` is the RFLAGS image that
its VMREAD or VMWRITE number `n` leaves, and `vmread n` what VMREAD number `n`
makes of the field it reads. -/
structure SetupEnvironment where
  machine : Machine
  vmread : Nat → U64 → U64
  irql : U8
  guestSp : U64
  guestIp : U64
  hostCr3 : U64
  hostStackTop : U64
  msrBitmapPhys : U64
  guestDr7 : U64
  guestDebugctl : U64
  vmxProfile : U32
  vmxHostIdt : U64
  vmxHostIdtBase : U64
  hvVmExitEntryPoint : U64
  gdtBase : U64
  gdtLimit : U16
  idtBase : U64
  idtLimit : U16
  trSelector : U16
  ldtrSelector : U16
  csSelector : U16
  ssSelector : U16
  dsSelector : U16
  esSelector : U16
  fsSelector : U16
  gsSelector : U16
  cr0 : U64
  cr3 : U64
  cr4 : U64
  rflags : U64

/-- The first value that a readback found changed. -/
structure MismatchLatch where
  failed : Bool
  state : Nat
  firstField : U64
  firstExpected : U64
  firstActual : U64
  firstMask : U64

structure FailureRecord where
  commitState : CommitState
  reason : SetupFailure
  arg0 : U64
  arg1 : U64

structure LaunchCr3 where
  rawGuest : U64
  guest : U64
  rawHost : U64
  host : U64
  metadata : U64

structure LaunchDescriptors where
  rejectMask : U32
  selectorsLow : U64
  selectorsHigh : U64
  gdtBase : U64
  idtBase : U64
  tssBase : U64

/-- What a setup leaves in the vCPU beside the latches, and
`g_HvWaitpkgVmcsEnabled`. -/
structure SetupNotes where
  setupPhase : VmcsSetupPhase
  launchCr3 : LaunchCr3
  launchDescriptors : LaunchDescriptors
  primaryControlsCapability : U64
  tertiaryControlsAllowed : U64
  vmxHostIdtBase : U64
  host : HostState
  hostSsLimit : U64
  hostSsAr : U64
  nativeTeardownSafe : Bool
  nativeTeardownRejectMask : U32
  teardownRequest : U32
  fatalSnapshotCommitState : CommitState
  lastEventSnapshotValid : Bool
  waitpkgVmcsEnabled : Bool

structure SetupAccess where
  field : SetupField
  written : Option U64
  flags : U64

/-- The state of one setup. `log` is no part of the program: it records the VMCS
accesses of the setup in their order. -/
structure SetupState where
  vmcs : SetupField → U64
  vmcsWrite : AccessLatch
  vmcsRead : AccessLatch
  vmcsMismatch : MismatchLatch
  vmcsDiagnosticValidity : U64
  failure : FailureRecord
  notes : SetupNotes
  log : List SetupAccess

inductive SetupOutcome
  | returned (value : Bool)
  | raised
  deriving DecidableEq

def kValidityVmcsReadback : U64 := bit 7

def publishVmcsFailure (reason : SetupFailure) (arg0 arg1 : U64) (s : SetupState) : SetupState :=
  if reason ≠ .none && s.failure.commitState = .empty then
    { s with failure := ⟨.committed, reason, arg0, arg1⟩ }
  else
    s

section

variable (e : SetupEnvironment)

def hvVmWrite (field : SetupField) (value : U64) : StateM SetupState U64 :=
  fun s =>
    let flags := e.machine.vmxFlags s.log.length
    (flags, { s with
      vmcs := if vmxOk flags then Function.update s.vmcs field value else s.vmcs
      log := s.log ++ [⟨field, some value, flags⟩] })

def hvVmReadChecked (field : SetupField) : StateM SetupState (U64 × Option U64) :=
  fun s =>
    let flags := e.machine.vmxFlags s.log.length
    ((flags, if vmxOk flags then some (e.vmread s.log.length (s.vmcs field)) else none),
      { s with log := s.log ++ [⟨field, none, flags⟩] })

def readInstructionError (defined : Bool) : StateM SetupState U64 :=
  if defined then do
    let (_, value) ← hvVmReadChecked e .vmInstructionError
    return value.getD (~~~0)
  else
    return ~~~0

def vmWriteChecked (field : SetupField) (value : U64) : StateM SetupState Bool := do
  if e.machine.hasVcpu && (← get).vmcsWrite.failed then return false
  let flags ← hvVmWrite e field value
  if vmxOk flags then return true
  if e.machine.hasVcpu && (← get).vmcsWrite.state = 0 then
    let instructionError ← readInstructionError e (flags &&& bit 6 ≠ 0)
    modify fun s => publishVmcsFailure .vmwrite field.encoding flags
      { s with vmcsWrite := ⟨true, 2, field.encoding, flags, instructionError⟩ }
  return false

def vmReadChecked (field : SetupField) : StateM SetupState (Option U64) := do
  let (flags, value) ← hvVmReadChecked e field
  if vmxOk flags then return value
  if e.machine.hasVcpu then
    modify fun s =>
      { s with vmcsDiagnosticValidity := s.vmcsDiagnosticValidity ||| kValidityVmcsReadFailure }
    if (← get).vmcsRead.state = 0 then
      let instructionError ← readInstructionError e
        (flags &&& bit 6 ≠ 0 && field ≠ .vmInstructionError)
      modify fun s => publishVmcsFailure .vmread field.encoding flags
        { s with vmcsRead := ⟨true, 2, field.encoding, flags, instructionError⟩ }
    else
      modify fun s => { s with vmcsRead := { s.vmcsRead with failed := true } }
  return none

/-- `VmReadChecked(field, &local) && ..`, where the locals start at zero. -/
def readLocals : List SetupField → StateM SetupState (Option (SetupField → U64))
  | [] => return some fun _ => 0
  | field :: rest => do
    match ← vmReadChecked e field with
    | none => return none
    | some value => return (← readLocals rest).map fun values => Function.update values field value

/-- One statement of the setup: an unguarded `__readmsr`, a check that publishes
its reason and returns false, `if (!VmWriteChecked(..)) return false`, a write
whose answer is dropped, a look at the write latch, or a store into the vCPU. -/
inductive SetupStep
  | operation (raises : Bool)
  | check (refuses : Bool) (reason : SetupFailure) (arg0 arg1 : U64)
  | write (field : SetupField) (value : U64)
  | writeUnchecked (field : SetupField) (value : U64)
  | latch
  | note (store : SetupNotes → SetupNotes)

/-- The answer is the outcome of a setup that ends in this statement. -/
def runStep : SetupStep → StateM SetupState (Option SetupOutcome)
  | .operation raises => return if raises then some .raised else none
  | .check refuses reason arg0 arg1 => do
    if refuses then
      modify (publishVmcsFailure reason arg0 arg1)
      return some (.returned false)
    else
      return none
  | .write field value => do
    if ← vmWriteChecked e field value then return none else return some (.returned false)
  | .writeUnchecked field value => do
    let _ ← vmWriteChecked e field value
    return none
  | .latch => do
    if (← get).vmcsWrite.failed then return some (.returned false) else return none
  | .note store => do
    modify fun s => { s with notes := store s.notes }
    return none

def runSteps : List SetupStep → StateM SetupState (Option SetupOutcome)
  | [] => return none
  | step :: rest => do
    match ← runStep e step with
    | some outcome => return some outcome
    | none => runSteps rest

end

def vmcsValueMatches (field : SetupField) (actual expected mask : U64) : StateM SetupState Bool := do
  if actual &&& mask = expected &&& mask then return true
  if (← get).vmcsMismatch.state = 0 then
    modify fun s => publishVmcsFailure .mismatch field.encoding actual
      { s with vmcsMismatch := ⟨true, 2, field.encoding, expected, actual, mask⟩ }
  return false

/-- `valuesMatch &= VmcsValueMatches(field, actual, expected, mask)` for every
field: a mismatch does not stop the chain. -/
def compareAll (values : SetupField → U64) :
    List (SetupField × U64 × U64) → StateM SetupState Bool
  | [] => return true
  | (field, expected, mask) :: rest => do
    let matched ← vmcsValueMatches field (values field) expected mask
    let others ← compareAll values rest
    return matched && others

end Knhv.Vmx.Setup
