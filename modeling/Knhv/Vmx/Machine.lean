import Knhv.Abi
import Mathlib.Logic.Function.Basic

namespace Knhv.Vmx

/-- The VMCS fields that the VM-exit path reads or writes. -/
inductive VmcsField
  | guestEsSelector | guestCsSelector | guestSsSelector | guestDsSelector | guestFsSelector
  | guestGsSelector | guestLdtrSelector | guestTrSelector
  | guestDebugctl | guestPat | guestEfer
  | controlVmEntryIntrInfoField | controlVmEntryExceptionErrorCode
  | controlVmEntryInstructionLength
  | vmInstructionError | vmExitReason | vmExitIntrInfo | vmExitIntrErrorCode
  | vmExitIdtVectoringInfo | vmExitIdtVectoringErrorCode | vmExitInstructionLen
  | guestCsLimit | guestSsLimit | guestTrLimit | guestGdtrLimit | guestIdtrLimit
  | guestCsArBytes | guestSsArBytes | guestTrArBytes
  | guestInterruptibilityInfo | guestActivityState | guestSysenterCs
  | controlCr4GuestHostMask | controlCr0ReadShadow | controlCr4ReadShadow
  | exitQualification
  | guestCr0 | guestCr3 | guestCr4 | guestFsBase | guestGsBase | guestTrBase | guestGdtrBase
  | guestIdtrBase | guestDr7 | guestRsp | guestRip | guestRflags | guestPendingDbgExceptions
  | guestSysenterEsp | guestSysenterEip | guestSCet | guestSsp | guestIntrSspTable
  deriving DecidableEq, Repr

def VmcsField.encoding : VmcsField → U64
  | guestEsSelector => 0x800 | guestCsSelector => 0x802 | guestSsSelector => 0x804
  | guestDsSelector => 0x806 | guestFsSelector => 0x808 | guestGsSelector => 0x80a
  | guestLdtrSelector => 0x80c | guestTrSelector => 0x80e
  | guestDebugctl => 0x2802 | guestPat => 0x2804 | guestEfer => 0x2806
  | controlVmEntryIntrInfoField => 0x4016 | controlVmEntryExceptionErrorCode => 0x4018
  | controlVmEntryInstructionLength => 0x401a
  | vmInstructionError => 0x4400 | vmExitReason => 0x4402 | vmExitIntrInfo => 0x4404
  | vmExitIntrErrorCode => 0x4406 | vmExitIdtVectoringInfo => 0x4408
  | vmExitIdtVectoringErrorCode => 0x440a | vmExitInstructionLen => 0x440c
  | guestCsLimit => 0x4802 | guestSsLimit => 0x4804 | guestTrLimit => 0x480e
  | guestGdtrLimit => 0x4810 | guestIdtrLimit => 0x4812 | guestCsArBytes => 0x4816
  | guestSsArBytes => 0x4818 | guestTrArBytes => 0x4822
  | guestInterruptibilityInfo => 0x4824 | guestActivityState => 0x4826
  | guestSysenterCs => 0x482a
  | controlCr4GuestHostMask => 0x6002 | controlCr0ReadShadow => 0x6004
  | controlCr4ReadShadow => 0x6006 | exitQualification => 0x6400
  | guestCr0 => 0x6800 | guestCr3 => 0x6802 | guestCr4 => 0x6804 | guestFsBase => 0x680e
  | guestGsBase => 0x6810 | guestTrBase => 0x6814 | guestGdtrBase => 0x6816
  | guestIdtrBase => 0x6818 | guestDr7 => 0x681a | guestRsp => 0x681c | guestRip => 0x681e
  | guestRflags => 0x6820 | guestPendingDbgExceptions => 0x6822
  | guestSysenterEsp => 0x6824 | guestSysenterEip => 0x6826 | guestSCet => 0x6828
  | guestSsp => 0x682a | guestIntrSspTable => 0x682c

inductive XstateMode
  | fxsave | xsave | xsaves
  deriving DecidableEq, Repr

inductive HvFaultStage
  | beforeVmxon | afterVmxon | afterVmclear | afterVmptrld | afterVmcsControls | afterHostState
  | afterGuestState | beforeVmlaunch | vmlaunchFailure | lateVmEntry | firstVmexit
  | beforeVmresume | vmresumeFailure | teardown
  deriving DecidableEq, Repr

inductive FirstExitProbeState
  | idle | armed | vmExitEntered | exitValidated | returned | failed
  deriving DecidableEq, Repr

inductive ExitAction
  | none | resume | abort | halt | inject
  deriving DecidableEq, Repr

inductive CommitState
  | empty | writing | committed
  deriving DecidableEq, Repr

inductive VmcsFailureReason
  | none | vmwrite | vmread
  deriving DecidableEq, Repr

structure CpuidRegs where
  eax : U32
  ebx : U32
  ecx : U32
  edx : U32
  deriving DecidableEq

/-- What the exit path finds around it on its processor. `vmxFlags n` is the
RFLAGS image that the VMREAD or VMWRITE number `n` of the exit leaves, so every
pattern of successes and failures is one such function. An instruction that
faults under `__try` answers `none`. -/
structure Machine where
  cpuId : Nat
  vcpuData : Bool
  processorCount : Nat
  vmxFlags : Nat → U64
  cpuidex : U32 → U32 → CpuidRegs
  readMsr : U32 → Option U64
  xgetbv : Option U64
  readCr2 : U64
  memory : U64 → U8
  getSegmentLimit : U16 → U32
  getSegmentAr : U16 → U32
  linearAddressBits : Nat
  debugctlMask : U64
  cetVmcsEnabled : Bool
  xsavesEnabled : Bool
  xstateMode : XstateMode
  xsavesMask : U64
  enumeratedXssMask : U64
  guestXssWriteMask : U64
  hostXcr0Mask : U64
  testFault : Option (Nat × HvFaultStage)

/-- The current processor has its entry in `g_VcpuData`. -/
def Machine.hasVcpu (m : Machine) : Bool := m.vcpuData && m.cpuId < m.processorCount

def shouldInjectFault (m : Machine) (cpu : Nat) (stage : HvFaultStage) : Bool :=
  m.testFault = some (cpu, stage)

/-- The software frame of the exit stub, without the XSAVE image in front. -/
structure GuestContext where
  rax : U64
  rcx : U64
  rdx : U64
  rbx : U64
  rbp : U64
  rsi : U64
  rdi : U64
  r8 : U64
  r9 : U64
  r10 : U64
  r11 : U64
  r12 : U64
  r13 : U64
  r14 : U64
  r15 : U64
  guestRip : U64
  guestRsp : U64
  rflags : U64
  guestCs : U64
  guestSs : U64
  guestCr3 : U64
  guestCr4 : U64
  guestFsBase : U64
  guestGsBase : U64
  guestEfer : U64
  guestPat : U64
  guestKernelGsBase : U64
  abortVm : Bool
  haltVm : Bool
  guestCr0 : U64
  guestSysenterCs : U64
  guestSysenterEsp : U64
  guestSysenterEip : U64
  guestXcr0 : U64
  guestXss : U64
  guestSCet : U64
  guestSsp : U64
  guestInterruptSspTable : U64
  guestDr7 : U64
  guestDebugctl : U64
  nativeIdtBase : U64
  nativeIdtLimit : U64

/-- One side of the access diagnostics: the latch, its publication state (0, 1
or 2) and the first failing access. -/
structure AccessLatch where
  failed : Bool
  state : Nat
  firstField : U64
  firstFlags : U64
  firstError : U64

structure EventSnapshot where
  vmEntryIntrInfo : U32
  vmEntryIntrError : U32
  vmEntryInstructionLength : U32
  vmExitIntrInfo : U32
  vmExitIntrError : U32
  idtVectoringInfo : U32
  idtVectoringError : U32
  guestInterruptibility : U32
  guestActivity : U32
  guestPendingDbgExceptions : U32

structure FirstExitProbe where
  state : FirstExitProbeState
  baselineVmExits : U32
  baselineVmResumes : U32
  observedVmExits : U32
  observedVmResumes : U32
  reason : U32
  action : ExitAction
  resumeFlags : U64

/-- The host descriptor environment sampled at launch. -/
structure HostState where
  segmentSelectorsLow : U64
  segmentSelectorsHigh : U64
  gdtBase : U64
  gdtLimit : U64
  idtBase : U64
  idtLimit : U64
  trBase : U64
  trLimit : U64
  trAr : U64
  csLimit : U64
  csAr : U64
  xcr0 : U64

/-- The `Last…` diagnostics of one exit. -/
structure LastExit where
  reason : U32
  reasonRaw : U32
  reasonBasic : U32
  entryFailure : Bool
  msrIndex : U32
  msrValue : U64
  vmInstructionError : U64
  action : ExitAction
  instructionLength : U64
  qualification : U64
  guestRip : U64
  guestRsp : U64
  rflags : U64
  guestCr0 : U64
  guestCr2 : U64
  guestCr3 : U64
  guestCr4 : U64
  guestCs : U64
  guestSs : U64
  guestTr : U64
  guestCsAr : U32
  guestSsAr : U32
  guestTrAr : U32
  guestDr7 : U64
  guestDebugctl : U64
  guestEfer : U64
  guestPat : U64
  guestXcr0 : U64
  guestXss : U64
  guestSCet : U64
  guestSsp : U64
  guestInterruptSspTable : U64

structure VcpuContext where
  vmcsWrite : AccessLatch
  vmcsRead : AccessLatch
  vmcsFailureCommitState : CommitState
  vmcsFailureReason : VmcsFailureReason
  vmcsFailureArg0 : U64
  vmcsFailureArg1 : U64
  vmcsDiagnosticValidity : U64
  guestGsBase : U64
  guestKernelGsBase : U64
  guestXss : U64
  guestXcr0 : U64
  guestDr7 : U64
  guestDebugctl : U64
  host : HostState
  nativeTeardownSafe : Bool
  nativeTeardownRejectMask : U32
  lastEvent : EventSnapshot
  lastEventSnapshotValid : Bool
  vmExitCount : U32
  vmResumeAttempts : U32
  lastVmResumeFlags : U64
  firstExitProbe : FirstExitProbe
  last : LastExit
  fatalSnapshotCommitState : CommitState
  xssWriteExitCount : U32
  xssWriteRejectCount : U32
  lastXssWritePrevious : U64
  lastXssWriteRequested : U64
  xsetbvExitCount : U32
  lastXsetbvPrevious : U64
  lastXsetbvRequested : U64

/-- One VMREAD or VMWRITE: its field, the value if it was a write, and the
RFLAGS image it left. -/
structure VmcsAccess where
  field : VmcsField
  written : Option U64
  flags : U64

/-- The state of one exit. `log` is no part of the program: it records the VMCS
accesses of the exit in their order. -/
structure ExitState where
  ctx : GuestContext
  vcpu : VcpuContext
  vmcs : VmcsField → U64
  launchGuestStarted : U32
  launchFirstVmExitEntered : U32
  log : List VmcsAccess

def modifyCtx (f : GuestContext → GuestContext) : StateM ExitState Unit :=
  modify fun s => { s with ctx := f s.ctx }

def modifyVcpu (f : VcpuContext → VcpuContext) : StateM ExitState Unit :=
  modify fun s => { s with vcpu := f s.vcpu }

/-- Diagnostics go to the processor's own entry, if it has one. -/
def recordVcpu (m : Machine) (f : VcpuContext → VcpuContext) : StateM ExitState Unit :=
  if m.hasVcpu then modifyVcpu f else pure ()

/-- `1ULL << position` -/
def bit (position : Nat) : U64 := 1#64 <<< position

def vmxOk (rflags : U64) : Bool := rflags &&& 1 = 0 && rflags &&& bit 6 = 0

def hvVmWrite (m : Machine) (field : VmcsField) (value : U64) : StateM ExitState U64 :=
  fun s =>
    let flags := m.vmxFlags s.log.length
    (flags, { s with
      vmcs := if vmxOk flags then Function.update s.vmcs field value else s.vmcs
      log := s.log ++ [⟨field, some value, flags⟩] })

/-- VMREAD stores its result only when it succeeded. -/
def hvVmReadChecked (m : Machine) (field : VmcsField) : StateM ExitState (U64 × Option U64) :=
  fun s =>
    let flags := m.vmxFlags s.log.length
    ((flags, if vmxOk flags then some (s.vmcs field) else none),
      { s with log := s.log ++ [⟨field, none, flags⟩] })

/-- VM_INSTRUCTION_ERROR is defined for VMfailValid only. -/
def readInstructionError (m : Machine) (defined : Bool) : StateM ExitState U64 :=
  if defined then do
    let (_, value) ← hvVmReadChecked m .vmInstructionError
    return value.getD (~~~0)
  else
    return ~~~0

def publishVmcsFailure (reason : VmcsFailureReason) (arg0 arg1 : U64) (vcpu : VcpuContext) :
    VcpuContext :=
  if vcpu.vmcsFailureCommitState = .empty then
    { vcpu with
      vmcsFailureArg0 := arg0
      vmcsFailureArg1 := arg1
      vmcsFailureReason := reason
      vmcsFailureCommitState := .committed }
  else
    vcpu

def vmWriteChecked (m : Machine) (field : VmcsField) (value : U64) : StateM ExitState Bool := do
  if m.hasVcpu && (← get).vcpu.vmcsWrite.failed then return false
  let flags ← hvVmWrite m field value
  if vmxOk flags then return true
  if m.hasVcpu && (← get).vcpu.vmcsWrite.state = 0 then
    let instructionError ← readInstructionError m (flags &&& bit 6 ≠ 0)
    modifyVcpu fun vcpu => publishVmcsFailure .vmwrite field.encoding flags
      { vcpu with vmcsWrite := ⟨true, 2, field.encoding, flags, instructionError⟩ }
  return false

def kValidityExitReason : U64 := bit 0
def kValidityExitQualification : U64 := bit 1
def kValidityExitInstructionLength : U64 := bit 2
def kValidityEventState : U64 := bit 3
def kValidityGuestState : U64 := bit 4
def kValidityVmcsReadFailure : U64 := bit 6

def setVmcsDiagnosticValidity (bits : U64) (vcpu : VcpuContext) : VcpuContext :=
  { vcpu with vmcsDiagnosticValidity := vcpu.vmcsDiagnosticValidity ||| bits }

def clearVmcsDiagnosticValidity (bits : U64) (vcpu : VcpuContext) : VcpuContext :=
  { vcpu with vmcsDiagnosticValidity := vcpu.vmcsDiagnosticValidity &&& ~~~bits }

def vmReadChecked (m : Machine) (field : VmcsField) : StateM ExitState (Option U64) := do
  let (flags, value) ← hvVmReadChecked m field
  if vmxOk flags then return value
  if m.hasVcpu then
    modifyVcpu (setVmcsDiagnosticValidity kValidityVmcsReadFailure)
    if (← get).vcpu.vmcsRead.state = 0 then
      let instructionError ← readInstructionError m
        (flags &&& bit 6 ≠ 0 && field ≠ .vmInstructionError)
      modifyVcpu fun vcpu => publishVmcsFailure .vmread field.encoding flags
        { vcpu with vmcsRead := ⟨true, 2, field.encoding, flags, instructionError⟩ }
    else
      modifyVcpu fun vcpu => { vcpu with vmcsRead := { vcpu.vmcsRead with failed := true } }
  return none

/-- `VmWriteChecked(..) && VmWriteChecked(..) && ..` -/
def writeAll (m : Machine) : List (VmcsField × U64) → StateM ExitState Bool
  | [] => return true
  | (field, value) :: rest => do
    if ← vmWriteChecked m field value then writeAll m rest else return false

/-- `VmReadChecked(field, &target) && ..`, where the target is a place of the
state. -/
def readInto (m : Machine) :
    List (VmcsField × (U64 → ExitState → ExitState)) → StateM ExitState Bool
  | [] => return true
  | (field, store) :: rest => do
    match ← vmReadChecked m field with
    | none => return false
    | some value =>
      modify (store value)
      readInto m rest

/-- `VmReadChecked(field, &local) && ..`, where the locals start at zero. -/
def readLocals (m : Machine) : List VmcsField → StateM ExitState (Option (VmcsField → U64))
  | [] => return some fun _ => 0
  | field :: rest => do
    match ← vmReadChecked m field with
    | none => return none
    | some value => return (← readLocals m rest).map fun values => Function.update values field value

/-- `valid &= VmReadChecked(field, &local)` for every field: a failure does not
stop the chain. -/
def readEach (m : Machine) : List VmcsField → StateM ExitState (Option (VmcsField → U64))
  | [] => return some fun _ => 0
  | field :: rest => do
    let value ← vmReadChecked m field
    let values ← readEach m rest
    match value, values with
    | some value, some values => return some (Function.update values field value)
    | _, _ => return none

end Knhv.Vmx
