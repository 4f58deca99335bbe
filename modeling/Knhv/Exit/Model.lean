import Knhv.Abi

namespace Knhv.Exit

def kExitContractVersion : U32 := 1
def kExitMaxStructSize : U32 := 4096
def kExitMaxInstructionLength : U32 := 15

def kExitPolicyVirtualizeCpuid : U32 := 1 <<< 0
def kExitPolicyVirtualizeTsc : U32 := 1 <<< 1
def kExitPolicyVirtualizeMsr : U32 := 1 <<< 2
def kExitPolicyReflectVmx : U32 := 1 <<< 3
def kExitPolicyReflectEpt : U32 := 1 <<< 4
def kExitPolicyAllowIo : U32 := 1 <<< 5
def kExitKnownPolicyMask : U32 :=
  kExitPolicyVirtualizeCpuid ||| kExitPolicyVirtualizeTsc ||| kExitPolicyVirtualizeMsr |||
  kExitPolicyReflectVmx ||| kExitPolicyReflectEpt ||| kExitPolicyAllowIo

def kExitRecordHostOwned : U32 := 1 <<< 0
def kExitRecordEntryFailure : U32 := 1 <<< 1
def kExitKnownRecordMask : U32 := kExitRecordHostOwned ||| kExitRecordEntryFailure

/-! The reasons are `u32` words in the records, and any word can stand there. -/

def kReasonExceptionOrNmi : U32 := 0
def kReasonExternalInterrupt : U32 := 1
def kReasonTripleFault : U32 := 2
def kReasonInterruptWindow : U32 := 7
def kReasonNmiWindow : U32 := 8
def kReasonCpuid : U32 := 10
def kReasonHlt : U32 := 12
def kReasonInvlpg : U32 := 14
def kReasonRdpmc : U32 := 15
def kReasonRdtsc : U32 := 16
def kReasonVmcall : U32 := 18
def kReasonVmclear : U32 := 19
def kReasonVmlaunch : U32 := 20
def kReasonVmptrld : U32 := 21
def kReasonVmptrst : U32 := 22
def kReasonVmread : U32 := 23
def kReasonVmresume : U32 := 24
def kReasonVmwrite : U32 := 25
def kReasonVmxoff : U32 := 26
def kReasonVmxon : U32 := 27
def kReasonCrAccess : U32 := 28
def kReasonIoInstruction : U32 := 30
def kReasonRdmsr : U32 := 31
def kReasonWrmsr : U32 := 32
def kReasonInvalidGuestState : U32 := 33
def kReasonMsrLoading : U32 := 34
def kReasonMwait : U32 := 36
def kReasonMonitorTrap : U32 := 37
def kReasonMonitor : U32 := 39
def kReasonPause : U32 := 40
def kReasonMachineCheck : U32 := 41
def kReasonEptViolation : U32 := 48
def kReasonEptMisconfiguration : U32 := 49
def kReasonInvept : U32 := 50
def kReasonRdtscp : U32 := 51
def kReasonInvvpid : U32 := 53
def kReasonXsetbv : U32 := 55
def kReasonApicWrite : U32 := 56
def kReasonInvpcid : U32 := 58
def kReasonVmfunc : U32 := 59
def kReasonXsaves : U32 := 63
def kReasonXrstors : U32 := 64

inductive ExitClass
  | Unknown | Interrupt | NestedVmx | CpuControl | Time | Msr | Io | Memory | GuestState | Fatal
  deriving DecidableEq, Repr

def kExitClassInterrupt : U32 := 1 <<< 0
def kExitClassNestedVmx : U32 := 1 <<< 1
def kExitClassCpuControl : U32 := 1 <<< 2
def kExitClassTime : U32 := 1 <<< 3
def kExitClassMsr : U32 := 1 <<< 4
def kExitClassIo : U32 := 1 <<< 5
def kExitClassMemory : U32 := 1 <<< 6
def kExitClassGuestState : U32 := 1 <<< 7
def kExitClassFatal : U32 := 1 <<< 8
def kExitKnownClassMask : U32 :=
  kExitClassInterrupt ||| kExitClassNestedVmx ||| kExitClassCpuControl ||| kExitClassTime |||
  kExitClassMsr ||| kExitClassIo ||| kExitClassMemory ||| kExitClassGuestState |||
  kExitClassFatal

inductive ExitAction
  | ResumeGuest | ReflectToL1 | InjectUndefinedInstruction | InjectGeneralProtection
  | QuarantineVcpu | FatalHost
  deriving DecidableEq, Repr

inductive ExitDecisionStatus
  | Success | InvalidParameter | GenerationMismatch | UnsupportedReason | QuarantineRequired
  deriving DecidableEq, Repr

def ExitAction.word : ExitAction → U32
  | .ResumeGuest => 0
  | .ReflectToL1 => 1
  | .InjectUndefinedInstruction => 2
  | .InjectGeneralProtection => 3
  | .QuarantineVcpu => 4
  | .FatalHost => 5

def ExitDecisionStatus.word : ExitDecisionStatus → U32
  | .Success => 0
  | .InvalidParameter => 1
  | .GenerationMismatch => 2
  | .UnsupportedReason => 3
  | .QuarantineRequired => 4

def sizeofExitPolicy : U32 := 40
def sizeofExitRecord : U32 := 64
def sizeofExitDecision : U32 := 40

structure ExitPolicy where
  size : U32
  version : U32
  level : U32
  flags : U32
  allowedClasses : U32
  maxInstructionLength : U32
  generation : U64
  reserved : U64
  deriving DecidableEq

structure ExitRecord where
  size : U32
  version : U32
  reason : U32
  instructionLength : U32
  flags : U32
  reserved : U32
  qualification : U64
  guestLinear : U64
  guestPhysical : U64
  guestRip : U64
  generation : U64
  deriving DecidableEq

structure ExitDecision where
  size : U32
  version : U32
  status : U32
  action : U32
  reason : U32
  exceptionVector : U32
  instructionLength : U32
  reserved : U32
  generation : U64
  deriving DecidableEq

def isVersionedSizeValid (version size required : U32) : Bool :=
  version == kExitContractVersion && required ≤ size && size ≤ kExitMaxStructSize

def isLinearBitsValid (bits : U32) : Bool := 48 ≤ bits && bits ≤ 63

def isPhysicalBitsValid (bits : U32) : Bool := 12 ≤ bits && bits ≤ 52

def isCanonical (value : U64) (bits : U32) : Bool :=
  if !isLinearBitsValid bits then false
  else
    let lowMask : U64 := (1 <<< bits.toNat) - 1
    let signBit : U64 := 1 <<< (bits - 1).toNat
    let upper := value &&& ~~~lowMask
    if value &&& signBit == 0 then upper == 0 else upper == ~~~lowMask

def classBit : ExitClass → U32
  | .Interrupt => kExitClassInterrupt
  | .NestedVmx => kExitClassNestedVmx
  | .CpuControl => kExitClassCpuControl
  | .Time => kExitClassTime
  | .Msr => kExitClassMsr
  | .Io => kExitClassIo
  | .Memory => kExitClassMemory
  | .GuestState => kExitClassGuestState
  | .Fatal => kExitClassFatal
  | .Unknown => 0

def isVmInstructionReason (reason : U32) : Bool := kReasonVmcall ≤ reason && reason ≤ kReasonVmxon

def policyHandlesClass (policy : ExitPolicy) (exitClass : ExitClass) : Bool :=
  policy.allowedClasses &&& classBit exitClass != 0

/-! The cases of the classifier, one list for each class. -/

def interruptReasons : List U32 :=
  [kReasonExceptionOrNmi, kReasonExternalInterrupt, kReasonInterruptWindow, kReasonNmiWindow]

def nestedVmxReasons : List U32 :=
  [kReasonVmcall, kReasonVmclear, kReasonVmlaunch, kReasonVmptrld, kReasonVmptrst, kReasonVmread,
    kReasonVmresume, kReasonVmwrite, kReasonVmxoff, kReasonVmxon, kReasonInvept, kReasonInvvpid,
    kReasonVmfunc]

def cpuControlReasons : List U32 :=
  [kReasonHlt, kReasonCpuid, kReasonInvlpg, kReasonRdpmc, kReasonCrAccess, kReasonMwait,
    kReasonMonitorTrap, kReasonMonitor, kReasonPause, kReasonApicWrite, kReasonInvpcid,
    kReasonXsetbv]

def timeReasons : List U32 := [kReasonRdtsc, kReasonRdtscp]

def msrReasons : List U32 := [kReasonRdmsr, kReasonWrmsr, kReasonXsaves, kReasonXrstors]

def ioReasons : List U32 := [kReasonIoInstruction]

def memoryReasons : List U32 := [kReasonEptViolation, kReasonEptMisconfiguration]

def guestStateReasons : List U32 := [kReasonInvalidGuestState, kReasonMsrLoading]

def fatalReasons : List U32 := [kReasonTripleFault, kReasonMachineCheck]

def classifyExitReason (reason : U32) : ExitClass :=
  if interruptReasons.contains reason then .Interrupt
  else if nestedVmxReasons.contains reason then .NestedVmx
  else if cpuControlReasons.contains reason then .CpuControl
  else if timeReasons.contains reason then .Time
  else if msrReasons.contains reason then .Msr
  else if ioReasons.contains reason then .Io
  else if memoryReasons.contains reason then .Memory
  else if guestStateReasons.contains reason then .GuestState
  else if fatalReasons.contains reason then .Fatal
  else .Unknown

/-- A flag of a policy is admitted only together with its class. -/
def isFlagBacked (policy : ExitPolicy) (flag classMask : U32) : Bool :=
  !(policy.flags &&& flag != 0 && policy.allowedClasses &&& classMask == 0)

def isExitPolicyValid : Option ExitPolicy → U32 → Bool
  | none, _ => false
  | some policy, linearAddressBits =>
    isVersionedSizeValid policy.version policy.size sizeofExitPolicy &&
    (policy.level == 1 || policy.level == 2) &&
    policy.flags &&& ~~~kExitKnownPolicyMask == 0 &&
    policy.allowedClasses &&& ~~~kExitKnownClassMask == 0 &&
    policy.maxInstructionLength != 0 &&
    policy.maxInstructionLength ≤ kExitMaxInstructionLength &&
    policy.generation != 0 && policy.reserved == 0 && isLinearBitsValid linearAddressBits &&
    isFlagBacked policy kExitPolicyVirtualizeTsc kExitClassTime &&
    isFlagBacked policy kExitPolicyVirtualizeCpuid kExitClassCpuControl &&
    isFlagBacked policy kExitPolicyVirtualizeMsr kExitClassMsr &&
    isFlagBacked policy kExitPolicyAllowIo kExitClassIo &&
    isFlagBacked policy kExitPolicyReflectVmx kExitClassNestedVmx &&
    isFlagBacked policy kExitPolicyReflectEpt kExitClassMemory

def isExitRecordValid : Option ExitRecord → U32 → U32 → Bool
  | none, _, _ => false
  | some record, physicalAddressBits, linearAddressBits =>
    isVersionedSizeValid record.version record.size sizeofExitRecord &&
    record.reason ≤ 0xFFFF && record.instructionLength ≤ kExitMaxInstructionLength &&
    record.flags &&& ~~~kExitKnownRecordMask == 0 && record.reserved == 0 &&
    record.generation != 0 && isPhysicalBitsValid physicalAddressBits &&
    isLinearBitsValid linearAddressBits &&
    record.guestPhysical >>> physicalAddressBits.toNat == 0 &&
    isCanonical record.guestLinear linearAddressBits &&
    isCanonical record.guestRip linearAddressBits

def initializeDecision (record : Option ExitRecord) : ExitDecision where
  size := sizeofExitDecision
  version := kExitContractVersion
  status := 0
  action := 0
  reason := (record.map (·.reason)).getD 0
  exceptionVector := 0
  instructionLength := (record.map (·.instructionLength)).getD 0
  reserved := 0
  generation := (record.map (·.generation)).getD 0

/-- What an exit is answered with. -/
structure Verdict where
  status : ExitDecisionStatus
  action : ExitAction
  exceptionVector : U32
  deriving DecidableEq

def setDecision (decision : ExitDecision) (verdict : Verdict) : ExitDecision :=
  { decision with
    status := verdict.status.word
    action := verdict.action.word
    exceptionVector := verdict.exceptionVector }

def quarantine : Verdict := ⟨.QuarantineRequired, .QuarantineVcpu, 0⟩

/-- Whether the policy has the hypervisor handle an exit itself. -/
def locallyHandled (reason : U32) (exitClass : ExitClass) (policy : ExitPolicy) : Bool :=
  if reason == kReasonCpuid then policy.flags &&& kExitPolicyVirtualizeCpuid != 0
  else if exitClass == .Time then policy.flags &&& kExitPolicyVirtualizeTsc != 0
  else if exitClass == .Msr then policy.flags &&& kExitPolicyVirtualizeMsr != 0
  else if exitClass == .Io then policy.flags &&& kExitPolicyAllowIo != 0
  else if exitClass == .Memory then policy.flags &&& kExitPolicyReflectEpt != 0
  else if exitClass == .CpuControl then true
  else false

/-- The answer to an exit of a known class, behind the checks that come before
the classes are told apart. -/
def routeClass (record : ExitRecord) (policy : ExitPolicy) (exitClass : ExitClass) : Verdict :=
  if exitClass == .NestedVmx then
    if policy.flags &&& kExitPolicyReflectVmx != 0 && policyHandlesClass policy exitClass then
      ⟨.Success, .ReflectToL1, 0⟩
    else ⟨.UnsupportedReason, .InjectUndefinedInstruction, 6⟩
  else if exitClass == .Interrupt then ⟨.Success, .ResumeGuest, 0⟩
  else if exitClass == .Fatal then
    if record.reason == kReasonTripleFault && policyHandlesClass policy exitClass then
      ⟨.Success, .ReflectToL1, 0⟩
    else quarantine
  else if locallyHandled record.reason exitClass policy && policyHandlesClass policy exitClass then
    ⟨.Success, if exitClass == .Memory then .ReflectToL1 else .ResumeGuest, 0⟩
  else if policyHandlesClass policy exitClass then ⟨.Success, .ReflectToL1, 0⟩
  else if isVmInstructionReason record.reason then
    ⟨.UnsupportedReason, .InjectUndefinedInstruction, 6⟩
  else quarantine

/-- The answer to a valid exit under a valid policy. -/
def routeExit (record : ExitRecord) (policy : ExitPolicy) : Verdict :=
  if record.generation != policy.generation then ⟨.GenerationMismatch, .QuarantineVcpu, 0⟩
  else if policy.maxInstructionLength < record.instructionLength then quarantine
  else
    let exitClass := classifyExitReason record.reason
    if exitClass == .Unknown then quarantine
    else if record.flags &&& kExitRecordEntryFailure != 0 && exitClass != .GuestState then
      quarantine
    else if exitClass == .Memory && record.flags &&& kExitRecordHostOwned != 0 then quarantine
    else if record.reason == kReasonEptMisconfiguration || record.reason == kReasonMachineCheck then
      ⟨.QuarantineRequired, .FatalHost, 0⟩
    else routeClass record policy exitClass

/-- The decision is written only if the caller passes a buffer for it. -/
def evaluateExit (record : Option ExitRecord) (policy : Option ExitPolicy)
    (physicalAddressBits linearAddressBits : U32) (wanted : Bool) : Bool × Option ExitDecision :=
  if !wanted then (false, none)
  else
    let decision := initializeDecision record
    match record, policy with
    | some record, some policy =>
      if !isExitRecordValid (some record) physicalAddressBits linearAddressBits ||
          !isExitPolicyValid (some policy) linearAddressBits then
        (false, some (setDecision decision ⟨.InvalidParameter, .QuarantineVcpu, 0⟩))
      else (true, some (setDecision decision (routeExit record policy)))
    | _, _ => (false, some (setDecision decision ⟨.InvalidParameter, .QuarantineVcpu, 0⟩))

end Knhv.Exit
