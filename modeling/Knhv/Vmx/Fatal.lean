import Knhv.Lib.Run
import Knhv.Vmx.Exit

namespace Knhv.Vmx

def kValidityVmInstructionError : U64 := bit 5

def kTransientSnapshotValidity : U64 :=
  kValidityExitReason ||| kValidityExitQualification ||| kValidityExitInstructionLength |||
    kValidityEventState ||| kValidityGuestState

/-- `if (VmReadChecked(field, &value)) vcpu->.. = value;` for every field. -/
def readAvailable (m : Machine) :
    List (VmcsField × (U64 → VcpuContext → VcpuContext)) → StateM ExitState Unit
  | [] => pure ()
  | (field, store) :: rest => do
    if let some value ← vmReadChecked m field then
      modifyVcpu (store value)
    readAvailable m rest

/-- `vcpu->Last.. = value` for the diagnostics of the exit. -/
def storeLast (f : U64 → LastExit → LastExit) (value : U64) (vcpu : VcpuContext) : VcpuContext :=
  { vcpu with last := f value vcpu.last }

/-- The same for its event image, whose words have 32 bits. -/
def storeEvent (f : U32 → EventSnapshot → EventSnapshot) (value : U64) (vcpu : VcpuContext) :
    VcpuContext :=
  { vcpu with lastEvent := f (value.setWidth 32) vcpu.lastEvent }

def fatalRegisters : List (VmcsField × (U64 → VcpuContext → VcpuContext)) :=
  [(.guestRip, storeLast fun v last => { last with guestRip := v }),
    (.guestRsp, storeLast fun v last => { last with guestRsp := v }),
    (.guestRflags, storeLast fun v last => { last with rflags := v }),
    (.guestCr0, storeLast fun v last => { last with guestCr0 := v }),
    (.guestCr3, storeLast fun v last => { last with guestCr3 := v }),
    (.guestCr4, storeLast fun v last => { last with guestCr4 := v })]

def fatalEvents : List (VmcsField × (U64 → VcpuContext → VcpuContext)) :=
  [(.guestInterruptibilityInfo, storeEvent fun v event => { event with guestInterruptibility := v }),
    (.guestActivityState, storeEvent fun v event => { event with guestActivity := v }),
    (.controlVmEntryIntrInfoField, storeEvent fun v event => { event with vmEntryIntrInfo := v }),
    (.controlVmEntryExceptionErrorCode,
      storeEvent fun v event => { event with vmEntryIntrError := v }),
    (.controlVmEntryInstructionLength,
      storeEvent fun v event => { event with vmEntryInstructionLength := v }),
    (.vmExitIntrInfo, storeEvent fun v event => { event with vmExitIntrInfo := v }),
    (.vmExitIntrErrorCode, storeEvent fun v event => { event with vmExitIntrError := v }),
    (.vmExitIdtVectoringInfo, storeEvent fun v event => { event with idtVectoringInfo := v }),
    (.vmExitIdtVectoringErrorCode,
      storeEvent fun v event => { event with idtVectoringError := v })]

def fatalMsrs : List (VmcsField × (U64 → VcpuContext → VcpuContext)) :=
  [(.guestEfer, storeLast fun v last => { last with guestEfer := v }),
    (.guestPat, storeLast fun v last => { last with guestPat := v }),
    (.guestDebugctl, storeLast fun v last => { last with guestDebugctl := v })]

def fatalCet : List (VmcsField × (U64 → VcpuContext → VcpuContext)) :=
  [(.guestSCet, storeLast fun v last => { last with guestSCet := v }),
    (.guestSsp, storeLast fun v last => { last with guestSsp := v }),
    (.guestIntrSspTable, storeLast fun v last => { last with guestInterruptSspTable := v })]

def fatalFields (m : Machine) : List (VmcsField × (U64 → VcpuContext → VcpuContext)) :=
  fatalRegisters ++ fatalEvents ++ fatalMsrs ++ if m.cetVmcsEnabled then fatalCet else []

/-- VMRESUME returns in root mode without a new VM-exit record: the exit fields
are those of the exit before. -/
def isResumeFailureBoundary (vcpu : VcpuContext) : Bool := vcpu.lastVmResumeFlags ≠ 0

/-- The evidence that stays. At a failed entry it is the immediate instruction
error alone. -/
def preservedValidity (vcpu : VcpuContext) : U64 :=
  if isResumeFailureBoundary vcpu || vcpu.last.entryFailure then
    vcpu.vmcsDiagnosticValidity &&& kValidityVmInstructionError
  else
    vcpu.vmcsDiagnosticValidity &&& ~~~kTransientSnapshotValidity

def beginFatalSnapshot (vcpu : VcpuContext) : VcpuContext :=
  let preserved := preservedValidity vcpu
  { vcpu with
    fatalSnapshotCommitState := .writing
    vmcsDiagnosticValidity := preserved
    last := { vcpu.last with
      vmInstructionError :=
        if preserved &&& kValidityVmInstructionError = 0 then 0 else vcpu.last.vmInstructionError } }

def isEntryFailureReason (rawReason : U32) : Bool := rawReason &&& 0x80000000 ≠ 0

/-- The reason that has just been read. The instruction error belongs to a
failed entry, not to an ordinary exit. -/
def recordFatalReason (rawReason : U32) (c : GuestContext) (vcpu : VcpuContext) : VcpuContext :=
  let basic := rawReason &&& 0xFFFF
  let isMsrExit := basic = vmExitReasonRdmsr || basic = vmExitReasonWrmsr
  let cleared :=
    if isEntryFailureReason rawReason then vcpu
    else clearVmcsDiagnosticValidity kValidityVmInstructionError vcpu
  setVmcsDiagnosticValidity kValidityExitReason { cleared with
    last := { vcpu.last with
      reasonRaw := rawReason
      reasonBasic := basic
      entryFailure := isEntryFailureReason rawReason
      msrIndex := if isMsrExit then c.rcx.setWidth 32 else vcpu.last.msrIndex
      msrValue := if isMsrExit then joinHalves (c.rax.setWidth 32) (c.rdx.setWidth 32)
        else vcpu.last.msrValue } }

/-- Without a reason nothing about the exit is known. -/
def forgetFatalReason (vcpu : VcpuContext) : VcpuContext :=
  clearVmcsDiagnosticValidity kTransientSnapshotValidity
    { vcpu with last := { vcpu.last with entryFailure := false } }

def recordFatalQualification (value : U64) (vcpu : VcpuContext) : VcpuContext :=
  setVmcsDiagnosticValidity kValidityExitQualification
    { vcpu with last := { vcpu.last with qualification := value } }

/-- The raw exit reason of this boundary, if there is one and it can be read. -/
def captureFatalReason (m : Machine) (resumeFailureBoundary : Bool) :
    StateM ExitState (Option U32) := do
  let value ← if resumeFailureBoundary then pure none else vmReadChecked m .vmExitReason
  match value with
  | some value =>
    let c := (← get).ctx
    modifyVcpu (recordFatalReason (value.setWidth 32) c)
    return some (value.setWidth 32)
  | none =>
    modifyVcpu forgetFatalReason
    return none

def captureFatalQualification (m : Machine) (reason : Option U32) : StateM ExitState Unit := do
  let value ←
    if reason.any isVmEntryFailureQualificationDefined then vmReadChecked m .exitQualification
    else pure none
  match value with
  | some value => modifyVcpu (recordFatalQualification value)
  | none => modifyVcpu (clearVmcsDiagnosticValidity kValidityExitQualification)

/-- Guest state and events, at an ordinary exit only: the others leave these
fields of the VMCS as they were. -/
def captureFatalGuest (m : Machine) (reason : Option U32) : StateM ExitState Unit :=
  if reason.all isEntryFailureReason then
    modifyVcpu fun vcpu => { vcpu with lastEventSnapshotValid := false }
  else do
    readAvailable m (fatalFields m)
    modify fun s => { s with vcpu := { s.vcpu with last := { s.vcpu.last with
      guestXcr0 := s.ctx.guestXcr0
      guestXss := s.ctx.guestXss } } }

def hvCaptureFatalSnapshotPreVmxoff (m : Machine) : StateM ExitState Unit := do
  let vcpu := (← get).vcpu
  if !m.hasVcpu || vcpu.fatalSnapshotCommitState ≠ .empty then
    return
  modifyVcpu beginFatalSnapshot
  let reason ← captureFatalReason m (isResumeFailureBoundary vcpu)
  captureFatalQualification m reason
  captureFatalGuest m reason
  modifyVcpu fun vcpu => { vcpu with fatalSnapshotCommitState := .committed }

def beginResumeFailure (resumeFlags : U64) (vcpu : VcpuContext) : VcpuContext :=
  clearVmcsDiagnosticValidity kValidityVmInstructionError { vcpu with
    lastVmResumeFlags := resumeFlags
    last := { vcpu.last with vmInstructionError := 0 } }

/-- The immediate error of a VMRESUME that failed. It is defined for VMfailValid
only. -/
def readResumeError (m : Machine) (resumeFlags : U64) : StateM ExitState Unit := do
  if resumeFlags &&& bit 6 ≠ 0 then
    if let some error ← vmReadChecked m .vmInstructionError then
      modifyVcpu fun vcpu => setVmcsDiagnosticValidity kValidityVmInstructionError
        { vcpu with last := { vcpu.last with vmInstructionError := error } }

def haltAtResumeFailure (vcpu : VcpuContext) : VcpuContext :=
  failFirstExitProbeAtFatalBoundary { vcpu with last := { vcpu.last with action := .halt } }

def handleVmResumeFailure (m : Machine) (resumeFlags : U64) : StateM ExitState Unit := do
  if m.hasVcpu then
    modifyVcpu (beginResumeFailure resumeFlags)
    readResumeError m resumeFlags
    modifyVcpu haltAtResumeFailure
  requestFatalStop
  hvCaptureFatalSnapshotPreVmxoff m

/-- What the bugcheck shows. -/
structure BugCheckParameters where
  cpu : Nat
  reason : U64
  rip : U64
  rsp : U64
  deriving DecidableEq

def hvFatalBugCheck (m : Machine) (vcpu : VcpuContext) : BugCheckParameters where
  cpu := m.cpuId
  reason :=
    if m.hasVcpu && vcpu.vmcsDiagnosticValidity &&& kValidityExitReason ≠ 0 then
      vcpu.last.reasonRaw.setWidth 64
    else 0
  rip :=
    if m.hasVcpu && vcpu.vmcsDiagnosticValidity &&& kValidityGuestState ≠ 0 then
      vcpu.last.guestRip
    else 0
  rsp :=
    if m.hasVcpu && vcpu.vmcsDiagnosticValidity &&& kValidityGuestState ≠ 0 then
      vcpu.last.guestRsp
    else 0

/-- PrepareHvCallback starts the probe of its processor anew. -/
def resetFirstExitProbe (vcpu : VcpuContext) : VcpuContext :=
  { vcpu with
    firstExitProbe := ⟨.idle, 0, 0, 0, 0, 0, .none, 0⟩
    lastVmResumeFlags := 0 }

def armFirstExitProbe (vcpu : VcpuContext) : Bool × VcpuContext :=
  if vcpu.firstExitProbe.state ≠ .idle then
    (false, vcpu)
  else if vcpu.lastVmResumeFlags ≠ 0 then
    (false, setProbeState .failed vcpu)
  else
    (true, { vcpu with firstExitProbe := ⟨.armed, vcpu.vmExitCount, vcpu.vmResumeAttempts, 0, 0, 0,
      .none, 0⟩ })

def isMagicTuple (regs : CpuidRegs) : Bool :=
  regs.eax = kFirstExitProbeLeaf && regs.ebx = kFirstExitProbeEbx &&
    regs.ecx = kFirstExitProbeEcx && regs.edx = kFirstExitProbeEdx

/-- The checks behind the sentinel CPUID. The observation is that of the exit. -/
def isProbeReturnValid (regs : CpuidRegs) (vcpu : VcpuContext) : Bool :=
  let probe := vcpu.firstExitProbe
  probe.state = .exitValidated && isMagicTuple regs && isProbeExitValid probe &&
    (probe.baselineVmExits + 1).sle vcpu.vmExitCount &&
    (probe.baselineVmResumes + 1).sle vcpu.vmResumeAttempts

def verifyFirstExitProbeReturn (regs : CpuidRegs) (vcpu : VcpuContext) : Bool × VcpuContext :=
  if isProbeReturnValid regs vcpu then
    (true, setProbeState .returned vcpu)
  else
    (false, failFirstExitProbeAtFatalBoundary vcpu)

/-- What happens to the probe of a processor that has its record: the launch
resets it, `RunFirstExitProbe` arms and verifies it, and in between the guest
exits with any context and VMCS, or a VMRESUME fails. Everything else leaves the
probe alone. -/
inductive ProbeEvent
  | prepare
  | arm
  | exit (m : Machine) (owned : m.hasVcpu = true) (s : ExitState)
  | resumeFailure (m : Machine) (owned : m.hasVcpu = true) (s : ExitState) (resumeFlags : U64)
  | verify (regs : CpuidRegs)
  | other (f : VcpuContext → VcpuContext)
      (still : ∀ vcpu, (f vcpu).firstExitProbe = vcpu.firstExitProbe)

/-- The state of an exit that finds the record as it is. -/
def ExitState.on (s : ExitState) (vcpu : VcpuContext) : ExitState := { s with vcpu := vcpu }

def probeStep (vcpu : VcpuContext) : ProbeEvent → VcpuContext
  | .prepare => resetFirstExitProbe vcpu
  | .arm => (armFirstExitProbe vcpu).2
  | .exit m _ s => (vmExitHandler m (s.on vcpu)).2.vcpu
  | .resumeFailure m _ s resumeFlags => (handleVmResumeFailure m resumeFlags (s.on vcpu)).2.vcpu
  | .verify regs => (verifyFirstExitProbeReturn regs vcpu).2
  | .other f _ => f vcpu

/-- A mover that the exit path calls. -/
inductive ExitMove : VcpuContext → VcpuContext → Prop
  | mark (reason : U32) (vcpu : VcpuContext) :
      ExitMove vcpu (markFirstExitProbeVmExitEntered reason vcpu)
  | complete (vcpu : VcpuContext) : ExitMove vcpu (completeFirstExitProbe vcpu)
  | fail (vcpu : VcpuContext) : ExitMove vcpu (failFirstExitProbeAtFatalBoundary vcpu)

/-- The state that a step writes, if it changes it. -/
def written (before after : VcpuContext) : List FirstExitProbeState :=
  if after.firstExitProbe.state = before.firstExitProbe.state then []
  else [after.firstExitProbe.state]

/-- From one record to another by calls of the movers, between which the probe
stays as it is, with the states that they write. -/
inductive ExitPath : VcpuContext → List FirstExitProbeState → VcpuContext → Prop
  | still {before after : VcpuContext} (same : after.firstExitProbe = before.firstExitProbe) :
      ExitPath before [] after
  | move {before after : VcpuContext} (call : ExitMove before after) :
      ExitPath before (written before after) after
  | trans {first second third : VcpuContext} {early late : List FirstExitProbeState}
      (before : ExitPath first early second) (after : ExitPath second late third) :
      ExitPath first (early ++ late) third

/-- The states that an event writes. -/
def EventWrites (vcpu : VcpuContext) (event : ProbeEvent) (states : List FirstExitProbeState) :
    Prop :=
  match event with
  | .exit .. | .resumeFailure .. => ExitPath vcpu states (probeStep vcpu event)
  | _ => states = written vcpu (probeStep vcpu event)

/-- The states that the events of a run write, in order. -/
inductive RunWrites : VcpuContext → List ProbeEvent → List FirstExitProbeState → Prop
  | nil (vcpu : VcpuContext) : RunWrites vcpu [] []
  | cons {vcpu : VcpuContext} {event : ProbeEvent} {events : List ProbeEvent}
      {early late : List FirstExitProbeState} (first : EventWrites vcpu event early)
      (rest : RunWrites (probeStep vcpu event) events late) :
      RunWrites vcpu (event :: events) (early ++ late)

end Knhv.Vmx
