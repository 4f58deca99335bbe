import Knhv.Vmx.Checks
import Knhv.Vmx.Unload

namespace Knhv.Vmx

def kFirstExitProbeLeaf : U32 := 0x13371337
def kFirstExitProbeEbx : U32 := 0xDEADC0DE
def kFirstExitProbeEcx : U32 := 0x00C0FFEE
def kFirstExitProbeEdx : U32 := 0x48564856
def kUserProbeLeaf : U32 := 0x13371337
def kUserProbeSubleaf : U32 := 0x56455249
def kUserProbeSignatureEax : U32 := 0x48565031
def kUserProbeSignatureEdx : U32 := 0x564D5831

def captureFirstExitProbeObservation (reason : U32) (action : ExitAction) (vcpu : VcpuContext) :
    VcpuContext :=
  { vcpu with firstExitProbe := { vcpu.firstExitProbe with
      observedVmExits := vcpu.vmExitCount
      observedVmResumes := vcpu.vmResumeAttempts
      reason := reason
      action := action
      resumeFlags := vcpu.lastVmResumeFlags } }

def setProbeState (state : FirstExitProbeState) (vcpu : VcpuContext) : VcpuContext :=
  { vcpu with firstExitProbe := { vcpu.firstExitProbe with state := state } }

def failFirstExitProbeIfActive (vcpu : VcpuContext) : VcpuContext :=
  if vcpu.firstExitProbe.state = .armed || vcpu.firstExitProbe.state = .vmExitEntered then
    setProbeState .failed
      (captureFirstExitProbeObservation vcpu.last.reasonBasic vcpu.last.action vcpu)
  else
    vcpu

def invalidateValidatedFirstExitProbe (vcpu : VcpuContext) : VcpuContext :=
  if vcpu.firstExitProbe.state = .exitValidated then setProbeState .failed vcpu else vcpu

def failFirstExitProbeAtFatalBoundary (vcpu : VcpuContext) : VcpuContext :=
  invalidateValidatedFirstExitProbe (failFirstExitProbeIfActive vcpu)

def markFirstExitProbeVmExitEntered (reason : U32) (vcpu : VcpuContext) : VcpuContext :=
  if vcpu.firstExitProbe.state = .armed then
    { vcpu with firstExitProbe := { vcpu.firstExitProbe with
        state := .vmExitEntered
        reason := reason } }
  else
    vcpu

/-- The observation of the probe's own exit proves the transaction. The
counters are signed words. -/
def isProbeExitValid (probe : FirstExitProbe) : Bool :=
  (probe.baselineVmExits + 1).sle probe.observedVmExits &&
    probe.baselineVmResumes.sle probe.observedVmResumes &&
    probe.reason = vmExitReasonCpuid && probe.action = .resume && probe.resumeFlags = 0

def completeFirstExitProbe (vcpu : VcpuContext) : VcpuContext :=
  if vcpu.firstExitProbe.state = .vmExitEntered then
    let seen := captureFirstExitProbeObservation vcpu.last.reasonBasic vcpu.last.action vcpu
    setProbeState (if isProbeExitValid seen.firstExitProbe then .exitValidated else .failed) seen
  else
    vcpu

def isVmEntryFailureQualificationDefined (rawReason : U32) : Bool :=
  rawReason &&& 0x80000000 = 0 ||
    rawReason &&& 0xFFFF = vmExitReasonInvalidGuestState ||
    rawReason &&& 0xFFFF = vmExitReasonMsrLoading

/-- The first boundaries stop before an exit action is recorded. -/
def failEarly : StateM ExitState Unit := do
  modifyVcpu failFirstExitProbeAtFatalBoundary
  requestFatalStop

/-- `stop; LastExitAction = kExitActionHalt; FailFirstExitProbeAtFatalBoundary` -/
def failExit (stop : StateM ExitState Unit) : StateM ExitState Unit := do
  stop
  modifyVcpu fun vcpu =>
    failFirstExitProbeAtFatalBoundary { vcpu with last := { vcpu.last with action := .halt } }

/-- The new diagnostic transaction of the exit. -/
def recordExit (rawExitReason : U32) (entryFailure : Bool) (exitLen : U64) : StateM ExitState Unit :=
    do
  let c := (← get).ctx
  let basicExitReason := rawExitReason &&& 0xFFFF
  let isMsrExit := basicExitReason = vmExitReasonRdmsr || basicExitReason = vmExitReasonWrmsr
  modifyVcpu fun vcpu => setVmcsDiagnosticValidity
    (if entryFailure then kValidityExitReason
      else kValidityExitReason ||| kValidityExitInstructionLength)
    { vcpu with
      vmcsDiagnosticValidity := 0
      last := { vcpu.last with
        vmInstructionError := 0
        reason := basicExitReason
        reasonRaw := rawExitReason
        reasonBasic := basicExitReason
        entryFailure := entryFailure
        msrIndex := if isMsrExit then c.rcx.setWidth 32 else 0
        msrValue := if isMsrExit then joinHalves (c.rax.setWidth 32) (c.rdx.setWidth 32) else 0
        instructionLength := if entryFailure then 0 else exitLen } }

/-- A failed VM entry is no guest exit: keep the reason and, where it is
defined, the qualification, and stop. -/
def handleEntryFailure (m : Machine) (rawExitReason : U32) : StateM ExitState Unit := do
  modifyVcpu fun vcpu => { vcpu with lastEventSnapshotValid := false }
  let qualification ←
    if isVmEntryFailureQualificationDefined rawExitReason then vmReadChecked m .exitQualification
    else pure none
  match qualification with
  | some qualification =>
    modifyVcpu fun vcpu => setVmcsDiagnosticValidity kValidityExitQualification
      { vcpu with last := { vcpu.last with qualification := qualification } }
  | none => modifyVcpu (clearVmcsDiagnosticValidity kValidityExitQualification)
  failExit requestFatalStop

def eventFields : List VmcsField :=
  [.controlVmEntryIntrInfoField, .controlVmEntryExceptionErrorCode,
    .controlVmEntryInstructionLength, .vmExitIntrInfo, .vmExitIntrErrorCode,
    .vmExitIdtVectoringInfo, .vmExitIdtVectoringErrorCode, .guestInterruptibilityInfo,
    .guestActivityState, .guestPendingDbgExceptions]

def eventSnapshot (values : VmcsField → U64) : EventSnapshot where
  vmEntryIntrInfo := (values .controlVmEntryIntrInfoField).setWidth 32
  vmEntryIntrError := (values .controlVmEntryExceptionErrorCode).setWidth 32
  vmEntryInstructionLength := (values .controlVmEntryInstructionLength).setWidth 32
  vmExitIntrInfo := (values .vmExitIntrInfo).setWidth 32
  vmExitIntrError := (values .vmExitIntrErrorCode).setWidth 32
  idtVectoringInfo := (values .vmExitIdtVectoringInfo).setWidth 32
  idtVectoringError := (values .vmExitIdtVectoringErrorCode).setWidth 32
  guestInterruptibility := (values .guestInterruptibilityInfo).setWidth 32
  guestActivity := (values .guestActivityState).setWidth 32
  guestPendingDbgExceptions := (values .guestPendingDbgExceptions).setWidth 32

/-- The event image is published as a whole, and only then does the exit
count. -/
def publishEvents (values : VmcsField → U64) : StateM ExitState Unit :=
  modify fun s =>
    let exitCount := s.vcpu.vmExitCount + 1
    let firstExit : U32 := if exitCount = 1 then 1 else 0
    { s with
      vcpu := setVmcsDiagnosticValidity kValidityEventState { s.vcpu with
        lastEvent := eventSnapshot values
        lastEventSnapshotValid := true
        vmExitCount := exitCount }
      launchGuestStarted := s.launchGuestStarted + firstExit
      launchFirstVmExitEntered := s.launchFirstVmExitEntered + firstExit }

/-- Where the synchronised VMCS fields go. -/
def contextFields : List (VmcsField × (U64 → ExitState → ExitState)) :=
  [(.guestRip, fun v s => { s with ctx := { s.ctx with guestRip := v } }),
    (.guestRsp, fun v s => { s with ctx := { s.ctx with guestRsp := v } }),
    (.guestRflags, fun v s => { s with ctx := { s.ctx with rflags := v } }),
    (.guestCsSelector, fun v s => { s with ctx := { s.ctx with guestCs := v } }),
    (.guestSsSelector, fun v s => { s with ctx := { s.ctx with guestSs := v } }),
    (.guestCr3, fun v s => { s with ctx := { s.ctx with guestCr3 := v } }),
    (.guestCr4, fun v s => { s with ctx := { s.ctx with guestCr4 := v } }),
    (.guestCr0, fun v s => { s with ctx := { s.ctx with guestCr0 := v } }),
    (.guestFsBase, fun v s => { s with ctx := { s.ctx with guestFsBase := v } }),
    (.guestGsBase, fun v s => { s with ctx := { s.ctx with guestGsBase := v } }),
    (.guestEfer, fun v s => { s with ctx := { s.ctx with guestEfer := v } }),
    (.guestPat, fun v s => { s with ctx := { s.ctx with guestPat := v } }),
    (.guestSysenterCs, fun v s => { s with ctx := { s.ctx with guestSysenterCs := v } }),
    (.guestSysenterEsp, fun v s => { s with ctx := { s.ctx with guestSysenterEsp := v } }),
    (.guestSysenterEip, fun v s => { s with ctx := { s.ctx with guestSysenterEip := v } }),
    (.guestDr7, fun v s => { s with ctx := { s.ctx with guestDr7 := v } }),
    (.guestDebugctl, fun v s => { s with ctx := { s.ctx with guestDebugctl := v } }),
    (.exitQualification, fun v s => { s with
      vcpu := { s.vcpu with last := { s.vcpu.last with qualification := v } } })]

def cetFields : List (VmcsField × (U64 → ExitState → ExitState)) :=
  [(.guestSCet, fun v s => { s with ctx := { s.ctx with guestSCet := v } }),
    (.guestSsp, fun v s => { s with ctx := { s.ctx with guestSsp := v } }),
    (.guestIntrSspTable, fun v s => { s with ctx := { s.ctx with guestInterruptSspTable := v } })]

/-- CET state is read where the VMCS has it. -/
def enabledCetFields (m : Machine) : List (VmcsField × (U64 → ExitState → ExitState)) :=
  if m.cetVmcsEnabled then cetFields else []

def segmentFields : List VmcsField :=
  [.guestTrSelector, .guestCsArBytes, .guestSsArBytes, .guestTrArBytes]

/-- Copy the synchronised context to the vCPU record. -/
def recordContext (segments : VmcsField → U64) : StateM ExitState Unit :=
  modify fun s => { s with vcpu := { s.vcpu with
    guestDr7 := s.ctx.guestDr7
    guestDebugctl := s.ctx.guestDebugctl
    last := { s.vcpu.last with
      guestCr0 := s.ctx.guestCr0
      guestCr3 := s.ctx.guestCr3
      guestCr4 := s.ctx.guestCr4
      guestCs := s.ctx.guestCs
      guestSs := s.ctx.guestSs
      guestTr := segments .guestTrSelector
      guestCsAr := (segments .guestCsArBytes).setWidth 32
      guestSsAr := (segments .guestSsArBytes).setWidth 32
      guestTrAr := (segments .guestTrArBytes).setWidth 32
      guestDr7 := s.ctx.guestDr7
      guestDebugctl := s.ctx.guestDebugctl
      guestEfer := s.ctx.guestEfer
      guestPat := s.ctx.guestPat
      guestRip := s.ctx.guestRip
      guestRsp := s.ctx.guestRsp
      rflags := s.ctx.rflags } } }

def recordExtendedState : StateM ExitState Unit :=
  modify fun s => { s with vcpu := setVmcsDiagnosticValidity kValidityGuestState { s.vcpu with
    guestXcr0 := s.ctx.guestXcr0
    last := { s.vcpu.last with
      guestXcr0 := s.ctx.guestXcr0
      guestXss := s.ctx.guestXss
      guestSCet := s.ctx.guestSCet
      guestSsp := s.ctx.guestSsp
      guestInterruptSspTable := s.ctx.guestInterruptSspTable } } }

/-- Keep the vCPU's copy of the GS pair at the guest's. -/
def recordGsPair : StateM ExitState Unit :=
  modify fun s => { s with vcpu := { s.vcpu with
    guestGsBase := s.ctx.guestGsBase
    guestKernelGsBase := s.ctx.guestKernelGsBase } }

/-- Synchronise the context with the VMCS. The answer is false where the exit
has been stopped. -/
def syncContext (m : Machine) : StateM ExitState Bool := do
  if !(← readInto m contextFields) then
    failExit haltVm
    return false
  modifyVcpu (setVmcsDiagnosticValidity kValidityExitQualification)
  match ← readLocals m segmentFields with
  | none =>
    failExit haltVm
    return false
  | some segments =>
    recordContext segments
    if !(← readInto m (enabledCetFields m)) then
      failExit haltVm
      return false
    recordExtendedState
    let guestXss := (← get).ctx.guestXss
    if m.xsavesEnabled && guestXss &&& ~~~m.xsavesMask ≠ 0 then
      failExit haltVm
      return false
    if m.xsavesEnabled then
      modifyVcpu fun vcpu => { vcpu with guestXss := guestXss }
    recordGsPair
    return true

def requiresRipAdvance (exitReason : U32) : Bool :=
  exitReason = vmExitReasonCpuid || exitReason = vmExitReasonVmcall ||
    exitReason = vmExitReasonRdmsr || exitReason = vmExitReasonWrmsr ||
    exitReason = vmExitReasonCrAccess || exitReason = vmExitReasonXsetbv

def setCpuidResult (regs : CpuidRegs) : StateM ExitState Unit :=
  modifyCtx fun c => { c with
    rax := regs.eax.setWidth 64
    rbx := regs.ebx.setWidth 64
    rcx := regs.ecx.setWidth 64
    rdx := regs.edx.setWidth 64 }

def handleCpuid (m : Machine) : StateM ExitState Bool := do
  let s ← get
  let leaf : U32 := s.ctx.rax.setWidth 32
  let subleaf : U32 := s.ctx.rcx.setWidth 32
  if leaf = kUserProbeLeaf && subleaf = kUserProbeSubleaf then
    setCpuidResult ⟨kUserProbeSignatureEax, BitVec.ofNat 32 m.cpuId, s.vcpu.vmExitCount,
      kUserProbeSignatureEdx⟩
  else
    let firstExitProbeRequest := leaf = kFirstExitProbeLeaf && subleaf = 0
    if firstExitProbeRequest then
      modifyVcpu (markFirstExitProbeVmExitEntered vmExitReasonCpuid)
    let probeState := (← get).vcpu.firstExitProbe.state
    if firstExitProbeRequest && (probeState = .armed || probeState = .vmExitEntered) then
      setCpuidResult ⟨kFirstExitProbeLeaf, kFirstExitProbeEbx, kFirstExitProbeEcx,
        kFirstExitProbeEdx⟩
    else
      setCpuidResult (m.cpuidex leaf subleaf)
  return true

/-- Instructions that exit unconditionally and are not emulated. -/
def unsupportedInstructions : List U32 :=
  [vmExitReasonGetsec, vmExitReasonInvd, vmExitReasonInvept, vmExitReasonInvvpid,
    vmExitReasonVmclear, vmExitReasonVmlaunch, vmExitReasonVmptrld, vmExitReasonVmptrst,
    vmExitReasonVmread, vmExitReasonVmwrite, vmExitReasonVmresume, vmExitReasonVmxoff,
    vmExitReasonVmxon]

/-- The switch over the exit reason. RDPMC, RDTSC, XSAVES, XRSTORS, external
interrupts, triple faults, invalid guest state, exceptions and every reason
without a case end in the same stop. -/
def dispatchExit (m : Machine) (exitReason : U32) : StateM ExitState Bool :=
  if exitReason = vmExitReasonCpuid then handleCpuid m
  else if exitReason = vmExitReasonVmcall then handleVmCall m
  else if exitReason = vmExitReasonRdmsr then handleMsrRead m
  else if exitReason = vmExitReasonWrmsr then handleMsrWrite m
  else if exitReason = vmExitReasonCrAccess then handleCrAccess m
  else if unsupportedInstructions.contains exitReason then refuseUndefined m
  else if exitReason = vmExitReasonXsetbv then handleXsetbv m
  else stopVm

def setGuestRip (nextRip : U64) : StateM ExitState Unit :=
  modifyCtx fun c => { c with guestRip := nextRip }

/-- Move RIP behind the instruction. The answer is false where the exit has
been stopped. -/
def advanceGuestRip (m : Machine) (exitLen : U64) : StateM ExitState Bool := do
  let guestRip := (← get).ctx.guestRip
  if exitLen ≠ 0 && isCanonical m guestRip then
    let nextRip := guestRip + exitLen
    if !isCanonical m nextRip || nextRip < guestRip then
      failExit requestFatalStop
      return false
    setGuestRip nextRip
    if !(← vmWriteChecked m .guestRip nextRip) then
      failExit requestFatalStop
      return false
  return true

def exitAction (c : GuestContext) (advanceRip : Bool) : ExitAction :=
  if c.haltVm then .halt
  else if c.abortVm then .abort
  else if advanceRip then .resume
  else .inject

/-- The last gate before the assembly resumes, unloads or parks. -/
def finishExit (m : Machine) (advanceRip : Bool) : StateM ExitState Unit := do
  let vcpu := (← get).vcpu
  if m.hasVcpu && (vcpu.vmcsWrite.failed || vcpu.vmcsRead.failed) then
    requestFatalStop
  let c := (← get).ctx
  modifyVcpu fun vcpu => { vcpu with last := { vcpu.last with action := exitAction c advanceRip } }
  if shouldInjectFault m m.cpuId .beforeVmresume || shouldInjectFault m m.cpuId .vmresumeFailure then
    requestFatalStop
    modifyVcpu fun vcpu => { vcpu with last := { vcpu.last with action := .halt } }
  let c := (← get).ctx
  if c.haltVm || c.abortVm then
    modifyVcpu failFirstExitProbeAtFatalBoundary
  modifyVcpu completeFirstExitProbe
  if !c.haltVm && !c.abortVm then
    modifyVcpu fun vcpu => { vcpu with vmResumeAttempts := vcpu.vmResumeAttempts + 1 }

/-- From the synchronised context to the end of the exit. -/
def emulateExit (m : Machine) (exitReason : U32) (exitLen : U64) : StateM ExitState Unit := do
  let advanceRip ← dispatchExit m exitReason
  let c := (← get).ctx
  if !c.haltVm then
    recordGsPair
  let advanceRip := advanceRip && !(c.abortVm && exitReason ≠ vmExitReasonVmcall)
  if advanceRip then
    if !(← advanceGuestRip m exitLen) then
      return
  finishExit m advanceRip

/-- The event of the last entry, taken out. -/
def clearedEvent : List (VmcsField × U64) :=
  [(.controlVmEntryIntrInfoField, 0), (.controlVmEntryExceptionErrorCode, 0),
    (.controlVmEntryInstructionLength, 0)]

/-- A synchronised exit whose instruction would be skipped needs a length of 1 to
15 and a canonical RIP. -/
def runSynced (m : Machine) (exitReason : U32) (exitLen : U64) : StateM ExitState Unit := do
  if shouldInjectFault m m.cpuId .lateVmEntry || shouldInjectFault m m.cpuId .firstVmexit then
    failExit requestFatalStop
    return
  if requiresRipAdvance exitReason &&
      (exitLen = 0 || 15 < exitLen || !isCanonical m (← get).ctx.guestRip) then
    failExit requestFatalStop
    return
  emulateExit m exitReason exitLen

/-- An event that was being delivered stops the exit: there is no queue to keep
it in. The event of the last entry is cleared, so that it cannot be delivered
again. -/
def settleEvents (m : Machine) (idtVectoringInfo : U64) (exitReason : U32) (exitLen : U64) :
    StateM ExitState Unit := do
  if idtVectoringInfo &&& kVmEntryIntrInfoValid.setWidth 64 ≠ 0 then
    failExit requestFatalStop
  else if !(← writeAll m clearedEvent) then
    failExit requestFatalStop
  else if ← syncContext m then
    runSynced m exitReason exitLen

/-- An exit of the running guest. -/
def handleGuestExit (m : Machine) (exitReason : U32) (exitLen : U64) : StateM ExitState Unit := do
  modifyVcpu fun vcpu => { vcpu with lastEventSnapshotValid := false }
  match ← readEach m eventFields with
  | none => failExit requestFatalStop
  | some events =>
    publishEvents events
    settleEvents m (events .vmExitIdtVectoringInfo) exitReason exitLen

/-- CR2 and the native IDT, before anything else can fault. -/
def captureEntry (m : Machine) : StateM ExitState Unit :=
  modify fun s => { s with
    ctx := { s.ctx with
      nativeIdtBase := s.vcpu.host.idtBase
      nativeIdtLimit := s.vcpu.host.idtLimit }
    vcpu := { s.vcpu with last := { s.vcpu.last with guestCr2 := m.readCr2 } } }

def vmExitHandler (m : Machine) : StateM ExitState Unit := do
  if !m.hasVcpu then
    requestFatalStop
    return
  captureEntry m
  if (← get).vcpu.fatalSnapshotCommitState ≠ .empty then
    failEarly
    return
  let some rawReasonValue ← vmReadChecked m .vmExitReason
    | failEarly
  let rawExitReason : U32 := rawReasonValue.setWidth 32
  if rawExitReason &&& 0x80000000 ≠ 0 then
    recordExit rawExitReason true 0
    handleEntryFailure m rawExitReason
  else
    let some exitLen ← vmReadChecked m .vmExitInstructionLen
      | failEarly
    recordExit rawExitReason false exitLen
    handleGuestExit m (rawExitReason &&& 0xFFFF) exitLen

end Knhv.Vmx
