import Knhv.Vmx.Emulation
import Knhv.Lib.Masks

namespace Knhv.Vmx

def hypervisorMagic : U64 := 0x13371337
def vmcallUnload : U64 := 0xDEADBEEF

def kRejectNone : U32 := 0
def kRejectSelector : U32 := 1#32 <<< 0
def kRejectCsSsLimitAr : U32 := 1#32 <<< 1
def kRejectGdt : U32 := 1#32 <<< 2
def kRejectIdt : U32 := 1#32 <<< 3
def kRejectTr : U32 := 1#32 <<< 4
def kRejectVmEntryEvent : U32 := 1#32 <<< 5
def kRejectExitEvent : U32 := 1#32 <<< 6
def kRejectIdtVectoring : U32 := 1#32 <<< 7
def kRejectActivity : U32 := 1#32 <<< 8
def kRejectInterruptibility : U32 := 1#32 <<< 9
def kRejectPendingDebug : U32 := 1#32 <<< 10
def kRejectGuestState : U32 := 1#32 <<< 11
def kRejectCpl : U32 := 1#32 <<< 12
def kRejectParameters : U32 := 1#32 <<< 13
def kRejectVmcsRead : U32 := 1#32 <<< 14
def kRejectDescriptorContract : U32 := 1#32 <<< 15

def kDescriptorRejectBits : U32 :=
  kRejectSelector ||| kRejectCsSsLimitAr ||| kRejectGdt ||| kRejectIdt ||| kRejectTr |||
    kRejectVmcsRead

def kFatalTeardownRejectBits : U32 :=
  kRejectVmcsRead ||| kRejectGuestState ||| kRejectCpl ||| kRejectParameters

def packSegmentSelectors (first second third fourth : U16) : U64 :=
  first.setWidth 64 ||| second.setWidth 64 <<< 16 ||| third.setWidth 64 <<< 32 |||
    fourth.setWidth 64 <<< 48

def isNativeTeardownSegmentValid (m : Machine) (gdtBase : U64) (gdtLimit : U16)
    (selector limit ar : U64) (requireCode requireWritableData : Bool) : Bool :=
  if 0xFFFF < selector || 0xFFFFFFFF < limit || 0xFFFFFFFF < ar then false else
  let selector16 := selector.setWidth 16
  if selector16 = 0 then
    !requireCode && requireWritableData && limit = 0 && ar = 0x10000
  else
    isGdtSelectorUsable m gdtBase gdtLimit selector16 false false requireCode true
        requireWritableData &&
      m.getSegmentLimit selector16 = limit.setWidth 32 && m.getSegmentAr selector16 = ar.setWidth 32

def guestDescriptorFields : List VmcsField :=
  [.guestCsSelector, .guestSsSelector, .guestDsSelector, .guestEsSelector, .guestFsSelector,
    .guestGsSelector, .guestLdtrSelector, .guestTrSelector, .guestCsLimit, .guestSsLimit,
    .guestCsArBytes, .guestSsArBytes, .guestGdtrBase, .guestGdtrLimit, .guestIdtrBase,
    .guestIdtrLimit, .guestTrBase, .guestTrLimit, .guestTrArBytes]

def kSsSelectorMask : U64 := 0xFFFF <<< 16

def isGdtSame (host : HostState) (guest : VmcsField → U64) : Bool :=
  guest .guestGdtrBase = host.gdtBase && guest .guestGdtrLimit = host.gdtLimit

/-- CS and SS are judged against the shared GDT; with another GDT the judgement
is left to the GDT comparison. -/
def isGuestSegmentsSafe (m : Machine) (host : HostState) (guest : VmcsField → U64) : Bool :=
  !isGdtSame host guest ||
    (isNativeTeardownSegmentValid m host.gdtBase (host.gdtLimit.setWidth 16)
        (guest .guestCsSelector) (guest .guestCsLimit) (guest .guestCsArBytes) true false &&
      isNativeTeardownSegmentValid m host.gdtBase (host.gdtLimit.setWidth 16)
        (guest .guestSsSelector) (guest .guestSsLimit) (guest .guestSsArBytes) false true)

def isNonSsSelectorsSame (host : HostState) (guest : VmcsField → U64) : Bool :=
  let selector (field : VmcsField) : U16 := (guest field).setWidth 16
  let low := packSegmentSelectors (selector .guestCsSelector) (selector .guestSsSelector)
    (selector .guestDsSelector) (selector .guestEsSelector)
  let high := packSegmentSelectors (selector .guestFsSelector) (selector .guestGsSelector)
    (selector .guestLdtrSelector) (selector .guestTrSelector)
  guest .guestCsSelector ≤ 0xFFFF && guest .guestSsSelector ≤ 0xFFFF &&
    guest .guestDsSelector ≤ 0xFFFF && guest .guestEsSelector ≤ 0xFFFF &&
    guest .guestFsSelector ≤ 0xFFFF && guest .guestGsSelector ≤ 0xFFFF &&
    guest .guestLdtrSelector ≤ 0xFFFF && guest .guestTrSelector ≤ 0xFFFF &&
    low &&& ~~~kSsSelectorMask = host.segmentSelectorsLow &&& ~~~kSsSelectorMask &&
    high = host.segmentSelectorsHigh

def isSelectorsSame (m : Machine) (host : HostState) (guest : VmcsField → U64) : Bool :=
  isNonSsSelectorsSame host guest && isGuestSegmentsSafe m host guest

def isCsSsSame (m : Machine) (host : HostState) (guest : VmcsField → U64) : Bool :=
  guest .guestCsLimit = host.csLimit && guest .guestCsArBytes = host.csAr &&
    isGuestSegmentsSafe m host guest

def isIdtSame (host : HostState) (guest : VmcsField → U64) : Bool :=
  guest .guestIdtrBase = host.idtBase && guest .guestIdtrLimit = host.idtLimit

def isTrSame (host : HostState) (guest : VmcsField → U64) : Bool :=
  guest .guestTrBase = host.trBase && guest .guestTrLimit = host.trLimit &&
    guest .guestTrArBytes = host.trAr

def descriptorRejectMask (m : Machine) (host : HostState) (guest : VmcsField → U64) : U32 :=
  Masks.gather [
    (!isSelectorsSame m host guest, kRejectSelector),
    (!isCsSsSame m host guest, kRejectCsSsLimitAr),
    (!isGdtSame host guest, kRejectGdt),
    (!isIdtSame host guest, kRejectIdt),
    (!isTrSame host guest, kRejectTr)]

def isDescriptorContractSame (m : Machine) (host : HostState) (guest : VmcsField → U64) : Bool :=
  isSelectorsSame m host guest && isCsSsSame m host guest && isGdtSame host guest &&
    isIdtSame host guest && isTrSame host guest

def recordTeardownContract (rejectMask : U32) (safe : Bool) (vcpu : VcpuContext) : VcpuContext :=
  { vcpu with nativeTeardownRejectMask := rejectMask, nativeTeardownSafe := safe }

def updateNativeTeardownContract (m : Machine) : StateM ExitState Bool := do
  if !m.hasVcpu then
    return false
  else
    match ← readLocals m guestDescriptorFields with
    | none =>
      modifyVcpu (recordTeardownContract kRejectVmcsRead false)
      return false
    | some guest =>
      let host := (← get).vcpu.host
      let same := isDescriptorContractSame m host guest
      modifyVcpu (recordTeardownContract (descriptorRejectMask m host guest) same)
      return same

def isAuthenticatedUnload (c : GuestContext) (exitReason : U32) : Bool :=
  exitReason = vmExitReasonVmcall && c.guestCs &&& 3 = 0 && c.rcx = hypervisorMagic && c.rdx = vmcallUnload

def eventRejectMask (event : EventSnapshot) : U32 :=
  Masks.gather [
    (event.vmEntryIntrInfo &&& kVmEntryIntrInfoValid ≠ 0, kRejectVmEntryEvent),
    (event.vmExitIntrInfo &&& kVmEntryIntrInfoValid ≠ 0, kRejectExitEvent),
    (event.idtVectoringInfo &&& kVmEntryIntrInfoValid ≠ 0, kRejectIdtVectoring),
    (event.guestActivity ≠ 0, kRejectActivity),
    (event.guestInterruptibility ≠ 0, kRejectInterruptibility),
    (event.guestPendingDbgExceptions ≠ 0, kRejectPendingDebug)]

def noPendingEvent (event : EventSnapshot) : Bool :=
  event.vmEntryIntrInfo &&& kVmEntryIntrInfoValid = 0 &&
    event.vmExitIntrInfo &&& kVmEntryIntrInfoValid = 0 &&
    event.idtVectoringInfo &&& kVmEntryIntrInfoValid = 0 &&
    event.guestInterruptibility = 0 && event.guestActivity = 0 &&
    event.guestPendingDbgExceptions = 0

/-- The reject mask before the descriptor and guest-state verdicts. -/
def callRejectMask (m : Machine) (s : ExitState) (exitReason : U32) : U32 :=
  (if m.hasVcpu then s.vcpu.nativeTeardownRejectMask else kRejectNone) |||
    (if m.hasVcpu && s.vcpu.lastEventSnapshotValid then eventRejectMask s.vcpu.lastEvent
      else kRejectVmcsRead) |||
    Masks.gather [
      (exitReason ≠ vmExitReasonVmcall, kRejectParameters),
      (s.ctx.guestCs &&& 3 ≠ 0, kRejectCpl),
      (s.ctx.rcx ≠ hypervisorMagic || s.ctx.rdx ≠ vmcallUnload, kRejectParameters)]

def teardownRejectMask (m : Machine) (s : ExitState) (exitReason : U32) : U32 :=
  let mask := callRejectMask m s exitReason
  let safe := m.hasVcpu && s.vcpu.nativeTeardownSafe
  mask ||| Masks.gather [
    (!safe && mask &&& kDescriptorRejectBits = 0, kRejectDescriptorContract),
    (!isValidGuestState m s.ctx, kRejectGuestState)]

/-- The flags of the answer: unload, park on a fatal rejection, or resume so
that the caller can try again. -/
def unloadFlags (m : Machine) (authenticatedUnload : Bool) (exitReason : U32) (s : ExitState) :
    GuestContext :=
  if authenticatedUnload && (m.hasVcpu && s.vcpu.nativeTeardownSafe) &&
      (m.hasVcpu && s.vcpu.lastEventSnapshotValid && noPendingEvent s.vcpu.lastEvent) &&
      isValidGuestState m s.ctx then
    { s.ctx with abortVm := true, haltVm := false }
  else if authenticatedUnload then
    { s.ctx with
      abortVm := false
      haltVm := teardownRejectMask m s exitReason &&& kFatalTeardownRejectBits ≠ 0 }
  else
    { s.ctx with abortVm := false, haltVm := true }

def answerUnload (m : Machine) (authenticatedUnload : Bool) (exitReason : U32) (s : ExitState) :
    ExitState :=
  { s with
    ctx := unloadFlags m authenticatedUnload exitReason s
    vcpu := if m.hasVcpu then
        { s.vcpu with nativeTeardownRejectMask := teardownRejectMask m s exitReason }
      else
        s.vcpu }

def requestAuthenticatedUnload (m : Machine) (exitReason : U32) : StateM ExitState Unit := do
  let authenticatedUnload := isAuthenticatedUnload (← get).ctx exitReason
  if authenticatedUnload then
    let _ ← updateNativeTeardownContract m
  modify (answerUnload m authenticatedUnload exitReason)

def handleVmCall (m : Machine) : StateM ExitState Bool := do
  let c := (← get).ctx
  if c.guestCs &&& 3 = 0 && c.rcx = hypervisorMagic && c.rdx = vmcallUnload then
    requestAuthenticatedUnload m vmExitReasonVmcall
    return !(← get).ctx.haltVm
  else
    refuse m

end Knhv.Vmx
