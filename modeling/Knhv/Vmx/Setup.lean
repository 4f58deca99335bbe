import Knhv.Vmx.SetupState
import Knhv.Vmx.Unload

namespace Knhv.Vmx.Setup

def msrIa32VmxPinbasedCtls : U32 := 0x481
def msrIa32VmxTruePinbasedCtls : U32 := 0x48D

def vmxPinbasedMandatoryOn : U32 := 0x16
def vmxProcbasedMandatoryOn : U32 := 0x0401E172
def vmxExitMandatoryOn : U32 := 0x36DFF
def vmxEntryMandatoryOn : U32 := 0x11FF

/-- External interrupts, NMIs, virtual NMIs, preemption timer, posted interrupts. -/
def pinExitControls : U32 := 1#32 <<< 0 ||| 1#32 <<< 3 ||| 1#32 <<< 5 ||| 1#32 <<< 6 ||| 1#32 <<< 7

def cpuBasedCr3LoadExiting : U32 := 1#32 <<< 15
def cpuBasedCr3StoreExiting : U32 := 1#32 <<< 16
def cpuBasedUseMsrBitmaps : U32 := 1#32 <<< 28

def supportedPrimary : U32 :=
  cpuBasedUseMsrBitmaps ||| cpuBasedCr3LoadExiting ||| cpuBasedCr3StoreExiting |||
    cpuBasedActivateTertiaryControls ||| cpuBasedActivateSecondaryControls

def knownPrimaryMandatoryOn : U32 :=
  vmxProcbasedMandatoryOn ||| cpuBasedCr3LoadExiting ||| cpuBasedCr3StoreExiting

/-- Interrupt window, TSC offsetting, HLT, INVLPG, MWAIT, RDPMC, RDTSC, CR8 load and
store, MOV DR, unconditional I/O, I/O bitmaps, TPR shadow, NMI window, monitor
trap flag, MONITOR, PAUSE. -/
def unsupportedPrimary : U32 :=
  1#32 <<< 2 ||| 1#32 <<< 3 ||| 1#32 <<< 7 ||| 1#32 <<< 9 ||| 1#32 <<< 10 ||| 1#32 <<< 11 |||
    1#32 <<< 12 ||| 1#32 <<< 19 ||| 1#32 <<< 20 ||| 1#32 <<< 23 ||| 1#32 <<< 24 |||
    1#32 <<< 25 ||| 1#32 <<< 21 ||| 1#32 <<< 22 ||| 1#32 <<< 27 ||| 1#32 <<< 29 ||| 1#32 <<< 30

def vmExitHostAddressSpaceSize : U32 := 1#32 <<< 9
def vmExitSaveDebugControls : U32 := 1#32 <<< 2
def vmExitSaveGuestEfer : U32 := 1#32 <<< 20
def vmExitLoadHostEfer : U32 := 1#32 <<< 21
def vmExitSaveGuestPat : U32 := 1#32 <<< 18
def vmExitLoadHostPat : U32 := 1#32 <<< 19

def vmEntryIa32eModeGuest : U32 := 1#32 <<< 9
def vmEntryLoadDebugControls : U32 := 1#32 <<< 2
def vmEntryLoadGuestEfer : U32 := 1#32 <<< 15
def vmEntryLoadGuestPat : U32 := 1#32 <<< 14

def vmxExceptionBitmapDoubleFault : U64 := bit 8
def kCr0WriteProtect : U64 := bit 16
def kLongModeInvalidRflags : U64 := bit 17 ||| bit 19 ||| bit 20

/-- The base of a present 64-bit TSS descriptor of the GDT, zero where there is
none. -/
def getTssBase (m : Machine) (gdtBase : U64) (gdtLimit selector : U16) : U64 :=
  let offset := selector &&& 0xFFF8
  let descriptor := gdtBase + offset.setWidth 64
  if selector &&& 7 ≠ 0 || offset = 0 || gdtLimit < offset || gdtLimit - offset < 15 ||
      !isCanonical m gdtBase || !isCanonical m descriptor then 0 else
  let byte (i : U64) : U64 := (m.memory (descriptor + i)).setWidth 64
  let access := m.memory (descriptor + 5)
  let type := access &&& 0x0F
  if access &&& 0x80 = 0 || (type ≠ 9 && type ≠ 0xB) then 0 else
  let base := byte 2 ||| byte 3 <<< 8 ||| byte 4 <<< 16 ||| byte 7 <<< 24 |||
    (byte 8 ||| byte 9 <<< 8 ||| byte 10 <<< 16 ||| byte 11 <<< 24) <<< 32
  if isCanonical m base then base else 0

def isGuestTrSelectorUsable (m : Machine) (gdtBase : U64) (gdtLimit selector : U16) : Bool :=
  isGdtSelectorUsable m gdtBase gdtLimit selector false true false true false &&
    m.memory (gdtBase + (selector &&& 0xFFF8).setWidth 64 + 5) &&& 0x0F = 0xB

def isValidIa32eEfer (value cr0 : U64) : Bool :=
  value &&& ~~~kGuestEferBits = 0 && value &&& (eferLme ||| eferLma) = eferLme ||| eferLma &&
    cr0 &&& bit 31 ≠ 0

/-- Clear what must be zero, then set what must be one. -/
def adjustControls (m : Machine) (ctl msr : U32) : U32 :=
  let value := (m.readMsr msr).getD 0
  (ctl &&& (value >>> 32).setWidth 32) ||| value.setWidth 32

def controlMandatoryOn (m : Machine) (msr : U32) : U32 := ((m.readMsr msr).getD 0).setWidth 32

def adjustCr (m : Machine) (value : U64) (fixed0Msr fixed1Msr : U32) : U64 :=
  (value &&& (m.readMsr fixed1Msr).getD 0) ||| (m.readMsr fixed0Msr).getD 0

inductive VmxControlGeneration
  | legacy | trueControls | trueSecondary | trueTertiary
  deriving DecidableEq, Repr

def selectVmxControlGeneration (profile : U32) : VmxControlGeneration :=
  if profile &&& vmxProfileTrueControls = 0 then .legacy
  else if profile &&& vmxProfileTertiaryControls ≠ 0 then .trueTertiary
  else if profile &&& vmxProfileSecondaryControls ≠ 0 then .trueSecondary
  else .trueControls

/-- What `ReadMsrSafe(first, ..) && ReadMsrSafe(second, ..) && ..` leaves in the
local of one MSR: the chain stops at the first that cannot be read. -/
def chainedMsr (m : Machine) (chain : List U32) (msr : U32) : U64 :=
  if (chain.takeWhile (· ≠ msr)).all fun earlier => (m.readMsr earlier).isSome then
    (m.readMsr msr).getD 0
  else 0

def chainRead (m : Machine) (chain : List U32) : Bool := chain.all fun msr => (m.readMsr msr).isSome

def snapshotMsrs : List U32 :=
  [msrFsBase, msrGsBase, msrIa32Efer, msrIa32Pat, msrIa32SysenterCs, msrIa32SysenterEsp,
    msrIa32SysenterEip]

def cetMsrs : List U32 :=
  [msrIa32SCet, msrIa32Pl0Ssp, msrIa32Pl1Ssp, msrIa32Pl2Ssp, msrIa32InterruptSspTable]

section

variable (e : SetupEnvironment)

def tssBase : U64 := getTssBase e.machine e.gdtBase e.gdtLimit e.trSelector

def guestCr0 : U64 := adjustCr e.machine e.cr0 msrIa32VmxCr0Fixed0 msrIa32VmxCr0Fixed1
def guestCr4 : U64 := adjustCr e.machine e.cr4 msrIa32VmxCr4Fixed0 msrIa32VmxCr4Fixed1
def hostCr3 : U64 := normalizeCr3 e.hostCr3 e.cr4
def guestCr3 : U64 := normalizeCr3 e.cr3 (guestCr4 e)

def packLaunchCr3Metadata (rawGuestCr3 rawHostCr3 guestCr4 hostCr4 : U64) : U64 :=
  e.irql.setWidth 64 ||| (rawGuestCr3 &&& 0xFFF) <<< 8 ||| (rawHostCr3 &&& 0xFFF) <<< 20 |||
    Masks.gather
      [(guestCr4 &&& cr4Pcide ≠ 0, bit 32), (hostCr4 &&& cr4Pcide ≠ 0, bit 33),
        (rawGuestCr3 &&& bit 63 ≠ 0, bit 34), (rawHostCr3 &&& bit 63 ≠ 0, bit 35)]

def isCetWriteProtected (cr0 cr4 : U64) : Bool :=
  cr4 &&& cr4Cet = 0 || cr0 &&& kCr0WriteProtect ≠ 0

def snapshotMsr (msr : U32) : U64 := chainedMsr e.machine snapshotMsrs msr

def isMsrSnapshotUsable : Bool :=
  let m := e.machine
  chainRead m snapshotMsrs && isCanonical m (snapshotMsr e msrFsBase) &&
    isCanonical m (snapshotMsr e msrGsBase) && snapshotMsr e msrIa32SysenterCs ≤ 0xFFFF &&
    isCanonical m (snapshotMsr e msrIa32SysenterEsp) &&
    isCanonical m (snapshotMsr e msrIa32SysenterEip) &&
    isValidIa32eEfer (snapshotMsr e msrIa32Efer) e.cr0 && isValidPatValue (snapshotMsr e msrIa32Pat)

/-- The CET locals stay zero where the VMCS does not carry CET. -/
def cetMsr (msr : U32) : U64 :=
  if e.machine.cetVmcsEnabled then chainedMsr e.machine cetMsrs msr else 0

def isCetSnapshotSafe : Bool :=
  chainRead e.machine cetMsrs &&
    isSupervisorCetStateVmcsSafe e.machine (cetMsr e msrIa32SCet) (cetMsr e msrIa32Pl0Ssp)
      (cetMsr e msrIa32Pl1Ssp) (cetMsr e msrIa32Pl2Ssp) (cetMsr e msrIa32InterruptSspTable)

def isSelectorUsable (selector : U16)
    (allowNull requireSystem requireCode requireKernelPrivilege requireWritableData : Bool) : Bool :=
  isGdtSelectorUsable e.machine e.gdtBase e.gdtLimit selector allowNull requireSystem requireCode
    requireKernelPrivilege requireWritableData

def launchDescriptorRejectMask : U32 :=
  let m := e.machine
  Masks.gather
    [(!isCanonical m e.gdtBase, 1#32 <<< 0), (!isCanonical m e.idtBase, 1#32 <<< 1),
      (!isSelectorUsable e e.csSelector false false true true false, 1#32 <<< 2),
      (!isSelectorUsable e e.ssSelector true false false true true, 1#32 <<< 3),
      (!isSelectorUsable e e.dsSelector true false false false false, 1#32 <<< 4),
      (!isSelectorUsable e e.esSelector true false false false false, 1#32 <<< 5),
      (!isSelectorUsable e e.fsSelector true false false false false, 1#32 <<< 6),
      (!isSelectorUsable e e.gsSelector true false false false false, 1#32 <<< 7),
      (e.ldtrSelector ≠ 0 && !isSelectorUsable e e.ldtrSelector false true false true false,
        1#32 <<< 8),
      (!isValidArchitecturalCr3 m (hostCr3 e) e.cr4, 1#32 <<< 9),
      (!isValidArchitecturalCr3 m (guestCr3 e) (guestCr4 e), 1#32 <<< 10),
      (tssBase e = 0, 1#32 <<< 11)]

def selectorsLow : U64 := packSegmentSelectors e.csSelector e.ssSelector e.dsSelector e.esSelector
def selectorsHigh : U64 :=
  packSegmentSelectors e.fsSelector e.gsSelector e.ldtrSelector e.trSelector

def segmentLimit (selector : U16) : U64 := (e.machine.getSegmentLimit selector).setWidth 64
def segmentAr (selector : U16) : U64 := (e.machine.getSegmentAr selector).setWidth 64

/-- The native IDT can be copied into the vCPU's own page. -/
def isHostIdtCopyable : Bool :=
  e.vmxHostIdt ≠ 0 && isCanonical e.machine e.idtBase && 32 * 16 ≤ e.idtLimit.toNat + 1

/-- `VmxHostIdtBase` behind `PrepareVmxHostIdt`. -/
def hostIdtBase : U64 := if isHostIdtCopyable e then e.vmxHostIdt else e.vmxHostIdtBase

def prepareVmxHostIdt : Bool := isHostIdtCopyable e && isCanonical e.machine e.vmxHostIdt

def fixedCrMsrs : List U32 :=
  [msrIa32VmxCr0Fixed0, msrIa32VmxCr0Fixed1, msrIa32VmxCr4Fixed0, msrIa32VmxCr4Fixed1]

/-- `__readmsr` without a guard. -/
def readUnguarded (msr : U32) : SetupStep := .operation (e.machine.readMsr msr).isNone

def processorSteps : List SetupStep :=
  [.note fun n => { n with launchCr3 :=
      ⟨e.cr3, guestCr3 e, e.hostCr3, hostCr3 e,
        packLaunchCr3Metadata e e.cr3 e.hostCr3 (guestCr4 e) e.cr4⟩ },
    .check (!isCetWriteProtected e.cr0 e.cr4 || !isCetWriteProtected (guestCr0 e) (guestCr4 e))
      .cetWriteProtect e.cr0 e.cr4,
    .check (!isMsrSnapshotUsable e) .msrSnapshot (snapshotMsr e msrIa32Efer)
      (snapshotMsr e msrIa32Pat),
    .check (e.machine.cetVmcsEnabled && !isCetSnapshotSafe e) .controlPolicy (cetMsr e msrIa32SCet)
      (cetMsr e msrIa32Pl0Ssp),
    .check (!isGuestTrSelectorUsable e.machine e.gdtBase e.gdtLimit e.trSelector) .guestTr
      (e.trSelector.setWidth 64) (tssBase e),
    .note fun n => { n with launchDescriptors :=
      ⟨launchDescriptorRejectMask e, selectorsLow e, selectorsHigh e, e.gdtBase, e.idtBase,
        tssBase e⟩ },
    .check (launchDescriptorRejectMask e ≠ 0) .descriptorCr3
      ((launchDescriptorRejectMask e).setWidth 64) (selectorsLow e),
    .check (e.ldtrSelector ≠ 0) .ldtr (e.ldtrSelector.setWidth 64) 0,
    .check (segmentAr e e.trSelector &&& 0x10000 ≠ 0 || segmentLimit e e.trSelector = 0) .sampledTr
      (segmentLimit e e.trSelector) (segmentAr e e.trSelector),
    .note fun n => { n with vmxHostIdtBase := hostIdtBase e },
    .check (!prepareVmxHostIdt e) .descriptorCr3 e.idtBase (hostIdtBase e),
    .note fun n => { n with
      host := { n.host with
        segmentSelectorsLow := selectorsLow e
        segmentSelectorsHigh := selectorsHigh e
        gdtBase := e.gdtBase
        idtBase := e.idtBase
        trBase := tssBase e
        gdtLimit := e.gdtLimit.setWidth 64
        idtLimit := e.idtLimit.setWidth 64
        trLimit := segmentLimit e e.trSelector
        trAr := segmentAr e e.trSelector
        csLimit := segmentLimit e e.csSelector
        csAr := segmentAr e e.csSelector }
      hostSsLimit := segmentLimit e e.ssSelector
      hostSsAr := segmentAr e e.ssSelector
      nativeTeardownSafe := true }]

/-- The processor is sampled and checked before anything is written. -/
def samplingSteps : List SetupStep := fixedCrMsrs.map (readUnguarded e) ++ processorSteps e

def setVmcsSetupPhase (phase : VmcsSetupPhase) : SetupStep :=
  .note fun n => { n with setupPhase := phase }

def inject (stage : HvFaultStage) (code : U64) : SetupStep :=
  .check (shouldInjectFault e.machine e.machine.cpuId stage) .injected code 0

def hostSelector (selector : U16) : U64 := (selector &&& 0xFFF8).setWidth 64

def hostStateSteps : List SetupStep :=
  [setVmcsSetupPhase .hostState,
    .write .hostCr0 e.cr0, .write .hostCr3 (hostCr3 e), .write .hostCr4 e.cr4,
    .writeUnchecked .hostCsSelector (hostSelector e.csSelector),
    .writeUnchecked .hostSsSelector (hostSelector e.ssSelector),
    .writeUnchecked .hostDsSelector (hostSelector e.dsSelector),
    .writeUnchecked .hostEsSelector (hostSelector e.esSelector),
    .writeUnchecked .hostFsSelector (hostSelector e.fsSelector),
    .writeUnchecked .hostGsSelector (hostSelector e.gsSelector),
    .writeUnchecked .hostTrSelector (hostSelector e.trSelector),
    .writeUnchecked .hostFsBase (snapshotMsr e msrFsBase),
    .writeUnchecked .hostGsBase (snapshotMsr e msrGsBase),
    .writeUnchecked .hostEfer (snapshotMsr e msrIa32Efer),
    .writeUnchecked .hostTrBase (tssBase e),
    .writeUnchecked .hostGdtrBase e.gdtBase,
    .writeUnchecked .hostIdtrBase (hostIdtBase e),
    .writeUnchecked .hostIa32SysenterCs (snapshotMsr e msrIa32SysenterCs),
    .writeUnchecked .hostIa32SysenterEsp (snapshotMsr e msrIa32SysenterEsp),
    .writeUnchecked .hostIa32SysenterEip (snapshotMsr e msrIa32SysenterEip),
    .writeUnchecked .hostRsp e.hostStackTop,
    .writeUnchecked .hostRip e.hvVmExitEntryPoint,
    .latch]

/-- The CET state of one side of the VMCS. -/
def cetSteps (supervisor ssp table : SetupField) : List SetupStep :=
  if e.machine.cetVmcsEnabled then
    [.write supervisor (cetMsr e msrIa32SCet), .write ssp (cetMsr e msrIa32Pl0Ssp),
      .write table (cetMsr e msrIa32InterruptSspTable)]
  else []

def hostSteps : List SetupStep :=
  hostStateSteps e ++ cetSteps e .hostSCet .hostSsp .hostIntrSspTable ++
    [inject e .afterHostState 6]

def guestStateSteps : List SetupStep :=
  [setVmcsSetupPhase .guestState,
    .writeUnchecked .guestCr0 (guestCr0 e),
    .writeUnchecked .guestCr3 (guestCr3 e),
    .writeUnchecked .guestCr4 (guestCr4 e),
    .writeUnchecked .guestDr7 e.guestDr7,
    .writeUnchecked .guestCsSelector (e.csSelector.setWidth 64),
    .writeUnchecked .guestSsSelector (e.ssSelector.setWidth 64),
    .writeUnchecked .guestDsSelector (e.dsSelector.setWidth 64),
    .writeUnchecked .guestEsSelector (e.esSelector.setWidth 64),
    .writeUnchecked .guestFsSelector (e.fsSelector.setWidth 64),
    .writeUnchecked .guestGsSelector (e.gsSelector.setWidth 64),
    .writeUnchecked .guestLdtrSelector (e.ldtrSelector.setWidth 64),
    .writeUnchecked .guestTrSelector (e.trSelector.setWidth 64),
    .writeUnchecked .guestCsLimit (segmentLimit e e.csSelector),
    .writeUnchecked .guestSsLimit (segmentLimit e e.ssSelector),
    .writeUnchecked .guestDsLimit (segmentLimit e e.dsSelector),
    .writeUnchecked .guestEsLimit (segmentLimit e e.esSelector),
    .writeUnchecked .guestFsLimit (segmentLimit e e.fsSelector),
    .writeUnchecked .guestGsLimit (segmentLimit e e.gsSelector),
    .writeUnchecked .guestLdtrLimit (segmentLimit e e.ldtrSelector),
    .writeUnchecked .guestTrLimit (segmentLimit e e.trSelector),
    .writeUnchecked .guestGdtrLimit (e.gdtLimit.setWidth 64),
    .writeUnchecked .guestIdtrLimit (e.idtLimit.setWidth 64),
    .writeUnchecked .guestCsArBytes (segmentAr e e.csSelector),
    .writeUnchecked .guestSsArBytes (segmentAr e e.ssSelector),
    .writeUnchecked .guestDsArBytes (segmentAr e e.dsSelector),
    .writeUnchecked .guestEsArBytes (segmentAr e e.esSelector),
    .writeUnchecked .guestFsArBytes (segmentAr e e.fsSelector),
    .writeUnchecked .guestGsArBytes (segmentAr e e.gsSelector),
    .writeUnchecked .guestLdtrArBytes (segmentAr e e.ldtrSelector),
    .writeUnchecked .guestTrArBytes (segmentAr e e.trSelector),
    .writeUnchecked .guestFsBase (snapshotMsr e msrFsBase),
    .writeUnchecked .guestGsBase (snapshotMsr e msrGsBase),
    .writeUnchecked .guestGdtrBase e.gdtBase,
    .writeUnchecked .guestIdtrBase e.idtBase,
    .writeUnchecked .guestCsBase 0,
    .writeUnchecked .guestSsBase 0,
    .writeUnchecked .guestDsBase 0,
    .writeUnchecked .guestEsBase 0,
    .writeUnchecked .guestTrBase (tssBase e),
    .writeUnchecked .guestLdtrBase 0,
    .writeUnchecked .guestSysenterCs (snapshotMsr e msrIa32SysenterCs),
    .writeUnchecked .guestSysenterEsp (snapshotMsr e msrIa32SysenterEsp),
    .writeUnchecked .guestSysenterEip (snapshotMsr e msrIa32SysenterEip),
    .writeUnchecked .guestEfer (snapshotMsr e msrIa32Efer),
    .writeUnchecked .guestPat (snapshotMsr e msrIa32Pat),
    .writeUnchecked .hostPat (snapshotMsr e msrIa32Pat)]

def guestRflags : U64 := e.rflags ||| bit 1

/-- The activity of the guest, and where it starts. -/
def guestActivitySteps : List SetupStep :=
  [.writeUnchecked .guestActivityState 0,
    .writeUnchecked .guestInterruptibilityInfo 0,
    .writeUnchecked .guestVmcsLinkPtr (~~~0),
    .writeUnchecked .guestDebugctl e.guestDebugctl,
    .writeUnchecked .guestPendingDbgExceptions 0,
    .writeUnchecked .guestSmBase 0,
    .check (e.guestIp = 0 || e.guestSp = 0 || !isCanonical e.machine e.guestIp ||
      !isCanonical e.machine e.guestSp) .guestEntry e.guestIp e.guestSp,
    .writeUnchecked .guestRip e.guestIp,
    .writeUnchecked .guestRsp e.guestSp,
    .check (e.rflags &&& kLongModeInvalidRflags ≠ 0) .guestEntry e.rflags kLongModeInvalidRflags,
    .write .guestRflags (guestRflags e),
    inject e .afterGuestState 7]

def guestEntrySteps : List SetupStep :=
  cetSteps e .guestSCet .guestSsp .guestIntrSspTable ++ guestActivitySteps e

/-- The capability MSR of the generation that the profile names. -/
def generationMsr (legacyMsr trueMsr : U32) : U32 :=
  match selectVmxControlGeneration e.vmxProfile with
  | .legacy => legacyMsr
  | .trueControls | .trueSecondary | .trueTertiary => trueMsr

def pinCtlMsr : U32 := generationMsr e msrIa32VmxPinbasedCtls msrIa32VmxTruePinbasedCtls
def procCtlMsr : U32 := generationMsr e msrIa32VmxProcbasedCtls msrIa32VmxTrueProcbasedCtls
def exitCtlMsr : U32 := generationMsr e msrIa32VmxExitCtls msrIa32VmxTrueExitCtls
def entryCtlMsr : U32 := generationMsr e msrIa32VmxEntryCtls msrIa32VmxTrueEntryCtls

def pinCtl : U32 := adjustControls e.machine 0 (pinCtlMsr e)

def hasProfile (mask : U32) : Bool := e.vmxProfile &&& mask ≠ 0

def guestWaitpkg : Bool := (e.machine.cpuidex 7 0).ecx &&& cpuid7EcxWaitpkg ≠ 0

/-- What INVPCID, RDTSCP and WAITPKG ask of the secondary controls. -/
def secondaryRequestedBeforeXsaves : U32 :=
  Masks.gather
    [(hasProfile e vmxProfileSecondaryControls && hasProfile e vmxProfileInvpcid,
        secondaryEnableInvpcid),
      (hasProfile e vmxProfileSecondaryControls && hasProfile e vmxProfileRdtscp,
        secondaryEnableRdtscp),
      (guestWaitpkg e, secondaryEnableUserWaitPause)]

def secondaryRequested : U32 :=
  secondaryRequestedBeforeXsaves e |||
    if e.machine.xsavesEnabled then secondaryEnableXsaves else 0

def requestedPrimary : U32 :=
  cpuBasedUseMsrBitmaps |||
    if secondaryRequested e ≠ 0 then cpuBasedActivateSecondaryControls else 0

def procCtl : U32 := adjustControls e.machine (requestedPrimary e) (procCtlMsr e)

def activatesSecondary : Bool := procCtl e &&& cpuBasedActivateSecondaryControls ≠ 0
def activatesTertiary : Bool := procCtl e &&& cpuBasedActivateTertiaryControls ≠ 0

def secCtl : U32 :=
  if activatesSecondary e then
    adjustControls e.machine (secondaryRequested e) msrIa32VmxProcbasedCtls2
  else 0

/-- The baseline image and the pin-based controls. -/
def pinSteps : List SetupStep :=
  [setVmcsSetupPhase .executionControls,
    .write .controlTscOffset 0, .write .controlPageFaultErrorCodeMask 0,
    .write .controlPageFaultErrorCodeMatch 0, .write .controlCr3TargetCount 0,
    .write .controlVmExitMsrStoreCount 0, .write .controlVmExitMsrLoadCount 0,
    .write .controlVmEntryMsrLoadCount 0,
    .check (e.machine.readMsr (procCtlMsr e)).isNone .controlPolicy ((procCtlMsr e).setWidth 64) 0,
    .note fun n => { n with
      primaryControlsCapability := (e.machine.readMsr (procCtlMsr e)).getD 0 },
    readUnguarded e (pinCtlMsr e),
    .check (controlMandatoryOn e.machine (pinCtlMsr e) &&& ~~~vmxPinbasedMandatoryOn ≠ 0 ||
      pinCtl e &&& pinExitControls ≠ 0 || pinCtl e &&& ~~~vmxPinbasedMandatoryOn ≠ 0) .controlPolicy
      ((pinCtl e).setWidth 64) ((controlMandatoryOn e.machine (pinCtlMsr e)).setWidth 64),
    .writeUnchecked .controlPinBasedVmExecutionControls ((pinCtl e).setWidth 64),
    .writeUnchecked .controlExceptionBitmap vmxExceptionBitmapDoubleFault,
    .writeUnchecked .controlVmEntryIntrInfoField 0,
    .writeUnchecked .controlVmEntryExceptionErrorCode 0,
    .writeUnchecked .controlVmEntryInstructionLength 0]

def primarySteps : List SetupStep :=
  [.check (guestWaitpkg e && (!hasProfile e vmxProfileSecondaryControls ||
      !vmxControlAllows e.machine msrIa32VmxProcbasedCtls2 secondaryEnableUserWaitPause))
      .controlPolicy (cpuid7EcxWaitpkg.setWidth 64) (secondaryEnableUserWaitPause.setWidth 64),
    .check (e.machine.xsavesEnabled && (!hasProfile e vmxProfileSecondaryControls ||
      !hasProfile e vmxProfileXsaves)) .xstatePolicy (e.vmxProfile.setWidth 64)
      ((secondaryRequestedBeforeXsaves e).setWidth 64),
    readUnguarded e (procCtlMsr e),
    .check (procCtl e &&& cpuBasedUseMsrBitmaps = 0) .controlPolicy ((procCtl e).setWidth 64)
      (cpuBasedUseMsrBitmaps.setWidth 64),
    .check (secondaryRequested e ≠ 0 && !activatesSecondary e) .controlPolicy
      ((procCtl e).setWidth 64) ((secondaryRequested e).setWidth 64),
    .check (controlMandatoryOn e.machine (procCtlMsr e) &&& ~~~knownPrimaryMandatoryOn ≠ 0 ||
      procCtl e &&& ~~~(supportedPrimary ||| vmxProcbasedMandatoryOn) ≠ 0) .controlPolicy
      ((procCtl e).setWidth 64) ((controlMandatoryOn e.machine (procCtlMsr e)).setWidth 64),
    .check (procCtl e &&& unsupportedPrimary ≠ 0) .controlPolicy ((procCtl e).setWidth 64)
      ((procCtl e &&& unsupportedPrimary).setWidth 64),
    .write .controlPrimaryProcessorBasedVmExecutionControls ((procCtl e).setWidth 64)]

def secondaryControlSteps : List SetupStep :=
  if activatesSecondary e then
    [readUnguarded e msrIa32VmxProcbasedCtls2,
      .check (secCtl e &&& secondaryRequested e ≠ secondaryRequested e) .controlPolicy
        ((secCtl e).setWidth 64) ((secondaryRequested e).setWidth 64),
      .check (secCtl e &&& ~~~secondaryRequested e ≠ 0) .controlPolicy ((secCtl e).setWidth 64)
        ((secondaryRequested e).setWidth 64),
      .write .controlSecondaryProcessorBasedVmExecutionControls ((secCtl e).setWidth 64)]
  else []

def secondaryDoneSteps : List SetupStep :=
  [.note fun n => { n with
      waitpkgVmcsEnabled := secCtl e &&& secondaryEnableUserWaitPause ≠ 0 },
    inject e .afterVmcsControls 5]

def secondarySteps : List SetupStep := secondaryControlSteps e ++ secondaryDoneSteps e

/-- The tertiary capability is a bitmap of allowed ones; zero is requested. -/
def tertiarySteps : List SetupStep :=
  setVmcsSetupPhase .tertiaryControls ::
  (if activatesTertiary e then
    [.check (!hasProfile e vmxProfileTertiaryControls) .controlPolicy (e.vmxProfile.setWidth 64)
        (vmxProfileTertiaryControls.setWidth 64),
      .check (e.machine.readMsr msrIa32VmxProcbasedCtls3).isNone .controlPolicy
        (msrIa32VmxProcbasedCtls3.setWidth 64) 0,
      .note fun n => { n with
        tertiaryControlsAllowed := (e.machine.readMsr msrIa32VmxProcbasedCtls3).getD 0 },
      .write .controlTertiaryProcessorBasedVmExecutionControls 0]
  else [])

def requestedExit : U32 :=
  vmExitHostAddressSpaceSize ||| vmExitSaveDebugControls ||| vmExitSaveGuestEfer |||
    vmExitLoadHostEfer ||| vmExitSaveGuestPat ||| vmExitLoadHostPat |||
    if e.machine.cetVmcsEnabled then vmExitLoadCetState else 0

def exitCtl : U32 := adjustControls e.machine (requestedExit e) (exitCtlMsr e)

def requestedEntry : U32 :=
  vmEntryIa32eModeGuest ||| vmEntryLoadDebugControls ||| vmEntryLoadGuestEfer |||
    vmEntryLoadGuestPat ||| if e.machine.cetVmcsEnabled then vmEntryLoadCetState else 0

def entryCtl : U32 := adjustControls e.machine (requestedEntry e) (entryCtlMsr e)

/-- The checks of the VM-exit or of the VM-entry controls, and their write. -/
def transitionSteps (field : SetupField) (ctl requested mandatoryOn msr : U32) : List SetupStep :=
  [readUnguarded e msr,
    .check (ctl &&& requested ≠ requested) .controlPolicy (ctl.setWidth 64)
      (requested.setWidth 64),
    .check (controlMandatoryOn e.machine msr &&& ~~~mandatoryOn ≠ 0 ||
      ctl &&& ~~~(requested ||| mandatoryOn) ≠ 0) .controlPolicy (ctl.setWidth 64)
      ((controlMandatoryOn e.machine msr).setWidth 64),
    .write field (ctl.setWidth 64)]

def bitmapSteps : List SetupStep :=
  [setVmcsSetupPhase .exitEntryControls, .write .controlMsrBitmapAddress e.msrBitmapPhys]

def xssBitmapSteps : List SetupStep :=
  if e.machine.xsavesEnabled then [.write .controlXssExitingBitmap 0] else []

/-- The live control registers are kept; no bit is owned by the host. -/
def guestHostMaskSteps : List SetupStep :=
  [.writeUnchecked .guestCr0 (guestCr0 e),
    .writeUnchecked .guestCr4 (guestCr4 e),
    .writeUnchecked .controlCr0GuestHostMask 0,
    .writeUnchecked .controlCr0ReadShadow 0,
    .writeUnchecked .controlCr4GuestHostMask getCr4GuestHostMask,
    .writeUnchecked .controlCr4ReadShadow 0,
    setVmcsSetupPhase .readback]

def exitEntrySteps : List SetupStep :=
  bitmapSteps e ++ xssBitmapSteps e ++
    transitionSteps e .controlVmExitControls (exitCtl e) (requestedExit e) vmxExitMandatoryOn
      (exitCtlMsr e) ++
    transitionSteps e .controlVmEntryControls (entryCtl e) (requestedEntry e) vmxEntryMandatoryOn
      (entryCtlMsr e) ++
    guestHostMaskSteps e

/-- Everything before the readback. -/
def setupSteps : List SetupStep :=
  samplingSteps e ++ hostSteps e ++ guestStateSteps e ++ guestEntrySteps e ++ pinSteps e ++
    primarySteps e ++ secondarySteps e ++ tertiarySteps e ++ exitEntrySteps e

def fixedReadback : List SetupField :=
  [.hostCr0, .hostCr3, .hostCr4, .hostRip, .hostRsp, .hostCsSelector, .hostSsSelector,
    .hostTrSelector, .hostFsBase, .hostGsBase, .hostEfer, .hostPat, .hostIa32SysenterCs,
    .hostIa32SysenterEsp, .hostIa32SysenterEip, .hostTrBase, .hostGdtrBase, .hostIdtrBase,
    .controlPinBasedVmExecutionControls, .controlExceptionBitmap,
    .controlPrimaryProcessorBasedVmExecutionControls, .controlVmExitControls,
    .controlVmEntryControls, .controlMsrBitmapAddress, .controlCr0GuestHostMask,
    .controlCr0ReadShadow, .controlCr4GuestHostMask, .controlCr4ReadShadow, .guestCr0, .guestCr3,
    .guestCr4, .guestRip, .guestRsp, .guestRflags, .guestCsSelector, .guestSsSelector,
    .guestFsBase, .guestGsBase, .guestEfer, .guestPat, .guestSysenterCs, .guestSysenterEsp,
    .guestSysenterEip, .guestDebugctl, .guestGdtrBase, .guestIdtrBase, .guestGdtrLimit,
    .guestIdtrLimit, .guestTrSelector, .guestTrLimit, .guestTrArBytes, .guestTrBase]

/-- The fields that are read back, in order. -/
def readbackFields : List SetupField :=
  fixedReadback ++
  (if activatesSecondary e then [.controlSecondaryProcessorBasedVmExecutionControls] else []) ++
  (if activatesTertiary e then [.controlTertiaryProcessorBasedVmExecutionControls] else []) ++
  (if e.machine.xsavesEnabled then [.controlXssExitingBitmap] else []) ++
  (if e.machine.cetVmcsEnabled then [.guestSCet, .guestSsp, .guestIntrSspTable] else [])

/-- A field with the value it was given and the width that is compared. -/
def fixedExpected : List (SetupField × U64 × U64) :=
  [(.hostCr0, e.cr0, ~~~0), (.hostCr3, hostCr3 e, ~~~0), (.hostCr4, e.cr4, ~~~0),
    (.hostRip, e.hvVmExitEntryPoint, ~~~0), (.hostRsp, e.hostStackTop, ~~~0),
    (.hostCsSelector, hostSelector e.csSelector, 0xFFFF),
    (.hostSsSelector, hostSelector e.ssSelector, 0xFFFF),
    (.hostTrSelector, hostSelector e.trSelector, 0xFFFF),
    (.hostFsBase, snapshotMsr e msrFsBase, ~~~0), (.hostGsBase, snapshotMsr e msrGsBase, ~~~0),
    (.hostEfer, snapshotMsr e msrIa32Efer, ~~~0), (.hostPat, snapshotMsr e msrIa32Pat, ~~~0),
    (.hostIa32SysenterCs, snapshotMsr e msrIa32SysenterCs, 0xFFFFFFFF),
    (.hostIa32SysenterEsp, snapshotMsr e msrIa32SysenterEsp, ~~~0),
    (.hostIa32SysenterEip, snapshotMsr e msrIa32SysenterEip, ~~~0),
    (.hostTrBase, tssBase e, ~~~0), (.hostGdtrBase, e.gdtBase, ~~~0),
    (.hostIdtrBase, hostIdtBase e, ~~~0),
    (.controlPinBasedVmExecutionControls, (pinCtl e).setWidth 64, 0xFFFFFFFF),
    (.controlExceptionBitmap, vmxExceptionBitmapDoubleFault, 0xFFFFFFFF),
    (.controlPrimaryProcessorBasedVmExecutionControls, (procCtl e).setWidth 64, 0xFFFFFFFF),
    (.controlVmExitControls, (exitCtl e).setWidth 64, 0xFFFFFFFF),
    (.controlVmEntryControls, (entryCtl e).setWidth 64, 0xFFFFFFFF),
    (.controlMsrBitmapAddress, e.msrBitmapPhys, ~~~0), (.controlCr0GuestHostMask, 0, ~~~0),
    (.controlCr0ReadShadow, 0, ~~~0), (.controlCr4GuestHostMask, getCr4GuestHostMask, ~~~0),
    (.controlCr4ReadShadow, 0, ~~~0), (.guestCr0, guestCr0 e, ~~~0),
    (.guestCr3, guestCr3 e, ~~~0), (.guestCr4, guestCr4 e, ~~~0), (.guestRip, e.guestIp, ~~~0),
    (.guestRsp, e.guestSp, ~~~0), (.guestRflags, guestRflags e, ~~~0),
    (.guestCsSelector, e.csSelector.setWidth 64, 0xFFFF),
    (.guestSsSelector, e.ssSelector.setWidth 64, 0xFFFF),
    (.guestFsBase, snapshotMsr e msrFsBase, ~~~0), (.guestGsBase, snapshotMsr e msrGsBase, ~~~0),
    (.guestEfer, snapshotMsr e msrIa32Efer, ~~~0), (.guestPat, snapshotMsr e msrIa32Pat, ~~~0),
    (.guestSysenterCs, snapshotMsr e msrIa32SysenterCs, 0xFFFFFFFF),
    (.guestSysenterEsp, snapshotMsr e msrIa32SysenterEsp, ~~~0),
    (.guestSysenterEip, snapshotMsr e msrIa32SysenterEip, ~~~0),
    (.guestDebugctl, e.guestDebugctl, ~~~0), (.guestGdtrBase, e.gdtBase, ~~~0),
    (.guestIdtrBase, e.idtBase, ~~~0),
    (.guestGdtrLimit, e.gdtLimit.setWidth 64, 0xFFFFFFFF),
    (.guestIdtrLimit, e.idtLimit.setWidth 64, 0xFFFFFFFF),
    (.guestTrSelector, e.trSelector.setWidth 64, 0xFFFF),
    (.guestTrLimit, segmentLimit e e.trSelector, 0xFFFFFFFF),
    (.guestTrArBytes, segmentAr e e.trSelector, 0xFFFFFFFF), (.guestTrBase, tssBase e, ~~~0)]

def expectedValues : List (SetupField × U64 × U64) :=
  fixedExpected e ++
  (if activatesSecondary e then
    [(.controlSecondaryProcessorBasedVmExecutionControls, (secCtl e).setWidth 64, 0xFFFFFFFF)]
  else []) ++
  (if activatesTertiary e then
    [(.controlTertiaryProcessorBasedVmExecutionControls, 0, ~~~0)] else []) ++
  (if e.machine.xsavesEnabled then [(.controlXssExitingBitmap, 0, ~~~0)] else [])

def hostCetFields : List SetupField := [.hostSCet, .hostSsp, .hostIntrSspTable]

/-- The CET state of one side. -/
def expectedCet (supervisor ssp table : SetupField) : List (SetupField × U64 × U64) :=
  [(supervisor, cetMsr e msrIa32SCet, ~~~0), (ssp, cetMsr e msrIa32Pl0Ssp, ~~~0),
    (table, cetMsr e msrIa32InterruptSspTable, ~~~0)]

/-- The values read back are those written. Host CET state is read here. -/
def compareReadback (values : SetupField → U64) : StateM SetupState Bool := do
  let matched ← compareAll values (expectedValues e)
  if e.machine.cetVmcsEnabled then
    match ← readLocals e hostCetFields with
    | none => return false
    | some host =>
      let hostMatched ← compareAll host (expectedCet e .hostSCet .hostSsp .hostIntrSspTable)
      let guestMatched ← compareAll values (expectedCet e .guestSCet .guestSsp .guestIntrSspTable)
      return matched && hostMatched && guestMatched
  else
    return matched

/-- Whether the fields could be read, and whether they match as well. -/
def readBack : StateM SetupState (Bool × Bool) := do
  if (← get).vmcsWrite.failed then
    return (false, false)
  else
    match ← readLocals e (readbackFields e) with
    | none => return (false, false)
    | some values => return (true, ← compareReadback e values)

def finishSetup : StateM SetupState Bool := do
  let (readbackComplete, success) ← readBack e
  if readbackComplete then
    modify fun s =>
      { s with vmcsDiagnosticValidity := s.vmcsDiagnosticValidity ||| kValidityVmcsReadback }
  if !success && (← get).failure.commitState ≠ .committed then
    modify fun s => publishVmcsFailure .readback s.notes.setupPhase.code
      (if readbackComplete then 1 else 0) s
  return success

/-- The previous setup's diagnostics are void before the new VMCS is sampled. -/
def resetSetup (s : SetupState) : SetupState :=
  { s with
    vmcsWrite := ⟨false, 0, 0, 0, 0⟩
    vmcsRead := ⟨false, 0, 0, 0, 0⟩
    vmcsMismatch := ⟨false, 0, 0, 0, 0, 0⟩
    vmcsDiagnosticValidity := 0
    notes := { s.notes with
      setupPhase := .descriptors
      launchCr3 := { s.notes.launchCr3 with metadata := 0 }
      launchDescriptors := ⟨0, 0, 0, 0, 0, 0⟩
      primaryControlsCapability := 0
      tertiaryControlsAllowed := 0
      nativeTeardownRejectMask := 0
      teardownRequest := 0
      fatalSnapshotCommitState := .empty
      lastEventSnapshotValid := false }
    log := [] }

def setupVmcs : StateM SetupState SetupOutcome := do
  modify resetSetup
  match ← runSteps e (setupSteps e) with
  | some outcome => return outcome
  | none => return .returned (← finishSetup e)

end

end Knhv.Vmx.Setup
