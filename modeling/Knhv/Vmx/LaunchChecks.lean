import Knhv.Lifecycle.Processor
import Knhv.Vmx.Features

namespace Knhv.Vmx

open Teardown

def msrIa32FeatureControl : U32 := 0x3A

def ia32FeatureControlLock : U64 := bit 0
def ia32FeatureControlVmxonOutsideSmx : U64 := bit 2
def ia32XssCetS : U64 := bit 12
def ia32CetEnableMask : U64 := bit 0 ||| bit 1 ||| bit 2
def vmxBasicPhysicalAddress32 : U64 := bit 48

def cpuid1EcxVmx : U32 := 1#32 <<< 5
def cpuid1EcxHypervisor : U32 := 1#32 <<< 31
def cpuid7EbxIntelPt : U32 := 1#32 <<< 25
def cpuid7EcxWaitpkg : U32 := 1#32 <<< 5
def cpuid7EcxCetShstk : U32 := 1#32 <<< 7
def cpuid7EdxCetIbt : U32 := 1#32 <<< 20
def cpuid71EaxFred : U32 := 1#32 <<< 17
def cpuidD1Xfd : U32 := 1#32 <<< 4
def secondaryEnableUserWaitPause : U32 := 1#32 <<< 26

def pageSize : U64 := 0x1000
def vmexitFrameSize : U64 := 0x1180

inductive IntelCpuBranch
  | unknown | legacy | modern | hybridPerformance | hybridEfficient | hybridUnknown
  deriving DecidableEq, Repr

structure IntelCpuIdentity where
  family : U32
  model : U32
  stepping : U32
  coreType : U32
  branch : IntelCpuBranch
  genuineIntel : Bool

def isGenuineIntel (m : Machine) : Bool :=
  (m.cpuidex 0 0).ebx = 0x756E6547 && (m.cpuidex 0 0).edx = 0x49656E69 &&
    (m.cpuidex 0 0).ecx = 0x6C65746E

def selectIntelCpuBranch (family model coreType profile : U32) : IntelCpuBranch :=
  let knownHybridModel :=
    family = 6 && (model = 0x97 || model = 0x9A || model = 0xB7 || model = 0xBA || model = 0xBF)
  if coreType = 0x40 then
    if knownHybridModel then .hybridPerformance else .hybridUnknown
  else if coreType = 0x20 then
    if knownHybridModel then .hybridEfficient else .hybridUnknown
  else if coreType ≠ 0 then .hybridUnknown
  else if family ≠ 6 then .unknown
  else if knownHybridModel && profile &&& vmxProfileTrueControls ≠ 0 then .modern
  else .legacy

def queryIntelCpuIdentity (m : Machine) (profile : U32) : IntelCpuIdentity :=
  let maxBasicLeaf := (m.cpuidex 0 0).eax
  if !isGenuineIntel m || maxBasicLeaf < 1 then
    ⟨0, 0, 0, 0, .unknown, isGenuineIntel m⟩
  else
    let version := (m.cpuidex 1 0).eax
    let baseFamily := (version >>> 8) &&& 0xF
    let baseModel := (version >>> 4) &&& 0xF
    let extendedFamily := (version >>> 20) &&& 0xFF
    let extendedModel := (version >>> 16) &&& 0xF
    let family := if baseFamily = 0xF then baseFamily + extendedFamily else baseFamily
    let model :=
      if baseFamily = 6 || baseFamily = 0xF then baseModel ||| extendedModel <<< 4 else baseModel
    let coreType :=
      if 0x1A ≤ maxBasicLeaf then ((m.cpuidex 0x1A 0).eax >>> 24) &&& 0xFF else 0
    { family, model, stepping := version &&& 0xF, coreType
      branch := selectIntelCpuBranch family model coreType profile
      genuineIntel := true }

def isIntelCpuBranchCompatible (identity : IntelCpuIdentity) (profile : U32) : Bool :=
  let trueControls := profile &&& vmxProfileTrueControls ≠ 0
  let secondaryControls := profile &&& vmxProfileSecondaryControls ≠ 0
  identity.genuineIntel &&
    match identity.branch with
    | .unknown | .hybridUnknown => false
    | .hybridPerformance | .hybridEfficient => trueControls && secondaryControls
    | .modern => trueControls
    | .legacy => true

def ensureFeatureControlForVmx (m : Machine) : Bool :=
  let required := ia32FeatureControlLock ||| ia32FeatureControlVmxonOutsideSmx
  match m.readMsr msrIa32FeatureControl with
  | none => false
  | some featureControl => featureControl &&& required = required

def isSupervisorCetStateVmcsSafe (m : Machine)
    (supervisorCet pl0Ssp pl1Ssp pl2Ssp interruptSspTable : U64) : Bool :=
  let suppress : U64 := bit 10
  let tracker : U64 := bit 11
  supervisorCet &&& ia32CetEnableMask = 0 && supervisorCet &&& (0xF <<< 6) = 0 &&
    supervisorCet &&& (3 <<< 12) = 0 && isCanonical m supervisorCet &&
    !(supervisorCet &&& suppress ≠ 0 && supervisorCet &&& tracker ≠ 0) &&
    isCanonical m pl0Ssp && pl0Ssp &&& 3 = 0 && pl1Ssp = 0 && pl2Ssp = 0 &&
    isCanonical m interruptSspTable

/-- What may raise in the guarded region. Each runs at most once on the way
through it; the handler writes the control registers behind it. -/
inductive LaunchOperation
  | readMsr (msr : U32)
  | xgetbv | writeCr0 | writeCr4 | vmxon | vmclear | vmptrld | setupVmcs
  | diagnosticVmptrst | diagnosticVmread | clearVmptrst | clearVmclear
  | restoreCr0 | restoreCr4 | handlerCr0 | handlerCr4
  deriving DecidableEq

/-- The writes of IA32_XSS under `WriteMsrSafe`. -/
inductive XssWrite
  | guest | rejected | exception
  deriving DecidableEq

/-- What a launch finds around it. `setupVmcs`, the RFLAGS images and `raises`
are the outcomes of the operations, each any at all. -/
structure LaunchEnvironment where
  machine : Machine
  guestSp : U64
  guestIp : U64
  shouldLaunchOnThisProcessor : Bool
  hostXssMask : U64
  xsaveStateSize : U32
  vmxCapabilityProfile : U32
  hostCr3 : U64
  vmxOnPhys : U64
  vmcsPhys : U64
  msrBitmapPhys : U64
  msrBitmapVirt : U64
  hostStackTop : U64
  dr7 : U64
  vmxonFlags : U64
  vmclearFlags : U64
  vmptrldFlags : U64
  diagnosticVmptrst : U64 × U64
  setupVmcs : Bool
  clearVmptrst : U64 × U64
  clearFlags : U64
  acceptsXss : XssWrite → Bool
  raises : LaunchOperation → Bool

/-- The processor and its entry in `g_VcpuData`, with the two flags that the
handler looks at. -/
structure LaunchState where
  cr0 : U64
  cr4 : U64
  xss : U64
  vmxOperation : Bool
  currentVmcs : Option U64
  state : VcpuState
  launchStage : LaunchStage
  vmcsCurrent : Lifecycle.VmcsCurrent
  hostXss : U64
  guestXss : U64
  originalCr0 : U64
  originalCr4 : U64
  vmxActive : Bool
  cr4Prepared : Bool
  deriving DecidableEq

/-- IA32_XSS is read where the processor has it. -/
def readXss (e : LaunchEnvironment) (s : LaunchState) : Option U64 :=
  (e.machine.readMsr msrIa32Xss).map fun _ => s.xss

/-- `__readmsr` without a guard of its own. -/
def raisesReading (e : LaunchEnvironment) (msr : U32) : Bool :=
  e.raises (.readMsr msr) || (e.machine.readMsr msr).isNone

/-- One point of the guarded region: a check that may refuse, or an operation
that may raise. -/
inductive Gate
  | check (refuses : Bool)
  | operation (raises : Bool)

inductive GateStop
  | refused | raised
  deriving DecidableEq

def Gate.stop : Gate → Option GateStop
  | .check refuses => if refuses then some .refused else none
  | .operation raises => if raises then some .raised else none

/-- The first gate that stops, if one does. -/
def firstStop (gates : List Gate) : Option GateStop := gates.findSome? Gate.stop

section Checks

variable (e : LaunchEnvironment) (s : LaunchState)

def localVmxBasic : U64 := (e.machine.readMsr msrIa32VmxBasic).getD 0

def localProfile : U32 :=
  buildVmxCapabilityProfile e.machine (localVmxBasic e) e.machine.xsavesEnabled
    e.machine.cetVmcsEnabled

/-- Under `LaunchCheckCpuidAndCr`. -/
def cpuidAndCrGates : List Gate :=
  let m := e.machine
  [.check (!isGenuineIntel m),
    .check (m.readMsr msrIa32VmxBasic).isNone,
    .check (!isIntelCpuBranchCompatible (queryIntelCpuIdentity m (localProfile e)) (localProfile e)),
    .check ((m.cpuidex 1 0).ecx &&& cpuid1EcxVmx = 0 ||
      (m.cpuidex 1 0).ecx &&& cpuid1EcxHypervisor ≠ 0),
    .check (getDebugctlCapabilityMask m ≠ m.debugctlMask),
    .check (!ensureFeatureControlForVmx m)]

def localUsesXsave : Bool := e.machine.xstateMode ≠ .fxsave

def localXsaveAreaSize : U32 :=
  if localUsesXsave e then (e.machine.cpuidex 0xD 0).ebx else fxsaveAreaSize

def localXcr0 : U64 := if localUsesXsave e then e.machine.xgetbv.getD 0 else 0

def localXssMask : U64 := if localUsesXsave e then xssCapabilities e.machine else 0

def localXsaveFeatures : U32 :=
  if localUsesXsave e then (e.machine.cpuidex 0xD 1).eax else 0

def localXssRead : Bool := localUsesXsave e && (readXss e s).isSome

def localXss : U64 := if localXssRead e s then (readXss e s).getD 0 else 0

def isActive (value : Option U64) (mask : U64) : Bool :=
  match value with
  | none => true
  | some value => value &&& mask ≠ 0

/-- Under `LaunchCheckXstate`. -/
def xstateGates : List Gate :=
  let m := e.machine
  let leaf1 := m.cpuidex 1 0
  let usesXsave := localUsesXsave e
  let xcr0 := localXcr0 e
  let xss := localXss e s
  let xssRead := localXssRead e s
  [.check (usesXsave && ((m.cpuidex 0 0).eax < 0xD || leaf1.ecx &&& cpuid1EcxXsave = 0 ||
      leaf1.ecx &&& cpuid1EcxOsxsave = 0 || s.cr4 &&& cr4Osxsave = 0)),
    .check (s.cr4 &&& cr4Fred ≠ 0),
    .check (m.xstateMode = .fxsave && (leaf1.edx &&& cpuid1EdxFxsr = 0 ||
      s.cr4 &&& cr4Osfxsr = 0 || s.cr4 &&& cr4Osxsave ≠ 0 || s.cr4 &&& cr4Pke ≠ 0 ||
      s.cr4 &&& cr4Fred ≠ 0)),
    .check (s.cr0 &&& (bit 2 ||| bit 3) ≠ 0),
    .check (!isFixedCrValueValid m s.cr0 msrIa32VmxCr0Fixed0 msrIa32VmxCr0Fixed1 ||
      !isFixedCrValueValid m (s.cr4 ||| cr4Vmxe) msrIa32VmxCr4Fixed0 msrIa32VmxCr4Fixed1),
    .check ((s.cr4 &&& cr4Cet ≠ 0 : Bool) ≠ m.cetVmcsEnabled),
    .check (usesXsave && m.xgetbv.isNone),
    .check ((usesXsave && (xcr0 &&& ~~~supportedXcr0 m ≠ 0 || xcr0 &&& 3 ≠ 3 ||
      xcr0 ≠ m.hostXcr0Mask)) || vmexitXsaveMax < localXsaveAreaSize e),
    .check (m.xsavesEnabled && !xssRead),
    .check ((xssRead && xss &&& ~~~localXssMask e ≠ 0) ||
      (xssRead && xss &&& ~~~ia32XssPreservableMask ≠ 0) ||
      (xssRead && xss &&& ~~~m.enumeratedXssMask ≠ 0) ||
      (m.xsavesEnabled && xss ≠ e.hostXssMask) || (!m.xsavesEnabled && xssRead && xss ≠ 0) ||
      (xssRead && xss &&& ia32XssCetS ≠ 0)),
    .check (localXsaveFeatures e &&& cpuidD1Xfd ≠ 0 &&
      (isActive (m.readMsr msrIa32Xfd) (~~~0) || isActive (m.readMsr msrIa32XfdErr) (~~~0)))]

def localLeaf7 : CpuidRegs :=
  if 7 ≤ (e.machine.cpuidex 0 0).eax then e.machine.cpuidex 7 0 else ⟨0, 0, 0, 0⟩

/-- Under `LaunchCheckCetAndPt`. -/
def cetAndPtGates : List Gate :=
  let m := e.machine
  let leaf7 := localLeaf7 e
  let shadowStack := leaf7.ecx &&& cpuid7EcxCetShstk ≠ 0
  let cet := shadowStack || leaf7.edx &&& cpuid7EdxCetIbt ≠ 0
  [.check (1 ≤ leaf7.eax && (m.cpuidex 7 1).eax &&& cpuid71EaxFred ≠ 0 && s.cr4 &&& cr4Fred ≠ 0),
    .check (leaf7.ecx &&& cpuid7EcxWaitpkg ≠ 0 &&
      !vmxControlAllows m msrIa32VmxProcbasedCtls2 secondaryEnableUserWaitPause),
    .check (cet && isActive (m.readMsr msrIa32UCet) ia32CetEnableMask),
    .check (cet && shadowStack && isActive (m.readMsr msrIa32Pl3Ssp) (~~~0)),
    .check (leaf7.ebx &&& cpuid7EbxIntelPt ≠ 0 &&
      isActive (m.readMsr msrIa32RtitCtl) ia32RtitCtlTraceen)]

def isXsaveLayoutLocal : Bool :=
  let m := e.machine
  match computeXsaveAreaSize m (localXcr0 e) m.xsavesMask with
  | none => false
  | some (enumeratedXss, stateSize) =>
    localXsaveFeatures e &&& cpuidD1Xsaves ≠ 0 && m.xsavesMask &&& ~~~localXssMask e = 0 &&
      enumeratedXss = localXssMask e &&
      (if localUsesXsave e then (m.cpuidex 0xD 1).ebx else 0) = stateSize &&
      stateSize = e.xsaveStateSize && stateSize ≤ vmexitXsaveMax &&
      vmxControlAllows m msrIa32VmxProcbasedCtls2 secondaryEnableXsaves

/-- Under `LaunchCheckXsaveLayout`. -/
def xsaveLayoutGates : List Gate :=
  [.check (if e.machine.xsavesEnabled then !isXsaveLayoutLocal e
    else localXsaveAreaSize e ≠ e.xsaveStateSize)]

def isCetControllable : Bool :=
  let m := e.machine
  vmxControlAllows m (controlMsr (localVmxBasic e) msrIa32VmxExitCtls msrIa32VmxTrueExitCtls)
      vmExitLoadCetState &&
    vmxControlAllows m (controlMsr (localVmxBasic e) msrIa32VmxEntryCtls msrIa32VmxTrueEntryCtls)
      vmEntryLoadCetState

def isCetStateLocal : Bool :=
  let m := e.machine
  match m.readMsr msrIa32SCet, m.readMsr msrIa32Pl0Ssp, m.readMsr msrIa32Pl1Ssp,
    m.readMsr msrIa32Pl2Ssp, m.readMsr msrIa32InterruptSspTable with
  | some supervisorCet, some pl0, some pl1, some pl2, some table =>
    isSupervisorCetStateVmcsSafe m supervisorCet pl0 pl1 pl2 table
  | _, _, _, _, _ => false

/-- Under `LaunchCheckVmxProfile`. -/
def vmxProfileGates : List Gate :=
  let m := e.machine
  let globalProfileMask := vmxProfileXsaves ||| vmxProfileCetVmcs
  let regionSize := (localVmxBasic e >>> 32) &&& 0x1FFF
  [.check (m.cetVmcsEnabled && !isCetControllable e),
    .check (m.cetVmcsEnabled && !isCetStateLocal e),
    .check (localProfile e &&& globalProfileMask ≠ e.vmxCapabilityProfile &&& globalProfileMask),
    .check (s.cr4 &&& cr4Pke ≠ 0 && localXcr0 e &&& xcr0Pkru = 0),
    .check ((localVmxBasic e >>> 50) &&& 0xF ≠ 6 || regionSize = 0 || pageSize < regionSize),
    .check (localVmxBasic e &&& vmxBasicPhysicalAddress32 ≠ 0 &&
      (0xFFFFFFFF < e.vmxOnPhys || 0xFFFFFFFF < e.vmcsPhys || 0xFFFFFFFF < e.msrBitmapPhys)),
    .check (e.hostStackTop &&& 0x3F ≠ 0 || (e.hostStackTop - vmexitFrameSize) &&& 0x3F ≠ 0)]

/-- Under `LaunchCheckRegions`, up to where the state of the host is captured. -/
def regionGates : List Gate :=
  let m := e.machine
  [.check (e.msrBitmapVirt = 0),
    .operation (raisesReading e msrIa32KernelGsBase),
    .check (!isValidGuestDr7 e.dr7),
    .check (m.readMsr msrIa32Debugctl).isNone,
    .check (!isValidDebugctl m ((m.readMsr msrIa32Debugctl).getD 0)),
    .operation (localUsesXsave e && (e.raises .xgetbv || m.xgetbv.isNone)),
    .check (m.xsavesEnabled && ((readXss e s).isNone || s.xss &&& ~~~m.enumeratedXssMask ≠ 0 ||
      s.xss &&& ~~~m.xsavesMask ≠ 0)),
    .operation (raisesReading e msrGsBase)]

/-- Whatever comes before the state of the host is captured. -/
def gatesBeforeCapture : List Gate :=
  cpuidAndCrGates e ++ xstateGates e s ++ cetAndPtGates e s ++ xsaveLayoutGates e ++
    vmxProfileGates e s ++ regionGates e s

end Checks

end Knhv.Vmx
