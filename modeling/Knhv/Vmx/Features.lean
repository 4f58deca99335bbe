import Knhv.Vmx.Emulation
import Knhv.Lib.Masks

namespace Knhv.Vmx

def cr4Osfxsr : U64 := bit 9

def cpuid1EdxFxsr : U32 := 1#32 <<< 24
def cpuid1EcxXsave : U32 := 1#32 <<< 26
def cpuid1EcxOsxsave : U32 := 1#32 <<< 27
def cpuidD1Xsaves : U32 := 1#32 <<< 3

def ia32XssIpt : U64 := bit 8
def ia32XssCetU : U64 := bit 11
def ia32XssPreservableMask : U64 := ia32XssIpt ||| ia32XssCetU

def msrIa32VmxBasic : U32 := 0x480
def msrIa32VmxProcbasedCtls : U32 := 0x482
def msrIa32VmxExitCtls : U32 := 0x483
def msrIa32VmxEntryCtls : U32 := 0x484
def msrIa32VmxMisc : U32 := 0x485
def msrIa32VmxProcbasedCtls2 : U32 := 0x48B
def msrIa32VmxTrueProcbasedCtls : U32 := 0x48E
def msrIa32VmxTrueExitCtls : U32 := 0x48F
def msrIa32VmxTrueEntryCtls : U32 := 0x490
def msrIa32VmxProcbasedCtls3 : U32 := 0x492
def msrIa32RtitCtl : U32 := 0x570

def vmxBasicTrueControls : U64 := bit 55
def vmxMiscIntelPt : U64 := bit 14
def ia32RtitCtlTraceen : U64 := bit 0

def cpuBasedActivateTertiaryControls : U32 := 1#32 <<< 17
def cpuBasedActivateSecondaryControls : U32 := 1#32 <<< 31
def secondaryEnableRdtscp : U32 := 1#32 <<< 3
def secondaryEnableInvpcid : U32 := 1#32 <<< 12
def secondaryEnableXsaves : U32 := 1#32 <<< 20
def vmExitLoadCetState : U32 := 1#32 <<< 28
def vmEntryLoadCetState : U32 := 1#32 <<< 20

def vmxProfileLegacyControls : U32 := 1#32 <<< 0
def vmxProfileTrueControls : U32 := 1#32 <<< 1
def vmxProfileSecondaryControls : U32 := 1#32 <<< 2
def vmxProfileXsaves : U32 := 1#32 <<< 3
def vmxProfileCetVmcs : U32 := 1#32 <<< 4
def vmxProfileRdtscp : U32 := 1#32 <<< 5
def vmxProfileInvpcid : U32 := 1#32 <<< 6
def vmxProfileTertiaryControls : U32 := 1#32 <<< 7

def fxsaveAreaSize : U32 := 512

/-- The offset of `GuestContext::Rax` in the exit frame: the save area ends
here. -/
def guestRegistersOffset : U32 := 0x1000

def ia32DebugctlBusLockDetect : U64 := bit 2

def kDebugctlArchitecturalMask : U64 :=
  bit 0 ||| bit 1 ||| ia32DebugctlBusLockDetect ||| bit 6 ||| bit 7 ||| bit 8 ||| bit 9 |||
    bit 10 ||| bit 11 ||| bit 12 ||| bit 14 ||| bit 15

def getDebugctlCapabilityMask (m : Machine) : U64 :=
  if (m.cpuidex 0 0).eax < 7 || (m.cpuidex 7 0).edx &&& (1#32 <<< 24) = 0 then
    kDebugctlArchitecturalMask &&& ~~~ia32DebugctlBusLockDetect
  else
    kDebugctlArchitecturalMask

/-- A capability MSR allows a one in its mandatory or in its optional half. -/
def controlBitCanBeOne (capability : U64) (mask : U32) : Bool :=
  let mandatoryOne : U32 := capability.setWidth 32
  let allowedOne : U32 := (capability >>> 32).setWidth 32
  (mandatoryOne ||| allowedOne) &&& mask = mask

def controlMsr (vmxBasic : U64) (legacyMsr trueMsr : U32) : U32 :=
  if vmxBasic &&& vmxBasicTrueControls ≠ 0 then trueMsr else legacyMsr

def vmxControlAllows (m : Machine) (msr mask : U32) : Bool :=
  match m.readMsr msr with
  | none => false
  | some value => controlBitCanBeOne value mask

def primaryControls (m : Machine) (vmxBasic : U64) : Option U64 :=
  m.readMsr (controlMsr vmxBasic msrIa32VmxProcbasedCtls msrIa32VmxTrueProcbasedCtls)

/-- The secondary controls, where the primary controls can activate them. -/
def secondaryControls (m : Machine) (vmxBasic : U64) : Option U64 :=
  match primaryControls m vmxBasic with
  | none => none
  | some primary =>
    if controlBitCanBeOne primary cpuBasedActivateSecondaryControls then
      m.readMsr msrIa32VmxProcbasedCtls2
    else
      none

def secondaryAllows (m : Machine) (vmxBasic : U64) (mask : U32) : Bool :=
  match secondaryControls m vmxBasic with
  | none => false
  | some controls => controlBitCanBeOne controls mask

def hasTertiaryControls (m : Machine) (vmxBasic : U64) : Bool :=
  match primaryControls m vmxBasic with
  | none => false
  | some primary =>
    controlBitCanBeOne primary cpuBasedActivateTertiaryControls &&
      (m.readMsr msrIa32VmxProcbasedCtls3).isSome

def buildVmxCapabilityProfile (m : Machine) (vmxBasic : U64) (xsaves cetVmcs : Bool) : U32 :=
  (if vmxBasic &&& vmxBasicTrueControls ≠ 0 then vmxProfileTrueControls
    else vmxProfileLegacyControls) |||
  Masks.gather
    [((secondaryControls m vmxBasic).isSome, vmxProfileSecondaryControls),
      (xsaves && secondaryAllows m vmxBasic secondaryEnableXsaves, vmxProfileXsaves),
      (cetVmcs, vmxProfileCetVmcs),
      (7 ≤ (m.cpuidex 0 0).eax && (m.cpuidex 7 0).ebx &&& (1#32 <<< 10) ≠ 0 &&
        secondaryAllows m vmxBasic secondaryEnableInvpcid, vmxProfileInvpcid),
      (0x80000001 ≤ (m.cpuidex 0x80000000 0).eax &&
        (m.cpuidex 0x80000001 0).edx &&& (1#32 <<< 27) ≠ 0 &&
        secondaryAllows m vmxBasic secondaryEnableRdtscp, vmxProfileRdtscp),
      (hasTertiaryControls m vmxBasic, vmxProfileTertiaryControls)]

/-- The globals that a load fixes for its VMX run. -/
structure FeatureContract where
  initialized : Bool
  valid : Bool
  cetVmcsEnabled : Bool
  xsavesEnabled : Bool
  xstateMode : XstateMode
  xsavesMask : U64
  enumeratedXssMask : U64
  supportedXssMask : U64
  guestXssWriteMask : U64
  hostXssMask : U64
  hostXcr0Mask : U64
  debugctlMask : U64
  xsaveStateSize : U32
  vmxCapabilityProfile : U32
  vmxGuestOptionalProfile : U32
  vmxGuestOptionalProfileCandidate : U32

/-- Every global at its start value. -/
def clearedContract (initialized : Bool) (debugctlMask : U64) : FeatureContract where
  initialized := initialized
  valid := false
  cetVmcsEnabled := false
  xsavesEnabled := false
  xstateMode := .fxsave
  xsavesMask := 0
  enumeratedXssMask := 0
  supportedXssMask := 0
  guestXssWriteMask := 0
  hostXssMask := 0
  hostXcr0Mask := 0
  debugctlMask := debugctlMask
  xsaveStateSize := 0
  vmxCapabilityProfile := 0
  vmxGuestOptionalProfile := 0
  vmxGuestOptionalProfileCandidate := 0

/-- XSAVE is enumerated and Windows has switched it on. -/
def isXsaveActive (m : Machine) (currentCr4 : U64) : Bool :=
  0xD ≤ (m.cpuidex 0 0).eax && (m.cpuidex 1 0).ecx &&& cpuid1EcxXsave ≠ 0 &&
    (m.cpuidex 1 0).ecx &&& cpuid1EcxOsxsave ≠ 0 && currentCr4 &&& cr4Osxsave ≠ 0

def isFxsaveUsable (m : Machine) (currentCr4 : U64) : Bool :=
  (m.cpuidex 1 0).edx &&& cpuid1EdxFxsr ≠ 0 && currentCr4 &&& cr4Osfxsr ≠ 0 &&
    currentCr4 &&& cr4Osxsave = 0 && currentCr4 &&& cr4Cet = 0 && currentCr4 &&& cr4Fred = 0 &&
    currentCr4 &&& cr4Pke = 0

/-- The legacy backend: no XCR0, no IA32_XSS, the FPU and SSE image only. -/
def selectFxsave (m : Machine) (currentCr4 vmxBasic : U64) : StateM FeatureContract Bool := do
  if !isFxsaveUsable m currentCr4 then
    return false
  else
    modify fun g => { g with
      xstateMode := .fxsave
      xsavesEnabled := false
      xsavesMask := 0
      enumeratedXssMask := 0
      supportedXssMask := 0
      guestXssWriteMask := 0
      hostXssMask := 0
      hostXcr0Mask := 0
      xsaveStateSize := fxsaveAreaSize
      vmxCapabilityProfile := buildVmxCapabilityProfile m vmxBasic false false
      valid := true }
    return true

/-- The live XCR0, if it is enumerated and has x87, SSE and the PKRU that CR4
asks for. -/
def sampleXcr0 (m : Machine) (currentCr4 : U64) : Option U64 :=
  match m.xgetbv with
  | none => none
  | some hostXcr0 =>
    if supportedXcr0 m &&& 3 ≠ 3 || hostXcr0 &&& ~~~supportedXcr0 m ≠ 0 ||
        hostXcr0 &&& 3 ≠ 3 then none
    else if currentCr4 &&& cr4Pke ≠ 0 && hostXcr0 &&& xcr0Pkru = 0 then none
    else some hostXcr0

def hasXsavesInstruction (m : Machine) : Bool := (m.cpuidex 0xD 1).eax &&& cpuidD1Xsaves ≠ 0

/-- A selected IPT component needs tracing in VMX operation, and tracing off. -/
def isIptPreservable (m : Machine) (hostXss : U64) : Bool :=
  if hostXss &&& ia32XssIpt ≠ 0 then
    match m.readMsr msrIa32VmxMisc, m.readMsr msrIa32RtitCtl with
    | some vmxMisc, some ptControl =>
      vmxMisc &&& vmxMiscIntelPt ≠ 0 && ptControl &&& ia32RtitCtlTraceen = 0
    | _, _ => false
  else
    true

/-- The live IA32_XSS, zero where it cannot be read. -/
def sampleXss (m : Machine) : Option U64 :=
  let xssRead := (m.readMsr msrIa32Xss).isSome
  let hostXss := (m.readMsr msrIa32Xss).getD 0
  if hasXsavesInstruction m && !xssRead then none
  else if xssRead && hostXss &&& ~~~xssCapabilities m ≠ 0 then none
  else if hostXss &&& ~~~ia32XssPreservableMask ≠ 0 then none
  else if !isIptPreservable m hostXss then none
  else some hostXss

def isXsavesUsable (m : Machine) (profile : U32) : Bool :=
  hasXsavesInstruction m && (m.readMsr msrIa32Xss).isSome &&
    profile &&& vmxProfileSecondaryControls ≠ 0 &&
    vmxControlAllows m msrIa32VmxProcbasedCtls2 secondaryEnableXsaves

/-- The masks that follow from the chosen save instruction; a frame that is
empty or does not fit is refused. -/
def settleFrame (m : Machine) : StateM FeatureContract Bool := do
  modify fun g =>
    if g.xsavesEnabled then { g with xstateMode := .xsaves }
    else { g with
      xsaveStateSize := (m.cpuidex 0xD 0).ebx
      xstateMode := .xsave
      supportedXssMask := 0 }
  modify fun g => { g with xsavesMask := if g.xsavesEnabled then g.hostXssMask else 0 }
  modify fun g => { g with
    supportedXssMask :=
      if g.xsavesEnabled then g.xsavesMask &&& xssCapabilities m &&& ia32XssPreservableMask
      else 0 }
  modify fun g => { g with guestXssWriteMask := g.supportedXssMask }
  let g ← get
  return g.xsaveStateSize ≠ 0 && g.xsaveStateSize ≤ vmexitXsaveMax

/-- XSAVES where the controls allow it, plain XSAVE where IA32_XSS selects
nothing. -/
def selectFrame (m : Machine) (hostXcr0 hostXss : U64) : StateM FeatureContract Bool := do
  if isXsavesUsable m (← get).vmxCapabilityProfile then
    if hostXss &&& ~~~xssCapabilities m ≠ 0 || hostXss &&& ~~~ia32XssPreservableMask ≠ 0 then
      return false
    else
      match computeXsaveAreaSize m hostXcr0 hostXss with
      | none => return false
      | some (computedXssCapabilities, areaSize) =>
        modify fun g => { g with xsaveStateSize := areaSize }
        if hostXss &&& ~~~computedXssCapabilities ≠ 0 || areaSize ≠ (m.cpuidex 0xD 1).ebx then
          return false
        else
          modify fun g => { g with xsavesEnabled := true }
          settleFrame m
  else if hostXss ≠ 0 then
    return false
  else
    settleFrame m

/-- CR4.CET needs the paired CET controls of VM entry and VM exit. -/
def selectCet (m : Machine) (currentCr4 vmxBasic : U64) : StateM FeatureContract Bool := do
  if currentCr4 &&& cr4Cet ≠ 0 then
    let exitMsr := controlMsr vmxBasic msrIa32VmxExitCtls msrIa32VmxTrueExitCtls
    let entryMsr := controlMsr vmxBasic msrIa32VmxEntryCtls msrIa32VmxTrueEntryCtls
    if !vmxControlAllows m exitMsr vmExitLoadCetState ||
        !vmxControlAllows m entryMsr vmEntryLoadCetState then
      return false
    else
      modify fun g => { g with cetVmcsEnabled := true }
      return true
  else
    return true

def selectXsave (m : Machine) (currentCr4 vmxBasic : U64) : StateM FeatureContract Bool := do
  modify fun g => { g with
    vmxCapabilityProfile := buildVmxCapabilityProfile m vmxBasic false false }
  match sampleXcr0 m currentCr4 with
  | none => return false
  | some hostXcr0 =>
    modify fun g => { g with enumeratedXssMask := xssCapabilities m }
    match sampleXss m with
    | none => return false
    | some hostXss =>
      modify fun g => { g with hostXssMask := hostXss, hostXcr0Mask := hostXcr0 }
      if !(← selectFrame m hostXcr0 hostXss) then
        return false
      else if !(← selectCet m currentCr4 vmxBasic) then
        return false
      else
        modify fun g => { g with
          vmxCapabilityProfile :=
            buildVmxCapabilityProfile m vmxBasic g.xsavesEnabled g.cetVmcsEnabled
          valid := true }
        return true

/-- Sample the processor once a load. While the vCPU array is allocated an
earlier answer stands. -/
def initializeVmxFeatureContract (m : Machine) (currentCr4 : U64) :
    StateM FeatureContract Bool := do
  if !m.vcpuData then
    set (clearedContract false kDebugctlArchitecturalMask)
  let contract ← get
  if contract.initialized then
    return contract.valid
  else
    set (clearedContract true (getDebugctlCapabilityMask m))
    match m.readMsr msrIa32VmxBasic with
    | none => return false
    | some vmxBasic =>
      if isXsaveActive m currentCr4 then selectXsave m currentCr4 vmxBasic
      else selectFxsave m currentCr4 vmxBasic

end Knhv.Vmx
