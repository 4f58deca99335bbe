import Knhv.Vmx.Checks

namespace Knhv.Vmx

def kVmEntryIntrInfoValid : U32 := 1#32 <<< 31
def kVmEntryIntrInfoDeliverErrorCode : U32 := 1#32 <<< 11
def kVmEntryIntrTypeHardwareException : U32 := 3#32 <<< 8

def haltVm : StateM ExitState Unit := modifyCtx fun c => { c with haltVm := true }

def requestFatalStop : StateM ExitState Unit :=
  modifyCtx fun c => { c with abortVm := false, haltVm := true }

/-- An event of the exit is still being delivered. -/
def eventInFlight (event : EventSnapshot) : Bool :=
  event.vmEntryIntrInfo &&& kVmEntryIntrInfoValid ≠ 0 ||
    event.vmExitIntrInfo &&& kVmEntryIntrInfoValid ≠ 0 ||
    event.idtVectoringInfo &&& kVmEntryIntrInfoValid ≠ 0 ||
    event.guestPendingDbgExceptions ≠ 0

def interruptionInfo (vector : U8) (hasErrorCode : Bool) : U32 :=
  let info := kVmEntryIntrInfoValid ||| kVmEntryIntrTypeHardwareException ||| vector.setWidth 32
  if hasErrorCode then info ||| kVmEntryIntrInfoDeliverErrorCode else info

/-- The VM-entry fields that deliver the exception. -/
def exceptionFields (vector : U8) (hasErrorCode : Bool) (errorCode : U32) :
    List (VmcsField × U64) :=
  [(.controlVmEntryIntrInfoField, (interruptionInfo vector hasErrorCode).setWidth 64),
    (.controlVmEntryExceptionErrorCode, if hasErrorCode then errorCode.setWidth 64 else 0),
    (.controlVmEntryInstructionLength, 0)]

def injectGuestException (m : Machine) (vector : U8) (hasErrorCode : Bool) (errorCode : U32) :
    StateM ExitState Unit := do
  let vcpu := (← get).vcpu
  if !m.hasVcpu || !vcpu.lastEventSnapshotValid || 31 < vector || eventInFlight vcpu.lastEvent then
    requestFatalStop
    return
  if !(← writeAll m (exceptionFields vector hasErrorCode errorCode)) then
    haltVm

/-- Inject #GP(0) at the unchanged RIP. -/
def refuse (m : Machine) : StateM ExitState Bool := do
  injectGuestException m 13 true 0
  return false

/-- Inject #UD at the unchanged RIP. -/
def refuseUndefined (m : Machine) : StateM ExitState Bool := do
  injectGuestException m 6 false 0
  return false

/-- `Ctx->HaltVm = 1; return false;` -/
def giveUp : StateM ExitState Bool := do
  haltVm
  return false

/-- `Ctx->AbortVm = 0; Ctx->HaltVm = 1; return false;` -/
def stopVm : StateM ExitState Bool := do
  requestFatalStop
  return false

def isUserMode (c : GuestContext) : Bool := c.guestCs &&& 3 ≠ 0

/-- `static_cast<u32>` back in a 64-bit register. -/
def low32 (value : U64) : U64 := (value.setWidth 32).setWidth 64

/-- What RDMSR answers from the guest's copies; `none` is #GP. -/
def guestMsrValue (m : Machine) (c : GuestContext) (msrIndex : U32) : Option U64 :=
  if msrIndex = msrFsBase then some c.guestFsBase
  else if msrIndex = msrGsBase then some c.guestGsBase
  else if msrIndex = msrIa32KernelGsBase then some c.guestKernelGsBase
  else if msrIndex = msrIa32Efer then some c.guestEfer
  else if msrIndex = msrIa32Pat then some c.guestPat
  else if msrIndex = msrIa32Debugctl then some c.guestDebugctl
  else if msrIndex = msrIa32SysenterCs then some c.guestSysenterCs
  else if msrIndex = msrIa32SysenterEsp then some c.guestSysenterEsp
  else if msrIndex = msrIa32SysenterEip then some c.guestSysenterEip
  else if msrIndex = msrIa32Xss then if m.xsavesEnabled then some c.guestXss else some 0
  else if msrIndex = msrIa32UCet || msrIndex = msrIa32Pl3Ssp then some 0
  else if m.cetVmcsEnabled && msrIndex = msrIa32SCet then some c.guestSCet
  else if m.cetVmcsEnabled && msrIndex = msrIa32InterruptSspTable then
    some c.guestInterruptSspTable
  else if m.cetVmcsEnabled && msrIndex = msrIa32Pl0Ssp then some c.guestSsp
  else if m.cetVmcsEnabled && (msrIndex = msrIa32Pl1Ssp || msrIndex = msrIa32Pl2Ssp) then some 0
  else if isIntelPtMsr msrIndex || isCetStateMsr msrIndex then none
  else if msrIndex = msrIa32Xfd || msrIndex = msrIa32XfdErr then none
  else none

def handleMsrRead (m : Machine) : StateM ExitState Bool := do
  let c := (← get).ctx
  if isUserMode c then
    refuse m
  else
    match guestMsrValue m c (c.rcx.setWidth 32) with
    | some value =>
      modifyCtx fun c => { c with rax := low32 value, rdx := low32 (value >>> 32) }
      return true
    | none => refuse m

/-- Carry an accepted value to its VMCS fields and to its software copy. -/
def commit (m : Machine) (writes : List (VmcsField × U64)) (store : GuestContext → GuestContext) :
    StateM ExitState Bool := do
  if !(← writeAll m writes) then
    giveUp
  else
    modifyCtx store
    return true

/-- One row of WRMSR: the value has to pass its check, then goes to the VMCS
field of the MSR, if it has one, and to the software copy. -/
def writeGuestMsr (m : Machine) (valid : Bool) (field : Option VmcsField) (value : U64)
    (store : GuestContext → GuestContext) : StateM ExitState Bool :=
  if !valid then refuse m else commit m (field.toList.map fun field => (field, value)) store

/-- Only SCE and NXE may change, and NXE needs its CPUID bit. -/
def isEferWriteValid (m : Machine) (oldValue value : U64) : Bool :=
  (value ^^^ oldValue) &&& ~~~(eferSce ||| eferNxe) = 0 &&
    0x80000001 ≤ (m.cpuidex 0x80000000 0).eax &&
    (value &&& eferNxe = 0 || (m.cpuidex 0x80000001 0).edx &&& (1#32 <<< 20) ≠ 0)

/-- A selector outside the frame stops the vCPU; without a vCPU record it is
refused. -/
def rejectXssWrite (m : Machine) : StateM ExitState Bool :=
  if m.hasVcpu then do
    modifyVcpu fun vcpu => { vcpu with xssWriteRejectCount := vcpu.xssWriteRejectCount + 1 }
    stopVm
  else
    refuse m

def isXssWriteInside (m : Machine) (value : U64) : Bool :=
  value &&& ~~~m.guestXssWriteMask = 0 && value &&& ~~~m.xsavesMask = 0 &&
    value &&& ~~~m.enumeratedXssMask = 0

def handleXssWrite (m : Machine) (value : U64) : StateM ExitState Bool := do
  let previous := (← get).ctx.guestXss
  recordVcpu m fun vcpu => { vcpu with
    xssWriteExitCount := vcpu.xssWriteExitCount + 1
    lastXssWritePrevious := previous
    lastXssWriteRequested := value }
  if (if m.xsavesEnabled then isXssWriteInside m value else value = 0) then
    modifyCtx fun c => { c with guestXss := value }
    recordVcpu m fun vcpu => { vcpu with guestXss := value }
    return true
  else
    rejectXssWrite m

def handleMsrWrite (m : Machine) : StateM ExitState Bool := do
  let c := (← get).ctx
  if isUserMode c then
    refuse m
  else
    let msrIndex : U32 := c.rcx.setWidth 32
    let value := joinHalves (c.rax.setWidth 32) (c.rdx.setWidth 32)
    if msrIndex = msrFsBase then
      writeGuestMsr m (isCanonical m value) (some .guestFsBase) value
        fun c => { c with guestFsBase := value }
    else if msrIndex = msrGsBase then
      writeGuestMsr m (isCanonical m value) (some .guestGsBase) value
        fun c => { c with guestGsBase := value }
    else if msrIndex = msrIa32KernelGsBase then
      writeGuestMsr m (isCanonical m value) none value
        fun c => { c with guestKernelGsBase := value }
    else if msrIndex = msrIa32Efer then
      writeGuestMsr m (isEferWriteValid m c.guestEfer value) (some .guestEfer) value
        fun c => { c with guestEfer := value }
    else if msrIndex = msrIa32Pat then
      writeGuestMsr m (isValidPatValue value) (some .guestPat) value
        fun c => { c with guestPat := value }
    else if msrIndex = msrIa32Debugctl then
      writeGuestMsr m (isValidDebugctl m value) (some .guestDebugctl) value
        fun c => { c with guestDebugctl := value }
    else if msrIndex = msrIa32SysenterCs then
      writeGuestMsr m (value &&& ~~~0xFFFF = 0) (some .guestSysenterCs) value
        fun c => { c with guestSysenterCs := value }
    else if msrIndex = msrIa32SysenterEsp then
      writeGuestMsr m (isCanonical m value) (some .guestSysenterEsp) value
        fun c => { c with guestSysenterEsp := value }
    else if msrIndex = msrIa32SysenterEip then
      writeGuestMsr m (isCanonical m value) (some .guestSysenterEip) value
        fun c => { c with guestSysenterEip := value }
    else if msrIndex = msrIa32Xss then
      handleXssWrite m value
    else if msrIndex = msrIa32UCet || msrIndex = msrIa32Pl3Ssp then
      refuse m
    else if m.cetVmcsEnabled && msrIndex = msrIa32SCet then
      writeGuestMsr m (value = 0) (some .guestSCet) value fun c => { c with guestSCet := value }
    else if m.cetVmcsEnabled && msrIndex = msrIa32InterruptSspTable then
      writeGuestMsr m (value = 0) (some .guestIntrSspTable) value
        fun c => { c with guestInterruptSspTable := value }
    else if m.cetVmcsEnabled && msrIndex = msrIa32Pl0Ssp then
      writeGuestMsr m (value = 0) (some .guestSsp) value fun c => { c with guestSsp := value }
    else if m.cetVmcsEnabled && (msrIndex = msrIa32Pl1Ssp || msrIndex = msrIa32Pl2Ssp) then
      writeGuestMsr m (value = 0) none value id
    else if isIntelPtMsr msrIndex || isCetStateMsr msrIndex then
      refuse m
    else if msrIndex = msrIa32Xfd || msrIndex = msrIa32XfdErr then
      refuse m
    else
      refuse m

def getGpr (c : GuestContext) (reg : Nat) : U64 :=
  match reg with
  | 0 => c.rax | 1 => c.rcx | 2 => c.rdx | 3 => c.rbx
  | 4 => c.guestRsp | 5 => c.rbp | 6 => c.rsi | 7 => c.rdi
  | 8 => c.r8 | 9 => c.r9 | 10 => c.r10 | 11 => c.r11
  | 12 => c.r12 | 13 => c.r13 | 14 => c.r14 | 15 => c.r15
  | _ => 0

/-- The stack pointer lives in the VMCS, the other registers in the frame. -/
def setGpr (m : Machine) (reg : Nat) (v : U64) : StateM ExitState Bool :=
  if reg = 4 then do
    modifyCtx fun c => { c with guestRsp := v }
    vmWriteChecked m .guestRsp v
  else do
    modifyCtx fun c => match reg with
      | 0 => { c with rax := v } | 1 => { c with rcx := v } | 2 => { c with rdx := v }
      | 3 => { c with rbx := v } | 5 => { c with rbp := v } | 6 => { c with rsi := v }
      | 7 => { c with rdi := v } | 8 => { c with r8 := v } | 9 => { c with r9 := v }
      | 10 => { c with r10 := v } | 11 => { c with r11 := v } | 12 => { c with r12 := v }
      | 13 => { c with r13 := v } | 14 => { c with r14 := v } | 15 => { c with r15 := v }
      | _ => c
    return reg < 16

def isCr0WriteValid (m : Machine) (c : GuestContext) (value : U64) : Bool :=
  isFixedCrValueValid m value msrIa32VmxCr0Fixed0 msrIa32VmxCr0Fixed1 &&
    value &&& kRequiredCr0Bits = kRequiredCr0Bits && c.guestCr4 &&& bit 5 ≠ 0 &&
    !(c.guestCr4 &&& cr4Pcide ≠ 0 && value &&& bit 31 = 0)

def movToCr0 (m : Machine) (value : U64) : StateM ExitState Bool := do
  if !isCr0WriteValid m (← get).ctx value then
    refuse m
  else
    commit m [(.guestCr0, value), (.controlCr0ReadShadow, value)]
      fun c => { c with guestCr0 := value }

/-- The checks on a CR4 value that come before the guest's CR3 is read. -/
def isCr4WriteValid (m : Machine) (c : GuestContext) (hostXcr0 value : U64) : Bool :=
  decide (value &&& cr4Osxsave ≠ 0) = decide (m.xstateMode ≠ .fxsave) &&
    value &&& cr4Fred = 0 &&
    !(value &&& cr4Cet ≠ 0 && !m.cetVmcsEnabled) &&
    !(value &&& cr4Pke ≠ 0 && (!m.hasVcpu || hostXcr0 &&& xcr0Pkru = 0)) &&
    isFixedCrValueValid m (value ||| cr4Vmxe) msrIa32VmxCr4Fixed0 msrIa32VmxCr4Fixed1 &&
    value &&& kRequiredCr4Bits ≠ 0 && c.guestCr0 &&& bit 31 ≠ 0

def movToCr4 (m : Machine) (value : U64) : StateM ExitState Bool := do
  let s ← get
  if !isCr4WriteValid m s.ctx s.vcpu.host.xcr0 value then
    refuse m
  else
    match ← vmReadChecked m .guestCr3 with
    | none => giveUp
    | some currentCr3 =>
      let actualCr4 := value ||| cr4Vmxe
      if !isValidArchitecturalCr3 m currentCr3 actualCr4 then
        refuse m
      else
        commit m [(.guestCr4, actualCr4), (.controlCr4ReadShadow, value &&& getCr4GuestHostMask)]
          fun c => { c with guestCr4 := actualCr4 }

def movToCr3 (m : Machine) (value : U64) : StateM ExitState Bool := do
  match ← vmReadChecked m .guestCr4 with
  | none => giveUp
  | some guestCr4 =>
    if !isValidCr3 m value guestCr4 then
      refuse m
    else
      let normalizedCr3 := normalizeCr3 value guestCr4
      commit m [(.guestCr3, normalizedCr3)] fun c => { c with guestCr3 := normalizedCr3 }

/-- Put the value that was read into the register operand. -/
def storeGpr (m : Machine) (gpr : Nat) (value : U64) : StateM ExitState Bool := do
  if !(← setGpr m gpr value) then haltVm
  return !(← get).ctx.haltVm

def movFromCr (m : Machine) (field : VmcsField) (gpr : Nat) : StateM ExitState Bool := do
  match ← vmReadChecked m field with
  | none => giveUp
  | some value => storeGpr m gpr value

def movFromCr4 (m : Machine) (gpr : Nat) : StateM ExitState Bool := do
  match ← readLocals m [.guestCr4, .controlCr4GuestHostMask, .controlCr4ReadShadow] with
  | none => giveUp
  | some values =>
    let mask := values .controlCr4GuestHostMask
    storeGpr m gpr ((values .guestCr4 &&& ~~~mask) ||| (values .controlCr4ReadShadow &&& mask))

/-- Decode the exit qualification of a control-register access. CLTS, LMSW and
the other registers are not emulated. -/
def accessCr (m : Machine) (qual : U64) : StateM ExitState Bool := do
  let gpr := ((qual >>> 8) &&& 0xF).toNat
  let value := getGpr (← get).ctx gpr
  match ((qual >>> 4) &&& 3).toNat, (qual &&& 0xF).toNat with
  | 0, 0 => movToCr0 m value
  | 0, 4 => movToCr4 m value
  | 0, 3 => movToCr3 m value
  | 1, 0 => movFromCr m .guestCr0 gpr
  | 1, 4 => movFromCr4 m gpr
  | 1, 3 => movFromCr m .guestCr3 gpr
  | _, _ => refuseUndefined m

def handleCrAccess (m : Machine) : StateM ExitState Bool := do
  if isUserMode (← get).ctx then
    refuse m
  else
    match ← vmReadChecked m .exitQualification with
    | none => giveUp
    | some qual => accessCr m qual

/-- A mask that names some of the bits of a group names all of them. -/
def isGroupComplete (requested group : U64) : Bool :=
  requested &&& group = 0 || requested &&& group = group

def isXcr0RequestValid (m : Machine) (c : GuestContext) (requested : U64) : Bool :=
  requested &&& ~~~supportedXcr0 m = 0 &&
    isGroupComplete requested xcr0Mpx && isGroupComplete requested xcr0Avx512 &&
    (requested &&& xcr0Avx512 = 0 || requested &&& xcr0Avx ≠ 0) &&
    isGroupComplete requested xcr0Amx &&
    decide (requested &&& xcr0Pkru ≠ 0) = decide (c.guestCr4 &&& cr4Pke ≠ 0)

/-- The save area that the requested XCR0 needs, if it can be laid out. -/
def requestedAreaSize (m : Machine) (requested : U64) : Option U32 :=
  if m.xsavesEnabled then (computeXsaveAreaSize m requested m.xsavesMask).map (·.2)
  else computeStandardXsaveAreaSize m requested

def handleXsetbv (m : Machine) : StateM ExitState Bool := do
  let s ← get
  if isUserMode s.ctx then
    refuse m
  else if m.xstateMode = .fxsave then
    refuseUndefined m
  else if m.xgetbv ≠ some s.vcpu.host.xcr0 then
    giveUp
  else
    let requested := joinHalves (s.ctx.rax.setWidth 32) (s.ctx.rdx.setWidth 32)
    modifyVcpu fun vcpu => { vcpu with
      xsetbvExitCount := vcpu.xsetbvExitCount + 1
      lastXsetbvPrevious := s.ctx.guestXcr0
      lastXsetbvRequested := requested }
    if s.ctx.rcx.setWidth 32 ≠ (0 : U32) || requested &&& 3 ≠ 3 ||
        requested &&& ~~~s.vcpu.host.xcr0 ≠ 0 then
      refuse m
    else if !isXcr0RequestValid m s.ctx requested then
      refuse m
    else
      match requestedAreaSize m requested with
      | none => refuse m
      | some areaSize =>
        if vmexitXsaveMax < areaSize then
          refuse m
        -- one immutable layout: another selector is not virtualised
        else if requested ≠ s.vcpu.host.xcr0 then
          stopVm
        else
          modifyCtx fun c => { c with guestXcr0 := requested }
          modifyVcpu fun vcpu => { vcpu with guestXcr0 := requested }
          return true

end Knhv.Vmx
