import Knhv.Vmx.Machine
import Mathlib.Data.List.Range

namespace Knhv.Vmx

def cr4Vmxe : U64 := bit 13
def cr4Pcide : U64 := bit 17
def cr4Osxsave : U64 := bit 18
def cr4Pke : U64 := bit 22
def cr4Cet : U64 := bit 23
def cr4Fred : U64 := bit 32

def eferSce : U64 := bit 0
def eferLme : U64 := bit 8
def eferLma : U64 := bit 10
def eferNxe : U64 := bit 11

def xcr0Avx : U64 := bit 2
def xcr0Mpx : U64 := bit 3 ||| bit 4
def xcr0Avx512 : U64 := bit 5 ||| bit 6 ||| bit 7
def xcr0Pkru : U64 := bit 9
def xcr0Amx : U64 := bit 17 ||| bit 18

def vmexitXsaveMax : U32 := 0x1000
def maxUlong : U64 := 0xFFFFFFFF

def msrFsBase : U32 := 0xC0000100
def msrGsBase : U32 := 0xC0000101
def msrIa32KernelGsBase : U32 := 0xC0000102
def msrIa32Efer : U32 := 0xC0000080
def msrIa32Pat : U32 := 0x277
def msrIa32Debugctl : U32 := 0x1D9
def msrIa32SysenterCs : U32 := 0x174
def msrIa32SysenterEsp : U32 := 0x175
def msrIa32SysenterEip : U32 := 0x176
def msrIa32Xss : U32 := 0xDA0
def msrIa32Xfd : U32 := 0x1C4
def msrIa32XfdErr : U32 := 0x1C5
def msrIa32RtitOutputBase : U32 := 0x560
def msrIa32UCet : U32 := 0x6A0
def msrIa32SCet : U32 := 0x6A2
def msrIa32Pl0Ssp : U32 := 0x6A4
def msrIa32Pl1Ssp : U32 := 0x6A5
def msrIa32Pl2Ssp : U32 := 0x6A6
def msrIa32Pl3Ssp : U32 := 0x6A7
def msrIa32InterruptSspTable : U32 := 0x6A8
def msrIa32VmxCr0Fixed0 : U32 := 0x486
def msrIa32VmxCr0Fixed1 : U32 := 0x487
def msrIa32VmxCr4Fixed0 : U32 := 0x488
def msrIa32VmxCr4Fixed1 : U32 := 0x489

def vmExitReasonCpuid : U32 := 10
def vmExitReasonGetsec : U32 := 11
def vmExitReasonInvd : U32 := 13
def vmExitReasonVmcall : U32 := 18
def vmExitReasonVmclear : U32 := 19
def vmExitReasonVmlaunch : U32 := 20
def vmExitReasonVmptrld : U32 := 21
def vmExitReasonVmptrst : U32 := 22
def vmExitReasonVmread : U32 := 23
def vmExitReasonVmwrite : U32 := 24
def vmExitReasonVmresume : U32 := 25
def vmExitReasonVmxoff : U32 := 26
def vmExitReasonVmxon : U32 := 27
def vmExitReasonCrAccess : U32 := 28
def vmExitReasonRdmsr : U32 := 31
def vmExitReasonWrmsr : U32 := 32
def vmExitReasonInvalidGuestState : U32 := 33
def vmExitReasonMsrLoading : U32 := 34
def vmExitReasonInvept : U32 := 50
def vmExitReasonInvvpid : U32 := 53
def vmExitReasonXsetbv : U32 := 55

/-- EDX:EAX as one 64-bit word. -/
def joinHalves (low high : U32) : U64 := low.setWidth 64 ||| high.setWidth 64 <<< 32

/-- A canonical address repeats its top implemented bit. A width outside 48..57
is taken as 48. -/
def isCanonical (m : Machine) (value : U64) : Bool :=
  let bits := if m.linearAddressBits < 48 || 57 < m.linearAddressBits then 48
    else m.linearAddressBits
  let signBit : U64 := bit (bits - 1)
  let upperMask : U64 := ~~~(bit bits - 1)
  if value &&& signBit ≠ 0 then value &&& upperMask = upperMask else value &&& upperMask = 0

def isFixedCrValueValid (m : Machine) (value : U64) (fixed0Msr fixed1Msr : U32) : Bool :=
  match m.readMsr fixed0Msr, m.readMsr fixed1Msr with
  | some fixed0, some fixed1 => value &&& fixed0 = fixed0 && value &&& ~~~fixed1 = 0
  | _, _ => false

def getCr4GuestHostMask : U64 := 0

def isValidPatValue (value : U64) : Bool :=
  (List.range 8).all fun i =>
    let type := (value >>> (i * 8)).setWidth 8
    [(0 : U8), 1, 4, 5, 6, 7].contains type

def isValidDebugctl (m : Machine) (value : U64) : Bool := value &&& ~~~m.debugctlMask = 0

/-- The physical-address width that CPUID reports, 52 where it reports none or
one outside 32..52. -/
def physicalBits (m : Machine) : Nat :=
  let maxExtended := (m.cpuidex 0x80000000 0).eax
  let reported := (m.cpuidex 0x80000008 0).eax.toNat % 256
  if maxExtended ≥ 0x80000008 && 32 ≤ reported && reported ≤ 52 then reported else 52

def isValidCr3 (m : Machine) (value cr4 : U64) : Bool :=
  let physicalMask : U64 := bit (physicalBits m) - 1
  let pcide := cr4 &&& cr4Pcide ≠ 0
  let lowMask : U64 := if pcide then 0xFFF else 0x018
  let noFlushMask : U64 := if pcide then bit 63 else 0
  let baseMask := physicalMask &&& ~~~0xFFF
  let allowedMask := baseMask ||| lowMask ||| noFlushMask
  value &&& ~~~allowedMask = 0 && value &&& baseMask ≠ 0

def normalizeCr3 (value cr4 : U64) : U64 :=
  if cr4 &&& cr4Pcide ≠ 0 then value &&& ~~~bit 63 else value

def isValidArchitecturalCr3 (m : Machine) (value cr4 : U64) : Bool :=
  value &&& bit 63 = 0 && isValidCr3 m value cr4

def kDr7Reserved : U64 := bit 11 ||| bit 12 ||| bit 14 ||| bit 15

def isValidGuestDr7 (value : U64) : Bool :=
  value &&& ~~~0xFFFFFFFF = 0 && value &&& bit 10 ≠ 0 && value &&& kDr7Reserved = 0

def kRequiredCr0Bits : U64 := bit 0 ||| bit 31
def kRequiredCr4Bits : U64 := bit 5
def kGuestEferBits : U64 := eferSce ||| eferLme ||| eferLma ||| eferNxe

def kRflagsAllowed : U64 :=
  bit 0 ||| bit 1 ||| bit 2 ||| bit 4 ||| bit 6 ||| bit 7 ||| bit 8 ||| bit 9 |||
    bit 10 ||| bit 11 ||| bit 12 ||| bit 13 ||| bit 14 ||| bit 16 ||| bit 18 |||
    bit 21
def kRflagsNt : U64 := bit 14

/-- The saved XCR0 and IA32_XSS fit the save area of the exit stub. -/
def isXstateContractValid (m : Machine) (c : GuestContext) : Bool :=
  if m.xstateMode = .fxsave then
    c.guestXcr0 = 0 && c.guestXss = 0
  else
    c.guestXcr0 &&& ~~~m.hostXcr0Mask = 0 &&
      (if m.xsavesEnabled then c.guestXss &&& ~~~m.xsavesMask = 0 else c.guestXss = 0)

def isRflagsValid (rflags : U64) : Bool :=
  rflags &&& bit 1 ≠ 0 && rflags &&& kRflagsNt = 0 && rflags &&& ~~~kRflagsAllowed = 0

def isValidGuestState (m : Machine) (c : GuestContext) : Bool :=
  isCanonical m c.guestRip && isCanonical m c.guestRsp &&
    0x200 ≤ c.guestRsp && 0x10000 ≤ c.guestRip &&
    isValidArchitecturalCr3 m c.guestCr3 c.guestCr4 &&
    c.guestCs ≠ 0 && c.guestCs &&& 3 = c.guestSs &&& 3 &&
    c.guestCs &&& 3 = 0 && c.guestSs &&& 3 = 0 &&
    isFixedCrValueValid m c.guestCr0 msrIa32VmxCr0Fixed0 msrIa32VmxCr0Fixed1 &&
    isFixedCrValueValid m c.guestCr4 msrIa32VmxCr4Fixed0 msrIa32VmxCr4Fixed1 &&
    c.guestCr0 &&& kRequiredCr0Bits = kRequiredCr0Bits &&
    c.guestCr4 &&& kRequiredCr4Bits = kRequiredCr4Bits &&
    c.guestEfer &&& ~~~kGuestEferBits = 0 &&
    c.guestEfer &&& (eferLme ||| eferLma) = eferLme ||| eferLma &&
    isCanonical m c.guestFsBase && isCanonical m c.guestGsBase &&
    isCanonical m c.guestKernelGsBase &&
    c.guestSysenterCs ≤ 0xFFFF &&
    isCanonical m c.guestSysenterEsp && isCanonical m c.guestSysenterEip &&
    isValidPatValue c.guestPat && isValidDebugctl m c.guestDebugctl &&
    isValidGuestDr7 c.guestDr7 &&
    isXstateContractValid m c && isRflagsValid c.rflags

def isIntelPtMsr (msr : U32) : Bool := msrIa32RtitOutputBase ≤ msr && msr ≤ 0x58F

def isCetStateMsr (msr : U32) : Bool :=
  msr = msrIa32UCet || msr = msrIa32SCet || msr = msrIa32Pl0Ssp || msr = msrIa32Pl1Ssp ||
    msr = msrIa32Pl2Ssp || msr = msrIa32Pl3Ssp || msr = msrIa32InterruptSspTable

/-- CPUID.(D,0).EDX:EAX, the XCR0 bits that the processor enumerates. -/
def supportedXcr0 (m : Machine) : U64 :=
  let regs := m.cpuidex 0xD 0
  joinHalves regs.eax regs.edx

/-- CPUID.(D,1).EDX:ECX without the compaction marker. -/
def xssCapabilities (m : Machine) : U64 :=
  let regs := m.cpuidex 0xD 1
  joinHalves regs.ecx regs.edx &&& ~~~bit 63

/-- The masks can be laid out at all: leaf 0Dh exists, every XCR0 bit is
enumerated, and x87 and SSE are on. -/
def isXcr0MaskSupported (m : Machine) (xcr0Mask : U64) : Bool :=
  0xD ≤ (m.cpuidex 0 0).eax && xcr0Mask &&& ~~~supportedXcr0 m = 0 && xcr0Mask &&& 3 = 3

/-- One round of the compacted layout: skip an unselected component, else check
it, align where CPUID asks for it, and put it behind the running offset. -/
def compactComponent (m : Machine) (xcr0Mask xssMask offset : U64) (component : Nat) : Option U64 :=
  let selector := bit component
  if (xcr0Mask ||| xssMask) &&& selector = 0 then some offset else
  let regs := m.cpuidex 0xD (BitVec.ofNat 32 component)
  let xssComponent := regs.ecx &&& 1 ≠ 0
  if regs.eax = 0 then none else
  if (xcr0Mask &&& selector ≠ 0 && xssComponent) ||
      (xssMask &&& selector ≠ 0 && !xssComponent) then none else
  let start := if regs.ecx &&& 2 ≠ 0 then (offset + 63) &&& ~~~63 else offset
  let next := start + regs.eax.setWidth 64
  if maxUlong < next then none else some next

/-- The enumerated XSS mask and the size of the compacted area. -/
def computeXsaveAreaSize (m : Machine) (xcr0Mask xssMask : U64) : Option (U64 × U32) :=
  if !isXcr0MaskSupported m xcr0Mask then none else
  if xssMask &&& ~~~xssCapabilities m ≠ 0 then none else
  ((List.range' 2 62).foldlM (compactComponent m xcr0Mask xssMask) 576).map fun offset =>
    (xssCapabilities m, offset.setWidth 32)

/-- One round of the standard layout: the area reaches to the end of the
furthest selected component. -/
def standardComponent (m : Machine) (xcr0Mask size : U64) (component : Nat) : Option U64 :=
  if xcr0Mask &&& bit component = 0 then some size else
  let regs := m.cpuidex 0xD (BitVec.ofNat 32 component)
  if regs.eax = 0 || regs.ebx < 576 then none else
  let reach : U64 := regs.ebx.setWidth 64 + regs.eax.setWidth 64
  if maxUlong < reach then none else
  some (if size < reach then reach else size)

def computeStandardXsaveAreaSize (m : Machine) (xcr0Mask : U64) : Option U32 :=
  if !isXcr0MaskSupported m xcr0Mask then none else
  ((List.range' 2 62).foldlM (standardComponent m xcr0Mask) 576).map (·.setWidth 32)

/-- The access byte of a GDT entry satisfies what the caller requires of the
selector. -/
def isGdtSelectorUsable (m : Machine) (gdtBase : U64) (gdtLimit selector : U16)
    (allowNull requireSystem requireCode requireKernelPrivilege requireWritableData : Bool) : Bool :=
  if selector = 0 then allowNull else
  let offset := selector &&& 0xFFF8
  if selector &&& 4 ≠ 0 || gdtLimit < offset || gdtLimit - offset < 7 || !isCanonical m gdtBase ||
      !isCanonical m (gdtBase + offset.setWidth 64) then false else
  let access := m.memory (gdtBase + offset.setWidth 64 + 5)
  let type := access &&& 0x0F
  if access &&& 0x80 = 0 then false else
  if requireKernelPrivilege && (selector &&& 3 ≠ 0 || access &&& 0x60 ≠ 0) then false else
  if requireSystem then
    access &&& 0x10 = 0 && (type = 9 || type = 0xB) && 15 ≤ gdtLimit - offset
  else
  if access &&& 0x10 = 0 then false else
  if requireCode then type &&& 9 = 9 else
  if requireWritableData then type &&& 8 = 0 && type &&& 3 = 3 else
  let dpl := (access >>> 5) &&& 3
  let rpl := (selector &&& 3).setWidth 8
  if type ≤ 0xB && dpl < rpl then false else
  if type &&& 8 ≠ 0 then type &&& 0xB = 0xB else type &&& 1 ≠ 0

end Knhv.Vmx
