import Knhv.Entry.Cpu
import Knhv.Vmx.Machine

namespace Knhv.Entry

open Vmx (Machine vmxOk)

/-- The C++ routines that the entry code calls. -/
inductive Callee
  | vmExitHandler | handleVmResumeFailure
  | hvTraceCurrentVcpuEvent | hvCaptureFatalSnapshotPreVmxoff | markCurrentVcpuParked
  | markCurrentVcpuTearingDown | hvClearCurrentVmcsAndRecord | hvFailVmcsClear | hvFatalBugCheck
  deriving DecidableEq, Repr

/-- The routines that write the `GuestContext` they are given in RCX. -/
def Callee.writesContext : Callee → Bool
  | vmExitHandler | handleVmResumeFailure => true
  | _ => false

/-- The registers a Win64 routine gives back as it found them. -/
def nonvolatile : List Gpr := [.rbx, .rbp, .rsi, .rdi, .rsp, .r12, .r13, .r14, .r15]

/-- The cells of the `GuestContext` at `base`, with the native IDT behind it. -/
def InContext (base address : U64) : Prop :=
  ∃ slot : U64, 0x1000 ≤ slot ∧ slot < 0x1150 ∧ address = base + slot

/-- What a C++ routine leaves alone: the calling convention, and the registers
that only the entry code manages. It writes its own data and stack, `scratch`,
and the context if it is one of the two. -/
structure Abi {ξ : Type} (scratch : U64 → Prop) (f : Callee) (before after : Cpu ξ) : Prop where
  nonvolatile : ∀ reg ∈ nonvolatile, after.gpr reg = before.gpr reg
  interrupts : after.interrupts = before.interrupts
  direction : after.direction = before.direction
  msr : after.msr = before.msr
  xcr0 : after.xcr0 = before.xcr0
  dr7 : after.dr7 = before.dr7
  cr4 : after.cr4 = before.cr4
  image : after.image = before.image
  mem : ∀ address, ¬scratch address →
    ¬(f.writesContext = true ∧ InContext (before.gpr .rcx) address) →
    after.mem address = before.mem address

/-- The routines of the driver. -/
structure Callees (ξ : Type) where
  scratch : U64 → Prop
  apply : Callee → Cpu ξ → Cpu ξ
  abi : ∀ f c, Abi scratch f c (apply f c)

/-- A processor in VMX root operation, with the calls it has made so far. -/
structure Root (ξ : Type) where
  cpu : Cpu ξ
  calls : List (Callee × Cpu ξ)

/-- A VMREAD: its value and the RFLAGS image after it. -/
structure VmcsRead where
  value : U64
  flags : U64

/-- What the VMX instructions of one VM exit answer. VMRESUME returns nothing
when it succeeds and the RFLAGS image when it fails. `guestView` is what a
memory looks like under the guest's CR3. -/
structure Answers where
  guestDr7 : VmcsRead
  guestDebugctl : VmcsRead
  vmresume : Option U64
  vmxoff : U64
  guestView : (U64 → U64) → U64 → U64

/-- How a processor leaves the entry code: into the guest, by an IRETQ with
these values, or not at all. -/
inductive Departure
  | resumed
  | native (rip cs rflags ss : U64)
  | parked
  deriving DecidableEq, Repr

def frameSize : U64 := 0x1180

def gprSlots : List (Gpr × U64) :=
  [(.rax, 0x1000), (.rcx, 0x1008), (.rdx, 0x1010), (.rbx, 0x1018), (.rbp, 0x1020), (.rsi, 0x1028),
    (.rdi, 0x1030), (.r8, 0x1038), (.r9, 0x1040), (.r10, 0x1048), (.r11, 0x1050), (.r12, 0x1058),
    (.r13, 0x1060), (.r14, 0x1068), (.r15, 0x1070)]

def ctxGuestRip : U64 := 0x1078
def ctxGuestRsp : U64 := 0x1080
def ctxRflags : U64 := 0x1088
def ctxGuestCs : U64 := 0x1090
def ctxGuestSs : U64 := 0x1098
def ctxGuestCr3 : U64 := 0x10A0
def ctxGuestCr4 : U64 := 0x10A8
def ctxGuestFs : U64 := 0x10B0
def ctxGuestGs : U64 := 0x10B8
def ctxGuestEfer : U64 := 0x10C0
def ctxGuestPat : U64 := 0x10C8
def ctxGuestKgs : U64 := 0x10D0
def ctxAbortVm : U64 := 0x10D8
def ctxHaltVm : U64 := 0x10E0
def ctxGuestCr0 : U64 := 0x10E8
def ctxSysenterCs : U64 := 0x10F0
def ctxSysenterEsp : U64 := 0x10F8
def ctxSysenterEip : U64 := 0x1100
def ctxGuestXcr0 : U64 := 0x1108
def ctxGuestXss : U64 := 0x1110
def ctxGuestSCet : U64 := 0x1118
def ctxGuestSsp : U64 := 0x1120
def ctxGuestIntrSspTable : U64 := 0x1128
def ctxGuestDr7 : U64 := 0x1130
def ctxGuestDebugctl : U64 := 0x1138
def ctxNativeIdtBase : U64 := 0x1140
def ctxNativeIdtLimit : U64 := 0x1148
def hostDr7FrameSlot : U64 := 0x1158
def hostDebugctlFrameSlot : U64 := 0x1160
def hostXcr0FrameSlot : U64 := 0x1168
def hostXssFrameSlot : U64 := 0x1170
def hostKgsFrameSlot : U64 := 0x1178

def vmcsGuestDr7 : U64 := 0x681A
def vmcsGuestDebugctl : U64 := 0x2802

def hvTracePreVmresume : U64 := 20
def hvTraceVmresumeFail : U64 := 21
def hvTracePreVmxoff : U64 := 23
def hvTracePostVmxoff : U64 := 24
def hvTraceFatalSnapshotComplete : U64 := 29
def hvTraceFatalParked : U64 := 30
def hvTraceVmexitHostReady : U64 := 35

namespace Root

variable {ξ : Type}

def exec (block : List Instr) (r : Root ξ) : Root ξ := { r with cpu := run block r.cpu }

/-- `sub rsp, 20h`, `call f`, `add rsp, 20h` -/
def call (w : Callees ξ) (f : Callee) (r : Root ξ) : Root ξ :=
  let entry := run [.sub .rsp 0x20] r.cpu
  { cpu := run [Instr.add .rsp 0x20] (w.apply f entry), calls := r.calls ++ [(f, entry)] }

def trace (w : Callees ξ) (event : U64) (r : Root ξ) : Root ξ :=
  (r.exec [.movImm .rcx event]).call w .hvTraceCurrentVcpuEvent

/-- The qword at a slot of the frame. -/
def slot (r : Root ξ) (slot : U64) : U64 := r.cpu.mem (r.cpu.gpr .rsp + slot)

/-- `test al, al` -/
def answered (r : Root ξ) : Bool := (r.cpu.gpr .rax).setWidth 8 ≠ 0#8

end Root

/-- RDX takes the high half of what RAX was loaded with. -/
def splitRax : List Instr := [.mov .rdx .rax, .shr .rdx 0x20]

/-- WRMSR of a slot. -/
def writeMsr (base : Gpr) (slot : U64) (msr : U32) : List Instr :=
  .load .rax base slot :: splitRax ++ [Instr.movImm .rcx (msr.setWidth 64), .wrmsr]

/-- XSETBV of a slot. -/
def writeXcr0 (base : Gpr) (slot : U64) : List Instr :=
  .load .rax base slot :: splitRax ++ [Instr.movImm .rcx 0, .xsetbv]

def allocateFrame : List Instr :=
  [Instr.cli, .sub .rsp frameSize] ++ gprSlots.map (fun entry => .store .rsp entry.2 entry.1) ++
    [Instr.storeImm .rsp ctxNativeIdtBase 0, .storeImm .rsp ctxNativeIdtLimit 0,
      .storeImm .rsp ctxAbortVm 0, .storeImm .rsp ctxHaltVm 0]

def captureKernelGs : List Instr :=
  [.movImm .rcx (msrKernelGsBase.setWidth 64), .rdmsr, .mov32 .rax .rax, .mov32 .rdx .rdx,
    .shl .rdx 0x20, .or .rax .rdx, .store .rsp ctxGuestKgs .rax]

/-- A field whose VMREAD fails reads as zero and marks R10. -/
def readDebugField (field slot : U64) (read : VmcsRead) : List Instr :=
  .movImm .rcx field ::
    (if vmxOk read.flags then [.vmread .rax read.value, .popFlags .rdx read.flags]
      else [Instr.popFlags .rdx read.flags, .xor32 .rax, .movImm .r10 1]) ++
    [Instr.store .rsp slot .rax]

def loadHostDebugState : List Instr :=
  writeMsr .rsp hostKgsFrameSlot msrKernelGsBase ++
    [Instr.load .rax .rsp hostDr7FrameSlot, .toDr7 .rax] ++
    writeMsr .rsp hostDebugctlFrameSlot msrIa32Debugctl

/-- The 64-bit value in EDX:EAX goes through R8 to a slot. -/
def storePair (slot : U64) : List Instr :=
  [.mov32 .r8 .rax, .mov32 .r9 .rdx, .mov .rdx .r9, .shl .rdx 0x20, .or .r8 .rdx,
    .store .rsp slot .r8]

def captureXcr0 : List Instr := [Instr.xor32 .rcx, .xgetbv] ++ storePair ctxGuestXcr0

def captureXss : List Instr :=
  [Instr.movImm .rcx (msrIa32Xss.setWidth 64), .rdmsr] ++ storePair ctxGuestXss

section

variable (m : Machine)

/-- The immutable mask goes to IA32_XSS and stays in R15. -/
def loadXsavesMask : List Instr :=
  [.movImm .r15 m.xsavesMask, .mov .r14 .r15, .shr .r14 0x20, .mov32 .rax .r15, .mov32 .rdx .r14,
    .movImm .rcx (msrIa32Xss.setWidth 64), .wrmsr]

/-- The host mask, with R15 added, is what XSAVES and XRSTORS are asked for. -/
def requestBoth (base : Gpr) : List Instr :=
  [Instr.load .rax base hostXcr0FrameSlot, .or .rax .r15] ++ splitRax

def requestHost (base : Gpr) : List Instr := .load .rax base hostXcr0FrameSlot :: splitRax

def saveXstate : List Instr :=
  if m.xstateMode = .fxsave then
    [.storeImm .rsp ctxGuestXcr0 0, .storeImm .rsp ctxGuestXss 0, .fxsave .rsp]
  else
    captureXcr0 ++ writeXcr0 .rsp hostXcr0FrameSlot ++
      if m.xsavesEnabled then
        captureXss ++ loadXsavesMask m ++ requestBoth .rsp ++ [Instr.saved true .rsp]
      else
        .storeImm .rsp ctxGuestXss 0 :: requestHost .rsp ++ [Instr.saved false .rsp]

/-- The host masks, which every C++ routine runs under. -/
def loadHostMasks (base : Gpr) : List Instr :=
  if m.xstateMode = .fxsave then []
  else
    writeXcr0 base hostXcr0FrameSlot ++
      if m.xsavesEnabled then writeMsr base hostXssFrameSlot msrIa32Xss else []

/-- The image is loaded under the masks it was saved with; the guest's masks
follow. -/
def restoreXstate (base : Gpr) : List Instr :=
  if m.xstateMode = .fxsave then [.fxrstor base]
  else
    writeXcr0 base hostXcr0FrameSlot ++
      if m.xsavesEnabled then
        loadXsavesMask m ++ requestBoth base ++ [Instr.reloaded true base] ++
          writeMsr base ctxGuestXss msrIa32Xss ++ writeXcr0 base ctxGuestXcr0
      else
        requestHost base ++ [Instr.reloaded false base] ++ writeXcr0 base ctxGuestXcr0

def loadHostKernelGs (base : Gpr) : List Instr := writeMsr base hostKgsFrameSlot msrKernelGsBase

def loadGuestGprs : List Instr := gprSlots.map fun entry => .load entry.1 .rsp entry.2

variable {ξ : Type} (w : Callees ξ) (answers : Answers)

/-- What goes into the frame before the host's registers are back. -/
def captureFrame : List Instr :=
  allocateFrame ++ captureKernelGs ++ [Instr.xor32 .r10] ++
    readDebugField vmcsGuestDr7 ctxGuestDr7 answers.guestDr7 ++
    readDebugField vmcsGuestDebugctl ctxGuestDebugctl answers.guestDebugctl

def loadHostState : List Instr :=
  loadHostDebugState ++ saveXstate m ++ loadHostMasks m .rsp ++ [Instr.cld]

/-- `test r10d, r10d`: an exit whose debug state cannot be read is fatal. -/
def markUnread (r : Root ξ) : Root ξ :=
  if low32 (r.cpu.gpr .r10) = 0 then r else r.exec [.storeImm .rsp ctxHaltVm 1]

/-- The exit up to the first instruction that may be C++: the guest's registers
are in the frame, the host's in the processor. -/
def captureGuest (r : Root ξ) : Root ξ :=
  (markUnread (r.exec (captureFrame answers))).exec (loadHostState m)

def handleExit (r : Root ξ) : Root ξ :=
  let r := r.trace w hvTraceVmexitHostReady
  let r := (r.exec [.mov .rcx .rsp]).call w .vmExitHandler
  if r.slot ctxHaltVm = 0 && r.slot ctxAbortVm = 0 then r.trace w hvTracePreVmresume else r

/-- The end of a parked processor: out of VMX operation if it can be left, and
into the bug check. -/
def leaveVmx (base : Gpr) (loadsNativeIdt : Bool) (r : Root ξ) : Root ξ :=
  let r := r.call w .hvClearCurrentVmcsAndRecord
  let r :=
    if r.answered then
      if vmxOk answers.vmxoff then
        let r := (r.exec [.fromCr4 .rax, .btr .rax 0x0D, .toCr4 .rax]).trace w hvTracePostVmxoff
        if loadsNativeIdt && r.slot ctxNativeIdtBase ≠ 0 then
          r.exec [.mov .r10 .rsp, .sub .rsp 0x20, .load .rax .r10 ctxNativeIdtLimit,
            .store16 .rsp 0 .rax, .load .rax .r10 ctxNativeIdtBase, .store .rsp 2 .rax,
            .lidt .rsp 0, .add .rsp 0x20]
        else r
      else r.exec [.popFlags .rax answers.vmxoff, .mov .rdx .rax, .xor32 .rax]
    else r.call w .hvFailVmcsClear
  (r.exec [.mov .rcx base]).call w .hvFatalBugCheck

/-- `vmxHalt` -/
def vmxHalt (r : Root ξ) : Departure × Root ξ :=
  let r := r.exec (.cli :: loadHostMasks m .rsp ++ loadHostKernelGs .rsp)
  let r := r.trace w hvTracePreVmxoff
  let r := (r.exec [.mov .rcx .rsp]).call w .hvCaptureFatalSnapshotPreVmxoff
  let r := r.trace w hvTraceFatalSnapshotComplete
  let r := r.call w .markCurrentVcpuParked
  let r := r.trace w hvTraceFatalParked
  (.parked, leaveVmx w answers .rsp true r)

/-- `restoreInvalid` -/
def restoreInvalid (r : Root ξ) : Departure × Root ξ :=
  let r := r.exec (.cli :: loadHostMasks m .r10 ++ loadHostKernelGs .r10)
  let r := r.trace w hvTracePreVmxoff
  let r := (r.exec [.mov .r10 .rbx, .mov .rcx .r10]).call w .hvCaptureFatalSnapshotPreVmxoff
  let r := (r.trace w hvTraceFatalSnapshotComplete).exec [.mov .r10 .rbx]
  let r := r.call w .markCurrentVcpuParked
  let r := (r.trace w hvTraceFatalParked).exec [.mov .r10 .rbx]
  (.parked, leaveVmx w answers .rbx false r)

end

/-! `HvRestoreStateAndReturn` -/

/-- The slots of the spill area, below the IRETQ frame on the guest's stack. -/
def rstSlots : List (Gpr × U64) :=
  [(.rax, 0x00), (.rcx, 0x08), (.rdx, 0x10), (.rbx, 0x18), (.rbp, 0x20), (.rsi, 0x28), (.rdi, 0x30),
    (.r8, 0x38), (.r9, 0x40), (.r10, 0x48), (.r12, 0x58), (.r13, 0x60), (.r14, 0x68), (.r15, 0x70),
    (.r11, 0x50)]

def rstCr0 : U64 := 0x78
def rstCr3 : U64 := 0x80
def rstCr4 : U64 := 0x88
def rstGuestRsp : U64 := 0x90
def rstGuestRip : U64 := 0x98
def rstRflags : U64 := 0xA0
def rstGuestCs : U64 := 0xA8
def rstGuestSs : U64 := 0xB0
def rstFrameRsp : U64 := 0xB8
def rstIdtrLimit : U64 := 0xC8
def rstIdtrBase : U64 := 0xCA

/-- The registers go from the context to the spill area in the order of the
context, and with them the control registers. -/
def spillSlots : List (U64 × U64) :=
  [(0x1000, 0x00), (0x1008, 0x08), (0x1010, 0x10), (0x1018, 0x18), (0x1020, 0x20), (0x1028, 0x28),
    (0x1030, 0x30), (0x1038, 0x38), (0x1040, 0x40), (0x1048, 0x48), (0x1050, 0x50), (0x1058, 0x58),
    (0x1060, 0x60), (0x1068, 0x68), (0x1070, 0x70), (ctxGuestCr3, rstCr3), (ctxGuestCr4, rstCr4),
    (ctxGuestCr0, rstCr0)]

/-- The register against its sign extension from the top linear-address bit:
the two are in RAX and RDX. -/
def signExtend (m : Machine) (reg : Gpr) : List Instr :=
  let count := if m.linearAddressBits = 57 then 7 else 0x10
  [.mov .rax reg, .mov .rdx .rax, .movImm .rcx (BitVec.ofNat 64 m.linearAddressBits),
    .shl .rdx count, .sar .rdx count]

def loadReturn : List Instr :=
  [.load .r11 .r10 ctxGuestRsp, .load .r12 .r10 ctxGuestCs, .load .r13 .r10 ctxGuestSs,
    .load .r14 .r10 ctxGuestRip, .load .r15 .r10 ctxRflags]

def iretFrame : List Instr :=
  [.store .r8 0x00 .r14, .store .r8 0x08 .r12, .store .r8 0x10 .r15, .store .r8 0x18 .r11,
    .store .r8 0x20 .r13]

def spillContext : List Instr :=
  spillSlots.flatMap (fun entry => [Instr.load .rax .r10 entry.1, .store .r9 entry.2 .rax]) ++
    [Instr.store .r9 rstGuestRsp .r11, .store .r9 rstGuestRip .r14, .store .r9 rstRflags .r15,
      .store .r9 rstGuestCs .r12, .store .r9 rstGuestSs .r13, .store .r9 rstFrameRsp .r8,
      .load .rax .r10 ctxNativeIdtLimit, .store16 .r9 rstIdtrLimit .rax,
      .load .rax .r10 ctxNativeIdtBase, .store .r9 rstIdtrBase .rax, .mov .rsi .r8, .mov .rbp .r9]

/-- WRMSR of a slot, with the index loaded first. -/
def restoreMsr (msr : U32) (slot : U64) : List Instr :=
  [Instr.movImm .rcx (msr.setWidth 64), .load .rax .r10 slot] ++ splitRax ++ [Instr.wrmsr]

def restoreMsrs : List Instr :=
  [Instr.load .rax .r10 ctxGuestDr7, .toDr7 .rax] ++ restoreMsr msrIa32Debugctl ctxGuestDebugctl ++
    restoreMsr msrFsBase ctxGuestFs ++ restoreMsr msrGsBase ctxGuestGs ++
    restoreMsr msrKernelGsBase ctxGuestKgs ++ restoreMsr msrIa32Efer ctxGuestEfer ++
    restoreMsr msrIa32Pat ctxGuestPat ++
    [Instr.movImm .rcx (msrIa32SysenterCs.setWidth 64), .load .rax .r10 ctxSysenterCs, .xor32 .rdx,
      .wrmsr] ++
    restoreMsr msrIa32SysenterEsp ctxSysenterEsp ++ restoreMsr msrIa32SysenterEip ctxSysenterEip

def restoreCet (m : Machine) : List Instr :=
  if m.cetVmcsEnabled then
    restoreMsr msrIa32SCet ctxGuestSCet ++ restoreMsr msrIa32Pl0Ssp ctxGuestSsp ++
      restoreMsr msrIa32InterruptSspTable ctxGuestIntrSspTable
  else []

def loadControl : List Instr :=
  [.lidt .r9 rstIdtrLimit, .load .rax .r9 rstCr0, .toCr0 .rax, .load .rax .r9 rstCr4,
    .btr .rax 0x0D, .toCr4 .rax, .load .rax .r9 rstCr3, .toCr3 .rax]

def loadSpill : List Instr :=
  [Instr.mov .rsp .r8, .lea .r11 .rsp (-0x100)] ++
    rstSlots.map fun entry => .load entry.1 .r11 entry.2

section

variable (m : Machine) {ξ : Type} (w : Callees ξ) (answers : Answers)

/-- The five qwords that IRETQ pops. -/
def iretq (r : Root ξ) : Departure × Root ξ :=
  (.native (r.slot 0x00) (r.slot 0x08) (r.slot 0x10) (r.slot 0x20),
    { r with cpu := r.cpu.setGpr .rsp (r.slot 0x18) })

/-- From VMXOFF to the guest, outside VMX operation. -/
def returnNative (r : Root ξ) : Departure × Root ξ :=
  let r := (r.exec [.mov .r10 .rbx]).trace w hvTracePostVmxoff
  let r := r.exec ([Instr.mov .r10 .rbx, .mov .r9 .rbp, .mov .r8 .rsi] ++ restoreMsrs ++
    restoreXstate m .r10 ++ restoreCet m ++ loadControl)
  let r : Root ξ := { r with cpu := { r.cpu with mem := answers.guestView r.cpu.mem } }
  iretq (r.exec loadSpill)

/-- `teardownVmxoffFailed` -/
def teardownVmxoffFailed (r : Root ξ) : Departure × Root ξ :=
  let r := r.exec [.cli, .popFlags .rax answers.vmxoff, .mov .rdx .rax, .xor32 .rax, .mov .r10 .rbx,
    .storeImm .r10 ctxHaltVm 1, .mov .rcx .r10]
  let r := r.call w .hvCaptureFatalSnapshotPreVmxoff
  let r := r.trace w hvTraceFatalSnapshotComplete
  let r := r.call w .markCurrentVcpuParked
  let r := (r.trace w hvTraceFatalParked).exec [.mov .r10 .rbx, .mov .rcx .r10]
  (.parked, r.call w .hvFatalBugCheck)

/-- The guest's frame is on its stack: VMX operation is left for good. -/
def leaveForNative (r : Root ξ) : Departure × Root ξ :=
  let r := r.exec (iretFrame ++ spillContext)
  let r := r.trace w hvTracePreVmxoff
  let r := r.call w .hvClearCurrentVmcsAndRecord
  if r.answered then
    if vmxOk answers.vmxoff then returnNative m w answers r else teardownVmxoffFailed w answers r
  else (.parked, r.call w .hvFailVmcsClear)

/-- `cmp rdx, rax` after the sign extension. -/
def canonicalIn (reg : Gpr) (r : Root ξ) : Bool × Root ξ :=
  let r := r.exec (signExtend m reg)
  (r.cpu.gpr .rdx = r.cpu.gpr .rax, r)

/-- `restoreRing0`: the frame and the spill area below it. -/
def restoreRing0 (r : Root ξ) : Departure × Root ξ :=
  let r := r.exec [.lea .r8 .r11 (-0x28), .lea .r9 .r8 (-0x100)]
  let (canonical, r) := canonicalIn m .r8 r
  if !canonical then restoreInvalid m w answers r
  else
    let (canonical, r) := canonicalIn m .r9 r
    if !canonical || r.cpu.gpr .r11 < r.cpu.gpr .r8 || r.cpu.gpr .r8 < r.cpu.gpr .r9 then
      restoreInvalid m w answers r
    else leaveForNative m w answers r

/-- The checks of the captured return state. -/
def checkReturn (r : Root ξ) : Departure × Root ξ :=
  let r := r.exec loadReturn
  if r.cpu.gpr .r12 = 0 || r.cpu.gpr .r14 = 0 then restoreInvalid m w answers r
  else
    let (canonical, r) := canonicalIn m .r11 r
    if !canonical then restoreInvalid m w answers r
    else
      let (canonical, r) := canonicalIn m .r14 r
      if !canonical then restoreInvalid m w answers r
      else
        let r := r.exec [.mov32 .rax .r12, .andImm .rax 3, .mov32 .rcx .r13, .andImm .rcx 3]
        if r.cpu.gpr .rax ≠ r.cpu.gpr .rcx || r.cpu.gpr .r11 < 0x128 || r.cpu.gpr .rax ≠ 0 then
          restoreInvalid m w answers r
        else restoreRing0 m w answers r

def hvRestoreStateAndReturn (r : Root ξ) : Departure × Root ξ :=
  let r := r.exec ([Instr.cli, .mov .r10 .rcx, .mov .rbx .r10] ++ loadHostKernelGs .r10 ++
    loadHostMasks m .r10)
  let r := r.call w .markCurrentVcpuTearingDown
  if r.answered then checkReturn m w answers (r.exec [.mov .r10 .rbx])
  else
    restoreInvalid m w answers
      (r.exec [.mov .r10 .rbx, .storeImm .r10 ctxAbortVm 0, .storeImm .r10 ctxHaltVm 1])

/-- `vmxAbort`: only kernel code is left to run natively. -/
def vmxAbort (r : Root ξ) : Departure × Root ξ :=
  if r.slot ctxGuestCs &&& 3 ≠ 0 then vmxHalt m w answers r
  else hvRestoreStateAndReturn m w answers (r.exec [.mov .rcx .rsp])

/-- `vmxResumeFailure` -/
def vmxResumeFailure (flags : U64) (r : Root ξ) : Departure × Root ξ :=
  let r := r.exec (.popFlags .rbx flags :: loadHostMasks m .rsp ++ loadHostKernelGs .rsp ++
    [Instr.mov .rcx .rsp, .mov .rdx .rbx])
  let r := r.call w .handleVmResumeFailure
  let r := r.trace w hvTraceVmresumeFail
  if r.slot ctxHaltVm ≠ 0 then vmxHalt m w answers r
  else if r.slot ctxAbortVm ≠ 0 then vmxAbort m w answers r
  else vmxHalt m w answers r

/-- The last of the guest's registers, and VMRESUME. -/
def resumeGuest (r : Root ξ) : Departure × Root ξ :=
  let r := r.exec (writeMsr .rsp ctxGuestKgs msrKernelGsBase ++ loadGuestGprs)
  match answers.vmresume with
  | none => (.resumed, r)
  | some flags => vmxResumeFailure m w answers flags r

/-- `vmxGuestStateCommit` and what follows. -/
def commitGuest (r : Root ξ) : Departure × Root ξ :=
  let running : Bool := r.slot ctxHaltVm = 0 && r.slot ctxAbortVm = 0
  let r := if running then r.exec (restoreXstate m .rsp) else r
  let r := r.exec [.cld]
  if r.slot ctxHaltVm ≠ 0 then vmxHalt m w answers r
  else if r.slot ctxAbortVm ≠ 0 then vmxAbort m w answers r
  else resumeGuest m w answers r

def hvVmExitEntryPoint (r : Root ξ) : Departure × Root ξ :=
  commitGuest m w answers (handleExit w (captureGuest m answers r))

end

end Knhv.Entry
