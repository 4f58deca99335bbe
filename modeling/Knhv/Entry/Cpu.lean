import Mathlib.Data.List.Basic
import Mathlib.Logic.Function.Basic
import Knhv.Lib.Listing
import Knhv.Abi

namespace Knhv.Entry

inductive Gpr
  | rax | rcx | rdx | rbx | rsp | rbp | rsi | rdi | r8 | r9 | r10 | r11 | r12 | r13 | r14 | r15
  deriving DecidableEq, Repr

/-- The part of a logical processor that the entry code works on. Memory is a
family of cells: no two accesses of the code overlap unless they are to one
address. `ext i` is the contents of extended-state component `i`, of any type,
and `image base` what an XSAVE instruction has left at `base`. -/
structure Cpu (ξ : Type) where
  gpr : Gpr → U64
  interrupts : Bool
  direction : Bool
  msr : U32 → U64
  xcr0 : U64
  dr7 : U64
  cr0 : U64
  cr3 : U64
  cr4 : U64
  idtLimit : U16
  idtBase : U64
  ext : Nat → ξ
  mem : U64 → U64
  image : U64 → Nat → ξ

def msrFsBase : U32 := 0xC0000100
def msrGsBase : U32 := 0xC0000101
def msrKernelGsBase : U32 := 0xC0000102
def msrIa32Efer : U32 := 0xC0000080
def msrIa32Pat : U32 := 0x277
def msrIa32Debugctl : U32 := 0x1D9
def msrIa32Xss : U32 := 0xDA0
def msrIa32SCet : U32 := 0x6A2
def msrIa32Pl0Ssp : U32 := 0x6A4
def msrIa32InterruptSspTable : U32 := 0x6A8
def msrIa32SysenterCs : U32 := 0x174
def msrIa32SysenterEsp : U32 := 0x175
def msrIa32SysenterEip : U32 := 0x176

/-- The instructions of the entry code, its jumps, calls and VMX instructions
apart. `saved` is what an XSAVES, `reloaded` what an XRSTORS of the 64-bit form
does; without `supervisor` they are XSAVE and XRSTOR. A VMREAD and the flags
after it are what `vmread` and `popFlags` are given. -/
inductive Instr
  | mov (dst src : Gpr)
  | mov32 (dst src : Gpr)
  | movImm (dst : Gpr) (value : U64)
  | xor32 (dst : Gpr)
  | or (dst src : Gpr)
  | shl (dst : Gpr) (count : Nat)
  | shr (dst : Gpr) (count : Nat)
  | sar (dst : Gpr) (count : Nat)
  | andImm (dst : Gpr) (value : U64)
  | add (dst : Gpr) (value : U64)
  | sub (dst : Gpr) (value : U64)
  | lea (dst base : Gpr) (offset : U64)
  | btr (dst : Gpr) (bit : Nat)
  | load (dst base : Gpr) (slot : U64)
  | store (base : Gpr) (slot : U64) (src : Gpr)
  | store16 (base : Gpr) (slot : U64) (src : Gpr)
  | storeImm (base : Gpr) (slot value : U64)
  | cli
  | cld
  | rdmsr
  | wrmsr
  | xgetbv
  | xsetbv
  | saved (supervisor : Bool) (base : Gpr)
  | reloaded (supervisor : Bool) (base : Gpr)
  | fxsave (base : Gpr)
  | fxrstor (base : Gpr)
  | vmread (dst : Gpr) (value : U64)
  | popFlags (dst : Gpr) (flags : U64)
  | toDr7 (src : Gpr)
  | toCr0 (src : Gpr)
  | toCr3 (src : Gpr)
  | toCr4 (src : Gpr)
  | fromCr4 (dst : Gpr)
  | lidt (base : Gpr) (slot : U64)
  deriving DecidableEq, Repr

/-- The low half of a register, zero-extended. -/
def low32 (value : U64) : U64 := (value.setWidth 32).setWidth 64

/-- `EDX:EAX` -/
def paired (edx eax : U64) : U64 := low32 edx <<< 32 ||| low32 eax

namespace Cpu

variable {ξ : Type}

def setGpr (c : Cpu ξ) (reg : Gpr) (value : U64) : Cpu ξ :=
  { c with gpr := Function.update c.gpr reg value }

def setMem (c : Cpu ξ) (address value : U64) : Cpu ξ :=
  { c with mem := Function.update c.mem address value }

@[simp] theorem setGpr_gpr (c : Cpu ξ) (reg : Gpr) (value : U64) :
    (c.setGpr reg value).gpr = Function.update c.gpr reg value := rfl

@[simp] theorem setGpr_mem (c : Cpu ξ) (reg : Gpr) (value : U64) :
    (c.setGpr reg value).mem = c.mem := rfl

@[simp] theorem setMem_gpr (c : Cpu ξ) (address value : U64) :
    (c.setMem address value).gpr = c.gpr := rfl

@[simp] theorem setMem_mem (c : Cpu ξ) (address value : U64) :
    (c.setMem address value).mem = Function.update c.mem address value := rfl

/-- The components that an XSAVE instruction with this mask works on. -/
def requested (c : Cpu ξ) (supervisor : Bool) : U64 :=
  paired (c.gpr .rdx) (c.gpr .rax) &&& if supervisor then c.xcr0 ||| c.msr msrIa32Xss else c.xcr0

def store (c : Cpu ξ) (base : U64) (mask : U64) : Cpu ξ :=
  { c with image := Function.update c.image base fun i =>
      if mask.getLsbD i then c.ext i else c.image base i }

def reload (c : Cpu ξ) (base : U64) (mask : U64) : Cpu ξ :=
  { c with ext := fun i => if mask.getLsbD i then c.image base i else c.ext i }

end Cpu

/-- x87 and SSE, which FXSAVE covers. -/
def legacyMask : U64 := 3

/-- What one instruction does. -/
def Instr.step {ξ : Type} (i : Instr) (c : Cpu ξ) : Cpu ξ :=
  match i with
  | mov dst src => c.setGpr dst (c.gpr src)
  | mov32 dst src => c.setGpr dst (low32 (c.gpr src))
  | movImm dst value => c.setGpr dst value
  | xor32 dst => c.setGpr dst 0
  | or dst src => c.setGpr dst (c.gpr dst ||| c.gpr src)
  | shl dst count => c.setGpr dst (c.gpr dst <<< count)
  | shr dst count => c.setGpr dst (c.gpr dst >>> count)
  | sar dst count => c.setGpr dst ((c.gpr dst).sshiftRight count)
  | andImm dst value => c.setGpr dst (c.gpr dst &&& value)
  | add dst value => c.setGpr dst (c.gpr dst + value)
  | sub dst value => c.setGpr dst (c.gpr dst - value)
  | lea dst base offset => c.setGpr dst (c.gpr base + offset)
  | btr dst bit => c.setGpr dst (c.gpr dst &&& ~~~(1#64 <<< bit))
  | load dst base slot => c.setGpr dst (c.mem (c.gpr base + slot))
  | Instr.store base slot src => c.setMem (c.gpr base + slot) (c.gpr src)
  | store16 base slot src => c.setMem (c.gpr base + slot) ((c.gpr src).setWidth 16).toNat
  | storeImm base slot value => c.setMem (c.gpr base + slot) value
  | cli => { c with interrupts := false }
  | cld => { c with direction := false }
  | rdmsr =>
    let value := c.msr ((c.gpr .rcx).setWidth 32)
    (c.setGpr .rax (low32 value)).setGpr .rdx (value >>> 32)
  | wrmsr => { c with
      msr := Function.update c.msr ((c.gpr .rcx).setWidth 32) (paired (c.gpr .rdx) (c.gpr .rax)) }
  | xgetbv => (c.setGpr .rax (low32 c.xcr0)).setGpr .rdx (c.xcr0 >>> 32)
  | xsetbv => { c with xcr0 := paired (c.gpr .rdx) (c.gpr .rax) }
  | saved supervisor base => c.store (c.gpr base) (c.requested supervisor)
  | reloaded supervisor base => c.reload (c.gpr base) (c.requested supervisor)
  | fxsave base => c.store (c.gpr base) legacyMask
  | fxrstor base => c.reload (c.gpr base) legacyMask
  | vmread dst value => c.setGpr dst value
  | popFlags dst flags => c.setGpr dst flags
  | toDr7 src => { c with dr7 := c.gpr src }
  | toCr0 src => { c with cr0 := c.gpr src }
  | toCr3 src => { c with cr3 := c.gpr src }
  | toCr4 src => { c with cr4 := c.gpr src }
  | fromCr4 dst => c.setGpr dst c.cr4
  | lidt base slot => { c with
      idtLimit := (c.mem (c.gpr base + slot)).setWidth 16
      idtBase := c.mem (c.gpr base + slot + 2) }

/-- A listing of the entry code. -/
abbrev run {ξ : Type} (block : List Instr) (c : Cpu ξ) : Cpu ξ := Listing.run Instr.step block c

/-- The parts of a processor that an instruction may change. -/
inductive Part
  | gpr (reg : Gpr) | interrupts | direction | msr | xcr0 | dr7 | control | ext | mem | image
  deriving DecidableEq, Repr

def Instr.touches (i : Instr) (part : Part) : Bool :=
  match i with
  | mov dst _ | mov32 dst _ | movImm dst _ | xor32 dst | or dst _ | shl dst _ | shr dst _
  | sar dst _ | andImm dst _ | add dst _ | sub dst _ | lea dst _ _ | btr dst _ | load dst _ _
  | vmread dst _ | popFlags dst _ | fromCr4 dst => part = .gpr dst
  | Instr.store .. | store16 .. | storeImm .. => part = .mem
  | cli => part = .interrupts
  | cld => part = .direction
  | rdmsr | xgetbv => part = .gpr .rax || part = .gpr .rdx
  | wrmsr => part = .msr
  | xsetbv => part = .xcr0
  | saved .. | fxsave _ => part = .image
  | reloaded .. | fxrstor _ => part = .ext
  | toDr7 _ => part = .dr7
  | toCr0 _ | toCr3 _ | toCr4 _ | lidt .. => part = .control

/-- Two processors agree on a part. -/
def Part.Same {ξ : Type} (part : Part) (c d : Cpu ξ) : Prop :=
  match part with
  | gpr reg => c.gpr reg = d.gpr reg
  | interrupts => c.interrupts = d.interrupts
  | direction => c.direction = d.direction
  | msr => c.msr = d.msr
  | xcr0 => c.xcr0 = d.xcr0
  | dr7 => c.dr7 = d.dr7
  | control => c.cr0 = d.cr0 ∧ c.cr3 = d.cr3 ∧ c.cr4 = d.cr4 ∧ c.idtLimit = d.idtLimit ∧
      c.idtBase = d.idtBase
  | ext => c.ext = d.ext
  | mem => c.mem = d.mem
  | image => c.image = d.image

section

variable {ξ : Type}

theorem Part.Same.refl (part : Part) (c : Cpu ξ) : part.Same c c := by
  cases part <;> first | rfl | exact ⟨rfl, rfl, rfl, rfl, rfl⟩

theorem Part.Same.trans {part : Part} {c d e : Cpu ξ} (first : part.Same c d)
    (second : part.Same d e) : part.Same c e := by
  cases part with
  | control =>
    obtain ⟨cr0, cr3, cr4, limit, base⟩ := first
    obtain ⟨cr0', cr3', cr4', limit', base'⟩ := second
    exact ⟨cr0.trans cr0', cr3.trans cr3', cr4.trans cr4', limit.trans limit', base.trans base'⟩
  | _ => exact Eq.trans first second

theorem setGpr_same {part : Part} {reg : Gpr} (apart : part ≠ .gpr reg) (c : Cpu ξ) (value : U64) :
    part.Same (c.setGpr reg value) c := by
  cases part with
  | gpr other => exact Function.update_of_ne (fun same => apart (congrArg Part.gpr same)) _ _
  | control => exact ⟨rfl, rfl, rfl, rfl, rfl⟩
  | _ => rfl

theorem Instr.step_same {i : Instr} {part : Part} (apart : i.touches part = false) (c : Cpu ξ) :
    part.Same (i.step c) c := by
  cases i with
  | rdmsr | xgetbv =>
    simp only [touches, Bool.or_eq_false_iff, decide_eq_false_iff_not] at apart
    exact (setGpr_same apart.2 _ _).trans (setGpr_same apart.1 _ _)
  | _ =>
    simp only [touches, decide_eq_false_iff_not] at apart
    first
    | exact setGpr_same apart _ _
    | cases part <;> first | exact absurd rfl apart | rfl | exact ⟨rfl, rfl, rfl, rfl, rfl⟩

theorem run_append (first second : List Instr) (c : Cpu ξ) :
    run (first ++ second) c = run second (run first c) := Listing.run_append first second c

/-- What no instruction of a listing touches. -/
theorem run_same {block : List Instr} (part : Part)
    (clean : block.any (·.touches part) = false) (c : Cpu ξ) : part.Same (run block c) c := by
  refine Listing.run_related part.Same (.refl part)
    (fun _ _ _ first second => first.trans second) (fun i member c => ?_) c
  exact i.step_same (Bool.eq_false_iff.mpr (List.any_eq_false.mp clean i member)) c

end

end Knhv.Entry
