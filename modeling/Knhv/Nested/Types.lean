import Knhv.Abi
import Mathlib.Logic.Function.Basic

namespace Knhv.Nested

def kNestedModelVersion : U32 := 1
def kNestedVmcsSlots : Nat := 16
def kNestedVmcsFields : Nat := 96
def kNestedPageSize : U32 := 4096
def kNestedVmxRevisionMask : U32 := 0x7FFFFFFF

def kRflagsCarry : U64 := 1
def kRflagsZero : U64 := 1 <<< 6
def kInstructionOperandIsRegister : U32 := 1 <<< 0
def kDescriptorIsInline : U32 := 1 <<< 1
def kNestedSecondaryEnableEpt : U32 := 1 <<< 1
def kNestedSecondaryEnableVpid : U32 := 1 <<< 5
def kNestedSecondaryEnableVmfunc : U32 := 1 <<< 13

/-- The `sizeof` values of the versioned structures, as the header asserts
them; the vCPU's own size follows from the layout of its members. -/
def sizeofVmxInstruction : U32 := 72
def sizeofNestedCapabilities : U32 := 112
def sizeofNestedExitRecord : U32 := 40
def sizeofNestedVcpu : U32 := 12992

/-- VMX opcodes. The wire word is a `u32`, so a value outside the enumeration
can arrive as well; it is kept in `Other`. -/
inductive VmxOpcode
  | Vmxon | Vmxoff | Vmclear | Vmptrld | Vmptrst | Vmread | Vmwrite | Vmlaunch | Vmresume
  | Invept | Invvpid | Vmfunc | Vmcall
  | Other (code : U32)
  deriving DecidableEq, Repr

inductive NestedAction
  | ResumeL1 | EnterL2 | ReflectVmexit | InjectUndefinedInstruction | VirtualUnsupported
  | QuarantineSession
  deriving DecidableEq, Repr

inductive NestedMemoryAccess
  | Read | Write
  deriving DecidableEq, Repr

/-- The guest-memory callbacks. `context` is the memory behind the `void*` of
the source: every callback may change it. A callback that refuses returns
`none` (or `false`). A read that succeeds fills the destination, byte by byte. -/
structure NestedMemory (σ : Type) where
  context : σ
  translate : Option (σ → U64 → NestedMemoryAccess → Option U64 × σ)
  read : Option (σ → U64 → U32 → Option (Nat → U8) × σ)
  write : Option (σ → U64 → List U8 → Bool × σ)

structure NestedCapabilities where
  version : U32
  size : U32
  featureBits : U64
  vmxRevision : U32
  maxPhysicalAddressBits : U32
  linearAddressBits : U32
  eptpListEntries : U32
  vpidCount : U32
  pinAllowed0 : U32
  pinAllowed1 : U32
  primaryAllowed0 : U32
  primaryAllowed1 : U32
  secondaryAllowed0 : U32
  secondaryAllowed1 : U32
  exitAllowed0 : U32
  exitAllowed1 : U32
  entryAllowed0 : U32
  entryAllowed1 : U32
  cr0Fixed0 : U64
  cr0Fixed1 : U64
  cr4Fixed0 : U64
  cr4Fixed1 : U64
  deriving DecidableEq

structure VmxInstruction where
  version : U32
  size : U32
  opcode : VmxOpcode
  instructionLength : U32
  flags : U32
  descriptorType : U32
  reserved : U32
  encoding : U32
  reserved2 : U32
  linearOperand : U64
  destination : U64
  source : U64
  descriptor : U64
  deriving DecidableEq

structure NestedResult where
  status : HvStatus
  action : NestedAction
  instructionError : U32
  instructionLength : U32
  rflags : U64
  value : U64
  deriving DecidableEq

inductive Vmcs12State
  | Clear | Active | Launched
  deriving DecidableEq, Repr

structure NestedVmcs12 where
  regionGpa : U64
  revision : U32
  state : Vmcs12State
  allocated : Bool
  fields : Fin kNestedVmcsFields → U64
  dirtyGroups : U64

/-- The value `{}` of the source: every byte zero. -/
def NestedVmcs12.zero : NestedVmcs12 where
  regionGpa := 0
  revision := 0
  state := .Clear
  allocated := false
  fields := fun _ => 0
  dirtyGroups := 0

/-- One nested vCPU with its table of tracked VMCS12 regions. A pointer into
the table is the index of its slot. -/
structure NestedVcpu (σ : Type) where
  version : U32
  size : U32
  capabilities : NestedCapabilities
  memory : NestedMemory σ
  vmxonActive : Bool
  l2Running : Bool
  vmxeEnabled : Bool
  vmxonGpa : U64
  currentVmcsGpa : U64
  instructionError : U32
  generation : U32
  vmcsCount : U32
  eptpIndex : U32
  vmcs : Fin kNestedVmcsSlots → NestedVmcs12

structure NestedExitRecord where
  version : U32
  size : U32
  reason : U32
  instructionLength : U32
  qualification : U64
  deriving DecidableEq

/-- `~0ULL`, the current-VMCS pointer when no VMCS is current. -/
def kNoCurrentVmcs : U64 := ~~~0

def NestedVcpu.withContext {σ : Type} (vcpu : NestedVcpu σ) (context : σ) : NestedVcpu σ :=
  { vcpu with memory := { vcpu.memory with context := context } }

def NestedVcpu.setVmcs {σ : Type} (vcpu : NestedVcpu σ) (slot : Fin kNestedVmcsSlots)
    (vmcs : NestedVmcs12) : NestedVcpu σ :=
  { vcpu with vmcs := Function.update vcpu.vmcs slot vmcs }

end Knhv.Nested
