import Mathlib.Data.Nat.Basic

namespace Knhv

abbrev U8 := BitVec 8
abbrev U16 := BitVec 16
abbrev U32 := BitVec 32
abbrev U64 := BitVec 64

/-- Status words of the public contract, in the order of their wire values. -/
inductive HvStatus
  | Success | InvalidParameter | UnsupportedMode | CapabilityMismatch | HardwareOwnerConflict
  | NestedUnavailable | VmfailInvalid | VmfailValid | Cancelled | Timeout | Quarantined | LoadOnly
  | IncompatibleProvider | VirtualUnsupported | ArchUnsupported | BootHandoffFailed
  | RecoveryRequired | HardwareUnsupported | BufferTooSmall | Busy
  deriving DecidableEq, Repr

def kAbiVersion : U32 := 1
def kAbiMinVersion : U32 := 1

def kCapVmx : U64 := 1 <<< 0
def kCapEpt : U64 := 1 <<< 1
def kCapVpid : U64 := 1 <<< 2
def kCapNestedVmx : U64 := 1 <<< 3
def kCapVirtualTlbFlush : U64 := 1 <<< 5

def isVersionedBufferValid (version size requiredSize : U32) : Bool :=
  kAbiMinVersion ≤ version && version ≤ kAbiVersion && requiredSize ≤ size

end Knhv
