import Mathlib.Data.Nat.Basic
import Knhv.Abi

namespace Knhv

def kAbiV2Version : U32 := 2
def kAbiV2MinVersion : U32 := 2
def kAbiV2MaxStructSize : U32 := 4096

def kCapEnlightenedVmcs : U64 := 1 <<< 4
def kCapWhpPartition : U64 := 1 <<< 6
def kCapBootL0 : U64 := 1 <<< 7
def kCapIommu : U64 := 1 <<< 8
def kCapVirtualApic : U64 := 1 <<< 9
def kCapTscContract : U64 := 1 <<< 10
def kKnownCapabilityMask : U64 := (1 <<< 11) - 1

def kFlagOuterL0Active : U32 := 1 <<< 0
def kFlagNativeVmxReady : U32 := 1 <<< 1
def kFlagBootHandoffVerified : U32 := 1 <<< 2
def kFlagKnhvBootL0Active : U32 := 1 <<< 3
def kFlagNestedVmx : U32 := 1 <<< 4
def kFlagWhpPartition : U32 := 1 <<< 5
def kFlagSyntheticSnapshot : U32 := 1 <<< 6

def kPolicyExclusiveOwner : U64 := 1 <<< 0
def kPolicyWindowsHandoff : U64 := 1 <<< 1
def kPolicyNoPhysicalDma : U64 := 1 <<< 2
def kPolicySyntheticOnly : U64 := 1 <<< 3
def kKnownPolicyFeatureMask : U64 := (1 <<< 4) - 1

def kRequestFlagRequireExclusive : U32 := 1 <<< 0
def kRequestFlagReadOnly : U32 := 1 <<< 1
def kKnownV2RequestFlagMask : U32 := kRequestFlagRequireExclusive ||| kRequestFlagReadOnly

def kLeaseFlagExclusive : U32 := 1 <<< 0
def kLeaseFlagSynthetic : U32 := 1 <<< 1
def kLeaseFlagReadOnly : U32 := 1 <<< 2
def kKnownV2LeaseFlagMask : U32 :=
  kLeaseFlagExclusive ||| kLeaseFlagSynthetic ||| kLeaseFlagReadOnly

inductive HvProviderKind
  | None | BootL0Interposer | CooperativeL1 | KnownLegacyAdapter | LoadOnly | ExternalL0Fallback
  | WhpClient | NativeExclusiveBaseline
  deriving DecidableEq, Repr

inductive HvMode
  | BootL0Interposer | CooperativeL1 | KnownLegacyCompat | LoadOnly | ExternalL0Fallback
  | NativeExclusiveBaseline | WhpClient
  deriving DecidableEq, Repr

inductive HvOwnerKindV2
  | Unknown | ExternalL0 | KnhvBootL0 | WhpManaged | SyntheticLab
  deriving DecidableEq, Repr

inductive HvProviderStateV2
  | Unknown | Available | Active | Conflict | Blocked | Quarantined
  deriving DecidableEq, Repr

inductive HvLeaseModeV2
  | None | HardwareL0 | WhpManaged | SyntheticLab
  deriving DecidableEq, Repr

def HvProviderKind.word : HvProviderKind → U32
  | .None => 0
  | .BootL0Interposer => 1
  | .CooperativeL1 => 2
  | .KnownLegacyAdapter => 3
  | .LoadOnly => 4
  | .ExternalL0Fallback => 5
  | .WhpClient => 6
  | .NativeExclusiveBaseline => 7

def HvMode.word : HvMode → U32
  | .BootL0Interposer => 1
  | .CooperativeL1 => 2
  | .KnownLegacyCompat => 3
  | .LoadOnly => 4
  | .ExternalL0Fallback => 5
  | .NativeExclusiveBaseline => 6
  | .WhpClient => 7

def HvOwnerKindV2.word : HvOwnerKindV2 → U32
  | .Unknown => 0
  | .ExternalL0 => 1
  | .KnhvBootL0 => 2
  | .WhpManaged => 3
  | .SyntheticLab => 4

def HvProviderStateV2.word : HvProviderStateV2 → U32
  | .Unknown => 0
  | .Available => 1
  | .Active => 2
  | .Conflict => 3
  | .Blocked => 4
  | .Quarantined => 5

def HvLeaseModeV2.word : HvLeaseModeV2 → U32
  | .None => 0
  | .HardwareL0 => 1
  | .WhpManaged => 2
  | .SyntheticLab => 3

def sizeofHvCapabilitySnapshot : U32 := 56
def sizeofHvProviderRegistration : U32 := 80
def sizeofHvProviderRequest : U32 := 32
def sizeofHvCapabilitySnapshotV2 : U32 := 48
def sizeofHvOwnerLeaseV2 : U32 := 32
def sizeofHvProviderRequestV2 : U32 := 64
def sizeofHvProviderResponseV2 : U32 := 112

structure HvCapabilitySnapshot where
  version : U32
  size : U32
  featureBits : U64
  maxPhysicalAddressBits : U32
  eVmcsVersion : U32
  whpApiVersion : U32
  hypervisorVendorLength : U32
  statusFlags : U32
  bootGeneration : U32
  ownerGeneration : U32
  featureHash : U64
  deriving DecidableEq

/-- The kind is the word that the client sends: it need not name a provider. -/
structure HvProviderRegistration where
  version : U32
  size : U32
  providerGuid : Fin 16 → U8
  minAbiVersion : U32
  maxAbiVersion : U32
  kind : U32
  securityPolicyVersion : U32
  advertisedFeatures : U64
  maxVcpus : U32
  maxGuestPages : U32
  policyHash : U64
  reserved : Fin 2 → U64

structure HvProviderRequest where
  version : U32
  size : U32
  mode : U32
  identityVerified : U32
  legacyManifestMatch : U32
  reserved : U32
  requestedFeatures : U64
  deriving DecidableEq

structure HvSessionKey where
  clientId : U64
  generation : U32
  reserved : U32
  deriving DecidableEq

structure HvCapabilitySnapshotV2 where
  size : U32
  version : U32
  hardwareFeatures : U64
  providerFeatures : U64
  policyFeatures : U64
  ownerKind : U32
  state : U32
  generation : U64
  deriving DecidableEq

structure HvOwnerLeaseV2 where
  size : U32
  version : U32
  ownerId : U64
  generation : U64
  mode : U32
  flags : U32
  deriving DecidableEq

structure HvProviderRequestV2 where
  size : U32
  version : U32
  requestId : U64
  session : HvSessionKey
  requiredHardwareFeatures : U64
  requiredProviderFeatures : U64
  requiredPolicyFeatures : U64
  mode : U32
  flags : U32
  deriving DecidableEq

structure HvProviderResponseV2 where
  size : U32
  version : U32
  requestId : U64
  status : HvStatus
  reserved : U32
  provider : HvProviderKind
  reserved2 : U32
  capabilities : HvCapabilitySnapshotV2
  lease : HvOwnerLeaseV2
  deriving DecidableEq

/-- The values `{}` of the source: every byte zero. -/
def HvCapabilitySnapshotV2.zero : HvCapabilitySnapshotV2 := ⟨0, 0, 0, 0, 0, 0, 0, 0⟩

def HvOwnerLeaseV2.zero : HvOwnerLeaseV2 := ⟨0, 0, 0, 0, 0, 0⟩

def isAbiV2BufferValid (version size requiredSize : U32) : Bool :=
  kAbiV2MinVersion ≤ version && version ≤ kAbiV2Version && requiredSize ≤ size &&
    size ≤ kAbiV2MaxStructSize

end Knhv
