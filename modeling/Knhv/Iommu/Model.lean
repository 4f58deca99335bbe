import Mathlib.Data.Fintype.Basic
import Mathlib.Data.List.FinRange
import Knhv.Paging

namespace Knhv.Iommu

def kIommuContractVersion : U32 := 1
def kIommuMaxStructSize : U32 := 4096
def kIommuPageSize : U32 := 4096
def kIommuPageShift : U32 := 12
def kIommuMaxPhysicalAddressBits : U32 := 52
def kIommuMaxReservedRanges : Nat := 4
def kIommuMaxMappingPages : U64 := 1 <<< 20
def kIommuMaxMsixVectors : U32 := 2048

def kIommuCapQueuedInvalidation : U64 := 1 <<< 0
def kIommuCapInterruptRemapping : U64 := 1 <<< 1
def kIommuCapNestedTranslation : U64 := 1 <<< 2
def kIommuCapAts : U64 := 1 <<< 3
def kIommuCapPri : U64 := 1 <<< 4
def kIommuCapPasid : U64 := 1 <<< 5
def kIommuCapScalableMode : U64 := 1 <<< 6
def kIommuKnownCapabilityMask : U64 :=
  kIommuCapQueuedInvalidation ||| kIommuCapInterruptRemapping ||| kIommuCapNestedTranslation |||
    kIommuCapAts ||| kIommuCapPri ||| kIommuCapPasid ||| kIommuCapScalableMode

def kIommuDeviceHostOwned : U32 := 1 <<< 0
def kIommuDeviceSystemCritical : U32 := 1 <<< 1
def kIommuDeviceDisplay : U32 := 1 <<< 2
def kIommuDeviceIsolationComplete : U32 := 1 <<< 3
def kIommuDeviceResetReliable : U32 := 1 <<< 4
def kIommuDeviceAllowL1 : U32 := 1 <<< 5
def kIommuDeviceAllowL2 : U32 := 1 <<< 6
def kIommuDeviceSriov : U32 := 1 <<< 7
def kIommuDeviceAts : U32 := 1 <<< 8
def kIommuDevicePri : U32 := 1 <<< 9
def kIommuDevicePasid : U32 := 1 <<< 10
def kIommuDeviceHasRmrr : U32 := 1 <<< 11
def kIommuDeviceMsix : U32 := 1 <<< 12
def kIommuKnownDeviceMask : U32 :=
  kIommuDeviceHostOwned ||| kIommuDeviceSystemCritical ||| kIommuDeviceDisplay |||
    kIommuDeviceIsolationComplete ||| kIommuDeviceResetReliable ||| kIommuDeviceAllowL1 |||
    kIommuDeviceAllowL2 ||| kIommuDeviceSriov ||| kIommuDeviceAts ||| kIommuDevicePri |||
    kIommuDevicePasid ||| kIommuDeviceHasRmrr ||| kIommuDeviceMsix

def kIommuDomainNested : U32 := 1 <<< 0
def kIommuDomainInterruptRemap : U32 := 1 <<< 1
def kIommuDomainReadOnly : U32 := 1 <<< 2
def kIommuDomainIdentity : U32 := 1 <<< 3
def kIommuKnownDomainMask : U32 :=
  kIommuDomainNested ||| kIommuDomainInterruptRemap ||| kIommuDomainReadOnly |||
    kIommuDomainIdentity

def kIommuMappingPresent : U32 := 1 <<< 0
def kIommuMappingHostOwned : U32 := 1 <<< 1
def kIommuMappingPinned : U32 := 1 <<< 2
def kIommuMappingLargePage : U32 := 1 <<< 3
def kIommuKnownMappingMask : U32 :=
  kIommuMappingPresent ||| kIommuMappingHostOwned ||| kIommuMappingPinned |||
    kIommuMappingLargePage

def kIommuPermissionRead : U32 := 1 <<< 0
def kIommuPermissionWrite : U32 := 1 <<< 1
def kIommuKnownPermissionMask : U32 := kIommuPermissionRead ||| kIommuPermissionWrite

def kIommuReadyHostQuiesced : U32 := 1 <<< 0
def kIommuReadyDmaDrained : U32 := 1 <<< 1
def kIommuReadyInterruptsDrained : U32 := 1 <<< 2
def kIommuReadyResetComplete : U32 := 1 <<< 3
def kIommuKnownReadyMask : U32 :=
  kIommuReadyHostQuiesced ||| kIommuReadyDmaDrained ||| kIommuReadyInterruptsDrained |||
    kIommuReadyResetComplete
def kIommuActivateReadyMask : U32 :=
  kIommuReadyHostQuiesced ||| kIommuReadyDmaDrained ||| kIommuReadyInterruptsDrained |||
    kIommuReadyResetComplete
def kIommuDetachReadyMask : U32 :=
  kIommuReadyHostQuiesced ||| kIommuReadyDmaDrained ||| kIommuReadyInterruptsDrained
def kIommuCompleteDetachReadyMask : U32 := kIommuDetachReadyMask ||| kIommuReadyResetComplete

def kIommuAssignmentNested : U32 := 1 <<< 0
def kIommuAssignmentInterruptRemap : U32 := 1 <<< 1
def kIommuAssignmentQuarantined : U32 := 1 <<< 2
def kIommuKnownAssignmentMask : U32 :=
  kIommuAssignmentNested ||| kIommuAssignmentInterruptRemap ||| kIommuAssignmentQuarantined

/-! The kinds, the states, the methods and the reasons are `u32` words in the
structures, and any word can stand there. -/

def kKindHost : U32 := 1
def kKindL1 : U32 := 2
def kKindL2 : U32 := 3
def kKindQuarantine : U32 := 4

def kStateEmpty : U32 := 0
def kStatePrepared : U32 := 1
def kStateActive : U32 := 2
def kStateDraining : U32 := 3
def kStateQuarantined : U32 := 4
def kStateRetired : U32 := 5

def kResetNone : U32 := 0
def kResetFlr : U32 := 1
def kResetSecondaryBus : U32 := 2

def kAccessRead : U32 := 1
def kAccessWrite : U32 := 2

def kFaultInvalidAddress : U32 := 1
def kFaultUnknown : U32 := 6

inductive IommuDmaAccess
  | Read | Write
  deriving DecidableEq, Repr

inductive IommuLookupStatus
  | Hit | NotPresent | PermissionDenied | Stale | Invalid | HostOwned | Quarantined
  deriving DecidableEq, Repr

inductive IommuAssignmentStatus
  | Success | InvalidParameter | CapabilityMismatch | IsolationIncomplete | HostOwned
  | CriticalDevice | ResetUnsupported | GenerationMismatch | DomainInvalid | AddressInvalid
  | QuiesceRequired | StateConflict | FaultQuarantined
  deriving DecidableEq, Repr

def IommuAssignmentStatus.word : IommuAssignmentStatus → U32
  | .Success => 0
  | .InvalidParameter => 1
  | .CapabilityMismatch => 2
  | .IsolationIncomplete => 3
  | .HostOwned => 4
  | .CriticalDevice => 5
  | .ResetUnsupported => 6
  | .GenerationMismatch => 7
  | .DomainInvalid => 8
  | .AddressInvalid => 9
  | .QuiesceRequired => 10
  | .StateConflict => 11
  | .FaultQuarantined => 12

def sizeofIommuCapabilities : U32 := 48
def sizeofIommuDeviceProfile : U32 := 160
def sizeofIommuDomain : U32 := 88
def sizeofIommuDmaMapping : U32 := 64
def sizeofIommuDmaResult : U32 := 32
def sizeofIommuAssignment : U32 := 64
def sizeofIommuFaultRecord : U32 := 56

structure IommuBdf where
  segment : U16
  bus : U8
  device : U8
  function : U8
  reserved : Fin 3 → U8
  deriving DecidableEq

structure IommuRange where
  base : U64
  length : U64
  flags : U32
  reserved : U32
  deriving DecidableEq

structure IommuCapabilities where
  size : U32
  version : U32
  featureFlags : U64
  maxPhysicalAddressBits : U32
  maxDomainAddressBits : U32
  maxDomains : U32
  maxMsixVectors : U32
  maxReservedRanges : U32
  reserved : U32
  generation : U64
  deriving DecidableEq

structure IommuDeviceProfile where
  size : U32
  version : U32
  bdf : IommuBdf
  isolationGroup : U32
  flags : U32
  resetMethod : U32
  dmaAddressBits : U32
  maxMsixVectors : U32
  rmrrCount : U32
  profileGeneration : U64
  rmrr : Fin kIommuMaxReservedRanges → IommuRange
  dmaMask : U64
  reserved : U32
  reserved2 : U32
  deriving DecidableEq

structure IommuDomain where
  size : U32
  version : U32
  domainId : U64
  ownerId : U64
  parentDomainId : U64
  generation : U64
  kind : U32
  state : U32
  flags : U32
  addressBits : U32
  guestBase : U64
  guestLimit : U64
  mappedPages : U64
  reserved : U32
  reserved2 : U32
  deriving DecidableEq

/-- The device presents `iova`; `guestPhysical` is the result of the first
translation and `hostPhysical` the final target. -/
structure IommuDmaMapping where
  size : U32
  version : U32
  iova : U64
  guestPhysical : U64
  hostPhysical : U64
  pageCount : U64
  pageOrder : U32
  permissions : U32
  flags : U32
  reserved : U32
  generation : U64
  deriving DecidableEq

structure IommuDmaResult where
  size : U32
  version : U32
  status : IommuLookupStatus
  permissions : U32
  hostPhysical : U64
  generation : U64
  deriving DecidableEq

structure IommuAssignment where
  size : U32
  version : U32
  status : U32
  state : U32
  bdf : IommuBdf
  resetMethod : U32
  flags : U32
  ownerId : U64
  domainId : U64
  generation : U64
  faultCount : U64
  deriving DecidableEq

structure IommuFaultRecord where
  size : U32
  version : U32
  reason : U32
  access : U32
  bdf : IommuBdf
  reserved : U32
  address : U64
  generation : U64
  sequence : U64
  deriving DecidableEq

def isVersionedSizeValid (version size required : U32) : Bool :=
  version == kIommuContractVersion && required ≤ size && size ≤ kIommuMaxStructSize

def isAddressBitsValid (bits : U32) : Bool :=
  kIommuPageShift ≤ bits && bits ≤ kIommuMaxPhysicalAddressBits

def isPhysicalAddress (value : U64) (bits : U32) : Bool :=
  isAddressBitsValid bits && Paging.fitsWidth value bits

def addOverflow (left right : U64) : Option U64 := Checked.add left right

def isEnumValueValid (value first last : U32) : Bool := first ≤ value && value ≤ last

def isDomainKindValid (value : U32) : Bool := isEnumValueValid value kKindHost kKindQuarantine

def isDomainStateValid (value : U32) : Bool := value ≤ kStateRetired

def isResetMethodValid (value : U32) : Bool := value ≤ kResetSecondaryBus

def isDmaAccessValid (value : U32) : Bool := value == kAccessRead || value == kAccessWrite

def isFaultReasonValid (value : U32) : Bool :=
  isEnumValueValid value kFaultInvalidAddress kFaultUnknown

def isReadinessValid (readiness required : U32) : Bool :=
  readiness &&& ~~~kIommuKnownReadyMask == 0 && readiness &&& required == required

def isSameBdf (left right : IommuBdf) : Bool :=
  left.segment == right.segment && left.bus == right.bus && left.device == right.device &&
  left.function == right.function

def pageMask : U64 := kIommuPageSize.setWidth 64 - 1

def isRangeEndValid (base length : U64) (addressBits : U32) : Bool :=
  length != 0 && base &&& pageMask == 0 && length &&& pageMask == 0 &&
  match addOverflow base (length - 1) with
  | none => false
  | some last => isPhysicalAddress base addressBits && isPhysicalAddress last addressBits

def mappingSpan (mapping : IommuDmaMapping) : Option (U64 × U64) :=
  Paging.spanOf kIommuPageShift kIommuMaxMappingPages mapping.pageCount mapping.pageOrder

def makeDmaResult (status : IommuLookupStatus) (permissions : U32) (hostPhysical generation : U64) :
    IommuDmaResult where
  size := sizeofIommuDmaResult
  version := kIommuContractVersion
  status := status
  permissions := permissions
  hostPhysical := hostPhysical
  generation := generation

def isIommuBdfValid (bdf : IommuBdf) : Bool :=
  bdf.device < 32 && bdf.function < 8 && bdf.reserved 0 == 0 && bdf.reserved 1 == 0 &&
  bdf.reserved 2 == 0

def isAssignmentValid (assignment : IommuAssignment) : Bool :=
  isVersionedSizeValid assignment.version assignment.size sizeofIommuAssignment &&
  isIommuBdfValid assignment.bdf && isResetMethodValid assignment.resetMethod &&
  assignment.flags &&& ~~~kIommuKnownAssignmentMask == 0 && isDomainStateValid assignment.state &&
  assignment.state != kStateEmpty && assignment.ownerId != 0 && assignment.domainId != 0 &&
  assignment.generation != 0

def isIommuRangeValid (range : IommuRange) (addressBits : U32) : Bool :=
  range.flags == 0 && range.reserved == 0 && isRangeEndValid range.base range.length addressBits

def isIommuCapabilitiesValid (capabilities : IommuCapabilities) : Bool :=
  isVersionedSizeValid capabilities.version capabilities.size sizeofIommuCapabilities &&
  capabilities.featureFlags &&& ~~~kIommuKnownCapabilityMask == 0 &&
  isAddressBitsValid capabilities.maxPhysicalAddressBits &&
  isAddressBitsValid capabilities.maxDomainAddressBits &&
  capabilities.maxDomainAddressBits ≤ capabilities.maxPhysicalAddressBits &&
  capabilities.maxDomains != 0 && capabilities.maxMsixVectors != 0 &&
  capabilities.maxMsixVectors ≤ kIommuMaxMsixVectors &&
  capabilities.maxReservedRanges.toNat ≤ kIommuMaxReservedRanges && capabilities.reserved == 0 &&
  capabilities.generation != 0

/-- The body of the loop over the reserved ranges. -/
def isReservedRangeValid (profile : IommuDeviceProfile) (addressBits : U32)
    (index : Fin kIommuMaxReservedRanges) : Bool :=
  let range := profile.rmrr index
  if index.val < profile.rmrrCount.toNat then isIommuRangeValid range addressBits
  else range.base == 0 && range.length == 0 && range.flags == 0 && range.reserved == 0

def isIommuDeviceProfileValid (profile : IommuDeviceProfile) (addressBits : U32) : Bool :=
  if !isVersionedSizeValid profile.version profile.size sizeofIommuDeviceProfile ||
      !isIommuBdfValid profile.bdf || profile.flags &&& ~~~kIommuKnownDeviceMask != 0 ||
      !isResetMethodValid profile.resetMethod || !isAddressBitsValid addressBits ||
      profile.dmaAddressBits < kIommuPageShift || addressBits < profile.dmaAddressBits ||
      kIommuMaxPhysicalAddressBits < profile.dmaAddressBits ||
      kIommuMaxReservedRanges < profile.rmrrCount.toNat || profile.profileGeneration == 0 ||
      profile.reserved != 0 || profile.reserved2 != 0 then
    false
  else if profile.dmaMask != (1#64 <<< profile.dmaAddressBits.toNat) - 1 then false
  else if (profile.flags &&& kIommuDeviceResetReliable != 0) != (profile.resetMethod != kResetNone)
    then false
  else if (profile.flags &&& kIommuDeviceHasRmrr != 0) != (profile.rmrrCount != 0) then false
  else if profile.flags &&& kIommuDeviceMsix != 0 &&
      (profile.maxMsixVectors == 0 || kIommuMaxMsixVectors < profile.maxMsixVectors) then
    false
  else if profile.flags &&& kIommuDeviceMsix == 0 && profile.maxMsixVectors != 0 then false
  else if profile.flags &&& kIommuDeviceIsolationComplete != 0 && profile.isolationGroup == 0 then
    false
  else if profile.flags &&& kIommuDeviceHasRmrr == 0 && profile.rmrrCount != 0 then false
  else (List.finRange kIommuMaxReservedRanges).all (isReservedRangeValid profile addressBits)

def isIommuDomainValid (domain : IommuDomain) (addressBits : U32) : Bool :=
  if !isVersionedSizeValid domain.version domain.size sizeofIommuDomain ||
      domain.domainId == 0 || !isDomainKindValid domain.kind || !isDomainStateValid domain.state ||
      domain.flags &&& ~~~kIommuKnownDomainMask != 0 || !isAddressBitsValid addressBits ||
      domain.addressBits < kIommuPageShift || addressBits < domain.addressBits ||
      domain.generation == 0 || domain.guestLimit < domain.guestBase ||
      !isPhysicalAddress domain.guestBase domain.addressBits ||
      !isPhysicalAddress domain.guestLimit domain.addressBits ||
      domain.guestBase &&& pageMask != 0 || kIommuMaxMappingPages < domain.mappedPages ||
      domain.reserved != 0 || domain.reserved2 != 0 then
    false
  else if domain.kind == kKindHost then
    domain.ownerId == 0 && domain.parentDomainId == 0 &&
    domain.flags &&& kIommuDomainIdentity != 0 && domain.state == kStateActive
  else if domain.kind == kKindL1 then
    domain.ownerId != 0 && domain.flags &&& kIommuDomainInterruptRemap != 0 &&
    domain.flags &&& kIommuDomainNested == 0 && domain.state != kStateEmpty
  else if domain.kind == kKindL2 then
    domain.ownerId != 0 && domain.parentDomainId != 0 &&
    domain.flags &&& kIommuDomainNested != 0 &&
    domain.flags &&& kIommuDomainInterruptRemap != 0 && domain.state != kStateEmpty
  else if domain.kind == kKindQuarantine then domain.state == kStateQuarantined
  else true

/-- The part of the check that does not look at the addresses. -/
def isMappingHeaderValid (mapping : IommuDmaMapping) (addressBits : U32) : Bool :=
  isVersionedSizeValid mapping.version mapping.size sizeofIommuDmaMapping &&
  mapping.flags &&& ~~~kIommuKnownMappingMask == 0 &&
  mapping.flags &&& kIommuMappingPresent != 0 && mapping.flags &&& kIommuMappingPinned != 0 &&
  mapping.permissions &&& ~~~kIommuKnownPermissionMask == 0 && mapping.permissions != 0 &&
  mapping.reserved == 0 && mapping.generation != 0 && isAddressBitsValid addressBits

/-- The check of one range of the mapping. -/
def isRangeValid (base spanBytes : U64) (addressBits : U32) : Bool :=
  (addOverflow base (spanBytes - 1)).any fun last => isPhysicalAddress last addressBits

def isIommuDmaMappingValid (mapping : Option IommuDmaMapping) (addressBits : U32) : Bool :=
  match mapping with
  | none => false
  | some mapping =>
    isMappingHeaderValid mapping addressBits &&
    match mappingSpan mapping with
    | none => false
    | some (pageSize, spanBytes) =>
      mapping.iova &&& (pageSize - 1) == 0 && mapping.guestPhysical &&& (pageSize - 1) == 0 &&
      mapping.hostPhysical &&& (pageSize - 1) == 0 &&
      !(mapping.pageOrder == 0 && mapping.flags &&& kIommuMappingLargePage != 0) &&
      !(mapping.pageOrder != 0 && mapping.flags &&& kIommuMappingLargePage == 0) &&
      isPhysicalAddress mapping.iova addressBits &&
      isPhysicalAddress mapping.guestPhysical addressBits &&
      isPhysicalAddress mapping.hostPhysical addressBits &&
      isRangeValid mapping.iova spanBytes addressBits &&
      isRangeValid mapping.guestPhysical spanBytes addressBits &&
      isRangeValid mapping.hostPhysical spanBytes addressBits

def iommuDmaMappingContains (mapping : IommuDmaMapping) (iova : U64) (addressBits : U32) : Bool :=
  isIommuDmaMappingValid (some mapping) addressBits &&
  match mappingSpan mapping with
  | none => false
  | some (_, spanBytes) => if iova < mapping.iova then false else iova - mapping.iova < spanBytes

def isIommuDmaAccessAllowed (permissions : U32) : IommuDmaAccess → Bool
  | .Read => permissions &&& kIommuPermissionRead != 0
  | .Write => permissions &&& kIommuPermissionWrite != 0

def resolveNestedDma (l1Mapping rootMapping : Option IommuDmaMapping) (iova : U64)
    (access : IommuDmaAccess) (addressBits : U32) : IommuDmaResult :=
  match l1Mapping, rootMapping with
  | some l1, some root =>
    if !isIommuDmaMappingValid (some l1) addressBits ||
        !isIommuDmaMappingValid (some root) addressBits then
      makeDmaResult .Invalid 0 0 0
    else if l1.generation != root.generation then makeDmaResult .Stale 0 0 root.generation
    else if l1.flags &&& kIommuMappingHostOwned != 0 then
      makeDmaResult .HostOwned 0 0 root.generation
    else if !iommuDmaMappingContains l1 iova addressBits then
      makeDmaResult .NotPresent 0 0 root.generation
    else if !isIommuDmaAccessAllowed l1.permissions access then
      makeDmaResult .PermissionDenied 0 0 root.generation
    else
      match addOverflow l1.guestPhysical (iova - l1.iova) with
      | none => makeDmaResult .Invalid 0 0 root.generation
      | some guestPhysical =>
        if !iommuDmaMappingContains root guestPhysical addressBits then
          makeDmaResult .NotPresent 0 0 root.generation
        else if root.flags &&& kIommuMappingHostOwned != 0 then
          makeDmaResult .HostOwned 0 0 root.generation
        else if !isIommuDmaAccessAllowed root.permissions access then
          makeDmaResult .PermissionDenied 0 0 root.generation
        else
          match addOverflow root.hostPhysical (guestPhysical - root.iova) with
          | none => makeDmaResult .Invalid 0 0 root.generation
          | some hostPhysical =>
            if !isPhysicalAddress hostPhysical addressBits then
              makeDmaResult .Invalid 0 0 root.generation
            else
              makeDmaResult .Hit (l1.permissions &&& root.permissions) hostPhysical root.generation
  | _, _ => makeDmaResult .Invalid 0 0 0

/-- The value that the preparation starts from. -/
def blankAssignment : IommuAssignment where
  size := sizeofIommuAssignment
  version := kIommuContractVersion
  status := 0
  state := 0
  bdf := ⟨0, 0, 0, 0, fun _ => 0⟩
  resetMethod := 0
  flags := 0
  ownerId := 0
  domainId := 0
  generation := 0
  faultCount := 0

def setAssignmentStatus (assignment : IommuAssignment) (status : IommuAssignmentStatus) :
    IommuAssignment :=
  { assignment with status := status.word, state := kStateEmpty }

def requiredCaps : U64 := kIommuCapQueuedInvalidation ||| kIommuCapInterruptRemapping

def nestedCaps : U64 := requiredCaps ||| kIommuCapNestedTranslation

/-- The gates that depend on the kind of the domain. -/
def checkDomainKind (capabilities : IommuCapabilities) (profile : IommuDeviceProfile)
    (domain : IommuDomain) : IommuAssignmentStatus :=
  if domain.kind == kKindL1 then
    if profile.flags &&& kIommuDeviceAllowL1 == 0 then .CapabilityMismatch else .Success
  else if domain.kind == kKindL2 then
    if capabilities.featureFlags &&& nestedCaps != nestedCaps ||
        profile.flags &&& kIommuDeviceAllowL2 == 0 || domain.flags &&& kIommuDomainNested == 0 then
      .CapabilityMismatch
    else if profile.flags &&& kIommuDeviceAts != 0 &&
        capabilities.featureFlags &&& kIommuCapAts == 0 then
      .CapabilityMismatch
    else if profile.flags &&& kIommuDevicePri != 0 &&
        capabilities.featureFlags &&& kIommuCapPri == 0 then
      .CapabilityMismatch
    else if profile.flags &&& kIommuDevicePasid != 0 &&
        capabilities.featureFlags &&& kIommuCapPasid == 0 then
      .CapabilityMismatch
    else .Success
  else .DomainInvalid

/-- The gates of the preparation, in their order. -/
def checkAssignment (capabilities : IommuCapabilities) (profile : IommuDeviceProfile)
    (domain : IommuDomain) (ownerId generation : U64) : IommuAssignmentStatus :=
  if ownerId == 0 || generation == 0 then .InvalidParameter
  else if !isIommuCapabilitiesValid capabilities ||
      !isIommuDeviceProfileValid profile capabilities.maxPhysicalAddressBits then
    .InvalidParameter
  else if !isIommuDomainValid domain capabilities.maxPhysicalAddressBits then .DomainInvalid
  else if generation != capabilities.generation || generation != profile.profileGeneration ||
      generation != domain.generation then
    .GenerationMismatch
  else if domain.ownerId != ownerId || capabilities.maxDomains.setWidth 64 < domain.domainId then
    .DomainInvalid
  else if capabilities.maxDomainAddressBits < profile.dmaAddressBits ||
      (profile.flags &&& kIommuDeviceMsix != 0 &&
        capabilities.maxMsixVectors < profile.maxMsixVectors) then
    .CapabilityMismatch
  else if profile.flags &&& kIommuDeviceHostOwned != 0 then .HostOwned
  else if profile.flags &&& kIommuDeviceSystemCritical != 0 ||
      profile.flags &&& kIommuDeviceDisplay != 0 then
    .CriticalDevice
  else if profile.flags &&& kIommuDeviceIsolationComplete == 0 || profile.isolationGroup == 0 then
    .IsolationIncomplete
  else if profile.flags &&& kIommuDeviceHasRmrr != 0 then .IsolationIncomplete
  else if domain.kind == kKindHost || domain.kind == kKindQuarantine then .DomainInvalid
  else if profile.flags &&& kIommuDeviceResetReliable == 0 then .ResetUnsupported
  else if capabilities.featureFlags &&& requiredCaps != requiredCaps ||
      domain.flags &&& kIommuDomainInterruptRemap == 0 then
    .CapabilityMismatch
  else checkDomainKind capabilities profile domain

/-- The assignment of a device that has passed every gate. -/
def preparedAssignment (profile : IommuDeviceProfile) (domain : IommuDomain)
    (ownerId generation : U64) : IommuAssignment :=
  { blankAssignment with
    bdf := profile.bdf
    resetMethod := profile.resetMethod
    ownerId := ownerId
    domainId := domain.domainId
    generation := generation
    state := kStatePrepared
    status := IommuAssignmentStatus.Success.word
    flags :=
      (if domain.kind == kKindL2 then kIommuAssignmentNested else 0) |||
        (if domain.flags &&& kIommuDomainInterruptRemap != 0 then kIommuAssignmentInterruptRemap
          else 0) }

/-- The assignment is written only if the caller passes a place for it. -/
def prepareIommuAssignment (capabilities : Option IommuCapabilities)
    (profile : Option IommuDeviceProfile) (domain : Option IommuDomain) (ownerId generation : U64)
    (wanted : Bool) : IommuAssignmentStatus × Option IommuAssignment :=
  if !wanted then (.InvalidParameter, none)
  else
    match capabilities, profile, domain with
    | some capabilities, some profile, some domain =>
      match checkAssignment capabilities profile domain ownerId generation with
      | .Success => (.Success, some (preparedAssignment profile domain ownerId generation))
      | status => (status, some (setAssignmentStatus blankAssignment status))
    | _, _, _ =>
      (.InvalidParameter, some (setAssignmentStatus blankAssignment .InvalidParameter))

/-- The three calls that move an assignment on: from one state to the next, if
the readiness bits are there. -/
def advanceAssignment (source target readyMask : U32) (assignment : IommuAssignment)
    (generation : U64) (readiness : U32) : Bool × IommuAssignment :=
  if !isAssignmentValid assignment || assignment.status != IommuAssignmentStatus.Success.word ||
      assignment.state != source || assignment.generation != generation ||
      !isReadinessValid readiness readyMask then
    (false, assignment)
  else (true, { assignment with state := target })

def activateIommuAssignment (assignment : IommuAssignment) (generation : U64) (readiness : U32) :
    Bool × IommuAssignment :=
  advanceAssignment kStatePrepared kStateActive kIommuActivateReadyMask assignment generation
    readiness

def beginIommuDetach (assignment : IommuAssignment) (generation : U64) (readiness : U32) :
    Bool × IommuAssignment :=
  advanceAssignment kStateActive kStateDraining kIommuDetachReadyMask assignment generation
    readiness

def completeIommuDetach (assignment : IommuAssignment) (generation : U64) (readiness : U32) :
    Bool × IommuAssignment :=
  advanceAssignment kStateDraining kStateRetired kIommuCompleteDetachReadyMask assignment
    generation readiness

def isIommuFaultRecordValid (fault : IommuFaultRecord) (addressBits : U32) : Bool :=
  isVersionedSizeValid fault.version fault.size sizeofIommuFaultRecord &&
  isIommuBdfValid fault.bdf && isFaultReasonValid fault.reason && isDmaAccessValid fault.access &&
  fault.reserved == 0 && fault.generation != 0 && fault.sequence != 0 &&
  isPhysicalAddress fault.address addressBits

def quarantineIommuAssignment (assignment : IommuAssignment) (fault : Option IommuFaultRecord) :
    Bool × IommuAssignment :=
  match fault with
  | none => (false, assignment)
  | some fault =>
    if !isAssignmentValid assignment ||
        !isIommuFaultRecordValid fault kIommuMaxPhysicalAddressBits ||
        assignment.state == kStateRetired || assignment.state == kStateQuarantined ||
        !isSameBdf assignment.bdf fault.bdf || assignment.generation != fault.generation ||
        assignment.faultCount == ~~~0 then
      (false, assignment)
    else
      (true,
        { assignment with
          faultCount := assignment.faultCount + 1
          flags := assignment.flags ||| kIommuAssignmentQuarantined
          state := kStateQuarantined
          status := IommuAssignmentStatus.FaultQuarantined.word })

end Knhv.Iommu
