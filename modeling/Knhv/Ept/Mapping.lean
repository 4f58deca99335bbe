import Knhv.Ept.Pointer
import Knhv.Lib.Segment
import Knhv.Paging

namespace Knhv.Ept

def kEptMappingFlagPresent : U32 := 1 <<< 0
def kEptMappingFlagLargePage : U32 := 1 <<< 1
def kEptMappingFlagAccessDirty : U32 := 1 <<< 2
def kEptMappingFlagHostOwned : U32 := 1 <<< 3
def kEptMappingKnownFlagMask : U32 :=
  kEptMappingFlagPresent ||| kEptMappingFlagLargePage ||| kEptMappingFlagAccessDirty |||
    kEptMappingFlagHostOwned

def kEptPermissionRead : U32 := 1 <<< 0
def kEptPermissionWrite : U32 := 1 <<< 1
def kEptPermissionExecute : U32 := 1 <<< 2
def kEptPermissionKnownMask : U32 :=
  kEptPermissionRead ||| kEptPermissionWrite ||| kEptPermissionExecute
def kEptMaxMappingPages : U64 := 1 <<< 20

inductive EptAccess
  | Read | Write | Execute
  deriving DecidableEq, Repr

inductive EptLookupStatus
  | Hit | NotPresent | PermissionDenied | Stale | Invalid | HostOwned
  deriving DecidableEq, Repr

def sizeofEptMapping : U32 := 56
def sizeofEptLookupResult : U32 := 32

structure EptMapping where
  size : U32
  version : U32
  guestPhysical : U64
  hostPhysical : U64
  pageCount : U64
  pageOrder : U32
  permissions : U32
  memoryType : U32
  flags : U32
  generation : U64
  deriving DecidableEq

structure EptLookupResult where
  size : U32
  version : U32
  status : EptLookupStatus
  permissions : U32
  hostPhysical : U64
  generation : U64
  deriving DecidableEq

def addOverflow (left right : U64) : Option U64 := Checked.add left right

def mappingSpan (mapping : EptMapping) : Option (U64 × U64) :=
  Paging.spanOf kEptPageShift kEptMaxMappingPages mapping.pageCount mapping.pageOrder

def makeLookup (status : EptLookupStatus) (permissions : U32) (hpa generation : U64) :
    EptLookupResult where
  size := sizeofEptLookupResult
  version := kEptContractVersion
  status := status
  permissions := permissions
  hostPhysical := hpa
  generation := generation

/-- The part of the check that does not look at the addresses. -/
def isMappingHeaderValid (mapping : EptMapping) : Bool :=
  isVersionedSizeValid mapping.version mapping.size sizeofEptMapping &&
  mapping.flags &&& ~~~kEptMappingKnownFlagMask == 0 &&
  mapping.flags &&& kEptMappingFlagPresent != 0 &&
  mapping.permissions &&& ~~~kEptPermissionKnownMask == 0 && mapping.permissions != 0 &&
  (mapping.memoryType == kEptMemoryTypeUc || mapping.memoryType == kEptMemoryTypeWb) &&
  mapping.generation != 0

/-- The check of one range of the mapping. -/
def isRangeValid (base spanBytes : U64) (maxPhysicalBits : U32) : Bool :=
  (addOverflow base (spanBytes - 1)).any fun last => isPhysicalAddress last maxPhysicalBits

def isEptMappingValid (mapping : Option EptMapping) (maxPhysicalBits : U32) : Bool :=
  match mapping with
  | none => false
  | some mapping =>
    isMappingHeaderValid mapping &&
    match mappingSpan mapping with
    | none => false
    | some (pageSize, spanBytes) =>
      mapping.guestPhysical &&& (pageSize - 1) == 0 &&
      mapping.hostPhysical &&& (pageSize - 1) == 0 &&
      !(mapping.pageOrder == 0 && mapping.flags &&& kEptMappingFlagLargePage != 0) &&
      !(mapping.pageOrder != 0 && mapping.flags &&& kEptMappingFlagLargePage == 0) &&
      isPhysicalAddress mapping.guestPhysical maxPhysicalBits &&
      isPhysicalAddress mapping.hostPhysical maxPhysicalBits &&
      isRangeValid mapping.guestPhysical spanBytes maxPhysicalBits &&
      isRangeValid mapping.hostPhysical spanBytes maxPhysicalBits

def eptMappingContains (mapping : EptMapping) (guestPhysical : U64) : Bool :=
  isEptMappingValid (some mapping) kEptMaxPhysicalAddressBits &&
  match mappingSpan mapping with
  | none => false
  | some (_, spanBytes) =>
    if guestPhysical < mapping.guestPhysical then false
    else guestPhysical - mapping.guestPhysical < spanBytes

def isEptAccessAllowed (permissions : U32) : EptAccess → Bool
  | .Read => permissions &&& kEptPermissionRead != 0
  | .Write => permissions &&& kEptPermissionWrite != 0
  | .Execute => permissions &&& kEptPermissionExecute != 0

def resolveNestedEpt (l1Mapping rootMapping : Option EptMapping) (l2GuestPhysical : U64)
    (access : EptAccess) : EptLookupResult :=
  match l1Mapping, rootMapping with
  | some l1, some root =>
    if !isEptMappingValid (some l1) kEptMaxPhysicalAddressBits ||
        !isEptMappingValid (some root) kEptMaxPhysicalAddressBits then
      makeLookup .Invalid 0 0 0
    else if l1.generation != root.generation then makeLookup .Stale 0 0 root.generation
    else if !eptMappingContains l1 l2GuestPhysical then makeLookup .NotPresent 0 0 root.generation
    else if !isEptAccessAllowed l1.permissions access then
      makeLookup .PermissionDenied 0 0 root.generation
    else
      match addOverflow l1.hostPhysical (l2GuestPhysical - l1.guestPhysical) with
      | none => makeLookup .Invalid 0 0 root.generation
      | some l1GuestPhysical =>
        if !eptMappingContains root l1GuestPhysical then
          makeLookup .NotPresent 0 0 root.generation
        else if root.flags &&& kEptMappingFlagHostOwned != 0 then
          makeLookup .HostOwned 0 0 root.generation
        else if !isEptAccessAllowed root.permissions access then
          makeLookup .PermissionDenied 0 0 root.generation
        else
          match addOverflow root.hostPhysical (l1GuestPhysical - root.guestPhysical) with
          | none => makeLookup .Invalid 0 0 root.generation
          | some hostPhysical =>
            makeLookup .Hit (l1.permissions &&& root.permissions) hostPhysical root.generation
  | _, _ => makeLookup .Invalid 0 0 0

end Knhv.Ept
