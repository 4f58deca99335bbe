import Mathlib.Data.Nat.Basic
import Knhv.Provider.Types

namespace Knhv.Provider

def requestIsValid (request : HvProviderRequest) : Bool :=
  isVersionedBufferValid request.version request.size sizeofHvProviderRequest &&
    request.reserved == 0

def kKnownStatusFlagMask : U32 :=
  kFlagOuterL0Active ||| kFlagNativeVmxReady ||| kFlagBootHandoffVerified |||
    kFlagKnhvBootL0Active ||| kFlagNestedVmx ||| kFlagWhpPartition ||| kFlagSyntheticSnapshot

def snapshotIsValid (capabilities : HvCapabilitySnapshot) : Bool :=
  let flags := capabilities.statusFlags
  let features := capabilities.featureBits
  if !isVersionedBufferValid capabilities.version capabilities.size
      sizeofHvCapabilitySnapshot then false
  else if 12 < capabilities.hypervisorVendorLength ||
      features &&& ~~~kKnownCapabilityMask != 0 || flags &&& ~~~kKnownStatusFlagMask != 0 ||
      capabilities.maxPhysicalAddressBits == 0 || 52 < capabilities.maxPhysicalAddressBits then
    false
  else if flags &&& kFlagOuterL0Active != 0 && flags &&& kFlagKnhvBootL0Active != 0 then false
  else if flags &&& (kFlagBootHandoffVerified ||| kFlagKnhvBootL0Active) != 0 &&
      features &&& kCapBootL0 == 0 then
    false
  else if flags &&& (kFlagNestedVmx ||| kFlagSyntheticSnapshot) != 0 &&
      features &&& kCapNestedVmx == 0 then
    false
  else if flags &&& kFlagWhpPartition != 0 && features &&& kCapWhpPartition == 0 then false
  else if flags &&& kFlagNativeVmxReady != 0 && features &&& kCapVmx == 0 then false
  else capabilities.eVmcsVersion == 0 || features &&& kCapEnlightenedVmcs != 0

def hasFlag (capabilities : HvCapabilitySnapshot) (flag : U32) : Bool :=
  capabilities.statusFlags &&& flag != 0

def hasFeature (capabilities : HvCapabilitySnapshot) (feature : U64) : Bool :=
  capabilities.featureBits &&& feature != 0

/-- The status and what is written to `selected`: nothing, if the request or
the snapshot is refused. -/
def selectProvider (request : Option HvProviderRequest)
    (capabilities : Option HvCapabilitySnapshot) : HvStatus × Option HvProviderKind :=
  match request, capabilities with
  | some request, some capabilities =>
    if !requestIsValid request || !snapshotIsValid capabilities then (.InvalidParameter, none)
    else
      let outerL0 := hasFlag capabilities kFlagOuterL0Active
      let nativeReady := hasFlag capabilities kFlagNativeVmxReady
      let bootVerified := hasFlag capabilities kFlagBootHandoffVerified
      let knhvL0 := hasFlag capabilities kFlagKnhvBootL0Active
      let synthetic := hasFlag capabilities kFlagSyntheticSnapshot
      let nestedVmx := hasFlag capabilities kFlagNestedVmx && hasFeature capabilities kCapNestedVmx
      let whpPartition :=
        hasFlag capabilities kFlagWhpPartition && hasFeature capabilities kCapWhpPartition
      let missing := request.requestedFeatures &&& ~~~capabilities.featureBits != 0
      if request.mode == HvMode.BootL0Interposer.word then
        if outerL0 then (.HardwareOwnerConflict, some .None)
        else if !nativeReady then (.HardwareUnsupported, some .None)
        else if !bootVerified then (.BootHandoffFailed, some .None)
        else if missing then (.CapabilityMismatch, some .None)
        else (.Success, some .BootL0Interposer)
      else if request.mode == HvMode.CooperativeL1.word then
        if (!knhvL0 && !synthetic) || !nestedVmx || request.identityVerified == 0 then
          (.NestedUnavailable, some .None)
        else if missing then (.CapabilityMismatch, some .None)
        else (.Success, some .CooperativeL1)
      else if request.mode == HvMode.KnownLegacyCompat.word then
        if !knhvL0 || !nestedVmx || request.legacyManifestMatch == 0 then
          (.LoadOnly, some .LoadOnly)
        else (.Success, some .KnownLegacyAdapter)
      else if request.mode == HvMode.LoadOnly.word then (.LoadOnly, some .LoadOnly)
      else if request.mode == HvMode.ExternalL0Fallback.word then
        if !outerL0 || !whpPartition then (.UnsupportedMode, some .None)
        else (.Success, some .ExternalL0Fallback)
      else if request.mode == HvMode.NativeExclusiveBaseline.word then
        if outerL0 || !nativeReady then (.HardwareOwnerConflict, some .None)
        else (.Success, some .NativeExclusiveBaseline)
      else if request.mode == HvMode.WhpClient.word then
        if !whpPartition then (.NestedUnavailable, some .None)
        else (.Success, some .WhpClient)
      else (.UnsupportedMode, some .None)
  | _, _ => (.InvalidParameter, none)

def kV2HardwareFeatureMask : U64 :=
  kCapVmx ||| kCapEpt ||| kCapVpid ||| kCapIommu ||| kCapVirtualApic ||| kCapTscContract
def kV2ProviderFeatureMask : U64 :=
  kCapNestedVmx ||| kCapEnlightenedVmcs ||| kCapVirtualTlbFlush ||| kCapWhpPartition |||
    kCapBootL0

def isOwnerKindValid (value : U32) : Bool :=
  value == HvOwnerKindV2.Unknown.word || value == HvOwnerKindV2.ExternalL0.word ||
    value == HvOwnerKindV2.KnhvBootL0.word || value == HvOwnerKindV2.WhpManaged.word ||
    value == HvOwnerKindV2.SyntheticLab.word

def isProviderStateValid (value : U32) : Bool :=
  value == HvProviderStateV2.Unknown.word || value == HvProviderStateV2.Available.word ||
    value == HvProviderStateV2.Active.word || value == HvProviderStateV2.Conflict.word ||
    value == HvProviderStateV2.Blocked.word || value == HvProviderStateV2.Quarantined.word

def isLeaseModeValid (value : U32) : Bool :=
  value == HvLeaseModeV2.None.word || value == HvLeaseModeV2.HardwareL0.word ||
    value == HvLeaseModeV2.WhpManaged.word || value == HvLeaseModeV2.SyntheticLab.word

def isRequestModeValid (value : U32) : Bool :=
  isLeaseModeValid value && value != HvLeaseModeV2.None.word

def requiredFeaturesKnown (request : HvProviderRequestV2) : Bool :=
  request.requiredHardwareFeatures &&& ~~~kV2HardwareFeatureMask == 0 &&
    request.requiredProviderFeatures &&& ~~~kV2ProviderFeatureMask == 0 &&
    request.requiredPolicyFeatures &&& ~~~kKnownPolicyFeatureMask == 0

def requestV2Valid (request : HvProviderRequestV2) : Bool :=
  isAbiV2BufferValid request.version request.size sizeofHvProviderRequestV2 &&
    request.session.reserved == 0 && request.flags &&& ~~~kKnownV2RequestFlagMask == 0 &&
    isRequestModeValid request.mode && requiredFeaturesKnown request

def capabilityGeneration (capabilities : HvCapabilitySnapshot) : U64 :=
  if capabilities.ownerGeneration != 0 then capabilities.ownerGeneration.setWidth 64
  else capabilities.bootGeneration.setWidth 64

/-- What `SetLease` writes. -/
def setLease (ownerId generation : U64) (mode : HvLeaseModeV2) (flags : U32) : HvOwnerLeaseV2 where
  size := sizeofHvOwnerLeaseV2
  version := kAbiV2Version
  ownerId := ownerId
  generation := generation
  mode := mode.word
  flags := flags

def hasRequiredFeatures (request : HvProviderRequestV2) (capabilities : HvCapabilitySnapshotV2) :
    Bool :=
  request.requiredHardwareFeatures &&& ~~~capabilities.hardwareFeatures == 0 &&
    request.requiredProviderFeatures &&& ~~~capabilities.providerFeatures == 0 &&
    request.requiredPolicyFeatures &&& ~~~capabilities.policyFeatures == 0

/-- One of the flags that name an owner, as a count. -/
def ownerFlag (flags flag : U32) : Nat := if flags &&& flag != 0 then 1 else 0

def makeCapabilitySnapshotV2 (capabilities : Option HvCapabilitySnapshot) :
    HvCapabilitySnapshotV2 :=
  let blank := { HvCapabilitySnapshotV2.zero with
    size := sizeofHvCapabilitySnapshotV2
    version := kAbiV2Version }
  match capabilities with
  | none => { blank with state := HvProviderStateV2.Blocked.word }
  | some capabilities =>
    if !isVersionedBufferValid capabilities.version capabilities.size
        sizeofHvCapabilitySnapshot then
      { blank with state := HvProviderStateV2.Blocked.word }
    else
      let snapshot := { blank with
        hardwareFeatures := capabilities.featureBits &&& kV2HardwareFeatureMask
        providerFeatures := capabilities.featureBits &&& kV2ProviderFeatureMask
        generation := capabilityGeneration capabilities }
      let flags := capabilities.statusFlags
      let ownerFlags := ownerFlag flags kFlagSyntheticSnapshot +
        ownerFlag flags kFlagKnhvBootL0Active + ownerFlag flags kFlagOuterL0Active +
        ownerFlag flags kFlagWhpPartition
      if 1 < ownerFlags then
        { snapshot with
          ownerKind := HvOwnerKindV2.Unknown.word
          state := HvProviderStateV2.Conflict.word
          policyFeatures := kPolicyNoPhysicalDma }
      else if flags &&& kFlagSyntheticSnapshot != 0 then
        { snapshot with
          ownerKind := HvOwnerKindV2.SyntheticLab.word
          state := HvProviderStateV2.Available.word
          policyFeatures := kPolicySyntheticOnly ||| kPolicyNoPhysicalDma }
      else if flags &&& kFlagKnhvBootL0Active != 0 then
        { snapshot with
          ownerKind := HvOwnerKindV2.KnhvBootL0.word
          state :=
            if flags &&& kFlagBootHandoffVerified != 0 then HvProviderStateV2.Active.word
            else HvProviderStateV2.Blocked.word
          policyFeatures := kPolicyExclusiveOwner ||| kPolicyWindowsHandoff }
      else if flags &&& kFlagOuterL0Active != 0 then
        { snapshot with
          ownerKind := HvOwnerKindV2.ExternalL0.word
          state := HvProviderStateV2.Conflict.word
          policyFeatures := kPolicyNoPhysicalDma }
      else if flags &&& kFlagWhpPartition != 0 then
        { snapshot with
          ownerKind := HvOwnerKindV2.WhpManaged.word
          state := HvProviderStateV2.Available.word
          policyFeatures := kPolicyNoPhysicalDma }
      else
        { snapshot with
          ownerKind := HvOwnerKindV2.Unknown.word
          state := HvProviderStateV2.Blocked.word }

def isCapabilitySnapshotV2Valid (capabilities : HvCapabilitySnapshotV2) : Bool :=
  if !isAbiV2BufferValid capabilities.version capabilities.size sizeofHvCapabilitySnapshotV2 ||
      capabilities.hardwareFeatures &&& ~~~kV2HardwareFeatureMask != 0 ||
      capabilities.providerFeatures &&& ~~~kV2ProviderFeatureMask != 0 ||
      capabilities.policyFeatures &&& ~~~kKnownPolicyFeatureMask != 0 ||
      !isOwnerKindValid capabilities.ownerKind || !isProviderStateValid capabilities.state then
    false
  else if capabilities.state == HvProviderStateV2.Active.word &&
      (capabilities.ownerKind == HvOwnerKindV2.Unknown.word || capabilities.generation == 0) then
    false
  else if capabilities.ownerKind == HvOwnerKindV2.SyntheticLab.word &&
      (capabilities.policyFeatures &&& kPolicySyntheticOnly == 0 ||
        capabilities.providerFeatures &&& kCapNestedVmx == 0) then
    false
  else if capabilities.ownerKind == HvOwnerKindV2.KnhvBootL0.word &&
      (capabilities.policyFeatures &&& kPolicyExclusiveOwner == 0 ||
        capabilities.providerFeatures &&& kCapBootL0 == 0 ||
        capabilities.hardwareFeatures &&& kCapVmx == 0) then
    false
  else if capabilities.ownerKind == HvOwnerKindV2.WhpManaged.word &&
      capabilities.providerFeatures &&& kCapWhpPartition == 0 then
    false
  else true

def isOwnerLeaseV2Valid (lease : HvOwnerLeaseV2) : Bool :=
  if !isAbiV2BufferValid lease.version lease.size sizeofHvOwnerLeaseV2 ||
      lease.flags &&& ~~~kKnownV2LeaseFlagMask != 0 || !isLeaseModeValid lease.mode then
    false
  else if lease.mode == HvLeaseModeV2.None.word then
    lease.ownerId == 0 && lease.generation == 0 && lease.flags == 0
  else if lease.ownerId == 0 || lease.generation == 0 then false
  else if lease.mode == HvLeaseModeV2.HardwareL0.word &&
      lease.flags &&& kLeaseFlagExclusive == 0 then
    false
  else if lease.mode == HvLeaseModeV2.SyntheticLab.word &&
      lease.flags &&& kLeaseFlagSynthetic == 0 then
    false
  else if lease.mode != HvLeaseModeV2.SyntheticLab.word &&
      lease.flags &&& kLeaseFlagSynthetic != 0 then
    false
  else if lease.mode != HvLeaseModeV2.HardwareL0.word &&
      lease.flags &&& kLeaseFlagExclusive != 0 then
    false
  else true

def leaseMatchesCapabilityV2 (lease : HvOwnerLeaseV2) (capabilities : HvCapabilitySnapshotV2) :
    Bool :=
  if !isOwnerLeaseV2Valid lease || !isCapabilitySnapshotV2Valid capabilities ||
      lease.generation != capabilities.generation then
    false
  else if lease.mode == HvLeaseModeV2.HardwareL0.word then
    capabilities.ownerKind == HvOwnerKindV2.KnhvBootL0.word &&
      capabilities.state == HvProviderStateV2.Active.word &&
      capabilities.policyFeatures &&& kPolicyExclusiveOwner != 0
  else if lease.mode == HvLeaseModeV2.WhpManaged.word then
    capabilities.ownerKind == HvOwnerKindV2.WhpManaged.word &&
      capabilities.state != HvProviderStateV2.Conflict.word &&
      capabilities.state != HvProviderStateV2.Blocked.word
  else if lease.mode == HvLeaseModeV2.SyntheticLab.word then
    capabilities.ownerKind == HvOwnerKindV2.SyntheticLab.word &&
      capabilities.policyFeatures &&& kPolicySyntheticOnly != 0
  else false

/-- The response before anything is decided. -/
def blankResponse (requestId : U64) : HvProviderResponseV2 where
  size := sizeofHvProviderResponseV2
  version := kAbiV2Version
  requestId := requestId
  status := .Success
  reserved := 0
  provider := .None
  reserved2 := 0
  capabilities := .zero
  lease := .zero

/-- A provider with the lease on it, or the reason why there is none. -/
def grantProvider (request : HvProviderRequestV2) (capabilities : HvCapabilitySnapshotV2) :
    Except HvStatus (HvProviderKind × HvOwnerLeaseV2) :=
  let owner := capabilities.ownerKind
  let state := capabilities.state
  let readOnly := if request.flags &&& kRequestFlagReadOnly != 0 then kLeaseFlagReadOnly else 0
  let lease := setLease request.session.clientId capabilities.generation
  if request.mode == HvLeaseModeV2.HardwareL0.word then
    if owner == HvOwnerKindV2.ExternalL0.word || state == HvProviderStateV2.Conflict.word then
      .error .HardwareOwnerConflict
    else if owner != HvOwnerKindV2.KnhvBootL0.word || state != HvProviderStateV2.Active.word then
      .error .NestedUnavailable
    else if capabilities.hardwareFeatures &&& kCapVmx == 0 then .error .HardwareUnsupported
    else if request.flags &&& kRequestFlagRequireExclusive != 0 &&
        capabilities.policyFeatures &&& kPolicyExclusiveOwner == 0 then
      .error .HardwareOwnerConflict
    else if capabilities.policyFeatures &&& kPolicyWindowsHandoff == 0 then
      .error .BootHandoffFailed
    else .ok (.BootL0Interposer, lease .HardwareL0 (kLeaseFlagExclusive ||| readOnly))
  else if request.mode == HvLeaseModeV2.WhpManaged.word then
    if capabilities.providerFeatures &&& kCapWhpPartition == 0 ||
        owner != HvOwnerKindV2.WhpManaged.word ||
        (state != HvProviderStateV2.Available.word && state != HvProviderStateV2.Active.word) then
      .error .NestedUnavailable
    else .ok (.WhpClient, lease .WhpManaged readOnly)
  else if request.mode == HvLeaseModeV2.SyntheticLab.word then
    if owner != HvOwnerKindV2.SyntheticLab.word ||
        capabilities.providerFeatures &&& kCapNestedVmx == 0 ||
        capabilities.policyFeatures &&& kPolicySyntheticOnly == 0 ||
        (state != HvProviderStateV2.Available.word && state != HvProviderStateV2.Active.word) then
      .error .NestedUnavailable
    else .ok (.CooperativeL1, lease .SyntheticLab (kLeaseFlagSynthetic ||| readOnly))
  else .error .UnsupportedMode

/-- The response carries the status that is returned. -/
def selectProviderV2 (request : Option HvProviderRequestV2)
    (capabilities : Option HvCapabilitySnapshotV2) : HvProviderResponseV2 :=
  match request, capabilities with
  | some request, some capabilities =>
    let response := blankResponse request.requestId
    if !requestV2Valid request || !isCapabilitySnapshotV2Valid capabilities then
      { response with status := .InvalidParameter }
    else
      let response := { response with capabilities := capabilities }
      if !hasRequiredFeatures request capabilities then
        { response with status := .CapabilityMismatch }
      else if request.session.clientId == 0 || request.session.generation == 0 then
        { response with status := .InvalidParameter }
      else
        match grantProvider request capabilities with
        | .error status => { response with status := status }
        | .ok (provider, lease) =>
          { response with status := .Success, provider := provider, lease := lease }
  | some request, none => { blankResponse request.requestId with status := .InvalidParameter }
  | none, _ => { blankResponse 0 with status := .InvalidParameter }

/-- The capabilities of a driver that owns nothing. -/
def makeFallbackCapabilitySnapshot (outerL0Active whpAvailable : Bool) : HvCapabilitySnapshot where
  version := kAbiVersion
  size := sizeofHvCapabilitySnapshot
  featureBits := if whpAvailable then kCapVmx ||| kCapWhpPartition else kCapVmx
  maxPhysicalAddressBits := 48
  eVmcsVersion := 0
  whpApiVersion := if whpAvailable then 1 else 0
  hypervisorVendorLength := 0
  statusFlags := (if outerL0Active then kFlagOuterL0Active else 0) |||
    (if whpAvailable then kFlagWhpPartition else 0)
  bootGeneration := 0
  ownerGeneration := 0
  featureHash := 0

end Knhv.Provider
