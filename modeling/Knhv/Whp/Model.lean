import Mathlib.Data.Nat.Basic
import Knhv.Paging

namespace Knhv.Whp

def kWhpContractVersion : U32 := 1
def kWhpMaxStructSize : U32 := 4096
def kWhpPageSize : U64 := 4096
def kWhpMaxPhysicalAddressBits : U32 := 52
def kWhpMaxVcpus : U32 := 256
def kWhpMaxMappings : U32 := 1024

def kWhpCapPartition : U64 := 1 <<< 0
def kWhpCapLocalApic : U64 := 1 <<< 1
def kWhpCapXsave : U64 := 1 <<< 2
def kWhpCapDirtyPageTracking : U64 := 1 <<< 3
def kWhpCapVirtualPci : U64 := 1 <<< 4
def kWhpCapIommu : U64 := 1 <<< 5
def kWhpCapNestedVmx : U64 := 1 <<< 6
def kWhpCapReferenceTime : U64 := 1 <<< 7
def kWhpCapExtendedExits : U64 := 1 <<< 8
def kWhpKnownCapabilityMask : U64 :=
  kWhpCapPartition ||| kWhpCapLocalApic ||| kWhpCapXsave ||| kWhpCapDirtyPageTracking |||
    kWhpCapVirtualPci ||| kWhpCapIommu ||| kWhpCapNestedVmx ||| kWhpCapReferenceTime |||
    kWhpCapExtendedExits

def kWhpKnownExtendedExitMask : U64 := (1 <<< 15) - 1

def kWhpPartitionEnableNestedVmx : U32 := 1 <<< 0
def kWhpPartitionEnableLocalApic : U32 := 1 <<< 1
def kWhpPartitionEnableReferenceTime : U32 := 1 <<< 2
def kWhpPartitionRequireIsolation : U32 := 1 <<< 3
def kWhpKnownPartitionFlagMask : U32 :=
  kWhpPartitionEnableNestedVmx ||| kWhpPartitionEnableLocalApic |||
    kWhpPartitionEnableReferenceTime ||| kWhpPartitionRequireIsolation

def kWhpMappingRead : U32 := 1 <<< 0
def kWhpMappingWrite : U32 := 1 <<< 1
def kWhpMappingExecute : U32 := 1 <<< 2
def kWhpKnownMappingPermissionMask : U32 :=
  kWhpMappingRead ||| kWhpMappingWrite ||| kWhpMappingExecute
def kWhpMappingPrivate : U32 := 1 <<< 0
def kWhpMappingDirtyTrack : U32 := 1 <<< 1
def kWhpKnownMappingFlagMask : U32 := kWhpMappingPrivate ||| kWhpMappingDirtyTrack

inductive WhpStatus
  | Success | InvalidParameter | CapabilityMismatch | StateConflict | GenerationMismatch
  | AddressInvalid | LimitExceeded | ExitUnsupported | Quarantined
  deriving DecidableEq, Repr

/-- The words of `WhpPartitionState`. -/
def kPartitionEmpty : U32 := 0
def kPartitionCreated : U32 := 1
def kPartitionConfigured : U32 := 2
def kPartitionRunning : U32 := 3
def kPartitionDraining : U32 := 4
def kPartitionClosed : U32 := 5
def kPartitionQuarantined : U32 := 6

/-- The words of `WhpVcpuState`. -/
def kVcpuEmpty : U32 := 0
def kVcpuCreated : U32 := 1
def kVcpuRunning : U32 := 2
def kVcpuStopped : U32 := 3
def kVcpuFailed : U32 := 4

def sizeofWhpCapabilities : U32 := 56
def sizeofWhpPartitionConfig : U32 := 40
def sizeofWhpPartition : U32 := 64
def sizeofWhpMemoryMapping : U32 := 48
def sizeofWhpVcpu : U32 := 40

structure WhpCapabilities where
  size : U32
  version : U32
  featureFlags : U64
  extendedExitFlags : U64
  apiVersion : U32
  physicalAddressBits : U32
  maxVcpus : U32
  reserved : U32
  processorClockHz : U64
  generation : U64
  deriving DecidableEq

structure WhpPartitionConfig where
  size : U32
  version : U32
  ownerId : U64
  generation : U64
  maxVcpus : U32
  physicalAddressBits : U32
  flags : U32
  reserved : U32
  deriving DecidableEq

structure WhpPartition where
  size : U32
  version : U32
  partitionId : U64
  ownerId : U64
  generation : U64
  state : U32
  flags : U32
  maxVcpus : U32
  configuredVcpus : U32
  mappingCount : U32
  reserved : U32
  mappedPages : U64
  deriving DecidableEq

structure WhpMemoryMapping where
  size : U32
  version : U32
  guestPhysical : U64
  hostAddress : U64
  pageCount : U64
  permissions : U32
  flags : U32
  generation : U64
  deriving DecidableEq

structure WhpVcpu where
  size : U32
  version : U32
  index : U32
  state : U32
  generation : U64
  runCount : U64
  exitCount : U64
  deriving DecidableEq

def isVersionedSizeValid (version size required : U32) : Bool :=
  version == kWhpContractVersion && required ≤ size && size ≤ kWhpMaxStructSize

def isAddressValid (address : U64) (bits : U32) : Bool :=
  12 ≤ bits && bits ≤ kWhpMaxPhysicalAddressBits && Paging.fitsWidth address bits

def isPartitionStateValidValue (value : U32) : Bool := value ≤ kPartitionQuarantined

def isVcpuStateValidValue (value : U32) : Bool := value ≤ kVcpuFailed

/-- What `InitializePartition` and `InitializeVcpu` write. -/
def initializePartition : WhpPartition where
  size := sizeofWhpPartition
  version := kWhpContractVersion
  partitionId := 0
  ownerId := 0
  generation := 0
  state := kPartitionEmpty
  flags := 0
  maxVcpus := 0
  configuredVcpus := 0
  mappingCount := 0
  reserved := 0
  mappedPages := 0

def initializeVcpu : WhpVcpu where
  size := sizeofWhpVcpu
  version := kWhpContractVersion
  index := 0
  state := kVcpuEmpty
  generation := 0
  runCount := 0
  exitCount := 0

def isWhpCapabilitiesValid (capabilities : WhpCapabilities) : Bool :=
  isVersionedSizeValid capabilities.version capabilities.size sizeofWhpCapabilities &&
    capabilities.featureFlags &&& ~~~kWhpKnownCapabilityMask == 0 &&
    capabilities.extendedExitFlags &&& ~~~kWhpKnownExtendedExitMask == 0 &&
    capabilities.apiVersion != 0 && 12 ≤ capabilities.physicalAddressBits &&
    capabilities.physicalAddressBits ≤ kWhpMaxPhysicalAddressBits &&
    capabilities.maxVcpus != 0 && capabilities.maxVcpus ≤ kWhpMaxVcpus &&
    capabilities.reserved == 0 && capabilities.generation != 0

def isWhpPartitionConfigValid (config : WhpPartitionConfig) : Bool :=
  isVersionedSizeValid config.version config.size sizeofWhpPartitionConfig &&
    config.ownerId != 0 && config.generation != 0 && config.maxVcpus != 0 &&
    config.maxVcpus ≤ kWhpMaxVcpus && 12 ≤ config.physicalAddressBits &&
    config.physicalAddressBits ≤ kWhpMaxPhysicalAddressBits &&
    config.flags &&& ~~~kWhpKnownPartitionFlagMask == 0 && config.reserved == 0

def isWhpPartitionValid (partition : WhpPartition) : Bool :=
  if !isVersionedSizeValid partition.version partition.size sizeofWhpPartition ||
      partition.partitionId == 0 || partition.ownerId == 0 || partition.generation == 0 ||
      !isPartitionStateValidValue partition.state ||
      partition.flags &&& ~~~kWhpKnownPartitionFlagMask != 0 ||
      partition.maxVcpus == 0 || kWhpMaxVcpus < partition.maxVcpus ||
      partition.maxVcpus < partition.configuredVcpus ||
      kWhpMaxMappings < partition.mappingCount || partition.reserved != 0 then
    false
  else if partition.state == kPartitionEmpty then
    partition.configuredVcpus == 0 && partition.mappingCount == 0 && partition.mappedPages == 0
  else true

def isWhpMemoryMappingValid (mapping : WhpMemoryMapping) (physicalAddressBits : U32) : Bool :=
  if !isVersionedSizeValid mapping.version mapping.size sizeofWhpMemoryMapping ||
      mapping.hostAddress == 0 || mapping.pageCount == 0 || 1 <<< 20 < mapping.pageCount ||
      mapping.permissions &&& ~~~kWhpKnownMappingPermissionMask != 0 ||
      mapping.permissions == 0 || mapping.flags &&& ~~~kWhpKnownMappingFlagMask != 0 ||
      mapping.generation == 0 || mapping.guestPhysical &&& (kWhpPageSize - 1) != 0 ||
      mapping.hostAddress &&& (kWhpPageSize - 1) != 0 ||
      !isAddressValid mapping.guestPhysical physicalAddressBits then
    false
  else
    let span := mapping.pageCount * kWhpPageSize
    match Checked.add mapping.guestPhysical (span - 1) with
    | none => false
    | some last =>
      isAddressValid last physicalAddressBits &&
        (Checked.add mapping.hostAddress (span - 1)).isSome

def isWhpVcpuValid (vcpu : WhpVcpu) : Bool :=
  if !isVersionedSizeValid vcpu.version vcpu.size sizeofWhpVcpu ||
      !isVcpuStateValidValue vcpu.state || vcpu.generation == 0 then
    false
  else if vcpu.state == kVcpuEmpty then
    vcpu.index == 0 && vcpu.runCount == 0 && vcpu.exitCount == 0
  else vcpu.index < kWhpMaxVcpus

/-- A flag of the configuration that the host has to support. -/
def isFlagSupported (capabilities : WhpCapabilities) (config : WhpPartitionConfig) (flag : U32)
    (feature : U64) : Bool :=
  config.flags &&& flag == 0 || capabilities.featureFlags &&& feature != 0

/-- The partition is written in every case, if the caller passes a place for
it. -/
def createWhpPartition (capabilities : Option WhpCapabilities) (config : Option WhpPartitionConfig)
    (partitionId : U64) (wanted : Bool) : WhpStatus × Option WhpPartition :=
  if !wanted then (.InvalidParameter, none)
  else
    match capabilities, config with
    | some capabilities, some config =>
      if !isWhpCapabilitiesValid capabilities || !isWhpPartitionConfigValid config ||
          partitionId == 0 || capabilities.generation != config.generation ||
          capabilities.featureFlags &&& kWhpCapPartition == 0 ||
          capabilities.maxVcpus < config.maxVcpus ||
          capabilities.physicalAddressBits < config.physicalAddressBits then
        (.CapabilityMismatch, some initializePartition)
      else if !isFlagSupported capabilities config kWhpPartitionEnableNestedVmx kWhpCapNestedVmx ||
          !isFlagSupported capabilities config kWhpPartitionEnableLocalApic kWhpCapLocalApic ||
          !isFlagSupported capabilities config kWhpPartitionEnableReferenceTime
            kWhpCapReferenceTime ||
          !isFlagSupported capabilities config kWhpPartitionRequireIsolation kWhpCapIommu then
        (.CapabilityMismatch, some initializePartition)
      else
        (.Success, some { initializePartition with
          partitionId := partitionId
          ownerId := config.ownerId
          generation := config.generation
          flags := config.flags
          maxVcpus := config.maxVcpus
          state := kPartitionCreated })
    | _, _ => (.CapabilityMismatch, some initializePartition)

/-- The call names the partition as it is now. -/
def isCurrent (partition : WhpPartition) (generation : U64) : Bool :=
  isWhpPartitionValid partition && generation != 0 && partition.generation == generation

def configureWhpPartition (partition : WhpPartition) (generation : U64) (vcpuCount : U32) :
    WhpStatus × WhpPartition :=
  if !isCurrent partition generation || partition.state != kPartitionCreated || vcpuCount == 0 ||
      partition.maxVcpus < vcpuCount then
    (.StateConflict, partition)
  else
    (.Success, { partition with configuredVcpus := vcpuCount, state := kPartitionConfigured })

def mapWhpGpa (partition : WhpPartition) (mapping : Option WhpMemoryMapping) (generation : U64)
    (physicalAddressBits : U32) : WhpStatus × WhpPartition :=
  match mapping with
  | none => (.InvalidParameter, partition)
  | some mapping =>
    if !isWhpPartitionValid partition || !isWhpMemoryMappingValid mapping physicalAddressBits then
      (.InvalidParameter, partition)
    else if partition.generation != generation || mapping.generation != generation then
      (.GenerationMismatch, partition)
    else if partition.state != kPartitionCreated && partition.state != kPartitionConfigured then
      (.StateConflict, partition)
    else if kWhpMaxMappings ≤ partition.mappingCount ||
        ~~~0 - mapping.pageCount < partition.mappedPages then
      (.LimitExceeded, partition)
    else
      (.Success, { partition with
        mappingCount := partition.mappingCount + 1
        mappedPages := partition.mappedPages + mapping.pageCount })

/-- The processor is written in every case. -/
def createWhpVcpu (partition : WhpPartition) (index : U32) (generation : U64) :
    WhpStatus × WhpVcpu :=
  if !isCurrent partition generation || partition.state != kPartitionConfigured ||
      partition.configuredVcpus ≤ index then
    (.StateConflict, initializeVcpu)
  else
    (.Success, { initializeVcpu with
      index := index
      generation := generation
      state := kVcpuCreated })

def startWhpVcpu (partition : WhpPartition) (vcpu : WhpVcpu) (generation : U64) :
    WhpStatus × WhpVcpu :=
  if !isCurrent partition generation || !isWhpVcpuValid vcpu || vcpu.generation != generation ||
      partition.state != kPartitionRunning || partition.configuredVcpus ≤ vcpu.index ||
      (vcpu.state != kVcpuCreated && vcpu.state != kVcpuStopped) || vcpu.runCount == ~~~0 then
    (.StateConflict, vcpu)
  else (.Success, { vcpu with state := kVcpuRunning, runCount := vcpu.runCount + 1 })

def stopWhpVcpu (partition : WhpPartition) (vcpu : WhpVcpu) (generation : U64) :
    WhpStatus × WhpVcpu :=
  if !isCurrent partition generation || !isWhpVcpuValid vcpu || vcpu.generation != generation ||
      (partition.state != kPartitionRunning && partition.state != kPartitionDraining) ||
      vcpu.state != kVcpuRunning then
    (.StateConflict, vcpu)
  else (.Success, { vcpu with state := kVcpuStopped })

/-- The four calls that only change the state of the partition: from the states
that they allow, to one target. -/
def movePartition (allowed : WhpPartition → Bool) (target : U32) (partition : WhpPartition)
    (generation : U64) : Bool × WhpPartition :=
  if !isCurrent partition generation || !allowed partition then (false, partition)
  else (true, { partition with state := target })

def startWhpPartition : WhpPartition → U64 → Bool × WhpPartition :=
  movePartition
    (fun partition => partition.state == kPartitionConfigured && partition.configuredVcpus != 0)
    kPartitionRunning

def beginWhpDrain : WhpPartition → U64 → Bool × WhpPartition :=
  movePartition
    (fun partition => partition.state == kPartitionRunning ||
      partition.state == kPartitionConfigured)
    kPartitionDraining

def closeWhpPartition : WhpPartition → U64 → Bool × WhpPartition :=
  movePartition
    (fun partition => partition.state == kPartitionCreated ||
      partition.state == kPartitionConfigured || partition.state == kPartitionDraining)
    kPartitionClosed

def quarantineWhpPartition : WhpPartition → U64 → Bool × WhpPartition :=
  movePartition
    (fun partition => partition.state != kPartitionClosed &&
      partition.state != kPartitionQuarantined)
    kPartitionQuarantined

end Knhv.Whp
