import Knhv.Nested.FieldRules

namespace Knhv.VmcsShadow

open Knhv.Nested (FieldRule FieldRulePtr fieldRule findFieldRule)

def kVmcsShadowContractVersion : U32 := 1
def kVmcsShadowMaxStructSize : U32 := 4096
def kVmcsShadowMaxFields : Nat := 128
def kVmcsShadowBitmapBytes : Nat := 16
def kVmcsShadowPageSize : U32 := 4096
def kVmcsShadowMaxPhysicalAddressBits : U32 := 52
def kVmcsShadowNoLinkPointer : U64 := ~~~0

def kVmcsShadowCapSupported : U64 := 1 <<< 0
def kVmcsShadowCapLinkPointer : U64 := 1 <<< 1
def kVmcsShadowCapReadBitmap : U64 := 1 <<< 2
def kVmcsShadowCapWriteBitmap : U64 := 1 <<< 3
def kVmcsShadowKnownCapabilityMask : U64 :=
  kVmcsShadowCapSupported ||| kVmcsShadowCapLinkPointer ||| kVmcsShadowCapReadBitmap |||
    kVmcsShadowCapWriteBitmap

def kVmcsShadowEnableLinkPointer : U32 := 1 <<< 0
def kVmcsShadowEnableReadBitmap : U32 := 1 <<< 1
def kVmcsShadowEnableWriteBitmap : U32 := 1 <<< 2
def kVmcsShadowKnownConfigFlagMask : U32 :=
  kVmcsShadowEnableLinkPointer ||| kVmcsShadowEnableReadBitmap ||| kVmcsShadowEnableWriteBitmap

/-! The states and the operations are `u32` words in the structures, and any
word can stand there. -/

def kStateEmpty : U32 := 0
def kStateActive : U32 := 1
def kStateCleared : U32 := 2
def kStateQuarantined : U32 := 3

def kOperationRead : U32 := 1
def kOperationWrite : U32 := 2

inductive VmcsShadowAccessResult
  | Shadow | ReflectExit | Invalid | Stale | Quarantined
  deriving DecidableEq, Repr

def sizeofVmcsShadowCapabilities : U32 := 40
def sizeofVmcsShadowConfig : U32 := 80
def sizeofVmcsShadowImage : U32 := 1080
def sizeofVmcsShadowAccess : U32 := 40
def sizeofVmcsShadowDecision : U32 := 40

structure VmcsShadowCapabilities where
  size : U32
  version : U32
  featureFlags : U64
  maxFields : U32
  physicalAddressBits : U32
  generation : U64
  reserved : U64

structure VmcsShadowConfig where
  size : U32
  version : U32
  linkPointer : U64
  readBitmapPhysical : U64
  writeBitmapPhysical : U64
  flags : U32
  reserved : U32
  generation : U64
  readBitmap : Fin kVmcsShadowBitmapBytes → U8
  writeBitmap : Fin kVmcsShadowBitmapBytes → U8

structure VmcsShadowImage where
  size : U32
  version : U32
  generation : U64
  state : U32
  fieldCount : U32
  fields : Fin kVmcsShadowMaxFields → U64
  dirtyBitmap : Fin 2 → U64
  reserved : Fin 2 → U64

/-- The image `{}`: every byte zero. -/
def VmcsShadowImage.zero : VmcsShadowImage where
  size := 0
  version := 0
  generation := 0
  state := 0
  fieldCount := 0
  fields := fun _ => 0
  dirtyBitmap := fun _ => 0
  reserved := fun _ => 0

structure VmcsShadowAccess where
  size : U32
  version : U32
  fieldIndex : U32
  encoding : U32
  operation : U32
  reserved : U32
  value : U64
  generation : U64

structure VmcsShadowDecision where
  size : U32
  version : U32
  result : VmcsShadowAccessResult
  fieldIndex : U32
  reserved : U32
  value : U64
  generation : U64

def isVersionedSizeValid (version size required : U32) : Bool :=
  version == kVmcsShadowContractVersion && required ≤ size && size ≤ kVmcsShadowMaxStructSize

def isPhysicalPage (address : U64) (bits : U32) : Bool :=
  address != 0 && address != kVmcsShadowNoLinkPointer &&
  address &&& (kVmcsShadowPageSize.setWidth 64 - 1) == 0 && 12 ≤ bits &&
  bits ≤ kVmcsShadowMaxPhysicalAddressBits && address >>> bits.toNat == 0

def isStateValid (state : U32) : Bool := state ≤ kStateQuarantined

def isOperationValid (operation : U32) : Bool :=
  operation == kOperationRead || operation == kOperationWrite

/-- An index into the field array. Every use is behind a check that the index
is in range. -/
def fieldSlot (index : U32) : Fin kVmcsShadowMaxFields :=
  ⟨index.toNat % kVmcsShadowMaxFields, Nat.mod_lt _ (by decide)⟩

/-- The byte of a bitmap that holds the bit of a field. -/
def bitmapByte (slot : Fin kVmcsShadowMaxFields) : Fin kVmcsShadowBitmapBytes :=
  ⟨slot.val / 8, by
    have := slot.isLt
    simp only [kVmcsShadowMaxFields, kVmcsShadowBitmapBytes] at *
    omega⟩

/-- The word of the dirty bitmap that holds the bit of a field. -/
def bitmapWord (slot : Fin kVmcsShadowMaxFields) : Fin 2 :=
  ⟨slot.val / 64, by
    have := slot.isLt
    simp only [kVmcsShadowMaxFields] at *
    omega⟩

def isBitSet (bitmap : Fin kVmcsShadowBitmapBytes → U8) (fieldIndex : U32) : Bool :=
  if kVmcsShadowMaxFields ≤ fieldIndex.toNat then false
  else bitmap (bitmapByte (fieldSlot fieldIndex)) &&& 1 <<< (fieldIndex.toNat % 8) != 0

def bitmapTailIsClear (bitmap : Fin kVmcsShadowBitmapBytes → U8) (fieldCount : U32) : Bool :=
  if kVmcsShadowMaxFields < fieldCount.toNat then false
  else
    (List.range' fieldCount.toNat (kVmcsShadowMaxFields - fieldCount.toNat)).all fun index =>
      !isBitSet bitmap (BitVec.ofNat 32 index)

def bitmapIsZero (bitmap : Fin kVmcsShadowBitmapBytes → U8) : Bool :=
  (List.finRange kVmcsShadowBitmapBytes).all fun index => bitmap index == 0

/-- The bytes of the two dirty words, as `reinterpret_cast` shows them on a
little-endian processor. -/
def dirtyBytes (dirtyBitmap : Fin 2 → U64) (index : Fin kVmcsShadowBitmapBytes) : U8 :=
  (dirtyBitmap ⟨index.val / 8, by
    have := index.isLt
    simp only [kVmcsShadowBitmapBytes] at *
    omega⟩ >>> (8 * (index.val % 8))).setWidth 8

def configMatchesCapabilities (capabilities : VmcsShadowCapabilities) (config : VmcsShadowConfig) :
    Bool :=
  config.generation == capabilities.generation &&
  !(config.flags &&& kVmcsShadowEnableLinkPointer != 0 &&
    capabilities.featureFlags &&& kVmcsShadowCapLinkPointer == 0) &&
  !(config.flags &&& kVmcsShadowEnableReadBitmap != 0 &&
    capabilities.featureFlags &&& kVmcsShadowCapReadBitmap == 0) &&
  !(config.flags &&& kVmcsShadowEnableWriteBitmap != 0 &&
    capabilities.featureFlags &&& kVmcsShadowCapWriteBitmap == 0) &&
  capabilities.featureFlags &&& kVmcsShadowCapSupported != 0

def resolveField (access : VmcsShadowAccess) : Option FieldRulePtr :=
  match findFieldRule access.encoding with
  | none => none
  | some rule => if rule.val = access.fieldIndex.toNat then some rule else none

def fieldMask (rule : FieldRule) : U64 :=
  if rule.width = 2 then 0xFFFF
  else if rule.width = 4 then 0xFFFFFFFF
  else if rule.width = 8 then ~~~0
  else 0

def initializeDecision (access : Option VmcsShadowAccess) (generation : U64) :
    VmcsShadowDecision where
  size := sizeofVmcsShadowDecision
  version := kVmcsShadowContractVersion
  result := .Invalid
  fieldIndex := match access with
    | none => 0
    | some access => access.fieldIndex
  reserved := 0
  value := 0
  generation := generation

def setDecision (decision : VmcsShadowDecision) (result : VmcsShadowAccessResult) (value : U64) :
    VmcsShadowDecision :=
  { decision with result := result, value := value }

def isVmcsShadowCapabilitiesValid (capabilities : VmcsShadowCapabilities) : Bool :=
  isVersionedSizeValid capabilities.version capabilities.size sizeofVmcsShadowCapabilities &&
  capabilities.featureFlags &&& ~~~kVmcsShadowKnownCapabilityMask == 0 &&
  capabilities.featureFlags &&& kVmcsShadowCapSupported != 0 && capabilities.maxFields != 0 &&
  capabilities.maxFields.toNat ≤ kVmcsShadowMaxFields && 12 ≤ capabilities.physicalAddressBits &&
  capabilities.physicalAddressBits ≤ kVmcsShadowMaxPhysicalAddressBits &&
  capabilities.generation != 0 && capabilities.reserved == 0

/-- An address that a flag of the configuration switches on. -/
def isSwitchedPageValid (enabled : Bool) (address : U64) (bits : U32) : Bool :=
  if enabled then isPhysicalPage address bits else address == kVmcsShadowNoLinkPointer

def isVmcsShadowConfigValid (config : VmcsShadowConfig) (maxPhysicalAddressBits maxFields : U32) :
    Bool :=
  let linkEnabled := config.flags &&& kVmcsShadowEnableLinkPointer != 0
  let readEnabled := config.flags &&& kVmcsShadowEnableReadBitmap != 0
  let writeEnabled := config.flags &&& kVmcsShadowEnableWriteBitmap != 0
  isVersionedSizeValid config.version config.size sizeofVmcsShadowConfig &&
  12 ≤ maxPhysicalAddressBits && maxPhysicalAddressBits ≤ kVmcsShadowMaxPhysicalAddressBits &&
  maxFields != 0 && maxFields.toNat ≤ kVmcsShadowMaxFields &&
  config.flags &&& ~~~kVmcsShadowKnownConfigFlagMask == 0 && config.reserved == 0 &&
  config.generation != 0 && bitmapTailIsClear config.readBitmap maxFields &&
  bitmapTailIsClear config.writeBitmap maxFields &&
  isSwitchedPageValid linkEnabled config.linkPointer maxPhysicalAddressBits &&
  isSwitchedPageValid readEnabled config.readBitmapPhysical maxPhysicalAddressBits &&
  isSwitchedPageValid writeEnabled config.writeBitmapPhysical maxPhysicalAddressBits &&
  !(!readEnabled && !bitmapIsZero config.readBitmap) &&
  !(!writeEnabled && !bitmapIsZero config.writeBitmap)

def isVmcsShadowImageValid (image : VmcsShadowImage) : Bool :=
  if !isVersionedSizeValid image.version image.size sizeofVmcsShadowImage ||
      !isStateValid image.state || image.reserved 0 != 0 || image.reserved 1 != 0 then false
  else if image.state = kStateEmpty then image.generation == 0 && image.fieldCount == 0
  else
    image.generation != 0 && image.fieldCount != 0 &&
    image.fieldCount.toNat ≤ kVmcsShadowMaxFields &&
    bitmapTailIsClear (dirtyBytes image.dirtyBitmap) image.fieldCount

def isVmcsShadowAccessValid (access : VmcsShadowAccess) : Bool :=
  isVersionedSizeValid access.version access.size sizeofVmcsShadowAccess &&
  access.fieldIndex.toNat < kVmcsShadowMaxFields && isOperationValid access.operation &&
  access.reserved == 0 && access.generation != 0 && (resolveField access).isSome

/-- The check of capabilities and configuration that `BeginVmcsShadow`,
`RebindVmcsShadow` and `ClassifyVmcsShadowAccess` share. A null pointer fails
it. -/
def isBindingValid (capabilities : Option VmcsShadowCapabilities)
    (config : Option VmcsShadowConfig) : Bool :=
  match capabilities, config with
  | some capabilities, some config =>
    isVmcsShadowCapabilitiesValid capabilities &&
    isVmcsShadowConfigValid config capabilities.physicalAddressBits capabilities.maxFields &&
    configMatchesCapabilities capabilities config
  | _, _ => false

/-- The image that a successful `BeginVmcsShadow` sets up. -/
def boundImage (capabilities : VmcsShadowCapabilities) (config : VmcsShadowConfig) :
    VmcsShadowImage :=
  { VmcsShadowImage.zero with
    size := sizeofVmcsShadowImage
    version := kVmcsShadowContractVersion
    generation := config.generation
    state := kStateActive
    fieldCount := capabilities.maxFields }

def beginVmcsShadow (capabilities : Option VmcsShadowCapabilities)
    (config : Option VmcsShadowConfig) : Bool × VmcsShadowImage :=
  -- the image is zeroed before anything is checked
  if !isBindingValid capabilities config then (false, VmcsShadowImage.zero)
  else
    match capabilities, config with
    | some capabilities, some config =>
      (isVmcsShadowImageValid (boundImage capabilities config), boundImage capabilities config)
    | _, _ => (false, VmcsShadowImage.zero)

def clearVmcsShadow (image : VmcsShadowImage) (generation : U64) : Bool × VmcsShadowImage :=
  if !isVmcsShadowImageValid image || image.state != kStateActive || generation == 0 ||
      image.generation != generation then (false, image)
  else (true, { image with state := kStateCleared })

def rebindVmcsShadow (capabilities : Option VmcsShadowCapabilities)
    (config : Option VmcsShadowConfig) (expectedGeneration : U64) (image : VmcsShadowImage) :
    Bool × VmcsShadowImage :=
  if !isVmcsShadowImageValid image || image.state != kStateCleared || expectedGeneration == 0 ||
      expectedGeneration ≤ image.generation || !isBindingValid capabilities config ||
      (config.map (·.generation)) != some expectedGeneration then (false, image)
  else beginVmcsShadow capabilities config

def quarantineVmcsShadow (image : VmcsShadowImage) (generation : U64) : Bool × VmcsShadowImage :=
  if !isVmcsShadowImageValid image || generation == 0 || image.generation != generation ||
      (image.state != kStateActive && image.state != kStateCleared) then (false, image)
  else (true, { image with state := kStateQuarantined })

/-- The classification behind the argument checks, on the objects themselves. -/
def classifyChecked (config : VmcsShadowConfig) (image : VmcsShadowImage)
    (access : VmcsShadowAccess) (generation : U64) (decision : VmcsShadowDecision) :
    VmcsShadowAccessResult × VmcsShadowDecision :=
  if generation == 0 || generation != config.generation || generation != image.generation ||
      generation != access.generation then (.Stale, setDecision decision .Stale 0)
  else if image.state = kStateQuarantined then (.Quarantined, setDecision decision .Quarantined 0)
  else if image.state ≠ kStateActive ∨ image.fieldCount ≤ access.fieldIndex then (.Invalid, decision)
  else
    match resolveField access with
    | none => (.Invalid, decision)
    | some rule =>
      let write := access.operation == kOperationWrite
      if write && !(fieldRule rule).writable then
        (.ReflectExit, setDecision decision .ReflectExit 0)
      else
        let bitmapEnabled :=
          if write then config.flags &&& kVmcsShadowEnableWriteBitmap != 0
          else config.flags &&& kVmcsShadowEnableReadBitmap != 0
        let bitmap := if write then config.writeBitmap else config.readBitmap
        if !bitmapEnabled || isBitSet bitmap access.fieldIndex then
          (.ReflectExit, setDecision decision .ReflectExit 0)
        else (.Shadow, setDecision decision .Shadow 0)

/-- `wanted` says that the caller passes a decision to fill in; without one
the answer is `Invalid`. -/
def classifyVmcsShadowAccess (capabilities : Option VmcsShadowCapabilities)
    (config : Option VmcsShadowConfig) (image : VmcsShadowImage) (access : Option VmcsShadowAccess)
    (generation : U64) (wanted : Bool) : VmcsShadowAccessResult × Option VmcsShadowDecision :=
  if !wanted then (.Invalid, none)
  else
    let decision := initializeDecision access generation
    match config, access with
    | some config, some access =>
      if !isBindingValid capabilities (some config) || !isVmcsShadowImageValid image ||
          !isVmcsShadowAccessValid access then (.Invalid, some decision)
      else
        let (result, decision) := classifyChecked config image access generation decision
        (result, some decision)
    | _, _ => (.Invalid, some decision)

/-- The store of a shadow write: the value and its dirty bit. -/
def storeField (image : VmcsShadowImage) (slot : Fin kVmcsShadowMaxFields) (value : U64) :
    VmcsShadowImage :=
  { image with
    fields := Function.update image.fields slot value
    dirtyBitmap := Function.update image.dirtyBitmap (bitmapWord slot)
      (image.dirtyBitmap (bitmapWord slot) ||| 1 <<< (slot.val % 64)) }

/-- The access itself, once it has been classified as `Shadow`. -/
def applyShadow (image : VmcsShadowImage) (access : VmcsShadowAccess)
    (decision : VmcsShadowDecision) :
    VmcsShadowAccessResult × VmcsShadowDecision × VmcsShadowImage :=
  match resolveField access with
  | none => (.Invalid, decision, image)
  | some rule =>
    let mask := fieldMask (fieldRule rule)
    let slot := fieldSlot access.fieldIndex
    if mask = 0 ∨ image.fieldCount ≤ access.fieldIndex then
      (.Invalid, { decision with result := .Invalid }, image)
    else if access.operation = kOperationWrite then
      (.Shadow, { decision with value := access.value &&& mask },
        storeField image slot (access.value &&& mask))
    else (.Shadow, { decision with value := image.fields slot &&& mask }, image)

def applyVmcsShadowAccess (capabilities : Option VmcsShadowCapabilities)
    (config : Option VmcsShadowConfig) (image : VmcsShadowImage) (access : Option VmcsShadowAccess)
    (generation : U64) (wanted : Bool) :
    VmcsShadowAccessResult × Option VmcsShadowDecision × VmcsShadowImage :=
  match classifyVmcsShadowAccess capabilities config image access generation wanted, access with
  | (.Shadow, some decision), some access =>
    let (result, decision, image) := applyShadow image access decision
    (result, some decision, image)
  | (.Shadow, decision), _ => (.Invalid, decision, image)
  | (result, decision), _ => (result, decision, image)

end Knhv.VmcsShadow
