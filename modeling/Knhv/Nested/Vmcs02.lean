import Knhv.Ept.Pointer
import Knhv.Nested.Vmcs

namespace Knhv.Vmcs02

open Knhv.Nested

variable {σ : Type}

def kVmcs02ModelVersion : U32 := 1
def kVmcs02MaxStructSize : U32 := 4096

def kVmcs02PrimaryActivateSecondary : U32 := 1 <<< 31

def sizeofVmcs12Model : U32 := 112
def sizeofVmcs02Policy : U32 := 136
def sizeofVmcs02Image : U32 := 176

inductive Vmcs02BuildStatus
  | Success | InvalidParameter | Vmcs12Invalid | ControlConflict | CapabilityMismatch
  | AddressInvalid | GenerationMismatch
  deriving DecidableEq, Repr

def Vmcs02BuildStatus.value : Vmcs02BuildStatus → U32
  | .Success => 0
  | .InvalidParameter => 1
  | .Vmcs12Invalid => 2
  | .ControlConflict => 3
  | .CapabilityMismatch => 4
  | .AddressInvalid => 5
  | .GenerationMismatch => 6

/-- The copy of a VMCS12 that the VMCS02 builder works on. -/
structure Vmcs12Model where
  size : U32
  version : U32
  revision : U32
  state : U32
  pinControls : U32
  primaryControls : U32
  secondaryControls : U32
  exitControls : U32
  entryControls : U32
  exceptionBitmap : U32
  reserved : U32
  guestCr0 : U64
  guestCr3 : U64
  guestCr4 : U64
  guestRip : U64
  guestRsp : U64
  guestRflags : U64
  eptPointer : U64
  vpid : U64
  deriving DecidableEq

/-- What the outer hypervisor asks of every VMCS02. -/
structure Vmcs02Policy where
  size : U32
  version : U32
  requiredPinControls : U32
  requiredPrimaryControls : U32
  requiredSecondaryControls : U32
  requiredExitControls : U32
  requiredEntryControls : U32
  forbiddenPinControls : U32
  forbiddenPrimaryControls : U32
  forbiddenSecondaryControls : U32
  forbiddenExitControls : U32
  forbiddenEntryControls : U32
  reserved : U32
  hostCr0 : U64
  hostCr3 : U64
  hostCr4 : U64
  hostRsp : U64
  hostRip : U64
  eptPointer : U64
  ioBitmapA : U64
  ioBitmapB : U64
  msrBitmap : U64
  generation : U64
  deriving DecidableEq

structure Vmcs02Image where
  size : U32
  version : U32
  status : U32
  reserved : U32
  pinControls : U32
  primaryControls : U32
  secondaryControls : U32
  exitControls : U32
  entryControls : U32
  exceptionBitmap : U32
  reserved2 : U32
  guestCr0 : U64
  guestCr3 : U64
  guestCr4 : U64
  guestRip : U64
  guestRsp : U64
  guestRflags : U64
  hostCr0 : U64
  hostCr3 : U64
  hostCr4 : U64
  hostRsp : U64
  hostRip : U64
  eptPointer : U64
  ioBitmapA : U64
  ioBitmapB : U64
  msrBitmap : U64
  generation : U64
  deriving DecidableEq

/-- The wire values of the slot states. -/
def stateValue : Vmcs12State → U32
  | .Clear => 0
  | .Active => 1
  | .Launched => 2

def kKnownVmcs12StateMask : U32 :=
  stateValue .Clear ||| stateValue .Active ||| stateValue .Launched

def isVersionedSizeValid (version size required : U32) : Bool :=
  version == kVmcs02ModelVersion && required ≤ size && size ≤ kVmcs02MaxStructSize

def isCanonical (value : U64) (addressBits : U32) : Bool :=
  let bits : U32 := if 48 ≤ addressBits ∧ addressBits ≤ 63 then addressBits else 48
  let lowMask : U64 := (1 <<< bits.toNat) - 1
  let upper := value &&& ~~~lowMask
  if value &&& 1 <<< (bits.toNat - 1) = 0 then upper == 0 else upper == ~~~lowMask

def isPhysical (value : U64) (addressBits : U32) : Bool :=
  1 ≤ addressBits && addressBits ≤ 52 && value >>> addressBits.toNat == 0

def isFixedCrValid (value fixed0 fixed1 : U64) : Bool :=
  value &&& fixed0 == fixed0 && (fixed1 == 0 || value &&& ~~~fixed1 == 0)

def adjustControl (requested required forbidden allowed0 allowed1 : U32) : Option U32 :=
  if requested &&& ~~~allowed1 ≠ 0 ∨ required &&& ~~~allowed1 ≠ 0 ∨ required &&& forbidden ≠ 0 then
    none
  else
    let value := (requested ||| required ||| allowed0) &&& allowed1
    if value &&& forbidden ≠ 0 then none else some value

def isVmcs12StateValue (state : U32) : Bool :=
  state &&& ~~~kKnownVmcs12StateMask == 0 &&
  (state == stateValue .Clear || state == stateValue .Active || state == stateValue .Launched)

def isAlignedPhysical (value : U64) (bits : U32) : Bool :=
  value &&& (kNestedPageSize.setWidth 64 - 1) == 0 && isPhysical value bits

def isAddressSetValid (value : U64) (bits : U32) : Bool :=
  value == 0 || isAlignedPhysical value bits

def isCapabilitiesContractValid (capabilities : NestedCapabilities) : Bool :=
  isVersionedSizeValid capabilities.version capabilities.size sizeofNestedCapabilities &&
  1 ≤ capabilities.maxPhysicalAddressBits && capabilities.maxPhysicalAddressBits ≤ 52 &&
  48 ≤ capabilities.linearAddressBits && capabilities.linearAddressBits ≤ 63

def isPolicyContractValid (policy : Vmcs02Policy) : Bool :=
  isVersionedSizeValid policy.version policy.size sizeofVmcs02Policy &&
  policy.reserved == 0 && policy.generation != 0 &&
  policy.requiredPinControls &&& policy.forbiddenPinControls == 0 &&
  policy.requiredPrimaryControls &&& policy.forbiddenPrimaryControls == 0 &&
  policy.requiredSecondaryControls &&& policy.forbiddenSecondaryControls == 0 &&
  policy.requiredExitControls &&& policy.forbiddenExitControls == 0 &&
  policy.requiredEntryControls &&& policy.forbiddenEntryControls == 0

def controlMatches (value required forbidden allowed0 allowed1 : U32) : Bool :=
  adjustControl value required forbidden allowed0 allowed1 == some value

def validateEptPointer (raw : U64) (bits : U32) : Bool :=
  match Ept.decodeEptPointer raw with
  | none => false
  | some config => Ept.isEptpConfigValid { config with generation := 1 } bits

/-- A pointer to a VMCS12 is the index of its slot, so it always points into
the table of the vCPU. -/
def readField (vcpu : NestedVcpu σ) (slot : Fin kNestedVmcsSlots) (encoding : U32) : Option U64 :=
  if vcpu.currentVmcsGpa = (vcpu.vmcs slot).regionGpa then readNestedVmcsField vcpu encoding
  else none

def readVmcs12Model (vcpu : NestedVcpu σ) (slot : Fin kNestedVmcsSlots) : Option Vmcs12Model :=
  let vmcs := vcpu.vmcs slot
  if vcpu.version ≠ kNestedModelVersion ∨ vcpu.size < sizeofNestedVcpu ∨ vmcs.allocated = false ∨
      vmcs.revision ≠ vcpu.capabilities.vmxRevision &&& kNestedVmxRevisionMask ∨
      vcpu.currentVmcsGpa ≠ vmcs.regionGpa then none
  else do
    let pinControls ← readField vcpu slot kVmcsFieldPinControls
    let primaryControls ← readField vcpu slot kVmcsFieldPrimaryControls
    let secondaryControls ← readField vcpu slot kVmcsFieldSecondaryControls
    let exitControls ← readField vcpu slot kVmcsFieldExitControls
    let entryControls ← readField vcpu slot kVmcsFieldEntryControls
    let exceptionBitmap ← readField vcpu slot kVmcsFieldExceptionBitmap
    let guestCr0 ← readField vcpu slot kVmcsFieldGuestCr0
    let guestCr3 ← readField vcpu slot kVmcsFieldGuestCr3
    let guestCr4 ← readField vcpu slot kVmcsFieldGuestCr4
    let guestRip ← readField vcpu slot kVmcsFieldGuestRip
    let guestRsp ← readField vcpu slot kVmcsFieldGuestRsp
    let guestRflags ← readField vcpu slot kVmcsFieldGuestRflags
    let eptPointer ← readField vcpu slot kVmcsFieldEptPointer
    let vpid ← readField vcpu slot kVmcsFieldVpid
    return {
      size := sizeofVmcs12Model
      version := kVmcs02ModelVersion
      revision := vmcs.revision
      state := stateValue vmcs.state
      pinControls := pinControls.setWidth 32
      primaryControls := primaryControls.setWidth 32
      secondaryControls := secondaryControls.setWidth 32
      exitControls := exitControls.setWidth 32
      entryControls := entryControls.setWidth 32
      exceptionBitmap := exceptionBitmap.setWidth 32
      reserved := 0
      guestCr0 := guestCr0
      guestCr3 := guestCr3
      guestCr4 := guestCr4
      guestRip := guestRip
      guestRsp := guestRsp
      guestRflags := guestRflags
      eptPointer := eptPointer
      vpid := vpid }

def isVmcs12ModelValid (model : Vmcs12Model) (capabilities : NestedCapabilities) : Bool :=
  isVersionedSizeValid model.version model.size sizeofVmcs12Model &&
  isCapabilitiesContractValid capabilities && isVmcs12StateValue model.state &&
  model.state != stateValue .Clear &&
  model.revision == capabilities.vmxRevision &&& kNestedVmxRevisionMask && model.reserved == 0 &&
  isFixedCrValid model.guestCr0 capabilities.cr0Fixed0 capabilities.cr0Fixed1 &&
  isFixedCrValid model.guestCr4 capabilities.cr4Fixed0 capabilities.cr4Fixed1 &&
  isCanonical model.guestRip capabilities.linearAddressBits &&
  isCanonical model.guestRsp capabilities.linearAddressBits &&
  model.guestRflags &&& 2 != 0 &&
  isPhysical model.guestCr3 capabilities.maxPhysicalAddressBits &&
  !(model.secondaryControls &&& kNestedSecondaryEnableEpt != 0 &&
    (capabilities.featureBits &&& kCapEpt == 0 ||
      !validateEptPointer model.eptPointer capabilities.maxPhysicalAddressBits)) &&
  !(model.secondaryControls &&& kNestedSecondaryEnableVpid != 0 &&
    (capabilities.featureBits &&& kCapVpid == 0 || model.vpid == 0 ||
      capabilities.vpidCount.setWidth 64 < model.vpid)) &&
  !(model.secondaryControls &&& kNestedSecondaryEnableVmfunc != 0 &&
    capabilities.featureBits &&& kCapVirtualTlbFlush == 0)

/-- The image that the builder starts from. -/
def emptyImage : Vmcs02Image where
  size := sizeofVmcs02Image
  version := kVmcs02ModelVersion
  status := 0
  reserved := 0
  pinControls := 0
  primaryControls := 0
  secondaryControls := 0
  exitControls := 0
  entryControls := 0
  exceptionBitmap := 0
  reserved2 := 0
  guestCr0 := 0
  guestCr3 := 0
  guestCr4 := 0
  guestRip := 0
  guestRsp := 0
  guestRflags := 0
  hostCr0 := 0
  hostCr3 := 0
  hostCr4 := 0
  hostRsp := 0
  hostRip := 0
  eptPointer := 0
  ioBitmapA := 0
  ioBitmapB := 0
  msrBitmap := 0
  generation := 0

/-- A failing exit: the image stays as filled so far, with the status. -/
def Vmcs02Image.stop (image : Vmcs02Image) (status : Vmcs02BuildStatus) :
    Vmcs02BuildStatus × Vmcs02Image :=
  (status, { image with status := status.value })

/-- The five adjusted words, each written to the image before the next one is
computed, and whether all went through. -/
def adjustControls (vmcs12 : Vmcs12Model) (capabilities : NestedCapabilities)
    (policy : Vmcs02Policy) (image : Vmcs02Image) : Bool × Vmcs02Image :=
  match adjustControl vmcs12.pinControls policy.requiredPinControls policy.forbiddenPinControls
      capabilities.pinAllowed0 capabilities.pinAllowed1 with
  | none => (false, image)
  | some value =>
    let image := { image with pinControls := value }
    match adjustControl vmcs12.primaryControls policy.requiredPrimaryControls
        policy.forbiddenPrimaryControls capabilities.primaryAllowed0
        capabilities.primaryAllowed1 with
    | none => (false, image)
    | some value =>
      let image := { image with primaryControls := value }
      match adjustControl vmcs12.secondaryControls policy.requiredSecondaryControls
          policy.forbiddenSecondaryControls capabilities.secondaryAllowed0
          capabilities.secondaryAllowed1 with
      | none => (false, image)
      | some value =>
        let image := { image with secondaryControls := value }
        match adjustControl vmcs12.exitControls policy.requiredExitControls
            policy.forbiddenExitControls capabilities.exitAllowed0 capabilities.exitAllowed1 with
        | none => (false, image)
        | some value =>
          let image := { image with exitControls := value }
          match adjustControl vmcs12.entryControls policy.requiredEntryControls
              policy.forbiddenEntryControls capabilities.entryAllowed0
              capabilities.entryAllowed1 with
          | none => (false, image)
          | some value => (true, { image with entryControls := value })

def areHostAddressesValid (capabilities : NestedCapabilities) (policy : Vmcs02Policy) : Bool :=
  isPhysical policy.hostCr3 capabilities.maxPhysicalAddressBits &&
  isCanonical policy.hostRip capabilities.linearAddressBits &&
  isCanonical policy.hostRsp capabilities.linearAddressBits &&
  isFixedCrValid policy.hostCr0 capabilities.cr0Fixed0 capabilities.cr0Fixed1 &&
  isFixedCrValid policy.hostCr4 capabilities.cr4Fixed0 capabilities.cr4Fixed1 &&
  isAddressSetValid policy.ioBitmapA capabilities.maxPhysicalAddressBits &&
  isAddressSetValid policy.ioBitmapB capabilities.maxPhysicalAddressBits &&
  isAddressSetValid policy.msrBitmap capabilities.maxPhysicalAddressBits

/-- The last part of the builder: the host checks and the states. -/
def fillStates (vmcs12 : Vmcs12Model) (capabilities : NestedCapabilities) (policy : Vmcs02Policy)
    (image : Vmcs02Image) : Vmcs02BuildStatus × Vmcs02Image :=
  if !areHostAddressesValid capabilities policy then image.stop .AddressInvalid
  else
    (.Success,
      { image with
        exceptionBitmap := vmcs12.exceptionBitmap
        guestCr0 := vmcs12.guestCr0
        guestCr3 := vmcs12.guestCr3
        guestCr4 := vmcs12.guestCr4
        guestRip := vmcs12.guestRip
        guestRsp := vmcs12.guestRsp
        guestRflags := vmcs12.guestRflags
        hostCr0 := policy.hostCr0
        hostCr3 := policy.hostCr3
        hostCr4 := policy.hostCr4
        hostRsp := policy.hostRsp
        hostRip := policy.hostRip
        ioBitmapA := policy.ioBitmapA
        ioBitmapB := policy.ioBitmapB
        msrBitmap := policy.msrBitmap
        generation := policy.generation
        status := Vmcs02BuildStatus.value .Success })

/-- The choice of the EPT pointer, and the rest of the builder. -/
def fillEptPointer (vmcs12 : Vmcs12Model) (capabilities : NestedCapabilities)
    (policy : Vmcs02Policy) (image : Vmcs02Image) : Vmcs02BuildStatus × Vmcs02Image :=
  if image.secondaryControls &&& kNestedSecondaryEnableEpt ≠ 0 then
    let rawEptp := if policy.eptPointer = 0 then vmcs12.eptPointer else policy.eptPointer
    if !validateEptPointer rawEptp capabilities.maxPhysicalAddressBits then
      image.stop .AddressInvalid
    else fillStates vmcs12 capabilities policy { image with eptPointer := rawEptp }
  else if policy.eptPointer ≠ 0 then image.stop .ControlConflict
  else fillStates vmcs12 capabilities policy image

/-- The builder on pointers that are not null. -/
def mergeVmcs02 (vmcs12 : Vmcs12Model) (capabilities : NestedCapabilities) (policy : Vmcs02Policy) :
    Vmcs02BuildStatus × Vmcs02Image :=
  if !isCapabilitiesContractValid capabilities || !isPolicyContractValid policy then
    emptyImage.stop .InvalidParameter
  else if !isVmcs12ModelValid vmcs12 capabilities then emptyImage.stop .Vmcs12Invalid
  else
    match adjustControls vmcs12 capabilities policy emptyImage with
    | (false, image) => image.stop .ControlConflict
    | (true, image) =>
      if image.secondaryControls ≠ 0 ∧
          image.primaryControls &&& kVmcs02PrimaryActivateSecondary = 0 then
        if capabilities.primaryAllowed1 &&& kVmcs02PrimaryActivateSecondary = 0 ∨
            policy.forbiddenPrimaryControls &&& kVmcs02PrimaryActivateSecondary ≠ 0 then
          image.stop .CapabilityMismatch
        else
          fillEptPointer vmcs12 capabilities policy
            { image with
              primaryControls := image.primaryControls ||| kVmcs02PrimaryActivateSecondary }
      else fillEptPointer vmcs12 capabilities policy image

/-- The output buffer is the last argument; a pointer that is null is `none`. -/
def buildVmcs02Model (vmcs12 : Option Vmcs12Model) (capabilities : Option NestedCapabilities)
    (policy : Option Vmcs02Policy) (image : Option Vmcs02Image) :
    Vmcs02BuildStatus × Option Vmcs02Image :=
  match image with
  | none => (.InvalidParameter, none)
  | some _ =>
    match vmcs12, capabilities, policy with
    | some vmcs12, some capabilities, some policy =>
      (mergeVmcs02 vmcs12 capabilities policy).map id some
    | _, _, _ => (emptyImage.stop .InvalidParameter).map id some

def isVmcs02ImageValid (image : Option Vmcs02Image) (capabilities : Option NestedCapabilities)
    (policy : Option Vmcs02Policy) : Bool :=
  match image, capabilities, policy with
  | some image, some capabilities, some policy =>
    isCapabilitiesContractValid capabilities && isPolicyContractValid policy &&
    isVersionedSizeValid image.version image.size sizeofVmcs02Image &&
    image.status == Vmcs02BuildStatus.value .Success && image.reserved == 0 &&
    image.reserved2 == 0 && image.generation == policy.generation &&
    isFixedCrValid image.guestCr0 capabilities.cr0Fixed0 capabilities.cr0Fixed1 &&
    isFixedCrValid image.guestCr4 capabilities.cr4Fixed0 capabilities.cr4Fixed1 &&
    isFixedCrValid image.hostCr0 capabilities.cr0Fixed0 capabilities.cr0Fixed1 &&
    isFixedCrValid image.hostCr4 capabilities.cr4Fixed0 capabilities.cr4Fixed1 &&
    isCanonical image.guestRip capabilities.linearAddressBits &&
    isCanonical image.guestRsp capabilities.linearAddressBits &&
    isCanonical image.hostRip capabilities.linearAddressBits &&
    isCanonical image.hostRsp capabilities.linearAddressBits &&
    isPhysical image.guestCr3 capabilities.maxPhysicalAddressBits &&
    isPhysical image.hostCr3 capabilities.maxPhysicalAddressBits &&
    controlMatches image.pinControls policy.requiredPinControls policy.forbiddenPinControls
      capabilities.pinAllowed0 capabilities.pinAllowed1 &&
    controlMatches image.primaryControls policy.requiredPrimaryControls
      policy.forbiddenPrimaryControls capabilities.primaryAllowed0 capabilities.primaryAllowed1 &&
    controlMatches image.secondaryControls policy.requiredSecondaryControls
      policy.forbiddenSecondaryControls capabilities.secondaryAllowed0
      capabilities.secondaryAllowed1 &&
    controlMatches image.exitControls policy.requiredExitControls policy.forbiddenExitControls
      capabilities.exitAllowed0 capabilities.exitAllowed1 &&
    controlMatches image.entryControls policy.requiredEntryControls policy.forbiddenEntryControls
      capabilities.entryAllowed0 capabilities.entryAllowed1 &&
    !(image.secondaryControls != 0 &&
      image.primaryControls &&& kVmcs02PrimaryActivateSecondary == 0) &&
    !(image.secondaryControls &&& kNestedSecondaryEnableEpt != 0 &&
      !validateEptPointer image.eptPointer capabilities.maxPhysicalAddressBits)
  | _, _, _ => false

end Knhv.Vmcs02
