import Knhv.Nested.FieldRules
import Knhv.Nested.Memory

namespace Knhv.Nested

variable {σ : Type}

def kPrimaryActivateSecondary : U32 := 1 <<< 31

def isFixedCrValid (value fixed0 fixed1 : U64) : Bool :=
  value &&& fixed0 == fixed0 && (fixed1 == 0 || value &&& ~~~fixed1 == 0)

def isCanonicalAddress (value : U64) (addressBits : U32) : Bool :=
  let bits : U32 := if 48 ≤ addressBits ∧ addressBits ≤ 63 then addressBits else 48
  let lowMask : U64 := (1 <<< bits.toNat) - 1
  let signBit : U64 := 1 <<< (bits.toNat - 1)
  let upper := value &&& ~~~lowMask
  if value &&& signBit = 0 then upper == 0 else upper == ~~~lowMask

def isLinearRangeCanonical (vcpu : NestedVcpu σ) (linear : U64) (length : U32) : Bool :=
  let last : U64 := (length - 1).setWidth 64
  if length = 0 then false
  else if ~~~0 - last < linear then false
  else isCanonicalAddress linear vcpu.capabilities.linearAddressBits &&
    isCanonicalAddress (linear + last) vcpu.capabilities.linearAddressBits

def isPhysicalAddress (value : U64) (addressBits : U32) : Bool :=
  let bits : U32 := if 1 ≤ addressBits ∧ addressBits ≤ 52 then addressBits else 48
  value >>> bits.toNat == 0

def isAlignedPage (value : U64) : Bool :=
  value &&& (kNestedPageSize.setWidth 64 - 1) == 0

def makeResult (status : HvStatus) (action : NestedAction) (instructionError instructionLength : U32)
    (rflags value : U64) : NestedResult :=
  ⟨status, action, instructionError, instructionLength, rflags, value⟩

def makeSuccess (action : NestedAction) (instructionLength : U32) (value : U64 := 0) :
    NestedResult :=
  makeResult .Success action 0 instructionLength 0 value

def findVmcs (vcpu : NestedVcpu σ) (regionGpa : U64) : Option (Fin kNestedVmcsSlots) :=
  Fin.find? fun slot => (vcpu.vmcs slot).allocated && (vcpu.vmcs slot).regionGpa == regionGpa

def currentVmcs (vcpu : NestedVcpu σ) : Option (Fin kNestedVmcsSlots) :=
  if vcpu.currentVmcsGpa = kNoCurrentVmcs then none else findVmcs vcpu vcpu.currentVmcsGpa

def setVmcsReadOnly (vmcs : NestedVmcs12) (encoding : U32) (value : U64) : NestedVmcs12 :=
  match findFieldRule encoding with
  | none => vmcs
  | some rule =>
    { vmcs with
      fields := Function.update vmcs.fields (fieldIndex rule)
        (value &&& fieldMask (fieldRule rule).width) }

/-- The VM-instruction error is kept on the vCPU and in the current VMCS. -/
def recordVmInstructionError (vcpu : NestedVcpu σ) (instructionError : U32) : NestedVcpu σ :=
  let vcpu := { vcpu with instructionError := instructionError }
  match currentVmcs vcpu with
  | none => vcpu
  | some current =>
    vcpu.setVmcs current
      (setVmcsReadOnly (vcpu.vmcs current) kVmcsFieldInstructionError (instructionError.setWidth 64))

def clearVmInstructionError (vcpu : NestedVcpu σ) : NestedVcpu σ :=
  recordVmInstructionError vcpu 0

def makeVmfail (vcpu : NestedVcpu σ) (status : HvStatus) (instructionError instructionLength : U32) :
    NestedResult × NestedVcpu σ :=
  if status = .VmfailValid then
    (makeResult status .ResumeL1 instructionError instructionLength kRflagsZero 0,
      recordVmInstructionError vcpu instructionError)
  else
    (makeResult status .ResumeL1 0 instructionLength kRflagsCarry 0, vcpu)

def readStoredField (vmcs : NestedVmcs12) (rule : FieldRulePtr) : U64 :=
  vmcs.fields (fieldIndex rule)

def writeStoredField (vmcs : NestedVmcs12) (rule : FieldRulePtr) (value : U64) : NestedVmcs12 :=
  { vmcs with
    fields := Function.update vmcs.fields (fieldIndex rule)
      (value &&& fieldMask (fieldRule rule).width)
    dirtyGroups := vmcs.dirtyGroups ||| 1 <<< ((fieldRule rule).cleanGroup &&& 63).toNat }

/-- The allowed-0 and allowed-1 words that the capabilities give a control
field; a field of kind `None` has none. -/
def controlBounds (capabilities : NestedCapabilities) : FieldControlKind → Option (U32 × U32)
  | .Pin => some (capabilities.pinAllowed0, capabilities.pinAllowed1)
  | .Primary => some (capabilities.primaryAllowed0, capabilities.primaryAllowed1)
  | .Secondary => some (capabilities.secondaryAllowed0, capabilities.secondaryAllowed1)
  | .Exit => some (capabilities.exitAllowed0, capabilities.exitAllowed1)
  | .Entry => some (capabilities.entryAllowed0, capabilities.entryAllowed1)
  | .None => none

def validateControlValue (vcpu : NestedVcpu σ) (rule : FieldRule) (value : U64) : Bool :=
  if value &&& rule.reservedZeroMask ≠ 0 ∨
      value &&& rule.reservedOneMask ≠ rule.reservedOneMask then false
  else
    match controlBounds vcpu.capabilities rule.controlKind with
    | none => true
    | some (allowed0, allowed1) =>
      let requested : U32 := value.setWidth 32
      (requested ||| allowed0) &&& allowed1 == requested

/-- The entry checks of VMLAUNCH and VMRESUME on a VMCS12, in the order of the
source. A rule missing from the table would refuse the entry. -/
def validateEntryState (vcpu : NestedVcpu σ) (vmcs : NestedVmcs12) : Bool :=
  let capabilities := vcpu.capabilities
  let control (rule : FieldRulePtr) : Bool :=
    validateControlValue vcpu (fieldRule rule) (readStoredField vmcs rule)
  let fixedCr0 (rule : FieldRulePtr) : Bool :=
    isFixedCrValid (readStoredField vmcs rule) capabilities.cr0Fixed0 capabilities.cr0Fixed1
  let fixedCr4 (rule : FieldRulePtr) : Bool :=
    isFixedCrValid (readStoredField vmcs rule) capabilities.cr4Fixed0 capabilities.cr4Fixed1
  let canonical (rule : FieldRulePtr) : Bool :=
    isCanonicalAddress (readStoredField vmcs rule) capabilities.linearAddressBits
  let entry : Option Bool := do
    let pinRule ← findFieldRule kVmcsFieldPinControls
    let primaryRule ← findFieldRule kVmcsFieldPrimaryControls
    let secondaryRule ← findFieldRule kVmcsFieldSecondaryControls
    let exitRule ← findFieldRule kVmcsFieldExitControls
    let entryRule ← findFieldRule kVmcsFieldEntryControls
    let guestCr0Rule ← findFieldRule kVmcsFieldGuestCr0
    let guestCr4Rule ← findFieldRule kVmcsFieldGuestCr4
    let hostCr0Rule ← findFieldRule kVmcsFieldHostCr0
    let hostCr4Rule ← findFieldRule kVmcsFieldHostCr4
    let guestRipRule ← findFieldRule kVmcsFieldGuestRip
    let guestRspRule ← findFieldRule kVmcsFieldGuestRsp
    let hostRipRule ← findFieldRule kVmcsFieldHostRip
    let hostRspRule ← findFieldRule kVmcsFieldHostRsp
    let guestRflagsRule ← findFieldRule kVmcsFieldGuestRflags
    let eptPointerRule ← findFieldRule kVmcsFieldEptPointer
    let vpidRule ← findFieldRule kVmcsFieldVpid
    let primary := readStoredField vmcs primaryRule
    let secondary := readStoredField vmcs secondaryRule
    let eptp := readStoredField vmcs eptPointerRule
    let vpid := readStoredField vmcs vpidRule
    return control pinRule && control primaryRule && control secondaryRule && control exitRule &&
      control entryRule &&
      !(secondary != 0 && primary &&& kPrimaryActivateSecondary.setWidth 64 == 0) &&
      fixedCr0 guestCr0Rule && fixedCr0 hostCr0Rule && fixedCr4 guestCr4Rule &&
      fixedCr4 hostCr4Rule && canonical guestRipRule && canonical guestRspRule &&
      canonical hostRipRule && canonical hostRspRule &&
      readStoredField vmcs guestRflagsRule &&& 2 != 0 &&
      !(secondary &&& kNestedSecondaryEnableEpt.setWidth 64 != 0 &&
        (capabilities.featureBits &&& kCapEpt == 0 || !isAlignedPage eptp ||
          !isPhysicalAddress eptp capabilities.maxPhysicalAddressBits)) &&
      !(secondary &&& kNestedSecondaryEnableVpid.setWidth 64 != 0 &&
        (capabilities.featureBits &&& kCapVpid == 0 || vpid == 0 ||
          capabilities.vpidCount.setWidth 64 < vpid)) &&
      !(secondary &&& kNestedSecondaryEnableVmfunc.setWidth 64 != 0 &&
        capabilities.featureBits &&& kCapVirtualTlbFlush == 0)
  entry.getD false

/-- The probe that reads the rest of a VMX region in chunks of 64 bytes. Each
round advances `offset`, so the page size is enough fuel. -/
def probeRegionLoop (read : σ → U64 → U32 → Option (Nat → U8) × σ) (region : U64) (fuel : Nat)
    (offset : U32) (context : σ) : Bool × σ :=
  if offset < kNestedPageSize then
    match fuel with
    | 0 => (false, context)
    | fuel + 1 =>
      let remaining := kNestedPageSize - offset
      let chunk := if remaining < 64 then remaining else 64
      match read context (region + offset.setWidth 64) chunk with
      | (none, context) => (false, context)
      | (some _, context) => probeRegionLoop read region fuel (offset + chunk) context
  else (true, context)

/-- The VMX memory operand holds a guest-physical address; the region behind
it must be readable to its last byte and carry the vCPU's revision. -/
def validateVmxRegion (vcpu : NestedVcpu σ) (operandLinear : U64) : Option U64 × σ :=
  if !isLinearRangeCanonical vcpu operandLinear 8 then (none, vcpu.memory.context) else
  match readLinear vcpu.memory operandLinear 8 .Read with
  | (none, context) => (none, context)
  | (some bytes, context) =>
    let region : U64 := loadWord 64 bytes
    let bits := vcpu.capabilities.maxPhysicalAddressBits
    let lastOffset : U64 := (kNestedPageSize - 1).setWidth 64
    match vcpu.memory.read with
    | none => (none, context)
    | some read =>
      if !isAlignedPage region || !isPhysicalAddress region bits || ~~~0 - lastOffset < region ||
          !isPhysicalAddress (region + lastOffset) bits then (none, context) else
      match read context region 4 with
      | (none, context) => (none, context)
      | (some revisionBytes, context) =>
        let revision : U32 := loadWord 32 ((List.range 4).map revisionBytes)
        match probeRegionLoop read region kNestedPageSize.toNat 4 context with
        | (false, context) => (none, context)
        | (true, context) =>
          if revision &&& ~~~kNestedVmxRevisionMask ≠ 0 ∨
              revision &&& kNestedVmxRevisionMask ≠
                vcpu.capabilities.vmxRevision &&& kNestedVmxRevisionMask then (none, context)
          else (some region, context)

def readNestedVmcsField (vcpu : NestedVcpu σ) (encoding : U32) : Option U64 :=
  match currentVmcs vcpu, findFieldRule encoding with
  | some slot, some rule =>
    some ((vcpu.vmcs slot).fields (fieldIndex rule) &&& fieldMask (fieldRule rule).width)
  | _, _ => none

def writeNestedVmcsField (vcpu : NestedVcpu σ) (encoding : U32) (value : U64) :
    Bool × NestedVcpu σ :=
  match currentVmcs vcpu, findFieldRule encoding with
  | some slot, some rule =>
    let entry := fieldRule rule
    if !entry.writable || value &&& entry.reservedZeroMask != 0 ||
        value &&& entry.reservedOneMask != entry.reservedOneMask ||
        !validateControlValue vcpu entry value then (false, vcpu)
    else (true, vcpu.setVmcs slot (writeStoredField (vcpu.vmcs slot) rule value))
  | _, _ => (false, vcpu)

def initializeCapabilitiesInternal : NestedCapabilities where
  version := kNestedModelVersion
  size := sizeofNestedCapabilities
  featureBits := kCapVmx ||| kCapEpt ||| kCapVpid ||| kCapNestedVmx ||| kCapVirtualTlbFlush
  vmxRevision := 1
  maxPhysicalAddressBits := 48
  linearAddressBits := 48
  eptpListEntries := 4
  vpidCount := 64
  pinAllowed0 := 0
  pinAllowed1 := 0x000000E9
  primaryAllowed0 := 0
  primaryAllowed1 := kPrimaryActivateSecondary ||| 0x40000000
  secondaryAllowed0 := 0
  secondaryAllowed1 :=
    kNestedSecondaryEnableEpt ||| kNestedSecondaryEnableVpid ||| kNestedSecondaryEnableVmfunc
  exitAllowed0 := 0
  exitAllowed1 := 0x003F6DFF
  entryAllowed0 := 0
  entryAllowed1 := 0x001811FF
  cr0Fixed0 := 0
  cr0Fixed1 := ~~~0
  cr4Fixed0 := 0
  cr4Fixed1 := ~~~0

/-- The capabilities a vCPU starts with: the caller's, unless the pointer is
null or their header does not check. -/
def initialCapabilities (capabilities : Option NestedCapabilities) : NestedCapabilities :=
  match capabilities with
  | some given =>
    if isVersionedBufferValid given.version given.size sizeofNestedCapabilities then given
    else initializeCapabilitiesInternal
  | none => initializeCapabilitiesInternal

def initializeNestedVcpu (capabilities : Option NestedCapabilities) (memory : NestedMemory σ) :
    NestedVcpu σ where
  version := kNestedModelVersion
  size := sizeofNestedVcpu
  capabilities := initialCapabilities capabilities
  memory := memory
  vmxonActive := false
  l2Running := false
  vmxeEnabled := false
  vmxonGpa := 0
  currentVmcsGpa := kNoCurrentVmcs
  instructionError := 0
  generation := 1
  vmcsCount := 0
  eptpIndex := 0
  vmcs := fun _ =>
    { NestedVmcs12.zero with
      revision := (initialCapabilities capabilities).vmxRevision &&& kNestedVmxRevisionMask }

end Knhv.Nested
