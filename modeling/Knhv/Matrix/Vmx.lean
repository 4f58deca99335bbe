import Mathlib.Data.Fintype.Pi
import Knhv.Matrix.Cpu

namespace Knhv.Matrix

def kVmxCapabilityContractVersion : U32 := 1
def kVmxCapabilityMaxStructSize : U32 := 4096
def kVmxCapabilityMaxProcessors : U32 := 4096

inductive VmxControlEncoding
  | Pair32 | AllowedOne64
  deriving DecidableEq, Repr

def VmxControlEncoding.word : VmxControlEncoding → U32
  | .Pair32 => 1
  | .AllowedOne64 => 2

def kVmxCapabilitySampleCollected : U32 := 1 <<< 0
def kVmxCapabilitySampleMsrReadFailed : U32 := 1 <<< 1
def kVmxCapabilitySampleOwnerConflict : U32 := 1 <<< 2
def kVmxCapabilitySampleFeatureControlBlocked : U32 := 1 <<< 3
def kFailureStatusMask : U32 :=
  kVmxCapabilitySampleMsrReadFailed ||| kVmxCapabilitySampleOwnerConflict |||
    kVmxCapabilitySampleFeatureControlBlocked
def kVmxCapabilityKnownSampleStatusMask : U32 := kVmxCapabilitySampleCollected ||| kFailureStatusMask

def kVmxFeatureVmx : U64 := 1 <<< 0
def kVmxFeatureTrueControls : U64 := 1 <<< 1
def kVmxFeatureSecondaryControls : U64 := 1 <<< 2
def kVmxFeatureTertiaryControls : U64 := 1 <<< 3
def kVmxFeatureEpt : U64 := 1 <<< 4
def kVmxFeatureVpid : U64 := 1 <<< 5
def kVmxFeatureInvept : U64 := 1 <<< 6
def kVmxFeatureInvvpid : U64 := 1 <<< 7
def kVmxFeatureTscScaling : U64 := 1 <<< 8
def kVmxFeatureControlReady : U64 := 1 <<< 9
def kVmxCapabilityKnownFeatureMask : U64 := (1 <<< 10) - 1

def kVmxMatrixAllVmx : U32 := 1 <<< 0
def kVmxMatrixIdentityUniform : U32 := 1 <<< 1
def kVmxMatrixSamplesComplete : U32 := 1 <<< 2
def kVmxMatrixHasInvalidSamples : U32 := 1 <<< 3
def kVmxMatrixKnownFlagMask : U32 := (1 <<< 4) - 1

inductive VmxCapabilityMatrixState
  | Empty | CompleteUniform | CompleteMixed | Incomplete | Invalid
  deriving DecidableEq, Repr

def VmxCapabilityMatrixState.word : VmxCapabilityMatrixState → U32
  | .Empty => 0
  | .CompleteUniform => 1
  | .CompleteMixed => 2
  | .Incomplete => 3
  | .Invalid => 4

def kVmxPrimaryActivateTertiary : U32 := 1 <<< 17
def kVmxPrimaryActivateSecondary : U32 := 1 <<< 31
def kVmxSecondaryEnableEpt : U32 := 1 <<< 1
def kVmxSecondaryEnableVpid : U32 := 1 <<< 5
def kVmxSecondaryEnableTscScaling : U32 := 1 <<< 25

def kVmxEptVpidCapBasicEpt : U64 := (1 <<< 6) ||| (1 <<< 14)
def kVmxEptVpidCapFullInvept : U64 := (1 <<< 20) ||| (1 <<< 25) ||| (1 <<< 26)
def kVmxEptVpidCapInvvpid : U64 := 1 <<< 32
def kVmxEptVpidCapFullInvvpid : U64 :=
  kVmxEptVpidCapInvvpid ||| (1 <<< 40) ||| (1 <<< 41) ||| (1 <<< 42) ||| (1 <<< 43)

def kVmxBasicTrueControls : U64 := 1 <<< 55
def kVmxBasicRevisionMask : U64 := 0x7FFFFFFF
def kVmxFeatureControlLock : U64 := 1 <<< 0
def kVmxFeatureControlVmxonOutsideSmx : U64 := 1 <<< 2

def sizeofVmxControlCapability : U32 := 32
def sizeofVmxCapabilitySample : U32 := 296
def sizeofVmxCapabilityMatrix : U32 := 96

structure VmxControlCapability where
  size : U32
  version : U32
  encoding : U32
  reserved : U32
  mandatoryOne : U64
  allowedOne : U64
  deriving DecidableEq

structure VmxCapabilitySample where
  size : U32
  version : U32
  logicalIndex : U32
  processorGroup : U32
  processorNumber : U32
  status : U32
  reserved0 : U32
  reserved1 : U32
  generation : U64
  vmxBasic : U64
  featureControl : U64
  eptVpidCap : U64
  pinControls : VmxControlCapability
  primaryControls : VmxControlCapability
  secondaryControls : VmxControlCapability
  tertiaryControls : VmxControlCapability
  exitControls : VmxControlCapability
  entryControls : VmxControlCapability
  cr0Fixed0 : U64
  cr0Fixed1 : U64
  cr4Fixed0 : U64
  cr4Fixed1 : U64
  reserved2 : U32
  reserved3 : U32
  deriving DecidableEq

structure VmxCapabilityMatrix where
  size : U32
  version : U32
  state : U32
  flags : U32
  expectedCount : U32
  sampleCount : U32
  validCount : U32
  invalidCount : U32
  featureIntersection : U64
  featureUnion : U64
  inconsistentFeatures : U64
  eptVpidIntersection : U64
  eptVpidUnion : U64
  generation : U64
  reserved0 : U32
  reserved1 : U32
  reserved2 : U32
  reserved3 : U32
  deriving DecidableEq

def VmxCapabilityMatrix.zero : VmxCapabilityMatrix :=
  ⟨0, 0, 0, 0, 0, 0, 0, 0, 0, 0, 0, 0, 0, 0, 0, 0, 0, 0⟩

namespace VmxCapability

def isVersionedSizeValid : U32 → U32 → U32 → Bool :=
  versionedSizeValid kVmxCapabilityContractVersion kVmxCapabilityMaxStructSize

def isPair (capability : VmxControlCapability) : Bool :=
  capability.encoding == VmxControlEncoding.Pair32.word

def isAllowedOne64 (capability : VmxControlCapability) : Bool :=
  capability.encoding == VmxControlEncoding.AllowedOne64.word

def isEncodingValid (encoding : U32) : Bool :=
  encoding == VmxControlEncoding.Pair32.word || encoding == VmxControlEncoding.AllowedOne64.word

def isCollected (sample : VmxCapabilitySample) : Bool :=
  sample.status &&& kVmxCapabilitySampleCollected != 0 && sample.status &&& kFailureStatusMask == 0

def isFailureStatus (status : U32) : Bool :=
  status &&& kVmxCapabilitySampleCollected == 0 && status &&& kFailureStatusMask != 0

def isControlZero (capability : VmxControlCapability) : Bool :=
  capability.size == 0 && capability.version == 0 && capability.encoding == 0 &&
    capability.reserved == 0 && capability.mandatoryOne == 0 && capability.allowedOne == 0

def isPayloadZero (sample : VmxCapabilitySample) : Bool :=
  sample.generation == 0 && sample.vmxBasic == 0 && sample.featureControl == 0 &&
    sample.eptVpidCap == 0 && isControlZero sample.pinControls &&
    isControlZero sample.primaryControls && isControlZero sample.secondaryControls &&
    isControlZero sample.tertiaryControls && isControlZero sample.exitControls &&
    isControlZero sample.entryControls && sample.cr0Fixed0 == 0 && sample.cr0Fixed1 == 0 &&
    sample.cr4Fixed0 == 0 && sample.cr4Fixed1 == 0 && sample.reserved2 == 0 &&
    sample.reserved3 == 0

def sameControl (left right : VmxControlCapability) : Bool :=
  left.encoding == right.encoding && left.mandatoryOne == right.mandatoryOne &&
    left.allowedOne == right.allowedOne

def sameIdentity (left right : VmxCapabilitySample) : Bool :=
  left.generation == right.generation && left.vmxBasic == right.vmxBasic &&
    left.featureControl == right.featureControl && left.eptVpidCap == right.eptVpidCap &&
    sameControl left.pinControls right.pinControls &&
    sameControl left.primaryControls right.primaryControls &&
    sameControl left.secondaryControls right.secondaryControls &&
    sameControl left.tertiaryControls right.tertiaryControls &&
    sameControl left.exitControls right.exitControls &&
    sameControl left.entryControls right.entryControls && left.cr0Fixed0 == right.cr0Fixed0 &&
    left.cr0Fixed1 == right.cr0Fixed1 && left.cr4Fixed0 == right.cr4Fixed0 &&
    left.cr4Fixed1 == right.cr4Fixed1

def initializeMatrix (expectedCount sampleCount : U32) : VmxCapabilityMatrix :=
  { VmxCapabilityMatrix.zero with
    size := sizeofVmxCapabilityMatrix
    version := kVmxCapabilityContractVersion
    state := VmxCapabilityMatrixState.Invalid.word
    expectedCount := expectedCount
    sampleCount := sampleCount }

end VmxCapability

open VmxCapability

def isVmxControlCapabilityValid (capability : VmxControlCapability) : Bool :=
  if !isVersionedSizeValid capability.version capability.size sizeofVmxControlCapability ||
      !isEncodingValid capability.encoding || capability.reserved != 0 then
    false
  else if isPair capability then
    capability.mandatoryOne >>> 32 == 0 && capability.allowedOne >>> 32 == 0 &&
      capability.mandatoryOne &&& ~~~capability.allowedOne == 0
  else isAllowedOne64 capability && capability.mandatoryOne == 0

def isVmxCapabilitySampleValid (sample : VmxCapabilitySample) : Bool :=
  if !isVersionedSizeValid sample.version sample.size sizeofVmxCapabilitySample ||
      kVmxCapabilityMaxProcessors ≤ sample.logicalIndex || 0xFFFF < sample.processorGroup ||
      64 ≤ sample.processorNumber || sample.reserved0 != 0 || sample.reserved1 != 0 ||
      sample.status &&& ~~~kVmxCapabilityKnownSampleStatusMask != 0 then
    false
  else
    let collected := isCollected sample
    let failed := isFailureStatus sample.status
    if collected == failed ||
        (sample.status &&& kVmxCapabilitySampleCollected != 0 &&
          sample.status &&& kFailureStatusMask != 0) then
      false
    else if failed then isPayloadZero sample
    else if sample.generation == 0 || sample.vmxBasic &&& kVmxBasicRevisionMask == 0 ||
        !isVmxControlCapabilityValid sample.pinControls ||
        !isVmxControlCapabilityValid sample.primaryControls ||
        !isVmxControlCapabilityValid sample.secondaryControls ||
        !isVmxControlCapabilityValid sample.tertiaryControls ||
        !isVmxControlCapabilityValid sample.exitControls ||
        !isVmxControlCapabilityValid sample.entryControls ||
        sample.cr0Fixed0 &&& ~~~sample.cr0Fixed1 != 0 ||
        sample.cr4Fixed0 &&& ~~~sample.cr4Fixed1 != 0 || sample.reserved2 != 0 ||
        sample.reserved3 != 0 then
      false
    else
      !(!isPair sample.pinControls || !isPair sample.primaryControls ||
        !isPair sample.secondaryControls || !isAllowedOne64 sample.tertiaryControls ||
        !isPair sample.exitControls || !isPair sample.entryControls)

def isVmxCapabilitySampleUsable (sample : VmxCapabilitySample) : Bool :=
  isVmxCapabilitySampleValid sample && isCollected sample

namespace VmxCapability

def isControlBitAllowed (capability : VmxControlCapability) (bit : U64) : Bool :=
  isVmxControlCapabilityValid capability && capability.allowedOne &&& bit != 0

/-- A feature that is reported if it is there. -/
def featureIf (present : Bool) (feature : U64) : U64 := if present then feature else 0

end VmxCapability

def getVmxCapabilityFeatureFlags (sample : VmxCapabilitySample) : U64 :=
  if !isVmxCapabilitySampleUsable sample then 0
  else
    let ready := kVmxFeatureControlLock ||| kVmxFeatureControlVmxonOutsideSmx
    let flags := kVmxFeatureVmx |||
      featureIf (sample.vmxBasic &&& kVmxBasicTrueControls != 0) kVmxFeatureTrueControls |||
      featureIf (sample.featureControl &&& ready == ready) kVmxFeatureControlReady
    if !isControlBitAllowed sample.primaryControls (kVmxPrimaryActivateSecondary.setWidth 64) then
      flags
    else
      let tertiary :=
        isControlBitAllowed sample.primaryControls (kVmxPrimaryActivateTertiary.setWidth 64) &&
          sample.tertiaryControls.allowedOne != 0
      let ept :=
        isControlBitAllowed sample.secondaryControls (kVmxSecondaryEnableEpt.setWidth 64) &&
          sample.eptVpidCap &&& kVmxEptVpidCapBasicEpt == kVmxEptVpidCapBasicEpt
      let vpid :=
        isControlBitAllowed sample.secondaryControls (kVmxSecondaryEnableVpid.setWidth 64) &&
          sample.eptVpidCap &&& kVmxEptVpidCapInvvpid != 0
      flags ||| kVmxFeatureSecondaryControls ||| featureIf tertiary kVmxFeatureTertiaryControls |||
        featureIf ept kVmxFeatureEpt ||| featureIf vpid kVmxFeatureVpid |||
        featureIf (ept &&
          sample.eptVpidCap &&& kVmxEptVpidCapFullInvept == kVmxEptVpidCapFullInvept)
          kVmxFeatureInvept |||
        featureIf (vpid &&
          sample.eptVpidCap &&& kVmxEptVpidCapFullInvvpid == kVmxEptVpidCapFullInvvpid)
          kVmxFeatureInvvpid |||
        featureIf
          (isControlBitAllowed sample.secondaryControls (kVmxSecondaryEnableTscScaling.setWidth 64))
          kVmxFeatureTscScaling

namespace VmxCapability

/-- Two samples of one processor. -/
def clashes (sample previous : VmxCapabilitySample) : Bool :=
  sample.logicalIndex == previous.logicalIndex ||
    (sample.processorGroup == previous.processorGroup &&
      sample.processorNumber == previous.processorNumber)

/-- What the loop over the samples keeps. -/
structure Scan where
  matrix : VmxCapabilityMatrix
  firstValid : Option VmxCapabilitySample
  identityUniform : Bool

/-- One usable or unusable sample, after its checks. -/
def observe (scan : Scan) (sample : VmxCapabilitySample) : Scan :=
  let matrix := scan.matrix
  if !isVmxCapabilitySampleUsable sample then
    { scan with matrix := { matrix with invalidCount := matrix.invalidCount + 1 } }
  else
    let features := getVmxCapabilityFeatureFlags sample
    match scan.firstValid with
    | none =>
      { scan with
        firstValid := some sample
        matrix := { matrix with
          featureIntersection := features
          featureUnion := features
          eptVpidIntersection := sample.eptVpidCap
          eptVpidUnion := sample.eptVpidCap
          generation := sample.generation } }
    | some first =>
      { scan with
        identityUniform := if !sameIdentity first sample then false else scan.identityUniform
        matrix := { matrix with
          featureIntersection := matrix.featureIntersection &&& features
          featureUnion := matrix.featureUnion ||| features
          eptVpidIntersection := matrix.eptVpidIntersection &&& sample.eptVpidCap
          eptVpidUnion := matrix.eptVpidUnion ||| sample.eptVpidCap } }

def scanSamples (prior : List VmxCapabilitySample) : List VmxCapabilitySample → Scan → Bool × Scan
  | [], scan => (true, scan)
  | sample :: rest, scan =>
    if !isVmxCapabilitySampleValid sample || prior.any (clashes sample) then (false, scan)
    else scanSamples (prior ++ [sample]) rest (observe scan sample)

/-- The flags and the state, once every sample has been seen. -/
def finishMatrix (scan : Scan) (sampleCount expectedCount : U32) : VmxCapabilityMatrix :=
  let matrix := scan.matrix
  let validCount := sampleCount - matrix.invalidCount
  let inconsistent := matrix.featureUnion ^^^ matrix.featureIntersection
  { matrix with
    validCount := validCount
    inconsistentFeatures := inconsistent
    flags := matrix.flags |||
      (if validCount != 0 && matrix.featureIntersection &&& kVmxFeatureVmx != 0 then
        kVmxMatrixAllVmx else 0) |||
      (if scan.identityUniform && validCount != 0 then kVmxMatrixIdentityUniform else 0) |||
      (if matrix.invalidCount != 0 then kVmxMatrixHasInvalidSamples else 0) |||
      (if matrix.sampleCount == matrix.expectedCount && validCount == matrix.expectedCount then
        kVmxMatrixSamplesComplete else 0)
    state :=
      if sampleCount != expectedCount || matrix.invalidCount != 0 || expectedCount == 0 then
        VmxCapabilityMatrixState.Incomplete.word
      else if !scan.identityUniform || inconsistent != 0 ||
          matrix.eptVpidIntersection != matrix.eptVpidUnion then
        VmxCapabilityMatrixState.CompleteMixed.word
      else VmxCapabilityMatrixState.CompleteUniform.word }

end VmxCapability

/-- Whether a matrix could be built, and what is left in the output. -/
def buildVmxCapabilityMatrix (samples : Samples VmxCapabilitySample) (expectedCount : U32) :
    Bool × VmxCapabilityMatrix :=
  let sampleCount := samples.count
  let matrix := initializeMatrix expectedCount sampleCount
  if kVmxCapabilityMaxProcessors < sampleCount || kVmxCapabilityMaxProcessors < expectedCount ||
      (sampleCount != 0 && samples.isNull) then
    (false, matrix)
  else if sampleCount == 0 then
    (true,
      if expectedCount == 0 then
        { matrix with
          state := VmxCapabilityMatrixState.Empty.word
          flags := kVmxMatrixSamplesComplete }
      else { matrix with state := VmxCapabilityMatrixState.Incomplete.word })
  else
    match scanSamples [] samples.items ⟨matrix, none, true⟩ with
    | (false, scan) =>
      (false, { scan.matrix with state := VmxCapabilityMatrixState.Invalid.word })
    | (true, scan) => (true, finishMatrix scan sampleCount expectedCount)

def isVmxCapabilityMatrixValid (matrix : VmxCapabilityMatrix) : Bool :=
  if !isVersionedSizeValid matrix.version matrix.size sizeofVmxCapabilityMatrix ||
      VmxCapabilityMatrixState.Invalid.word < matrix.state ||
      matrix.flags &&& ~~~kVmxMatrixKnownFlagMask != 0 ||
      kVmxCapabilityMaxProcessors < matrix.expectedCount ||
      kVmxCapabilityMaxProcessors < matrix.sampleCount ||
      matrix.sampleCount < matrix.validCount || matrix.sampleCount < matrix.invalidCount ||
      matrix.validCount + matrix.invalidCount != matrix.sampleCount ||
      matrix.featureIntersection &&& ~~~matrix.featureUnion != 0 ||
      matrix.featureIntersection &&& ~~~kVmxCapabilityKnownFeatureMask != 0 ||
      matrix.featureUnion &&& ~~~kVmxCapabilityKnownFeatureMask != 0 ||
      matrix.inconsistentFeatures != matrix.featureUnion ^^^ matrix.featureIntersection ||
      matrix.eptVpidIntersection &&& ~~~matrix.eptVpidUnion != 0 || matrix.reserved0 != 0 ||
      matrix.reserved1 != 0 || matrix.reserved2 != 0 || matrix.reserved3 != 0 then
    false
  else
    let flagSet (flag : U32) : Bool := matrix.flags &&& flag != 0
    let allVmx := matrix.validCount != 0 && matrix.featureIntersection &&& kVmxFeatureVmx != 0
    let samplesComplete := matrix.expectedCount == matrix.sampleCount &&
      matrix.validCount == matrix.expectedCount
    let hasInvalid := matrix.invalidCount != 0
    if flagSet kVmxMatrixAllVmx != allVmx ||
        flagSet kVmxMatrixSamplesComplete != samplesComplete ||
        flagSet kVmxMatrixHasInvalidSamples != hasInvalid ||
        (matrix.validCount == 0 && flagSet kVmxMatrixIdentityUniform) then
      false
    else if matrix.state == VmxCapabilityMatrixState.Empty.word then
      matrix.expectedCount == 0 && matrix.sampleCount == 0 && matrix.validCount == 0 &&
        matrix.invalidCount == 0 && matrix.generation == 0
    else if (matrix.validCount == 0 && matrix.generation != 0) ||
        (matrix.validCount != 0 && matrix.generation == 0) then
      false
    else
      let completeNonempty := matrix.expectedCount == matrix.sampleCount &&
        matrix.expectedCount != 0 && matrix.invalidCount == 0 && flagSet kVmxMatrixSamplesComplete
      let uniformCandidate := flagSet kVmxMatrixIdentityUniform &&
        matrix.inconsistentFeatures == 0 && matrix.eptVpidIntersection == matrix.eptVpidUnion
      if matrix.state == VmxCapabilityMatrixState.CompleteUniform.word then
        completeNonempty && uniformCandidate
      else if matrix.state == VmxCapabilityMatrixState.CompleteMixed.word then
        completeNonempty && !uniformCandidate
      else if matrix.state == VmxCapabilityMatrixState.Invalid.word then false
      else !(matrix.state == VmxCapabilityMatrixState.Incomplete.word && completeNonempty)

end Knhv.Matrix
