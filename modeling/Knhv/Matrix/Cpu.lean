import Mathlib.Data.Fintype.Pi
import Knhv.Abi

namespace Knhv.Matrix

/-- An array of the caller with its length: it may be missing whatever the
length says. -/
inductive Samples (α : Type)
  | null (count : U32)
  | array (items : List α) (bounded : items.length < 2 ^ 32)

def Samples.count {α : Type} : Samples α → U32
  | .null count => count
  | .array items _ => BitVec.ofNat 32 items.length

def Samples.isNull {α : Type} : Samples α → Bool
  | .null _ => true
  | .array _ _ => false

def Samples.items {α : Type} : Samples α → List α
  | .null _ => []
  | .array items _ => items

/-- An array that the caller passes, of no more elements than the contract has
processors. -/
structure Samples.Fits {α : Type} (samples : Samples α) : Prop where
  few : samples.count ≤ 4096
  present : samples.count = 0 ∨ samples.isNull = false

theorem Samples.Fits.length {α : Type} {samples : Samples α} (fits : samples.Fits) :
    samples.count.toNat = samples.items.length := by
  cases samples with
  | null count =>
    rw [fits.present.resolve_right Bool.noConfusion]
    rfl
  | array items bounded => exact Nat.mod_eq_of_lt bounded

theorem Samples.Fits.short {α : Type} {samples : Samples α} (fits : samples.Fits) :
    samples.items.length ≤ 4096 :=
  fits.length ▸ fits.few

/-- The same samples in another order. -/
structure Samples.Shuffled {α : Type} (samples other : Samples α) : Prop where
  count : samples.count = other.count
  isNull : samples.isNull = other.isNull
  items : samples.items.Perm other.items

theorem Samples.Shuffled.fits {α : Type} {samples other : Samples α}
    (shuffled : samples.Shuffled other) (fits : samples.Fits) : other.Fits :=
  ⟨shuffled.count ▸ fits.few, shuffled.count ▸ shuffled.isNull ▸ fits.present⟩

/-- The size and version at the front of a structure, against its contract. -/
def versionedSizeValid (contractVersion maxStructSize version size required : U32) : Bool :=
  version == contractVersion && required ≤ size && size ≤ maxStructSize

def kCpuMatrixContractVersion : U32 := 1
def kCpuMatrixMaxStructSize : U32 := 4096
def kCpuMatrixMaxProcessors : U32 := 4096

def kCpuMatrixFeatureVmx : U64 := 1 <<< 0
def kCpuMatrixFeatureHypervisor : U64 := 1 <<< 1
def kCpuMatrixFeatureInvariantTsc : U64 := 1 <<< 2
def kCpuMatrixKnownFeatureMask : U64 := (1 <<< 11) - 1

def kCpuMatrixSampleCollected : U32 := 1 <<< 0
def kCpuMatrixSampleAffinityFailed : U32 := 1 <<< 1
def kCpuMatrixSampleMigrated : U32 := 1 <<< 2
def kCpuMatrixSampleCpuidFailed : U32 := 1 <<< 3
def kCpuMatrixFailureFlags : U32 :=
  kCpuMatrixSampleAffinityFailed ||| kCpuMatrixSampleMigrated ||| kCpuMatrixSampleCpuidFailed
def kCpuMatrixKnownSampleStatusMask : U32 := kCpuMatrixSampleCollected ||| kCpuMatrixFailureFlags

def kCpuMatrixSummaryAllVmx : U32 := 1 <<< 0
def kCpuMatrixSummaryAllInvariantTsc : U32 := 1 <<< 1
def kCpuMatrixSummaryAnyHypervisor : U32 := 1 <<< 2
def kCpuMatrixSummaryIdentityUniform : U32 := 1 <<< 3
def kCpuMatrixSummarySamplesComplete : U32 := 1 <<< 4
def kCpuMatrixSummaryHasInvalidSamples : U32 := 1 <<< 5
def kCpuMatrixKnownSummaryFlagMask : U32 := (1 <<< 6) - 1

inductive CpuMatrixState
  | Empty | CompleteUniform | CompleteMixed | Incomplete | Invalid
  deriving DecidableEq, Repr

def CpuMatrixState.word : CpuMatrixState → U32
  | .Empty => 0
  | .CompleteUniform => 1
  | .CompleteMixed => 2
  | .Incomplete => 3
  | .Invalid => 4

def sizeofCpuMatrixSample : U32 := 112
def sizeofCpuMatrixSummary : U32 := 96

structure CpuMatrixSample where
  size : U32
  version : U32
  logicalIndex : U32
  processorGroup : U32
  processorNumber : U32
  status : U32
  featureFlags : U64
  maxBasicLeaf : U32
  maxExtendedLeaf : U32
  leaf7MaxSubleaf : U32
  physicalAddressBits : U32
  linearAddressBits : U32
  vendorEbx : U32
  vendorEcx : U32
  vendorEdx : U32
  hypervisorEbx : U32
  hypervisorEcx : U32
  hypervisorEdx : U32
  leaf1Ecx : U32
  leaf1Edx : U32
  leaf7Ebx : U32
  leaf7Ecx : U32
  leaf7Edx : U32
  extendedLeaf7Edx : U32
  extendedLeaf8Eax : U32
  reserved0 : U32
  reserved1 : U32
  deriving DecidableEq

structure CpuMatrixSummary where
  size : U32
  version : U32
  state : U32
  flags : U32
  expectedCount : U32
  sampleCount : U32
  validCount : U32
  invalidCount : U32
  featureIntersection : U64
  featureUnion : U64
  inconsistentFeatures : U64
  commonMaxBasicLeaf : U32
  commonMaxExtendedLeaf : U32
  commonPhysicalAddressBits : U32
  commonLinearAddressBits : U32
  vendorEbx : U32
  vendorEcx : U32
  vendorEdx : U32
  reserved0 : U32
  reserved1 : U32
  reserved2 : U32
  deriving DecidableEq

def CpuMatrixSummary.zero : CpuMatrixSummary :=
  ⟨0, 0, 0, 0, 0, 0, 0, 0, 0, 0, 0, 0, 0, 0, 0, 0, 0, 0, 0, 0, 0⟩

namespace CpuMatrix

def isVersionedSizeValid : U32 → U32 → U32 → Bool :=
  versionedSizeValid kCpuMatrixContractVersion kCpuMatrixMaxStructSize

def isStateValid (state : U32) : Bool := state ≤ CpuMatrixState.Invalid.word

def isCollected (sample : CpuMatrixSample) : Bool :=
  sample.status &&& kCpuMatrixSampleCollected != 0 && sample.status &&& kCpuMatrixFailureFlags == 0

def sameIdentity (left right : CpuMatrixSample) : Bool :=
  left.vendorEbx == right.vendorEbx && left.vendorEcx == right.vendorEcx &&
    left.vendorEdx == right.vendorEdx && left.hypervisorEbx == right.hypervisorEbx &&
    left.hypervisorEcx == right.hypervisorEcx && left.hypervisorEdx == right.hypervisorEdx &&
    left.maxBasicLeaf == right.maxBasicLeaf && left.maxExtendedLeaf == right.maxExtendedLeaf &&
    left.leaf7MaxSubleaf == right.leaf7MaxSubleaf &&
    left.physicalAddressBits == right.physicalAddressBits &&
    left.linearAddressBits == right.linearAddressBits

def initializeSummary (expectedCount sampleCount : U32) : CpuMatrixSummary :=
  { CpuMatrixSummary.zero with
    size := sizeofCpuMatrixSummary
    version := kCpuMatrixContractVersion
    state := CpuMatrixState.Invalid.word
    expectedCount := expectedCount
    sampleCount := sampleCount }

end CpuMatrix

open CpuMatrix

def isCpuMatrixSampleValid (sample : CpuMatrixSample) : Bool :=
  if !isVersionedSizeValid sample.version sample.size sizeofCpuMatrixSample ||
      kCpuMatrixMaxProcessors ≤ sample.logicalIndex || 0xFFFF < sample.processorGroup ||
      64 ≤ sample.processorNumber || sample.status &&& ~~~kCpuMatrixKnownSampleStatusMask != 0 ||
      (sample.status &&& kCpuMatrixSampleCollected != 0 &&
        sample.status &&& kCpuMatrixFailureFlags != 0) ||
      sample.status &&& (kCpuMatrixSampleCollected ||| kCpuMatrixFailureFlags) == 0 ||
      sample.featureFlags &&& ~~~kCpuMatrixKnownFeatureMask != 0 ||
      0x80000000 ≤ sample.maxBasicLeaf || 52 < sample.physicalAddressBits ||
      64 < sample.linearAddressBits || sample.reserved0 != 0 || sample.reserved1 != 0 then
    false
  else if isCollected sample then
    !(sample.maxBasicLeaf < 1 || sample.maxExtendedLeaf < 0x80000000 ||
      (sample.vendorEbx == 0 && sample.vendorEcx == 0 && sample.vendorEdx == 0))
  else true

def isCpuMatrixSampleUsable (sample : CpuMatrixSample) : Bool :=
  isCpuMatrixSampleValid sample && isCollected sample

namespace CpuMatrix

/-- Two samples of one processor. -/
def clashes (sample previous : CpuMatrixSample) : Bool :=
  sample.logicalIndex == previous.logicalIndex ||
    (sample.processorGroup == previous.processorGroup &&
      sample.processorNumber == previous.processorNumber)

/-- What the loop over the samples keeps. -/
structure Scan where
  summary : CpuMatrixSummary
  firstValid : Option CpuMatrixSample
  identityUniform : Bool

/-- A word that the samples share so far, and zero once they differ. -/
def common (shared value : U32) : U32 := if shared != value then 0 else shared

/-- One usable or unusable sample, after its checks. -/
def observe (scan : Scan) (sample : CpuMatrixSample) : Scan :=
  let summary := scan.summary
  if !isCpuMatrixSampleUsable sample then
    { scan with summary := { summary with invalidCount := summary.invalidCount + 1 } }
  else
    match scan.firstValid with
    | none =>
      { scan with
        firstValid := some sample
        summary := { summary with
          featureIntersection := sample.featureFlags
          featureUnion := sample.featureFlags
          commonMaxBasicLeaf := sample.maxBasicLeaf
          commonMaxExtendedLeaf := sample.maxExtendedLeaf
          commonPhysicalAddressBits := sample.physicalAddressBits
          commonLinearAddressBits := sample.linearAddressBits
          vendorEbx := sample.vendorEbx
          vendorEcx := sample.vendorEcx
          vendorEdx := sample.vendorEdx } }
    | some first =>
      { scan with
        identityUniform := if !sameIdentity first sample then false else scan.identityUniform
        summary := { summary with
          featureIntersection := summary.featureIntersection &&& sample.featureFlags
          featureUnion := summary.featureUnion ||| sample.featureFlags
          commonMaxBasicLeaf := common summary.commonMaxBasicLeaf sample.maxBasicLeaf
          commonMaxExtendedLeaf := common summary.commonMaxExtendedLeaf sample.maxExtendedLeaf
          commonPhysicalAddressBits :=
            common summary.commonPhysicalAddressBits sample.physicalAddressBits
          commonLinearAddressBits :=
            common summary.commonLinearAddressBits sample.linearAddressBits } }

/-- The loop over the samples: it stops at a sample that is invalid or of a
processor that has been seen. -/
def scanSamples (prior : List CpuMatrixSample) : List CpuMatrixSample → Scan → Bool × Scan
  | [], scan => (true, scan)
  | sample :: rest, scan =>
    if !isCpuMatrixSampleValid sample || prior.any (clashes sample) then (false, scan)
    else scanSamples (prior ++ [sample]) rest (observe scan sample)

/-- The flags and the state, once every sample has been seen. -/
def finishSummary (scan : Scan) (sampleCount expectedCount : U32) : CpuMatrixSummary :=
  let summary := scan.summary
  let validCount := sampleCount - summary.invalidCount
  let inconsistent := summary.featureUnion ^^^ summary.featureIntersection
  { summary with
    validCount := validCount
    inconsistentFeatures := inconsistent
    flags := summary.flags |||
      (if validCount != 0 && summary.featureIntersection &&& kCpuMatrixFeatureVmx != 0 then
        kCpuMatrixSummaryAllVmx else 0) |||
      (if validCount != 0 && summary.featureIntersection &&& kCpuMatrixFeatureInvariantTsc != 0 then
        kCpuMatrixSummaryAllInvariantTsc else 0) |||
      (if summary.featureUnion &&& kCpuMatrixFeatureHypervisor != 0 then
        kCpuMatrixSummaryAnyHypervisor else 0) |||
      (if scan.identityUniform && validCount != 0 then kCpuMatrixSummaryIdentityUniform else 0) |||
      (if summary.invalidCount != 0 then kCpuMatrixSummaryHasInvalidSamples else 0) |||
      (if validCount == expectedCount && sampleCount == expectedCount && expectedCount != 0 then
        kCpuMatrixSummarySamplesComplete else 0)
    state :=
      if sampleCount != expectedCount || summary.invalidCount != 0 || expectedCount == 0 then
        CpuMatrixState.Incomplete.word
      else if !scan.identityUniform || inconsistent != 0 then CpuMatrixState.CompleteMixed.word
      else CpuMatrixState.CompleteUniform.word }

end CpuMatrix

/-- Whether a summary could be built, and what is left in the output. -/
def buildCpuMatrixSummary (samples : Samples CpuMatrixSample) (expectedCount : U32) :
    Bool × CpuMatrixSummary :=
  let sampleCount := samples.count
  let summary := initializeSummary expectedCount sampleCount
  if kCpuMatrixMaxProcessors < sampleCount || (sampleCount != 0 && samples.isNull) then
    (false, summary)
  else if sampleCount == 0 then
    (true,
      if expectedCount == 0 then
        { summary with
          state := CpuMatrixState.Empty.word
          flags := kCpuMatrixSummarySamplesComplete }
      else { summary with state := CpuMatrixState.Incomplete.word })
  else
    match scanSamples [] samples.items ⟨summary, none, true⟩ with
    | (false, scan) => (false, scan.summary)
    | (true, scan) => (true, finishSummary scan sampleCount expectedCount)

def isCpuMatrixSummaryValid (summary : CpuMatrixSummary) : Bool :=
  if !isVersionedSizeValid summary.version summary.size sizeofCpuMatrixSummary ||
      !isStateValid summary.state || summary.flags &&& ~~~kCpuMatrixKnownSummaryFlagMask != 0 ||
      kCpuMatrixMaxProcessors < summary.sampleCount || summary.sampleCount < summary.validCount ||
      summary.sampleCount < summary.invalidCount ||
      summary.validCount + summary.invalidCount != summary.sampleCount ||
      summary.featureIntersection &&& ~~~summary.featureUnion != 0 ||
      summary.featureIntersection &&& ~~~kCpuMatrixKnownFeatureMask != 0 ||
      summary.featureUnion &&& ~~~kCpuMatrixKnownFeatureMask != 0 ||
      summary.inconsistentFeatures != summary.featureUnion ^^^ summary.featureIntersection ||
      52 < summary.commonPhysicalAddressBits || 64 < summary.commonLinearAddressBits ||
      summary.reserved0 != 0 || summary.reserved1 != 0 || summary.reserved2 != 0 then
    false
  else
    let flagSet (flag : U32) : Bool := summary.flags &&& flag != 0
    let allVmx := summary.validCount != 0 &&
      summary.featureIntersection &&& kCpuMatrixFeatureVmx != 0
    let allInvariantTsc := summary.validCount != 0 &&
      summary.featureIntersection &&& kCpuMatrixFeatureInvariantTsc != 0
    let anyHypervisor := summary.featureUnion &&& kCpuMatrixFeatureHypervisor != 0
    let hasInvalid := summary.invalidCount != 0
    let samplesComplete := summary.expectedCount == summary.sampleCount &&
      summary.validCount == summary.expectedCount
    if flagSet kCpuMatrixSummaryAllVmx != allVmx ||
        flagSet kCpuMatrixSummaryAllInvariantTsc != allInvariantTsc ||
        flagSet kCpuMatrixSummaryAnyHypervisor != anyHypervisor ||
        flagSet kCpuMatrixSummaryHasInvalidSamples != hasInvalid ||
        flagSet kCpuMatrixSummarySamplesComplete != samplesComplete then
      false
    else if summary.state == CpuMatrixState.Empty.word then
      summary.expectedCount == 0 && summary.sampleCount == 0 && summary.validCount == 0 &&
        summary.invalidCount == 0
    else if summary.state == CpuMatrixState.CompleteUniform.word ||
        summary.state == CpuMatrixState.CompleteMixed.word then
      if summary.expectedCount != summary.sampleCount || summary.expectedCount == 0 ||
          summary.invalidCount != 0 || !flagSet kCpuMatrixSummarySamplesComplete then
        false
      else if summary.state == CpuMatrixState.CompleteUniform.word then
        flagSet kCpuMatrixSummaryIdentityUniform && summary.inconsistentFeatures == 0
      else true
    else summary.state != CpuMatrixState.Invalid.word

end Knhv.Matrix
