import Mathlib.Data.Fintype.Pi
import Knhv.Evidence.Validation

namespace Knhv.Evidence

open Knhv.Matrix Snapshot

def kTargetEvidenceCollectorContractVersion : U32 := 1
def kTargetEvidenceCollectorMaxStructSize : U32 := 4096

def kTargetEvidenceCollectorFlagSynthetic : U32 := 1 <<< 0
def kTargetEvidenceCollectorFlagHardware : U32 := 1 <<< 1
def kTargetEvidenceCollectorFlagSourceClean : U32 := 1 <<< 2
def kTargetEvidenceCollectorFlagSignature : U32 := 1 <<< 3
def kTargetEvidenceCollectorFlagFirstFailure : U32 := 1 <<< 4
def kTargetEvidenceCollectorFlagDigestVerified : U32 := 1 <<< 5
def kTargetEvidenceCollectorKnownFlagMask : U32 := (1 <<< 6) - 1

inductive TargetEvidenceCollectorStatus
  | Success | InvalidArgument | SnapshotInvalid | DigestMissing | DigestMismatch | IdentityMissing
  | GenerationMismatch | TimestampMismatch | CoverageMismatch | FlagMismatch | SignatureMismatch
  | FirstFailureMismatch
  deriving DecidableEq, Repr

def TargetEvidenceCollectorStatus.word : TargetEvidenceCollectorStatus → U32
  | .Success => 0
  | .InvalidArgument => 1
  | .SnapshotInvalid => 2
  | .DigestMissing => 3
  | .DigestMismatch => 4
  | .IdentityMissing => 5
  | .GenerationMismatch => 6
  | .TimestampMismatch => 7
  | .CoverageMismatch => 8
  | .FlagMismatch => 9
  | .SignatureMismatch => 10
  | .FirstFailureMismatch => 11

inductive TargetEvidenceCollectorReason
  | None | InvalidRequest | Snapshot | DigestMissing | DigestMismatch | IdentityMissing
  | GenerationMismatch | TimestampMismatch | CoverageMismatch | FlagMismatch | SignatureMismatch
  | FirstFailureMismatch
  deriving DecidableEq, Repr

def TargetEvidenceCollectorReason.word : TargetEvidenceCollectorReason → U32
  | .None => 0
  | .InvalidRequest => 1
  | .Snapshot => 2
  | .DigestMissing => 3
  | .DigestMismatch => 4
  | .IdentityMissing => 5
  | .GenerationMismatch => 6
  | .TimestampMismatch => 7
  | .CoverageMismatch => 8
  | .FlagMismatch => 9
  | .SignatureMismatch => 10
  | .FirstFailureMismatch => 11

def sizeofTargetEvidenceCollectorBinding : U32 := 216
def sizeofTargetEvidenceCollectorBindingResult : U32 := 40

structure TargetEvidenceCollectorBinding where
  size : U32
  version : U32
  flags : U32
  reserved : U32
  captureId : U64
  generation : U64
  startedTsc : U64
  endedTsc : U64
  cpuSampleCount : U32
  vmxSampleCount : U32
  firstFailureCode : U32
  reserved1 : U32
  collectorId : Digest
  packageDigest : Digest
  collectorBuildId : Digest
  artifactHash : Digest
  signature : TargetEvidenceSignatureResult

structure TargetEvidenceCollectorBindingResult where
  size : U32
  version : U32
  status : U32
  reason : U32
  reserved0 : U32
  reserved1 : U32
  generation : U64
  captureId : U64

namespace Collector

def isVersionedSizeValid : U32 → U32 → U32 → Bool :=
  versionedSizeValid kTargetEvidenceCollectorContractVersion kTargetEvidenceCollectorMaxStructSize

def isStatusValid (value : U32) : Bool :=
  value ≤ TargetEvidenceCollectorStatus.FirstFailureMismatch.word

def isReasonValid (value : U32) : Bool :=
  value ≤ TargetEvidenceCollectorReason.FirstFailureMismatch.word

def initializeResult : TargetEvidenceCollectorBindingResult where
  size := sizeofTargetEvidenceCollectorBindingResult
  version := kTargetEvidenceCollectorContractVersion
  status := TargetEvidenceCollectorStatus.InvalidArgument.word
  reason := TargetEvidenceCollectorReason.InvalidRequest.word
  reserved0 := 0
  reserved1 := 0
  generation := 0
  captureId := 0

def setFailure (result : TargetEvidenceCollectorBindingResult)
    (status : TargetEvidenceCollectorStatus) (reason : TargetEvidenceCollectorReason) :
    TargetEvidenceCollectorBindingResult :=
  { result with status := status.word, reason := reason.word, generation := 0, captureId := 0 }

def expectedFlags (snapshot : TargetEvidenceSnapshot) (binding : TargetEvidenceCollectorBinding) :
    U32 :=
  kTargetEvidenceCollectorFlagDigestVerified |||
    flagsIf (snapshot.profile == TargetEvidenceProfile.SyntheticLab.word)
      kTargetEvidenceCollectorFlagSynthetic |||
    flagsIf (hasFlag snapshot kTargetEvidenceSnapshotFlagHardwareEvidence)
      kTargetEvidenceCollectorFlagHardware |||
    flagsIf (hasFlag snapshot kTargetEvidenceSnapshotFlagSourceClean)
      kTargetEvidenceCollectorFlagSourceClean |||
    flagsIf (hasFlag snapshot kTargetEvidenceSnapshotFlagSignature)
      kTargetEvidenceCollectorFlagSignature |||
    flagsIf (binding.firstFailureCode != 0) kTargetEvidenceCollectorFlagFirstFailure

/-- The fields that the validator and the binder check in the same way. -/
def isHeaderInvalid (binding : TargetEvidenceCollectorBinding) : Bool :=
  !isVersionedSizeValid binding.version binding.size sizeofTargetEvidenceCollectorBinding ||
    binding.flags &&& ~~~kTargetEvidenceCollectorKnownFlagMask != 0 || binding.reserved != 0 ||
    binding.reserved1 != 0

end Collector

open Collector

def isTargetEvidenceCollectorBindingValid (binding : TargetEvidenceCollectorBinding) : Bool :=
  if isHeaderInvalid binding || binding.captureId == 0 ||
      binding.flags &&& kTargetEvidenceCollectorFlagDigestVerified == 0 ||
      !isDigestNonZero binding.collectorId || !isDigestNonZero binding.collectorBuildId ||
      !isDigestNonZero binding.packageDigest ||
      kCpuMatrixMaxProcessors < binding.cpuSampleCount ||
      kVmxCapabilityMaxProcessors < binding.vmxSampleCount ||
      (binding.endedTsc != 0 && binding.endedTsc < binding.startedTsc) then
    false
  else if (binding.flags &&& kTargetEvidenceCollectorFlagFirstFailure != 0) !=
      (binding.firstFailureCode != 0) then
    false
  else if binding.flags &&& kTargetEvidenceCollectorFlagSignature != 0 then
    isTargetEvidenceSignatureResultValid binding.signature
  else binding.signature == .zero

def isTargetEvidenceCollectorBindingResultValid (result : TargetEvidenceCollectorBindingResult) :
    Bool :=
  if !Collector.isVersionedSizeValid result.version result.size
        sizeofTargetEvidenceCollectorBindingResult ||
      !Collector.isStatusValid result.status || !Collector.isReasonValid result.reason ||
      result.reserved0 != 0 || result.reserved1 != 0 then
    false
  else if result.status == TargetEvidenceCollectorStatus.Success.word then
    result.reason == TargetEvidenceCollectorReason.None.word && result.captureId != 0
  else
    result.reason != TargetEvidenceCollectorReason.None.word && result.captureId == 0 &&
      result.generation == 0

namespace Collector

/-- The status that is returned, and the result as it is left. -/
abbrev Verdict := TargetEvidenceCollectorStatus × TargetEvidenceCollectorBindingResult

def refuse (status : TargetEvidenceCollectorStatus) (reason : TargetEvidenceCollectorReason) :
    Verdict :=
  (status, setFailure initializeResult status reason)

/-- The comparison of a binding with a snapshot that is valid. -/
def compareBinding (snapshot : TargetEvidenceSnapshot) (cpuSampleCount vmxSampleCount : U32)
    (verifiedPackageDigest : Digest) (binding : TargetEvidenceCollectorBinding) : Verdict :=
  if !isDigestNonZero verifiedPackageDigest then refuse .DigestMissing .DigestMissing
  else if verifiedPackageDigest != binding.packageDigest then
    refuse .DigestMismatch .DigestMismatch
  else if binding.generation != snapshot.generation then
    refuse .GenerationMismatch .GenerationMismatch
  else if binding.startedTsc != snapshot.startedTsc || binding.endedTsc != snapshot.endedTsc then
    refuse .TimestampMismatch .TimestampMismatch
  else if binding.cpuSampleCount != cpuSampleCount || binding.vmxSampleCount != vmxSampleCount then
    refuse .CoverageMismatch .CoverageMismatch
  else if binding.flags != expectedFlags snapshot binding then refuse .FlagMismatch .FlagMismatch
  else if hasFlag snapshot kTargetEvidenceSnapshotFlagArtifacts &&
      binding.artifactHash != snapshot.artifactHash then
    refuse .DigestMismatch .DigestMismatch
  else if !hasFlag snapshot kTargetEvidenceSnapshotFlagArtifacts &&
      isDigestNonZero binding.artifactHash then
    refuse .FlagMismatch .FlagMismatch
  else if hasFlag snapshot kTargetEvidenceSnapshotFlagSignature &&
      binding.signature != snapshot.signature then
    refuse .SignatureMismatch .SignatureMismatch
  else if !hasFlag snapshot kTargetEvidenceSnapshotFlagSignature &&
      binding.signature != .zero then
    refuse .FlagMismatch .FlagMismatch
  else if isPass snapshot && binding.firstFailureCode != 0 then
    refuse .FirstFailureMismatch .FirstFailureMismatch
  else
    (.Success, { initializeResult with
      status := TargetEvidenceCollectorStatus.Success.word
      reason := TargetEvidenceCollectorReason.None.word
      generation := binding.generation
      captureId := binding.captureId })

/-- The checks of a request whose pointers are all there. -/
def checkBinding (snapshot : TargetEvidenceSnapshot) (cpuSamples : Samples CpuMatrixSample)
    (vmxSamples : Samples VmxCapabilitySample) (verifiedPackageDigest : Digest)
    (binding : TargetEvidenceCollectorBinding) : Verdict :=
  if isHeaderInvalid binding then (.InvalidArgument, initializeResult)
  else if !isDigestNonZero binding.collectorId || !isDigestNonZero binding.collectorBuildId then
    refuse .IdentityMissing .IdentityMissing
  else if !isDigestNonZero binding.packageDigest then refuse .DigestMissing .DigestMissing
  else if !isTargetEvidenceCollectorBindingValid binding then (.InvalidArgument, initializeResult)
  else if validateTargetEvidenceSnapshot (some snapshot) cpuSamples vmxSamples != .Success then
    refuse .SnapshotInvalid .Snapshot
  else
    compareBinding snapshot cpuSamples.count vmxSamples.count verifiedPackageDigest binding

end Collector

/-- A result without a value is a null pointer. -/
def validateTargetEvidenceCollectorBinding (snapshot : Option TargetEvidenceSnapshot)
    (cpuSamples : Samples CpuMatrixSample) (vmxSamples : Samples VmxCapabilitySample)
    (verifiedPackageDigest : Option Digest) (binding : Option TargetEvidenceCollectorBinding)
    (result : Option TargetEvidenceCollectorBindingResult) :
    TargetEvidenceCollectorStatus × Option TargetEvidenceCollectorBindingResult :=
  match result with
  | none => (.InvalidArgument, none)
  | some _ =>
    match snapshot, verifiedPackageDigest, binding with
    | some snapshot, some verifiedPackageDigest, some binding =>
      let (status, result) :=
        checkBinding snapshot cpuSamples vmxSamples verifiedPackageDigest binding
      (status, some result)
    | _, _, _ => (.InvalidArgument, some initializeResult)

end Knhv.Evidence
