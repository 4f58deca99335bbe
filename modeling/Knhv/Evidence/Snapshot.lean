import Mathlib.Data.Fintype.Pi
import Knhv.Evidence.Writer
import Knhv.Lib.FirstFailure
import Knhv.Matrix.Vmx

namespace Knhv.Evidence

open Knhv.Matrix Owner

def kTargetEvidenceSnapshotContractVersion : U32 := 1
def kTargetEvidenceSnapshotMaxStructSize : U32 := 4096

def kTargetEvidenceSnapshotFlagCpuMatrix : U32 := 1 <<< 0
def kTargetEvidenceSnapshotFlagVmxMatrix : U32 := 1 <<< 1
def kTargetEvidenceSnapshotFlagOwnerObservation : U32 := 1 <<< 2
def kTargetEvidenceSnapshotFlagOwnerGate : U32 := 1 <<< 3
def kTargetEvidenceSnapshotFlagHardwareEvidence : U32 := 1 <<< 4
def kTargetEvidenceSnapshotFlagArtifacts : U32 := 1 <<< 5
def kTargetEvidenceSnapshotFlagSourceClean : U32 := 1 <<< 6
def kTargetEvidenceSnapshotFlagTimeSynchronized : U32 := 1 <<< 7
def kTargetEvidenceSnapshotFlagTelemetry : U32 := 1 <<< 8
def kTargetEvidenceSnapshotFlagRecoveryReady : U32 := 1 <<< 9
def kTargetEvidenceSnapshotFlagSignature : U32 := 1 <<< 10
def kTargetEvidenceSnapshotFlagSynthetic : U32 := 1 <<< 11
def kTargetEvidenceSnapshotFlagKdConnected : U32 := 1 <<< 12
def kTargetEvidenceSnapshotFlagDeviceProfiles : U32 := 1 <<< 13
def kTargetEvidenceSnapshotFlagPerformance : U32 := 1 <<< 14
def kTargetEvidenceSnapshotFlagNoCriticalFaults : U32 := 1 <<< 15
def kTargetEvidenceSnapshotFlagWarningsClear : U32 := 1 <<< 16
def kTargetEvidenceSnapshotFlagAllowPrivateTestRoot : U32 := 1 <<< 17
def kTargetEvidenceSnapshotKnownFlagMask : U32 := (1 <<< 18) - 1

inductive TargetEvidenceSnapshotStatus
  | Success | InvalidArgument | CpuEvidenceInvalid | VmxEvidenceInvalid | OwnerEvidenceInvalid
  | GenerationMismatch | CoverageIncomplete | ProfileMismatch | TimestampInvalid
  | ArtifactEvidenceMissing | SignatureEvidenceMissing | WriterRejected
  deriving DecidableEq, Repr

def TargetEvidenceSnapshotStatus.word : TargetEvidenceSnapshotStatus → U32
  | .Success => 0
  | .InvalidArgument => 1
  | .CpuEvidenceInvalid => 2
  | .VmxEvidenceInvalid => 3
  | .OwnerEvidenceInvalid => 4
  | .GenerationMismatch => 5
  | .CoverageIncomplete => 6
  | .ProfileMismatch => 7
  | .TimestampInvalid => 8
  | .ArtifactEvidenceMissing => 9
  | .SignatureEvidenceMissing => 10
  | .WriterRejected => 11

def sizeofTargetEvidenceSnapshot : U32 := 544
def sizeofTargetEvidenceSnapshotResult : U32 := 280

structure TargetEvidenceSnapshot where
  size : U32
  version : U32
  flags : U32
  reserved : U32
  profile : U32
  stage : U32
  verdict : U32
  reserved1 : U32
  warningCount : U32
  errorCount : U32
  artifactCount : U32
  reserved2 : U32
  generation : U64
  startedTsc : U64
  endedTsc : U64
  cpuMatrix : CpuMatrixSummary
  vmxMatrix : VmxCapabilityMatrix
  ownerObservation : OwnerObservation
  ownerGate : OwnerGateResult
  signature : TargetEvidenceSignatureResult
  machineId : Digest
  buildId : Digest
  artifactHash : Digest
  capabilityHash : Digest
  manifestHash : Digest

structure TargetEvidenceSnapshotResult where
  size : U32
  version : U32
  status : U32
  reason : U32
  writerStatus : U32
  reserved : U32
  manifest : TargetEvidenceManifest

namespace Snapshot

def isVersionedSizeValid : U32 → U32 → U32 → Bool :=
  versionedSizeValid kTargetEvidenceSnapshotContractVersion kTargetEvidenceSnapshotMaxStructSize

def hasFlag (snapshot : TargetEvidenceSnapshot) (flag : U32) : Bool := snapshot.flags &&& flag != 0

def isPass (snapshot : TargetEvidenceSnapshot) : Bool :=
  snapshot.verdict == TargetEvidenceVerdict.Pass.word

def isCompleteCpuMatrix (matrix : CpuMatrixSummary) : Bool :=
  matrix.state == CpuMatrixState.CompleteUniform.word && matrix.expectedCount != 0 &&
    matrix.sampleCount == matrix.expectedCount && matrix.validCount == matrix.expectedCount &&
    matrix.invalidCount == 0 && matrix.flags &&& kCpuMatrixSummarySamplesComplete != 0

def isCompleteVmxMatrix (matrix : VmxCapabilityMatrix) : Bool :=
  matrix.state == VmxCapabilityMatrixState.CompleteUniform.word && matrix.expectedCount != 0 &&
    matrix.sampleCount == matrix.expectedCount && matrix.validCount == matrix.expectedCount &&
    matrix.invalidCount == 0 && matrix.flags &&& kVmxMatrixSamplesComplete != 0

/-- The profile is the word of the record. -/
def isOwnerActionForProfile (profile : U32) (gate : OwnerGateResult) : Bool :=
  let answers (action : OwnerGateAction) (status : HvStatus) (owner : HvOwnerKindV2) : Bool :=
    gate.action == action.word && gate.status == status.word && gate.owner == owner.word
  if profile == TargetEvidenceProfile.NativeIntelL0.word then
    answers .AcquireNative .Success .KnhvBootL0
  else if profile == TargetEvidenceProfile.WhpManaged.word then
    answers .UseWhp .Success .WhpManaged
  else if profile == TargetEvidenceProfile.ExternalL0.word then
    answers .UseExternalProvider .IncompatibleProvider .ExternalL0
  else if profile == TargetEvidenceProfile.SyntheticLab.word then
    answers .UseSynthetic .Success .SyntheticLab
  else false

def isOwnerEvidencePresent (snapshot : TargetEvidenceSnapshot) : Bool :=
  hasFlag snapshot kTargetEvidenceSnapshotFlagOwnerObservation &&
    hasFlag snapshot kTargetEvidenceSnapshotFlagOwnerGate

def isCapabilityComplete (snapshot : TargetEvidenceSnapshot) : Bool :=
  if !hasFlag snapshot kTargetEvidenceSnapshotFlagCpuMatrix ||
      !isCompleteCpuMatrix snapshot.cpuMatrix then
    false
  else if snapshot.profile != TargetEvidenceProfile.NativeIntelL0.word then true
  else
    hasFlag snapshot kTargetEvidenceSnapshotFlagVmxMatrix && isCompleteVmxMatrix snapshot.vmxMatrix

/-- Flags that go into the manifest if something is there. -/
def flagsIf (present : Bool) (flags : U32) : U32 := if present then flags else 0

def buildManifestFlags (snapshot : TargetEvidenceSnapshot) : U32 :=
  let has := hasFlag snapshot
  flagsIf (has kTargetEvidenceSnapshotFlagArtifacts)
      (kTargetEvidenceFlagArtifactsVerified ||| kTargetEvidenceFlagPdbMatched) |||
    flagsIf (has kTargetEvidenceSnapshotFlagSourceClean) kTargetEvidenceFlagSourceClean |||
    flagsIf (has kTargetEvidenceSnapshotFlagSignature) kTargetEvidenceFlagSignatureVerified |||
    flagsIf (isCapabilityComplete snapshot) kTargetEvidenceFlagCapabilityComplete |||
    flagsIf (has kTargetEvidenceSnapshotFlagHardwareEvidence) kTargetEvidenceFlagHardwareTarget |||
    flagsIf (isOwnerEvidencePresent snapshot &&
      isOwnerActionForProfile snapshot.profile snapshot.ownerGate)
      kTargetEvidenceFlagOwnerVerified |||
    flagsIf (has kTargetEvidenceSnapshotFlagTimeSynchronized)
      kTargetEvidenceFlagTimeSynchronized |||
    flagsIf (has kTargetEvidenceSnapshotFlagTelemetry) kTargetEvidenceFlagTelemetryComplete |||
    flagsIf (has kTargetEvidenceSnapshotFlagRecoveryReady) kTargetEvidenceFlagRecoveryReady |||
    flagsIf (has kTargetEvidenceSnapshotFlagNoCriticalFaults)
      kTargetEvidenceFlagNoCriticalFaults |||
    flagsIf (has kTargetEvidenceSnapshotFlagKdConnected) kTargetEvidenceFlagKdConnected |||
    flagsIf (has kTargetEvidenceSnapshotFlagDeviceProfiles)
      kTargetEvidenceFlagDeviceProfilesVerified |||
    flagsIf (has kTargetEvidenceSnapshotFlagPerformance)
      kTargetEvidenceFlagPerformanceComparable |||
    flagsIf (has kTargetEvidenceSnapshotFlagWarningsClear) kTargetEvidenceFlagWarningsClear

def makeManifest (snapshot : TargetEvidenceSnapshot) : TargetEvidenceManifest :=
  let owner := isOwnerEvidencePresent snapshot
  let cpu := hasFlag snapshot kTargetEvidenceSnapshotFlagCpuMatrix
  { size := sizeofTargetEvidenceManifest
    version := kTargetEvidenceContractVersion
    profile := snapshot.profile
    stage := snapshot.stage
    verdict := snapshot.verdict
    flags := buildManifestFlags snapshot
    ownerKind := if owner then snapshot.ownerObservation.providerOwner else 0
    ownerState := if owner then snapshot.ownerObservation.providerState else 0
    cpuCount := if cpu then snapshot.cpuMatrix.expectedCount else 0
    cpuValidCount := if cpu then snapshot.cpuMatrix.validCount else 0
    artifactCount := snapshot.artifactCount
    warningCount := snapshot.warningCount
    errorCount := snapshot.errorCount
    reserved0 := 0
    generation := snapshot.generation
    startedTsc := snapshot.startedTsc
    endedTsc := snapshot.endedTsc
    machineId := snapshot.machineId
    buildId := snapshot.buildId
    artifactHash := snapshot.artifactHash
    capabilityHash := snapshot.capabilityHash
    manifestHash := snapshot.manifestHash
    reserved := fun _ => 0 }

def isRequiredForPass (snapshot : TargetEvidenceSnapshot) (flag : U32) : Bool :=
  isPass snapshot && requiredTargetEvidenceFlags snapshot.profile snapshot.stage &&& flag != 0

/-- A check with the status that is returned if it fires. -/
abbrev Check := Bool × TargetEvidenceSnapshotStatus

def headerChecks (snapshot : TargetEvidenceSnapshot) : List Check :=
  let synthetic := snapshot.profile == TargetEvidenceProfile.SyntheticLab.word
  let has := hasFlag snapshot
  [(!isVersionedSizeValid snapshot.version snapshot.size sizeofTargetEvidenceSnapshot ||
      snapshot.flags &&& ~~~kTargetEvidenceSnapshotKnownFlagMask != 0 ||
      snapshot.reserved != 0 || snapshot.reserved1 != 0 || snapshot.reserved2 != 0 ||
      !isProfileValid snapshot.profile || !isStageValid snapshot.stage ||
      !isVerdictValid snapshot.verdict, .InvalidArgument),
    (synthetic != has kTargetEvidenceSnapshotFlagSynthetic ||
      (synthetic && has kTargetEvidenceSnapshotFlagHardwareEvidence) ||
      (has kTargetEvidenceSnapshotFlagAllowPrivateTestRoot &&
        (!synthetic || !has kTargetEvidenceSnapshotFlagSignature)), .ProfileMismatch)]

def cpuChecks (snapshot : TargetEvidenceSnapshot) (samples : Samples CpuMatrixSample) :
    List Check :=
  let present := hasFlag snapshot kTargetEvidenceSnapshotFlagCpuMatrix
  let rebuilt := buildCpuMatrixSummary samples snapshot.cpuMatrix.expectedCount
  [(!present && samples.count != 0, .InvalidArgument),
    (present && (samples.count != snapshot.cpuMatrix.sampleCount ||
      (samples.count != 0 && samples.isNull) || !isCpuMatrixSummaryValid snapshot.cpuMatrix),
      .CpuEvidenceInvalid),
    (present && (!rebuilt.1 || rebuilt.2 != snapshot.cpuMatrix), .CpuEvidenceInvalid),
    (present && isPass snapshot && !isCompleteCpuMatrix snapshot.cpuMatrix, .CoverageIncomplete),
    (!present && snapshot.cpuMatrix != .zero, .InvalidArgument)]

def vmxChecks (snapshot : TargetEvidenceSnapshot) (samples : Samples VmxCapabilitySample) :
    List Check :=
  let present := hasFlag snapshot kTargetEvidenceSnapshotFlagVmxMatrix
  let rebuilt := buildVmxCapabilityMatrix samples snapshot.vmxMatrix.expectedCount
  [(!present && samples.count != 0, .InvalidArgument),
    (present && (samples.count != snapshot.vmxMatrix.sampleCount ||
      (samples.count != 0 && samples.isNull) || !isVmxCapabilityMatrixValid snapshot.vmxMatrix),
      .VmxEvidenceInvalid),
    (present && (!rebuilt.1 || rebuilt.2 != snapshot.vmxMatrix), .VmxEvidenceInvalid),
    (present && isPass snapshot && !isCompleteVmxMatrix snapshot.vmxMatrix, .CoverageIncomplete),
    (present && snapshot.vmxMatrix.validCount != 0 &&
      snapshot.vmxMatrix.generation != snapshot.generation, .GenerationMismatch),
    (!present && snapshot.vmxMatrix != .zero, .InvalidArgument)]

def ownerChecks (snapshot : TargetEvidenceSnapshot) : List Check :=
  let observed := hasFlag snapshot kTargetEvidenceSnapshotFlagOwnerObservation
  let gated := hasFlag snapshot kTargetEvidenceSnapshotFlagOwnerGate
  [(observed != gated, .OwnerEvidenceInvalid),
    (observed && (!isOwnerObservationValid snapshot.ownerObservation ||
      !isOwnerGateResultValid snapshot.ownerGate ||
      snapshot.ownerObservation.providerOwner != snapshot.ownerGate.owner),
      .OwnerEvidenceInvalid),
    (observed && (snapshot.ownerObservation.generation != snapshot.generation ||
      snapshot.ownerGate.generation != snapshot.generation), .GenerationMismatch),
    (observed && isPass snapshot && isStageAtLeast snapshot.stage .Boot &&
      !isOwnerActionForProfile snapshot.profile snapshot.ownerGate, .ProfileMismatch),
    (!observed && (snapshot.ownerObservation != .zero || snapshot.ownerGate != .zero),
      .InvalidArgument)]

def timeChecks (snapshot : TargetEvidenceSnapshot) : List Check :=
  [(snapshot.endedTsc != 0 && snapshot.endedTsc < snapshot.startedTsc, .TimestampInvalid),
    (isPass snapshot && snapshot.stage != TargetEvidenceStage.Inventory.word &&
      snapshot.generation == 0, .GenerationMismatch)]

def artifactChecks (snapshot : TargetEvidenceSnapshot) : List Check :=
  let artifacts := hasFlag snapshot kTargetEvidenceSnapshotFlagArtifacts
  let sourceClean := hasFlag snapshot kTargetEvidenceSnapshotFlagSourceClean
  [(artifacts != (snapshot.artifactCount != 0), .ArtifactEvidenceMissing),
    (artifacts && !isDigestNonZero snapshot.artifactHash, .ArtifactEvidenceMissing),
    (!artifacts && isDigestNonZero snapshot.artifactHash, .InvalidArgument),
    (isRequiredForPass snapshot kTargetEvidenceFlagArtifactsVerified && !artifacts,
      .ArtifactEvidenceMissing),
    (sourceClean && !isDigestNonZero snapshot.buildId, .ArtifactEvidenceMissing),
    (!sourceClean && isDigestNonZero snapshot.buildId, .InvalidArgument),
    (isRequiredForPass snapshot kTargetEvidenceFlagSourceClean && !sourceClean,
      .ArtifactEvidenceMissing)]

def signatureChecks (snapshot : TargetEvidenceSnapshot) : List Check :=
  let signature := hasFlag snapshot kTargetEvidenceSnapshotFlagSignature
  [(signature && !isTargetEvidenceSignatureResultValid snapshot.signature,
      .SignatureEvidenceMissing),
    (!signature && snapshot.signature != .zero, .InvalidArgument),
    (signature && !isDigestNonZero snapshot.manifestHash, .SignatureEvidenceMissing),
    (!signature && isDigestNonZero snapshot.manifestHash, .InvalidArgument),
    (isRequiredForPass snapshot kTargetEvidenceFlagSignatureVerified && !signature,
      .SignatureEvidenceMissing)]

def coverageChecks (snapshot : TargetEvidenceSnapshot) : List Check :=
  let has := hasFlag snapshot
  let hardware := has kTargetEvidenceSnapshotFlagHardwareEvidence
  [(hardware && !isDigestNonZero snapshot.machineId, .ArtifactEvidenceMissing),
    (!hardware && isDigestNonZero snapshot.machineId, .InvalidArgument),
    (has kTargetEvidenceSnapshotFlagCpuMatrix && !isDigestNonZero snapshot.capabilityHash,
      .CpuEvidenceInvalid),
    (!has kTargetEvidenceSnapshotFlagCpuMatrix && isDigestNonZero snapshot.capabilityHash,
      .InvalidArgument),
    (has kTargetEvidenceSnapshotFlagNoCriticalFaults && snapshot.errorCount != 0,
      .CoverageIncomplete),
    (has kTargetEvidenceSnapshotFlagWarningsClear && snapshot.warningCount != 0,
      .CoverageIncomplete),
    (has kTargetEvidenceSnapshotFlagDeviceProfiles &&
      (!hardware || !isCapabilityComplete snapshot), .CoverageIncomplete),
    (has kTargetEvidenceSnapshotFlagPerformance &&
      (!has kTargetEvidenceSnapshotFlagTimeSynchronized ||
        !has kTargetEvidenceSnapshotFlagTelemetry), .CoverageIncomplete)]

/-- What a snapshot with the verdict `Pass` has to have at its stage. -/
def requiredChecks (snapshot : TargetEvidenceSnapshot) : List Check :=
  let has := hasFlag snapshot
  let required := isRequiredForPass snapshot
  [(required kTargetEvidenceFlagCapabilityComplete && !isCapabilityComplete snapshot,
      .CoverageIncomplete),
    (required kTargetEvidenceFlagHardwareTarget &&
      !has kTargetEvidenceSnapshotFlagHardwareEvidence, .CoverageIncomplete),
    (required kTargetEvidenceFlagOwnerVerified &&
      (!has kTargetEvidenceSnapshotFlagOwnerObservation ||
        !isOwnerActionForProfile snapshot.profile snapshot.ownerGate), .OwnerEvidenceInvalid),
    (required kTargetEvidenceFlagRecoveryReady && !has kTargetEvidenceSnapshotFlagRecoveryReady,
      .CoverageIncomplete),
    (required kTargetEvidenceFlagTimeSynchronized &&
      !has kTargetEvidenceSnapshotFlagTimeSynchronized, .CoverageIncomplete),
    (required kTargetEvidenceFlagTelemetryComplete && !has kTargetEvidenceSnapshotFlagTelemetry,
      .CoverageIncomplete),
    (required kTargetEvidenceFlagNoCriticalFaults &&
      !has kTargetEvidenceSnapshotFlagNoCriticalFaults, .CoverageIncomplete),
    (required kTargetEvidenceFlagDeviceProfilesVerified &&
      !has kTargetEvidenceSnapshotFlagDeviceProfiles, .CoverageIncomplete),
    (required kTargetEvidenceFlagPerformanceComparable &&
      !has kTargetEvidenceSnapshotFlagPerformance, .CoverageIncomplete),
    (required kTargetEvidenceFlagWarningsClear && !has kTargetEvidenceSnapshotFlagWarningsClear,
      .CoverageIncomplete)]

/-- Every check of the validator, in order. -/
def checks (snapshot : TargetEvidenceSnapshot) (cpuSamples : Samples CpuMatrixSample)
    (vmxSamples : Samples VmxCapabilitySample) : List Check :=
  headerChecks snapshot ++ cpuChecks snapshot cpuSamples ++ vmxChecks snapshot vmxSamples ++
    ownerChecks snapshot ++ timeChecks snapshot ++ artifactChecks snapshot ++
    signatureChecks snapshot ++ coverageChecks snapshot ++ requiredChecks snapshot

end Snapshot

open Snapshot

def validateTargetEvidenceSnapshot (snapshot : Option TargetEvidenceSnapshot)
    (cpuSamples : Samples CpuMatrixSample) (vmxSamples : Samples VmxCapabilitySample) :
    TargetEvidenceSnapshotStatus :=
  match snapshot with
  | none => .InvalidArgument
  | some snapshot => FirstFailure.verdict .Success (checks snapshot cpuSamples vmxSamples)

def isTargetEvidenceSnapshotValid (snapshot : Option TargetEvidenceSnapshot)
    (cpuSamples : Samples CpuMatrixSample) (vmxSamples : Samples VmxCapabilitySample) : Bool :=
  validateTargetEvidenceSnapshot snapshot cpuSamples vmxSamples == .Success

def isTargetEvidenceSnapshotResultValid (result : TargetEvidenceSnapshotResult) : Bool :=
  if !Snapshot.isVersionedSizeValid result.version result.size
        sizeofTargetEvidenceSnapshotResult ||
      TargetEvidenceSnapshotStatus.WriterRejected.word < result.status ||
      TargetEvidenceReason.OwnerStateInvalid.word < result.reason ||
      TargetEvidenceWriterStatus.GenerationInvalid.word < result.writerStatus ||
      result.reserved != 0 then
    false
  else if result.status == TargetEvidenceSnapshotStatus.Success.word then
    result.reason == TargetEvidenceReason.None.word &&
      result.writerStatus == TargetEvidenceWriterStatus.Success.word &&
      isTargetEvidenceManifestValid result.manifest
  else if result.reason == TargetEvidenceReason.None.word ||
      result.writerStatus == TargetEvidenceWriterStatus.Success.word then
    false
  else result.manifest == .zero || isTargetEvidenceManifestValid result.manifest

namespace Snapshot

def initializeResult : TargetEvidenceSnapshotResult where
  size := sizeofTargetEvidenceSnapshotResult
  version := kTargetEvidenceSnapshotContractVersion
  status := TargetEvidenceSnapshotStatus.InvalidArgument.word
  reason := TargetEvidenceReason.InvalidRequest.word
  writerStatus := TargetEvidenceWriterStatus.InvalidArgument.word
  reserved := 0
  manifest := .zero

/-- `SetFailure` on a result that has been initialized. -/
def setFailure (status : TargetEvidenceSnapshotStatus) (reason : TargetEvidenceReason) :
    TargetEvidenceSnapshotResult :=
  { initializeResult with
    status := status.word
    reason := reason.word
    writerStatus := TargetEvidenceWriterStatus.InvalidArgument.word }

def reasonForStatus : TargetEvidenceSnapshotStatus → TargetEvidenceReason
  | .CpuEvidenceInvalid | .VmxEvidenceInvalid | .CoverageIncomplete => .CapabilityIncomplete
  | .OwnerEvidenceInvalid => .OwnerUnverified
  | .GenerationMismatch => .GenerationMismatch
  | .ProfileMismatch => .ProfileMismatch
  | .TimestampInvalid => .TimeUnsynchronized
  | .ArtifactEvidenceMissing => .ArtifactsUnverified
  | .SignatureEvidenceMissing => .SignatureUnverified
  | _ => .InvalidRequest

/-- The signature that goes to the writer: a blank one if the snapshot has
none. -/
def writerSignature (snapshot : TargetEvidenceSnapshot) : TargetEvidenceSignatureResult :=
  if !hasFlag snapshot kTargetEvidenceSnapshotFlagSignature then
    { TargetEvidenceSignatureResult.zero with
      size := sizeofTargetEvidenceSignatureResult
      version := kTargetEvidenceSignatureContractVersion
      status := TargetEvidenceSignatureStatus.InvalidArgument.word }
  else snapshot.signature

def writerRequest (snapshot : TargetEvidenceSnapshot) : TargetEvidenceManifestWriteRequest :=
  let has := hasFlag snapshot
  { size := sizeofTargetEvidenceManifestWriteRequest
    version := kTargetEvidenceWriterContractVersion
    flags :=
      flagsIf (has kTargetEvidenceSnapshotFlagSynthetic) kTargetEvidenceWriterFlagAllowSynthetic |||
        flagsIf (has kTargetEvidenceSnapshotFlagHardwareEvidence)
          kTargetEvidenceWriterFlagHardwareEvidence |||
        flagsIf (has kTargetEvidenceSnapshotFlagSourceClean)
          kTargetEvidenceWriterFlagSourceCleanObserved |||
        flagsIf (has kTargetEvidenceSnapshotFlagSignature)
          kTargetEvidenceWriterFlagCommitSignature |||
        flagsIf (has kTargetEvidenceSnapshotFlagAllowPrivateTestRoot)
          kTargetEvidenceWriterFlagAllowPrivateTestRoot
    reserved := 0
    candidate := makeManifest snapshot
    signature := writerSignature snapshot }

/-- The part behind the validation: the manifest is made and handed to the
writer. -/
def forwardToWriter (snapshot : TargetEvidenceSnapshot) : Bool × TargetEvidenceSnapshotResult :=
  if !isTargetEvidenceManifestValid (makeManifest snapshot) then
    (false, setFailure .WriterRejected .InvalidManifest)
  else
    let written := buildTargetEvidenceManifest (writerRequest snapshot)
    if !written.1 || !isTargetEvidenceManifestWriteResultValid written.2 then
      (false, setFailure .WriterRejected .InvalidRequest)
    else
      let result := { initializeResult with
        manifest := written.2.manifest
        writerStatus := written.2.status }
      if written.2.status != TargetEvidenceWriterStatus.Success.word then
        (true, { result with
          status := TargetEvidenceSnapshotStatus.WriterRejected.word
          reason := written.2.reason })
      else
        (true, { result with
          status := TargetEvidenceSnapshotStatus.Success.word
          reason := TargetEvidenceReason.None.word })

end Snapshot

/-- Whether a manifest was materialized, and what is left in the result. -/
def buildTargetEvidenceManifestFromSnapshot (snapshot : Option TargetEvidenceSnapshot)
    (cpuSamples : Samples CpuMatrixSample) (vmxSamples : Samples VmxCapabilitySample) :
    Bool × TargetEvidenceSnapshotResult :=
  match snapshot, validateTargetEvidenceSnapshot snapshot cpuSamples vmxSamples with
  | some snapshot, .Success => forwardToWriter snapshot
  | _, validation => (false, Snapshot.setFailure validation (reasonForStatus validation))

def kTargetEvidenceSnapshotGateContractVersion : U32 := 1

inductive TargetEvidenceSnapshotGateStatus
  | Success | InvalidArgument | SnapshotInvalid | ManifestInvalid | GateBlocked | GateInvalid
  deriving DecidableEq, Repr

def TargetEvidenceSnapshotGateStatus.word : TargetEvidenceSnapshotGateStatus → U32
  | .Success => 0
  | .InvalidArgument => 1
  | .SnapshotInvalid => 2
  | .ManifestInvalid => 3
  | .GateBlocked => 4
  | .GateInvalid => 5

def sizeofTargetEvidenceSnapshotGateResult : U32 := 320

structure TargetEvidenceSnapshotGateResult where
  size : U32
  version : U32
  status : U32
  snapshotStatus : U32
  reserved0 : U32
  reserved1 : U32
  gate : TargetEvidenceGateResult
  manifest : TargetEvidenceManifest

namespace SnapshotGate

def initializeResult : TargetEvidenceSnapshotGateResult where
  size := sizeofTargetEvidenceSnapshotGateResult
  version := kTargetEvidenceSnapshotGateContractVersion
  status := TargetEvidenceSnapshotGateStatus.InvalidArgument.word
  snapshotStatus := TargetEvidenceSnapshotStatus.InvalidArgument.word
  reserved0 := 0
  reserved1 := 0
  gate := initializeGate
  manifest := .zero

/-- The status is written to the result and returned. -/
def finish (status : TargetEvidenceSnapshotGateStatus) (result : TargetEvidenceSnapshotGateResult) :
    TargetEvidenceSnapshotGateStatus × TargetEvidenceSnapshotGateResult :=
  (status, { result with status := status.word })

/-- The gate on a manifest that the writer has accepted. -/
def gateManifest (snapshotStatus : U32) (manifest : TargetEvidenceManifest)
    (request : TargetEvidenceGateRequest) :
    TargetEvidenceSnapshotGateStatus × TargetEvidenceSnapshotGateResult :=
  let result := { initializeResult with snapshotStatus := snapshotStatus }
  if !isTargetEvidenceManifestValid manifest then finish .ManifestInvalid result
  else
    let gate := evaluateTargetEvidenceGate manifest request
    if !gate.1 || !isTargetEvidenceGateResultValid gate.2 then finish .GateInvalid result
    else
      finish (if gate.2.status == HvStatus.Success.word then .Success else .GateBlocked)
        { result with
          manifest := manifest
          gate := gate.2 }

end SnapshotGate

open SnapshotGate

def evaluateTargetEvidenceSnapshotGate (snapshot : Option TargetEvidenceSnapshot)
    (cpuSamples : Samples CpuMatrixSample) (vmxSamples : Samples VmxCapabilitySample)
    (request : Option TargetEvidenceGateRequest) :
    TargetEvidenceSnapshotGateStatus × TargetEvidenceSnapshotGateResult :=
  match request with
  | none => (.InvalidArgument, SnapshotGate.initializeResult)
  | some request =>
    if !isTargetEvidenceGateRequestValid request then
      (.InvalidArgument, SnapshotGate.initializeResult)
    else
      let built := buildTargetEvidenceManifestFromSnapshot snapshot cpuSamples vmxSamples
      if !isTargetEvidenceSnapshotResultValid built.2 then
        finish .ManifestInvalid SnapshotGate.initializeResult
      else if !built.1 || built.2.status != TargetEvidenceSnapshotStatus.Success.word then
        finish
          (if built.2.status != TargetEvidenceSnapshotStatus.WriterRejected.word then
            .SnapshotInvalid
          else .ManifestInvalid)
          { SnapshotGate.initializeResult with snapshotStatus := built.2.status }
      else gateManifest built.2.status built.2.manifest request

def isTargetEvidenceSnapshotGateResultValid (result : TargetEvidenceSnapshotGateResult) : Bool :=
  if !versionedSizeValid kTargetEvidenceSnapshotGateContractVersion
        kTargetEvidenceSnapshotMaxStructSize result.version result.size
        sizeofTargetEvidenceSnapshotGateResult ||
      TargetEvidenceSnapshotGateStatus.GateInvalid.word < result.status ||
      TargetEvidenceSnapshotStatus.WriterRejected.word < result.snapshotStatus ||
      result.reserved0 != 0 || result.reserved1 != 0 ||
      !isTargetEvidenceGateResultValid result.gate then
    false
  else
    let gateSuccess := result.gate.status == HvStatus.Success.word
    let manifestValid := isTargetEvidenceManifestValid result.manifest
    let manifestZero := result.manifest == .zero
    let snapshotSuccess := result.snapshotStatus == TargetEvidenceSnapshotStatus.Success.word
    if result.status == TargetEvidenceSnapshotGateStatus.Success.word then
      snapshotSuccess && gateSuccess && manifestValid
    else if result.status == TargetEvidenceSnapshotGateStatus.GateBlocked.word then
      snapshotSuccess && !gateSuccess && manifestValid
    else if result.status == TargetEvidenceSnapshotGateStatus.SnapshotInvalid.word then
      !snapshotSuccess && !gateSuccess && manifestZero
    else !gateSuccess && manifestZero

end Knhv.Evidence
