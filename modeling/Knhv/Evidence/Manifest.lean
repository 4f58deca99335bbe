import Mathlib.Data.Fintype.Pi
import Mathlib.Data.List.FinRange
import Knhv.Owner.Model

namespace Knhv.Evidence

open Knhv.Matrix

def kTargetEvidenceContractVersion : U32 := 1
def kTargetEvidenceMaxStructSize : U32 := 4096
def kTargetEvidenceMaxProcessors : U32 := 4096
def kTargetEvidenceMaxArtifacts : U32 := 65535

inductive TargetEvidenceProfile
  | Unknown | NativeIntelL0 | WhpManaged | ExternalL0 | SyntheticLab
  deriving DecidableEq, Repr

inductive TargetEvidenceStage
  | Inventory | Preflight | Capability | Boot | Nested | Device | Performance | Reliability
  | Release
  deriving DecidableEq, Repr

inductive TargetEvidenceVerdict
  | NotStarted | Ready | Running | Pass | Fail | Blocked | NotRun | RolledBack | NotComparable
  deriving DecidableEq, Repr

inductive TargetEvidenceReason
  | None | InvalidManifest | InvalidRequest | ProfileMismatch | StageIncomplete | VerdictNotPass
  | GenerationMismatch | MissingFlags | OwnerUnverified | CapabilityIncomplete
  | ArtifactsUnverified | SignatureUnverified | TimeUnsynchronized | TelemetryIncomplete
  | RecoveryUnavailable | CriticalFault | CpuIncomplete | HashMissing | DeviceProfileMissing
  | PerformanceNotComparable | SourceDirty | WarningsPresent | OwnerStateInvalid
  deriving DecidableEq, Repr

def TargetEvidenceProfile.word : TargetEvidenceProfile → U32
  | .Unknown => 0
  | .NativeIntelL0 => 1
  | .WhpManaged => 2
  | .ExternalL0 => 3
  | .SyntheticLab => 4

def TargetEvidenceStage.word : TargetEvidenceStage → U32
  | .Inventory => 0
  | .Preflight => 1
  | .Capability => 2
  | .Boot => 3
  | .Nested => 4
  | .Device => 5
  | .Performance => 6
  | .Reliability => 7
  | .Release => 8

def TargetEvidenceVerdict.word : TargetEvidenceVerdict → U32
  | .NotStarted => 0
  | .Ready => 1
  | .Running => 2
  | .Pass => 3
  | .Fail => 4
  | .Blocked => 5
  | .NotRun => 6
  | .RolledBack => 7
  | .NotComparable => 8

def TargetEvidenceReason.word : TargetEvidenceReason → U32
  | .None => 0
  | .InvalidManifest => 1
  | .InvalidRequest => 2
  | .ProfileMismatch => 3
  | .StageIncomplete => 4
  | .VerdictNotPass => 5
  | .GenerationMismatch => 6
  | .MissingFlags => 7
  | .OwnerUnverified => 8
  | .CapabilityIncomplete => 9
  | .ArtifactsUnverified => 10
  | .SignatureUnverified => 11
  | .TimeUnsynchronized => 12
  | .TelemetryIncomplete => 13
  | .RecoveryUnavailable => 14
  | .CriticalFault => 15
  | .CpuIncomplete => 16
  | .HashMissing => 17
  | .DeviceProfileMissing => 18
  | .PerformanceNotComparable => 19
  | .SourceDirty => 20
  | .WarningsPresent => 21
  | .OwnerStateInvalid => 22

def kTargetEvidenceFlagSourceClean : U32 := 1 <<< 0
def kTargetEvidenceFlagArtifactsVerified : U32 := 1 <<< 1
def kTargetEvidenceFlagSignatureVerified : U32 := 1 <<< 2
def kTargetEvidenceFlagPdbMatched : U32 := 1 <<< 3
def kTargetEvidenceFlagCapabilityComplete : U32 := 1 <<< 4
def kTargetEvidenceFlagOwnerVerified : U32 := 1 <<< 5
def kTargetEvidenceFlagTimeSynchronized : U32 := 1 <<< 6
def kTargetEvidenceFlagTelemetryComplete : U32 := 1 <<< 7
def kTargetEvidenceFlagRecoveryReady : U32 := 1 <<< 8
def kTargetEvidenceFlagNoCriticalFaults : U32 := 1 <<< 9
def kTargetEvidenceFlagHardwareTarget : U32 := 1 <<< 10
def kTargetEvidenceFlagKdConnected : U32 := 1 <<< 11
def kTargetEvidenceFlagDeviceProfilesVerified : U32 := 1 <<< 12
def kTargetEvidenceFlagPerformanceComparable : U32 := 1 <<< 13
def kTargetEvidenceFlagWarningsClear : U32 := 1 <<< 14
def kTargetEvidenceKnownFlagMask : U32 := (1 <<< 15) - 1

/-- A digest of 32 bytes. -/
abbrev Digest := Fin 32 → U8

def Digest.zero : Digest := fun _ => 0

def sizeofTargetEvidenceManifest : U32 := 256
def sizeofTargetEvidenceGateRequest : U32 := 32
def sizeofTargetEvidenceGateResult : U32 := 40

structure TargetEvidenceManifest where
  size : U32
  version : U32
  profile : U32
  stage : U32
  verdict : U32
  flags : U32
  ownerKind : U32
  ownerState : U32
  cpuCount : U32
  cpuValidCount : U32
  artifactCount : U32
  warningCount : U32
  errorCount : U32
  reserved0 : U32
  generation : U64
  startedTsc : U64
  endedTsc : U64
  machineId : Digest
  buildId : Digest
  artifactHash : Digest
  capabilityHash : Digest
  manifestHash : Digest
  reserved : Fin 4 → U32
  deriving DecidableEq

def TargetEvidenceManifest.zero : TargetEvidenceManifest :=
  ⟨0, 0, 0, 0, 0, 0, 0, 0, 0, 0, 0, 0, 0, 0, 0, 0, 0, .zero, .zero, .zero, .zero, .zero, fun _ => 0⟩

structure TargetEvidenceGateRequest where
  size : U32
  version : U32
  profile : U32
  minimumStage : U32
  requiredFlags : U32
  reserved : U32
  expectedGeneration : U64
  deriving DecidableEq

structure TargetEvidenceGateResult where
  size : U32
  version : U32
  status : U32
  reason : U32
  missingFlags : U32
  observedFlags : U32
  reserved : U32
  generation : U64
  deriving DecidableEq

def isVersionedSizeValid : U32 → U32 → U32 → Bool :=
  versionedSizeValid kTargetEvidenceContractVersion kTargetEvidenceMaxStructSize

def isProfileValid (value : U32) : Bool :=
  TargetEvidenceProfile.NativeIntelL0.word ≤ value &&
    value ≤ TargetEvidenceProfile.SyntheticLab.word

def isStageValid (value : U32) : Bool := value ≤ TargetEvidenceStage.Release.word

def isVerdictValid (value : U32) : Bool := value ≤ TargetEvidenceVerdict.NotComparable.word

def isOwnerValid (value : U32) : Bool := value ≤ HvOwnerKindV2.SyntheticLab.word

def isProviderStateValid (value : U32) : Bool := value ≤ HvProviderStateV2.Quarantined.word

def isStatusValid (status : U32) : Bool := status ≤ HvStatus.Busy.word

def isReasonValid (value : U32) : Bool := value ≤ TargetEvidenceReason.OwnerStateInvalid.word

def isDigestNonZero (digest : Digest) : Bool :=
  (List.finRange 32).any fun index => digest index != 0

def isStageAtLeast (stage : U32) (minimum : TargetEvidenceStage) : Bool := minimum.word ≤ stage

/-- The profile is the word of the record. -/
def isOwnerStateUsable (profile owner state : U32) : Bool :=
  if profile == TargetEvidenceProfile.NativeIntelL0.word then
    owner == HvOwnerKindV2.KnhvBootL0.word && state == HvProviderStateV2.Active.word
  else if profile == TargetEvidenceProfile.WhpManaged.word then
    owner == HvOwnerKindV2.WhpManaged.word &&
      (state == HvProviderStateV2.Available.word || state == HvProviderStateV2.Active.word)
  else if profile == TargetEvidenceProfile.ExternalL0.word then
    owner == HvOwnerKindV2.ExternalL0.word && state != HvProviderStateV2.Unknown.word &&
      state != HvProviderStateV2.Blocked.word && state != HvProviderStateV2.Quarantined.word
  else if profile == TargetEvidenceProfile.SyntheticLab.word then
    owner == HvOwnerKindV2.SyntheticLab.word &&
      (state == HvProviderStateV2.Available.word || state == HvProviderStateV2.Active.word)
  else false

def initializeGate : TargetEvidenceGateResult where
  size := sizeofTargetEvidenceGateResult
  version := kTargetEvidenceContractVersion
  status := HvStatus.InvalidParameter.word
  reason := TargetEvidenceReason.InvalidRequest.word
  missingFlags := 0
  observedFlags := 0
  reserved := 0
  generation := 0

/-- `SetResult` on a gate result that has been initialized. -/
def setGate (manifest : TargetEvidenceManifest) (status : HvStatus) (reason : TargetEvidenceReason)
    (missingFlags : U32) : TargetEvidenceGateResult :=
  { initializeGate with
    status := status.word
    reason := reason.word
    missingFlags := missingFlags
    observedFlags := manifest.flags
    generation := manifest.generation }

def missingReason (missingFlags : U32) : TargetEvidenceReason :=
  let missing (flag : U32) : Bool := missingFlags &&& flag != 0
  if missing kTargetEvidenceFlagSourceClean then .SourceDirty
  else if missing kTargetEvidenceFlagArtifactsVerified || missing kTargetEvidenceFlagPdbMatched then
    .ArtifactsUnverified
  else if missing kTargetEvidenceFlagSignatureVerified then .SignatureUnverified
  else if missing kTargetEvidenceFlagCapabilityComplete then .CapabilityIncomplete
  else if missing kTargetEvidenceFlagOwnerVerified then .OwnerUnverified
  else if missing kTargetEvidenceFlagTimeSynchronized then .TimeUnsynchronized
  else if missing kTargetEvidenceFlagTelemetryComplete then .TelemetryIncomplete
  else if missing kTargetEvidenceFlagRecoveryReady then .RecoveryUnavailable
  else if missing kTargetEvidenceFlagNoCriticalFaults then .CriticalFault
  else if missing kTargetEvidenceFlagHardwareTarget || missing kTargetEvidenceFlagKdConnected then
    .CapabilityIncomplete
  else if missing kTargetEvidenceFlagDeviceProfilesVerified then .DeviceProfileMissing
  else if missing kTargetEvidenceFlagPerformanceComparable then .PerformanceNotComparable
  else if missing kTargetEvidenceFlagWarningsClear then .WarningsPresent
  else .MissingFlags

def statusForVerdict (verdict : U32) : HvStatus :=
  if verdict == TargetEvidenceVerdict.RolledBack.word then .RecoveryRequired
  else if verdict == TargetEvidenceVerdict.Blocked.word then .HardwareOwnerConflict
  else if verdict == TargetEvidenceVerdict.Fail.word then .CapabilityMismatch
  else if verdict == TargetEvidenceVerdict.NotComparable.word then .CapabilityMismatch
  else if verdict == TargetEvidenceVerdict.Ready.word ||
      verdict == TargetEvidenceVerdict.Running.word then
    .Busy
  else .NestedUnavailable

/-- The fields of a manifest are in range. -/
def manifestInRange (manifest : TargetEvidenceManifest) : Bool :=
  !(!isVersionedSizeValid manifest.version manifest.size sizeofTargetEvidenceManifest ||
    !isProfileValid manifest.profile || !isStageValid manifest.stage ||
    !isVerdictValid manifest.verdict || !isOwnerValid manifest.ownerKind ||
    !isProviderStateValid manifest.ownerState ||
    manifest.flags &&& ~~~kTargetEvidenceKnownFlagMask != 0 || manifest.reserved0 != 0 ||
    manifest.reserved 0 != 0 || manifest.reserved 1 != 0 || manifest.reserved 2 != 0 ||
    manifest.reserved 3 != 0 || kTargetEvidenceMaxProcessors < manifest.cpuCount ||
    manifest.cpuCount < manifest.cpuValidCount ||
    kTargetEvidenceMaxArtifacts < manifest.artifactCount ||
    (manifest.endedTsc != 0 && manifest.endedTsc < manifest.startedTsc))

def isTargetEvidenceManifestValid (manifest : TargetEvidenceManifest) : Bool :=
  let has (flag : U32) : Bool := manifest.flags &&& flag != 0
  if !manifestInRange manifest then false
  else if has kTargetEvidenceFlagPdbMatched && !has kTargetEvidenceFlagArtifactsVerified then false
  else if has kTargetEvidenceFlagArtifactsVerified &&
      (manifest.artifactCount == 0 || !isDigestNonZero manifest.artifactHash) then
    false
  else if has kTargetEvidenceFlagCapabilityComplete &&
      (manifest.cpuCount == 0 || manifest.cpuValidCount != manifest.cpuCount ||
        !isDigestNonZero manifest.capabilityHash) then
    false
  else if has kTargetEvidenceFlagOwnerVerified &&
      (!isOwnerStateUsable manifest.profile manifest.ownerKind manifest.ownerState ||
        manifest.generation == 0) then
    false
  else if has kTargetEvidenceFlagSignatureVerified && !isDigestNonZero manifest.manifestHash then
    false
  else if has kTargetEvidenceFlagSourceClean && !isDigestNonZero manifest.buildId then false
  else if has kTargetEvidenceFlagHardwareTarget && !isDigestNonZero manifest.machineId then false
  else if has kTargetEvidenceFlagDeviceProfilesVerified &&
      (!has kTargetEvidenceFlagHardwareTarget || !has kTargetEvidenceFlagCapabilityComplete) then
    false
  else if has kTargetEvidenceFlagPerformanceComparable &&
      (!has kTargetEvidenceFlagTimeSynchronized || !has kTargetEvidenceFlagTelemetryComplete) then
    false
  else if has kTargetEvidenceFlagWarningsClear && manifest.warningCount != 0 then false
  else if has kTargetEvidenceFlagNoCriticalFaults && manifest.errorCount != 0 then false
  else if manifest.verdict == TargetEvidenceVerdict.Pass.word && manifest.errorCount != 0 then false
  else if manifest.ownerKind == HvOwnerKindV2.Unknown.word &&
      manifest.ownerState != HvProviderStateV2.Unknown.word then
    false
  else
    !(manifest.stage != TargetEvidenceStage.Inventory.word &&
      manifest.verdict == TargetEvidenceVerdict.Pass.word && manifest.generation == 0)

def isTargetEvidenceGateRequestValid (request : TargetEvidenceGateRequest) : Bool :=
  isVersionedSizeValid request.version request.size sizeofTargetEvidenceGateRequest &&
    isProfileValid request.profile && isStageValid request.minimumStage &&
    request.requiredFlags &&& ~~~kTargetEvidenceKnownFlagMask == 0 && request.reserved == 0

def isTargetEvidenceGateResultValid (result : TargetEvidenceGateResult) : Bool :=
  if !isVersionedSizeValid result.version result.size sizeofTargetEvidenceGateResult ||
      !isStatusValid result.status || !isReasonValid result.reason ||
      result.missingFlags &&& ~~~kTargetEvidenceKnownFlagMask != 0 ||
      result.observedFlags &&& ~~~kTargetEvidenceKnownFlagMask != 0 || result.reserved != 0 then
    false
  else if result.status == HvStatus.Success.word then
    result.reason == TargetEvidenceReason.None.word && result.missingFlags == 0 &&
      result.generation != 0
  else result.reason != TargetEvidenceReason.None.word

/-- The flags of a stage, if it is reached. -/
def flagsFrom (stage : U32) (minimum : TargetEvidenceStage) (flags : U32) : U32 :=
  if isStageAtLeast stage minimum then flags else 0

def requiredTargetEvidenceFlags (profile stage : U32) : U32 :=
  if !isProfileValid profile || !isStageValid stage then 0
  else if stage == TargetEvidenceStage.Inventory.word ||
      stage == TargetEvidenceStage.Preflight.word then
    0
  else
    let native := profile == TargetEvidenceProfile.NativeIntelL0.word
    (if native then kTargetEvidenceFlagCapabilityComplete ||| kTargetEvidenceFlagHardwareTarget
      else if profile == TargetEvidenceProfile.WhpManaged.word then
        kTargetEvidenceFlagCapabilityComplete
      else kTargetEvidenceFlagOwnerVerified) |||
    flagsFrom stage .Boot
      (kTargetEvidenceFlagOwnerVerified ||| kTargetEvidenceFlagRecoveryReady |||
        if native then kTargetEvidenceFlagKdConnected else 0) |||
    flagsFrom stage .Nested
      (kTargetEvidenceFlagTimeSynchronized ||| kTargetEvidenceFlagTelemetryComplete |||
        kTargetEvidenceFlagNoCriticalFaults) |||
    flagsFrom stage .Boot
      (kTargetEvidenceFlagArtifactsVerified ||| kTargetEvidenceFlagPdbMatched) |||
    flagsFrom stage .Device (if native then kTargetEvidenceFlagDeviceProfilesVerified else 0) |||
    flagsFrom stage .Performance kTargetEvidenceFlagPerformanceComparable |||
    flagsFrom stage .Release
      (kTargetEvidenceFlagSourceClean ||| kTargetEvidenceFlagSignatureVerified |||
        kTargetEvidenceFlagWarningsClear)

/-- The flags that the request asks for: its own, or those of its stage. -/
def gateRequiredFlags (request : TargetEvidenceGateRequest) : U32 :=
  if request.requiredFlags != 0 then request.requiredFlags
  else requiredTargetEvidenceFlags request.profile request.minimumStage

/-- The decision on a manifest and a request that are valid. -/
def decideGate (manifest : TargetEvidenceManifest) (request : TargetEvidenceGateRequest) :
    TargetEvidenceGateResult :=
  if manifest.profile != request.profile then
    setGate manifest .IncompatibleProvider .ProfileMismatch 0
  else if manifest.stage < request.minimumStage then
    setGate manifest .CapabilityMismatch .StageIncomplete 0
  else if request.expectedGeneration != 0 && request.expectedGeneration != manifest.generation then
    setGate manifest .BootHandoffFailed .GenerationMismatch 0
  else if manifest.verdict != TargetEvidenceVerdict.Pass.word then
    setGate manifest (statusForVerdict manifest.verdict)
      (if manifest.verdict == TargetEvidenceVerdict.NotComparable.word then
        .PerformanceNotComparable
      else .VerdictNotPass) 0
  else
    let requiredFlags := gateRequiredFlags request
    let missingFlags := requiredFlags &&& ~~~manifest.flags
    if missingFlags != 0 then
      setGate manifest .CapabilityMismatch (missingReason missingFlags) missingFlags
    else if requiredFlags &&& kTargetEvidenceFlagOwnerVerified != 0 &&
        !isOwnerStateUsable request.profile manifest.ownerKind manifest.ownerState then
      setGate manifest .HardwareOwnerConflict .OwnerStateInvalid 0
    else if manifest.generation == 0 then
      setGate manifest .BootHandoffFailed .GenerationMismatch 0
    else setGate manifest .Success .None 0

/-- Whether the gate could be evaluated, and what is left in the result. -/
def evaluateTargetEvidenceGate (manifest : TargetEvidenceManifest)
    (request : TargetEvidenceGateRequest) : Bool × TargetEvidenceGateResult :=
  if !isTargetEvidenceGateRequestValid request then (false, initializeGate)
  else if !isTargetEvidenceManifestValid manifest then
    (false, { initializeGate with reason := TargetEvidenceReason.InvalidManifest.word })
  else (true, decideGate manifest request)

end Knhv.Evidence
