import Mathlib.Data.Fintype.Pi
import Knhv.Evidence.Validation
import Knhv.Lib.Masks

namespace Knhv.Evidence

open Knhv.Matrix Owner Snapshot

variable {snapshot : TargetEvidenceSnapshot} {cpuSamples : Samples CpuMatrixSample}
  {vmxSamples : Samples VmxCapabilitySample}

/-- The parts of the manifest's flags. -/
def manifestParts (snapshot : TargetEvidenceSnapshot) : List (Bool × U32) :=
  let has := hasFlag snapshot
  [(has kTargetEvidenceSnapshotFlagArtifacts,
      kTargetEvidenceFlagArtifactsVerified ||| kTargetEvidenceFlagPdbMatched),
    (has kTargetEvidenceSnapshotFlagSourceClean, kTargetEvidenceFlagSourceClean),
    (has kTargetEvidenceSnapshotFlagSignature, kTargetEvidenceFlagSignatureVerified),
    (isCapabilityComplete snapshot, kTargetEvidenceFlagCapabilityComplete),
    (has kTargetEvidenceSnapshotFlagHardwareEvidence, kTargetEvidenceFlagHardwareTarget),
    (isOwnerEvidencePresent snapshot &&
      isOwnerActionForProfile snapshot.profile snapshot.ownerGate,
      kTargetEvidenceFlagOwnerVerified),
    (has kTargetEvidenceSnapshotFlagTimeSynchronized, kTargetEvidenceFlagTimeSynchronized),
    (has kTargetEvidenceSnapshotFlagTelemetry, kTargetEvidenceFlagTelemetryComplete),
    (has kTargetEvidenceSnapshotFlagRecoveryReady, kTargetEvidenceFlagRecoveryReady),
    (has kTargetEvidenceSnapshotFlagNoCriticalFaults, kTargetEvidenceFlagNoCriticalFaults),
    (has kTargetEvidenceSnapshotFlagKdConnected, kTargetEvidenceFlagKdConnected),
    (has kTargetEvidenceSnapshotFlagDeviceProfiles, kTargetEvidenceFlagDeviceProfilesVerified),
    (has kTargetEvidenceSnapshotFlagPerformance, kTargetEvidenceFlagPerformanceComparable),
    (has kTargetEvidenceSnapshotFlagWarningsClear, kTargetEvidenceFlagWarningsClear)]

theorem buildManifestFlags_eq (snapshot : TargetEvidenceSnapshot) :
    buildManifestFlags snapshot = Masks.gather (manifestParts snapshot) := by
  have zero : (0 : U32) = 0#32 := rfl
  simp only [buildManifestFlags, manifestParts, Masks.gather, flagsIf, zero, BitVec.or_assoc,
    BitVec.or_zero]

theorem profile_named {profile : U32} (valid : isProfileValid profile = true) :
    ∃ named : TargetEvidenceProfile, profile = named.word := by
  simp only [isProfileValid, Bool.and_eq_true, decide_eq_true_eq, BitVec.le_def] at valid
  have lower : 1 ≤ profile.toNat := valid.1
  have upper : profile.toNat ≤ 4 := valid.2
  have cases : profile.toNat = 1 ∨ profile.toNat = 2 ∨ profile.toNat = 3 ∨ profile.toNat = 4 := by
    omega
  rcases cases with value | value | value | value
  · exact ⟨.NativeIntelL0, BitVec.eq_of_toNat_eq value⟩
  · exact ⟨.WhpManaged, BitVec.eq_of_toNat_eq value⟩
  · exact ⟨.ExternalL0, BitVec.eq_of_toNat_eq value⟩
  · exact ⟨.SyntheticLab, BitVec.eq_of_toNat_eq value⟩

theorem stage_named {stage : U32} (valid : isStageValid stage = true) :
    ∃ named : TargetEvidenceStage, stage = named.word := by
  simp only [isStageValid, decide_eq_true_eq, BitVec.le_def] at valid
  have upper : stage.toNat ≤ 8 := valid
  have cases : stage.toNat = 0 ∨ stage.toNat = 1 ∨ stage.toNat = 2 ∨ stage.toNat = 3 ∨
      stage.toNat = 4 ∨ stage.toNat = 5 ∨ stage.toNat = 6 ∨ stage.toNat = 7 ∨
      stage.toNat = 8 := by
    omega
  rcases cases with value | value | value | value | value | value | value | value | value
  · exact ⟨.Inventory, BitVec.eq_of_toNat_eq value⟩
  · exact ⟨.Preflight, BitVec.eq_of_toNat_eq value⟩
  · exact ⟨.Capability, BitVec.eq_of_toNat_eq value⟩
  · exact ⟨.Boot, BitVec.eq_of_toNat_eq value⟩
  · exact ⟨.Nested, BitVec.eq_of_toNat_eq value⟩
  · exact ⟨.Device, BitVec.eq_of_toNat_eq value⟩
  · exact ⟨.Performance, BitVec.eq_of_toNat_eq value⟩
  · exact ⟨.Reliability, BitVec.eq_of_toNat_eq value⟩
  · exact ⟨.Release, BitVec.eq_of_toNat_eq value⟩

/-- What is required lies inside what a manifest can say, asks for the debug
symbols only with the artifacts, and for the debugger only of a native boot. -/
theorem required_shape (profile : TargetEvidenceProfile) (stage : TargetEvidenceStage) :
    requiredTargetEvidenceFlags profile.word stage.word &&& ~~~kTargetEvidenceKnownFlagMask = 0 ∧
      (requiredTargetEvidenceFlags profile.word stage.word &&&
          (kTargetEvidenceFlagArtifactsVerified ||| kTargetEvidenceFlagPdbMatched) ≠ 0 →
        requiredTargetEvidenceFlags profile.word stage.word &&&
          kTargetEvidenceFlagArtifactsVerified ≠ 0) ∧
      (requiredTargetEvidenceFlags profile.word stage.word &&& kTargetEvidenceFlagKdConnected ≠ 0 ↔
        profile = .NativeIntelL0 ∧ TargetEvidenceStage.Boot.word ≤ stage.word) := by
  cases profile <;> cases stage <;> decide

/-- The flags that the stage of a snapshot requires. -/
def ownRequired (snapshot : TargetEvidenceSnapshot) : U32 :=
  requiredTargetEvidenceFlags snapshot.profile snapshot.stage

/-- A check of a required flag that is clear. -/
theorem present_of_clear {flag : U32} {present : Bool} (pass : isPass snapshot = true)
    (clear : (isRequiredForPass snapshot flag && !present) = false)
    (touched : ownRequired snapshot &&& flag ≠ 0#32) : present = true := by
  have required : isRequiredForPass snapshot flag = true := by
    rw [isRequiredForPass, pass, Bool.true_and]
    exact bne_iff_ne.mpr touched
  simpa [required] using clear

theorem Accepted.shape (accepted : Accepted snapshot cpuSamples vmxSamples) :
    ∃ (profile : TargetEvidenceProfile) (stage : TargetEvidenceStage),
      snapshot.profile = profile.word ∧ snapshot.stage = stage.word := by
  have header := accepted.header
  simp only [Clear, headerChecks, List.forall_mem_cons, Bool.or_eq_false_iff,
    Bool.not_eq_false'] at header
  obtain ⟨profile, sameProfile⟩ := profile_named header.1.1.1.2
  obtain ⟨stage, sameStage⟩ := stage_named header.1.1.2
  exact ⟨profile, stage, sameProfile, sameStage⟩

/-- Every part of the manifest's flags that the stage requires is there, but
for the debugger. -/
theorem Accepted.parts_present (accepted : Accepted snapshot cpuSamples vmxSamples)
    (pass : isPass snapshot = true)
    (debugger : ownRequired snapshot &&& kTargetEvidenceFlagKdConnected ≠ 0#32 →
      hasFlag snapshot kTargetEvidenceSnapshotFlagKdConnected = true) :
    ∀ part ∈ manifestParts snapshot, ownRequired snapshot &&& part.2 ≠ 0#32 → part.1 = true := by
  obtain ⟨profile, stage, sameProfile, sameStage⟩ := accepted.shape
  have symbols := (required_shape profile stage).2.1
  rw [← sameProfile, ← sameStage] at symbols
  have artifact := accepted.artifact
  have signature := accepted.signature
  have required := accepted.required
  have owner := accepted.owner
  simp only [Clear, artifactChecks, List.forall_mem_cons] at artifact
  simp only [Clear, signatureChecks, List.forall_mem_cons] at signature
  simp only [Clear, ownerChecks, List.forall_mem_cons] at owner
  simp only [Clear, requiredChecks, List.forall_mem_cons] at required
  obtain ⟨_, _, _, artifacts, _, _, sourceClean, _⟩ := artifact
  obtain ⟨_, _, _, _, signed, _⟩ := signature
  obtain ⟨capability, hardware, owned, recovery, time, telemetry, faults, device, performance,
    warnings, _⟩ := required
  have need {flag : U32} {present : Bool}
      (clear : (isRequiredForPass snapshot flag && !present) = false) :
      ownRequired snapshot &&& flag ≠ 0#32 → present = true := present_of_clear pass clear
  simp only [manifestParts, List.forall_mem_cons]
  refine ⟨fun touched => need artifacts (symbols touched), need sourceClean, need signed,
    need capability, need hardware, need ?_, need time, need telemetry, need recovery,
    need faults, debugger, need device, need performance, need warnings, ?_⟩
  · have both := bne_eq_false_iff_eq.mp owner.1
    rw [isOwnerEvidencePresent, ← both, Bool.and_self, Bool.not_and]
    exact owned
  · exact fun part member => absurd member List.not_mem_nil

/-- The manifest of a snapshot says everything that the snapshot's own stage
requires, so that the gate does not miss any of it. -/
structure StageCovered (snapshot : TargetEvidenceSnapshot) : Prop where
  flags : ownRequired snapshot &&& ~~~buildManifestFlags snapshot = 0
  unblocked : ∀ request : TargetEvidenceGateRequest, request.profile = snapshot.profile →
    request.minimumStage = snapshot.stage → request.requiredFlags = 0 →
    (evaluateTargetEvidenceGate (makeManifest snapshot) request).2.missingFlags = 0

theorem missingFlags_eq_zero {manifest : TargetEvidenceManifest}
    {request : TargetEvidenceGateRequest}
    (covered : gateRequiredFlags request &&& ~~~manifest.flags = 0) :
    (evaluateTargetEvidenceGate manifest request).2.missingFlags = 0 := by
  have none : ¬(gateRequiredFlags request &&& ~~~manifest.flags != 0) = true := by
    rw [covered]
    decide
  unfold evaluateTargetEvidenceGate
  split
  · rfl
  split
  · rfl
  unfold decideGate
  dsimp only
  rw [if_neg none]
  repeat' split
  all_goals rfl

/-- A snapshot that is accepted with the verdict `Pass` covers its stage exactly
if it has the debugger connected where a native boot requires it: nothing else
is left unchecked. -/
theorem stage_covered_iff
    (accepted : validateTargetEvidenceSnapshot (some snapshot) cpuSamples vmxSamples = .Success)
    (pass : snapshot.verdict = TargetEvidenceVerdict.Pass.word) :
    StageCovered snapshot ↔
      (snapshot.profile = TargetEvidenceProfile.NativeIntelL0.word →
        TargetEvidenceStage.Boot.word ≤ snapshot.stage →
        hasFlag snapshot kTargetEvidenceSnapshotFlagKdConnected = true) := by
  have passed : isPass snapshot = true := beq_iff_eq.mpr pass
  have sections := validate_eq_success_iff.mp accepted
  obtain ⟨profile, stage, sameProfile, sameStage⟩ := sections.shape
  obtain ⟨known, _, debugger⟩ := required_shape profile stage
  have native : snapshot.profile = TargetEvidenceProfile.NativeIntelL0.word ↔
      profile = .NativeIntelL0 := by
    rw [sameProfile]
    clear sameProfile known debugger
    cases profile <;> decide
  rw [← sameProfile, ← sameStage] at known debugger
  rw [← native] at debugger
  constructor
  · intro covered isNative booted
    have needed := debugger.mpr ⟨isNative, booted⟩
    have there : buildManifestFlags snapshot &&& kTargetEvidenceFlagKdConnected ≠ 0#32 := by
      obtain ⟨bit, inRequired, inFlag⟩ := Masks.and_ne_zero_iff.mp needed
      have inManifest := Masks.and_not_eq_zero_iff.mp covered.flags bit inRequired
      exact Masks.and_ne_zero_iff.mpr ⟨bit, inManifest, inFlag⟩
    rw [buildManifestFlags_eq] at there
    obtain ⟨part, member, present, touches⟩ := Masks.touches_gather there
    simp only [manifestParts, List.mem_cons, List.not_mem_nil, or_false] at member
    rcases member with rfl | rfl | rfl | rfl | rfl | rfl | rfl | rfl | rfl | rfl | rfl | rfl |
      rfl | rfl
    case inr.inr.inr.inr.inr.inr.inr.inr.inr.inr.inl => exact present
    all_goals
      dsimp only at touches
      exact absurd touches (by decide)
  · intro connected
    have debuggerThere := fun needed =>
      connected (debugger.mp needed).1 (debugger.mp needed).2
    have coverable : ownRequired snapshot &&&
        ~~~Masks.gather ((manifestParts snapshot).map fun part => (true, part.2)) = 0#32 := by
      have everything : Masks.gather ((manifestParts snapshot).map fun part => (true, part.2)) =
          kTargetEvidenceKnownFlagMask := by
        simp only [manifestParts, List.map_cons, List.map_nil]
        decide
      rw [everything]
      exact known
    have flags : ownRequired snapshot &&& ~~~buildManifestFlags snapshot = 0 := by
      rw [buildManifestFlags_eq]
      exact Masks.inside_gather coverable (sections.parts_present passed debuggerThere)
    refine ⟨flags, fun request profileIs stageIs plain => missingFlags_eq_zero ?_⟩
    have own : gateRequiredFlags request = ownRequired snapshot := by
      rw [gateRequiredFlags, plain, profileIs, stageIs]
      rfl
    rw [own]
    exact flags

/-- One processor with VMX. -/
def oneCpuSample : CpuMatrixSample where
  size := sizeofCpuMatrixSample
  version := kCpuMatrixContractVersion
  logicalIndex := 0
  processorGroup := 0
  processorNumber := 0
  status := kCpuMatrixSampleCollected
  featureFlags := kCpuMatrixFeatureVmx
  maxBasicLeaf := 7
  maxExtendedLeaf := 0x80000008
  leaf7MaxSubleaf := 0
  physicalAddressBits := 48
  linearAddressBits := 48
  vendorEbx := 0x756E6547
  vendorEcx := 0x6C65746E
  vendorEdx := 0x49656E69
  hypervisorEbx := 0
  hypervisorEcx := 0
  hypervisorEdx := 0
  leaf1Ecx := 0
  leaf1Edx := 0
  leaf7Ebx := 0
  leaf7Ecx := 0
  leaf7Edx := 0
  extendedLeaf7Edx := 0
  extendedLeaf8Eax := 0
  reserved0 := 0
  reserved1 := 0

def plainControl (encoding : VmxControlEncoding) : VmxControlCapability :=
  ⟨sizeofVmxControlCapability, kVmxCapabilityContractVersion, encoding.word, 0, 0, 0⟩

def oneVmxSample : VmxCapabilitySample where
  size := sizeofVmxCapabilitySample
  version := kVmxCapabilityContractVersion
  logicalIndex := 0
  processorGroup := 0
  processorNumber := 0
  status := kVmxCapabilitySampleCollected
  reserved0 := 0
  reserved1 := 0
  generation := 1
  vmxBasic := 1
  featureControl := 5
  eptVpidCap := 0
  pinControls := plainControl .Pair32
  primaryControls := plainControl .Pair32
  secondaryControls := plainControl .Pair32
  tertiaryControls := plainControl .AllowedOne64
  exitControls := plainControl .Pair32
  entryControls := plainControl .Pair32
  cr0Fixed0 := 0
  cr0Fixed1 := 0
  cr4Fixed0 := 0
  cr4Fixed1 := 0
  reserved2 := 0
  reserved3 := 0

def cpuSamplesOfOne : Samples CpuMatrixSample := .array [oneCpuSample] (by decide)

def vmxSamplesOfOne : Samples VmxCapabilitySample := .array [oneVmxSample] (by decide)

/-- A native boot that has passed, with more flags than it needs or without. -/
def passedBoot (more : U32) : TargetEvidenceSnapshot :=
  { ownerSnapshot .NativeIntelL0 (bootRootObservation .Clear) acquiredGate with
    flags := kTargetEvidenceSnapshotFlagCpuMatrix ||| kTargetEvidenceSnapshotFlagVmxMatrix |||
      kTargetEvidenceSnapshotFlagOwnerObservation ||| kTargetEvidenceSnapshotFlagOwnerGate |||
      kTargetEvidenceSnapshotFlagHardwareEvidence ||| kTargetEvidenceSnapshotFlagArtifacts |||
      kTargetEvidenceSnapshotFlagRecoveryReady ||| more
    verdict := TargetEvidenceVerdict.Pass.word
    artifactCount := 1
    cpuMatrix := (buildCpuMatrixSummary cpuSamplesOfOne 1).2
    vmxMatrix := (buildVmxCapabilityMatrix vmxSamplesOfOne 1).2
    machineId := fun _ => 1
    artifactHash := fun _ => 1
    capabilityHash := fun _ => 1 }

theorem stage_covered_boot :
    StageCovered (passedBoot kTargetEvidenceSnapshotFlagKdConnected) ↔
      ((passedBoot kTargetEvidenceSnapshotFlagKdConnected).profile =
          TargetEvidenceProfile.NativeIntelL0.word →
        TargetEvidenceStage.Boot.word ≤ (passedBoot kTargetEvidenceSnapshotFlagKdConnected).stage →
        hasFlag (passedBoot kTargetEvidenceSnapshotFlagKdConnected)
          kTargetEvidenceSnapshotFlagKdConnected = true) :=
  @stage_covered_iff _ cpuSamplesOfOne vmxSamplesOfOne (by decide) rfl

/-- A native boot without a debugger is accepted as passed, and the gate then
misses the debugger. -/
theorem stage_not_covered :
    validateTargetEvidenceSnapshot (some (passedBoot 0)) cpuSamplesOfOne vmxSamplesOfOne =
        .Success ∧
      (passedBoot 0).verdict = TargetEvidenceVerdict.Pass.word ∧
      ownRequired (passedBoot 0) &&& ~~~buildManifestFlags (passedBoot 0) =
        kTargetEvidenceFlagKdConnected := by
  decide

end Knhv.Evidence
