import Mathlib.Data.Nat.Basic
import Knhv.Evidence.ManifestValid
import Knhv.Evidence.SnapshotGate
import Knhv.Owner.GateSoundness

namespace Knhv.Evidence

open Knhv.Matrix Owner Snapshot

variable {snapshot : TargetEvidenceSnapshot} {cpuSamples : Samples CpuMatrixSample}
  {vmxSamples : Samples VmxCapabilitySample}

/-- What a snapshot has to meet beyond its own validator before its manifest is
valid: the limits of a manifest, and the owner's state and the error count,
which the validator of the snapshot does not look at. -/
structure ManifestReady (snapshot : TargetEvidenceSnapshot) : Prop where
  artifacts : snapshot.artifactCount ≤ kTargetEvidenceMaxArtifacts
  processors : hasFlag snapshot kTargetEvidenceSnapshotFlagCpuMatrix = true →
    snapshot.cpuMatrix.expectedCount ≤ kTargetEvidenceMaxProcessors ∧
      snapshot.cpuMatrix.validCount ≤ snapshot.cpuMatrix.expectedCount
  usable : isOwnerEvidencePresent snapshot = true →
    isOwnerActionForProfile snapshot.profile snapshot.ownerGate = true →
    isOwnerStateUsable snapshot.profile snapshot.ownerObservation.providerOwner
      snapshot.ownerObservation.providerState = true
  ownerless : isOwnerEvidencePresent snapshot = true →
    snapshot.ownerObservation.providerOwner = HvOwnerKindV2.Unknown.word →
    snapshot.ownerObservation.providerState = HvProviderStateV2.Unknown.word
  verdict : snapshot.verdict = TargetEvidenceVerdict.Pass.word → snapshot.errorCount = 0

/-- A flag of the manifest that goes back to one part of the snapshot. -/
theorem makeManifest_flag {flag : U32} {present : Bool}
    (traced : (∃ part ∈ manifestParts snapshot, part.1 = true ∧ part.2 &&& flag ≠ 0) ↔
      present = true) : Writer.hasFlag (makeManifest snapshot) flag = present := by
  have flags : (makeManifest snapshot).flags = Masks.gather (manifestParts snapshot) :=
    buildManifestFlags_eq snapshot
  rw [Bool.eq_iff_iff, ← traced, Writer.hasFlag, bne_iff_ne, flags]
  constructor
  · intro touches
    obtain ⟨part, member, there, touched⟩ := Masks.touches_gather touches
    exact ⟨part, member, there, touched⟩
  · rintro ⟨part, member, there, touched⟩
    obtain ⟨bit, inPart, inFlag⟩ := Masks.and_ne_zero_iff.mp touched
    refine Masks.and_ne_zero_iff.mpr ⟨bit, ?_, inFlag⟩
    exact Masks.getLsbD_gather.mpr ⟨part, member, there, inPart⟩

/-- What each flag of the manifest says of the snapshot. -/
structure ManifestTells (snapshot : TargetEvidenceSnapshot) : Prop where
  artifacts : Writer.hasFlag (makeManifest snapshot) kTargetEvidenceFlagArtifactsVerified =
    hasFlag snapshot kTargetEvidenceSnapshotFlagArtifacts
  pdb : Writer.hasFlag (makeManifest snapshot) kTargetEvidenceFlagPdbMatched =
    hasFlag snapshot kTargetEvidenceSnapshotFlagArtifacts
  source : Writer.hasFlag (makeManifest snapshot) kTargetEvidenceFlagSourceClean =
    hasFlag snapshot kTargetEvidenceSnapshotFlagSourceClean
  signature : Writer.hasFlag (makeManifest snapshot) kTargetEvidenceFlagSignatureVerified =
    hasFlag snapshot kTargetEvidenceSnapshotFlagSignature
  capability : Writer.hasFlag (makeManifest snapshot) kTargetEvidenceFlagCapabilityComplete =
    isCapabilityComplete snapshot
  hardware : Writer.hasFlag (makeManifest snapshot) kTargetEvidenceFlagHardwareTarget =
    hasFlag snapshot kTargetEvidenceSnapshotFlagHardwareEvidence
  owner : Writer.hasFlag (makeManifest snapshot) kTargetEvidenceFlagOwnerVerified =
    (isOwnerEvidencePresent snapshot && isOwnerActionForProfile snapshot.profile snapshot.ownerGate)
  time : Writer.hasFlag (makeManifest snapshot) kTargetEvidenceFlagTimeSynchronized =
    hasFlag snapshot kTargetEvidenceSnapshotFlagTimeSynchronized
  telemetry : Writer.hasFlag (makeManifest snapshot) kTargetEvidenceFlagTelemetryComplete =
    hasFlag snapshot kTargetEvidenceSnapshotFlagTelemetry
  faults : Writer.hasFlag (makeManifest snapshot) kTargetEvidenceFlagNoCriticalFaults =
    hasFlag snapshot kTargetEvidenceSnapshotFlagNoCriticalFaults
  devices : Writer.hasFlag (makeManifest snapshot) kTargetEvidenceFlagDeviceProfilesVerified =
    hasFlag snapshot kTargetEvidenceSnapshotFlagDeviceProfiles
  performance : Writer.hasFlag (makeManifest snapshot) kTargetEvidenceFlagPerformanceComparable =
    hasFlag snapshot kTargetEvidenceSnapshotFlagPerformance
  warnings : Writer.hasFlag (makeManifest snapshot) kTargetEvidenceFlagWarningsClear =
    hasFlag snapshot kTargetEvidenceSnapshotFlagWarningsClear

theorem makeManifest_tells (snapshot : TargetEvidenceSnapshot) : ManifestTells snapshot := by
  constructor
  all_goals
    refine makeManifest_flag ?_
    simp +decide [manifestParts]

theorem gather_known : buildManifestFlags snapshot &&& ~~~kTargetEvidenceKnownFlagMask = 0#32 := by
  rw [buildManifestFlags_eq, Masks.and_not_eq_zero_iff]
  intro bit there
  obtain ⟨part, member, _, inPart⟩ := Masks.getLsbD_gather.mp there
  have known : ∀ part ∈ manifestParts snapshot,
      part.2 &&& ~~~kTargetEvidenceKnownFlagMask = 0#32 := by
    simp +decide [manifestParts]
  exact Masks.and_not_eq_zero_iff.mp (known part member) bit inPart

/-- The owner of the manifest is one that a manifest can name. -/
theorem Accepted.owner_named (accepted : Accepted snapshot cpuSamples vmxSamples) :
    isOwnerValid (makeManifest snapshot).ownerKind = true ∧
      Evidence.isProviderStateValid (makeManifest snapshot).ownerState = true := by
  cases present : isOwnerEvidencePresent snapshot with
  | false => simp +decide [makeManifest, present]
  | true =>
    have observation := (accepted.ownerAccepted present).observation
    simp only [makeManifest, present]
    unfold isOwnerObservationValid at observation
    split at observation
    · cases observation
    rename_i fields
    simp only [Bool.or_eq_true, not_or, Bool.not_eq_true', Bool.not_eq_false] at fields
    exact ⟨fields.1.1.2, fields.1.2⟩

/-- Beside the two limits an accepted snapshot is in the range of a manifest. -/
theorem Accepted.range_iff (accepted : Accepted snapshot cpuSamples vmxSamples) :
    manifestInRange (makeManifest snapshot) = true ↔
      snapshot.artifactCount ≤ kTargetEvidenceMaxArtifacts ∧
      (hasFlag snapshot kTargetEvidenceSnapshotFlagCpuMatrix = true →
        snapshot.cpuMatrix.expectedCount ≤ kTargetEvidenceMaxProcessors ∧
          snapshot.cpuMatrix.validCount ≤ snapshot.cpuMatrix.expectedCount) := by
  have header := accepted.header
  have time := accepted.time
  simp only [Clear, headerChecks, List.forall_mem_cons, Bool.or_eq_false_iff,
    Bool.not_eq_false'] at header
  simp only [Clear, timeChecks, List.forall_mem_cons] at time
  obtain ⟨ownerKind, ownerState⟩ := accepted.owner_named
  have profile : isProfileValid (makeManifest snapshot).profile = true := header.1.1.1.2
  have stage : isStageValid (makeManifest snapshot).stage = true := header.1.1.2
  have verdict : isVerdictValid (makeManifest snapshot).verdict = true := header.1.2
  have sized : Evidence.isVersionedSizeValid (makeManifest snapshot).version
      (makeManifest snapshot).size sizeofTargetEvidenceManifest = true := rfl
  have known : (makeManifest snapshot).flags &&& ~~~kTargetEvidenceKnownFlagMask = 0#32 :=
    gather_known
  have timed : ((makeManifest snapshot).endedTsc != 0 &&
      (makeManifest snapshot).endedTsc < (makeManifest snapshot).startedTsc) = false := time.1
  have counts : (makeManifest snapshot).artifactCount = snapshot.artifactCount := rfl
  simp only [manifestInRange, ownerKind, ownerState, profile, stage, verdict, sized, known, timed,
    counts]
  cases present : hasFlag snapshot kTargetEvidenceSnapshotFlagCpuMatrix with
  | false => simp [makeManifest, present]
  | true => simp [makeManifest, present, and_comm]

theorem isCapabilityComplete_cpu (complete : isCapabilityComplete snapshot = true) :
    hasFlag snapshot kTargetEvidenceSnapshotFlagCpuMatrix = true ∧
      snapshot.cpuMatrix.expectedCount ≠ 0 ∧
      snapshot.cpuMatrix.validCount = snapshot.cpuMatrix.expectedCount := by
  unfold isCapabilityComplete at complete
  split at complete
  · cases complete
  rename_i cpu
  simp only [Bool.or_eq_true, not_or, Bool.not_eq_true', Bool.not_eq_false, isCompleteCpuMatrix,
    Bool.and_eq_true, bne_iff_ne, beq_iff_eq] at cpu
  exact ⟨cpu.1, cpu.2.1.1.1.1.2, cpu.2.1.1.2⟩

theorem isOwnerActionForProfile_acts {profile : U32} {gate : OwnerGateResult}
    (acts : isOwnerActionForProfile profile gate = true) :
    gate.action ≠ OwnerGateAction.Block.word := by
  unfold isOwnerActionForProfile at acts
  dsimp only at acts
  repeat' split at acts
  all_goals
    simp only [Bool.and_eq_true, beq_iff_eq, Bool.false_eq_true] at acts
    try
      rw [acts.1.1]
      decide

/-- A gate that answers with the action of a profile counts its generations. -/
theorem Accepted.owner_counted (accepted : Accepted snapshot cpuSamples vmxSamples)
    (present : isOwnerEvidencePresent snapshot = true)
    (acts : isOwnerActionForProfile snapshot.profile snapshot.ownerGate = true) :
    snapshot.generation ≠ 0 := by
  have owner := accepted.ownerAccepted present
  rw [← owner.gated]
  exact isOwnerGateResultValid_generation owner.gate (isOwnerActionForProfile_acts acts)

/-- What the validator of the snapshot has checked for the flags of a manifest. -/
theorem Accepted.consistent_iff (accepted : Accepted snapshot cpuSamples vmxSamples) :
    ManifestConsistent (makeManifest snapshot) ↔
      (isOwnerEvidencePresent snapshot = true →
        isOwnerActionForProfile snapshot.profile snapshot.ownerGate = true →
        isOwnerStateUsable snapshot.profile snapshot.ownerObservation.providerOwner
          snapshot.ownerObservation.providerState = true) ∧
      (isOwnerEvidencePresent snapshot = true →
        snapshot.ownerObservation.providerOwner = HvOwnerKindV2.Unknown.word →
        snapshot.ownerObservation.providerState = HvProviderStateV2.Unknown.word) ∧
      (snapshot.verdict = TargetEvidenceVerdict.Pass.word → snapshot.errorCount = 0) := by
  have tells := makeManifest_tells snapshot
  constructor
  · intro consistent
    refine ⟨fun present acts => ?_, fun present unknown => ?_, consistent.verdict⟩
    · have flag : Writer.hasFlag (makeManifest snapshot) kTargetEvidenceFlagOwnerVerified = true := by
        rw [tells.owner, present, acts]
        rfl
      have usable := (consistent.owner flag).1
      simpa only [makeManifest, present, if_true] using usable
    · have ownerless := consistent.ownerless
      simp only [makeManifest, present, if_true] at ownerless
      exact ownerless unknown
  · rintro ⟨usable, ownerless, verdict⟩
    have time := accepted.time
    have artifact := accepted.artifact
    have signature := accepted.signature
    have coverage := accepted.coverage
    simp only [Clear, timeChecks, List.forall_mem_cons] at time
    simp only [Clear, artifactChecks, List.forall_mem_cons] at artifact
    simp only [Clear, signatureChecks, List.forall_mem_cons] at signature
    simp only [Clear, coverageChecks, List.forall_mem_cons] at coverage
    obtain ⟨_, generation, _⟩ := time
    obtain ⟨counted, artifactHash, _, _, buildId, _⟩ := artifact
    obtain ⟨_, _, manifestHash, _⟩ := signature
    obtain ⟨machineId, _, capabilityHash, _, faults, warnings, devices, performance, _⟩ := coverage
    have said {present holds : Bool} (flag : present = true)
        (clear : (present && !holds) = false) : holds = true := by
      simpa [flag] using clear
    have zero {present : Bool} {count : U32} (flag : present = true)
        (clear : (present && count != 0) = false) : count = 0 := by
      simpa [flag] using clear
    refine ⟨fun flag => ?_, fun flag => ?_, fun flag => ?_, fun flag => ?_, fun flag => ?_,
      fun flag => ?_, fun flag => ?_, fun flag => ?_, fun flag => ?_, fun flag => ?_, fun flag => ?_,
      verdict, fun unknown => ?_, fun staged passed => ?_⟩
    · rw [tells.artifacts, ← tells.pdb]
      exact flag
    · rw [tells.artifacts] at flag
      rw [flag, bne_eq_false_iff_eq] at counted
      exact ⟨bne_iff_ne.mp counted.symm, said flag artifactHash⟩
    · rw [tells.capability] at flag
      obtain ⟨present, expected, valid⟩ := isCapabilityComplete_cpu flag
      simp only [makeManifest, present, if_true]
      exact ⟨expected, valid, said present capabilityHash⟩
    · rw [tells.owner, Bool.and_eq_true] at flag
      obtain ⟨present, acts⟩ := flag
      simp only [makeManifest, present, if_true]
      exact ⟨usable present acts, accepted.owner_counted present acts⟩
    · rw [tells.signature] at flag
      exact said flag manifestHash
    · rw [tells.source] at flag
      exact said flag buildId
    · rw [tells.hardware] at flag
      exact said flag machineId
    · rw [tells.devices] at flag
      rw [tells.hardware, tells.capability]
      rw [flag, Bool.true_and, Bool.or_eq_false_iff] at devices
      exact ⟨by simpa using devices.1, by simpa using devices.2⟩
    · rw [tells.performance] at flag
      rw [tells.time, tells.telemetry]
      rw [flag, Bool.true_and, Bool.or_eq_false_iff] at performance
      exact ⟨by simpa using performance.1, by simpa using performance.2⟩
    · rw [tells.warnings] at flag
      exact zero flag warnings
    · rw [tells.faults] at flag
      exact zero flag faults
    · cases present : isOwnerEvidencePresent snapshot with
      | false => simp +decide [makeManifest, present]
      | true =>
        simp only [makeManifest, present, if_true] at unknown ⊢
        exact ownerless present unknown
    · have stage : (snapshot.stage != TargetEvidenceStage.Inventory.word) = true :=
        bne_iff_ne.mpr staged
      have pass : isPass snapshot = true := beq_iff_eq.mpr passed
      rw [pass, stage] at generation
      have counts : snapshot.generation ≠ 0 := by simpa using generation
      exact counts

theorem Accepted.manifest_valid_iff (accepted : Accepted snapshot cpuSamples vmxSamples) :
    isTargetEvidenceManifestValid (makeManifest snapshot) = true ↔ ManifestReady snapshot := by
  rw [isTargetEvidenceManifestValid_iff, accepted.range_iff, accepted.consistent_iff]
  constructor
  · rintro ⟨⟨artifacts, processors⟩, usable, ownerless, verdict⟩
    exact ⟨artifacts, processors, usable, ownerless, verdict⟩
  · rintro ⟨artifacts, processors, usable, ownerless, verdict⟩
    exact ⟨⟨artifacts, processors⟩, usable, ownerless, verdict⟩

/-- The exit before the writer. -/
def turnedAway : Bool × TargetEvidenceSnapshotResult :=
  (false, Snapshot.setFailure .WriterRejected .InvalidManifest)

theorem forwardToWriter_eq_turnedAway_iff : forwardToWriter snapshot = turnedAway ↔
    isTargetEvidenceManifestValid (makeManifest snapshot) = false := by
  constructor
  · intro away
    by_contra valid
    rw [Bool.not_eq_false] at valid
    unfold forwardToWriter turnedAway at away
    rw [valid, Bool.not_true, if_neg Bool.false_ne_true] at away
    dsimp only at away
    split at away
    · have reason := congrArg (fun built => built.2.reason) away
      exact absurd reason (by decide)
    split at away
    · cases congrArg Prod.fst away
    · cases congrArg Prod.fst away
  · intro invalid
    unfold forwardToWriter
    rw [invalid]
    rfl

/-- An accepted snapshot has a valid manifest exactly if it is ready for one,
and is turned away before the writer exactly if it is not. -/
theorem snapshot_manifest_iff
    (accepted : validateTargetEvidenceSnapshot (some snapshot) cpuSamples vmxSamples = .Success) :
    (isTargetEvidenceManifestValid (makeManifest snapshot) = true ↔ ManifestReady snapshot) ∧
      (buildTargetEvidenceManifestFromSnapshot (some snapshot) cpuSamples vmxSamples = turnedAway ↔
        ¬ManifestReady snapshot) := by
  have ready := (validate_eq_success_iff.mp accepted).manifest_valid_iff
  have built : buildTargetEvidenceManifestFromSnapshot (some snapshot) cpuSamples vmxSamples =
      forwardToWriter snapshot := by
    unfold buildTargetEvidenceManifestFromSnapshot
    generalize validateTargetEvidenceSnapshot (some snapshot) cpuSamples vmxSamples = validation
      at accepted
    subst accepted
    rfl
  refine ⟨ready, ?_⟩
  rw [← ready, Bool.not_eq_true, built]
  exact forwardToWriter_eq_turnedAway_iff

/-- An inventory that has passed with errors. -/
def erringInventory : TargetEvidenceSnapshot :=
  { ownerSnapshot .NativeIntelL0 (bootRootObservation .Clear) acquiredGate with
    stage := TargetEvidenceStage.Inventory.word
    verdict := TargetEvidenceVerdict.Pass.word
    errorCount := 1 }

theorem erringInventory_turned_away :
    validateTargetEvidenceSnapshot (some erringInventory) (.null 0) (.null 0) = .Success ∧
      isTargetEvidenceManifestValid (makeManifest erringInventory) = false ∧
      (buildTargetEvidenceManifestFromSnapshot (some erringInventory) (.null 0) (.null 0)).1 =
        false ∧
      (buildTargetEvidenceManifestFromSnapshot (some erringInventory) (.null 0) (.null 0)).2.reason =
        TargetEvidenceReason.InvalidManifest.word := by
  decide

theorem snapshot_manifest_boot :
    (isTargetEvidenceManifestValid (makeManifest (passedBoot 0)) = true ↔
        ManifestReady (passedBoot 0)) ∧
      (buildTargetEvidenceManifestFromSnapshot (some (passedBoot 0)) cpuSamplesOfOne
          vmxSamplesOfOne = turnedAway ↔ ¬ManifestReady (passedBoot 0)) :=
  snapshot_manifest_iff (by decide)

end Knhv.Evidence
