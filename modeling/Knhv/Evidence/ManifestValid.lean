import Mathlib.Data.Nat.Basic
import Knhv.Evidence.Writer
import Knhv.Lib.FirstFailure

namespace Knhv.Evidence

open Writer

variable {manifest : TargetEvidenceManifest}

/-- What the flags, the verdict and the owner of a manifest commit it to. -/
structure ManifestConsistent (manifest : TargetEvidenceManifest) : Prop where
  pdb : hasFlag manifest kTargetEvidenceFlagPdbMatched = true →
    hasFlag manifest kTargetEvidenceFlagArtifactsVerified = true
  artifacts : hasFlag manifest kTargetEvidenceFlagArtifactsVerified = true →
    manifest.artifactCount ≠ 0 ∧ isDigestNonZero manifest.artifactHash = true
  capability : hasFlag manifest kTargetEvidenceFlagCapabilityComplete = true →
    manifest.cpuCount ≠ 0 ∧ manifest.cpuValidCount = manifest.cpuCount ∧
      isDigestNonZero manifest.capabilityHash = true
  owner : hasFlag manifest kTargetEvidenceFlagOwnerVerified = true →
    isOwnerStateUsable manifest.profile manifest.ownerKind manifest.ownerState = true ∧
      manifest.generation ≠ 0
  signature : hasFlag manifest kTargetEvidenceFlagSignatureVerified = true →
    isDigestNonZero manifest.manifestHash = true
  source : hasFlag manifest kTargetEvidenceFlagSourceClean = true →
    isDigestNonZero manifest.buildId = true
  hardware : hasFlag manifest kTargetEvidenceFlagHardwareTarget = true →
    isDigestNonZero manifest.machineId = true
  devices : hasFlag manifest kTargetEvidenceFlagDeviceProfilesVerified = true →
    hasFlag manifest kTargetEvidenceFlagHardwareTarget = true ∧
      hasFlag manifest kTargetEvidenceFlagCapabilityComplete = true
  performance : hasFlag manifest kTargetEvidenceFlagPerformanceComparable = true →
    hasFlag manifest kTargetEvidenceFlagTimeSynchronized = true ∧
      hasFlag manifest kTargetEvidenceFlagTelemetryComplete = true
  warnings : hasFlag manifest kTargetEvidenceFlagWarningsClear = true → manifest.warningCount = 0
  faults : hasFlag manifest kTargetEvidenceFlagNoCriticalFaults = true → manifest.errorCount = 0
  verdict : manifest.verdict = TargetEvidenceVerdict.Pass.word → manifest.errorCount = 0
  ownerless : manifest.ownerKind = HvOwnerKindV2.Unknown.word →
    manifest.ownerState = HvProviderStateV2.Unknown.word
  generation : manifest.stage ≠ TargetEvidenceStage.Inventory.word →
    manifest.verdict = TargetEvidenceVerdict.Pass.word → manifest.generation ≠ 0

/-- The validator of a manifest, one field for each of its checks. -/
theorem isTargetEvidenceManifestValid_iff : isTargetEvidenceManifestValid manifest = true ↔
    manifestInRange manifest = true ∧ ManifestConsistent manifest := by
  have guard {fires : Prop} [Decidable fires] {rest : Bool} :
      (if fires then false else rest) = true ↔ ¬fires ∧ rest = true :=
    FirstFailure.ite_eq_passed_iff Bool.false_ne_true
  have has (flag : U32) : (manifest.flags &&& flag != 0) = hasFlag manifest flag := rfl
  simp only [isTargetEvidenceManifestValid, guard, has, Bool.not_eq_true', Bool.not_eq_false,
    Bool.and_eq_true, Bool.or_eq_true, not_and, not_or, bne_iff_ne, beq_iff_eq, ne_eq,
    Bool.and_eq_false_imp, beq_eq_false_iff_ne, and_imp, Decidable.not_not]
  constructor
  · rintro ⟨range, pdb, artifacts, capability, owner, signature, source, hardware, devices,
      performance, warnings, faults, verdict, ownerless, generation⟩
    refine ⟨range, pdb, artifacts, fun flag => ?_, owner, signature, source, hardware, devices,
      performance, warnings, faults, verdict, ownerless, generation⟩
    obtain ⟨⟨count, valid⟩, digest⟩ := capability flag
    exact ⟨count, valid, digest⟩
  · rintro ⟨range, consistent⟩
    refine ⟨range, consistent.pdb, consistent.artifacts, fun flag => ?_, consistent.owner,
      consistent.signature, consistent.source, consistent.hardware, consistent.devices,
      consistent.performance, consistent.warnings, consistent.faults, consistent.verdict,
      consistent.ownerless, consistent.generation⟩
    obtain ⟨count, valid, digest⟩ := consistent.capability flag
    exact ⟨⟨count, valid⟩, digest⟩

/-- The manifest with the flag of a signature that was verified. -/
def TargetEvidenceManifest.signed (manifest : TargetEvidenceManifest) : TargetEvidenceManifest :=
  { manifest with flags := manifest.flags ||| kTargetEvidenceFlagSignatureVerified }

theorem signed_and (flag : U32) : manifest.signed.flags &&& flag =
    manifest.flags &&& flag ||| kTargetEvidenceFlagSignatureVerified &&& flag :=
  BitVec.and_or_distrib_right

theorem hasFlag_signed {flag : U32} (apart : kTargetEvidenceFlagSignatureVerified &&& flag = 0) :
    hasFlag manifest.signed flag = hasFlag manifest flag := by
  rw [hasFlag, hasFlag, signed_and, apart]
  simp

theorem hasFlag_signed_self :
    hasFlag manifest.signed kTargetEvidenceFlagSignatureVerified = true := by
  rw [hasFlag, signed_and, bne_iff_ne, ne_eq, BitVec.ofNat_eq_ofNat, BitVec.or_eq_zero_iff]
  exact fun none => absurd none.2 (by decide)

theorem signed_in_range : manifestInRange manifest.signed = manifestInRange manifest := by
  have known : manifest.signed.flags &&& ~~~kTargetEvidenceKnownFlagMask =
      manifest.flags &&& ~~~kTargetEvidenceKnownFlagMask := by
    rw [signed_and, show kTargetEvidenceFlagSignatureVerified &&& ~~~kTargetEvidenceKnownFlagMask =
      0#32 by decide, BitVec.or_zero]
  unfold manifestInRange
  rw [known]
  rfl

/-- A valid manifest bears the flag of a signature iff it has a digest to sign. -/
theorem signed_valid_iff (valid : isTargetEvidenceManifestValid manifest = true) :
    isTargetEvidenceManifestValid manifest.signed = true ↔
      isDigestNonZero manifest.manifestHash = true := by
  obtain ⟨range, consistent⟩ := isTargetEvidenceManifestValid_iff.mp valid
  constructor
  · intro signed
    exact (isTargetEvidenceManifestValid_iff.mp signed).2.signature hasFlag_signed_self
  · intro digest
    have kept {flag : U32} (apart : kTargetEvidenceFlagSignatureVerified &&& flag = 0)
        (set : hasFlag manifest.signed flag = true) : hasFlag manifest flag = true := by
      rwa [hasFlag_signed apart] at set
    have still {flag : U32} (apart : kTargetEvidenceFlagSignatureVerified &&& flag = 0)
        (set : hasFlag manifest flag = true) : hasFlag manifest.signed flag = true := by
      rwa [hasFlag_signed apart]
    refine isTargetEvidenceManifestValid_iff.mpr ⟨signed_in_range.trans range, ?_⟩
    exact
      { pdb := fun flag => still rfl (consistent.pdb (kept rfl flag))
        artifacts := fun flag => consistent.artifacts (kept rfl flag)
        capability := fun flag => consistent.capability (kept rfl flag)
        owner := fun flag => consistent.owner (kept rfl flag)
        signature := fun _ => digest
        source := fun flag => consistent.source (kept rfl flag)
        hardware := fun flag => consistent.hardware (kept rfl flag)
        devices := fun flag => (consistent.devices (kept rfl flag)).imp (still rfl) (still rfl)
        performance := fun flag =>
          (consistent.performance (kept rfl flag)).imp (still rfl) (still rfl)
        warnings := fun flag => consistent.warnings (kept rfl flag)
        faults := fun flag => consistent.faults (kept rfl flag)
        verdict := consistent.verdict
        ownerless := consistent.ownerless
        generation := consistent.generation }

end Knhv.Evidence
