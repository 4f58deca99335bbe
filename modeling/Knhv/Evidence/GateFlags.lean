import Mathlib.Data.Nat.Basic
import Knhv.Evidence.SnapshotGate
import Knhv.Lib.Masks

namespace Knhv.Evidence

variable {manifest : TargetEvidenceManifest} {request : TargetEvidenceGateRequest}

/-- The gate was evaluated and answers success. -/
def Accepts (manifest : TargetEvidenceManifest) (request : TargetEvidenceGateRequest) : Prop :=
  (evaluateTargetEvidenceGate manifest request).2.status = HvStatus.Success.word

instance : Decidable (Accepts manifest request) := inferInstanceAs (Decidable (_ = _))

/-- All that the gate asks of a manifest, the flags included. -/
structure GateMet (manifest : TargetEvidenceManifest) (request : TargetEvidenceGateRequest) :
    Prop where
  passed : GatePassed manifest request
  flags : gateRequiredFlags request &&& ~~~manifest.flags = 0
  owner : gateRequiredFlags request &&& kTargetEvidenceFlagOwnerVerified ≠ 0 →
    isOwnerStateUsable request.profile manifest.ownerKind manifest.ownerState = true

theorem decideGate_success_iff :
    (decideGate manifest request).status = HvStatus.Success.word ↔ GateMet manifest request := by
  constructor
  · intro success
    have passed := decideGate_passed success
    unfold decideGate at success
    dsimp only at success
    split at success
    · exact absurd success (setGate_ne_success (by decide))
    split at success
    · exact absurd success (setGate_ne_success (by decide))
    split at success
    · exact absurd success (setGate_ne_success (by decide))
    split at success
    · exact absurd success (setGate_ne_success (statusForVerdict_ne_success _))
    split at success
    · exact absurd success (setGate_ne_success (by decide))
    rename_i flags
    split at success
    · exact absurd success (setGate_ne_success (by decide))
    rename_i owner
    refine ⟨passed, by simpa using flags, fun asked => ?_⟩
    by_contra unusable
    refine owner (Bool.and_eq_true _ _ ▸ ⟨bne_iff_ne.mpr asked, ?_⟩)
    rw [Bool.eq_false_iff.mpr unusable]
    rfl
  · rintro ⟨passed, flags, owner⟩
    have profile : (manifest.profile != request.profile) = false := by simp [passed.profile]
    have generation : (request.expectedGeneration != 0 &&
        request.expectedGeneration != manifest.generation) = false := by
      by_cases given : request.expectedGeneration = 0
      · simp [given]
      · simp [passed.expected given]
    have usable : (gateRequiredFlags request &&& kTargetEvidenceFlagOwnerVerified != 0 &&
        !isOwnerStateUsable request.profile manifest.ownerKind manifest.ownerState) = false := by
      by_cases asked : gateRequiredFlags request &&& kTargetEvidenceFlagOwnerVerified = 0
      · simp [asked]
      · simp [owner asked]
    unfold decideGate
    dsimp only
    rw [profile, generation, flags, usable, passed.verdict, if_neg Bool.false_ne_true,
      if_neg (BitVec.not_lt.mpr passed.stage), if_neg Bool.false_ne_true, if_neg (by decide),
      if_neg (by decide), if_neg Bool.false_ne_true,
      if_neg (fun zero => passed.generation (beq_iff_eq.mp zero))]
    rfl

theorem accepts_iff : Accepts manifest request ↔ isTargetEvidenceGateRequestValid request = true ∧
    isTargetEvidenceManifestValid manifest = true ∧ GateMet manifest request := by
  unfold Accepts evaluateTargetEvidenceGate
  by_cases requestValid : isTargetEvidenceGateRequestValid request = true
  swap
  · rw [Bool.eq_false_iff.mpr requestValid]
    have failed : initializeGate.status ≠ HvStatus.Success.word := by decide
    exact iff_of_false failed (fun met => Bool.false_ne_true met.1)
  by_cases manifestValid : isTargetEvidenceManifestValid manifest = true
  swap
  · rw [requestValid, Bool.eq_false_iff.mpr manifestValid]
    have failed : initializeGate.status ≠ HvStatus.Success.word := by decide
    exact iff_of_false failed (fun met => Bool.false_ne_true met.2.1)
  rw [requestValid, manifestValid, ← decideGate_success_iff]
  simp

/-- The request with other flags. -/
def TargetEvidenceGateRequest.asking (request : TargetEvidenceGateRequest) (flags : U32) :
    TargetEvidenceGateRequest :=
  { request with requiredFlags := flags }

/-- More flags asked for are more flags compared, unless they take the place of
the flags of the stage. -/
theorem gateRequiredFlags_inside {flags : U32} (wider : request.requiredFlags &&& ~~~flags = 0)
    (kept : request.requiredFlags = 0 → flags ≠ 0 →
      requiredTargetEvidenceFlags request.profile request.minimumStage &&& ~~~flags = 0) :
    gateRequiredFlags request &&& ~~~gateRequiredFlags (request.asking flags) = 0 := by
  by_cases given : request.requiredFlags = 0
  · by_cases zero : flags = 0
    · have same : request.asking flags = request := by
        rw [zero, ← given]
        rfl
      rw [same]
      exact BitVec.and_not_self _
    · have compared : gateRequiredFlags (request.asking flags) = flags :=
        if_pos (bne_iff_ne.mpr zero)
      have staged : gateRequiredFlags request =
          requiredTargetEvidenceFlags request.profile request.minimumStage :=
        if_neg (by simp [given])
      rw [compared, staged]
      exact kept given zero
  · have more : flags ≠ 0 := by
      intro zero
      rw [zero, BitVec.ofNat_eq_ofNat, BitVec.not_zero, BitVec.and_allOnes] at wider
      exact given wider
    have compared : gateRequiredFlags (request.asking flags) = flags :=
      if_pos (bne_iff_ne.mpr more)
    have own : gateRequiredFlags request = request.requiredFlags := if_pos (bne_iff_ne.mpr given)
    rw [compared, own]
    exact wider

/-- A manifest that stands up to more flags stands up to fewer. -/
theorem GateMet.fewer {flags : U32} (met : GateMet manifest (request.asking flags))
    (inside : gateRequiredFlags request &&& ~~~gateRequiredFlags (request.asking flags) = 0) :
    GateMet manifest request := by
  obtain ⟨⟨profile, stage, expected, verdict, generation⟩, held, owner⟩ := met
  refine ⟨⟨profile, stage, expected, verdict, generation⟩, Masks.inside_trans inside held, ?_⟩
  exact fun asked => owner (Masks.touches_of_inside inside asked)

/-- What an answer of the gate means for the flags of the manifest, and how it
changes with the flags of the request. -/
structure FlagsHonoured (manifest : TargetEvidenceManifest) (request : TargetEvidenceGateRequest) :
    Prop where
  asked : Accepts manifest request → request.requiredFlags &&& ~~~manifest.flags = 0
  baseline : Accepts manifest request → request.requiredFlags = 0 →
    requiredTargetEvidenceFlags request.profile request.minimumStage &&& ~~~manifest.flags = 0
  wider : ∀ flags, request.requiredFlags &&& ~~~flags = 0 →
    (request.requiredFlags = 0 → flags ≠ 0 →
      requiredTargetEvidenceFlags request.profile request.minimumStage &&& ~~~flags = 0) →
    Accepts manifest (request.asking flags) → Accepts manifest request

theorem gate_flags_honoured (manifest : TargetEvidenceManifest)
    (request : TargetEvidenceGateRequest) : FlagsHonoured manifest request := by
  refine ⟨fun accepted => ?_, fun accepted stage => ?_, fun flags wider kept accepted => ?_⟩
  · obtain ⟨_, _, met⟩ := accepts_iff.mp accepted
    by_cases given : request.requiredFlags = 0
    · rw [given]
      exact BitVec.zero_and
    · have own : gateRequiredFlags request = request.requiredFlags :=
        if_pos (bne_iff_ne.mpr given)
      rw [← own]
      exact met.flags
  · obtain ⟨_, _, met⟩ := accepts_iff.mp accepted
    have staged : gateRequiredFlags request =
        requiredTargetEvidenceFlags request.profile request.minimumStage :=
      if_neg (by simp [stage])
    rw [← staged]
    exact met.flags
  · obtain ⟨formed, valid, met⟩ := accepts_iff.mp accepted
    refine accepts_iff.mpr ⟨?_, valid, met.fewer (gateRequiredFlags_inside wider kept)⟩
    simp only [isTargetEvidenceGateRequestValid, TargetEvidenceGateRequest.asking,
      Bool.and_eq_true, beq_iff_eq] at formed ⊢
    obtain ⟨⟨⟨⟨header, profile⟩, stage⟩, known⟩, reserved⟩ := formed
    exact ⟨⟨⟨⟨header, profile⟩, stage⟩, Masks.inside_trans wider known⟩, reserved⟩

/-- A native capability manifest that has nothing but its clock to show. -/
def clockManifest : TargetEvidenceManifest :=
  { TargetEvidenceManifest.zero with
    size := sizeofTargetEvidenceManifest
    version := kTargetEvidenceContractVersion
    profile := TargetEvidenceProfile.NativeIntelL0.word
    stage := TargetEvidenceStage.Capability.word
    verdict := TargetEvidenceVerdict.Pass.word
    flags := kTargetEvidenceFlagTimeSynchronized
    generation := 1 }

/-- The request for the stage of `clockManifest`, without flags of its own. -/
def capabilityRequest : TargetEvidenceGateRequest where
  size := sizeofTargetEvidenceGateRequest
  version := kTargetEvidenceContractVersion
  profile := TargetEvidenceProfile.NativeIntelL0.word
  minimumStage := TargetEvidenceStage.Capability.word
  requiredFlags := 0
  reserved := 0
  expectedGeneration := 0

/-- Flags of the request's own take the place of those of the stage: the manifest
is blocked for want of them, and is accepted once the request asks for more. -/
theorem clockManifest_waived :
    ¬Accepts clockManifest capabilityRequest ∧
      Accepts clockManifest (capabilityRequest.asking kTargetEvidenceFlagTimeSynchronized) ∧
      requiredTargetEvidenceFlags capabilityRequest.profile capabilityRequest.minimumStage &&&
        ~~~clockManifest.flags ≠ 0 := by
  decide

end Knhv.Evidence
