import Mathlib.Data.Nat.Basic
import Knhv.Evidence.ManifestValid
import Knhv.Evidence.SnapshotGate

namespace Knhv.Evidence

open Writer

variable {request : TargetEvidenceManifestWriteRequest}

/-- The candidate as the writer hands it on. -/
def committed (request : TargetEvidenceManifestWriteRequest) : TargetEvidenceManifest :=
  if hasWriterFlag request kTargetEvidenceWriterFlagCommitSignature then request.candidate.signed
  else request.candidate

/-- The candidate is not written without a signature. -/
def NeedsSignature (request : TargetEvidenceManifestWriteRequest) : Prop :=
  hasFlag request.candidate kTargetEvidenceFlagSignatureVerified = true ∨
    hasWriterFlag request kTargetEvidenceWriterFlagCommitSignature = true ∨
    isRelease request.candidate = true ∧ isSyntheticProfile request.candidate = false

/-- The checks of the writer that stand before the manifest is written. -/
structure WriterPassed (request : TargetEvidenceManifestWriteRequest) : Prop where
  valid : isTargetEvidenceManifestWriteRequestValid request = true
  policy : writerPolicyFailure request = none
  signature : NeedsSignature request → signatureIsUsable request = true

/-- The exits of the writer. -/
inductive WriterOutcome (request : TargetEvidenceManifestWriteRequest) :
    Bool × TargetEvidenceManifestWriteResult → Prop
  | rejected (invalid : isTargetEvidenceManifestWriteRequestValid request = false) :
      WriterOutcome request (false, initializeResult)
  | refused (valid : isTargetEvidenceManifestWriteRequestValid request = true)
      (blocked : ¬WriterPassed request) {status : TargetEvidenceWriterStatus}
      {reason : TargetEvidenceReason} (failed : status ≠ .Success) (said : reason ≠ .None) :
      WriterOutcome request (true, setFailure request.candidate status reason)
  | spoiled (passed : WriterPassed request)
      (invalid : isTargetEvidenceManifestValid (committed request) = false) :
      WriterOutcome request (true, setFailure (committed request) .InvalidManifest .InvalidManifest)
  | written (passed : WriterPassed request)
      (valid : isTargetEvidenceManifestValid (committed request) = true) :
      WriterOutcome request (true, { initializeResult with
        status := TargetEvidenceWriterStatus.Success.word
        reason := TargetEvidenceReason.None.word
        manifest := committed request })

theorem writerPolicyFailure_said {status : TargetEvidenceWriterStatus}
    {reason : TargetEvidenceReason} (failure : writerPolicyFailure request = some (status, reason)) :
    reason ≠ .None := by
  unfold writerPolicyFailure at failure
  dsimp only at failure
  repeat' split at failure
  all_goals cases failure
  all_goals decide

theorem request_candidate_valid (valid : isTargetEvidenceManifestWriteRequestValid request = true) :
    isTargetEvidenceManifestValid request.candidate = true := by
  simp only [isTargetEvidenceManifestWriteRequestValid, Bool.and_eq_true] at valid
  exact valid.1.2

theorem needsSignature_iff :
    (hasFlag request.candidate kTargetEvidenceFlagSignatureVerified ||
      hasWriterFlag request kTargetEvidenceWriterFlagCommitSignature ||
      (isRelease request.candidate && !isSyntheticProfile request.candidate)) = true ↔
      NeedsSignature request := by
  simp only [NeedsSignature, Bool.or_eq_true, Bool.and_eq_true, Bool.not_eq_true', or_assoc]

theorem committed_generation (valid : isTargetEvidenceManifestValid request.candidate = true) :
    ((committed request).generation == 0 &&
      (committed request).stage != TargetEvidenceStage.Inventory.word &&
      (committed request).verdict == TargetEvidenceVerdict.Pass.word) = false := by
  have same : (committed request).generation = request.candidate.generation ∧
      (committed request).stage = request.candidate.stage ∧
      (committed request).verdict = request.candidate.verdict := by
    unfold committed
    split
    · exact ⟨rfl, rfl, rfl⟩
    · exact ⟨rfl, rfl, rfl⟩
  obtain ⟨generation, stage, verdict⟩ := same
  rw [generation, stage, verdict]
  simp only [Bool.and_eq_false_imp, Bool.and_eq_true, bne_iff_ne, beq_iff_eq, beq_eq_false_iff_ne]
  intro both passed
  exact (isTargetEvidenceManifestValid_iff.mp valid).2.generation both.2 passed both.1

/-- The writer behind the policy checks. -/
theorem writeManifest_outcome (valid : isTargetEvidenceManifestWriteRequestValid request = true)
    (policy : writerPolicyFailure request = none) :
    WriterOutcome request (true, writeManifest request) := by
  unfold writeManifest
  dsimp only
  split
  · rename_i unsigned
    rw [Bool.and_eq_true, needsSignature_iff, Bool.not_eq_true'] at unsigned
    refine .refused valid (fun passed => ?_) ?_ (by decide)
    · exact absurd (passed.signature unsigned.1) (Bool.eq_false_iff.mp unsigned.2)
    · split <;> decide
  rename_i usable
  rw [Bool.and_eq_true, needsSignature_iff, Bool.not_eq_true', not_and, Bool.not_eq_false]
    at usable
  have passed : WriterPassed request := ⟨valid, policy, usable⟩
  split
  · rename_i uncommitted
    rw [Bool.and_eq_true, Bool.not_eq_true'] at uncommitted
    exact absurd (usable (Or.inr (Or.inl uncommitted.1))) (Bool.eq_false_iff.mp uncommitted.2)
  change WriterOutcome request (true, if ((committed request).generation == 0 &&
    (committed request).stage != TargetEvidenceStage.Inventory.word &&
    (committed request).verdict == TargetEvidenceVerdict.Pass.word) then _ else
      if !isTargetEvidenceManifestValid (committed request) then
        setFailure (committed request) .InvalidManifest .InvalidManifest
      else _)
  rw [committed_generation (request_candidate_valid valid), if_neg Bool.false_ne_true]
  cases kept : isTargetEvidenceManifestValid (committed request) with
  | false => exact .spoiled passed kept
  | true => exact .written passed kept

theorem buildTargetEvidenceManifest_outcome (request : TargetEvidenceManifestWriteRequest) :
    WriterOutcome request (buildTargetEvidenceManifest request) := by
  unfold buildTargetEvidenceManifest
  by_cases valid : isTargetEvidenceManifestWriteRequestValid request = true
  swap
  · rw [Bool.eq_false_iff.mpr valid]
    exact .rejected (Bool.eq_false_iff.mpr valid)
  rw [valid, Bool.not_true, if_neg Bool.false_ne_true]
  cases policy : writerPolicyFailure request with
  | some failure =>
    refine .refused valid (fun passed => ?_) (writerPolicyFailure_ne_success policy)
      (writerPolicyFailure_said policy)
    exact absurd (policy.symm.trans passed.policy) (by simp)
  | none => exact writeManifest_outcome valid policy

/-- What stands behind a manifest that the writer has written. -/
structure WrittenSoundly (request : TargetEvidenceManifestWriteRequest)
    (manifest : TargetEvidenceManifest) : Prop where
  candidate : manifest = request.candidate ∨ manifest = request.candidate.signed
  signature : hasFlag manifest kTargetEvidenceFlagSignatureVerified = true →
    (request.signature.status = TargetEvidenceSignatureStatus.Trusted.word ∧
        request.signature.wintrustStatus = 0) ∨
      manifest.profile = TargetEvidenceProfile.SyntheticLab.word ∧
        isAcceptedPrivateRoot request.signature = true ∧
        hasWriterFlag request kTargetEvidenceWriterFlagAllowPrivateTestRoot = true
  synthetic : manifest.profile = TargetEvidenceProfile.SyntheticLab.word →
    hasFlag manifest kTargetEvidenceFlagHardwareTarget = false ∧
      hasWriterFlag request kTargetEvidenceWriterFlagHardwareEvidence = false
  source : hasFlag manifest kTargetEvidenceFlagSourceClean = true →
    hasWriterFlag request kTargetEvidenceWriterFlagSourceCleanObserved = true
  native : manifest.profile = TargetEvidenceProfile.NativeIntelL0.word →
    TargetEvidenceStage.Capability.word ≤ manifest.stage →
    hasWriterFlag request kTargetEvidenceWriterFlagHardwareEvidence = true
  release : manifest.stage = TargetEvidenceStage.Release.word →
    manifest.profile ≠ TargetEvidenceProfile.SyntheticLab.word →
    request.signature.status = TargetEvidenceSignatureStatus.Trusted.word ∧
      request.signature.wintrustStatus = 0

/-- What the checks before the signature ask of a request. -/
structure PolicyPassed (request : TargetEvidenceManifestWriteRequest) : Prop where
  laboratory : isSyntheticProfile request.candidate =
    hasWriterFlag request kTargetEvidenceWriterFlagAllowSynthetic
  synthetic : isSyntheticProfile request.candidate = true →
    hasFlag request.candidate kTargetEvidenceFlagHardwareTarget = false ∧
      hasWriterFlag request kTargetEvidenceWriterFlagHardwareEvidence = false
  hardware : hasFlag request.candidate kTargetEvidenceFlagHardwareTarget = true →
    hasWriterFlag request kTargetEvidenceWriterFlagHardwareEvidence = true
  native : isHardwareProfile request.candidate = true →
    isAtLeastCapability request.candidate = true →
    hasWriterFlag request kTargetEvidenceWriterFlagHardwareEvidence = true
  source : hasFlag request.candidate kTargetEvidenceFlagSourceClean = true →
    hasWriterFlag request kTargetEvidenceWriterFlagSourceCleanObserved = true

theorem isHardwareProfile_not_synthetic {manifest : TargetEvidenceManifest}
    (profile : isHardwareProfile manifest = true) : isSyntheticProfile manifest = false := by
  rw [isHardwareProfile, beq_iff_eq] at profile
  rw [isSyntheticProfile, profile]
  decide

theorem writerPolicyFailure_none_iff : writerPolicyFailure request = none ↔ PolicyPassed request := by
  have guard {fires : Prop} [Decidable fires]
      {failure : TargetEvidenceWriterStatus × TargetEvidenceReason}
      {rest : Option (TargetEvidenceWriterStatus × TargetEvidenceReason)} :
      (if fires then some failure else rest) = none ↔ ¬fires ∧ rest = none :=
    FirstFailure.ite_eq_passed_iff (Option.some_ne_none failure)
  simp only [writerPolicyFailure, guard, and_true, Bool.and_eq_true, Bool.or_eq_true,
    Bool.not_eq_true', not_and, not_or, Bool.not_eq_true, Bool.not_eq_false]
  constructor
  · rintro ⟨synthetic, real, hardware, native, source⟩
    refine ⟨?_, fun profile => ⟨(synthetic profile).2, (synthetic profile).1.2⟩, hardware, ?_,
      source⟩
    · cases profile : isSyntheticProfile request.candidate with
      | true => exact (synthetic profile).1.1.symm
      | false => exact (real profile).symm
    · intro profile stage
      exact native ⟨⟨isHardwareProfile_not_synthetic profile, profile⟩, stage⟩
  · rintro ⟨laboratory, synthetic, hardware, native, source⟩
    refine ⟨fun profile => ?_, fun profile => ?_, hardware, ?_, source⟩
    · exact ⟨⟨laboratory.symm.trans profile, (synthetic profile).2⟩, (synthetic profile).1⟩
    · exact laboratory.symm.trans profile
    · rintro ⟨⟨_, profile⟩, stage⟩
      exact native profile stage

theorem isTrusted_iff : isTrusted request.signature = true ↔
    request.signature.status = TargetEvidenceSignatureStatus.Trusted.word ∧
      request.signature.wintrustStatus = 0 := by
  simp only [isTrusted, Bool.and_eq_true, beq_iff_eq]

/-- Handing the candidate on changes nothing but the flag of the signature. -/
theorem committed_cases (request : TargetEvidenceManifestWriteRequest) :
    committed request = request.candidate ∨
      hasWriterFlag request kTargetEvidenceWriterFlagCommitSignature = true ∧
        committed request = request.candidate.signed := by
  unfold committed
  split
  · rename_i commit
    exact Or.inr ⟨commit, rfl⟩
  · exact Or.inl rfl

theorem committed_profile : (committed request).profile = request.candidate.profile := by
  rcases committed_cases request with same | ⟨_, same⟩ <;> rw [same]
  rfl

theorem committed_stage : (committed request).stage = request.candidate.stage := by
  rcases committed_cases request with same | ⟨_, same⟩ <;> rw [same]
  rfl

theorem committed_flag {flag : U32} (apart : kTargetEvidenceFlagSignatureVerified &&& flag = 0) :
    hasFlag (committed request) flag = hasFlag request.candidate flag := by
  rcases committed_cases request with same | ⟨_, same⟩ <;> rw [same]
  exact hasFlag_signed apart

theorem WriterPassed.written (passed : WriterPassed request) :
    WrittenSoundly request (committed request) := by
  have policy := writerPolicyFailure_none_iff.mp passed.policy
  have signed (needs : NeedsSignature request) : isTrusted request.signature = true ∨
      request.candidate.profile = TargetEvidenceProfile.SyntheticLab.word ∧
        isAcceptedPrivateRoot request.signature = true ∧
        hasWriterFlag request kTargetEvidenceWriterFlagAllowPrivateTestRoot = true := by
    have usable := passed.signature needs
    simpa only [signatureIsUsable, isSyntheticProfile, Bool.or_eq_true, Bool.and_eq_true,
      beq_iff_eq, and_assoc] using usable
  refine ⟨?_, fun flag => ?_, fun profile => ?_, fun flag => ?_, fun profile stage => ?_,
    fun stage profile => ?_⟩
  · exact (committed_cases request).imp id And.right
  · have needs : NeedsSignature request := by
      rcases committed_cases request with same | ⟨commit, _⟩
      · exact Or.inl (same ▸ flag)
      · exact Or.inr (Or.inl commit)
    rw [committed_profile, ← isTrusted_iff]
    exact signed needs
  · rw [committed_profile] at profile
    rw [committed_flag (by decide)]
    exact policy.synthetic (beq_iff_eq.mpr profile)
  · rw [committed_flag (by decide)] at flag
    exact policy.source flag
  · rw [committed_profile] at profile
    rw [committed_stage] at stage
    exact policy.native (beq_iff_eq.mpr profile) (decide_eq_true stage)
  · rw [committed_profile] at profile
    rw [committed_stage] at stage
    have needs : NeedsSignature request :=
      Or.inr (Or.inr ⟨beq_iff_eq.mpr stage, beq_eq_false_iff_ne.mpr profile⟩)
    rcases signed needs with trusted | ⟨lab, _⟩
    · exact isTrusted_iff.mp trusted
    · exact absurd lab profile

/-- A manifest that the writer reports as written is the candidate, signed or
not, and everything it says was shown. -/
theorem written_manifest_sound {request : TargetEvidenceManifestWriteRequest}
    (success : (buildTargetEvidenceManifest request).2.status =
      TargetEvidenceWriterStatus.Success.word) :
    WrittenSoundly request (buildTargetEvidenceManifest request).2.manifest := by
  have outcome := buildTargetEvidenceManifest_outcome request
  generalize buildTargetEvidenceManifest request = answer at success outcome ⊢
  cases outcome with
  | rejected => exact absurd success (by decide)
  | refused _ _ failed _ => exact absurd success (writer_refused failed)
  | spoiled => exact absurd success (writer_refused (by decide))
  | written passed _ => exact passed.written

/-- Where the signature cannot be put on the candidate, for want of a digest. -/
structure SpoilsCandidate (request : TargetEvidenceManifestWriteRequest) : Prop where
  valid : isTargetEvidenceManifestWriteRequestValid request = true
  policy : PolicyPassed request
  commit : hasWriterFlag request kTargetEvidenceWriterFlagCommitSignature = true
  usable : signatureIsUsable request = true
  digest : isDigestNonZero request.candidate.manifestHash = false

theorem writerStatus_word_ne {status : TargetEvidenceWriterStatus} (failed : status ≠ .Success) :
    status.word ≠ TargetEvidenceWriterStatus.Success.word := by
  cases status <;> first | exact absurd rfl failed | decide

theorem writerReason_word_ne {reason : TargetEvidenceReason} (said : reason ≠ .None) :
    reason.word ≠ TargetEvidenceReason.None.word := by
  cases reason <;> first | exact absurd rfl said | decide

theorem setFailure_valid_iff {manifest : TargetEvidenceManifest}
    {status : TargetEvidenceWriterStatus} {reason : TargetEvidenceReason}
    (failed : status ≠ .Success) (said : reason ≠ .None) :
    isTargetEvidenceManifestWriteResultValid (setFailure manifest status reason) = true ↔
      manifest = .zero ∨ isTargetEvidenceManifestValid manifest = true := by
  have header : Writer.isVersionedSizeValid kTargetEvidenceWriterContractVersion
      sizeofTargetEvidenceManifestWriteResult sizeofTargetEvidenceManifestWriteResult = true := by
    decide
  have statusKnown : Writer.isStatusValid status.word = true := by cases status <;> rfl
  have reasonKnown : isReasonValid reason.word = true := by cases reason <;> rfl
  have failing := writerStatus_word_ne failed
  have saying := writerReason_word_ne said
  simp [isTargetEvidenceManifestWriteResultValid, setFailure, initializeResult, header, statusKnown,
    reasonKnown, failing, saying]

theorem committed_valid_iff (valid : isTargetEvidenceManifestWriteRequestValid request = true) :
    isTargetEvidenceManifestValid (committed request) = true ↔
      (hasWriterFlag request kTargetEvidenceWriterFlagCommitSignature = true →
        isDigestNonZero request.candidate.manifestHash = true) := by
  have candidate := request_candidate_valid valid
  unfold committed
  split
  · rename_i commit
    rw [signed_valid_iff candidate]
    exact ⟨fun digest _ => digest, fun digest => digest commit⟩
  · rename_i kept
    exact iff_of_true candidate (fun commit => absurd commit kept)

/-- The writer leaves a result that its own validator refuses exactly if the
signature is put on a candidate without a digest. -/
theorem writer_result_valid_iff (request : TargetEvidenceManifestWriteRequest) :
    isTargetEvidenceManifestWriteResultValid (buildTargetEvidenceManifest request).2 = true ↔
      ¬SpoilsCandidate request := by
  have outcome := buildTargetEvidenceManifest_outcome request
  generalize buildTargetEvidenceManifest request = answer at outcome ⊢
  cases outcome with
  | rejected invalid =>
    refine iff_of_true (by decide) (fun spoils => ?_)
    exact Bool.eq_false_iff.mp invalid spoils.valid
  | refused valid blocked failed said =>
    refine iff_of_true ?_ (fun spoils => ?_)
    · exact (setFailure_valid_iff failed said).mpr (Or.inr (request_candidate_valid valid))
    · exact blocked ⟨valid, writerPolicyFailure_none_iff.mpr spoils.policy,
        fun _ => spoils.usable⟩
  | spoiled passed invalid =>
    have broken : ¬(hasWriterFlag request kTargetEvidenceWriterFlagCommitSignature = true →
        isDigestNonZero request.candidate.manifestHash = true) := fun kept =>
      Bool.eq_false_iff.mp invalid ((committed_valid_iff passed.valid).mpr kept)
    obtain ⟨commit, digest⟩ := Classical.not_imp.mp broken
    refine iff_of_false (fun valid => ?_) (fun sound => sound ?_)
    · rcases (setFailure_valid_iff (by decide) (by decide)).mp valid with zero | kept
      · have flag : hasFlag (committed request) kTargetEvidenceFlagSignatureVerified = true := by
          rw [committed, if_pos commit]
          exact hasFlag_signed_self
        rw [zero] at flag
        exact absurd flag (by decide)
      · exact Bool.eq_false_iff.mp invalid kept
    · exact ⟨passed.valid, writerPolicyFailure_none_iff.mp passed.policy, commit, passed.signature (Or.inr (Or.inl commit)),
        Bool.eq_false_iff.mpr digest⟩
  | written passed valid =>
    refine iff_of_true ?_ (fun spoils => ?_)
    · simp only [isTargetEvidenceManifestWriteResultValid, valid]
      rfl
    · have digest := (committed_valid_iff passed.valid).mp valid spoils.commit
      rw [spoils.digest] at digest
      cases digest

/-- An inventory under WHP that says nothing more. -/
def bareInventory : TargetEvidenceManifest :=
  { TargetEvidenceManifest.zero with
    size := sizeofTargetEvidenceManifest
    version := kTargetEvidenceContractVersion
    profile := TargetEvidenceProfile.WhpManaged.word }

def trustedSignature : TargetEvidenceSignatureResult :=
  { TargetEvidenceSignatureResult.zero with
    size := sizeofTargetEvidenceSignatureResult
    version := kTargetEvidenceSignatureContractVersion
    status := TargetEvidenceSignatureStatus.Trusted.word }

/-- The request to sign `manifest`. -/
def signRequest (manifest : TargetEvidenceManifest) : TargetEvidenceManifestWriteRequest where
  size := sizeofTargetEvidenceManifestWriteRequest
  version := kTargetEvidenceWriterContractVersion
  flags := kTargetEvidenceWriterFlagCommitSignature
  reserved := 0
  candidate := manifest
  signature := trustedSignature

/-- The request is well formed, and the result is refused by its validator: the
manifest in it is neither zero nor valid. -/
theorem bareInventory_spoiled :
    isTargetEvidenceManifestWriteRequestValid (signRequest bareInventory) = true ∧
      isTargetEvidenceManifestWriteResultValid
        (buildTargetEvidenceManifest (signRequest bareInventory)).2 = false := by
  decide

/-- The same manifest is signed once it has a digest. -/
theorem signed_inventory_sound :
    WrittenSoundly (signRequest { bareInventory with manifestHash := fun _ => 1 })
      (buildTargetEvidenceManifest
        (signRequest { bareInventory with manifestHash := fun _ => 1 })).2.manifest :=
  written_manifest_sound (by decide)

end Knhv.Evidence
