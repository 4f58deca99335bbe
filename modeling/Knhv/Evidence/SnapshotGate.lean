import Mathlib.Data.Fintype.Pi
import Knhv.Evidence.StageEvidence

namespace Knhv.Evidence

open Knhv.Matrix Owner Snapshot

/-- What a gate has seen that lets a manifest pass. -/
structure GatePassed (manifest : TargetEvidenceManifest) (request : TargetEvidenceGateRequest) :
    Prop where
  profile : manifest.profile = request.profile
  stage : request.minimumStage ≤ manifest.stage
  expected : request.expectedGeneration ≠ 0 → manifest.generation = request.expectedGeneration
  verdict : manifest.verdict = TargetEvidenceVerdict.Pass.word
  generation : manifest.generation ≠ 0

theorem word_ne_success {status : HvStatus} (failed : status ≠ .Success) :
    status.word ≠ HvStatus.Success.word := by
  cases status <;> first | exact absurd rfl failed | decide

theorem ite_ne {α : Type} {condition : Prop} [Decidable condition] {first second other : α}
    (left : first ≠ other) (right : second ≠ other) :
    (if condition then first else second) ≠ other := by
  split
  · exact left
  · exact right

theorem statusForVerdict_ne_success (verdict : U32) : statusForVerdict verdict ≠ .Success := by
  unfold statusForVerdict
  repeat' apply ite_ne
  all_goals decide

theorem missingReason_ne_none (missing : U32) : missingReason missing ≠ .None := by
  unfold missingReason
  repeat' apply ite_ne
  all_goals decide

theorem gateRequiredFlags_known {request : TargetEvidenceGateRequest}
    (valid : isTargetEvidenceGateRequestValid request = true) :
    gateRequiredFlags request &&& ~~~kTargetEvidenceKnownFlagMask = 0#32 := by
  simp only [isTargetEvidenceGateRequestValid, Bool.and_eq_true, beq_iff_eq] at valid
  obtain ⟨⟨⟨⟨_, profileValid⟩, stageValid⟩, known⟩, _⟩ := valid
  unfold gateRequiredFlags
  split
  · exact known
  · obtain ⟨profile, sameProfile⟩ := profile_named profileValid
    obtain ⟨stage, sameStage⟩ := stage_named stageValid
    rw [sameProfile, sameStage]
    exact (required_shape profile stage).1

theorem manifest_in_range {manifest : TargetEvidenceManifest}
    (valid : isTargetEvidenceManifestValid manifest = true) :
    manifest.flags &&& ~~~kTargetEvidenceKnownFlagMask = 0#32 ∧
      manifest.stage ≤ TargetEvidenceStage.Release.word := by
  have inRange : manifestInRange manifest = true := by
    by_contra outside
    unfold isTargetEvidenceManifestValid at valid
    simp [outside] at valid
  simp only [manifestInRange, Bool.not_eq_true', Bool.or_eq_false_iff, bne_eq_false_iff_eq,
    Bool.not_eq_false', isStageValid, decide_eq_true_eq] at inRange
  obtain ⟨⟨⟨⟨⟨⟨⟨⟨⟨⟨shape, flags⟩, _⟩, _⟩, _⟩, _⟩, _⟩, _⟩, _⟩, _⟩, _⟩ := inRange
  exact ⟨flags, shape.1.1.1.2⟩

/-- A gate result that refuses, with a reason and with flags that are known. -/
theorem setGate_refusal_valid {manifest : TargetEvidenceManifest} {status : HvStatus}
    {reason : TargetEvidenceReason} {missing : U32} (failed : status ≠ .Success)
    (reasoned : reason ≠ .None)
    (flags : manifest.flags &&& ~~~kTargetEvidenceKnownFlagMask = 0#32)
    (missingKnown : missing &&& ~~~kTargetEvidenceKnownFlagMask = 0#32) :
    isTargetEvidenceGateResultValid (setGate manifest status reason missing) = true := by
  have statusValid : isStatusValid status.word = true := by cases status <;> decide
  have reasonValid : isReasonValid reason.word = true := by cases reason <;> decide
  have notNone : reason.word ≠ TargetEvidenceReason.None.word := by
    cases reason <;> first | exact absurd rfl reasoned | decide
  have sized : isVersionedSizeValid kTargetEvidenceContractVersion sizeofTargetEvidenceGateResult
      sizeofTargetEvidenceGateResult = true := by decide
  simp [isTargetEvidenceGateResultValid, setGate, initializeGate, statusValid, reasonValid,
    flags, missingKnown, sized, word_ne_success failed, notNone]

theorem setGate_success_valid {manifest : TargetEvidenceManifest}
    (flags : manifest.flags &&& ~~~kTargetEvidenceKnownFlagMask = 0#32)
    (generation : manifest.generation ≠ 0#64) :
    isTargetEvidenceGateResultValid (setGate manifest .Success .None 0) = true := by
  have statusValid : isStatusValid HvStatus.Success.word = true := by decide
  have reasonValid : isReasonValid TargetEvidenceReason.None.word = true := by decide
  have sized : isVersionedSizeValid kTargetEvidenceContractVersion sizeofTargetEvidenceGateResult
      sizeofTargetEvidenceGateResult = true := by decide
  simp [isTargetEvidenceGateResultValid, setGate, initializeGate, statusValid, reasonValid, flags,
    sized, generation]

/-- What the gate decides on a valid manifest and request is a valid result. -/
theorem decideGate_valid {manifest : TargetEvidenceManifest} {request : TargetEvidenceGateRequest}
    (manifestValid : isTargetEvidenceManifestValid manifest = true)
    (requestValid : isTargetEvidenceGateRequestValid request = true) :
    isTargetEvidenceGateResultValid (decideGate manifest request) = true := by
  have flags := (manifest_in_range manifestValid).1
  have none : (0 : U32) &&& ~~~kTargetEvidenceKnownFlagMask = 0#32 := by decide
  unfold decideGate
  dsimp only
  split
  · exact setGate_refusal_valid (by decide) (by decide) flags none
  split
  · exact setGate_refusal_valid (by decide) (by decide) flags none
  split
  · exact setGate_refusal_valid (by decide) (by decide) flags none
  split
  · refine setGate_refusal_valid (statusForVerdict_ne_success _) ?_ flags none
    split <;> decide
  split
  · refine setGate_refusal_valid (by decide) (missingReason_ne_none _) flags ?_
    have known := Masks.and_not_eq_zero_iff.mp (gateRequiredFlags_known requestValid)
    refine Masks.and_not_eq_zero_iff.mpr fun bit missing => known bit ?_
    rw [BitVec.getLsbD_and, Bool.and_eq_true] at missing
    exact missing.1
  split
  · exact setGate_refusal_valid (by decide) (by decide) flags none
  split
  · exact setGate_refusal_valid (by decide) (by decide) flags none
  · rename_i generation
    exact setGate_success_valid flags fun zero => generation (beq_iff_eq.mpr zero)

/-- A decision with any other status refuses the manifest. -/
theorem setGate_ne_success {manifest : TargetEvidenceManifest} {status : HvStatus}
    {reason : TargetEvidenceReason} {missing : U32} (failed : status ≠ .Success) :
    (setGate manifest status reason missing).status ≠ HvStatus.Success.word :=
  word_ne_success failed

/-- Only a manifest that has passed is let through. -/
theorem decideGate_passed {manifest : TargetEvidenceManifest} {request : TargetEvidenceGateRequest}
    (success : (decideGate manifest request).status = HvStatus.Success.word) :
    GatePassed manifest request := by
  unfold decideGate at success
  dsimp only at success
  split at success
  · exact absurd success (setGate_ne_success (by decide))
  rename_i profile
  split at success
  · exact absurd success (setGate_ne_success (by decide))
  rename_i stage
  split at success
  · exact absurd success (setGate_ne_success (by decide))
  rename_i expected
  split at success
  · exact absurd success (setGate_ne_success (statusForVerdict_ne_success _))
  rename_i verdict
  split at success
  · exact absurd success (setGate_ne_success (by decide))
  split at success
  · exact absurd success (setGate_ne_success (by decide))
  split at success
  · exact absurd success (setGate_ne_success (by decide))
  rename_i generation
  refine ⟨?_, BitVec.not_lt.mp stage, fun given => ?_, ?_, ?_⟩
  · simpa using profile
  · by_contra other
    refine expected (Bool.and_eq_true _ _ ▸ ⟨bne_iff_ne.mpr given, bne_iff_ne.mpr ?_⟩)
    exact fun same => other same.symm
  · simpa using verdict
  · exact fun zero => generation (beq_iff_eq.mpr zero)

section Pipeline

open SnapshotGate

variable {snapshot : Option TargetEvidenceSnapshot} {cpuSamples : Samples CpuMatrixSample}
  {vmxSamples : Samples VmxCapabilitySample}

@[simp] theorem finish_fst (status : TargetEvidenceSnapshotGateStatus)
    (result : TargetEvidenceSnapshotGateResult) : (finish status result).1 = status := rfl

theorem snapshotStatus_word_inj {first second : TargetEvidenceSnapshotStatus}
    (same : first.word = second.word) : first = second := by
  cases first <;> cases second <;> first | rfl | exact absurd same (by decide)

/-- A manifest is built from a snapshot that is accepted, or not at all. -/
theorem build_cases (snapshot : Option TargetEvidenceSnapshot)
    (cpuSamples : Samples CpuMatrixSample) (vmxSamples : Samples VmxCapabilitySample) :
    (∃ accepted, snapshot = some accepted ∧
        validateTargetEvidenceSnapshot (some accepted) cpuSamples vmxSamples = .Success ∧
        buildTargetEvidenceManifestFromSnapshot snapshot cpuSamples vmxSamples =
          forwardToWriter accepted) ∨
      ∃ status, status ≠ .Success ∧
        buildTargetEvidenceManifestFromSnapshot snapshot cpuSamples vmxSamples =
          (false, Snapshot.setFailure status (reasonForStatus status)) := by
  cases snapshot with
  | none => exact Or.inr ⟨.InvalidArgument, by decide, rfl⟩
  | some accepted =>
    unfold buildTargetEvidenceManifestFromSnapshot
    generalize answered :
      validateTargetEvidenceSnapshot (some accepted) cpuSamples vmxSamples = validation
    by_cases valid : validation = .Success
    · subst valid
      exact Or.inl ⟨accepted, rfl, answered, rfl⟩
    · refine Or.inr ⟨validation, valid, ?_⟩
      cases validation <;> first | rfl | exact absurd rfl valid

theorem forwardToWriter_status_of_false {accepted : TargetEvidenceSnapshot}
    (rejected : (forwardToWriter accepted).1 = false) :
    (forwardToWriter accepted).2.status = TargetEvidenceSnapshotStatus.WriterRejected.word := by
  unfold forwardToWriter at rejected ⊢
  dsimp only at rejected ⊢
  split
  · rfl
  rename_i made
  rw [if_neg made] at rejected
  split
  · rfl
  rename_i written
  rw [if_neg written] at rejected
  split at rejected <;> exact absurd rejected (fun same => Bool.noConfusion same)

/-- What is not materialized does not have the status of a success. -/
theorem build_status_of_false
    (rejected :
      (buildTargetEvidenceManifestFromSnapshot snapshot cpuSamples vmxSamples).1 = false) :
    (buildTargetEvidenceManifestFromSnapshot snapshot cpuSamples vmxSamples).2.status ≠
      TargetEvidenceSnapshotStatus.Success.word := by
  rcases build_cases snapshot cpuSamples vmxSamples with
    ⟨accepted, _, _, same⟩ | ⟨status, failed, same⟩
  · rw [same] at rejected ⊢
    rw [forwardToWriter_status_of_false rejected]
    decide
  · rw [same]
    exact fun success => failed (snapshotStatus_word_inj success)

theorem build_status_known {result : TargetEvidenceSnapshotResult}
    (valid : isTargetEvidenceSnapshotResultValid result = true) :
    result.status ≤ TargetEvidenceSnapshotStatus.WriterRejected.word := by
  by_contra above
  have outside : (decide (TargetEvidenceSnapshotStatus.WriterRejected.word < result.status)) =
      true := decide_eq_true (BitVec.not_le.mp above)
  simp [isTargetEvidenceSnapshotResultValid, outside] at valid

/-- What every answer of the snapshot gate is like. -/
structure WellFormed
    (answer : TargetEvidenceSnapshotGateStatus × TargetEvidenceSnapshotGateResult) : Prop where
  valid : isTargetEvidenceSnapshotGateResultValid answer.2 = true
  status : answer.2.status = answer.1.word
  manifest : answer.1 ≠ .Success → answer.1 ≠ .GateBlocked → answer.2.manifest = .zero
  decided : answer.1 ≠ .GateInvalid

/-- An answer that holds nothing but the status of the snapshot. -/
theorem wellFormed_empty {status : TargetEvidenceSnapshotGateStatus} {snapshotStatus : U32}
    (known : snapshotStatus ≤ TargetEvidenceSnapshotStatus.WriterRejected.word)
    (refused : status = .InvalidArgument ∨ status = .ManifestInvalid ∨
      status = .SnapshotInvalid ∧ snapshotStatus ≠ TargetEvidenceSnapshotStatus.Success.word) :
    WellFormed (finish status
      { SnapshotGate.initializeResult with snapshotStatus := snapshotStatus }) := by
  have notAbove : ¬TargetEvidenceSnapshotStatus.WriterRejected.word < snapshotStatus :=
    BitVec.not_lt.mpr known
  have gate : isTargetEvidenceGateResultValid initializeGate = true := by decide
  have sized : versionedSizeValid kTargetEvidenceSnapshotGateContractVersion
      kTargetEvidenceSnapshotMaxStructSize kTargetEvidenceSnapshotGateContractVersion
      sizeofTargetEvidenceSnapshotGateResult sizeofTargetEvidenceSnapshotGateResult = true := by
    decide
  have gateFailed : initializeGate.status ≠ HvStatus.Success.word := by decide
  refine ⟨?_, rfl, fun _ _ => rfl, ?_⟩
  · rcases refused with rfl | rfl | ⟨rfl, failed⟩
    · simp [isTargetEvidenceSnapshotGateResultValid, finish, SnapshotGate.initializeResult, notAbove,
        gate, sized, gateFailed, TargetEvidenceSnapshotGateStatus.word]
    · simp [isTargetEvidenceSnapshotGateResultValid, finish, SnapshotGate.initializeResult, notAbove,
        gate, sized, gateFailed, TargetEvidenceSnapshotGateStatus.word]
    · simp [isTargetEvidenceSnapshotGateResultValid, finish, SnapshotGate.initializeResult, notAbove,
        gate, sized, gateFailed, failed, TargetEvidenceSnapshotGateStatus.word]
  · rw [finish_fst]
    rcases refused with rfl | rfl | ⟨rfl, _⟩ <;> decide

theorem evaluate_eq_decide {manifest : TargetEvidenceManifest} {request : TargetEvidenceGateRequest}
    (manifestValid : isTargetEvidenceManifestValid manifest = true)
    (requestValid : isTargetEvidenceGateRequestValid request = true) :
    evaluateTargetEvidenceGate manifest request = (true, decideGate manifest request) := by
  simp [evaluateTargetEvidenceGate, requestValid, manifestValid]

/-- The gate is evaluated on every manifest that is valid, with a result that is
valid. -/
theorem wellFormed_gateManifest {manifest : TargetEvidenceManifest}
    {request : TargetEvidenceGateRequest}
    (requestValid : isTargetEvidenceGateRequestValid request = true) :
    WellFormed (gateManifest TargetEvidenceSnapshotStatus.Success.word manifest request) := by
  unfold gateManifest
  dsimp only
  split
  · exact wellFormed_empty (by decide) (Or.inr (Or.inl rfl))
  rename_i manifestValid
  rw [Bool.not_eq_true', Bool.not_eq_false] at manifestValid
  have evaluated := evaluate_eq_decide manifestValid requestValid
  have gate := decideGate_valid manifestValid requestValid
  have sized : versionedSizeValid kTargetEvidenceSnapshotGateContractVersion
      kTargetEvidenceSnapshotMaxStructSize kTargetEvidenceSnapshotGateContractVersion
      sizeofTargetEvidenceSnapshotGateResult sizeofTargetEvidenceSnapshotGateResult = true := by
    decide
  have known : ¬TargetEvidenceSnapshotStatus.WriterRejected.word <
      TargetEvidenceSnapshotStatus.Success.word := by decide
  rw [evaluated]
  dsimp only
  rw [gate, if_neg (by decide)]
  by_cases success : (decideGate manifest request).status = HvStatus.Success.word
  · rw [success, beq_self_eq_true, if_pos rfl]
    refine ⟨?_, rfl, fun failed => absurd rfl failed, by rw [finish_fst]; decide⟩
    simp [isTargetEvidenceSnapshotGateResultValid, finish, SnapshotGate.initializeResult, gate,
      sized, known, success, manifestValid, TargetEvidenceSnapshotGateStatus.word]
  · rw [beq_eq_false_iff_ne.mpr success, if_neg Bool.false_ne_true]
    refine ⟨?_, rfl, fun _ blocked => absurd rfl blocked, by rw [finish_fst]; decide⟩
    simp [isTargetEvidenceSnapshotGateResultValid, finish, SnapshotGate.initializeResult, gate,
      sized, known, success, manifestValid, TargetEvidenceSnapshotGateStatus.word]

/-- Every answer of the snapshot gate is well formed. -/
theorem snapshot_gate_well_formed (snapshot : Option TargetEvidenceSnapshot)
    (cpuSamples : Samples CpuMatrixSample) (vmxSamples : Samples VmxCapabilitySample)
    (request : Option TargetEvidenceGateRequest) :
    WellFormed (evaluateTargetEvidenceSnapshotGate snapshot cpuSamples vmxSamples request) := by
  have argument : WellFormed (.InvalidArgument, SnapshotGate.initializeResult) :=
    wellFormed_empty (by decide) (Or.inl rfl)
  cases request with
  | none => exact argument
  | some request =>
    unfold evaluateTargetEvidenceSnapshotGate
    dsimp only
    split
    · exact argument
    rename_i requestValid
    rw [Bool.not_eq_true', Bool.not_eq_false] at requestValid
    split
    · exact wellFormed_empty (by decide) (Or.inr (Or.inl rfl))
    rename_i resultValid
    rw [Bool.not_eq_true', Bool.not_eq_false] at resultValid
    split
    · rename_i unmaterialized
      rw [Bool.or_eq_true, Bool.not_eq_true', bne_iff_ne] at unmaterialized
      have failed := unmaterialized.elim build_status_of_false id
      refine wellFormed_empty (build_status_known resultValid) ?_
      split
      · exact Or.inr (Or.inr ⟨rfl, failed⟩)
      · exact Or.inr (Or.inl rfl)
    · rename_i materialized
      simp only [Bool.or_eq_true, Bool.not_eq_true', not_or, Bool.not_eq_false, bne_iff_ne,
        not_not] at materialized
      rw [materialized.2]
      exact wellFormed_gateManifest requestValid

theorem writer_refused {manifest : TargetEvidenceManifest} {status : TargetEvidenceWriterStatus}
    {reason : TargetEvidenceReason} (failed : status ≠ .Success) :
    (Writer.setFailure manifest status reason).status ≠
      TargetEvidenceWriterStatus.Success.word := by
  dsimp only [Writer.setFailure]
  cases status <;> first | exact absurd rfl failed | decide

theorem writerPolicyFailure_ne_success {request : TargetEvidenceManifestWriteRequest}
    {status : TargetEvidenceWriterStatus} {reason : TargetEvidenceReason}
    (failure : writerPolicyFailure request = some (status, reason)) : status ≠ .Success := by
  unfold writerPolicyFailure at failure
  dsimp only at failure
  repeat' split at failure
  all_goals cases failure
  all_goals decide

/-- What the writer has seen of a release when it accepts it. -/
theorem writeManifest_success {request : TargetEvidenceManifestWriteRequest}
    (success : (writeManifest request).status = TargetEvidenceWriterStatus.Success.word) :
    (Writer.isRelease request.candidate = true →
        Writer.isSyntheticProfile request.candidate = false →
        Writer.isTrusted request.signature = true) ∧
      ∃ flags, (writeManifest request).manifest = { request.candidate with flags := flags } := by
  have kept : ∃ flags, (if Writer.hasWriterFlag request kTargetEvidenceWriterFlagCommitSignature
      then { request.candidate with
        flags := request.candidate.flags ||| kTargetEvidenceFlagSignatureVerified }
      else request.candidate) = { request.candidate with flags := flags } := by
    split
    · exact ⟨_, rfl⟩
    · exact ⟨request.candidate.flags, rfl⟩
  unfold writeManifest at success ⊢
  dsimp only at success ⊢
  generalize (if Writer.hasWriterFlag request kTargetEvidenceWriterFlagCommitSignature
      then { request.candidate with
        flags := request.candidate.flags ||| kTargetEvidenceFlagSignatureVerified }
      else request.candidate) = manifest at kept success ⊢
  split at success
  · exact absurd success (writer_refused (by split <;> decide))
  rename_i usable
  rw [if_neg usable]
  split at success
  · exact absurd success (writer_refused (by decide))
  rename_i committed
  rw [if_neg committed]
  split at success
  · exact absurd success (writer_refused (by decide))
  rename_i generation
  rw [if_neg generation]
  split at success
  · exact absurd success (writer_refused (by decide))
  rename_i valid
  rw [if_neg valid]
  refine ⟨fun release synthetic => ?_, kept⟩
  simpa [release, synthetic, signatureIsUsable] using usable

/-- The writer's answer to the request that is made of a snapshot. -/
theorem forwardToWriter_success {accepted : TargetEvidenceSnapshot}
    (success : (forwardToWriter accepted).2.status = TargetEvidenceSnapshotStatus.Success.word) :
    (writeManifest (writerRequest accepted)).status = TargetEvidenceWriterStatus.Success.word ∧
      (forwardToWriter accepted).2.manifest = (writeManifest (writerRequest accepted)).manifest := by
  unfold forwardToWriter at success ⊢
  dsimp only at success ⊢
  split at success
  · exact absurd success (by dsimp only [Snapshot.setFailure]; decide)
  rename_i made
  rw [if_neg made]
  split at success
  · exact absurd success (by dsimp only [Snapshot.setFailure]; decide)
  rename_i written
  rw [if_neg written]
  split at success
  · exact absurd success (by dsimp only; decide)
  rename_i accept
  rw [if_neg accept]
  dsimp only
  rw [bne_iff_ne, not_not] at accept
  unfold buildTargetEvidenceManifest at accept ⊢
  split at accept
  · exact absurd accept (by decide)
  rename_i requestValid
  rw [if_neg requestValid]
  cases policy : writerPolicyFailure (writerRequest accepted) with
  | some failure =>
    rw [policy] at accept
    exact absurd accept (writer_refused (writerPolicyFailure_ne_success policy))
  | none =>
    rw [policy] at accept
    exact ⟨accept, rfl⟩

/-- What the gate has seen of a snapshot that it lets through. -/
theorem snapshot_gate_success {request : TargetEvidenceGateRequest}
    (success : (evaluateTargetEvidenceSnapshotGate snapshot cpuSamples vmxSamples
      (some request)).1 = .Success) :
    ∃ accepted, snapshot = some accepted ∧
      (writeManifest (writerRequest accepted)).status = TargetEvidenceWriterStatus.Success.word ∧
      isTargetEvidenceManifestValid (writeManifest (writerRequest accepted)).manifest = true ∧
      GatePassed (writeManifest (writerRequest accepted)).manifest request := by
  unfold evaluateTargetEvidenceSnapshotGate at success
  dsimp only at success
  split at success
  · exact absurd success (by decide)
  rename_i requestValid
  rw [Bool.not_eq_true', Bool.not_eq_false] at requestValid
  split at success
  · exact absurd success (by rw [finish_fst]; decide)
  split at success
  · exact absurd success (by rw [finish_fst]; split <;> decide)
  rename_i materialized
  simp only [Bool.or_eq_true, Bool.not_eq_true', not_or, Bool.not_eq_false, bne_iff_ne,
    not_not] at materialized
  rcases build_cases snapshot cpuSamples vmxSamples with
    ⟨accepted, same, _, built⟩ | ⟨status, failed, built⟩
  · rw [built] at success materialized
    obtain ⟨written, kept⟩ := forwardToWriter_success materialized.2
    rw [kept] at success
    refine ⟨accepted, same, written, ?_⟩
    unfold gateManifest at success
    dsimp only at success
    split at success
    · exact absurd success (by rw [finish_fst]; decide)
    rename_i manifestValid
    rw [Bool.not_eq_true', Bool.not_eq_false] at manifestValid
    have evaluated := evaluate_eq_decide manifestValid requestValid
    rw [evaluated] at success
    dsimp only at success
    rw [decideGate_valid manifestValid requestValid, if_neg (by decide), finish_fst] at success
    refine ⟨manifestValid, decideGate_passed ?_⟩
    by_contra blocked
    rw [beq_eq_false_iff_ne.mpr blocked] at success
    exact absurd success (by decide)
  · rw [built] at materialized
    exact absurd (snapshotStatus_word_inj materialized.2) failed

/-- What a release that is let through has been shown to be. -/
structure ReleaseProven (snapshot : TargetEvidenceSnapshot) (request : TargetEvidenceGateRequest) :
    Prop where
  signature : snapshot.signature.status = TargetEvidenceSignatureStatus.Trusted.word
  wintrust : snapshot.signature.wintrustStatus = 0
  verdict : snapshot.verdict = TargetEvidenceVerdict.Pass.word
  stage : snapshot.stage = TargetEvidenceStage.Release.word
  generation : snapshot.generation ≠ 0
  expected : request.expectedGeneration ≠ 0 → snapshot.generation = request.expectedGeneration

theorem signature_of_trusted {accepted : TargetEvidenceSnapshot}
    (trusted : Writer.isTrusted (writerSignature accepted) = true) :
    accepted.signature.status = TargetEvidenceSignatureStatus.Trusted.word ∧
      accepted.signature.wintrustStatus = 0 := by
  unfold writerSignature at trusted
  split at trusted
  · exact absurd trusted (by decide)
  · simpa only [Writer.isTrusted, Bool.and_eq_true, beq_iff_eq] using trusted

/-- A release that the gate lets through is signed by a trusted signer, has
passed and is of the generation that is asked for. -/
theorem release_gate_sound {request : TargetEvidenceGateRequest}
    (profile : request.profile ≠ TargetEvidenceProfile.SyntheticLab.word)
    (release : request.minimumStage = TargetEvidenceStage.Release.word)
    (success : (evaluateTargetEvidenceSnapshotGate snapshot cpuSamples vmxSamples
      (some request)).1 = .Success) :
    ∃ accepted, snapshot = some accepted ∧ ReleaseProven accepted request := by
  obtain ⟨accepted, same, written, valid, passed⟩ := snapshot_gate_success success
  obtain ⟨signed, flags, kept⟩ := writeManifest_success written
  have bound := (manifest_in_range valid).2
  rw [kept] at passed bound
  have atRelease : accepted.stage = TargetEvidenceStage.Release.word :=
    BitVec.le_antisymm bound (release ▸ passed.stage)
  have native : accepted.profile ≠ TargetEvidenceProfile.SyntheticLab.word :=
    fun synthetic => profile (passed.profile.symm.trans synthetic)
  have trusted := signature_of_trusted
    (signed (beq_iff_eq.mpr atRelease) (beq_eq_false_iff_ne.mpr native))
  exact ⟨accepted, same, trusted.1, trusted.2, passed.verdict, atRelease, passed.generation,
    passed.expected⟩

/-- A native release that has passed. -/
def passedRelease : TargetEvidenceSnapshot :=
  { passedBoot (kTargetEvidenceSnapshotKnownFlagMask &&& ~~~kTargetEvidenceSnapshotFlagSynthetic &&&
      ~~~kTargetEvidenceSnapshotFlagAllowPrivateTestRoot) with
    stage := TargetEvidenceStage.Release.word
    signature :=
      { TargetEvidenceSignatureResult.zero with
        size := sizeofTargetEvidenceSignatureResult
        version := kTargetEvidenceSignatureContractVersion
        status := TargetEvidenceSignatureStatus.Trusted.word }
    buildId := fun _ => 1
    manifestHash := fun _ => 1 }

/-- The request for a native release of the first generation. -/
def releaseRequest : TargetEvidenceGateRequest where
  size := sizeofTargetEvidenceGateRequest
  version := kTargetEvidenceContractVersion
  profile := TargetEvidenceProfile.NativeIntelL0.word
  minimumStage := TargetEvidenceStage.Release.word
  requiredFlags := 0
  reserved := 0
  expectedGeneration := 1

theorem release_gate_passed :
    ∃ accepted, some passedRelease = some accepted ∧ ReleaseProven accepted releaseRequest :=
  @release_gate_sound _ cpuSamplesOfOne vmxSamplesOfOne _ (by decide) rfl (by decide)

end Pipeline

end Knhv.Evidence
