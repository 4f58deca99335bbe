import Knhv.Evidence.Collector

namespace Knhv.Evidence.Collector

open Knhv.Matrix Snapshot

variable {snapshot : TargetEvidenceSnapshot} {cpuSamples : Samples CpuMatrixSample}
  {vmxSamples : Samples VmxCapabilitySample} {digest : Digest}
  {binding other : TargetEvidenceCollectorBinding}

/-- The result can be validated, and says what is returned. -/
def Written (verdict : Verdict) : Prop :=
  isTargetEvidenceCollectorBindingResultValid verdict.2 = true ∧
    verdict.2.status = verdict.1.word

theorem status_word_valid (status : TargetEvidenceCollectorStatus) :
    isStatusValid status.word = true := by
  cases status <;> rfl

theorem reason_word_valid (reason : TargetEvidenceCollectorReason) :
    isReasonValid reason.word = true := by
  cases reason <;> rfl

theorem status_word_ne {status : TargetEvidenceCollectorStatus} (failed : status ≠ .Success) :
    (status.word == TargetEvidenceCollectorStatus.Success.word) = false := by
  cases status
  · exact absurd rfl failed
  all_goals rfl

theorem reason_word_ne {reason : TargetEvidenceCollectorReason} (given : reason ≠ .None) :
    (reason.word != TargetEvidenceCollectorReason.None.word) = true := by
  cases reason
  · exact absurd rfl given
  all_goals rfl

theorem refuse_written {status : TargetEvidenceCollectorStatus}
    {reason : TargetEvidenceCollectorReason} (failed : status ≠ .Success)
    (given : reason ≠ .None) : Written (refuse status reason) := by
  have sized : Collector.isVersionedSizeValid initializeResult.version initializeResult.size
      sizeofTargetEvidenceCollectorBindingResult = true := rfl
  have reserved : initializeResult.reserved0 = 0 ∧ initializeResult.reserved1 = 0 := ⟨rfl, rfl⟩
  refine ⟨?_, rfl⟩
  simp [isTargetEvidenceCollectorBindingResultValid, refuse, setFailure, sized, reserved,
    status_word_valid, reason_word_valid, status_word_ne failed, reason_word_ne given]

/-- A check that fires refuses with a result that is written. -/
theorem ite_written {fires : Prop} [Decidable fires] {status : TargetEvidenceCollectorStatus}
    {reason : TargetEvidenceCollectorReason} {rest : Verdict} (failed : status ≠ .Success)
    (given : reason ≠ .None) (written : Written rest) :
    Written (if fires then refuse status reason else rest) := by
  split
  · exact refuse_written failed given
  · exact written

/-- A check that may fire lets a success through only where it stays clear. -/
theorem ite_success_iff {fires : Prop} [Decidable fires] {failure rest : Verdict}
    (failed : failure.1 ≠ .Success) :
    (if fires then failure else rest).1 = .Success ↔ ¬fires ∧ rest.1 = .Success := by
  split
  · rename_i fired
    exact iff_of_false failed fun clear => clear.1 fired
  · rename_i clear
    exact ⟨fun success => ⟨clear, success⟩, fun both => both.2⟩

theorem compareBinding_written {cpuCount vmxCount : U32} (captured : binding.captureId ≠ 0#64) :
    Written (compareBinding snapshot cpuCount vmxCount digest binding) := by
  have passed : Written (.Success, { initializeResult with
      status := TargetEvidenceCollectorStatus.Success.word
      reason := TargetEvidenceCollectorReason.None.word
      generation := binding.generation
      captureId := binding.captureId }) := by
    have identified : (binding.captureId != 0) = true := bne_iff_ne.mpr captured
    exact ⟨identified, rfl⟩
  unfold compareBinding
  iterate 11 refine ite_written (by decide) (by decide) ?_
  exact passed

/-- What a valid binding has in its fields. -/
structure BindingValid (binding : TargetEvidenceCollectorBinding) : Prop where
  header : isHeaderInvalid binding = false
  captured : binding.captureId ≠ 0#64
  collector : isDigestNonZero binding.collectorId = true
  build : isDigestNonZero binding.collectorBuildId = true
  package : isDigestNonZero binding.packageDigest = true

theorem bindingValid_of (valid : isTargetEvidenceCollectorBindingValid binding = true) :
    BindingValid binding := by
  unfold isTargetEvidenceCollectorBindingValid at valid
  split at valid
  · cases valid
  rename_i fields
  simp only [Bool.or_eq_true, not_or, Bool.not_eq_true', Bool.not_eq_true, Bool.not_eq_false,
    beq_eq_false_iff_ne] at fields
  obtain ⟨⟨⟨⟨⟨⟨⟨⟨header, captured⟩, _⟩, collector⟩, build⟩, package⟩, _⟩, _⟩, _⟩ := fields
  exact ⟨header, captured, collector, build, package⟩

theorem checkBinding_written :
    Written (checkBinding snapshot cpuSamples vmxSamples digest binding) := by
  have initial : Written (.InvalidArgument, initializeResult) := ⟨rfl, rfl⟩
  unfold checkBinding
  split
  · exact initial
  refine ite_written (by decide) (by decide) (ite_written (by decide) (by decide) ?_)
  split
  · exact initial
  rename_i valid
  refine ite_written (by decide) (by decide) (compareBinding_written ?_)
  exact (bindingValid_of (by simpa using valid)).captured

/-- What a binding has to agree in with the snapshot and the digest. -/
structure Bound (snapshot : TargetEvidenceSnapshot) (cpuSamples : Samples CpuMatrixSample)
    (vmxSamples : Samples VmxCapabilitySample) (digest : Digest)
    (binding : TargetEvidenceCollectorBinding) : Prop where
  snapshotValid : validateTargetEvidenceSnapshot (some snapshot) cpuSamples vmxSamples = .Success
  bindingValid : isTargetEvidenceCollectorBindingValid binding = true
  packageDigest : binding.packageDigest = digest
  generation : binding.generation = snapshot.generation
  timestamps : binding.startedTsc = snapshot.startedTsc ∧ binding.endedTsc = snapshot.endedTsc
  sampleCounts : binding.cpuSampleCount = cpuSamples.count ∧
    binding.vmxSampleCount = vmxSamples.count
  flags : binding.flags = expectedFlags snapshot binding
  artifactHash : binding.artifactHash = snapshot.artifactHash
  signature : binding.signature = snapshot.signature
  firstFailure : isPass snapshot = true → binding.firstFailureCode = 0#32

theorem eq_of_not_isDigestNonZero {first second : Digest} (zero : isDigestNonZero first = false)
    (alsoZero : isDigestNonZero second = false) : first = second := by
  simp only [isDigestNonZero, List.any_eq_false, List.mem_finRange, true_imp_iff, bne_iff_ne,
    not_not] at zero alsoZero
  funext index
  rw [zero index, alsoZero index]

/-- A flag of a valid snapshot says whether there is an artifact, or a signature,
at all. -/
theorem absent_of_valid
    (valid : validateTargetEvidenceSnapshot (some snapshot) cpuSamples vmxSamples = .Success) :
    (hasFlag snapshot kTargetEvidenceSnapshotFlagArtifacts = false →
      isDigestNonZero snapshot.artifactHash = false) ∧
    (hasFlag snapshot kTargetEvidenceSnapshotFlagSignature = false →
      snapshot.signature = .zero) := by
  have accepted := validate_eq_success_iff.mp valid
  have artifact := accepted.artifact
  have signature := accepted.signature
  simp only [Clear, artifactChecks, List.forall_mem_cons] at artifact
  simp only [Clear, signatureChecks, List.forall_mem_cons] at signature
  refine ⟨fun absent => ?_, fun absent => ?_⟩
  · simpa [absent] using artifact.2.2.1
  · simpa [absent] using signature.2.1

theorem compareBinding_success_iff {cpuCount vmxCount : U32} :
    (compareBinding snapshot cpuCount vmxCount digest binding).1 = .Success ↔
      isDigestNonZero digest = true ∧ binding.packageDigest = digest ∧
      binding.generation = snapshot.generation ∧
      (binding.startedTsc = snapshot.startedTsc ∧ binding.endedTsc = snapshot.endedTsc) ∧
      (binding.cpuSampleCount = cpuCount ∧ binding.vmxSampleCount = vmxCount) ∧
      binding.flags = expectedFlags snapshot binding ∧
      (hasFlag snapshot kTargetEvidenceSnapshotFlagArtifacts = true →
        binding.artifactHash = snapshot.artifactHash) ∧
      (hasFlag snapshot kTargetEvidenceSnapshotFlagArtifacts = false →
        isDigestNonZero binding.artifactHash = false) ∧
      (hasFlag snapshot kTargetEvidenceSnapshotFlagSignature = true →
        binding.signature = snapshot.signature) ∧
      (hasFlag snapshot kTargetEvidenceSnapshotFlagSignature = false →
        binding.signature = .zero) ∧
      (isPass snapshot = true → binding.firstFailureCode = 0#32) := by
  have guard {fires : Prop} [Decidable fires] {status : TargetEvidenceCollectorStatus}
      {reason : TargetEvidenceCollectorReason} {rest : Verdict} (failed : status ≠ .Success) :
      (if fires then refuse status reason else rest).1 = .Success ↔
        ¬fires ∧ rest.1 = .Success := ite_success_iff failed
  unfold compareBinding
  iterate 11 rw [guard (by decide)]
  simp only [Bool.not_eq_true', Bool.not_eq_false, bne_iff_ne, ne_eq, not_not, Bool.or_eq_true,
    not_or, Bool.and_eq_true, not_and, Bool.not_eq_true, and_true, eq_comm (a := digest)]
  exact Iff.rfl

/-- A binding is accepted exactly if it agrees with the snapshot and the digest. -/
theorem checkBinding_success_iff :
    (checkBinding snapshot cpuSamples vmxSamples digest binding).1 = .Success ↔
      Bound snapshot cpuSamples vmxSamples digest binding := by
  have guard {fires : Prop} [Decidable fires] {status : TargetEvidenceCollectorStatus}
      {result : TargetEvidenceCollectorBindingResult} {rest : Verdict}
      (failed : status ≠ .Success) :
      (if fires then (status, result) else rest).1 = .Success ↔ ¬fires ∧ rest.1 = .Success :=
    ite_success_iff failed
  unfold checkBinding refuse
  iterate 5 rw [guard (by decide)]
  rw [compareBinding_success_iff]
  simp only [Bool.not_eq_true', Bool.not_eq_false, bne_iff_ne, ne_eq, not_not, Bool.not_eq_true]
  constructor
  · rintro ⟨_, _, _, valid, accepted, _, package, generation, timestamps, counts, flags, artifact,
      noArtifact, signature, noSignature, failure⟩
    obtain ⟨artifactAbsent, signatureAbsent⟩ := absent_of_valid accepted
    refine ⟨accepted, valid, package, generation, timestamps, counts, flags, ?_, ?_, failure⟩
    · cases flag : hasFlag snapshot kTargetEvidenceSnapshotFlagArtifacts with
      | true => exact artifact flag
      | false => exact eq_of_not_isDigestNonZero (noArtifact flag) (artifactAbsent flag)
    · cases flag : hasFlag snapshot kTargetEvidenceSnapshotFlagSignature with
      | true => exact signature flag
      | false => exact (noSignature flag).trans (signatureAbsent flag).symm
  · intro bound
    obtain ⟨artifactAbsent, signatureAbsent⟩ := absent_of_valid bound.snapshotValid
    obtain ⟨header, _, collector, build, package⟩ := bindingValid_of bound.bindingValid
    refine ⟨header, ?_, package, bound.bindingValid, bound.snapshotValid,
      bound.packageDigest ▸ package, bound.packageDigest, bound.generation, bound.timestamps,
      bound.sampleCounts, bound.flags, fun _ => bound.artifactHash, fun absent => ?_,
      fun _ => bound.signature, fun absent => ?_, bound.firstFailure⟩
    · rw [collector, build]
      rfl
    · rw [bound.artifactHash]
      exact artifactAbsent absent
    · rw [bound.signature]
      exact signatureAbsent absent

/-- A binding that differs from another in one of the fields that are bound. -/
inductive AlteredOnce (binding : TargetEvidenceCollectorBinding) :
    TargetEvidenceCollectorBinding → Prop
  | packageDigest (packageDigest : Digest) : packageDigest ≠ binding.packageDigest →
      AlteredOnce binding { binding with packageDigest }
  | generation (generation : U64) : generation ≠ binding.generation →
      AlteredOnce binding { binding with generation }
  | timestamps (startedTsc endedTsc : U64) :
      (startedTsc, endedTsc) ≠ (binding.startedTsc, binding.endedTsc) →
      AlteredOnce binding { binding with startedTsc, endedTsc }
  | sampleCounts (cpuSampleCount vmxSampleCount : U32) :
      (cpuSampleCount, vmxSampleCount) ≠ (binding.cpuSampleCount, binding.vmxSampleCount) →
      AlteredOnce binding { binding with cpuSampleCount, vmxSampleCount }
  | flags (flags : U32) : flags ≠ binding.flags → AlteredOnce binding { binding with flags }
  | artifactHash (artifactHash : Digest) : artifactHash ≠ binding.artifactHash →
      AlteredOnce binding { binding with artifactHash }
  | signature (signature : TargetEvidenceSignatureResult) : signature ≠ binding.signature →
      AlteredOnce binding { binding with signature }

/-- Every field that is bound is determined by the snapshot and the digest, so no
two bindings that agree apart from one of them are both accepted. -/
theorem Bound.not_altered (bound : Bound snapshot cpuSamples vmxSamples digest binding)
    (altered : AlteredOnce binding other) :
    ¬Bound snapshot cpuSamples vmxSamples digest other := by
  intro also
  cases altered with
  | packageDigest _ differs => exact differs (also.packageDigest.trans bound.packageDigest.symm)
  | generation _ differs => exact differs (also.generation.trans bound.generation.symm)
  | timestamps _ _ differs =>
    exact differs (Prod.ext (also.timestamps.1.trans bound.timestamps.1.symm)
      (also.timestamps.2.trans bound.timestamps.2.symm))
  | sampleCounts _ _ differs =>
    exact differs (Prod.ext (also.sampleCounts.1.trans bound.sampleCounts.1.symm)
      (also.sampleCounts.2.trans bound.sampleCounts.2.symm))
  | flags _ differs =>
    -- the flags that are expected depend on the code of the first failure only
    exact differs (also.flags.trans bound.flags.symm)
  | artifactHash _ differs => exact differs (also.artifactHash.trans bound.artifactHash.symm)
  | signature _ differs => exact differs (also.signature.trans bound.signature.symm)

variable {snapshotIn : Option TargetEvidenceSnapshot} {digestIn : Option Digest}
  {bindingIn : Option TargetEvidenceCollectorBinding}
  {result : Option TargetEvidenceCollectorBindingResult}

/-- What the binder promises about its request. -/
structure BindingSound (snapshotIn : Option TargetEvidenceSnapshot)
    (cpuSamples : Samples CpuMatrixSample) (vmxSamples : Samples VmxCapabilitySample)
    (digestIn : Option Digest) (bindingIn : Option TargetEvidenceCollectorBinding)
    (result : Option TargetEvidenceCollectorBindingResult) : Prop where
  there : (validateTargetEvidenceCollectorBinding snapshotIn cpuSamples vmxSamples digestIn
    bindingIn result).2.isSome = result.isSome
  written : ∀ left,
    (validateTargetEvidenceCollectorBinding snapshotIn cpuSamples vmxSamples digestIn bindingIn
      result).2 = some left →
    isTargetEvidenceCollectorBindingResultValid left = true ∧
      left.status = (validateTargetEvidenceCollectorBinding snapshotIn cpuSamples vmxSamples
        digestIn bindingIn result).1.word
  success : (validateTargetEvidenceCollectorBinding snapshotIn cpuSamples vmxSamples digestIn
      bindingIn result).1 = .Success →
    ∃ snapshot digest binding, snapshotIn = some snapshot ∧ digestIn = some digest ∧
      bindingIn = some binding ∧ Bound snapshot cpuSamples vmxSamples digest binding
  altered : ∀ binding other, bindingIn = some binding →
    (validateTargetEvidenceCollectorBinding snapshotIn cpuSamples vmxSamples digestIn bindingIn
      result).1 = .Success → AlteredOnce binding other →
    (validateTargetEvidenceCollectorBinding snapshotIn cpuSamples vmxSamples digestIn
      (some other) result).1 ≠ .Success

/-- A success has all of its pointers, and a binding that agrees. -/
theorem validate_success
    (success : (validateTargetEvidenceCollectorBinding snapshotIn cpuSamples vmxSamples digestIn
      bindingIn result).1 = .Success) :
    ∃ snapshot digest binding, snapshotIn = some snapshot ∧ digestIn = some digest ∧
      bindingIn = some binding ∧ Bound snapshot cpuSamples vmxSamples digest binding := by
  cases result with
  | none => cases success
  | some _ =>
    cases snapshotIn with
    | none => cases success
    | some snapshot =>
      cases digestIn with
      | none => cases success
      | some digest =>
        cases bindingIn with
        | none => cases success
        | some binding =>
          exact ⟨snapshot, digest, binding, rfl, rfl, rfl, checkBinding_success_iff.mp success⟩

theorem collector_binding_sound (snapshotIn : Option TargetEvidenceSnapshot)
    (cpuSamples : Samples CpuMatrixSample) (vmxSamples : Samples VmxCapabilitySample)
    (digestIn : Option Digest) (bindingIn : Option TargetEvidenceCollectorBinding)
    (result : Option TargetEvidenceCollectorBindingResult) :
    BindingSound snapshotIn cpuSamples vmxSamples digestIn bindingIn result where
  there := by
    unfold validateTargetEvidenceCollectorBinding
    cases result with
    | none => rfl
    | some _ =>
      dsimp only
      split <;> rfl
  written left same := by
    have initial : Written (.InvalidArgument, initializeResult) := ⟨rfl, rfl⟩
    unfold validateTargetEvidenceCollectorBinding at same ⊢
    cases result with
    | none => cases same
    | some _ =>
      dsimp only at same ⊢
      split at same
      · cases same
        exact checkBinding_written
      · cases same
        exact initial
  success := validate_success
  altered binding other given success altered := by
    obtain ⟨snapshot, digest, bound, rfl, rfl, rfl, agrees⟩ := validate_success success
    cases given
    intro also
    obtain ⟨_, _, _, same, sameDigest, sameOther, alsoAgrees⟩ := validate_success also
    cases same
    cases sameDigest
    cases sameOther
    exact agrees.not_altered altered alsoAgrees

end Knhv.Evidence.Collector
