import Mathlib.Data.Nat.Basic
import Knhv.Owner.Gate

namespace Knhv.Owner

/-- The native owner of the machine is ready and nothing else is active. -/
structure NativeReady (observation : OwnerObservation) : Prop where
  owner : observation.providerOwner = HvOwnerKindV2.KnhvBootL0.word
  state : observation.providerState = HvProviderStateV2.Active.word
  generation : observation.generation ≠ 0
  device : observation.providerDevice = OwnerEvidenceState.Present.word
  handoff : observation.bootHandoff = OwnerEvidenceState.Present.word
  cpuid : observation.cpuidHypervisor = OwnerEvidenceState.Clear.word
  windows : observation.windowsHypervisor = OwnerEvidenceState.Clear.word
  vbs : observation.vbs = OwnerEvidenceState.Clear.word
  hvci : observation.hvci = OwnerEvidenceState.Clear.word

/-- An outcome that only says on which ground the gate stays shut. -/
structure Refuses (outcome : Outcome) : Prop where
  action : outcome.action = .Block
  status : outcome.status ≠ .Success
  reason : outcome.reason ≠ .None
  flags : outcome.flags = 0 ∨ outcome.flags = kOwnerGateFlagConflict

/-- The actions that may be followed at once. -/
def Succeeds (action : U32) : Prop :=
  action = OwnerGateAction.AcquireNative.word ∨ action = OwnerGateAction.UseWhp.word ∨
    action = OwnerGateAction.UseSynthetic.word

variable {observation : OwnerObservation} {outcome : Outcome}

theorem isStatusValid_word (status : HvStatus) : isStatusValid status.word = true := by
  cases status <;> rfl

theorem isReasonValid_word (reason : OwnerGateReason) : isReasonValid reason.word = true := by
  cases reason <;> rfl

theorem HvStatus.word_eq_success {status : HvStatus} :
    status.word = HvStatus.Success.word ↔ status = .Success := by
  cases status <;> decide

theorem OwnerGateReason.word_eq_none {reason : OwnerGateReason} :
    reason.word = OwnerGateReason.None.word ↔ reason = .None := by
  cases reason <;> decide

theorem refusal_refuses (observation : OwnerObservation) : Refuses (refusal observation) := by
  unfold refusal
  repeat' split
  all_goals exact ⟨rfl, by decide, by decide, by decide⟩

theorem Refuses.result_valid (refuses : Refuses outcome)
    (owner : isOwnerKindValid observation.providerOwner = true) :
    isOwnerGateResultValid (outcome.result observation) = true := by
  obtain ⟨action, reason, status, flags⟩ := outcome
  obtain ⟨rfl, failed, said, known⟩ := refuses
  have failing : status.word ≠ HvStatus.Success.word := fun same =>
    failed (HvStatus.word_eq_success.mp same)
  have saying : reason.word ≠ OwnerGateReason.None.word := fun same =>
    said (OwnerGateReason.word_eq_none.mp same)
  have header : isVersionedSizeValid kOwnerObservationContractVersion sizeofOwnerGateResult
      sizeofOwnerGateResult = true := by decide
  have inMask : flags &&& ~~~kOwnerGateKnownFlagMask = 0 := by
    rcases known with rfl | rfl <;> decide
  have neither : flags &&& (kOwnerGateFlagExclusive ||| kOwnerGateFlagFallback) = 0 := by
    rcases known with rfl | rfl <;> decide
  have blocked : isActionValid 0#32 = true := rfl
  simp only [isOwnerGateResultValid, Outcome.result, setResult, initializeResult]
  simp [header, blocked, isReasonValid_word, isStatusValid_word, owner, OwnerGateResult.zero,
    inMask, neither, isBlockedResultConsistent, failing, saying, OwnerGateAction.word]

theorem grant_word {owner : U32} (granted : grant owner = some outcome) :
    (owner = HvOwnerKindV2.KnhvBootL0.word ∧ outcome = ⟨.AcquireNative, .KnhvOwnerReady, .Success,
        kOwnerGateFlagEvidenceComplete ||| kOwnerGateFlagExclusive⟩) ∨
      (owner = HvOwnerKindV2.ExternalL0.word ∧ outcome = ⟨.UseExternalProvider,
        .ExternalOwnerActive, .IncompatibleProvider,
        kOwnerGateFlagFallback ||| kOwnerGateFlagConflict⟩) ∨
      (owner = HvOwnerKindV2.WhpManaged.word ∧
        outcome = ⟨.UseWhp, .WhpFallback, .Success, kOwnerGateFlagFallback⟩) ∨
      owner = HvOwnerKindV2.SyntheticLab.word ∧
        outcome = ⟨.UseSynthetic, .SyntheticFallback, .Success, kOwnerGateFlagFallback⟩ := by
  simp only [grant, beq_iff_eq] at granted
  split at granted
  · rename_i owner
    exact Or.inl ⟨owner, (Option.some.inj granted).symm⟩
  split at granted
  · rename_i owner
    exact Or.inr (Or.inl ⟨owner, (Option.some.inj granted).symm⟩)
  split at granted
  · rename_i owner
    exact Or.inr (Or.inr (Or.inl ⟨owner, (Option.some.inj granted).symm⟩))
  split at granted
  · rename_i owner
    exact Or.inr (Or.inr (Or.inr ⟨owner, (Option.some.inj granted).symm⟩))
  · cases granted

theorem grant_result_valid (granted : grant observation.providerOwner = some outcome)
    (generation : observation.generation ≠ 0) :
    isOwnerGateResultValid (outcome.result observation) = true := by
  obtain ⟨size, version, _, _, _, _, _, _, _, owner, _, _, number⟩ := observation
  have counted : number ≠ 0#64 := generation
  rcases grant_word granted with ⟨rfl, rfl⟩ | ⟨rfl, rfl⟩ | ⟨rfl, rfl⟩ | ⟨rfl, rfl⟩ <;>
    simp [isOwnerGateResultValid, Outcome.result, setResult, initializeResult, counted] <;> decide

theorem grant_succeeds_iff {owner : U32} (granted : grant owner = some outcome) :
    outcome.status = .Success ↔ Succeeds outcome.action.word := by
  rcases grant_word granted with ⟨_, rfl⟩ | ⟨_, rfl⟩ | ⟨_, rfl⟩ | ⟨_, rfl⟩ <;>
    unfold Succeeds <;> decide

theorem grant_native_iff {owner : U32} (granted : grant owner = some outcome) :
    outcome.action.word = OwnerGateAction.AcquireNative.word ↔
      owner = HvOwnerKindV2.KnhvBootL0.word := by
  rcases grant_word granted with ⟨rfl, rfl⟩ | ⟨rfl, rfl⟩ | ⟨rfl, rfl⟩ | ⟨rfl, rfl⟩ <;> decide

/-- A ready native owner is never contradicted, and it is the only owner whose
support is native evidence. -/
theorem supports_native_iff (native : observation.providerOwner = HvOwnerKindV2.KnhvBootL0.word) :
    Supports observation ↔ NativeReady observation := by
  have isNative : isNativeOwner observation = true := beq_iff_eq.mpr native
  constructor
  · intro supports
    obtain ⟨evidence, active⟩ := supports.native isNative
    obtain ⟨⟨cpuid, windows, vbs, hvci⟩, device, handoff⟩ := hasNativeEvidence_iff.mp evidence
    simp only [isClear, isPresent, beq_iff_eq] at cpuid windows vbs hvci device handoff
    exact ⟨native, active, supports.generation, device, handoff, cpuid, windows, vbs, hvci⟩
  · intro ready
    have evidence : hasNativeEvidence observation = true := by
      simp only [hasNativeEvidence_iff, isClear, isPresent, beq_iff_eq]
      exact ⟨⟨ready.cpuid, ready.windows, ready.vbs, ready.hvci⟩, ready.device, ready.handoff⟩
    refine ⟨ready.generation, ?_, ?_, fun _ => ⟨evidence, ready.state⟩, ?_, ?_⟩
    · simp only [hasContradictoryEvidence, isNativeOwner, isExternalOwner, isPresent, native,
        ready.state, ready.cpuid, ready.windows, ready.handoff]
      rfl
    · rw [native]
      decide
    · intro whp
      rw [isWhpOwner, native] at whp
      exact absurd whp (by decide)
    · intro synthetic
      rw [isSyntheticOwner, native] at synthetic
      exact absurd synthetic (by decide)

/-- What the answer of the gate tells of an observation, a missing one
included. -/
structure GateSound (observation : Option OwnerObservation) (answer : Bool × OwnerGateResult) :
    Prop where
  returned : answer.1 = true ↔
    ∃ input, observation = some input ∧ isOwnerObservationValid input = true
  valid : isOwnerGateResultValid answer.2 = true
  native : answer.2.action = OwnerGateAction.AcquireNative.word ↔
    ∃ input, observation = some input ∧ isOwnerObservationValid input = true ∧ NativeReady input
  success : answer.2.status = HvStatus.Success.word ↔ Succeeds answer.2.action
  named : answer.2.action ≠ OwnerGateAction.Block.word →
    ∃ input, observation = some input ∧ answer.2.owner = input.providerOwner ∧
      answer.2.generation = input.generation ∧ answer.2.generation ≠ 0

theorem Refuses.sound {answered : Bool} {gate : OwnerGateResult} {source : Option OwnerObservation}
    (returned : answered = true ↔
      ∃ input, source = some input ∧ isOwnerObservationValid input = true)
    (valid : isOwnerGateResultValid gate = true)
    (action : gate.action = OwnerGateAction.Block.word)
    (status : gate.status ≠ HvStatus.Success.word)
    (unready : ∀ input, source = some input → isOwnerObservationValid input = true →
      ¬NativeReady input) :
    GateSound source (answered, gate) := by
  refine ⟨returned, valid, ?_, ?_, fun acts => absurd action acts⟩
  · rw [action]
    refine iff_of_false (by decide) ?_
    rintro ⟨input, same, validInput, ready⟩
    exact unready input same validInput ready
  · refine iff_of_false status ?_
    rw [action]
    unfold Succeeds
    decide

theorem evaluateOwnerGate_sound (observation : Option OwnerObservation) :
    GateSound observation (evaluateOwnerGate observation) := by
  cases observation with
  | none =>
    refine Refuses.sound ?_ (by decide) rfl (by decide) (fun _ same => by cases same)
    refine iff_of_false (by decide) ?_
    rintro ⟨_, same, _⟩
    cases same
  | some input =>
    by_cases valid : isOwnerObservationValid input = true
    swap
    · have invalid : isOwnerObservationValid input = false := Bool.eq_false_iff.mpr valid
      simp only [evaluateOwnerGate, invalid, Bool.not_false, if_true]
      refine Refuses.sound ?_ (by decide) rfl (by decide) ?_
      · refine iff_of_false (by decide) ?_
        rintro ⟨_, same, validInput⟩
        cases same
        exact valid validInput
      · intro other same validInput
        cases same
        exact absurd validInput valid
    simp only [evaluateOwnerGate, valid, Bool.not_true, Bool.false_eq_true, if_false]
    have returned : true = true ↔
        ∃ other, some input = some other ∧ isOwnerObservationValid other = true :=
      ⟨fun _ => ⟨input, rfl, valid⟩, fun _ => rfl⟩
    rcases decideOwner_decided valid with ⟨supports, outcome, granted, same⟩ | ⟨unsupported, same⟩
    · rw [same]
      refine ⟨returned, grant_result_valid granted supports.generation, ?_, ?_, ?_⟩
      · change outcome.action.word = _ ↔ _
        rw [grant_native_iff granted]
        constructor
        · intro native
          exact ⟨input, rfl, valid, (supports_native_iff native).mp supports⟩
        · rintro ⟨_, sameInput, _, ready⟩
          cases sameInput
          exact ready.owner
      · change outcome.status.word = _ ↔ _
        rw [HvStatus.word_eq_success]
        exact grant_succeeds_iff granted
      · intro _
        exact ⟨input, rfl, rfl, rfl, supports.generation⟩
    · rw [same]
      have refuses := refusal_refuses input
      refine Refuses.sound returned
        (refuses.result_valid (isOwnerObservationValid_owner valid)) ?_ ?_ ?_
      · change (refusal input).action.word = _
        rw [refuses.action]
      · change (refusal input).status.word ≠ _
        rw [Ne, HvStatus.word_eq_success]
        exact refuses.status
      · intro other sameInput _ ready
        cases sameInput
        exact unsupported ((supports_native_iff ready.owner).mpr ready)

/-- A valid result that acts names a generation. -/
theorem isOwnerGateResultValid_generation {gate : OwnerGateResult}
    (valid : isOwnerGateResultValid gate = true)
    (acts : gate.action ≠ OwnerGateAction.Block.word) : gate.generation ≠ 0 := by
  unfold isOwnerGateResultValid at valid
  split at valid
  · cases valid
  iterate 4
    split at valid
    · simp only [Bool.and_eq_true, bne_iff_ne] at valid
      exact valid.1.2
  · simp only [isBlockedResultConsistent, Bool.and_eq_true, beq_iff_eq] at valid
    exact absurd valid.1.1.1 acts

/-- The native owner of the observation is ready, yet the record is too short. -/
def shortObservation : OwnerObservation :=
  { OwnerObservation.zero with
    version := kOwnerObservationContractVersion
    cpuidHypervisor := OwnerEvidenceState.Clear.word
    windowsHypervisor := OwnerEvidenceState.Clear.word
    vbs := OwnerEvidenceState.Clear.word
    hvci := OwnerEvidenceState.Clear.word
    providerDevice := OwnerEvidenceState.Present.word
    bootHandoff := OwnerEvidenceState.Present.word
    providerOwner := HvOwnerKindV2.KnhvBootL0.word
    providerState := HvProviderStateV2.Active.word
    generation := 1 }

/-- Readiness alone does not open the gate. -/
theorem short_observation_blocked : NativeReady shortObservation ∧
    (evaluateOwnerGate (some shortObservation)).2.action ≠ OwnerGateAction.AcquireNative.word :=
  ⟨⟨rfl, rfl, by decide, rfl, rfl, rfl, rfl, rfl, rfl⟩, by decide⟩

end Knhv.Owner
