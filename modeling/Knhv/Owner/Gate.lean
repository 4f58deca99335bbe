import Mathlib.Data.Nat.Basic
import Knhv.Owner.Model

namespace Knhv.Owner

/-- What a result says beside the owner and the generation. -/
structure Outcome where
  action : OwnerGateAction
  reason : OwnerGateReason
  status : HvStatus
  flags : U32
  deriving DecidableEq

/-- What an owner gets that can be used. -/
def grant (owner : U32) : Option Outcome :=
  if owner == HvOwnerKindV2.KnhvBootL0.word then
    some ⟨.AcquireNative, .KnhvOwnerReady, .Success,
      kOwnerGateFlagEvidenceComplete ||| kOwnerGateFlagExclusive⟩
  else if owner == HvOwnerKindV2.ExternalL0.word then
    some ⟨.UseExternalProvider, .ExternalOwnerActive, .IncompatibleProvider,
      kOwnerGateFlagFallback ||| kOwnerGateFlagConflict⟩
  else if owner == HvOwnerKindV2.WhpManaged.word then
    some ⟨.UseWhp, .WhpFallback, .Success, kOwnerGateFlagFallback⟩
  else if owner == HvOwnerKindV2.SyntheticLab.word then
    some ⟨.UseSynthetic, .SyntheticFallback, .Success, kOwnerGateFlagFallback⟩
  else none

/-- The observation bears the owner out that it names. -/
structure Supports (observation : OwnerObservation) : Prop where
  generation : observation.generation ≠ 0
  consistent : hasContradictoryEvidence observation = false
  known : observation.providerOwner ≠ HvOwnerKindV2.Unknown.word
  native : isNativeOwner observation = true → hasNativeEvidence observation = true ∧
    observation.providerState = HvProviderStateV2.Active.word
  whp : isWhpOwner observation = true → isAvailableOrActive observation = true ∧
    isPresent observation.whpAvailable = true
  synthetic : isSyntheticOwner observation = true → isAvailableOrActive observation = true

/-- The first ground on which an owner is refused that is not borne out. -/
def refusal (observation : OwnerObservation) : Outcome :=
  if hasContradictoryEvidence observation then
    ⟨.Block, .ContradictoryEvidence, .HardwareOwnerConflict, kOwnerGateFlagConflict⟩
  else if isNativeOwner observation then
    if observation.generation == 0 then ⟨.Block, .GenerationMissing, .BootHandoffFailed, 0⟩
    else if !isPresent observation.bootHandoff then
      ⟨.Block, .KnhvHandoffMissing, .BootHandoffFailed, 0⟩
    else if observation.providerState != HvProviderStateV2.Active.word then
      ⟨.Block, .ProviderStateInvalid, .BootHandoffFailed, 0⟩
    else if isPresent observation.vbs then
      ⟨.Block, .VbsActive, .HardwareOwnerConflict, kOwnerGateFlagConflict⟩
    else if isPresent observation.hvci then
      ⟨.Block, .HvciActive, .HardwareOwnerConflict, kOwnerGateFlagConflict⟩
    else ⟨.Block, .UnknownOwner, .NestedUnavailable, 0⟩
  else if isExternalOwner observation then ⟨.Block, .GenerationMissing, .IncompatibleProvider, 0⟩
  else if isWhpOwner observation then
    if observation.generation == 0 then ⟨.Block, .GenerationMissing, .NestedUnavailable, 0⟩
    else ⟨.Block, .ProviderUnavailable, .NestedUnavailable, 0⟩
  else if isSyntheticOwner observation then ⟨.Block, .ProviderStateInvalid, .NestedUnavailable, 0⟩
  else if isPresent observation.vbs then
    ⟨.Block, .VbsActive, .HardwareOwnerConflict, kOwnerGateFlagConflict⟩
  else if isPresent observation.hvci then
    ⟨.Block, .HvciActive, .HardwareOwnerConflict, kOwnerGateFlagConflict⟩
  else if isPresent observation.windowsHypervisor then
    ⟨.Block, .WindowsHypervisorActive, .HardwareOwnerConflict, kOwnerGateFlagConflict⟩
  else if isPresent observation.cpuidHypervisor then
    ⟨.Block, .ExternalOwnerActive, .HardwareOwnerConflict, kOwnerGateFlagConflict⟩
  else if !isPresent observation.providerDevice then
    ⟨.Block, .ProviderUnavailable, .NestedUnavailable, 0⟩
  else ⟨.Block, .UnknownOwner, .NestedUnavailable, 0⟩

/-- The result that says an outcome of an observation. -/
def Outcome.result (outcome : Outcome) (observation : OwnerObservation) : OwnerGateResult :=
  setResult observation outcome.action outcome.reason outcome.status outcome.flags

theorem grant_acts {owner : U32} {outcome : Outcome} (granted : grant owner = some outcome) :
    outcome.action.word ≠ OwnerGateAction.Block.word := by
  unfold grant at granted
  repeat' split at granted
  all_goals
    cases granted
    try decide

/-- A valid observation that names an owner has found the device. -/
theorem isOwnerObservationValid_device {observation : OwnerObservation}
    (valid : isOwnerObservationValid observation = true)
    (known : observation.providerOwner ≠ HvOwnerKindV2.Unknown.word) :
    isPresent observation.providerDevice = true := by
  unfold isOwnerObservationValid at valid
  split at valid
  · cases valid
  split at valid
  · cases valid
  rename_i found
  simp only [Bool.and_eq_true, Bool.or_eq_true, bne_iff_ne, not_and, ne_eq, Decidable.not_not]
    at found
  exact beq_iff_eq.mpr (found (Or.inl known))

/-- The gate grants what is borne out and refuses the rest. -/
def Decided (observation : OwnerObservation) : Prop :=
  (Supports observation ∧ ∃ outcome, grant observation.providerOwner = some outcome ∧
      decideOwner observation = outcome.result observation) ∨
    ¬Supports observation ∧ decideOwner observation = (refusal observation).result observation

variable {observation : OwnerObservation}

theorem Decided.refused (unsupported : ¬Supports observation)
    (same : decideOwner observation = (refusal observation).result observation) :
    Decided observation :=
  Or.inr ⟨unsupported, same⟩

theorem hasNativeEvidence_iff :
    hasNativeEvidence observation = true ↔
      (isClear observation.cpuidHypervisor = true ∧ isClear observation.windowsHypervisor = true ∧
        isClear observation.vbs = true ∧ isClear observation.hvci = true) ∧
      isPresent observation.providerDevice = true ∧ isPresent observation.bootHandoff = true := by
  simp only [hasNativeEvidence, Bool.and_eq_true, and_assoc]

theorem not_isPresent_of_isClear {evidence : U32} (clear : isClear evidence = true) :
    isPresent evidence = false := by
  rw [isClear, beq_iff_eq] at clear
  rw [clear]
  decide

theorem decided_native (valid : isOwnerObservationValid observation = true)
    (consistent : hasContradictoryEvidence observation = false)
    (native : isNativeOwner observation = true) : Decided observation := by
  have owner : observation.providerOwner = HvOwnerKindV2.KnhvBootL0.word := beq_iff_eq.mp native
  have known : observation.providerOwner ≠ HvOwnerKindV2.Unknown.word := by
    rw [owner]
    decide
  have device := isOwnerObservationValid_device valid known
  by_cases generation : observation.generation = 0#64
  · refine .refused (fun supports => supports.generation generation) ?_
    simp [decideOwner, refusal, consistent, native, device, generation, Outcome.result]
  by_cases handoff : isPresent observation.bootHandoff = true
  swap
  · refine .refused (fun supports => handoff ?_) ?_
    · exact (hasNativeEvidence_iff.mp (supports.native native).1).2.2
    · simp [decideOwner, refusal, consistent, native, device, generation, handoff, Outcome.result]
  by_cases active : observation.providerState = HvProviderStateV2.Active.word
  swap
  · refine .refused (fun supports => active (supports.native native).2) ?_
    simp [decideOwner, refusal, consistent, native, device, generation, handoff, active,
      Outcome.result]
  by_cases vbs : isPresent observation.vbs = true
  · refine .refused (fun supports => ?_) ?_
    · have clear := (hasNativeEvidence_iff.mp (supports.native native).1).1.2.2.1
      rw [not_isPresent_of_isClear clear] at vbs
      cases vbs
    · simp [decideOwner, refusal, consistent, native, device, generation, handoff, active, vbs,
        Outcome.result]
  by_cases hvci : isPresent observation.hvci = true
  · refine .refused (fun supports => ?_) ?_
    · have clear := (hasNativeEvidence_iff.mp (supports.native native).1).1.2.2.2
      rw [not_isPresent_of_isClear clear] at hvci
      cases hvci
    · simp [decideOwner, refusal, consistent, native, device, generation, handoff, active, vbs,
        hvci, Outcome.result]
  by_cases evidence : hasNativeEvidence observation = true
  swap
  · refine .refused (fun supports => evidence (supports.native native).1) ?_
    simp [decideOwner, refusal, consistent, native, device, generation, handoff, active, vbs,
      hvci, evidence, Outcome.result]
  refine Or.inl ⟨⟨generation, consistent, known, fun _ => ⟨evidence, active⟩, ?_, ?_⟩, ?_⟩
  · simp [isWhpOwner, owner, HvOwnerKindV2.word]
  · simp [isSyntheticOwner, owner, HvOwnerKindV2.word]
  · refine ⟨_, by rw [owner]; rfl, ?_⟩
    simp [decideOwner, consistent, native, device, generation, handoff, active, vbs, hvci,
      evidence, Outcome.result]

theorem decided_external (consistent : hasContradictoryEvidence observation = false)
    (owner : observation.providerOwner = HvOwnerKindV2.ExternalL0.word) : Decided observation := by
  have native : isNativeOwner observation = false := by simp [isNativeOwner, owner, HvOwnerKindV2.word]
  have external : isExternalOwner observation = true := by simp [isExternalOwner, owner]
  by_cases generation : observation.generation = 0#64
  · refine .refused (fun supports => supports.generation generation) ?_
    simp [decideOwner, refusal, consistent, native, external, generation, Outcome.result]
  refine Or.inl ⟨⟨generation, consistent, ?_, ?_, ?_, ?_⟩, _, by rw [owner]; rfl, ?_⟩
  · rw [owner]
    decide
  · simp [native]
  · simp [isWhpOwner, owner, HvOwnerKindV2.word]
  · simp [isSyntheticOwner, owner, HvOwnerKindV2.word]
  · simp [decideOwner, consistent, native, external, generation, Outcome.result]

theorem decided_whp (consistent : hasContradictoryEvidence observation = false)
    (owner : observation.providerOwner = HvOwnerKindV2.WhpManaged.word) : Decided observation := by
  have native : isNativeOwner observation = false := by simp [isNativeOwner, owner, HvOwnerKindV2.word]
  have external : isExternalOwner observation = false := by
    simp [isExternalOwner, owner, HvOwnerKindV2.word]
  have whp : isWhpOwner observation = true := by simp [isWhpOwner, owner]
  by_cases generation : observation.generation = 0#64
  · refine .refused (fun supports => supports.generation generation) ?_
    simp [decideOwner, refusal, consistent, native, external, whp, generation, Outcome.result]
  by_cases usable : isAvailableOrActive observation = true ∧
      isPresent observation.whpAvailable = true
  swap
  · refine .refused (fun supports => usable (supports.whp whp)) ?_
    have unusable : (!isAvailableOrActive observation || !isPresent observation.whpAvailable) =
        true := by
      simpa [Classical.or_iff_not_imp_left] using usable
    simp [decideOwner, refusal, consistent, native, external, whp, generation, unusable,
      Outcome.result]
  refine Or.inl ⟨⟨generation, consistent, ?_, ?_, fun _ => usable, ?_⟩, _, by rw [owner]; rfl, ?_⟩
  · rw [owner]
    decide
  · simp [native]
  · simp [isSyntheticOwner, owner, HvOwnerKindV2.word]
  · simp [decideOwner, consistent, native, external, whp, generation, usable, Outcome.result]

theorem decided_synthetic (consistent : hasContradictoryEvidence observation = false)
    (owner : observation.providerOwner = HvOwnerKindV2.SyntheticLab.word) :
    Decided observation := by
  have native : isNativeOwner observation = false := by simp [isNativeOwner, owner, HvOwnerKindV2.word]
  have external : isExternalOwner observation = false := by
    simp [isExternalOwner, owner, HvOwnerKindV2.word]
  have whp : isWhpOwner observation = false := by simp [isWhpOwner, owner, HvOwnerKindV2.word]
  have synthetic : isSyntheticOwner observation = true := by simp [isSyntheticOwner, owner]
  by_cases generation : observation.generation = 0#64
  · refine .refused (fun supports => supports.generation generation) ?_
    simp [decideOwner, refusal, consistent, native, external, whp, synthetic, generation,
      Outcome.result]
  by_cases usable : isAvailableOrActive observation = true
  swap
  · refine .refused (fun supports => usable (supports.synthetic synthetic)) ?_
    simp [decideOwner, refusal, consistent, native, external, whp, synthetic, usable,
      Outcome.result]
  refine Or.inl ⟨⟨generation, consistent, ?_, ?_, ?_, fun _ => usable⟩, _, by rw [owner]; rfl, ?_⟩
  · rw [owner]
    decide
  · simp [native]
  · simp [whp]
  · simp [decideOwner, consistent, native, external, whp, synthetic, generation, usable,
      Outcome.result]

theorem isOwnerObservationValid_owner (valid : isOwnerObservationValid observation = true) :
    isOwnerKindValid observation.providerOwner = true := by
  unfold isOwnerObservationValid at valid
  split at valid
  · cases valid
  rename_i fields
  simp only [Bool.or_eq_true, not_or, Bool.not_eq_true', Bool.not_eq_false] at fields
  exact fields.1.1.2

theorem isOwnerKindValid_cases {owner : U32} (valid : isOwnerKindValid owner = true) :
    owner = HvOwnerKindV2.Unknown.word ∨ owner = HvOwnerKindV2.ExternalL0.word ∨
      owner = HvOwnerKindV2.KnhvBootL0.word ∨ owner = HvOwnerKindV2.WhpManaged.word ∨
      owner = HvOwnerKindV2.SyntheticLab.word := by
  simp only [isOwnerKindValid, decide_eq_true_eq, BitVec.le_def, HvOwnerKindV2.word] at valid
  simp only [HvOwnerKindV2.word, ← BitVec.toNat_inj]
  have bound : owner.toNat ≤ 4 := valid
  change owner.toNat = 0 ∨ owner.toNat = 1 ∨ owner.toNat = 2 ∨ owner.toNat = 3 ∨ owner.toNat = 4
  omega

theorem decided_unknown (consistent : hasContradictoryEvidence observation = false)
    (owner : observation.providerOwner = HvOwnerKindV2.Unknown.word) : Decided observation := by
  have native : isNativeOwner observation = false := by simp [isNativeOwner, owner, HvOwnerKindV2.word]
  have external : isExternalOwner observation = false := by
    simp [isExternalOwner, owner, HvOwnerKindV2.word]
  have whp : isWhpOwner observation = false := by simp [isWhpOwner, owner, HvOwnerKindV2.word]
  have synthetic : isSyntheticOwner observation = false := by
    simp [isSyntheticOwner, owner, HvOwnerKindV2.word]
  refine .refused (fun supports => supports.known owner) ?_
  simp only [decideOwner, refusal, consistent, native, external, whp, synthetic,
    Bool.false_eq_true, if_false]
  repeat' split
  all_goals rfl

theorem decideOwner_decided (valid : isOwnerObservationValid observation = true) :
    Decided observation := by
  by_cases contradictory : hasContradictoryEvidence observation = true
  · refine .refused (fun supports => ?_) ?_
    · rw [supports.consistent] at contradictory
      cases contradictory
    · simp [decideOwner, refusal, contradictory, Outcome.result]
  have consistent : hasContradictoryEvidence observation = false :=
    Bool.eq_false_iff.mpr contradictory
  rcases isOwnerKindValid_cases (isOwnerObservationValid_owner valid) with
    owner | owner | owner | owner | owner
  · exact decided_unknown consistent owner
  · exact decided_external consistent owner
  · exact decided_native valid consistent (by simp [isNativeOwner, owner])
  · exact decided_whp consistent owner
  · exact decided_synthetic consistent owner

/-- The fields of a record say an outcome. -/
structure Records (gate : OwnerGateResult) (outcome : Outcome) : Prop where
  action : gate.action = outcome.action.word
  reason : gate.reason = outcome.reason.word
  status : gate.status = outcome.status.word
  flags : gate.flags = outcome.flags

/-- What the validator of a record leaves open. -/
structure GateShape (gate : OwnerGateResult) : Prop where
  version : gate.version = kOwnerObservationContractVersion
  reserved : gate.reserved = 0
  outcome : gate.action = OwnerGateAction.Block.word ∨
    gate.action ≠ OwnerGateAction.Block.word ∧
      ∃ outcome, grant gate.owner = some outcome ∧ Records gate outcome

/-- A row of the validator for the results that act. -/
theorem records_of_row {gate : OwnerGateResult} {action : OwnerGateAction}
    {reason : OwnerGateReason} {status : HvStatus} {owner : HvOwnerKindV2} {flags : U32}
    (actionIs : (gate.action == action.word) = true)
    (row : (gate.status == status.word && gate.reason == reason.word &&
      gate.owner == owner.word && gate.generation != 0 && gate.flags == flags) = true)
    (granted : grant owner.word = some ⟨action, reason, status, flags⟩)
    (acts : action.word ≠ OwnerGateAction.Block.word) :
    gate.action ≠ OwnerGateAction.Block.word ∧
      ∃ outcome, grant gate.owner = some outcome ∧ Records gate outcome := by
  simp only [Bool.and_eq_true, beq_iff_eq] at actionIs row
  obtain ⟨⟨⟨⟨statusIs, reasonIs⟩, ownerIs⟩, _⟩, flagsAre⟩ := row
  refine ⟨by rw [actionIs]; exact acts, _, by rw [ownerIs]; exact granted, ?_⟩
  exact ⟨actionIs, reasonIs, statusIs, flagsAre⟩

theorem isOwnerGateResultValid_shape {gate : OwnerGateResult}
    (valid : isOwnerGateResultValid gate = true) : GateShape gate := by
  unfold isOwnerGateResultValid at valid
  split at valid
  · cases valid
  rename_i fields
  simp only [Bool.or_eq_true, not_or, Bool.not_eq_true', Bool.not_eq_false, bne_iff_ne, ne_eq,
    Decidable.not_not, isVersionedSizeValid, Matrix.versionedSizeValid, Bool.and_eq_true,
    beq_iff_eq] at fields
  refine ⟨fields.1.1.1.1.1.1.1.1, fields.2, ?_⟩
  split at valid
  · rename_i action
    exact Or.inr (records_of_row action valid rfl (by decide))
  split at valid
  · rename_i action
    exact Or.inr (records_of_row action valid rfl (by decide))
  split at valid
  · rename_i action
    exact Or.inr (records_of_row action valid rfl (by decide))
  split at valid
  · rename_i action
    exact Or.inr (records_of_row action valid rfl (by decide))
  · simp only [isBlockedResultConsistent, Bool.and_eq_true, beq_iff_eq] at valid
    exact Or.inl valid.1.1.1

/-- The record is the one that the gate leaves for the observation: it has the
size of the structure, it acts exactly if the observation bears the owner out,
and if it blocks it does so on the first ground that applies. -/
structure Genuine (observation : OwnerObservation) (gate : OwnerGateResult) : Prop where
  size : gate.size = sizeofOwnerGateResult
  acts : Supports observation → gate.action ≠ OwnerGateAction.Block.word
  blocks : ¬Supports observation → Records gate (refusal observation)

theorem Outcome.result_eq_iff {outcome : Outcome} {gate : OwnerGateResult} (shape : GateShape gate)
    (owner : observation.providerOwner = gate.owner)
    (generation : observation.generation = gate.generation) :
    outcome.result observation = gate ↔ gate.size = sizeofOwnerGateResult ∧ Records gate outcome := by
  constructor
  · intro same
    rw [← same]
    exact ⟨rfl, rfl, rfl, rfl, rfl⟩
  · rintro ⟨size, records⟩
    obtain ⟨version, reserved, _⟩ := shape
    obtain ⟨action, reason, status, flags⟩ := records
    cases gate
    simp only [Outcome.result, setResult, initializeResult, OwnerGateResult.mk.injEq] at *
    exact ⟨size.symm, version.symm, action.symm, reason.symm, status.symm, owner, flags.symm,
      reserved.symm, generation⟩

theorem Records.unique {gate : OwnerGateResult} {first second : Outcome}
    (one : grant gate.owner = some first) (other : grant gate.owner = some second)
    (records : Records gate second) : Records gate first := by
  rw [Option.some.inj (one.symm.trans other)]
  exact records

/-- A valid record of an owner and a generation is what the gate leaves for a
valid observation of them exactly if it is genuine. -/
theorem evaluateOwnerGate_eq_iff {gate : OwnerGateResult}
    (valid : isOwnerObservationValid observation = true)
    (gateValid : isOwnerGateResultValid gate = true)
    (owner : observation.providerOwner = gate.owner)
    (generation : observation.generation = gate.generation) :
    evaluateOwnerGate (some observation) = (true, gate) ↔ Genuine observation gate := by
  have shape := isOwnerGateResultValid_shape gateValid
  have evaluated : evaluateOwnerGate (some observation) = (true, gate) ↔
      decideOwner observation = gate := by
    simp [evaluateOwnerGate, valid]
  rw [evaluated]
  rcases decideOwner_decided valid with ⟨supports, outcome, granted, same⟩ | ⟨unsupported, same⟩
  · rw [same, Outcome.result_eq_iff shape owner generation]
    constructor
    · rintro ⟨size, records⟩
      refine ⟨size, fun _ => ?_, fun not => absurd supports not⟩
      rw [records.action]
      exact grant_acts granted
    · intro genuine
      refine ⟨genuine.size, ?_⟩
      rcases shape.outcome with blocked | ⟨_, recorded, known, records⟩
      · exact absurd blocked (genuine.acts supports)
      · rw [owner] at granted
        exact records.unique granted known
  · rw [same, Outcome.result_eq_iff shape owner generation]
    constructor
    · rintro ⟨size, records⟩
      exact ⟨size, fun supports => absurd supports unsupported, fun _ => records⟩
    · intro genuine
      exact ⟨genuine.size, genuine.blocks unsupported⟩

end Knhv.Owner
