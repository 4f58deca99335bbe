import Mathlib.Data.Fintype.Pi
import Knhv.Evidence.Snapshot
import Knhv.Owner.Gate

namespace Knhv.Evidence

open Knhv.Matrix Owner Snapshot

variable {snapshot : TargetEvidenceSnapshot} {cpuSamples : Samples CpuMatrixSample}
  {vmxSamples : Samples VmxCapabilitySample}

/-- Every check of a list is clear. -/
def Clear (checks : List Check) : Prop := ∀ check ∈ checks, check.1 = false

/-- What an accepted snapshot has passed, section by section. -/
structure Accepted (snapshot : TargetEvidenceSnapshot) (cpuSamples : Samples CpuMatrixSample)
    (vmxSamples : Samples VmxCapabilitySample) : Prop where
  header : Clear (headerChecks snapshot)
  cpu : Clear (cpuChecks snapshot cpuSamples)
  vmx : Clear (vmxChecks snapshot vmxSamples)
  owner : Clear (ownerChecks snapshot)
  time : Clear (timeChecks snapshot)
  artifact : Clear (artifactChecks snapshot)
  signature : Clear (signatureChecks snapshot)
  coverage : Clear (coverageChecks snapshot)
  required : Clear (requiredChecks snapshot)

/-- No check of the validator fails with success. -/
theorem checks_fail (snapshot : TargetEvidenceSnapshot) (cpuSamples : Samples CpuMatrixSample)
    (vmxSamples : Samples VmxCapabilitySample) :
    ∀ check ∈ checks snapshot cpuSamples vmxSamples, check.2 ≠ .Success := by
  have statuses : ((checks snapshot cpuSamples vmxSamples).map Prod.snd).all (· != .Success) =
      true := rfl
  intro check member
  rw [List.all_eq_true] at statuses
  exact bne_iff_ne.mp (statuses check.2 (List.mem_map_of_mem member))

theorem validate_eq_success_iff :
    validateTargetEvidenceSnapshot (some snapshot) cpuSamples vmxSamples = .Success ↔
      Accepted snapshot cpuSamples vmxSamples := by
  have split : Clear (checks snapshot cpuSamples vmxSamples) ↔
      Accepted snapshot cpuSamples vmxSamples := by
    simp only [Clear, checks, List.forall_mem_append]
    constructor
    · rintro ⟨⟨⟨⟨⟨⟨⟨⟨header, cpu⟩, vmx⟩, owner⟩, time⟩, artifact⟩, signature⟩, coverage⟩, required⟩
      exact ⟨header, cpu, vmx, owner, time, artifact, signature, coverage, required⟩
    · rintro ⟨header, cpu, vmx, owner, time, artifact, signature, coverage, required⟩
      exact ⟨⟨⟨⟨⟨⟨⟨⟨header, cpu⟩, vmx⟩, owner⟩, time⟩, artifact⟩, signature⟩, coverage⟩, required⟩
  rw [← split]
  constructor
  · exact FirstFailure.clear_of_verdict (checks_fail snapshot cpuSamples vmxSamples)
  · exact FirstFailure.verdict_eq_of_all_clear

/-- What the validator has looked at when the owner's evidence is there. -/
structure OwnerAccepted (snapshot : TargetEvidenceSnapshot) : Prop where
  observation : isOwnerObservationValid snapshot.ownerObservation = true
  gate : isOwnerGateResultValid snapshot.ownerGate = true
  owner : snapshot.ownerObservation.providerOwner = snapshot.ownerGate.owner
  observed : snapshot.ownerObservation.generation = snapshot.generation
  gated : snapshot.ownerGate.generation = snapshot.generation

theorem Accepted.ownerAccepted (accepted : Accepted snapshot cpuSamples vmxSamples)
    (present : isOwnerEvidencePresent snapshot = true) : OwnerAccepted snapshot := by
  have clear := accepted.owner
  simp only [isOwnerEvidencePresent, Bool.and_eq_true] at present
  simp only [Clear, ownerChecks, List.forall_mem_cons, present.1, Bool.true_and,
    Bool.or_eq_false_iff, Bool.not_eq_false', bne_eq_false_iff_eq] at clear
  obtain ⟨_, ⟨⟨observation, gate⟩, owner⟩, ⟨observed, gated⟩, _⟩ := clear
  exact ⟨observation, gate, owner, observed, gated⟩

/-- The gate that an accepted snapshot records is the one that its observation
gives exactly if it is genuine: unlike the matrices, it is not recomputed. -/
theorem owner_gate_recorded_iff
    (accepted : validateTargetEvidenceSnapshot (some snapshot) cpuSamples vmxSamples = .Success)
    (present : isOwnerEvidencePresent snapshot = true) :
    evaluateOwnerGate (some snapshot.ownerObservation) = (true, snapshot.ownerGate) ↔
      Genuine snapshot.ownerObservation snapshot.ownerGate := by
  have owner := (validate_eq_success_iff.mp accepted).ownerAccepted present
  exact evaluateOwnerGate_eq_iff owner.observation owner.gate owner.owner
    (owner.observed.trans owner.gated.symm)

/-- A snapshot of a running boot stage that has only the owner's evidence. -/
def ownerSnapshot (profile : TargetEvidenceProfile) (observation : OwnerObservation)
    (gate : OwnerGateResult) : TargetEvidenceSnapshot where
  size := sizeofTargetEvidenceSnapshot
  version := kTargetEvidenceSnapshotContractVersion
  flags := kTargetEvidenceSnapshotFlagOwnerObservation ||| kTargetEvidenceSnapshotFlagOwnerGate
  reserved := 0
  profile := profile.word
  stage := TargetEvidenceStage.Boot.word
  verdict := TargetEvidenceVerdict.Running.word
  reserved1 := 0
  warningCount := 0
  errorCount := 0
  artifactCount := 0
  reserved2 := 0
  generation := observation.generation
  startedTsc := 0
  endedTsc := 0
  cpuMatrix := .zero
  vmxMatrix := .zero
  ownerObservation := observation
  ownerGate := gate
  signature := .zero
  machineId := .zero
  buildId := .zero
  artifactHash := .zero
  capabilityHash := .zero
  manifestHash := .zero

/-- An active boot root, with what the probe of VBS says. -/
def bootRootObservation (vbs : OwnerEvidenceState) : OwnerObservation where
  size := sizeofOwnerObservation
  version := kOwnerObservationContractVersion
  cpuidHypervisor := OwnerEvidenceState.Clear.word
  windowsHypervisor := OwnerEvidenceState.Clear.word
  vbs := vbs.word
  hvci := OwnerEvidenceState.Clear.word
  whpAvailable := OwnerEvidenceState.Clear.word
  providerDevice := OwnerEvidenceState.Present.word
  bootHandoff := OwnerEvidenceState.Present.word
  providerOwner := HvOwnerKindV2.KnhvBootL0.word
  providerState := HvProviderStateV2.Active.word
  reserved := 0
  generation := 1

/-- The record of a gate that gives the hardware to the boot root. -/
def acquiredGate : OwnerGateResult := (evaluateOwnerGate (some (bootRootObservation .Clear))).2

theorem owner_gate_recorded_clear :
    evaluateOwnerGate (some (bootRootObservation .Clear)) = (true, acquiredGate) ↔
      Genuine (bootRootObservation .Clear) acquiredGate :=
  @owner_gate_recorded_iff (ownerSnapshot .NativeIntelL0 (bootRootObservation .Clear) acquiredGate)
    (.null 0) (.null 0) (by decide) (by decide)

/-- Native ownership is recorded over active VBS, and accepted. -/
theorem owner_gate_forged :
    validateTargetEvidenceSnapshot
        (some (ownerSnapshot .NativeIntelL0 (bootRootObservation .Present) acquiredGate)) (.null 0)
        (.null 0) = .Success ∧
      isOwnerEvidencePresent
        (ownerSnapshot .NativeIntelL0 (bootRootObservation .Present) acquiredGate) = true ∧
      acquiredGate.action = OwnerGateAction.AcquireNative.word ∧
      (evaluateOwnerGate (some (bootRootObservation .Present))).2.action =
        OwnerGateAction.Block.word := by
  decide

end Knhv.Evidence
