import Mathlib.Data.Nat.Basic
import Knhv.Control.Model
import Knhv.Provider.Agreement

namespace Knhv.Provider

variable {capabilities : HvCapabilitySnapshot}

/-- The boot root is the one owner that the flags name. -/
structure BootRootAlone (capabilities : HvCapabilitySnapshot) : Prop where
  active : hasFlag capabilities kFlagKnhvBootL0Active = true
  real : hasFlag capabilities kFlagSyntheticSnapshot = false
  free : hasFlag capabilities kFlagOuterL0Active = false
  unmanaged : hasFlag capabilities kFlagWhpPartition = false

/-- A boot root that owns the machine alone has VMX, and counts its generations
once the handoff is verified. -/
def Upgradable (capabilities : HvCapabilitySnapshot) : Prop :=
  BootRootAlone capabilities → hasFeature capabilities kCapVmx = true ∧
    (hasFlag capabilities kFlagBootHandoffVerified = true →
      capabilities.ownerGeneration ≠ 0 ∨ capabilities.bootGeneration ≠ 0)

/-- The features that the owners named by the flags stand on. -/
structure OwnerFeatures (capabilities : HvCapabilitySnapshot) : Prop where
  boot : hasFlag capabilities kFlagKnhvBootL0Active = true →
    hasFeature capabilities kCapBootL0 = true
  synthetic : hasFlag capabilities kFlagSyntheticSnapshot = true →
    hasFeature capabilities kCapNestedVmx = true
  whp : hasFlag capabilities kFlagWhpPartition = true →
    hasFeature capabilities kCapWhpPartition = true

/-- A flag that is one of several named together. -/
theorem hasFlag_part {flag flags : U32} (part : flags &&& flag = flag)
    (set : hasFlag capabilities flag = true) : capabilities.statusFlags &&& flags ≠ 0 := by
  simp only [hasFlag, bne_iff_ne] at set
  intro none
  rw [← part, ← BitVec.and_assoc, none] at set
  exact set BitVec.zero_and

theorem snapshotIsValid_owners (valid : snapshotIsValid capabilities = true) :
    OwnerFeatures capabilities := by
  refine ⟨fun flag => bne_iff_ne.mpr ((snapshotIsValid_features valid).boot flag), ?_, ?_⟩
  all_goals
    unfold snapshotIsValid at valid
    dsimp only at valid
    iterate 4
      split at valid
      · cases valid
    split at valid
    · cases valid
    rename_i nested
    split at valid
    · cases valid
    rename_i partition
    simp only [Bool.and_eq_true, bne_iff_ne, beq_iff_eq, not_and] at nested partition
    intro flag
  · exact bne_iff_ne.mpr (nested (hasFlag_part (by decide) flag))
  · exact bne_iff_ne.mpr (partition (hasFlag_part (by decide) flag))

/-- The owner and the state that the flags of a snapshot come down to. -/
inductive OwnerView (capabilities : HvCapabilitySnapshot) (upgraded : HvCapabilitySnapshotV2) : Prop
  | unowned (owner : upgraded.ownerKind = HvOwnerKindV2.Unknown.word)
      (state : upgraded.state = HvProviderStateV2.Conflict.word ∨
        upgraded.state = HvProviderStateV2.Blocked.word)
      (policy : upgraded.policyFeatures = kPolicyNoPhysicalDma ∨ upgraded.policyFeatures = 0)
      (shared : ¬BootRootAlone capabilities)
  | synthetic (owner : upgraded.ownerKind = HvOwnerKindV2.SyntheticLab.word)
      (state : upgraded.state = HvProviderStateV2.Available.word)
      (policy : upgraded.policyFeatures = kPolicySyntheticOnly ||| kPolicyNoPhysicalDma)
      (flag : hasFlag capabilities kFlagSyntheticSnapshot = true)
  | bootRoot (owner : upgraded.ownerKind = HvOwnerKindV2.KnhvBootL0.word)
      (state : upgraded.state = if hasFlag capabilities kFlagBootHandoffVerified then
        HvProviderStateV2.Active.word else HvProviderStateV2.Blocked.word)
      (policy : upgraded.policyFeatures = kPolicyExclusiveOwner ||| kPolicyWindowsHandoff)
      (alone : BootRootAlone capabilities)
  | outer (owner : upgraded.ownerKind = HvOwnerKindV2.ExternalL0.word)
      (state : upgraded.state = HvProviderStateV2.Conflict.word)
      (policy : upgraded.policyFeatures = kPolicyNoPhysicalDma)
      (flag : hasFlag capabilities kFlagOuterL0Active = true)
  | whp (owner : upgraded.ownerKind = HvOwnerKindV2.WhpManaged.word)
      (state : upgraded.state = HvProviderStateV2.Available.word)
      (policy : upgraded.policyFeatures = kPolicyNoPhysicalDma)
      (flag : hasFlag capabilities kFlagWhpPartition = true)

/-- What the upgrade copies whatever the owner is. -/
structure Upgraded (capabilities : HvCapabilitySnapshot) (upgraded : HvCapabilitySnapshotV2) :
    Prop where
  size : upgraded.size = sizeofHvCapabilitySnapshotV2
  version : upgraded.version = kAbiV2Version
  hardware : upgraded.hardwareFeatures = capabilities.featureBits &&& kV2HardwareFeatureMask
  provider : upgraded.providerFeatures = capabilities.featureBits &&& kV2ProviderFeatureMask
  generation : upgraded.generation = capabilityGeneration capabilities
  owner : OwnerView capabilities upgraded

theorem makeCapabilitySnapshotV2_upgraded (header : isVersionedBufferValid capabilities.version
    capabilities.size sizeofHvCapabilitySnapshot = true) :
    Upgraded capabilities (makeCapabilitySnapshotV2 (some capabilities)) := by
  simp only [makeCapabilitySnapshotV2, header, Bool.not_true, Bool.false_eq_true, if_false]
  have one {flag : U32} (set : hasFlag capabilities flag = true) :
      ownerFlag capabilities.statusFlags flag = 1 := if_pos set
  have none {flag : U32} (clear : hasFlag capabilities flag = false) :
      ownerFlag capabilities.statusFlags flag = 0 := if_neg (Bool.eq_false_iff.mp clear)
  split
  · rename_i several
    refine ⟨rfl, rfl, rfl, rfl, rfl, .unowned rfl (Or.inl rfl) (Or.inl rfl) fun alone => ?_⟩
    rw [one alone.active, none alone.real, none alone.free, none alone.unmanaged] at several
    omega
  rename_i single
  split
  · rename_i synthetic
    exact ⟨rfl, rfl, rfl, rfl, rfl, .synthetic rfl rfl rfl synthetic⟩
  rename_i real
  split
  · rename_i active
    refine ⟨rfl, rfl, rfl, rfl, rfl, .bootRoot rfl rfl rfl ⟨active, ?_, ?_, ?_⟩⟩
    · exact Bool.eq_false_iff.mpr real
    · refine Bool.eq_false_iff.mpr fun outer => ?_
      rw [one active, one outer] at single
      omega
    · refine Bool.eq_false_iff.mpr fun managed => ?_
      rw [one active, one managed] at single
      omega
  rename_i inactive
  split
  · rename_i outer
    exact ⟨rfl, rfl, rfl, rfl, rfl, .outer rfl rfl rfl outer⟩
  split
  · rename_i managed
    exact ⟨rfl, rfl, rfl, rfl, rfl, .whp rfl rfl rfl managed⟩
  · exact ⟨rfl, rfl, rfl, rfl, rfl, .unowned rfl (Or.inr rfl) (Or.inr rfl)
      fun alone => inactive alone.active⟩

/-- The validator of the second version, for a snapshot that was upgraded from
one that the first version accepts. -/
theorem isCapabilitySnapshotV2Valid_upgraded_iff (valid : snapshotIsValid capabilities = true) :
    isCapabilitySnapshotV2Valid (makeCapabilitySnapshotV2 (some capabilities)) = true ↔
      Upgradable capabilities := by
  have features := snapshotIsValid_owners valid
  obtain ⟨size, version, hardware, provider, generation, owner⟩ :=
    makeCapabilitySnapshotV2_upgraded (snapshotIsValid_features valid).header
  generalize makeCapabilitySnapshotV2 (some capabilities) = upgraded at *
  have header : isAbiV2BufferValid upgraded.version upgraded.size
      sizeofHvCapabilitySnapshotV2 = true := by
    rw [size, version]
    decide
  have hardwareKnown : upgraded.hardwareFeatures &&& ~~~kV2HardwareFeatureMask = 0#64 := by
    rw [hardware, BitVec.and_assoc]
    simp
  have providerKnown : upgraded.providerFeatures &&& ~~~kV2ProviderFeatureMask = 0#64 := by
    rw [provider, BitVec.and_assoc]
    simp
  have policyKnown : upgraded.policyFeatures &&& ~~~kKnownPolicyFeatureMask = 0#64 := by
    cases owner with
    | unowned _ _ policy _ => rcases policy with policy | policy <;> rw [policy] <;> decide
    | synthetic _ _ policy _ | bootRoot _ _ policy _ | outer _ _ policy _ | whp _ _ policy _ =>
      rw [policy]
      decide
  have nested : upgraded.providerFeatures &&& kCapNestedVmx = capabilities.featureBits &&&
      kCapNestedVmx := by
    rw [provider, BitVec.and_assoc]
    rfl
  have boot : upgraded.providerFeatures &&& kCapBootL0 = capabilities.featureBits &&&
      kCapBootL0 := by
    rw [provider, BitVec.and_assoc]
    rfl
  have partition : upgraded.providerFeatures &&& kCapWhpPartition = capabilities.featureBits &&&
      kCapWhpPartition := by
    rw [provider, BitVec.and_assoc]
    rfl
  have vmx : upgraded.hardwareFeatures &&& kCapVmx = capabilities.featureBits &&& kCapVmx := by
    rw [hardware, BitVec.and_assoc]
    rfl
  simp only [isCapabilitySnapshotV2Valid, header, hardwareKnown, providerKnown, policyKnown,
    nested, boot, partition, vmx]
  cases owner with
  | unowned owner state policy shared =>
    refine iff_of_true ?_ (fun alone => absurd alone shared)
    rcases state with state | state
    · rw [owner, state]
      rfl
    · rw [owner, state]
      rfl
  | synthetic owner state policy flag =>
    refine iff_of_true ?_ (fun alone => ?_)
    · have cap := features.synthetic flag
      simp only [hasFeature, bne_iff_ne] at cap
      rw [owner, state, policy, beq_eq_false_iff_ne.mpr cap]
      rfl
    · rw [alone.real] at flag
      cases flag
  | bootRoot owner state policy alone =>
    have root := features.boot alone.active
    simp only [hasFeature, bne_iff_ne] at root
    have counts := @capabilityGeneration_ne_zero_iff capabilities
    rw [← generation] at counts
    rw [owner, policy, beq_eq_false_iff_ne.mpr root]
    have upgradable : Upgradable capabilities ↔ capabilities.featureBits &&& kCapVmx ≠ 0 ∧
        (hasFlag capabilities kFlagBootHandoffVerified = true → upgraded.generation ≠ 0) := by
      rw [counts]
      simp only [Upgradable, alone, hasFeature, bne_iff_ne, true_imp_iff]
    rw [upgradable]
    by_cases cap : capabilities.featureBits &&& kCapVmx = 0
    · refine iff_of_false ?_ (fun upgrade => upgrade.1 cap)
      simp [cap, HvOwnerKindV2.word]
    by_cases handoff : hasFlag capabilities kFlagBootHandoffVerified = true
    · by_cases counted : upgraded.generation = 0
      · refine iff_of_false ?_ (fun upgrade => upgrade.2 handoff counted)
        simp [state, handoff, counted]
      · refine iff_of_true ?_ ⟨cap, fun _ => counted⟩
        rw [state, if_pos handoff, beq_eq_false_iff_ne.mpr cap, beq_eq_false_iff_ne.mpr counted]
        rfl
    · refine iff_of_true ?_ ⟨cap, fun verified => absurd verified handoff⟩
      rw [state, if_neg handoff, beq_eq_false_iff_ne.mpr cap]
      rfl
  | outer owner state policy flag =>
    refine iff_of_true ?_ (fun alone => ?_)
    · rw [owner, state]
      rfl
    · rw [alone.free] at flag
      cases flag
  | whp owner state policy flag =>
    refine iff_of_true ?_ (fun alone => ?_)
    · have cap := features.whp flag
      simp only [hasFeature, bne_iff_ne] at cap
      rw [owner, state, beq_eq_false_iff_ne.mpr cap]
      rfl
    · rw [alone.unmanaged] at flag
      cases flag

end Knhv.Provider

namespace Knhv.Control

open Provider

variable {F : Type} {capabilities : HvCapabilitySnapshot}

/-- The calls of the second version work on snapshots that its own validator
accepts: the upgraded one, the ones that a query is answered with, and the ones
that a lease is decided on. -/
structure UpgradeSound (F : Type) (capabilities : HvCapabilitySnapshot) : Prop where
  upgraded : isCapabilitySnapshotV2Valid (makeCapabilitySnapshotV2 (some capabilities)) = true
  query : ∀ (extension : KnHvDeviceExtension F) (input : HvQueryCapsV2In)
    (inputLength outputLength : U32) (output : HvQueryCapsV2Out),
    extension.capabilities = capabilities →
    (handleQueryCapsV2 extension input inputLength outputLength).reply = some (.capsV2 output) →
    isCapabilitySnapshotV2Valid output.capabilities = true
  acquire : ∀ (extension : KnHvDeviceExtension F) (session : KnHvClientSession F)
    (request : HvProviderRequestV2), extension.capabilities = capabilities →
    requestV2Valid request = true →
    isCapabilitySnapshotV2Valid (acquireResponse extension session request).capabilities = true

theorem handleQueryCapsV2_reply {extension : KnHvDeviceExtension F} {input : HvQueryCapsV2In}
    {inputLength outputLength : U32} {output : HvQueryCapsV2Out}
    (answered : (handleQueryCapsV2 extension input inputLength outputLength).reply =
      some (.capsV2 output)) :
    output.capabilities = makeCapabilitySnapshotV2 (some extension.capabilities) := by
  unfold handleQueryCapsV2 at answered
  split at answered
  · cases answered
  split at answered
  · cases answered
  · cases answered
    rfl

/-- A well-formed request gets a snapshot that is accepted back. -/
theorem selectProviderV2_capabilities {request : HvProviderRequestV2}
    {snapshot : HvCapabilitySnapshotV2} (valid : isCapabilitySnapshotV2Valid snapshot = true)
    (formed : requestV2Valid request = true) :
    (selectProviderV2 (some request) (some snapshot)).capabilities = snapshot := by
  simp only [selectProviderV2, formed, valid, Bool.not_true, Bool.or_false, Bool.false_eq_true,
    if_false]
  split
  · rfl
  split
  · rfl
  split
  · rfl
  · rfl

theorem acquireResponse_capabilities {extension : KnHvDeviceExtension F}
    {session : KnHvClientSession F} {request : HvProviderRequestV2} :
    (acquireResponse extension session request).capabilities =
      (selectProviderV2 (some request)
        (some (makeCapabilitySnapshotV2 (some extension.capabilities)))).capabilities := by
  unfold acquireResponse
  dsimp only
  split
  · split
    · rfl
    · rfl
  · split
    · rfl
    · rfl

/-- The second version of the calls is sound on an accepted snapshot exactly if
a boot root that owns the machine alone has VMX and, once its handoff is
verified, counts its generations. -/
theorem upgrade_sound_iff (F : Type) {capabilities : HvCapabilitySnapshot}
    (valid : snapshotIsValid capabilities = true) :
    UpgradeSound F capabilities ↔ Upgradable capabilities := by
  rw [← isCapabilitySnapshotV2Valid_upgraded_iff valid]
  constructor
  · intro sound
    exact sound.upgraded
  · intro upgraded
    refine ⟨upgraded, ?_, ?_⟩
    · intro extension input inputLength outputLength output same answered
      rw [handleQueryCapsV2_reply answered, same]
      exact upgraded
    · intro extension session request same formed
      rw [acquireResponse_capabilities, same, selectProviderV2_capabilities upgraded formed]
      exact upgraded

/-- A boot root that runs without VMX. -/
def bootRootWithoutVmx : HvCapabilitySnapshot :=
  { makeFallbackCapabilitySnapshot false false with
    featureBits := kCapBootL0
    statusFlags := kFlagKnhvBootL0Active }

/-- The first version accepts it, and a query for the second version is
answered with success and what the second version refuses. -/
theorem bootRootWithoutVmx_refused : snapshotIsValid bootRootWithoutVmx = true ∧
    ¬UpgradeSound Unit bootRootWithoutVmx ∧
    ∃ input output, (handleQueryCapsV2 (initialDevice (F := Unit) false bootRootWithoutVmx).extension
        input sizeofHvQueryCapsV2In sizeofHvQueryCapsV2Out).reply = some (.capsV2 output) ∧
      output.status = .Success ∧ isCapabilitySnapshotV2Valid output.capabilities = false :=
  ⟨by decide, fun sound => absurd sound.upgraded (by decide),
    ⟨sizeofHvQueryCapsV2In, kAbiV2Version, 0⟩, _, rfl, rfl, by decide⟩

/-- What the driver says of a machine that it does not own can be upgraded. -/
theorem upgrade_sound_fallback :
    snapshotIsValid (makeFallbackCapabilitySnapshot true true) = true ∧
      (UpgradeSound Unit (makeFallbackCapabilitySnapshot true true) ↔
        Upgradable (makeFallbackCapabilitySnapshot true true)) :=
  ⟨by decide, upgrade_sound_iff Unit (by decide)⟩

end Knhv.Control
