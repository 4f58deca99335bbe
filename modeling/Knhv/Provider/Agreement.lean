import Mathlib.Data.Nat.Basic
import Knhv.Provider.Lease

namespace Knhv.Provider

variable {capabilities : HvCapabilitySnapshot}

/-- The providers that drive the hardware themselves. -/
def IsHardwareProvider (provider : HvProviderKind) : Prop :=
  provider = .BootL0Interposer ∨ provider = .NativeExclusiveBaseline

instance (provider : HvProviderKind) : Decidable (IsHardwareProvider provider) :=
  inferInstanceAs (Decidable (_ ∨ _))

/-- A request for the hardware by some client, with no features of its own. -/
structure PlainHardwareRequest (request : HvProviderRequestV2) : Prop where
  valid : requestV2Valid request = true
  mode : request.mode = HvLeaseModeV2.HardwareL0.word
  client : request.session.clientId ≠ 0
  generation : request.session.generation ≠ 0
  hardware : request.requiredHardwareFeatures = 0
  provider : request.requiredProviderFeatures = 0
  policy : request.requiredPolicyFeatures = 0

/-- The two versions of the selection agree on the hardware. -/
structure VersionsAgree (capabilities : HvCapabilitySnapshot) : Prop where
  hardware : ∀ request requestV2,
    selectProvider (some request) (some capabilities) = (.Success, some .BootL0Interposer) →
    PlainHardwareRequest requestV2 →
    (selectProviderV2 (some requestV2)
      (some (makeCapabilitySnapshotV2 (some capabilities)))).status = .Success
  synthetic : hasFlag capabilities kFlagSyntheticSnapshot = true →
    (∀ request provider, (selectProvider request (some capabilities)).2 = some provider →
      ¬IsHardwareProvider provider) ∧
    ∀ request, ¬IsHardwareProvider
      (selectProviderV2 request (some (makeCapabilitySnapshotV2 (some capabilities)))).provider

/-- What a snapshot has to say of its owner before the hardware may be handed
out. -/
structure OwnerConsistent (capabilities : HvCapabilitySnapshot) : Prop where
  real : hasFlag capabilities kFlagSyntheticSnapshot = false
  owner : hasFlag capabilities kFlagBootHandoffVerified = true →
    hasFlag capabilities kFlagKnhvBootL0Active = true ∧
      hasFlag capabilities kFlagWhpPartition = false ∧
      (capabilities.ownerGeneration ≠ 0 ∨ capabilities.bootGeneration ≠ 0)

/-- The native hardware can be had according to the flags. -/
structure NativeOffered (capabilities : HvCapabilitySnapshot) : Prop where
  valid : snapshotIsValid capabilities = true
  ready : hasFlag capabilities kFlagNativeVmxReady = true
  free : hasFlag capabilities kFlagOuterL0Active = false

/-- What a snapshot that is accepted says of its features. -/
structure SnapshotFeatures (capabilities : HvCapabilitySnapshot) : Prop where
  header : isVersionedBufferValid capabilities.version capabilities.size
    sizeofHvCapabilitySnapshot = true
  boot : hasFlag capabilities kFlagKnhvBootL0Active = true →
    capabilities.featureBits &&& kCapBootL0 ≠ 0
  vmx : hasFlag capabilities kFlagNativeVmxReady = true → capabilities.featureBits &&& kCapVmx ≠ 0

theorem snapshotIsValid_features (valid : snapshotIsValid capabilities = true) :
    SnapshotFeatures capabilities := by
  unfold snapshotIsValid at valid
  dsimp only at valid
  split at valid
  · cases valid
  rename_i header
  split at valid
  · cases valid
  split at valid
  · cases valid
  split at valid
  · cases valid
  rename_i boot
  split at valid
  · cases valid
  split at valid
  · cases valid
  split at valid
  · cases valid
  rename_i vmx
  simp only [Bool.not_eq_true', Bool.not_eq_false] at header
  simp only [Bool.and_eq_true, bne_iff_ne, beq_iff_eq, not_and] at boot vmx
  refine ⟨header, fun flag => boot ?_, fun flag => vmx ?_⟩
  · simp only [hasFlag, bne_iff_ne] at flag
    have part : (kFlagBootHandoffVerified ||| kFlagKnhvBootL0Active) &&& kFlagKnhvBootL0Active =
        kFlagKnhvBootL0Active := by decide
    intro none
    rw [← part, ← BitVec.and_assoc, none] at flag
    exact flag BitVec.zero_and
  · simpa only [hasFlag, bne_iff_ne] using flag

/-- The boot root is named as the owner exactly if it is the only one. -/
theorem makeCapabilitySnapshotV2_owner_iff (header : isVersionedBufferValid capabilities.version
    capabilities.size sizeofHvCapabilitySnapshot = true) :
    (makeCapabilitySnapshotV2 (some capabilities)).ownerKind = HvOwnerKindV2.KnhvBootL0.word ↔
      hasFlag capabilities kFlagSyntheticSnapshot = false ∧
        hasFlag capabilities kFlagKnhvBootL0Active = true ∧
        hasFlag capabilities kFlagOuterL0Active = false ∧
        hasFlag capabilities kFlagWhpPartition = false := by
  simp only [makeCapabilitySnapshotV2, header, ownerFlag, hasFlag, Bool.not_true,
    Bool.false_eq_true, if_false]
  generalize (capabilities.statusFlags &&& kFlagSyntheticSnapshot != 0) = synthetic
  generalize (capabilities.statusFlags &&& kFlagKnhvBootL0Active != 0) = knhvL0
  generalize (capabilities.statusFlags &&& kFlagOuterL0Active != 0) = outerL0
  generalize (capabilities.statusFlags &&& kFlagWhpPartition != 0) = whp
  cases synthetic <;> cases knhvL0 <;> cases outerL0 <;> cases whp <;>
    simp [HvOwnerKindV2.word]

/-- The snapshot of a boot root that is the only owner. -/
theorem makeCapabilitySnapshotV2_knhv (header : isVersionedBufferValid capabilities.version
      capabilities.size sizeofHvCapabilitySnapshot = true)
    (real : hasFlag capabilities kFlagSyntheticSnapshot = false)
    (knhvL0 : hasFlag capabilities kFlagKnhvBootL0Active = true)
    (free : hasFlag capabilities kFlagOuterL0Active = false)
    (noWhp : hasFlag capabilities kFlagWhpPartition = false)
    (handoff : hasFlag capabilities kFlagBootHandoffVerified = true) :
    makeCapabilitySnapshotV2 (some capabilities) =
      { size := sizeofHvCapabilitySnapshotV2
        version := kAbiV2Version
        hardwareFeatures := capabilities.featureBits &&& kV2HardwareFeatureMask
        providerFeatures := capabilities.featureBits &&& kV2ProviderFeatureMask
        policyFeatures := kPolicyExclusiveOwner ||| kPolicyWindowsHandoff
        ownerKind := HvOwnerKindV2.KnhvBootL0.word
        state := HvProviderStateV2.Active.word
        generation := capabilityGeneration capabilities } := by
  rw [hasFlag] at real knhvL0 free noWhp handoff
  simp only [makeCapabilitySnapshotV2, header, ownerFlag, real, knhvL0, free, noWhp, handoff,
    HvCapabilitySnapshotV2.zero, Bool.not_true, Bool.false_eq_true, if_false, if_true,
    Nat.reduceAdd, Nat.lt_irrefl]

theorem capabilityGeneration_ne_zero_iff :
    capabilityGeneration capabilities ≠ 0 ↔
      capabilities.ownerGeneration ≠ 0 ∨ capabilities.bootGeneration ≠ 0 := by
  have widened (value : U32) : value.setWidth 64 = 0 ↔ value = 0 := by
    constructor
    · intro zero
      refine BitVec.eq_of_toNat_eq ?_
      have same := congrArg BitVec.toNat zero
      rwa [BitVec.toNat_setWidth_of_le (by decide)] at same
    · intro zero
      rw [zero]
      rfl
  unfold capabilityGeneration
  split
  · rename_i owner
    simp only [bne_iff_ne] at owner
    rw [ne_eq, widened]
    exact iff_of_true owner (Or.inl owner)
  · rename_i owner
    simp only [bne_iff_ne, ne_eq, Decidable.not_not] at owner
    rw [ne_eq, widened, owner]
    simp

/-- The hardware can be leased on the upgraded snapshot exactly if the snapshot
names the boot root as its only owner, in some generation. -/
theorem makeCapabilitySnapshotV2_capable_iff (offered : NativeOffered capabilities)
    (handoff : hasFlag capabilities kFlagBootHandoffVerified = true) :
    (isCapabilitySnapshotV2Valid (makeCapabilitySnapshotV2 (some capabilities)) = true ∧
        HardwareCapable (makeCapabilitySnapshotV2 (some capabilities))) ↔
      OwnerConsistent capabilities := by
  have features := snapshotIsValid_features offered.valid
  constructor
  · rintro ⟨valid, capable⟩
    obtain ⟨real, knhvL0, free, noWhp⟩ :=
      (makeCapabilitySnapshotV2_owner_iff features.header).mp capable.owner
    refine ⟨real, fun _ => ⟨knhvL0, noWhp, ?_⟩⟩
    rw [makeCapabilitySnapshotV2_knhv features.header real knhvL0 free noWhp handoff] at valid
    rw [← capabilityGeneration_ne_zero_iff]
    intro none
    simp [isCapabilitySnapshotV2Valid, none] at valid
  · intro consistent
    obtain ⟨knhvL0, noWhp, generation⟩ := consistent.owner handoff
    rw [makeCapabilitySnapshotV2_knhv features.header consistent.real knhvL0 offered.free noWhp
      handoff]
    rw [← capabilityGeneration_ne_zero_iff] at generation
    have vmx : capabilities.featureBits &&& kV2HardwareFeatureMask &&& kCapVmx ≠ 0 := by
      rw [BitVec.and_assoc, show kV2HardwareFeatureMask &&& kCapVmx = kCapVmx by decide]
      exact features.vmx offered.ready
    have boot : capabilities.featureBits &&& kV2ProviderFeatureMask &&& kCapBootL0 ≠ 0 := by
      rw [BitVec.and_assoc, show kV2ProviderFeatureMask &&& kCapBootL0 = kCapBootL0 by decide]
      exact features.boot knhvL0
    have policy : (kPolicyExclusiveOwner ||| kPolicyWindowsHandoff) &&& kPolicyWindowsHandoff ≠ 0 := by
      decide
    refine ⟨?_, ⟨rfl, rfl, vmx, policy⟩⟩
    have unknownHardware :
        capabilities.featureBits &&& kV2HardwareFeatureMask &&& ~~~kV2HardwareFeatureMask = 0 := by
      rw [BitVec.and_assoc, show kV2HardwareFeatureMask &&& ~~~kV2HardwareFeatureMask = 0 by decide]
      exact BitVec.and_zero
    have unknownProvider :
        capabilities.featureBits &&& kV2ProviderFeatureMask &&& ~~~kV2ProviderFeatureMask = 0 := by
      rw [BitVec.and_assoc, show kV2ProviderFeatureMask &&& ~~~kV2ProviderFeatureMask = 0 by decide]
      exact BitVec.and_zero
    have noVmx : (capabilities.featureBits &&& kV2HardwareFeatureMask &&& kCapVmx == 0) = false :=
      beq_eq_false_iff_ne.mpr vmx
    have noBoot : (capabilities.featureBits &&& kV2ProviderFeatureMask &&& kCapBootL0 == 0) =
        false := beq_eq_false_iff_ne.mpr boot
    have noGeneration : (capabilityGeneration capabilities == 0) = false :=
      beq_eq_false_iff_ne.mpr generation
    have notSynthetic : (HvOwnerKindV2.KnhvBootL0.word == HvOwnerKindV2.SyntheticLab.word) =
        false := by decide
    have notWhp : (HvOwnerKindV2.KnhvBootL0.word == HvOwnerKindV2.WhpManaged.word) = false := by
      decide
    simp only [isCapabilitySnapshotV2Valid, unknownHardware, unknownProvider, noVmx, noBoot,
      noGeneration, notSynthetic, notWhp, Bool.false_and]
    decide

/-- The first version hands the hardware out by the flags alone. -/
theorem selectProvider_offered {request : HvProviderRequest} {provider : HvProviderKind}
    (selected : (selectProvider (some request) (some capabilities)).2 = some provider)
    (hardware : IsHardwareProvider provider) :
    NativeOffered capabilities ∧
      (provider = .BootL0Interposer →
        hasFlag capabilities kFlagBootHandoffVerified = true) := by
  have other {kind : HvProviderKind} (same : some kind = some provider)
      (soft : ¬IsHardwareProvider kind) : False := by
    rw [Option.some.inj same] at soft
    exact soft hardware
  obtain ⟨given, same⟩ : ∃ given, given = some capabilities := ⟨_, rfl⟩
  rw [← same] at selected
  revert selected
  fun_cases selectProvider (some request) given with
  | case1 | case20 => exact nofun
  | case6 _ _ accepted _ _ _ _ _ outer ready handoff _ =>
    intro _
    cases same
    simp only [Bool.or_eq_true, Bool.not_eq_true', not_or, Bool.not_eq_false, Bool.not_eq_true]
      at accepted outer ready handoff
    exact ⟨⟨accepted.2, ready, outer⟩, fun _ => handoff⟩
  | case16 _ _ accepted _ _ _ _ _ _ _ _ native =>
    intro selected
    cases same
    simp only [Bool.or_eq_true, Bool.not_eq_true', not_or, Bool.not_eq_false, Bool.not_eq_true]
      at accepted native
    refine ⟨⟨accepted.2, native.2, native.1⟩, fun boot => ?_⟩
    rw [boot] at selected
    cases selected
  | _ => exact fun selected => (other selected (by decide)).elim

theorem Grants.capable_of_hardware {request : HvProviderRequestV2}
    {snapshot : HvCapabilitySnapshotV2} {provider : HvProviderKind} {lease : HvOwnerLeaseV2}
    (grants : Grants request snapshot provider lease) (hardware : IsHardwareProvider provider) :
    HardwareCapable snapshot := by
  cases grants with
  | hardware _ capable => exact capable
  | whp _ _ _ => exact absurd hardware (by decide)
  | synthetic _ _ _ => exact absurd hardware (by decide)

/-- The second version hands the hardware out only if the boot root is the only
owner. -/
theorem selectProviderV2_real {request : Option HvProviderRequestV2}
    (hardware : IsHardwareProvider
      (selectProviderV2 request (some (makeCapabilitySnapshotV2 (some capabilities)))).provider) :
    hasFlag capabilities kFlagSyntheticSnapshot = false := by
  have none : ¬IsHardwareProvider .None := by decide
  cases request with
  | none => exact absurd (show IsHardwareProvider .None from hardware) (by decide)
  | some request =>
    have success : (selectProviderV2 (some request)
        (some (makeCapabilitySnapshotV2 (some capabilities)))).status = .Success := by
      by_contra failed
      exact none ((selectProviderV2_provider_of_failed failed).symm ▸ hardware)
    have grants := (selectProviderV2_granted success).grants
    have capable := grants.capable_of_hardware hardware
    by_cases header : isVersionedBufferValid capabilities.version capabilities.size
        sizeofHvCapabilitySnapshot = true
    · exact ((makeCapabilitySnapshotV2_owner_iff header).mp capable.owner).1
    · have owner := capable.owner
      simp only [Bool.not_eq_true] at header
      simp only [makeCapabilitySnapshotV2, header, Bool.not_false, if_true] at owner
      exact absurd owner (by decide)

/-- A request of the first version for a mode. -/
def plainRequest (mode : HvMode) : HvProviderRequest where
  version := kAbiVersion
  size := sizeofHvProviderRequest
  mode := mode.word
  identityVerified := 0
  legacyManifestMatch := 0
  reserved := 0
  requestedFeatures := 0

theorem selectProvider_plainRequest (offered : NativeOffered capabilities) :
    selectProvider (some (plainRequest .NativeExclusiveBaseline)) (some capabilities) =
        (.Success, some .NativeExclusiveBaseline) ∧
      (hasFlag capabilities kFlagBootHandoffVerified = true →
        selectProvider (some (plainRequest .BootL0Interposer)) (some capabilities) =
          (.Success, some .BootL0Interposer)) := by
  have request (mode : HvMode) : requestIsValid (plainRequest mode) = true := rfl
  have nothing : ((0 : U64) &&& ~~~capabilities.featureBits != 0) = false := by
    simp
  have native : (HvMode.NativeExclusiveBaseline.word == HvMode.BootL0Interposer.word) = false ∧
      (HvMode.NativeExclusiveBaseline.word == HvMode.CooperativeL1.word) = false ∧
      (HvMode.NativeExclusiveBaseline.word == HvMode.KnownLegacyCompat.word) = false ∧
      (HvMode.NativeExclusiveBaseline.word == HvMode.LoadOnly.word) = false ∧
      (HvMode.NativeExclusiveBaseline.word == HvMode.ExternalL0Fallback.word) = false := by decide
  constructor
  · simp only [selectProvider, request, offered.valid, offered.free, offered.ready]
    simp only [plainRequest, native, beq_self_eq_true, Bool.not_true, Bool.or_self,
      Bool.false_eq_true, if_false, if_true]
  · intro handoff
    simp only [selectProvider, request, offered.valid, offered.free, offered.ready, handoff]
    simp only [plainRequest, nothing, beq_self_eq_true, Bool.not_true, Bool.or_self,
      Bool.false_eq_true, if_false, if_true]

/-- A request of the second version for the hardware. -/
def plainHardwareRequest : HvProviderRequestV2 where
  size := sizeofHvProviderRequestV2
  version := kAbiV2Version
  requestId := 0
  session := ⟨1, 1, 0⟩
  requiredHardwareFeatures := 0
  requiredProviderFeatures := 0
  requiredPolicyFeatures := 0
  mode := HvLeaseModeV2.HardwareL0.word
  flags := 0

theorem plainHardwareRequest_plain : PlainHardwareRequest plainHardwareRequest :=
  ⟨by decide, rfl, by decide, by decide, rfl, rfl, rfl⟩

theorem PlainHardwareRequest.success_iff {request : HvProviderRequestV2}
    (plain : PlainHardwareRequest request) {snapshot : HvCapabilitySnapshotV2} :
    (selectProviderV2 (some request) (some snapshot)).status = .Success ↔
      isCapabilitySnapshotV2Valid snapshot = true ∧ HardwareCapable snapshot := by
  constructor
  · intro success
    have granted := selectProviderV2_granted success
    exact ⟨granted.capabilitiesValid, granted.grants.capable plain.mode⟩
  · rintro ⟨valid, capable⟩
    have features : hasRequiredFeatures request snapshot = true := by
      simp [hasRequiredFeatures, plain.hardware, plain.provider, plain.policy]
    exact (selectProviderV2_hardware plain.valid valid features plain.client plain.generation
      plain.mode capable).1

/-- The versions agree exactly if a snapshot that offers the native hardware is
consistent about its owner: the first version does not look at the owner before
it hands the hardware out. -/
theorem versions_agree_iff (capabilities : HvCapabilitySnapshot) :
    VersionsAgree capabilities ↔ (NativeOffered capabilities → OwnerConsistent capabilities) := by
  constructor
  · intro agree offered
    have plain := selectProvider_plainRequest offered
    by_cases handoff : hasFlag capabilities kFlagBootHandoffVerified = true
    · have success := agree.hardware _ _ (plain.2 handoff) plainHardwareRequest_plain
      rw [plainHardwareRequest_plain.success_iff] at success
      exact (makeCapabilitySnapshotV2_capable_iff offered handoff).mp success
    · refine ⟨?_, fun verified => absurd verified handoff⟩
      by_contra marked
      have selected := congrArg Prod.snd plain.1
      exact (agree.synthetic (by simpa using marked)).1 _ _ selected (Or.inr rfl)
  · intro consistent
    refine ⟨fun request requestV2 selected plain => ?_, fun marked => ⟨?_, ?_⟩⟩
    · obtain ⟨offered, handoff⟩ :=
        selectProvider_offered (congrArg Prod.snd selected) (Or.inl rfl)
      rw [plain.success_iff]
      exact (makeCapabilitySnapshotV2_capable_iff offered (handoff rfl)).mpr (consistent offered)
    · intro request provider selected hardware
      cases request with
      | none => cases selected
      | some request =>
        have real := (consistent (selectProvider_offered selected hardware).1).real
        rw [real] at marked
        cases marked
    · intro request hardware
      rw [selectProviderV2_real hardware] at marked
      cases marked

/-- Hardware that is ready, with a verified handoff, but no owner or a synthetic
one. -/
def unownedSnapshot (synthetic : Bool) : HvCapabilitySnapshot where
  version := kAbiVersion
  size := sizeofHvCapabilitySnapshot
  featureBits := kCapVmx ||| kCapBootL0 ||| kCapNestedVmx
  maxPhysicalAddressBits := 48
  eVmcsVersion := 0
  whpApiVersion := 0
  hypervisorVendorLength := 0
  statusFlags := kFlagNativeVmxReady ||| kFlagBootHandoffVerified |||
    (if synthetic then kFlagSyntheticSnapshot else 0)
  bootGeneration := 7
  ownerGeneration := 7
  featureHash := 0

/-- The first version hands out hardware that nobody owns and hardware that is
only a model, the second version does not. -/
theorem versions_disagree :
    (snapshotIsValid (unownedSnapshot false) = true ∧
        selectProvider (some (plainRequest .BootL0Interposer)) (some (unownedSnapshot false)) =
          (.Success, some .BootL0Interposer) ∧
        PlainHardwareRequest plainHardwareRequest ∧
        (selectProviderV2 (some plainHardwareRequest)
          (some (makeCapabilitySnapshotV2 (some (unownedSnapshot false))))).status ≠ .Success) ∧
      hasFlag (unownedSnapshot true) kFlagSyntheticSnapshot = true ∧
      selectProvider (some (plainRequest .BootL0Interposer)) (some (unownedSnapshot true)) =
        (.Success, some .BootL0Interposer) :=
  ⟨⟨by decide, by decide, plainHardwareRequest_plain, by decide⟩, by decide, by decide⟩

end Knhv.Provider
