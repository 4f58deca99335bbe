import Mathlib.Data.Nat.Basic
import Knhv.Provider.Model

namespace Knhv.Provider

variable {request : HvProviderRequestV2} {capabilities : HvCapabilitySnapshotV2}
  {provider : HvProviderKind} {lease : HvOwnerLeaseV2}

/-- The flag of a lease that is only read through. -/
def readOnlyFlag (request : HvProviderRequestV2) : U32 :=
  if request.flags &&& kRequestFlagReadOnly != 0 then kLeaseFlagReadOnly else 0

/-- The hardware is with the boot root, which has handed Windows over. -/
structure HardwareCapable (capabilities : HvCapabilitySnapshotV2) : Prop where
  owner : capabilities.ownerKind = HvOwnerKindV2.KnhvBootL0.word
  active : capabilities.state = HvProviderStateV2.Active.word
  vmx : capabilities.hardwareFeatures &&& kCapVmx ≠ 0
  handoff : capabilities.policyFeatures &&& kPolicyWindowsHandoff ≠ 0

/-- What is granted, by the owner that the snapshot names. -/
inductive Grants (request : HvProviderRequestV2) (capabilities : HvCapabilitySnapshotV2) :
    HvProviderKind → HvOwnerLeaseV2 → Prop
  | hardware (mode : request.mode = HvLeaseModeV2.HardwareL0.word)
      (capable : HardwareCapable capabilities) :
      Grants request capabilities .BootL0Interposer
        (setLease request.session.clientId capabilities.generation .HardwareL0
          (kLeaseFlagExclusive ||| readOnlyFlag request))
  | whp (mode : request.mode = HvLeaseModeV2.WhpManaged.word)
      (owner : capabilities.ownerKind = HvOwnerKindV2.WhpManaged.word)
      (usable : capabilities.state = HvProviderStateV2.Available.word ∨
        capabilities.state = HvProviderStateV2.Active.word) :
      Grants request capabilities .WhpClient
        (setLease request.session.clientId capabilities.generation .WhpManaged
          (readOnlyFlag request))
  | synthetic (mode : request.mode = HvLeaseModeV2.SyntheticLab.word)
      (owner : capabilities.ownerKind = HvOwnerKindV2.SyntheticLab.word)
      (policy : capabilities.policyFeatures &&& kPolicySyntheticOnly ≠ 0) :
      Grants request capabilities .CooperativeL1
        (setLease request.session.clientId capabilities.generation .SyntheticLab
          (kLeaseFlagSynthetic ||| readOnlyFlag request))

theorem grantProvider_grants (granted : grantProvider request capabilities = .ok (provider, lease)) :
    Grants request capabilities provider lease := by
  unfold grantProvider at granted
  dsimp only at granted
  split at granted
  · rename_i mode
    split at granted
    · cases granted
    split at granted
    · cases granted
    rename_i owner
    split at granted
    · cases granted
    rename_i vmx
    split at granted
    · cases granted
    split at granted
    · cases granted
    rename_i handoff
    cases granted
    simp only [Bool.or_eq_true, bne_iff_ne, ne_eq, not_or, Decidable.not_not] at owner
    exact .hardware (beq_iff_eq.mp mode)
      ⟨owner.1, owner.2, by simpa using vmx, by simpa using handoff⟩
  split at granted
  · rename_i mode
    split at granted
    · cases granted
    rename_i accepted
    cases granted
    simp only [Bool.or_eq_true, Bool.and_eq_true, bne_iff_ne, ne_eq, not_or, not_and_or,
      Decidable.not_not] at accepted
    exact .whp (beq_iff_eq.mp mode) accepted.1.2 accepted.2
  split at granted
  · rename_i mode
    split at granted
    · cases granted
    rename_i accepted
    cases granted
    simp only [Bool.or_eq_true, Bool.and_eq_true, bne_iff_ne, beq_iff_eq, ne_eq, not_or,
      Decidable.not_not] at accepted
    exact .synthetic (beq_iff_eq.mp mode) accepted.1.1.1 accepted.1.2
  · cases granted

/-- Whoever gets the hardware gets it from a snapshot that can give it. -/
theorem Grants.capable (grants : Grants request capabilities provider lease)
    (mode : request.mode = HvLeaseModeV2.HardwareL0.word) : HardwareCapable capabilities := by
  cases grants with
  | hardware _ capable => exact capable
  | whp other _ _ =>
    rw [mode] at other
    exact absurd other (by decide)
  | synthetic other _ _ =>
    rw [mode] at other
    exact absurd other (by decide)

theorem Grants.mode_ne_none (grants : Grants request capabilities provider lease) :
    lease.mode ≠ HvLeaseModeV2.None.word := by
  cases grants with
  | hardware _ _ => exact (by decide : HvLeaseModeV2.HardwareL0.word ≠ HvLeaseModeV2.None.word)
  | whp _ _ _ => exact (by decide : HvLeaseModeV2.WhpManaged.word ≠ HvLeaseModeV2.None.word)
  | synthetic _ _ _ =>
    exact (by decide : HvLeaseModeV2.SyntheticLab.word ≠ HvLeaseModeV2.None.word)

/-- A refusal never reports success. -/
theorem grantProvider_ne_success : grantProvider request capabilities ≠ .error .Success := by
  unfold grantProvider
  dsimp only
  repeat' split
  all_goals simp

/-- What has been checked when a provider is selected. -/
structure Granted (request : HvProviderRequestV2) (capabilities : HvCapabilitySnapshotV2)
    (response : HvProviderResponseV2) : Prop where
  requestValid : requestV2Valid request = true
  capabilitiesValid : isCapabilitySnapshotV2Valid capabilities = true
  features : hasRequiredFeatures request capabilities = true
  clientId : request.session.clientId ≠ 0
  generation : request.session.generation ≠ 0
  grants : Grants request capabilities response.provider response.lease

theorem selectProviderV2_granted
    (success : (selectProviderV2 (some request) (some capabilities)).status = .Success) :
    Granted request capabilities (selectProviderV2 (some request) (some capabilities)) := by
  simp only [selectProviderV2] at success ⊢
  split at success
  · cases success
  rename_i valid
  rw [if_neg valid]
  split at success
  · cases success
  rename_i features
  rw [if_neg features]
  split at success
  · cases success
  rename_i session
  rw [if_neg session]
  simp only [Bool.or_eq_true, Bool.not_eq_true', not_or, Bool.not_eq_false] at valid
  simp only [Bool.not_eq_true', Bool.not_eq_false] at features
  simp only [Bool.or_eq_true, beq_iff_eq, not_or] at session
  cases granted : grantProvider request capabilities with
  | error status =>
    rw [granted] at success
    rw [show status = .Success from success] at granted
    exact absurd granted grantProvider_ne_success
  | ok granting =>
    exact ⟨valid.1, valid.2, features, session.1, session.2, grantProvider_grants granted⟩

/-- No provider is named without success. -/
theorem selectProviderV2_provider_of_failed
    (failed : (selectProviderV2 (some request) (some capabilities)).status ≠ .Success) :
    (selectProviderV2 (some request) (some capabilities)).provider = .None := by
  simp only [selectProviderV2] at failed ⊢
  split
  · rfl
  rename_i valid
  rw [if_neg valid] at failed
  split
  · rfl
  rename_i features
  rw [if_neg features] at failed
  split
  · rfl
  rename_i session
  rw [if_neg session] at failed
  cases granted : grantProvider request capabilities with
  | error status => rfl
  | ok granting =>
    rw [granted] at failed
    exact absurd rfl failed

theorem readOnlyFlag_cases (request : HvProviderRequestV2) :
    readOnlyFlag request = kLeaseFlagReadOnly ∨ readOnlyFlag request = 0 := by
  unfold readOnlyFlag
  split
  · exact Or.inl rfl
  · exact Or.inr rfl

/-- A lease with the flags of its mode is valid exactly if it names an owner and
a generation. -/
theorem isOwnerLeaseV2Valid_setLease {ownerId generation : U64} {mode : HvLeaseModeV2} {flags : U32}
    (held : mode ≠ .None) (known : flags &&& ~~~kKnownV2LeaseFlagMask = 0)
    (exclusive : flags &&& kLeaseFlagExclusive ≠ 0 ↔ mode = .HardwareL0)
    (synthetic : flags &&& kLeaseFlagSynthetic ≠ 0 ↔ mode = .SyntheticLab) :
    isOwnerLeaseV2Valid (setLease ownerId generation mode flags) = true ↔
      ownerId ≠ 0 ∧ generation ≠ 0 := by
  have header : isAbiV2BufferValid kAbiV2Version sizeofHvOwnerLeaseV2 sizeofHvOwnerLeaseV2 = true :=
    by decide
  unfold isOwnerLeaseV2Valid
  simp only [setLease, header, known]
  cases mode with
  | None => exact absurd rfl held
  | HardwareL0 =>
    have hasExclusive : flags &&& kLeaseFlagExclusive ≠ 0 := exclusive.mpr rfl
    have notSynthetic : flags &&& kLeaseFlagSynthetic = 0 := by
      by_contra has
      cases synthetic.mp has
    simpa [notSynthetic, isLeaseModeValid, HvLeaseModeV2.word] using fun _ _ => hasExclusive
  | WhpManaged =>
    have notExclusive : flags &&& kLeaseFlagExclusive = 0 := by
      by_contra has
      cases exclusive.mp has
    have notSynthetic : flags &&& kLeaseFlagSynthetic = 0 := by
      by_contra has
      cases synthetic.mp has
    simp [notExclusive, notSynthetic, isLeaseModeValid, HvLeaseModeV2.word]
  | SyntheticLab =>
    have hasSynthetic : flags &&& kLeaseFlagSynthetic ≠ 0 := synthetic.mpr rfl
    have notExclusive : flags &&& kLeaseFlagExclusive = 0 := by
      by_contra has
      cases exclusive.mp has
    simpa [notExclusive, isLeaseModeValid, HvLeaseModeV2.word] using fun _ _ => hasSynthetic

/-- The flag that marks the leases of a mode. -/
def modeFlag : HvLeaseModeV2 → U32
  | .HardwareL0 => kLeaseFlagExclusive
  | .SyntheticLab => kLeaseFlagSynthetic
  | _ => 0

theorem modeFlag_valid_iff {mode : HvLeaseModeV2} (held : mode ≠ .None)
    (client : request.session.clientId ≠ 0) (generation : U64) :
    isOwnerLeaseV2Valid (setLease request.session.clientId generation mode
      (modeFlag mode ||| readOnlyFlag request)) = true ↔ generation ≠ 0 := by
  have marks (flag : U32) (readOnly : flag = kLeaseFlagReadOnly ∨ flag = 0) :
      (modeFlag mode ||| flag) &&& ~~~kKnownV2LeaseFlagMask = 0 ∧
        ((modeFlag mode ||| flag) &&& kLeaseFlagExclusive ≠ 0 ↔ mode = .HardwareL0) ∧
        ((modeFlag mode ||| flag) &&& kLeaseFlagSynthetic ≠ 0 ↔ mode = .SyntheticLab) := by
    clear held
    rcases readOnly with rfl | rfl
    · cases mode <;> decide
    · cases mode <;> decide
  obtain ⟨known, exclusive, synthetic⟩ := marks _ (readOnlyFlag_cases request)
  rw [isOwnerLeaseV2Valid_setLease held known exclusive synthetic]
  exact and_iff_right client

/-- A lease that is granted is valid exactly if the snapshot has a generation. -/
theorem Grants.valid_iff (grants : Grants request capabilities provider lease)
    (client : request.session.clientId ≠ 0) :
    isOwnerLeaseV2Valid lease = true ↔ capabilities.generation ≠ 0 := by
  cases grants with
  | hardware _ _ => exact modeFlag_valid_iff (by decide : HvLeaseModeV2.HardwareL0 ≠ .None) client _
  | whp _ _ _ =>
    have plain : modeFlag .WhpManaged ||| readOnlyFlag request = readOnlyFlag request :=
      BitVec.zero_or
    rw [← plain]
    exact modeFlag_valid_iff (by decide) client _
  | synthetic _ _ _ =>
    exact modeFlag_valid_iff (by decide : HvLeaseModeV2.SyntheticLab ≠ .None) client _

/-- What a snapshot must have for the owner that it names. -/
structure OwnerBacked (capabilities : HvCapabilitySnapshotV2) : Prop where
  synthetic : capabilities.ownerKind = HvOwnerKindV2.SyntheticLab.word →
    capabilities.policyFeatures &&& kPolicySyntheticOnly ≠ 0 ∧
      capabilities.providerFeatures &&& kCapNestedVmx ≠ 0
  boot : capabilities.ownerKind = HvOwnerKindV2.KnhvBootL0.word →
    capabilities.policyFeatures &&& kPolicyExclusiveOwner ≠ 0 ∧
      capabilities.providerFeatures &&& kCapBootL0 ≠ 0 ∧
      capabilities.hardwareFeatures &&& kCapVmx ≠ 0
  whp : capabilities.ownerKind = HvOwnerKindV2.WhpManaged.word →
    capabilities.providerFeatures &&& kCapWhpPartition ≠ 0

theorem ownerBacked_of_valid (valid : isCapabilitySnapshotV2Valid capabilities = true) :
    OwnerBacked capabilities := by
  unfold isCapabilitySnapshotV2Valid at valid
  split at valid
  · cases valid
  split at valid
  · cases valid
  split at valid
  · cases valid
  rename_i synthetic
  split at valid
  · cases valid
  rename_i boot
  split at valid
  · cases valid
  rename_i whp
  constructor
  case synthetic =>
    intro owner
    simpa [owner] using synthetic
  case boot =>
    intro owner
    simpa [owner, and_assoc] using boot
  case whp =>
    intro owner
    simpa [owner] using whp

/-- A valid snapshot of the boot root lets only one owner have the hardware. -/
theorem exclusive_of_valid (valid : isCapabilitySnapshotV2Valid capabilities = true)
    (owner : capabilities.ownerKind = HvOwnerKindV2.KnhvBootL0.word) :
    capabilities.policyFeatures &&& kPolicyExclusiveOwner ≠ 0 :=
  ((ownerBacked_of_valid valid).boot owner).1

/-- A valid lease matches the snapshot that it was granted on. -/
theorem Grants.matches (grants : Grants request capabilities provider lease)
    (valid : isCapabilitySnapshotV2Valid capabilities = true)
    (leaseValid : isOwnerLeaseV2Valid lease = true) :
    leaseMatchesCapabilityV2 lease capabilities = true := by
  unfold leaseMatchesCapabilityV2
  simp only [leaseValid, valid]
  cases grants with
  | hardware _ capable =>
    have exclusive := exclusive_of_valid valid capable.owner
    simpa [setLease, capable.owner, capable.active] using exclusive
  | whp _ owner usable =>
    rcases usable with state | state
    · simp [setLease, owner, state, HvLeaseModeV2.word, HvProviderStateV2.word]
    · simp [setLease, owner, state, HvLeaseModeV2.word, HvProviderStateV2.word]
  | synthetic _ owner policy =>
    simpa [setLease, owner, HvLeaseModeV2.word] using policy

/-- A valid request for the hardware is granted by a snapshot that can. -/
theorem grantProvider_hardware (valid : isCapabilitySnapshotV2Valid capabilities = true)
    (mode : request.mode = HvLeaseModeV2.HardwareL0.word)
    (capable : HardwareCapable capabilities) :
    grantProvider request capabilities =
      .ok (.BootL0Interposer, setLease request.session.clientId capabilities.generation .HardwareL0
        (kLeaseFlagExclusive ||| readOnlyFlag request)) := by
  have exclusive : (capabilities.policyFeatures &&& kPolicyExclusiveOwner == 0) = false :=
    beq_eq_false_iff_ne.mpr (exclusive_of_valid valid capable.owner)
  have vmx : (capabilities.hardwareFeatures &&& kCapVmx == 0) = false :=
    beq_eq_false_iff_ne.mpr capable.vmx
  have handoff : (capabilities.policyFeatures &&& kPolicyWindowsHandoff == 0) = false :=
    beq_eq_false_iff_ne.mpr capable.handoff
  have foreign : (HvOwnerKindV2.KnhvBootL0.word == HvOwnerKindV2.ExternalL0.word) = false := by
    decide
  have conflict : (HvProviderStateV2.Active.word == HvProviderStateV2.Conflict.word) = false := by
    decide
  simp only [grantProvider, mode, capable.owner, capable.active, exclusive, vmx, handoff, foreign,
    conflict, beq_self_eq_true, bne_self_eq_false, Bool.and_false, Bool.or_self,
    Bool.false_eq_true, if_true, if_false, readOnlyFlag]

theorem selectProviderV2_hardware (requestValid : requestV2Valid request = true)
    (valid : isCapabilitySnapshotV2Valid capabilities = true)
    (features : hasRequiredFeatures request capabilities = true)
    (client : request.session.clientId ≠ 0) (generation : request.session.generation ≠ 0)
    (mode : request.mode = HvLeaseModeV2.HardwareL0.word)
    (capable : HardwareCapable capabilities) :
    (selectProviderV2 (some request) (some capabilities)).status = .Success ∧
      (selectProviderV2 (some request) (some capabilities)).provider = .BootL0Interposer ∧
      (selectProviderV2 (some request) (some capabilities)).lease.mode =
        HvLeaseModeV2.HardwareL0.word := by
  have noClient : (request.session.clientId == 0) = false := beq_eq_false_iff_ne.mpr client
  have noGeneration : (request.session.generation == 0) = false :=
    beq_eq_false_iff_ne.mpr generation
  simp only [selectProviderV2, requestValid, valid, features, noClient, noGeneration,
    grantProvider_hardware valid mode capable, Bool.not_true, Bool.or_self, Bool.false_eq_true,
    if_false]
  exact ⟨trivial, trivial, rfl⟩

end Knhv.Provider
