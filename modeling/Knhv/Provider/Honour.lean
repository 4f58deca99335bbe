import Knhv.Provider.Lease

namespace Knhv.Provider

variable {request : HvProviderRequestV2} {capabilities : HvCapabilitySnapshotV2}
  {lease : HvOwnerLeaseV2}

/-- A request for what a lease says, by its client and with no features asked
for. -/
structure Renews (request : HvProviderRequestV2) (lease : HvOwnerLeaseV2) : Prop where
  valid : requestV2Valid request = true
  mode : request.mode = lease.mode
  client : request.session.clientId = lease.ownerId
  generation : request.session.generation ≠ 0
  hardware : request.requiredHardwareFeatures = 0
  provider : request.requiredProviderFeatures = 0
  policy : request.requiredPolicyFeatures = 0

/-- What a selection asks of the snapshot beyond what a match does. -/
def isStillGranted (mode : U32) (capabilities : HvCapabilitySnapshotV2) : Bool :=
  if mode == HvLeaseModeV2.HardwareL0.word then
    capabilities.policyFeatures &&& kPolicyWindowsHandoff != 0
  else
    capabilities.state == HvProviderStateV2.Available.word ||
      capabilities.state == HvProviderStateV2.Active.word

/-- What a match has found, by the mode of the lease. -/
inductive MatchedBy (lease : HvOwnerLeaseV2) (capabilities : HvCapabilitySnapshotV2) : Prop
  | hardware (mode : lease.mode = HvLeaseModeV2.HardwareL0.word)
      (owner : capabilities.ownerKind = HvOwnerKindV2.KnhvBootL0.word)
      (state : capabilities.state = HvProviderStateV2.Active.word)
  | whp (mode : lease.mode = HvLeaseModeV2.WhpManaged.word)
      (owner : capabilities.ownerKind = HvOwnerKindV2.WhpManaged.word)
  | synthetic (mode : lease.mode = HvLeaseModeV2.SyntheticLab.word)
      (owner : capabilities.ownerKind = HvOwnerKindV2.SyntheticLab.word)

structure Matched (lease : HvOwnerLeaseV2) (capabilities : HvCapabilitySnapshotV2) : Prop where
  leaseValid : isOwnerLeaseV2Valid lease = true
  capabilitiesValid : isCapabilitySnapshotV2Valid capabilities = true
  matched : MatchedBy lease capabilities

theorem matched_of_matches (found : leaseMatchesCapabilityV2 lease capabilities = true) :
    Matched lease capabilities := by
  unfold leaseMatchesCapabilityV2 at found
  split at found
  · cases found
  rename_i valid
  simp only [Bool.or_eq_true, Bool.not_eq_true', not_or, Bool.not_eq_false] at valid
  refine ⟨valid.1.1, valid.1.2, ?_⟩
  split at found
  · rename_i mode
    simp only [Bool.and_eq_true, beq_iff_eq] at mode found
    exact .hardware mode found.1.1 found.1.2
  split at found
  · rename_i mode
    simp only [Bool.and_eq_true, beq_iff_eq] at mode found
    exact .whp mode found.1.1
  split at found
  · rename_i mode
    simp only [Bool.and_eq_true, beq_iff_eq] at mode found
    exact .synthetic mode found.1
  · cases found

/-- The owner of a valid lease in use is a client. -/
theorem MatchedBy.ownerId_ne_zero (matched : MatchedBy lease capabilities)
    (valid : isOwnerLeaseV2Valid lease = true) : lease.ownerId ≠ 0 := by
  have used : lease.mode ≠ HvLeaseModeV2.None.word := by
    cases matched with
    | hardware mode _ _ => exact mode ▸ (by decide)
    | whp mode _ => exact mode ▸ (by decide)
    | synthetic mode _ => exact mode ▸ (by decide)
  unfold isOwnerLeaseV2Valid at valid
  split at valid
  · cases valid
  split at valid
  · rename_i none
    exact absurd (beq_iff_eq.mp none) used
  split at valid
  · cases valid
  rename_i owned
  simp only [Bool.or_eq_true, beq_iff_eq, not_or] at owned
  exact owned.1

/-- Behind its checks a selection succeeds iff a provider is granted. -/
theorem selectProviderV2_success_iff (valid : requestV2Valid request = true)
    (capabilitiesValid : isCapabilitySnapshotV2Valid capabilities = true)
    (features : hasRequiredFeatures request capabilities = true)
    (client : request.session.clientId ≠ 0) (generation : request.session.generation ≠ 0) :
    (selectProviderV2 (some request) (some capabilities)).status = .Success ↔
      (grantProvider request capabilities).isOk = true := by
  simp only [selectProviderV2, valid, capabilitiesValid, features, client, generation, Bool.not_true,
    Bool.or_self, Bool.false_eq_true, if_false, beq_iff_eq, Bool.or_eq_true]
  cases granted : grantProvider request capabilities with
  | ok granting => simp [Except.isOk, Except.toBool]
  | error status =>
    have failed : status ≠ .Success := by
      rintro rfl
      exact grantProvider_ne_success granted
    simp [Except.isOk, Except.toBool, failed]

theorem isOk_unless {α : Type} {failure : HvStatus} {value : α} (refused : Bool) :
    (if refused = true then (.error failure : Except HvStatus α) else .ok value).isOk = !refused := by
  cases refused <;> rfl

theorem grantProvider_isOk (matched : Matched lease capabilities)
    (mode : request.mode = lease.mode) :
    (grantProvider request capabilities).isOk = isStillGranted lease.mode capabilities := by
  have backed := ownerBacked_of_valid matched.capabilitiesValid
  have whpApart : (HvLeaseModeV2.WhpManaged.word == HvLeaseModeV2.HardwareL0.word) = false := by
    decide
  have syntheticApart :
      (HvLeaseModeV2.SyntheticLab.word == HvLeaseModeV2.HardwareL0.word) = false ∧
        (HvLeaseModeV2.SyntheticLab.word == HvLeaseModeV2.WhpManaged.word) = false := by
    decide
  unfold grantProvider isStillGranted
  cases matched.matched with
  | hardware here owner state =>
    obtain ⟨exclusive, _, vmx⟩ := backed.boot owner
    simp only [mode, here, owner, state, beq_self_eq_true, if_true,
      beq_eq_false_iff_ne.mpr exclusive, beq_eq_false_iff_ne.mpr vmx, Bool.and_false]
    rw [if_neg (by decide), if_neg (by decide), if_neg nofun, if_neg nofun]
    exact isOk_unless _
  | whp here owner =>
    have partition := beq_eq_false_iff_ne.mpr (backed.whp owner)
    simp only [mode, here, owner, whpApart, beq_self_eq_true, if_true, Bool.false_eq_true, if_false,
      bne_self_eq_false, partition, Bool.false_or]
    rw [isOk_unless]
    simp only [bne, Bool.not_and, Bool.not_not]
  | synthetic here owner =>
    have policy := beq_eq_false_iff_ne.mpr (backed.synthetic owner).1
    have nested := beq_eq_false_iff_ne.mpr (backed.synthetic owner).2
    simp only [mode, here, owner, syntheticApart, beq_self_eq_true, if_true, Bool.false_eq_true,
      if_false, bne_self_eq_false, policy, nested, Bool.false_or]
    rw [isOk_unless]
    simp only [bne, Bool.not_and, Bool.not_not]

theorem Renews.features (renews : Renews request lease) :
    hasRequiredFeatures request capabilities = true := by
  simp [hasRequiredFeatures, renews.hardware, renews.provider, renews.policy]

/-- A lease that matches a snapshot is still granted on it iff its hardware has
Windows handed over, or else its provider is available or active. -/
theorem match_granted_iff (found : leaseMatchesCapabilityV2 lease capabilities = true)
    (renews : Renews request lease) :
    (selectProviderV2 (some request) (some capabilities)).status = .Success ↔
      isStillGranted lease.mode capabilities = true := by
  have matched := matched_of_matches found
  have client : request.session.clientId ≠ 0 := by
    rw [renews.client]
    exact matched.matched.ownerId_ne_zero matched.leaseValid
  rw [selectProviderV2_success_iff renews.valid matched.capabilitiesValid renews.features client
    renews.generation, grantProvider_isOk matched renews.mode]

def whpSnapshot (state : HvProviderStateV2) : HvCapabilitySnapshotV2 where
  size := sizeofHvCapabilitySnapshotV2
  version := kAbiV2Version
  hardwareFeatures := 0
  providerFeatures := kCapWhpPartition
  policyFeatures := kPolicyNoPhysicalDma
  ownerKind := HvOwnerKindV2.WhpManaged.word
  state := state.word
  generation := 7

def whpLease : HvOwnerLeaseV2 := setLease 21 7 .WhpManaged 0

def whpRenewal : HvProviderRequestV2 where
  size := sizeofHvProviderRequestV2
  version := kAbiV2Version
  requestId := 1
  session := ⟨21, 3, 0⟩
  requiredHardwareFeatures := 0
  requiredProviderFeatures := 0
  requiredPolicyFeatures := 0
  mode := HvLeaseModeV2.WhpManaged.word
  flags := 0

theorem renews_whpRenewal : Renews whpRenewal whpLease :=
  ⟨by decide, rfl, rfl, by decide, rfl, rfl, rfl⟩

/-- An available partition provider still grants the lease. -/
theorem match_granted_whp :
    (selectProviderV2 (some whpRenewal) (some (whpSnapshot .Available))).status = .Success :=
  (match_granted_iff (by decide) renews_whpRenewal).mpr (by decide)

/-- The lease is honoured on a quarantined provider, which grants it to nobody. -/
theorem quarantined_match_not_granted :
    ¬∀ lease capabilities request, leaseMatchesCapabilityV2 lease capabilities = true →
      Renews request lease →
      (selectProviderV2 (some request) (some capabilities)).status = .Success := by
  intro honoured
  have granted := honoured whpLease (whpSnapshot .Quarantined) whpRenewal (by decide)
    renews_whpRenewal
  revert granted
  decide

end Knhv.Provider
