import Knhv.Iommu.Model
import Knhv.Lib.FirstFailure

namespace Knhv.Iommu

/-- What the kind of the domain asks of the device and of the unit. -/
def KindAdmits (capabilities : IommuCapabilities) (profile : IommuDeviceProfile)
    (domain : IommuDomain) : Prop :=
  (domain.kind = kKindL1 ∧ profile.flags &&& kIommuDeviceAllowL1 ≠ 0) ∨
    (domain.kind = kKindL2 ∧ capabilities.featureFlags &&& nestedCaps = nestedCaps ∧
      profile.flags &&& kIommuDeviceAllowL2 ≠ 0 ∧ domain.flags &&& kIommuDomainNested ≠ 0 ∧
      (profile.flags &&& kIommuDeviceAts ≠ 0 → capabilities.featureFlags &&& kIommuCapAts ≠ 0) ∧
      (profile.flags &&& kIommuDevicePri ≠ 0 → capabilities.featureFlags &&& kIommuCapPri ≠ 0) ∧
      (profile.flags &&& kIommuDevicePasid ≠ 0 →
        capabilities.featureFlags &&& kIommuCapPasid ≠ 0))

/-- The device is one that may leave the host. -/
structure DeviceAdmits (profile : IommuDeviceProfile) : Prop where
  notHostOwned : profile.flags &&& kIommuDeviceHostOwned = 0
  notCritical : profile.flags &&& kIommuDeviceSystemCritical = 0
  notDisplay : profile.flags &&& kIommuDeviceDisplay = 0
  isolated : profile.flags &&& kIommuDeviceIsolationComplete ≠ 0 ∧ profile.isolationGroup ≠ 0
  noReserved : profile.flags &&& kIommuDeviceHasRmrr = 0
  resettable : profile.flags &&& kIommuDeviceResetReliable ≠ 0

/-- Everything that the gates ask, the state of the domain apart. -/
structure Admits (capabilities : IommuCapabilities) (profile : IommuDeviceProfile)
    (domain : IommuDomain) (ownerId generation : U64) : Prop where
  named : ownerId ≠ 0 ∧ generation ≠ 0
  capabilitiesValid : isIommuCapabilitiesValid capabilities = true
  profileValid : isIommuDeviceProfileValid profile capabilities.maxPhysicalAddressBits = true
  domainValid : isIommuDomainValid domain capabilities.maxPhysicalAddressBits = true
  generations : generation = capabilities.generation ∧ generation = profile.profileGeneration ∧
    generation = domain.generation
  owner : domain.ownerId = ownerId
  identified : domain.domainId ≤ capabilities.maxDomains.setWidth 64
  width : profile.dmaAddressBits ≤ capabilities.maxDomainAddressBits
  vectors : profile.flags &&& kIommuDeviceMsix ≠ 0 →
    profile.maxMsixVectors ≤ capabilities.maxMsixVectors
  device : DeviceAdmits profile
  features : capabilities.featureFlags &&& requiredCaps = requiredCaps
  remaps : domain.flags &&& kIommuDomainInterruptRemap ≠ 0
  kind : KindAdmits capabilities profile domain

theorem checkDomainKind_success_iff {capabilities : IommuCapabilities}
    {profile : IommuDeviceProfile} {domain : IommuDomain} :
    checkDomainKind capabilities profile domain = .Success ↔
      KindAdmits capabilities profile domain := by
  have apart : kKindL2 ≠ kKindL1 := by decide
  unfold checkDomainKind KindAdmits
  by_cases first : domain.kind = kKindL1
  · simp (disch := decide) only [first, beq_self_eq_true, if_true, true_and, Ne.symm apart,
      false_and, or_false, FirstFailure.ite_eq_passed_iff, beq_iff_eq, and_true, ne_eq]
  by_cases second : domain.kind = kKindL2
  · simp (disch := decide) only [second, apart, beq_eq_false_iff_ne.mpr apart, beq_self_eq_true,
      Bool.false_eq_true, if_false, if_true, false_and, false_or, true_and,
      FirstFailure.ite_eq_passed_iff, Bool.or_eq_true, Bool.and_eq_true, bne_iff_ne, beq_iff_eq,
      ne_eq, not_or, not_and, Decidable.not_not, and_true, and_assoc]
  · simp only [beq_eq_false_iff_ne.mpr first, beq_eq_false_iff_ne.mpr second, Bool.false_eq_true,
      if_false, reduceCtorEq, first, second, false_and, or_self]

theorem kindAdmits_kind {capabilities : IommuCapabilities} {profile : IommuDeviceProfile}
    {domain : IommuDomain} (admits : KindAdmits capabilities profile domain) :
    domain.kind = kKindL1 ∨ domain.kind = kKindL2 :=
  admits.imp And.left And.left

/-- The preparation succeeds exactly on what every gate admits. -/
theorem checkAssignment_success_iff {capabilities : IommuCapabilities}
    {profile : IommuDeviceProfile} {domain : IommuDomain} {ownerId generation : U64} :
    checkAssignment capabilities profile domain ownerId generation = .Success ↔
      Admits capabilities profile domain ownerId generation := by
  unfold checkAssignment
  iterate 13 rw [FirstFailure.ite_eq_passed_iff (by decide)]
  rw [checkDomainKind_success_iff]
  simp only [Bool.or_eq_true, Bool.and_eq_true, Bool.not_eq_true', beq_iff_eq,
    bne_iff_ne, ne_eq, not_or, not_and, Decidable.not_not, Bool.not_eq_false, decide_eq_true_eq,
    BitVec.not_lt]
  constructor
  · rintro ⟨named, ⟨capabilitiesValid, profileValid⟩, domainValid, generations,
      ⟨owner, identified⟩, ⟨width, vectors⟩, notHostOwned, ⟨notCritical, notDisplay⟩, isolated,
      noReserved, _, resettable, ⟨features, remaps⟩, kind⟩
    exact ⟨named, capabilitiesValid, profileValid, domainValid,
      ⟨generations.1.1, generations.1.2, generations.2⟩, owner, identified, width, vectors,
      ⟨notHostOwned, notCritical, notDisplay, isolated, noReserved, resettable⟩, features, remaps,
      kind⟩
  · intro admits
    have device := admits.device
    have kinds : domain.kind ≠ kKindHost ∧ domain.kind ≠ kKindQuarantine := by
      rcases kindAdmits_kind admits.kind with kind | kind
      · rw [kind]
        decide
      · rw [kind]
        decide
    exact ⟨admits.named, ⟨admits.capabilitiesValid, admits.profileValid⟩, admits.domainValid,
      ⟨⟨admits.generations.1, admits.generations.2.1⟩, admits.generations.2.2⟩,
      ⟨admits.owner, admits.identified⟩, ⟨admits.width, admits.vectors⟩, device.notHostOwned,
      ⟨device.notCritical, device.notDisplay⟩, device.isolated, device.noReserved, kinds,
      device.resettable, ⟨admits.features, admits.remaps⟩, admits.kind⟩

/-- The states in which a domain takes no device on. -/
def isDomainClosed (state : U32) : Bool :=
  state == kStateDraining || state == kStateQuarantined || state == kStateRetired

/-- The assignment is prepared for one device, owner and domain. -/
structure Bound (profile : IommuDeviceProfile) (domain : IommuDomain) (ownerId generation : U64)
    (assignment : IommuAssignment) : Prop where
  prepared : assignment.state = kStatePrepared
  status : assignment.status = IommuAssignmentStatus.Success.word
  device : assignment.bdf = profile.bdf ∧ assignment.resetMethod = profile.resetMethod
  owner : assignment.ownerId = ownerId
  domain : assignment.domainId = domain.domainId
  generation : assignment.generation = generation

/-- What has to be true before a device leaves the host. -/
structure GateHolds (capabilities : IommuCapabilities) (profile : IommuDeviceProfile)
    (domain : IommuDomain) (ownerId generation : U64) (assignment : IommuAssignment) : Prop where
  kind : domain.kind = kKindL1 ∨ domain.kind = kKindL2
  owner : domain.ownerId = ownerId
  state : isDomainClosed domain.state = false
  generations : generation = capabilities.generation ∧ generation = profile.profileGeneration ∧
    generation = domain.generation
  device : DeviceAdmits profile
  features : capabilities.featureFlags &&& requiredCaps = requiredCaps
  nested : KindAdmits capabilities profile domain
  bound : Bound profile domain ownerId generation assignment

/-- Every assignment that is prepared has passed the gate. -/
def Gated (capabilities : IommuCapabilities) (profile : IommuDeviceProfile)
    (domain : IommuDomain) (ownerId generation : U64) : Prop :=
  ∀ assignment,
    prepareIommuAssignment (some capabilities) (some profile) (some domain) ownerId generation
      true = (.Success, some assignment) →
    GateHolds capabilities profile domain ownerId generation assignment

theorem prepareIommuAssignment_success_iff {capabilities : IommuCapabilities}
    {profile : IommuDeviceProfile} {domain : IommuDomain} {ownerId generation : U64}
    {assignment : IommuAssignment} :
    prepareIommuAssignment (some capabilities) (some profile) (some domain) ownerId generation
        true = (.Success, some assignment) ↔
      Admits capabilities profile domain ownerId generation ∧
        assignment = preparedAssignment profile domain ownerId generation := by
  rw [← checkAssignment_success_iff]
  simp only [prepareIommuAssignment, Bool.not_true, Bool.false_eq_true, if_false]
  cases checked : checkAssignment capabilities profile domain ownerId generation with
  | Success =>
    simp only [Prod.mk.injEq, true_and, Option.some.injEq]
    exact eq_comm
  | InvalidParameter | CapabilityMismatch | IsolationIncomplete | HostOwned | CriticalDevice
    | ResetUnsupported | GenerationMismatch | DomainInvalid | AddressInvalid | QuiesceRequired
    | StateConflict | FaultQuarantined =>
    exact iff_of_false (fun same => nomatch (Prod.mk.inj same).1) fun both => nomatch both.1

theorem bound_preparedAssignment (profile : IommuDeviceProfile) (domain : IommuDomain)
    (ownerId generation : U64) :
    Bound profile domain ownerId generation
      (preparedAssignment profile domain ownerId generation) :=
  ⟨rfl, rfl, ⟨rfl, rfl⟩, rfl, rfl, rfl⟩

/-- The gate of the assignment: it holds exactly if the domain is not in one of
the closed states where every other gate admits the request, as no gate looks
at the state of an L1 or L2 domain. -/
theorem prepareIommuAssignment_gated_iff (capabilities : IommuCapabilities)
    (profile : IommuDeviceProfile) (domain : IommuDomain) (ownerId generation : U64) :
    Gated capabilities profile domain ownerId generation ↔
      (Admits capabilities profile domain ownerId generation →
        isDomainClosed domain.state = false) := by
  constructor
  · intro gated admits
    exact (gated _ (prepareIommuAssignment_success_iff.mpr ⟨admits, rfl⟩)).state
  · intro admitted assignment success
    obtain ⟨admits, rfl⟩ := prepareIommuAssignment_success_iff.mp success
    exact ⟨kindAdmits_kind admits.kind, admits.owner, admitted admits, admits.generations,
      admits.device, admits.features, admits.kind,
      bound_preparedAssignment profile domain ownerId generation⟩

/-- A unit with every capability. -/
def fullCapabilities : IommuCapabilities where
  size := sizeofIommuCapabilities
  version := kIommuContractVersion
  featureFlags := kIommuKnownCapabilityMask
  maxPhysicalAddressBits := 48
  maxDomainAddressBits := 48
  maxDomains := 128
  maxMsixVectors := 64
  maxReservedRanges := 4
  reserved := 0
  generation := 7

/-- A device that may leave the host. -/
def freeProfile : IommuDeviceProfile where
  size := sizeofIommuDeviceProfile
  version := kIommuContractVersion
  bdf := ⟨0, 3, 4, 0, fun _ => 0⟩
  isolationGroup := 5
  flags := kIommuDeviceIsolationComplete ||| kIommuDeviceResetReliable ||| kIommuDeviceAllowL1
  resetMethod := kResetFlr
  dmaAddressBits := 48
  maxMsixVectors := 0
  rmrrCount := 0
  profileGeneration := 7
  rmrr := fun _ => ⟨0, 0, 0, 0⟩
  dmaMask := 0xFFFFFFFFFFFF
  reserved := 0
  reserved2 := 0

def l1Domain (state : U32) : IommuDomain where
  size := sizeofIommuDomain
  version := kIommuContractVersion
  domainId := 3
  ownerId := 42
  parentDomainId := 0
  generation := 7
  kind := kKindL1
  state := state
  flags := kIommuDomainInterruptRemap
  addressBits := 48
  guestBase := 0
  guestLimit := 0xFFFFF
  mappedPages := 16
  reserved := 0
  reserved2 := 0

/-- A quarantined L1 domain gets the device. -/
theorem quarantined_domain_not_gated :
    ¬∀ capabilities profile domain ownerId generation,
      Gated capabilities profile domain ownerId generation := by
  intro gated
  have closed := (gated fullCapabilities freeProfile (l1Domain kStateQuarantined) 42 7
    (preparedAssignment freeProfile (l1Domain kStateQuarantined) 42 7) (by decide +kernel)).state
  revert closed
  decide

end Knhv.Iommu
