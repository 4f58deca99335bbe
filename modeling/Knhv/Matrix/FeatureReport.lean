import Knhv.Matrix.Normalize

namespace Knhv.Matrix

open VmxCapability

/-- Every control that a set turns on is a feature that the sample reports. -/
structure Reported (sample : VmxCapabilitySample) (controls : VmxControlSet) : Prop where
  secondary : controls.secondaryControls ≠ 0 →
    getVmxCapabilityFeatureFlags sample &&& kVmxFeatureSecondaryControls ≠ 0
  tertiary : controls.tertiaryControls ≠ 0 →
    getVmxCapabilityFeatureFlags sample &&& kVmxFeatureTertiaryControls ≠ 0
  ept : controls.secondaryControls &&& kVmxSecondaryEnableEpt ≠ 0 →
    getVmxCapabilityFeatureFlags sample &&& kVmxFeatureEpt ≠ 0
  vpid : controls.secondaryControls &&& kVmxSecondaryEnableVpid ≠ 0 →
    getVmxCapabilityFeatureFlags sample &&& kVmxFeatureVpid ≠ 0
  tscScaling : controls.secondaryControls &&& kVmxSecondaryEnableTscScaling ≠ 0 →
    getVmxCapabilityFeatureFlags sample &&& kVmxFeatureTscScaling ≠ 0

/-- The sample allows a set to turn the secondary controls on. -/
def allowsSecondary (sample : VmxCapabilitySample) : Bool :=
  isControlBitAllowed sample.primaryControls (kVmxPrimaryActivateSecondary.setWidth 64)

variable {sample : VmxCapabilitySample} {requested normalized : VmxControlSet}

/-- What a report has beside, once the secondary controls are allowed. -/
def secondaryParts (sample : VmxCapabilitySample) : List (Bool × U64) :=
  let ept :=
    isControlBitAllowed sample.secondaryControls (kVmxSecondaryEnableEpt.setWidth 64) &&
      sample.eptVpidCap &&& kVmxEptVpidCapBasicEpt == kVmxEptVpidCapBasicEpt
  let vpid :=
    isControlBitAllowed sample.secondaryControls (kVmxSecondaryEnableVpid.setWidth 64) &&
      sample.eptVpidCap &&& kVmxEptVpidCapInvvpid != 0
  [(true, kVmxFeatureSecondaryControls),
    (isControlBitAllowed sample.primaryControls (kVmxPrimaryActivateTertiary.setWidth 64) &&
      sample.tertiaryControls.allowedOne != 0, kVmxFeatureTertiaryControls),
    (ept, kVmxFeatureEpt),
    (vpid, kVmxFeatureVpid),
    (ept && sample.eptVpidCap &&& kVmxEptVpidCapFullInvept == kVmxEptVpidCapFullInvept,
      kVmxFeatureInvept),
    (vpid && sample.eptVpidCap &&& kVmxEptVpidCapFullInvvpid == kVmxEptVpidCapFullInvvpid,
      kVmxFeatureInvvpid),
    (isControlBitAllowed sample.secondaryControls (kVmxSecondaryEnableTscScaling.setWidth 64),
      kVmxFeatureTscScaling)]

def reportParts (sample : VmxCapabilitySample) : List (Bool × U64) :=
  let ready := kVmxFeatureControlLock ||| kVmxFeatureControlVmxonOutsideSmx
  [(true, kVmxFeatureVmx),
    (sample.vmxBasic &&& kVmxBasicTrueControls != 0, kVmxFeatureTrueControls),
    (sample.featureControl &&& ready == ready, kVmxFeatureControlReady)] ++
  if allowsSecondary sample then secondaryParts sample else []

theorem report_eq_gather (usable : isVmxCapabilitySampleUsable sample = true) :
    getVmxCapabilityFeatureFlags sample = Masks.gather (reportParts sample) := by
  unfold getVmxCapabilityFeatureFlags
  rw [usable, if_neg (by decide)]
  dsimp only
  cases allows : allowsSecondary sample with
  | false =>
    rw [if_pos (by rw [← allowsSecondary, allows]; rfl)]
    simp only [reportParts, allows, Bool.false_eq_true, if_false, List.append_nil, Masks.gather,
      featureIf, if_true, BitVec.or_zero, BitVec.or_assoc]
    rfl
  | true =>
    rw [if_neg (by rw [← allowsSecondary, allows]; decide)]
    simp only [reportParts, secondaryParts, allows, if_true, List.cons_append, List.nil_append,
      Masks.gather, featureIf, BitVec.or_zero, BitVec.or_assoc]
    rfl

/-- A part that is there is reported. -/
theorem reported_of_part {feature : U64} (usable : isVmxCapabilitySampleUsable sample = true)
    (part : (true, feature) ∈ reportParts sample) (nonzero : feature ≠ 0) :
    getVmxCapabilityFeatureFlags sample &&& feature ≠ 0 := by
  rw [← BitVec.and_self (x := feature)] at nonzero
  obtain ⟨bit, here, _⟩ := Masks.and_ne_zero_iff.mp nonzero
  rw [report_eq_gather usable]
  exact Masks.and_ne_zero_iff.mpr ⟨bit, Masks.getLsbD_gather.mpr ⟨_, part, rfl, here⟩, here⟩

/-- Without the secondary controls no tertiary ones are reported. -/
theorem not_reported_tertiary (usable : isVmxCapabilitySampleUsable sample = true)
    (closed : allowsSecondary sample = false) :
    getVmxCapabilityFeatureFlags sample &&& kVmxFeatureTertiaryControls = 0 := by
  by_contra reported
  rw [report_eq_gather usable] at reported
  obtain ⟨part, member, _, touches⟩ := Masks.touches_gather reported
  simp only [reportParts, closed, Bool.false_eq_true, if_false, List.append_nil, List.mem_cons,
    List.not_mem_nil, or_false] at member
  have apart : kVmxFeatureVmx &&& kVmxFeatureTertiaryControls = 0 ∧
      kVmxFeatureTrueControls &&& kVmxFeatureTertiaryControls = 0 ∧
      kVmxFeatureControlReady &&& kVmxFeatureTertiaryControls = 0 := by decide
  rcases member with rfl | rfl | rfl
  · exact touches apart.1
  · exact touches apart.2.1
  · exact touches apart.2.2

/-- A control that a legal word has is one that its capability allows. -/
theorem bit_allowed {capability : VmxControlCapability} {word bit : U32}
    (legal : Legal capability (word.setWidth 64)) (touches : word &&& bit ≠ 0) :
    isControlBitAllowed capability (bit.setWidth 64) = true := by
  rw [isControlBitAllowed, legal.valid, Bool.true_and, bne_iff_ne]
  refine Masks.touches_of_inside legal.inside fun none => touches ?_
  rw [← BitVec.setWidth_and] at none
  have low := congrArg (BitVec.setWidth 32) none
  simpa using low

theorem mandatory_zero {capability : VmxControlCapability}
    (valid : isVmxControlCapabilityValid capability = true)
    (single : isAllowedOne64 capability = true) : capability.mandatoryOne = 0 := by
  have notPair : isPair capability = false := by
    rw [isPair, beq_iff_eq.mp single]
    decide
  unfold isVmxControlCapabilityValid at valid
  split at valid
  · cases valid
  · rw [notPair, if_neg (by decide), Bool.and_eq_true, beq_iff_eq] at valid
    exact valid.2

theorem Passed.legal (passed : Passed sample requested normalized) (word : ControlWord) :
    Legal (sample.capability word) (normalized.word word) :=
  legal_iff.mp (passed.leastLegal.allowed word)

/-- The tertiary controls have no mandatory bits: they stay as they are asked for. -/
theorem Passed.tertiary_eq (passed : Passed sample requested normalized) :
    normalized.tertiaryControls = requested.tertiaryControls := by
  have sound := sampleSound_of_usable passed.usable
  have none := mandatory_zero (sound.valid .Tertiary) sound.tertiary
  have filled := passed.leastLegal.filled .Tertiary
  rw [none] at filled
  exact filled.trans BitVec.or_zero

/-- A sample that allows the secondary controls reports all that a set can have. -/
theorem Passed.reported (passed : Passed sample requested normalized)
    (allows : allowsSecondary sample = true) : Reported sample normalized := by
  have dependent := passed.leastLegal.dependent
  have report {present : Bool} {feature : U64} (nonzero : feature ≠ 0) (here : present = true)
      (part : (present, feature) ∈ secondaryParts sample) :
      getVmxCapabilityFeatureFlags sample &&& feature ≠ 0 := by
    refine reported_of_part passed.usable ?_ nonzero
    rw [reportParts, if_pos allows, ← here]
    exact List.mem_append_right _ part
  have turnedOn {bit : U32} (asks : normalized.secondaryControls &&& bit ≠ 0) :
      isControlBitAllowed sample.secondaryControls (bit.setWidth 64) = true :=
    bit_allowed (passed.legal .Secondary) asks
  refine ⟨fun _ => ?_, fun asks => ?_, fun asks => ?_, fun asks => ?_, fun asks => ?_⟩
  · exact report (by decide) rfl List.mem_cons_self
  · have activates := bit_allowed (passed.legal .Primary) (dependent.tertiary asks)
    have inside : normalized.tertiaryControls &&& ~~~sample.tertiaryControls.allowedOne = 0 :=
      (passed.legal .Tertiary).inside
    have some_ : sample.tertiaryControls.allowedOne ≠ 0 := fun none => asks (by
      rwa [none, show ~~~(0 : U64) = BitVec.allOnes 64 from by decide, BitVec.and_allOnes]
        at inside)
    refine report (by decide) ?_ (List.mem_of_getElem? (i := 1) rfl)
    rw [Bool.and_eq_true, bne_iff_ne]
    exact ⟨activates, some_⟩
  · refine report (by decide) ?_ (List.mem_of_getElem? (i := 2) rfl)
    rw [Bool.and_eq_true, beq_iff_eq]
    exact ⟨turnedOn asks, dependent.ept asks⟩
  · refine report (by decide) ?_ (List.mem_of_getElem? (i := 3) rfl)
    rw [Bool.and_eq_true, bne_iff_ne]
    exact ⟨turnedOn asks, dependent.vpid asks⟩
  · exact report (by decide) (turnedOn asks) (List.mem_of_getElem? (i := 6) rfl)

/-- A sample that does not allow the secondary controls normalises none of them. -/
theorem Passed.noSecondary (passed : Passed sample requested normalized)
    (closed : allowsSecondary sample = false) : normalized.secondaryControls = 0 := by
  by_contra asks
  have activated : allowsSecondary sample = true :=
    bit_allowed (passed.legal .Primary) (passed.leastLegal.dependent.secondary asks)
  rw [closed] at activated
  cases activated

/-- The report of a sample tells of everything in a set that it normalises iff the
set asks for no tertiary controls or the sample allows the secondary ones. -/
theorem reported_iff
    (normalizes : normalizeVmxControlSet (some sample) (some requested) = (true, normalized)) :
    Reported sample normalized ↔
      requested.tertiaryControls = 0 ∨ allowsSecondary sample = true := by
  rcases normalizeVmxControlSet_cases sample requested with ⟨_, result, passed⟩ | result
  · rw [normalizes] at result
    cases result
    cases allows : allowsSecondary sample with
    | true => exact iff_of_true (passed.reported allows) (Or.inr rfl)
    | false =>
      have empty := passed.noSecondary allows
      have closed {bit : U32} (asks : normalized.secondaryControls &&& bit ≠ 0) : False := by
        rw [empty] at asks
        exact asks BitVec.zero_and
      rw [← passed.tertiary_eq, or_iff_left Bool.false_ne_true]
      constructor
      · intro reported
        by_contra asks
        exact reported.tertiary asks (not_reported_tertiary passed.usable allows)
      · exact fun none => ⟨fun asks => absurd empty asks, fun asks => absurd none asks,
          fun asks => (closed asks).elim, fun asks => (closed asks).elim,
          fun asks => (closed asks).elim⟩
  · rw [normalizes] at result
    cases result

def pairControls (mandatoryOne allowedOne : U64) : VmxControlCapability :=
  ⟨sizeofVmxControlCapability, kVmxCapabilityContractVersion, VmxControlEncoding.Pair32.word, 0,
    mandatoryOne, allowedOne⟩

/-- A usable sample whose primary controls are those that it is given. -/
def primarySample (primaryAllowed : U64) : VmxCapabilitySample where
  size := sizeofVmxCapabilitySample
  version := kVmxCapabilityContractVersion
  logicalIndex := 0
  processorGroup := 0
  processorNumber := 0
  status := kVmxCapabilitySampleCollected
  reserved0 := 0
  reserved1 := 0
  generation := 1
  vmxBasic := 1
  featureControl := 5
  eptVpidCap := 0
  pinControls := pairControls 0 0xFF
  primaryControls := pairControls 0 primaryAllowed
  secondaryControls := pairControls 0 0
  tertiaryControls :=
    ⟨sizeofVmxControlCapability, kVmxCapabilityContractVersion,
      VmxControlEncoding.AllowedOne64.word, 0, 0, 1⟩
  exitControls := pairControls 0 0xFF
  entryControls := pairControls 0 0xFF
  cr0Fixed0 := 0
  cr0Fixed1 := 0
  cr4Fixed0 := 0
  cr4Fixed1 := 0
  reserved2 := 0
  reserved3 := 0

/-- A request that activates the tertiary controls and turns one of them on. -/
def tertiaryRequest : VmxControlSet :=
  ⟨sizeofVmxControlSet, kVmxCapabilityContractVersion, 0, kVmxPrimaryActivateTertiary, 0, 0, 0, 1⟩

theorem reported_tertiary :
    normalizeVmxControlSet (some (primarySample 0x80020000)) (some tertiaryRequest) =
      (true, tertiaryRequest) ∧ Reported (primarySample 0x80020000) tertiaryRequest := by
  have normalizes : normalizeVmxControlSet (some (primarySample 0x80020000))
    (some tertiaryRequest) = (true, tertiaryRequest) := by decide
  exact ⟨normalizes, (reported_iff normalizes).mpr (Or.inr (by decide))⟩

/-- Without the secondary controls the tertiary ones are normalised, but not reported. -/
theorem tertiary_unreported :
    ¬∀ sample requested normalized, isVmxCapabilitySampleUsable sample = true →
      normalizeVmxControlSet (some sample) (some requested) = (true, normalized) →
      Reported sample normalized := by
  intro agree
  have reported := agree (primarySample 0x20000) tertiaryRequest tertiaryRequest (by decide)
    (by decide)
  exact reported.tertiary (by decide) (by decide)

end Knhv.Matrix
