import Knhv.Lib.Census
import Knhv.Lib.Consensus
import Knhv.Matrix.FeatureReport
import Knhv.Matrix.Vmx

namespace Knhv.Matrix

open VmxCapability

section

namespace VmxCapability

def usable (items : List VmxCapabilitySample) : List VmxCapabilitySample :=
  items.filter isVmxCapabilitySampleUsable

/-- What the loop keeps, said of the samples as a whole. -/
def digest (start : VmxCapabilityMatrix) (items : List VmxCapabilitySample) : Scan where
  firstValid := (usable items).head?
  identityUniform := Consensus.uniform sameIdentity (usable items)
  matrix := { start with
    invalidCount := BitVec.ofNat 32 (Census.rejected isVmxCapabilitySampleUsable items)
    featureIntersection := Consensus.meet ((usable items).map getVmxCapabilityFeatureFlags)
    featureUnion := Consensus.join ((usable items).map getVmxCapabilityFeatureFlags)
    eptVpidIntersection := Consensus.meet ((usable items).map (·.eptVpidCap))
    eptVpidUnion := Consensus.join ((usable items).map (·.eptVpidCap))
    generation := ((usable items).head?.map (·.generation)).getD 0 }

variable {items other : List VmxCapabilitySample} {sample : VmxCapabilitySample}
  {start : VmxCapabilityMatrix} {expectedCount sampleCount : U32}

theorem scanSamples_eq (prior : List VmxCapabilitySample) (scan : Scan) :
    scanSamples prior items scan =
      Census.scan isVmxCapabilitySampleValid clashes observe prior items scan := by
  induction items generalizing prior scan with
  | nil => rfl
  | cons sample rest ih => simp only [scanSamples, Census.scan, ih]

/-- One more sample, seen by the loop and by the list as a whole. -/
theorem observe_digest : observe (digest start items) sample = digest start (items ++ [sample]) := by
  cases fits : isVmxCapabilitySampleUsable sample with
  | false =>
    have one : BitVec.ofNat 32 (Census.rejected isVmxCapabilitySampleUsable items + 1) =
        BitVec.ofNat 32 (Census.rejected isVmxCapabilitySampleUsable items) + 1 :=
      BitVec.ofNat_add _ _
    simp only [observe, digest, usable, Census.filter_concat, Census.rejected_concat, fits,
      Bool.not_false, if_true, Bool.false_eq_true, if_false, one]
  | true =>
    cases seen : items.filter isVmxCapabilitySampleUsable with
    | nil =>
      simp [observe, digest, usable, Census.rejected_concat, fits, seen, Consensus.meet,
        Consensus.join, Consensus.reduce, Consensus.uniform]
    | cons first rest =>
      simp only [observe, digest, usable, Census.filter_concat, Census.rejected_concat, fits, seen,
        Bool.not_true, Bool.false_eq_true, if_false, if_true, List.cons_append, List.head?_cons,
        List.map_cons, List.map_append, List.map_nil, Consensus.meet_concat,
        Consensus.join_concat, Consensus.uniform_concat]
      cases sameIdentity first sample <;> simp

theorem foldl_observe (start : VmxCapabilityMatrix)
    (empty : digest start [] = ⟨start, none, true⟩) (items : List VmxCapabilitySample) :
    items.foldl observe ⟨start, none, true⟩ = digest start items := by
  rw [← empty]
  exact Census.foldl_eq (fun _ _ => observe_digest) items

/-- The matrix of samples that are accepted. -/
def builtMatrix (expectedCount sampleCount : U32) (items : List VmxCapabilitySample) :
    VmxCapabilityMatrix :=
  if sampleCount == 0 && expectedCount == 0 then
    { initializeMatrix expectedCount sampleCount with
      state := VmxCapabilityMatrixState.Empty.word
      flags := kVmxMatrixSamplesComplete }
  else
    finishMatrix (digest (initializeMatrix expectedCount sampleCount) items) sampleCount
      expectedCount

/-- What is left of a matrix that could not be built tells nothing. -/
structure Abandoned (expectedCount sampleCount : U32) (matrix : VmxCapabilityMatrix) : Prop where
  state : matrix.state = VmxCapabilityMatrixState.Invalid.word
  flags : matrix.flags = 0
  expectedCount : matrix.expectedCount = expectedCount
  sampleCount : matrix.sampleCount = sampleCount
  validCount : matrix.validCount = 0

theorem abandoned_observe {scan : Scan} (abandoned : Abandoned expectedCount sampleCount scan.matrix) :
    Abandoned expectedCount sampleCount (observe scan sample).matrix := by
  obtain ⟨state, flags, expected, sampled, valid⟩ := abandoned
  unfold observe
  dsimp only
  split
  · exact ⟨state, flags, expected, sampled, valid⟩
  · split
    · exact ⟨state, flags, expected, sampled, valid⟩
    · exact ⟨state, flags, expected, sampled, valid⟩

theorem abandoned_initialize :
    Abandoned expectedCount sampleCount (initializeMatrix expectedCount sampleCount) :=
  ⟨rfl, rfl, rfl, rfl, rfl⟩

end VmxCapability

variable {samples : Samples VmxCapabilitySample} {expectedCount : U32}

theorem builtMatrix_nil (expects : expectedCount ≠ 0) : builtMatrix expectedCount 0 [] =
    { initializeMatrix expectedCount 0 with state := VmxCapabilityMatrixState.Incomplete.word } := by
  have differ : ((0 : U32) == expectedCount) = false := beq_eq_false_iff_ne.mpr expects.symm
  have missing : (expectedCount == 0) = false := beq_eq_false_iff_ne.mpr expects
  have differs : ((0 : U32) != expectedCount) = true := bne_iff_ne.mpr expects.symm
  rw [builtMatrix, missing, Bool.and_false, if_neg Bool.false_ne_true]
  have start : digest (initializeMatrix expectedCount 0) [] =
    ⟨initializeMatrix expectedCount 0, none, true⟩ := rfl
  have none : (initializeMatrix expectedCount 0).invalidCount = 0 := rfl
  have expected : (initializeMatrix expectedCount 0).expectedCount = expectedCount := rfl
  have sampled : (initializeMatrix expectedCount 0).sampleCount = 0 := rfl
  have intersection : (initializeMatrix expectedCount 0).featureIntersection = 0 := rfl
  have union : (initializeMatrix expectedCount 0).featureUnion = 0 := rfl
  have count : (0 : U32) - 0 = 0 := rfl
  simp only [finishMatrix, start, none, expected, sampled, intersection, union, count, differ,
    differs, Bool.false_and, Bool.true_or, if_true]
  simp [initializeMatrix, VmxCapabilityMatrix.zero]

/-- A matrix is built of the arrays that fit and are accepted, and of no others. -/
theorem buildVmxCapabilityMatrix_cases (fits : samples.Fits) (expects : expectedCount ≤ 4096) :
    (Census.accepts isVmxCapabilitySampleValid clashes [] samples.items = true ∧
      buildVmxCapabilityMatrix samples expectedCount =
        (true, builtMatrix expectedCount samples.count samples.items)) ∨
    (Census.accepts isVmxCapabilitySampleValid clashes [] samples.items = false ∧
      (buildVmxCapabilityMatrix samples expectedCount).1 = false ∧
      Abandoned expectedCount samples.count (buildVmxCapabilityMatrix samples expectedCount).2) := by
  unfold buildVmxCapabilityMatrix
  dsimp only
  rw [if_neg]
  · split
    · rename_i none
      rw [beq_iff_eq] at none
      have length := fits.length
      rw [none] at length
      have nil := List.length_eq_zero_iff.mp length.symm
      rw [none, nil]
      refine .inl ⟨rfl, ?_⟩
      by_cases nobody : expectedCount = 0
      · rw [nobody]
        rfl
      · rw [builtMatrix_nil nobody, beq_eq_false_iff_ne.mpr nobody]
        rfl
    · rename_i some_
      rw [scanSamples_eq]
      cases accepted : Census.accepts isVmxCapabilitySampleValid clashes [] samples.items with
      | false =>
        have kept : Abandoned expectedCount samples.count (Census.scan isVmxCapabilitySampleValid
            clashes observe [] samples.items
            ⟨initializeMatrix expectedCount samples.count, none, true⟩).2.matrix :=
          Census.scan_keeps (P := fun scan : Scan => Abandoned expectedCount samples.count scan.matrix)
            (fun _ _ => abandoned_observe) abandoned_initialize
        obtain ⟨left, refused⟩ := Census.scan_refused accepted observe
          ⟨initializeMatrix expectedCount samples.count, none, true⟩
        rw [refused] at kept ⊢
        obtain ⟨_, flags, expected, sampled, valid⟩ := kept
        exact .inr ⟨rfl, rfl, rfl, flags, expected, sampled, valid⟩
      | true =>
        rw [Census.scan_accepted accepted, foldl_observe _ rfl, builtMatrix,
          Bool.eq_false_iff.mpr some_]
        exact .inl ⟨rfl, rfl⟩
  · simp only [Bool.or_eq_true, Bool.and_eq_true, decide_eq_true_eq, bne_iff_ne, not_or, not_and,
      Bool.not_eq_true]
    exact ⟨⟨BitVec.not_lt.mpr fits.few, BitVec.not_lt.mpr expects⟩,
      or_iff_not_imp_left.mp fits.present⟩

/-- Nothing is built for more processors than the contract has. -/
theorem buildVmxCapabilityMatrix_many (many : ¬expectedCount ≤ 4096) :
    buildVmxCapabilityMatrix samples expectedCount =
      (false, initializeMatrix expectedCount samples.count) := by
  have beyond : kVmxCapabilityMaxProcessors < expectedCount := BitVec.not_le.mp many
  unfold buildVmxCapabilityMatrix
  dsimp only
  rw [if_pos]
  rw [decide_eq_true beyond, Bool.or_true, Bool.true_or]

def isVmxCapabilityMatrixUniform (matrix : VmxCapabilityMatrix)
    (requiredFeatures requiredEptVpidCaps : U64) : Bool :=
  let kKnownEptVpidCaps :=
    kVmxEptVpidCapBasicEpt ||| kVmxEptVpidCapFullInvept ||| kVmxEptVpidCapFullInvvpid
  isVmxCapabilityMatrixValid matrix &&
    matrix.state == VmxCapabilityMatrixState.CompleteUniform.word &&
    requiredFeatures &&& ~~~kVmxCapabilityKnownFeatureMask == 0 &&
    requiredEptVpidCaps &&& ~~~kKnownEptVpidCaps == 0 &&
    matrix.featureIntersection &&& requiredFeatures == requiredFeatures &&
    matrix.eptVpidIntersection &&& requiredEptVpidCaps == requiredEptVpidCaps

end

namespace VmxCapability

/-- The flags of a matrix, from the facts that they tell of. -/
def matrixFlags (allVmx identityUniform hasInvalid complete : Bool) : U32 :=
  0 ||| (if allVmx then kVmxMatrixAllVmx else 0) |||
    (if identityUniform then kVmxMatrixIdentityUniform else 0) |||
    (if hasInvalid then kVmxMatrixHasInvalidSamples else 0) |||
    (if complete then kVmxMatrixSamplesComplete else 0)

/-- Every flag tells its own fact. -/
theorem matrixFlags_tell (a b c d : Bool) :
    (matrixFlags a b c d &&& ~~~kVmxMatrixKnownFlagMask = 0) ∧
      (matrixFlags a b c d &&& kVmxMatrixAllVmx != 0) = a ∧
      (matrixFlags a b c d &&& kVmxMatrixIdentityUniform != 0) = b ∧
      (matrixFlags a b c d &&& kVmxMatrixHasInvalidSamples != 0) = c ∧
      (matrixFlags a b c d &&& kVmxMatrixSamplesComplete != 0) = d := by
  revert a b c d
  decide

/-- What a matrix of samples that are accepted is made of. -/
structure Sound (matrix : VmxCapabilityMatrix) (identityUniform : Bool) : Prop where
  size : matrix.size = sizeofVmxCapabilityMatrix
  version : matrix.version = kVmxCapabilityContractVersion
  few : matrix.sampleCount ≤ kVmxCapabilityMaxProcessors
  expects : matrix.expectedCount ≤ kVmxCapabilityMaxProcessors
  valid : matrix.validCount ≤ matrix.sampleCount
  invalid : matrix.invalidCount ≤ matrix.sampleCount
  sum : matrix.validCount + matrix.invalidCount = matrix.sampleCount
  generation : matrix.generation = 0 ↔ matrix.validCount = 0
  inside : matrix.featureIntersection &&& ~~~matrix.featureUnion = 0
  known : matrix.featureUnion &&& ~~~kVmxCapabilityKnownFeatureMask = 0
  inconsistent : matrix.inconsistentFeatures = matrix.featureUnion ^^^ matrix.featureIntersection
  eptVpid : matrix.eptVpidIntersection &&& ~~~matrix.eptVpidUnion = 0
  reserved : matrix.reserved0 = 0 ∧ matrix.reserved1 = 0 ∧ matrix.reserved2 = 0 ∧
    matrix.reserved3 = 0
  flags : matrix.flags = matrixFlags
    (matrix.validCount != 0 && matrix.featureIntersection &&& kVmxFeatureVmx != 0)
    (identityUniform && matrix.validCount != 0)
    (matrix.invalidCount != 0)
    (matrix.sampleCount == matrix.expectedCount && matrix.validCount == matrix.expectedCount)
  state : matrix.state =
    if matrix.sampleCount != matrix.expectedCount || matrix.invalidCount != 0 ||
        matrix.expectedCount == 0 then
      VmxCapabilityMatrixState.Incomplete.word
    else if !identityUniform || matrix.inconsistentFeatures != 0 ||
        matrix.eptVpidIntersection != matrix.eptVpidUnion then
      VmxCapabilityMatrixState.CompleteMixed.word
    else VmxCapabilityMatrixState.CompleteUniform.word

variable {matrix : VmxCapabilityMatrix} {identityUniform : Bool}

/-- The samples of a matrix are as many as expected, and all usable. -/
def isWhole (matrix : VmxCapabilityMatrix) : Bool :=
  matrix.sampleCount == matrix.expectedCount && matrix.invalidCount == 0 &&
    matrix.expectedCount != 0

/-- Nothing tells the samples of a matrix apart. -/
def isAlike (matrix : VmxCapabilityMatrix) (identityUniform : Bool) : Bool :=
  identityUniform && matrix.inconsistentFeatures == 0 &&
    matrix.eptVpidIntersection == matrix.eptVpidUnion

theorem Sound.state_eq (sound : Sound matrix identityUniform) : matrix.state =
    if isWhole matrix then
      if isAlike matrix identityUniform then VmxCapabilityMatrixState.CompleteUniform.word
      else VmxCapabilityMatrixState.CompleteMixed.word
    else VmxCapabilityMatrixState.Incomplete.word := by
  have whole : (matrix.sampleCount != matrix.expectedCount || matrix.invalidCount != 0 ||
      matrix.expectedCount == 0) = !isWhole matrix := by
    simp only [isWhole, bne, Bool.not_and, Bool.not_not]
  have alike : (!identityUniform || matrix.inconsistentFeatures != 0 ||
      matrix.eptVpidIntersection != matrix.eptVpidUnion) = !isAlike matrix identityUniform := by
    simp only [isAlike, bne, Bool.not_and]
  rw [sound.state, whole, alike]
  cases isWhole matrix <;> cases isAlike matrix identityUniform <;> rfl

/-- Such a matrix is complete and uniform iff it is whole and nothing tells its samples apart. -/
theorem Sound.uniform_iff (sound : Sound matrix identityUniform) :
    matrix.state = VmxCapabilityMatrixState.CompleteUniform.word ↔
      isWhole matrix = true ∧ isAlike matrix identityUniform = true := by
  rw [sound.state_eq]
  cases isWhole matrix <;> cases isAlike matrix identityUniform <;> decide

/-- The validator accepts every matrix that is so made. -/
theorem Sound.accepted (sound : Sound matrix identityUniform) :
    isVmxCapabilityMatrixValid matrix = true := by
  have told := matrixFlags_tell
    (matrix.validCount != 0 && matrix.featureIntersection &&& kVmxFeatureVmx != 0)
    (identityUniform && matrix.validCount != 0)
    (matrix.invalidCount != 0)
    (matrix.sampleCount == matrix.expectedCount && matrix.validCount == matrix.expectedCount)
  rw [← sound.flags] at told
  obtain ⟨knownFlags, allVmx, identity, hasInvalid, complete⟩ := told
  have versioned : VmxCapability.isVersionedSizeValid matrix.version matrix.size
      sizeofVmxCapabilityMatrix = true := by
    rw [sound.size, sound.version]
    decide
  have stateValid : ¬VmxCapabilityMatrixState.Invalid.word < matrix.state := by
    rw [sound.state_eq]
    cases isWhole matrix <;> cases isAlike matrix identityUniform <;> decide
  have intersectionKnown : matrix.featureIntersection &&& ~~~kVmxCapabilityKnownFeatureMask = 0 :=
    Masks.inside_trans sound.inside sound.known
  have turned : (matrix.expectedCount == matrix.sampleCount) =
      (matrix.sampleCount == matrix.expectedCount) := BEq.comm
  have noIdentity : (matrix.validCount == 0 && (identityUniform && matrix.validCount != 0)) =
      false := by
    rw [bne]
    cases matrix.validCount == 0 <;> cases identityUniform <;> rfl
  have generation : (matrix.validCount == 0 && matrix.generation != 0 ||
      matrix.validCount != 0 && matrix.generation == 0) = false := by
    have same : (matrix.generation == 0) = (matrix.validCount == 0) := by
      rw [Bool.eq_iff_iff, beq_iff_eq, beq_iff_eq, sound.generation]
    rw [bne, bne, same]
    cases matrix.validCount == 0 <;> rfl
  unfold isVmxCapabilityMatrixValid
  rw [if_neg]
  · simp only [allVmx, identity, hasInvalid, complete, turned, noIdentity, generation,
      bne_self_eq_false, Bool.or_self, Bool.false_eq_true, if_false]
    have state := sound.state_eq
    cases whole : isWhole matrix with
    | false =>
      rw [whole, if_neg Bool.false_ne_true] at state
      have incomplete : (matrix.sampleCount == matrix.expectedCount && matrix.expectedCount != 0 &&
          matrix.invalidCount == 0) = false := by
        rw [← whole, isWhole, Bool.and_right_comm]
      rw [state, incomplete]
      rfl
    | true =>
      rw [whole, if_pos rfl] at state
      simp only [isWhole, Bool.and_eq_true, beq_iff_eq, bne_iff_ne] at whole
      obtain ⟨⟨counts, noInvalid⟩, expects⟩ := whole
      have everyone : matrix.validCount = matrix.expectedCount := by
        rw [← counts, ← sound.sum, noInvalid]
        exact (BitVec.add_zero _).symm
      have self := beq_self_eq_true matrix.expectedCount
      have present := bne_iff_ne.mpr expects
      rw [counts, noInvalid, everyone, self, present, Bool.and_true identityUniform, ← isAlike,
        state]
      cases isAlike matrix identityUniform <;> rfl
  · simp only [versioned, decide_eq_false stateValid, knownFlags, sound.inside, sound.known,
      intersectionKnown, sound.sum, sound.inconsistent, sound.eptVpid, sound.reserved,
      decide_eq_false (BitVec.not_lt.mpr sound.few),
      decide_eq_false (BitVec.not_lt.mpr sound.expects),
      decide_eq_false (BitVec.not_lt.mpr sound.valid),
      decide_eq_false (BitVec.not_lt.mpr sound.invalid), bne_self_eq_false, Bool.not_true,
      Bool.or_self, Bool.false_eq_true, not_false_eq_true]

/-- The words that identity compares in one control. -/
def controlWords (capability : VmxControlCapability) : U32 × U64 × U64 :=
  (capability.encoding, capability.mandatoryOne, capability.allowedOne)

/-- The words that identity compares. -/
def identityWords (sample : VmxCapabilitySample) : List U64 × List (U32 × U64 × U64) :=
  ([sample.generation, sample.vmxBasic, sample.featureControl, sample.eptVpidCap, sample.cr0Fixed0,
      sample.cr0Fixed1, sample.cr4Fixed0, sample.cr4Fixed1],
    [controlWords sample.pinControls, controlWords sample.primaryControls,
      controlWords sample.secondaryControls, controlWords sample.tertiaryControls,
      controlWords sample.exitControls, controlWords sample.entryControls])

theorem sameControl_iff (left right : VmxControlCapability) :
    sameControl left right = true ↔ controlWords left = controlWords right := by
  simp only [sameControl, controlWords, Bool.and_eq_true, beq_iff_eq, Prod.mk.injEq, and_assoc]

theorem sameIdentity_iff (left right : VmxCapabilitySample) :
    sameIdentity left right = true ↔ identityWords left = identityWords right := by
  simp only [sameIdentity, identityWords, Bool.and_eq_true, beq_iff_eq, sameControl_iff,
    Prod.mk.injEq, List.cons.injEq, and_true]
  constructor
  · rintro ⟨⟨⟨⟨⟨⟨⟨⟨⟨⟨⟨⟨⟨generation, basic⟩, control⟩, caps⟩, pin⟩, primary⟩, secondary⟩, tertiary⟩, exit⟩,
      entry⟩, cr0Low⟩, cr0High⟩, cr4Low⟩, cr4High⟩
    exact ⟨⟨generation, basic, control, caps, cr0Low, cr0High, cr4Low, cr4High⟩, pin, primary,
      secondary, tertiary, exit, entry⟩
  · rintro ⟨⟨generation, basic, control, caps, cr0Low, cr0High, cr4Low, cr4High⟩, pin, primary,
      secondary, tertiary, exit, entry⟩
    exact ⟨⟨⟨⟨⟨⟨⟨⟨⟨⟨⟨⟨⟨generation, basic⟩, control⟩, caps⟩, pin⟩, primary⟩, secondary⟩, tertiary⟩, exit⟩,
      entry⟩, cr0Low⟩, cr0High⟩, cr4Low⟩, cr4High⟩

theorem sameIdentity_caps {left right : VmxCapabilitySample}
    (same : sameIdentity left right = true) : left.eptVpidCap = right.eptVpidCap := by
  rw [sameIdentity_iff] at same
  simp only [identityWords, Prod.mk.injEq, List.cons.injEq] at same
  exact same.1.2.2.2.1

theorem sameIdentity_equivalence : Equivalence fun a b => sameIdentity a b = true :=
  Consensus.equivalence_of_key sameIdentity_iff

/-- The features that a report can have. -/
def reportable (secondary : Bool) : List U64 :=
  [kVmxFeatureVmx, kVmxFeatureTrueControls, kVmxFeatureControlReady] ++
    if secondary then
      [kVmxFeatureSecondaryControls, kVmxFeatureTertiaryControls, kVmxFeatureEpt, kVmxFeatureVpid,
        kVmxFeatureInvept, kVmxFeatureInvvpid, kVmxFeatureTscScaling]
    else []

theorem reportable_known (secondary : Bool) : ∀ feature ∈ reportable secondary,
    feature &&& ~~~kVmxCapabilityKnownFeatureMask = 0 := by
  have known : ∀ secondary, (reportable secondary).all
      (fun feature => feature &&& ~~~kVmxCapabilityKnownFeatureMask == 0) = true := by decide
  exact fun feature member => beq_iff_eq.mp (List.all_eq_true.mp (known secondary) feature member)

theorem reportParts_reportable (sample : VmxCapabilitySample) :
    (reportParts sample).map Prod.snd = reportable (allowsSecondary sample) := by
  rw [reportParts, reportable]
  cases allowsSecondary sample <;> rfl

/-- The features that a sample reports are known ones. -/
theorem features_known {sample : VmxCapabilitySample}
    (usable : isVmxCapabilitySampleUsable sample = true) :
    getVmxCapabilityFeatureFlags sample &&& ~~~kVmxCapabilityKnownFeatureMask = 0 := by
  rw [report_eq_gather usable]
  refine Masks.gather_inside fun part member => reportable_known (allowsSecondary sample) _ ?_
  rw [← reportParts_reportable]
  exact List.mem_map_of_mem member

/-- Usable samples of one identity report the same features. -/
theorem features_eq {left right : VmxCapabilitySample}
    (usableLeft : isVmxCapabilitySampleUsable left = true)
    (usableRight : isVmxCapabilitySampleUsable right = true)
    (same : sameIdentity left right = true) :
    getVmxCapabilityFeatureFlags left = getVmxCapabilityFeatureFlags right := by
  have allowed (word : ControlWord)
      (same : (left.capability word).allowedOne = (right.capability word).allowedOne) (bit : U64) :
      isControlBitAllowed (left.capability word) bit =
        isControlBitAllowed (right.capability word) bit := by
    rw [isControlBitAllowed, isControlBitAllowed, (sampleSound_of_usable usableLeft).valid,
      (sampleSound_of_usable usableRight).valid, same]
  rw [sameIdentity_iff] at same
  simp only [identityWords, controlWords, Prod.mk.injEq, List.cons.injEq, and_true] at same
  obtain ⟨⟨_, basic, control, caps, _⟩, _, primary, secondary, tertiary, _⟩ := same
  have primaryAllowed : ∀ bit, isControlBitAllowed left.primaryControls bit =
    isControlBitAllowed right.primaryControls bit := allowed .Primary primary.2.2
  have secondaryAllowed : ∀ bit, isControlBitAllowed left.secondaryControls bit =
    isControlBitAllowed right.secondaryControls bit := allowed .Secondary secondary.2.2
  simp only [getVmxCapabilityFeatureFlags, usableLeft, usableRight, basic, control, caps,
    primaryAllowed, secondaryAllowed, tertiary.2.2]

variable {items other : List VmxCapabilitySample} {sampleCount expectedCount : U32}

theorem mem_usable {sample : VmxCapabilitySample} :
    sample ∈ usable items ↔ sample ∈ items ∧ isVmxCapabilitySampleUsable sample = true :=
  List.mem_filter

/-- The generation of a matrix is missing iff nothing in it is usable. -/
theorem generation_eq_zero_iff :
    ((usable items).head?.map (·.generation)).getD 0 = 0 ↔ usable items = [] := by
  cases seen : usable items with
  | nil => exact iff_of_true rfl rfl
  | cons first rest =>
    have fits := (mem_usable.mp (seen ▸ List.mem_cons_self : first ∈ usable items)).2
    exact iff_of_false (sampleSound_of_usable fits).generation (List.cons_ne_nil first rest)

/-- A matrix that the builder finishes is made as the validator wants it. -/
theorem sound_finish (length : sampleCount.toNat = items.length) (few : items.length ≤ 4096)
    (expects : expectedCount ≤ 4096) :
    Sound (finishMatrix (digest (initializeMatrix expectedCount sampleCount) items) sampleCount
      expectedCount) (Consensus.uniform sameIdentity (usable items)) := by
  have whole : (usable items).length + Census.rejected isVmxCapabilitySampleUsable items =
    items.length := Census.filter_length_add_rejected
  have count : sampleCount - BitVec.ofNat 32 (Census.rejected isVmxCapabilitySampleUsable items) =
    BitVec.ofNat 32 (usable items).length := Census.sub_rejected length
  have rejected : BitVec.ofNat 32 (Census.rejected isVmxCapabilitySampleUsable items) ≤
    sampleCount := Census.ofNat_le (by omega)
  have features : ∀ word ∈ (usable items).map getVmxCapabilityFeatureFlags,
      word &&& ~~~kVmxCapabilityKnownFeatureMask = 0 := by
    intro word member
    obtain ⟨sample, inside, rfl⟩ := List.mem_map.mp member
    exact features_known (mem_usable.mp inside).2
  refine {
    size := rfl
    version := rfl
    few := ?_
    expects := expects
    valid := ?_
    invalid := rejected
    sum := ?_
    generation := ?_
    inside := Consensus.meet_inside_join
    known := Consensus.join_inside features
    inconsistent := rfl
    eptVpid := Consensus.meet_inside_join
    reserved := ⟨rfl, rfl, rfl, rfl⟩
    flags := rfl
    state := rfl }
  · exact BitVec.le_def.mpr (length ▸ few)
  · exact (congrArg (· ≤ sampleCount) count).mpr (Census.ofNat_le (by omega))
  · exact BitVec.sub_add_cancel _ _
  · refine generation_eq_zero_iff.trans ?_
    rw [← List.length_eq_zero_iff, ← Census.ofNat_eq_zero_iff (w := 32) (by omega)]
    exact (congrArg (· = 0) count).symm ▸ Iff.rfl

/-- Two samples of one processor. -/
def SameProcessor (a b : VmxCapabilitySample) : Prop :=
  a.logicalIndex = b.logicalIndex ∨
    a.processorGroup = b.processorGroup ∧ a.processorNumber = b.processorNumber

theorem clashes_iff (a b : VmxCapabilitySample) : clashes a b = true ↔ SameProcessor a b := by
  simp only [clashes, SameProcessor, Bool.or_eq_true, Bool.and_eq_true, beq_iff_eq]

theorem clashes_comm (a b : VmxCapabilitySample) : clashes a b = clashes b a := by
  rw [Bool.eq_iff_iff, clashes_iff, clashes_iff]
  simp only [SameProcessor, eq_comm]

/-- The samples that no matrix is built of. -/
theorem refused_iff : Census.accepts isVmxCapabilitySampleValid clashes [] items = false ↔
    (∃ sample ∈ items, isVmxCapabilitySampleValid sample = false) ∨
      ∃ a b, [a, b].Sublist items ∧ SameProcessor a b := by
  rw [← Bool.not_eq_true, Census.accepts_iff, List.pairwise_iff_forall_sublist]
  constructor
  · intro refused
    by_contra sound
    rw [not_or] at sound
    refine refused ⟨fun sample member => ?_, fun _ _ _ never => absurd never List.not_mem_nil,
      fun {a b} both => ?_⟩
    · by_contra invalid
      exact sound.1 ⟨sample, member, Bool.eq_false_iff.mpr invalid⟩
    · by_contra clash
      rw [Bool.not_eq_false, clashes_comm, clashes_iff] at clash
      exact sound.2 ⟨a, b, both, clash⟩
  · rintro (⟨sample, member, invalid⟩ | ⟨a, b, both, same⟩) ⟨valid, _, apart⟩
    · rw [valid sample member] at invalid
      cases invalid
    · rw [← clashes_iff, clashes_comm, apart both] at same
      cases same

/-- A matrix that the builder finishes is complete and uniform iff the samples are as
many as expected, all usable and all of one identity. -/
theorem complete_finish (length : sampleCount.toNat = items.length) (few : items.length ≤ 4096)
    (expects : expectedCount ≤ 4096) :
    (finishMatrix (digest (initializeMatrix expectedCount sampleCount) items) sampleCount
        expectedCount).state = VmxCapabilityMatrixState.CompleteUniform.word ↔
      (sampleCount = expectedCount ∧ expectedCount ≠ 0) ∧
        (∀ sample ∈ items, isVmxCapabilitySampleUsable sample = true) ∧
        ∀ sample ∈ items, ∀ other ∈ items, sameIdentity sample other = true := by
  have sound := sound_finish length few expects
  have whole : (usable items).length + Census.rejected isVmxCapabilitySampleUsable items =
    items.length := Census.filter_length_add_rejected
  have isWhole_iff : isWhole (finishMatrix (digest (initializeMatrix expectedCount sampleCount)
      items) sampleCount expectedCount) = true ↔
      (sampleCount = expectedCount ∧ expectedCount ≠ 0) ∧
        ∀ sample ∈ items, isVmxCapabilitySampleUsable sample = true := by
    rw [← Census.rejected_eq_zero_iff, ← Census.ofNat_eq_zero_iff (w := 32) (by omega),
      and_right_comm]
    simp only [isWhole, Bool.and_eq_true, beq_iff_eq, bne_iff_ne]
    rfl
  rw [sound.uniform_iff, isWhole_iff, and_assoc]
  refine and_congr_right fun _ => and_congr_right fun everyone => ?_
  have all : usable items = items := List.filter_eq_self.mpr everyone
  rw [← Consensus.uniform_iff sameIdentity_equivalence, all]
  refine ⟨fun alike => ?_, fun alike => ?_⟩
  · rw [isAlike, Bool.and_eq_true, Bool.and_eq_true] at alike
    exact alike.1.1
  · have same := (Consensus.uniform_iff sameIdentity_equivalence).mp alike
    have features : Consensus.meet ((usable items).map getVmxCapabilityFeatureFlags) =
        Consensus.join ((usable items).map getVmxCapabilityFeatureFlags) := by
      refine Consensus.meet_map_eq_join fun a left b right => ?_
      rw [all] at left right
      exact features_eq (everyone a left) (everyone b right) (same a left b right)
    have caps : Consensus.meet ((usable items).map (·.eptVpidCap)) =
        Consensus.join ((usable items).map (·.eptVpidCap)) := by
      refine Consensus.meet_map_eq_join fun a left b right => ?_
      rw [all] at left right
      exact sameIdentity_caps (same a left b right)
    simp only [isAlike, alike, Bool.true_and, Bool.and_eq_true, beq_iff_eq]
    refine ⟨?_, caps⟩
    exact (congrArg _ features).trans (BitVec.xor_self)

/-- What the answer of the builder tells of the samples. -/
structure Tells (items : List VmxCapabilitySample) (expectedCount : U32)
    (answer : Bool × VmxCapabilityMatrix) : Prop where
  valid : answer.1 = true → isVmxCapabilityMatrixValid answer.2 = true
  refused : expectedCount ≤ kVmxCapabilityMaxProcessors →
    (answer.1 = false ↔
      (∃ sample ∈ items, isVmxCapabilitySampleValid sample = false) ∨
        ∃ a b, [a, b].Sublist items ∧ SameProcessor a b)
  complete : answer.1 = true →
    (answer.2.state = VmxCapabilityMatrixState.CompleteUniform.word ↔
      (items.length = expectedCount.toNat ∧ expectedCount ≠ 0) ∧
        (∀ sample ∈ items, isVmxCapabilitySampleUsable sample = true) ∧
        ∀ sample ∈ items, ∀ other ∈ items, sameIdentity sample other = true)
  abandoned : answer.1 = false → answer.2.state = VmxCapabilityMatrixState.Invalid.word
  uniform : ∀ requiredFeatures requiredEptVpidCaps,
    isVmxCapabilityMatrixUniform answer.2 requiredFeatures requiredEptVpidCaps = true →
      ∀ sample ∈ items,
        getVmxCapabilityFeatureFlags sample &&& requiredFeatures = requiredFeatures ∧
          sample.eptVpidCap &&& requiredEptVpidCaps = requiredEptVpidCaps

/-- A matrix without the generation of the sample that it saw first. -/
def ungenerated (matrix : VmxCapabilityMatrix) : VmxCapabilityMatrix :=
  { matrix with generation := 0 }

/-- Two answers that tell the same. -/
structure TellsAlike (answer other : Bool × VmxCapabilityMatrix) : Prop where
  success : answer.1 = other.1
  state : answer.2.state = other.2.state
  flags : answer.2.flags = other.2.flags
  expectedCount : answer.2.expectedCount = other.2.expectedCount
  sampleCount : answer.2.sampleCount = other.2.sampleCount
  validCount : answer.2.validCount = other.2.validCount
  rest : answer.1 = true → ungenerated answer.2 = ungenerated other.2

/-- A matrix is accepted only as uniform if it is complete, and then its samples have
what it has. -/
theorem uniform_built {matrix : VmxCapabilityMatrix} {requiredFeatures requiredEptVpidCaps : U64}
    (uniform : isVmxCapabilityMatrixUniform matrix requiredFeatures requiredEptVpidCaps = true) :
    matrix.state = VmxCapabilityMatrixState.CompleteUniform.word ∧
      matrix.featureIntersection &&& requiredFeatures = requiredFeatures ∧
      matrix.eptVpidIntersection &&& requiredEptVpidCaps = requiredEptVpidCaps := by
  simp only [isVmxCapabilityMatrixUniform, Bool.and_eq_true, beq_iff_eq] at uniform
  exact ⟨uniform.1.1.1.1.2, uniform.1.2, uniform.2⟩

theorem tells_built (length : sampleCount.toNat = items.length) (few : items.length ≤ 4096)
    (expects : expectedCount ≤ 4096)
    (accepted : Census.accepts isVmxCapabilitySampleValid clashes [] items = true) :
    Tells items expectedCount (true, builtMatrix expectedCount sampleCount items) := by
  have refused : (true = false) ↔ (∃ sample ∈ items, isVmxCapabilitySampleValid sample = false) ∨
      ∃ a b, [a, b].Sublist items ∧ SameProcessor a b := by
    rw [← refused_iff, accepted]
  have counts : sampleCount = expectedCount ↔ items.length = expectedCount.toNat := by
    rw [← length, BitVec.toNat_inj]
  unfold builtMatrix
  split
  · rename_i empty
    rw [Bool.and_eq_true, beq_iff_eq, beq_iff_eq] at empty
    rw [empty.1] at length
    have nil := List.length_eq_zero_iff.mp length.symm
    have differ : VmxCapabilityMatrixState.Empty.word ≠
      VmxCapabilityMatrixState.CompleteUniform.word := by decide
    refine ⟨fun _ => ?_, fun _ => refused, fun _ => iff_of_false differ fun told => told.1.2 empty.2,
      fun fails => absurd fails Bool.noConfusion, fun _ _ _ _ member => ?_⟩
    · rw [empty.1, empty.2]
      decide
    · rw [nil] at member
      cases member
  · have sound := sound_finish length few expects
    have complete := complete_finish length few expects
    rw [counts] at complete
    refine ⟨fun _ => sound.accepted, fun _ => refused, fun _ => complete,
      fun fails => absurd fails Bool.noConfusion, ?_⟩
    intro requiredFeatures requiredEptVpidCaps uniform sample member
    obtain ⟨state, features, caps⟩ := uniform_built uniform
    have fits := (complete.mp state).2.1 sample member
    have inside := mem_usable.mpr ⟨member, fits⟩
    exact ⟨Masks.and_eq_of_inside (Consensus.meet_inside (List.mem_map_of_mem inside)) features,
      Masks.and_eq_of_inside (Consensus.meet_inside (List.mem_map_of_mem inside)) caps⟩

theorem usable_perm (shuffled : items.Perm other) : (usable items).Perm (usable other) :=
  shuffled.filter _

/-- The loop keeps the same of a list in any order, but for the first sample. -/
theorem ungenerated_digest_perm (shuffled : items.Perm other) (start : VmxCapabilityMatrix) :
    ungenerated (digest start items).matrix = ungenerated (digest start other).matrix ∧
      (digest start items).identityUniform = (digest start other).identityUniform := by
  have features := (usable_perm shuffled).map getVmxCapabilityFeatureFlags
  have caps := (usable_perm shuffled).map (·.eptVpidCap)
  have unusable : Census.rejected isVmxCapabilitySampleUsable items =
    Census.rejected isVmxCapabilitySampleUsable other := Census.rejected_perm shuffled
  refine ⟨?_, Consensus.uniform_perm sameIdentity_equivalence (usable_perm shuffled)⟩
  simp only [ungenerated, digest, unusable, Consensus.meet_perm features,
    Consensus.join_perm features, Consensus.meet_perm caps, Consensus.join_perm caps]

theorem ungenerated_finishMatrix {scan left : Scan}
    (same : ungenerated scan.matrix = ungenerated left.matrix)
    (alike : scan.identityUniform = left.identityUniform) :
    ungenerated (finishMatrix scan sampleCount expectedCount) =
      ungenerated (finishMatrix left sampleCount expectedCount) := by
  have told (scan : Scan) : ungenerated (finishMatrix scan sampleCount expectedCount) =
    ungenerated (finishMatrix ⟨ungenerated scan.matrix, none, scan.identityUniform⟩ sampleCount
      expectedCount) := rfl
  rw [told scan, told left, same, alike]

theorem ungenerated_built_perm (shuffled : items.Perm other) :
    ungenerated (builtMatrix expectedCount sampleCount items) =
      ungenerated (builtMatrix expectedCount sampleCount other) := by
  unfold builtMatrix
  split
  · rfl
  · obtain ⟨same, alike⟩ :=
      ungenerated_digest_perm shuffled (initializeMatrix expectedCount sampleCount)
    exact ungenerated_finishMatrix same alike

/-- Matrices that are the same but for the generation tell the same. -/
theorem tellsAlike_of_ungenerated {left right : VmxCapabilityMatrix} (success : Bool)
    (same : ungenerated left = ungenerated right) : TellsAlike (success, left) (success, right) where
  success := rfl
  state := congrArg (·.state) same
  flags := congrArg (·.flags) same
  expectedCount := congrArg (·.expectedCount) same
  sampleCount := congrArg (·.sampleCount) same
  validCount := congrArg (·.validCount) same
  rest _ := same

theorem tellsAlike_of_abandoned {left right : Bool × VmxCapabilityMatrix} (fails : left.1 = false)
    (otherFails : right.1 = false) (abandoned : Abandoned expectedCount sampleCount left.2)
    (otherAbandoned : Abandoned expectedCount sampleCount right.2) : TellsAlike left right where
  success := fails.trans otherFails.symm
  state := abandoned.state.trans otherAbandoned.state.symm
  flags := abandoned.flags.trans otherAbandoned.flags.symm
  expectedCount := abandoned.expectedCount.trans otherAbandoned.expectedCount.symm
  sampleCount := abandoned.sampleCount.trans otherAbandoned.sampleCount.symm
  validCount := abandoned.validCount.trans otherAbandoned.validCount.symm
  rest success := by
    rw [fails] at success
    cases success

/-- A matrix that could not be built tells why, and that it is none. -/
theorem tells_abandoned {answer : Bool × VmxCapabilityMatrix} (fails : answer.1 = false)
    (abandoned : Abandoned expectedCount sampleCount answer.2)
    (refused : expectedCount ≤ kVmxCapabilityMaxProcessors →
      Census.accepts isVmxCapabilitySampleValid clashes [] items = false) :
    Tells items expectedCount answer where
  valid success := by
    rw [fails] at success
    cases success
  refused expects := iff_of_true fails (refused_iff.mp (refused expects))
  complete success := by
    rw [fails] at success
    cases success
  abandoned _ := abandoned.state
  uniform _ _ uniform := by
    obtain ⟨state, _⟩ := uniform_built uniform
    rw [abandoned.state] at state
    exact absurd state (by decide)

end VmxCapability

variable {samples : Samples VmxCapabilitySample} {expectedCount : U32}

/-- The builder answers with a matrix that tells what it says of the samples, and in
every order of them it tells the same. -/
theorem buildVmxCapabilityMatrix_sound (fits : samples.Fits) :
    Tells samples.items expectedCount (buildVmxCapabilityMatrix samples expectedCount) ∧
      ∀ other, samples.Shuffled other →
        TellsAlike (buildVmxCapabilityMatrix samples expectedCount)
          (buildVmxCapabilityMatrix other expectedCount) := by
  by_cases expects : expectedCount ≤ 4096
  · rcases buildVmxCapabilityMatrix_cases fits expects with
      ⟨accepted, result⟩ | ⟨refused, fails, abandoned⟩
    · rw [result]
      refine ⟨tells_built fits.length fits.short expects accepted, fun other shuffled => ?_⟩
      rw [Census.accepts_perm shuffled.items clashes_comm] at accepted
      rcases buildVmxCapabilityMatrix_cases (shuffled.fits fits) expects with
        ⟨_, otherResult⟩ | ⟨never, _⟩
      · rw [otherResult, ← shuffled.count]
        exact tellsAlike_of_ungenerated true (ungenerated_built_perm shuffled.items)
      · rw [never] at accepted
        cases accepted
    · refine ⟨tells_abandoned fails abandoned fun _ => refused, fun other shuffled => ?_⟩
      rw [Census.accepts_perm shuffled.items clashes_comm] at refused
      rcases buildVmxCapabilityMatrix_cases (shuffled.fits fits) expects with
        ⟨accepted, _⟩ | ⟨_, otherFails, otherAbandoned⟩
      · rw [accepted] at refused
        cases refused
      · rw [← shuffled.count] at otherAbandoned
        exact tellsAlike_of_abandoned fails otherFails abandoned otherAbandoned
  · rw [buildVmxCapabilityMatrix_many expects]
    refine ⟨tells_abandoned rfl abandoned_initialize fun within => absurd within expects,
      fun other shuffled => ?_⟩
    rw [buildVmxCapabilityMatrix_many expects, ← shuffled.count]
    exact tellsAlike_of_ungenerated false rfl

/-- The processor of one number, the others being like it. -/
def numberedVmxSample (number : U32) : VmxCapabilitySample :=
  { primarySample 0x80020000 with logicalIndex := number, processorNumber := number }

def twoVmxProcessors : Samples VmxCapabilitySample :=
  .array [numberedVmxSample 0, numberedVmxSample 1] (by decide)

theorem buildVmxCapabilityMatrix_two :
    (buildVmxCapabilityMatrix twoVmxProcessors 2).1 = true ∧
      Tells twoVmxProcessors.items 2 (buildVmxCapabilityMatrix twoVmxProcessors 2) ∧
      ∀ other, twoVmxProcessors.Shuffled other →
        TellsAlike (buildVmxCapabilityMatrix twoVmxProcessors 2)
          (buildVmxCapabilityMatrix other 2) :=
  ⟨by decide, buildVmxCapabilityMatrix_sound ⟨by decide, Or.inr rfl⟩⟩

/-- A sample that no builder takes. -/
def brokenVmxSample : VmxCapabilitySample := { numberedVmxSample 1 with size := 0 }

/-- A matrix that could not be built is not uniform even where its samples are alike,
and keeps what the loop had seen before it stopped. -/
theorem refused_matrix_tells_less :
    (¬∀ (samples : Samples VmxCapabilitySample) (expectedCount : U32), samples.Fits →
      expectedCount ≤ 4096 →
      ((buildVmxCapabilityMatrix samples expectedCount).2.state =
          VmxCapabilityMatrixState.CompleteUniform.word ↔
        (samples.items.length = expectedCount.toNat ∧ expectedCount ≠ 0) ∧
          (∀ sample ∈ samples.items, isVmxCapabilitySampleUsable sample = true) ∧
          ∀ sample ∈ samples.items, ∀ other ∈ samples.items, sameIdentity sample other = true)) ∧
    ¬∀ (samples other : Samples VmxCapabilitySample) (expectedCount : U32), samples.Fits →
      expectedCount ≤ 4096 → samples.Shuffled other →
      (buildVmxCapabilityMatrix samples expectedCount).2.featureIntersection =
        (buildVmxCapabilityMatrix other expectedCount).2.featureIntersection := by
  constructor
  · intro complete
    have usable : ∀ sample ∈ [numberedVmxSample 0, numberedVmxSample 0],
      isVmxCapabilitySampleUsable sample = true := by decide
    have alike : ∀ sample ∈ [numberedVmxSample 0, numberedVmxSample 0],
      ∀ other ∈ [numberedVmxSample 0, numberedVmxSample 0], sameIdentity sample other = true := by
        decide
    have told := (complete (.array [numberedVmxSample 0, numberedVmxSample 0] (by decide)) 2
      ⟨by decide, Or.inr rfl⟩ (by decide)).mpr ⟨⟨rfl, by decide⟩, usable, alike⟩
    revert told
    decide
  · intro alike
    have same := alike (.array [numberedVmxSample 0, brokenVmxSample] (by decide))
      (.array [brokenVmxSample, numberedVmxSample 0] (by decide)) 2 ⟨by decide, Or.inr rfl⟩
      (by decide) ⟨rfl, rfl, List.Perm.swap _ _ _⟩
    revert same
    decide

end Knhv.Matrix
