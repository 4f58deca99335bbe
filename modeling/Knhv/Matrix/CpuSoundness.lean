import Knhv.Lib.Census
import Knhv.Lib.Consensus
import Knhv.Matrix.Cpu

namespace Knhv.Matrix

open CpuMatrix

def isCpuMatrixUniform (summary : CpuMatrixSummary) (requiredFeatures : U64) : Bool :=
  isCpuMatrixSummaryValid summary && summary.state == CpuMatrixState.CompleteUniform.word &&
    requiredFeatures &&& ~~~kCpuMatrixKnownFeatureMask == 0 &&
    summary.featureIntersection &&& requiredFeatures == requiredFeatures

namespace CpuMatrix

def usable (items : List CpuMatrixSample) : List CpuMatrixSample :=
  items.filter isCpuMatrixSampleUsable

/-- A word that the usable samples share, and zero where they differ. -/
def sharedWord (word : CpuMatrixSample → U32) (items : List CpuMatrixSample) : U32 :=
  Consensus.reduce (Consensus.share 0) 0 ((usable items).map word)

/-- A word of the first usable sample. -/
def firstWord (word : CpuMatrixSample → U32) (items : List CpuMatrixSample) : U32 :=
  ((usable items).head?.map word).getD 0

/-- What the loop keeps, said of the samples as a whole. -/
def digest (start : CpuMatrixSummary) (items : List CpuMatrixSample) : Scan where
  firstValid := (usable items).head?
  identityUniform := Consensus.uniform sameIdentity (usable items)
  summary := { start with
    invalidCount := BitVec.ofNat 32 (Census.rejected isCpuMatrixSampleUsable items)
    featureIntersection := Consensus.meet ((usable items).map (·.featureFlags))
    featureUnion := Consensus.join ((usable items).map (·.featureFlags))
    commonMaxBasicLeaf := sharedWord (·.maxBasicLeaf) items
    commonMaxExtendedLeaf := sharedWord (·.maxExtendedLeaf) items
    commonPhysicalAddressBits := sharedWord (·.physicalAddressBits) items
    commonLinearAddressBits := sharedWord (·.linearAddressBits) items
    vendorEbx := firstWord (·.vendorEbx) items
    vendorEcx := firstWord (·.vendorEcx) items
    vendorEdx := firstWord (·.vendorEdx) items }

variable {items other : List CpuMatrixSample} {sample : CpuMatrixSample}
  {start : CpuMatrixSummary} {expectedCount sampleCount : U32}

theorem scanSamples_eq (prior : List CpuMatrixSample) (scan : Scan) :
    scanSamples prior items scan =
      Census.scan isCpuMatrixSampleValid clashes observe prior items scan := by
  induction items generalizing prior scan with
  | nil => rfl
  | cons sample rest ih => simp only [scanSamples, Census.scan, ih]

theorem common_eq : common = Consensus.share 0 := by
  funext shared value
  simp only [common, Consensus.share, bne_iff_ne]

/-- One more sample, seen by the loop and by the list as a whole. -/
theorem observe_digest : observe (digest start items) sample = digest start (items ++ [sample]) := by
  cases fits : isCpuMatrixSampleUsable sample with
  | false =>
    have one : BitVec.ofNat 32 (Census.rejected isCpuMatrixSampleUsable items + 1) =
        BitVec.ofNat 32 (Census.rejected isCpuMatrixSampleUsable items) + 1 := BitVec.ofNat_add _ _
    simp only [observe, digest, sharedWord, firstWord, usable, Census.filter_concat,
      Census.rejected_concat, fits, Bool.not_false, if_true, Bool.false_eq_true, if_false, one]
  | true =>
    cases seen : items.filter isCpuMatrixSampleUsable with
    | nil =>
      simp [observe, digest, sharedWord, firstWord, usable, Census.rejected_concat, fits, seen,
        Consensus.meet, Consensus.join, Consensus.reduce, Consensus.uniform]
    | cons first rest =>
      simp only [observe, digest, sharedWord, firstWord, usable, Census.filter_concat,
        Census.rejected_concat, fits, seen, Bool.not_true, Bool.false_eq_true, if_false, if_true, List.cons_append,
        List.head?_cons, List.map_cons, List.map_append, List.map_nil, common_eq,
        Consensus.meet_concat, Consensus.join_concat, Consensus.reduce_concat,
        Consensus.uniform_concat]
      cases sameIdentity first sample <;> simp

theorem foldl_observe (start : CpuMatrixSummary) (empty : digest start [] = ⟨start, none, true⟩)
    (items : List CpuMatrixSample) : items.foldl observe ⟨start, none, true⟩ = digest start items := by
  rw [← empty]
  exact Census.foldl_eq (fun _ _ => observe_digest) items

/-- The summary of samples that are accepted. -/
def builtSummary (expectedCount sampleCount : U32) (items : List CpuMatrixSample) :
    CpuMatrixSummary :=
  if sampleCount == 0 && expectedCount == 0 then
    { initializeSummary expectedCount sampleCount with
      state := CpuMatrixState.Empty.word
      flags := kCpuMatrixSummarySamplesComplete }
  else
    finishSummary (digest (initializeSummary expectedCount sampleCount) items) sampleCount
      expectedCount

end CpuMatrix

variable {samples : Samples CpuMatrixSample} {expectedCount : U32}

theorem builtSummary_nil (expects : expectedCount ≠ 0) : builtSummary expectedCount 0 [] =
    { initializeSummary expectedCount 0 with state := CpuMatrixState.Incomplete.word } := by
  have differ : ((0 : U32) == expectedCount) = false := beq_eq_false_iff_ne.mpr expects.symm
  have missing : (expectedCount == 0) = false := beq_eq_false_iff_ne.mpr expects
  have differs : ((0 : U32) != expectedCount) = true := bne_iff_ne.mpr expects.symm
  rw [builtSummary, missing, Bool.and_false, if_neg Bool.false_ne_true]
  have start : digest (initializeSummary expectedCount 0) [] =
    ⟨initializeSummary expectedCount 0, none, true⟩ := rfl
  have none : (initializeSummary expectedCount 0).invalidCount = 0 := rfl
  have intersection : (initializeSummary expectedCount 0).featureIntersection = 0 := rfl
  have union : (initializeSummary expectedCount 0).featureUnion = 0 := rfl
  have count : (0 : U32) - 0 = 0 := rfl
  simp only [finishSummary, start, none, intersection, union, count, differ, differs,
    Bool.false_and, Bool.true_or, if_true]
  simp [initializeSummary, CpuMatrixSummary.zero]

/-- A summary is built of the arrays that fit and are accepted, and of no others. -/
theorem buildCpuMatrixSummary_cases (samples : Samples CpuMatrixSample) (expectedCount : U32) :
    (samples.Fits ∧ Census.accepts isCpuMatrixSampleValid clashes [] samples.items = true ∧
      buildCpuMatrixSummary samples expectedCount =
        (true, builtSummary expectedCount samples.count samples.items)) ∨
    ((samples.Fits → Census.accepts isCpuMatrixSampleValid clashes [] samples.items = false) ∧
      (buildCpuMatrixSummary samples expectedCount).1 = false) := by
  unfold buildCpuMatrixSummary
  dsimp only
  split
  · rename_i outside
    simp only [Bool.or_eq_true, Bool.and_eq_true, decide_eq_true_eq, bne_iff_ne] at outside
    refine .inr ⟨fun fits => ?_, rfl⟩
    rcases outside with many | ⟨some_, null⟩
    · exact absurd many (BitVec.not_lt.mpr fits.few)
    · rw [fits.present.resolve_left some_] at null
      cases null
  rename_i limits
  simp only [Bool.or_eq_true, Bool.and_eq_true, decide_eq_true_eq, bne_iff_ne, not_or, not_and,
    Bool.not_eq_true] at limits
  have fits : samples.Fits := ⟨BitVec.not_lt.mp limits.1, or_iff_not_imp_left.mpr limits.2⟩
  split
  · rename_i none
    rw [beq_iff_eq] at none
    have length := fits.length
    rw [none] at length
    have nil := List.length_eq_zero_iff.mp length.symm
    rw [none, nil]
    refine .inl ⟨fits, rfl, ?_⟩
    by_cases expects : expectedCount = 0
    · rw [expects]
      rfl
    · rw [builtSummary_nil expects, beq_eq_false_iff_ne.mpr expects]
      rfl
  · rename_i some_
    rw [scanSamples_eq]
    cases accepted : Census.accepts isCpuMatrixSampleValid clashes [] samples.items with
    | false =>
      obtain ⟨left, refused⟩ := Census.scan_refused accepted observe
        ⟨initializeSummary expectedCount samples.count, none, true⟩
      rw [refused]
      exact .inr ⟨fun _ => rfl, rfl⟩
    | true =>
      rw [Census.scan_accepted accepted, foldl_observe _ rfl, builtSummary,
        Bool.eq_false_iff.mpr some_]
      exact .inl ⟨fits, rfl, rfl⟩

namespace CpuMatrix

/-- The flags of a summary, from the facts that they tell of. -/
def summaryFlags (allVmx allInvariantTsc anyHypervisor identityUniform hasInvalid complete : Bool) :
    U32 :=
  0 ||| (if allVmx then kCpuMatrixSummaryAllVmx else 0) |||
    (if allInvariantTsc then kCpuMatrixSummaryAllInvariantTsc else 0) |||
    (if anyHypervisor then kCpuMatrixSummaryAnyHypervisor else 0) |||
    (if identityUniform then kCpuMatrixSummaryIdentityUniform else 0) |||
    (if hasInvalid then kCpuMatrixSummaryHasInvalidSamples else 0) |||
    (if complete then kCpuMatrixSummarySamplesComplete else 0)

/-- Every flag tells its own fact. -/
theorem summaryFlags_tell (a b c d e f : Bool) :
    (summaryFlags a b c d e f &&& ~~~kCpuMatrixKnownSummaryFlagMask = 0) ∧
      (summaryFlags a b c d e f &&& kCpuMatrixSummaryAllVmx != 0) = a ∧
      (summaryFlags a b c d e f &&& kCpuMatrixSummaryAllInvariantTsc != 0) = b ∧
      (summaryFlags a b c d e f &&& kCpuMatrixSummaryAnyHypervisor != 0) = c ∧
      (summaryFlags a b c d e f &&& kCpuMatrixSummaryIdentityUniform != 0) = d ∧
      (summaryFlags a b c d e f &&& kCpuMatrixSummaryHasInvalidSamples != 0) = e ∧
      (summaryFlags a b c d e f &&& kCpuMatrixSummarySamplesComplete != 0) = f := by
  revert a b c d e f
  decide

/-- What a summary of samples that are accepted is made of. -/
structure Sound (summary : CpuMatrixSummary) (identityUniform : Bool) : Prop where
  size : summary.size = sizeofCpuMatrixSummary
  version : summary.version = kCpuMatrixContractVersion
  few : summary.sampleCount ≤ kCpuMatrixMaxProcessors
  valid : summary.validCount ≤ summary.sampleCount
  invalid : summary.invalidCount ≤ summary.sampleCount
  sum : summary.validCount + summary.invalidCount = summary.sampleCount
  some_ : ¬(summary.sampleCount = 0 ∧ summary.expectedCount = 0)
  inside : summary.featureIntersection &&& ~~~summary.featureUnion = 0
  known : summary.featureUnion &&& ~~~kCpuMatrixKnownFeatureMask = 0
  inconsistent :
    summary.inconsistentFeatures = summary.featureUnion ^^^ summary.featureIntersection
  physical : summary.commonPhysicalAddressBits ≤ 52
  linear : summary.commonLinearAddressBits ≤ 64
  reserved : summary.reserved0 = 0 ∧ summary.reserved1 = 0 ∧ summary.reserved2 = 0
  flags : summary.flags = summaryFlags
    (summary.validCount != 0 && summary.featureIntersection &&& kCpuMatrixFeatureVmx != 0)
    (summary.validCount != 0 && summary.featureIntersection &&& kCpuMatrixFeatureInvariantTsc != 0)
    (summary.featureUnion &&& kCpuMatrixFeatureHypervisor != 0)
    (identityUniform && summary.validCount != 0)
    (summary.invalidCount != 0)
    (summary.expectedCount == summary.sampleCount && summary.validCount == summary.expectedCount)
  state : summary.state =
    if summary.sampleCount != summary.expectedCount || summary.invalidCount != 0 ||
        summary.expectedCount == 0 then
      CpuMatrixState.Incomplete.word
    else if !identityUniform || summary.inconsistentFeatures != 0 then
      CpuMatrixState.CompleteMixed.word
    else CpuMatrixState.CompleteUniform.word

variable {summary : CpuMatrixSummary} {identityUniform : Bool}

/-- The three states that a summary of samples can have. -/
theorem Sound.states (sound : Sound summary identityUniform) :
    summary.state = CpuMatrixState.Incomplete.word ∨
    ((summary.state = CpuMatrixState.CompleteMixed.word ∨
        summary.state = CpuMatrixState.CompleteUniform.word ∧ identityUniform = true ∧
          summary.inconsistentFeatures = 0) ∧
      summary.sampleCount = summary.expectedCount ∧ summary.invalidCount = 0 ∧
      summary.expectedCount ≠ 0) := by
  have state := sound.state
  split at state
  · exact .inl state
  rename_i complete
  simp only [Bool.or_eq_true, bne_iff_ne, beq_iff_eq, not_or, not_not] at complete
  refine .inr ⟨?_, complete.1.1, complete.1.2, complete.2⟩
  split at state
  · exact .inl state
  · rename_i same
    simp only [Bool.or_eq_true, Bool.not_eq_true', bne_iff_ne, not_or, not_not,
      Bool.not_eq_false] at same
    exact .inr ⟨state, same⟩

/-- What the flags of such a summary tell, in the facts that the validator compares them to. -/
theorem Sound.told (sound : Sound summary identityUniform) :
    (summary.flags &&& ~~~kCpuMatrixKnownSummaryFlagMask = 0) ∧
      (summary.flags &&& kCpuMatrixSummaryAllVmx != 0) =
        (summary.validCount != 0 && summary.featureIntersection &&& kCpuMatrixFeatureVmx != 0) ∧
      (summary.flags &&& kCpuMatrixSummaryAllInvariantTsc != 0) =
        (summary.validCount != 0 &&
          summary.featureIntersection &&& kCpuMatrixFeatureInvariantTsc != 0) ∧
      (summary.flags &&& kCpuMatrixSummaryAnyHypervisor != 0) =
        (summary.featureUnion &&& kCpuMatrixFeatureHypervisor != 0) ∧
      (summary.flags &&& kCpuMatrixSummaryIdentityUniform != 0) =
        (identityUniform && summary.validCount != 0) ∧
      (summary.flags &&& kCpuMatrixSummaryHasInvalidSamples != 0) = (summary.invalidCount != 0) ∧
      (summary.flags &&& kCpuMatrixSummarySamplesComplete != 0) =
        (summary.expectedCount == summary.sampleCount &&
          summary.validCount == summary.expectedCount) := by
  rw [sound.flags]
  exact summaryFlags_tell _ _ _ _ _ _

/-- The validator accepts every summary that is so made. -/
theorem Sound.accepted (sound : Sound summary identityUniform) :
    isCpuMatrixSummaryValid summary = true := by
  obtain ⟨knownFlags, allVmx, allInvariantTsc, anyHypervisor, identity, hasInvalid, complete⟩ :=
    sound.told
  have versioned : CpuMatrix.isVersionedSizeValid summary.version summary.size
      sizeofCpuMatrixSummary = true := by
    rw [sound.size, sound.version]
    decide
  have stateValid : isStateValid summary.state = true := by
    rcases sound.states with state | ⟨state | ⟨state, _⟩, _⟩ <;> rw [state] <;> decide
  have intersectionKnown : summary.featureIntersection &&& ~~~kCpuMatrixKnownFeatureMask = 0 :=
    Masks.inside_trans sound.inside sound.known
  unfold isCpuMatrixSummaryValid
  rw [if_neg]
  · dsimp only
    simp only [allVmx, allInvariantTsc, anyHypervisor, identity, hasInvalid, complete,
      bne_self_eq_false, Bool.or_self, Bool.false_eq_true, if_false]
    rcases sound.states with state | ⟨ended, counts, noInvalid, expects⟩
    · rw [state]
      rfl
    have whole : summary.validCount = summary.expectedCount := by
      rw [← counts, ← sound.sum, noInvalid]
      exact (BitVec.add_zero _).symm
    have expected := beq_eq_false_iff_ne.mpr expects
    have self := beq_self_eq_true summary.expectedCount
    have notOther := bne_self_eq_false summary.expectedCount
    rcases ended with state | ⟨state, same, consistent⟩
    · rw [state, counts, noInvalid, whole, expected, self, notOther]
      rfl
    · rw [state, counts, noInvalid, whole, expected, self, notOther, same, consistent,
        bne_iff_ne.mpr expects]
      rfl
  · simp only [versioned, stateValid, knownFlags, sound.inside, sound.known, intersectionKnown,
      sound.sum, sound.inconsistent, sound.reserved, decide_eq_false (BitVec.not_lt.mpr sound.few),
      decide_eq_false (BitVec.not_lt.mpr sound.valid),
      decide_eq_false (BitVec.not_lt.mpr sound.invalid),
      decide_eq_false (BitVec.not_lt.mpr sound.physical),
      decide_eq_false (BitVec.not_lt.mpr sound.linear), bne_self_eq_false, Bool.not_true,
      Bool.or_self, Bool.false_eq_true, not_false_eq_true]

theorem Sound.noInvalid (sound : Sound summary identityUniform)
    (state : summary.state = CpuMatrixState.CompleteUniform.word) : summary.invalidCount = 0 := by
  rcases sound.states with incomplete | ⟨_, _, noInvalid, _⟩
  · rw [incomplete] at state
    exact absurd state (by decide)
  · exact noInvalid

theorem Sound.identity_told (sound : Sound summary identityUniform) :
    summary.flags &&& kCpuMatrixSummaryIdentityUniform ≠ 0 ↔
      identityUniform = true ∧ summary.validCount ≠ 0 := by
  obtain ⟨_, _, _, _, identity, _⟩ := sound.told
  rw [← bne_iff_ne, identity, Bool.and_eq_true, bne_iff_ne]

/-- What a usable sample holds. -/
structure SampleSound (sample : CpuMatrixSample) : Prop where
  known : sample.featureFlags &&& ~~~kCpuMatrixKnownFeatureMask = 0
  physical : sample.physicalAddressBits ≤ 52
  linear : sample.linearAddressBits ≤ 64

theorem sampleSound_of_usable {sample : CpuMatrixSample}
    (usable : isCpuMatrixSampleUsable sample = true) : SampleSound sample := by
  rw [isCpuMatrixSampleUsable, Bool.and_eq_true] at usable
  have valid := usable.1
  unfold isCpuMatrixSampleValid at valid
  split at valid
  · cases valid
  rename_i fields
  simp only [Bool.or_eq_true, bne_iff_ne, decide_eq_true_eq, not_or, not_not] at fields
  obtain ⟨⟨⟨⟨⟨⟨_, known⟩, _⟩, physical⟩, linear⟩, _⟩, _⟩ := fields
  exact ⟨known, BitVec.not_lt.mp physical, BitVec.not_lt.mp linear⟩

variable {items other : List CpuMatrixSample} {sampleCount expectedCount : U32}

theorem mem_usable {sample : CpuMatrixSample} :
    sample ∈ usable items ↔ sample ∈ items ∧ isCpuMatrixSampleUsable sample = true :=
  List.mem_filter

/-- A word that no usable sample has above a bound is not shared above it. -/
theorem sharedWord_le {word : CpuMatrixSample → U32} {bound : U32}
    (below : ∀ sample ∈ usable items, word sample ≤ bound) : sharedWord word items ≤ bound := by
  rcases Consensus.reduce_share_cases ((usable items).map word) with none | shared
  · rw [sharedWord, none]
    exact Nat.zero_le _
  · obtain ⟨sample, member, here⟩ := List.mem_map.mp shared
    rw [sharedWord, ← here]
    exact below sample member

/-- A summary that the builder finishes is made as the validator wants it. -/
theorem sound_finish (length : sampleCount.toNat = items.length) (few : items.length ≤ 4096)
    (some_ : ¬(sampleCount = 0 ∧ expectedCount = 0)) :
    Sound (finishSummary (digest (initializeSummary expectedCount sampleCount) items) sampleCount
      expectedCount) (Consensus.uniform sameIdentity (usable items)) := by
  have whole : (usable items).length + Census.rejected isCpuMatrixSampleUsable items =
    items.length := Census.filter_length_add_rejected
  have count : sampleCount - BitVec.ofNat 32 (Census.rejected isCpuMatrixSampleUsable items) =
    BitVec.ofNat 32 (usable items).length := Census.sub_rejected length
  have rejected : BitVec.ofNat 32 (Census.rejected isCpuMatrixSampleUsable items) ≤ sampleCount :=
    Census.ofNat_le (by omega)
  have features : ∀ word ∈ (usable items).map (·.featureFlags),
      word &&& ~~~kCpuMatrixKnownFeatureMask = 0 := by
    intro word member
    obtain ⟨sample, inside, rfl⟩ := List.mem_map.mp member
    exact (sampleSound_of_usable (mem_usable.mp inside).2).known
  refine {
    size := rfl
    version := rfl
    few := ?_
    valid := ?_
    invalid := rejected
    sum := ?_
    some_ := some_
    inside := Consensus.meet_inside_join
    known := Consensus.join_inside features
    inconsistent := rfl
    physical := sharedWord_le fun sample inside =>
      (sampleSound_of_usable (mem_usable.mp inside).2).physical
    linear := sharedWord_le fun sample inside =>
      (sampleSound_of_usable (mem_usable.mp inside).2).linear
    reserved := ⟨rfl, rfl, rfl⟩
    flags := ?_
    state := rfl }
  · exact BitVec.le_def.mpr (length ▸ few)
  · exact (congrArg (· ≤ sampleCount) count).mpr (Census.ofNat_le (by omega))
  · exact BitVec.sub_add_cancel _ _
  · have complete (validCount : U32) :
        (validCount == expectedCount && sampleCount == expectedCount && expectedCount != 0) =
          (expectedCount == sampleCount && validCount == expectedCount) := by
      rw [Bool.eq_iff_iff]
      simp only [Bool.and_eq_true, beq_iff_eq, bne_iff_ne]
      constructor
      · rintro ⟨⟨valid, sampled⟩, _⟩
        exact ⟨sampled.symm, valid⟩
      · rintro ⟨sampled, valid⟩
        exact ⟨⟨valid, sampled.symm⟩, fun none => some_ ⟨sampled ▸ none, none⟩⟩
    simp only [finishSummary, complete]
    rfl

/-- The words that identity compares. -/
def identityWords (sample : CpuMatrixSample) : List U32 :=
  [sample.vendorEbx, sample.vendorEcx, sample.vendorEdx, sample.hypervisorEbx, sample.hypervisorEcx,
    sample.hypervisorEdx, sample.maxBasicLeaf, sample.maxExtendedLeaf, sample.leaf7MaxSubleaf,
    sample.physicalAddressBits, sample.linearAddressBits]

theorem sameIdentity_iff (left right : CpuMatrixSample) :
    sameIdentity left right = true ↔ identityWords left = identityWords right := by
  simp only [sameIdentity, identityWords, Bool.and_eq_true, beq_iff_eq, List.cons.injEq, and_true,
    and_assoc]

theorem sameIdentity_equivalence : Equivalence fun a b => sameIdentity a b = true :=
  Consensus.equivalence_of_key sameIdentity_iff

/-- A word is the one that all the usable samples have, and zero where they differ
or there is none. -/
structure Shares (word : CpuMatrixSample → U32) (items : List CpuMatrixSample) (shared : U32) :
    Prop where
  agree : ∀ sample ∈ usable items, (∀ other ∈ usable items, word other = word sample) →
    shared = word sample
  differ : ∀ sample ∈ usable items, ∀ other ∈ usable items, word sample ≠ word other → shared = 0
  none : usable items = [] → shared = 0

/-- What a summary tells of the samples it was built from. -/
structure Summarises (items : List CpuMatrixSample) (summary : CpuMatrixSummary) : Prop where
  valid : isCpuMatrixSummaryValid summary = true
  intersection : ∀ bit, summary.featureIntersection.getLsbD bit = true ↔
    usable items ≠ [] ∧ ∀ sample ∈ usable items, sample.featureFlags.getLsbD bit = true
  union : ∀ bit, summary.featureUnion.getLsbD bit = true ↔
    ∃ sample ∈ usable items, sample.featureFlags.getLsbD bit = true
  maxBasicLeaf : Shares (·.maxBasicLeaf) items summary.commonMaxBasicLeaf
  maxExtendedLeaf : Shares (·.maxExtendedLeaf) items summary.commonMaxExtendedLeaf
  physicalAddressBits : Shares (·.physicalAddressBits) items summary.commonPhysicalAddressBits
  linearAddressBits : Shares (·.linearAddressBits) items summary.commonLinearAddressBits
  identity : summary.flags &&& kCpuMatrixSummaryIdentityUniform ≠ 0 ↔
    usable items ≠ [] ∧
      ∀ sample ∈ usable items, ∀ other ∈ usable items, sameIdentity sample other = true
  uniform : ∀ requiredFeatures, isCpuMatrixUniform summary requiredFeatures = true →
    ∀ sample ∈ items, isCpuMatrixSampleUsable sample = true ∧
      sample.featureFlags &&& requiredFeatures = requiredFeatures

theorem shares_sharedWord (word : CpuMatrixSample → U32) (items : List CpuMatrixSample) :
    Shares word items (sharedWord word items) where
  agree sample member alike := by
    refine Consensus.reduce_share (List.mem_map_of_mem member) fun value inside => ?_
    obtain ⟨other, here, rfl⟩ := List.mem_map.mp inside
    exact alike other here
  differ sample left other right apart :=
    Consensus.reduce_share_ne (List.mem_map_of_mem left) (List.mem_map_of_mem right) apart
  none nobody := by
    rw [sharedWord, nobody]
    rfl

theorem summarises_nil : Summarises [] { initializeSummary 0 0 with
    state := CpuMatrixState.Empty.word
    flags := kCpuMatrixSummarySamplesComplete } where
  valid := by decide
  intersection bit := by simp [initializeSummary, CpuMatrixSummary.zero, usable]
  union bit := by simp [initializeSummary, CpuMatrixSummary.zero, usable]
  maxBasicLeaf := shares_sharedWord _ []
  maxExtendedLeaf := shares_sharedWord _ []
  physicalAddressBits := shares_sharedWord _ []
  linearAddressBits := shares_sharedWord _ []
  identity := iff_of_false (by decide) fun told => told.1 rfl
  uniform _ _ _ member := by cases member

theorem summarises_finish (length : sampleCount.toNat = items.length) (few : items.length ≤ 4096)
    (some_ : ¬(sampleCount = 0 ∧ expectedCount = 0)) :
    Summarises items (finishSummary (digest (initializeSummary expectedCount sampleCount) items)
      sampleCount expectedCount) := by
  have sound := sound_finish length few some_
  have whole : (usable items).length + Census.rejected isCpuMatrixSampleUsable items =
    items.length := Census.filter_length_add_rejected
  have count : (finishSummary (digest (initializeSummary expectedCount sampleCount) items)
    sampleCount expectedCount).validCount = BitVec.ofNat 32 (usable items).length :=
    Census.sub_rejected length
  refine {
    valid := sound.accepted
    intersection := fun bit => ?_
    union := fun bit => ?_
    maxBasicLeaf := shares_sharedWord _ items
    maxExtendedLeaf := shares_sharedWord _ items
    physicalAddressBits := shares_sharedWord _ items
    linearAddressBits := shares_sharedWord _ items
    identity := ?_
    uniform := fun requiredFeatures uniform sample member => ?_ }
  · exact Consensus.getLsbD_meet.trans
      (and_congr (not_congr List.map_eq_nil_iff) List.forall_mem_map)
  · refine Consensus.getLsbD_join.trans ?_
    simp only [List.mem_map, exists_exists_and_eq_and]
  · rw [sound.identity_told, Consensus.uniform_iff sameIdentity_equivalence, and_comm]
    refine and_congr_left fun _ => not_congr ?_
    rw [count, ← List.length_eq_zero_iff]
    exact Census.ofNat_eq_zero_iff (by omega)
  · simp only [isCpuMatrixUniform, Bool.and_eq_true, beq_iff_eq] at uniform
    obtain ⟨⟨⟨_, state⟩, _⟩, required⟩ := uniform
    have noInvalid := sound.noInvalid state
    have everyone : Census.rejected isCpuMatrixSampleUsable items = 0 :=
      (Census.ofNat_eq_zero_iff (by omega)).mp noInvalid
    have fits := Census.rejected_eq_zero_iff.mp everyone sample member
    have features := List.mem_map_of_mem (f := fun sample : CpuMatrixSample => sample.featureFlags)
      (mem_usable.mpr ⟨member, fits⟩)
    exact ⟨fits, Masks.and_eq_of_inside (Consensus.meet_inside features) required⟩

theorem summarises_built (length : sampleCount.toNat = items.length)
    (few : items.length ≤ 4096) :
    Summarises items (builtSummary expectedCount sampleCount items) := by
  unfold builtSummary
  split
  · rename_i empty
    rw [Bool.and_eq_true, beq_iff_eq, beq_iff_eq] at empty
    rw [empty.1] at length ⊢
    rw [empty.2, List.length_eq_zero_iff.mp length.symm]
    exact summarises_nil
  · rename_i some_
    rw [Bool.and_eq_true, beq_iff_eq, beq_iff_eq] at some_
    exact summarises_finish length few some_

/-- A summary without the words that tell who made the processors. -/
def unsigned (summary : CpuMatrixSummary) : CpuMatrixSummary :=
  { summary with vendorEbx := 0, vendorEcx := 0, vendorEdx := 0 }

theorem usable_perm (shuffled : items.Perm other) : (usable items).Perm (usable other) :=
  shuffled.filter _

theorem sharedWord_perm (shuffled : items.Perm other) (word : CpuMatrixSample → U32) :
    sharedWord word items = sharedWord word other :=
  Consensus.reduce_perm ((usable_perm shuffled).map word)

/-- The loop keeps the same of a list in any order, but for the first sample. -/
theorem unsigned_digest_perm (shuffled : items.Perm other) (start : CpuMatrixSummary) :
    unsigned (digest start items).summary = unsigned (digest start other).summary ∧
      (digest start items).identityUniform = (digest start other).identityUniform := by
  have features := (usable_perm shuffled).map (·.featureFlags)
  have unusable : Census.rejected isCpuMatrixSampleUsable items =
    Census.rejected isCpuMatrixSampleUsable other := Census.rejected_perm shuffled
  refine ⟨?_, Consensus.uniform_perm sameIdentity_equivalence (usable_perm shuffled)⟩
  simp only [unsigned, digest, unusable, sharedWord_perm shuffled,
    Consensus.meet_perm features, Consensus.join_perm features]

theorem unsigned_finishSummary {scan left : Scan} (same : unsigned scan.summary = unsigned left.summary)
    (alike : scan.identityUniform = left.identityUniform) :
    unsigned (finishSummary scan sampleCount expectedCount) =
      unsigned (finishSummary left sampleCount expectedCount) := by
  have told (scan : Scan) : unsigned (finishSummary scan sampleCount expectedCount) =
    unsigned (finishSummary ⟨unsigned scan.summary, none, scan.identityUniform⟩ sampleCount
      expectedCount) := rfl
  rw [told scan, told left, same, alike]

theorem unsigned_built_perm (shuffled : items.Perm other) :
    unsigned (builtSummary expectedCount sampleCount items) =
      unsigned (builtSummary expectedCount sampleCount other) := by
  unfold builtSummary
  split
  · rfl
  · obtain ⟨same, alike⟩ :=
      unsigned_digest_perm shuffled (initializeSummary expectedCount sampleCount)
    exact unsigned_finishSummary same alike

theorem clashes_comm (sample previous : CpuMatrixSample) :
    clashes sample previous = clashes previous sample := by
  simp only [clashes, BEq.comm (a := sample.logicalIndex), BEq.comm (a := sample.processorGroup),
    BEq.comm (a := sample.processorNumber)]

end CpuMatrix

/-- A summary that could be built tells of the usable samples what it says, and says
the same of them in every order. -/
theorem buildCpuMatrixSummary_sound
    (built : (buildCpuMatrixSummary samples expectedCount).1 = true) :
    Summarises samples.items (buildCpuMatrixSummary samples expectedCount).2 ∧
      ∀ other, samples.Shuffled other →
        (buildCpuMatrixSummary other expectedCount).1 = true ∧
        unsigned (buildCpuMatrixSummary other expectedCount).2 =
          unsigned (buildCpuMatrixSummary samples expectedCount).2 := by
  rcases buildCpuMatrixSummary_cases samples expectedCount with
    ⟨fits, accepted, result⟩ | ⟨_, refused⟩
  · rw [result]
    refine ⟨summarises_built fits.length fits.short, fun other shuffled => ?_⟩
    rw [Census.accepts_perm shuffled.items clashes_comm] at accepted
    rcases buildCpuMatrixSummary_cases other expectedCount with
      ⟨_, _, otherResult⟩ | ⟨never, _⟩
    · rw [otherResult, shuffled.count]
      exact ⟨rfl, (unsigned_built_perm shuffled.items).symm⟩
    · rw [never (shuffled.fits fits)] at accepted
      cases accepted
  · rw [refused] at built
    cases built

/-- A processor of one kind: it tells its number and the leaves that it has. -/
def numberedSample (number maxBasicLeaf : U32) : CpuMatrixSample where
  size := sizeofCpuMatrixSample
  version := kCpuMatrixContractVersion
  logicalIndex := number
  processorGroup := 0
  processorNumber := number
  status := kCpuMatrixSampleCollected
  featureFlags := kCpuMatrixFeatureVmx
  maxBasicLeaf := maxBasicLeaf
  maxExtendedLeaf := 0x80000008
  leaf7MaxSubleaf := 0
  physicalAddressBits := 48
  linearAddressBits := 48
  vendorEbx := 0x756E6547
  vendorEcx := 0x6C65746E
  vendorEdx := 0x49656E69
  hypervisorEbx := 0
  hypervisorEcx := 0
  hypervisorEdx := 0
  leaf1Ecx := 0
  leaf1Edx := 0
  leaf7Ebx := 0
  leaf7Ecx := 0
  leaf7Edx := 0
  extendedLeaf7Edx := 0
  extendedLeaf8Eax := 0
  reserved0 := 0
  reserved1 := 0

def twoProcessors : Samples CpuMatrixSample :=
  .array [numberedSample 0 0x16, numberedSample 1 0x20] (by decide)

theorem buildCpuMatrixSummary_two :
    (buildCpuMatrixSummary twoProcessors 2).1 = true ∧
      Summarises twoProcessors.items (buildCpuMatrixSummary twoProcessors 2).2 ∧
      ∀ other, twoProcessors.Shuffled other →
        (buildCpuMatrixSummary other 2).1 = true ∧
        unsigned (buildCpuMatrixSummary other 2).2 =
          unsigned (buildCpuMatrixSummary twoProcessors 2).2 :=
  ⟨by decide, buildCpuMatrixSummary_sound (by decide)⟩

end Knhv.Matrix
