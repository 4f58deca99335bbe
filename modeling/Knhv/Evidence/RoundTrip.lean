import Mathlib.Data.Fintype.Pi
import Knhv.Evidence.Validation
import Knhv.Evidence.Wire

namespace Knhv.Evidence

open Knhv.Matrix Owner Snapshot Wire

variable {snapshot : TargetEvidenceSnapshot} {cpuSamples : Samples CpuMatrixSample}
  {vmxSamples : Samples VmxCapabilitySample}

theorem toNat_calculatePayloadSize {cpuCount vmxCount : U32}
    (cpuBound : cpuCount ≤ kCpuMatrixMaxProcessors)
    (vmxBound : vmxCount ≤ kVmxCapabilityMaxProcessors) :
    (calculatePayloadSize cpuCount vmxCount).toNat =
      544 + cpuCount.toNat * 112 + vmxCount.toNat * 296 := by
  have cpu : cpuCount.toNat ≤ 4096 := cpuBound
  have vmx : vmxCount.toNat ≤ 4096 := vmxBound
  have payload : (sizeofTargetEvidenceSnapshot.setWidth 64 +
      cpuCount.setWidth 64 * sizeofCpuMatrixSample.setWidth 64 +
      vmxCount.setWidth 64 * sizeofVmxCapabilitySample.setWidth 64 : U64).toNat =
      544 + cpuCount.toNat * 112 + vmxCount.toNat * 296 := by
    have snapshotSize : (sizeofTargetEvidenceSnapshot.setWidth 64).toNat = 544 := by decide
    have cpuSize : (sizeofCpuMatrixSample.setWidth 64).toNat = 112 := by decide
    have vmxSize : (sizeofVmxCapabilitySample.setWidth 64).toNat = 296 := by decide
    rw [BitVec.toNat_add, BitVec.toNat_add, BitVec.toNat_mul, BitVec.toNat_mul, snapshotSize,
      cpuSize, vmxSize, BitVec.toNat_setWidth, BitVec.toNat_setWidth]
    omega
  unfold calculatePayloadSize
  dsimp only
  split
  · rename_i above
    simp only [Bool.or_eq_true, decide_eq_true_eq, BitVec.lt_def, payload] at above
    have size : (kTargetEvidenceSnapshotWireMaxSize.setWidth 64).toNat = 2097152 := by decide
    have word : (0xFFFFFFFF : U64).toNat = 4294967295 := by decide
    omega
  · rw [BitVec.toNat_setWidth, payload]
    omega

theorem toNat_calculateEnvelopeSize {payloadSize : U32} (bound : payloadSize.toNat ≤ 2000000) :
    (calculateEnvelopeSize payloadSize).toNat = 64 + payloadSize.toNat + 32 := by
  have envelope : (kTargetEvidenceSnapshotWireHeaderSize.setWidth 64 +
      payloadSize.setWidth 64 + kTargetEvidenceSnapshotWireDigestSize.setWidth 64 : U64).toNat =
      64 + payloadSize.toNat + 32 := by
    have headerSize : (kTargetEvidenceSnapshotWireHeaderSize.setWidth 64).toNat = 64 := by decide
    have digestSize : (kTargetEvidenceSnapshotWireDigestSize.setWidth 64).toNat = 32 := by decide
    rw [BitVec.toNat_add, BitVec.toNat_add, headerSize, digestSize, BitVec.toNat_setWidth]
    omega
  unfold calculateEnvelopeSize
  dsimp only
  split
  · rename_i above
    simp only [Bool.or_eq_true, decide_eq_true_eq, BitVec.lt_def, envelope] at above
    have size : (kTargetEvidenceSnapshotWireMaxSize.setWidth 64).toNat = 2097152 := by decide
    have word : (0xFFFFFFFF : U64).toNat = 4294967295 := by decide
    omega
  · rw [BitVec.toNat_setWidth, envelope]
    omega

/-- The counts of a package that fits. -/
structure Fits (cpuCount vmxCount : U32) : Prop where
  cpu : cpuCount ≤ kCpuMatrixMaxProcessors
  vmx : vmxCount ≤ kVmxCapabilityMaxProcessors

/-- The bytes of a package without its digest. -/
def coveredSize (cpuCount vmxCount : U32) : Nat :=
  64 + (544 + cpuCount.toNat * 112 + vmxCount.toNat * 296)

namespace Fits

variable {cpuCount vmxCount : U32} (fits : Fits cpuCount vmxCount)
include fits

theorem coveredSize_le : coveredSize cpuCount vmxCount ≤ 1671776 := by
  have cpu : cpuCount.toNat ≤ 4096 := fits.cpu
  have vmx : vmxCount.toNat ≤ 4096 := fits.vmx
  unfold coveredSize
  omega

theorem toNat_payload : 64 + (calculatePayloadSize cpuCount vmxCount).toNat =
    coveredSize cpuCount vmxCount := by
  rw [toNat_calculatePayloadSize fits.cpu fits.vmx, coveredSize]

theorem covered_eq : covered (initializeHeader cpuCount vmxCount) =
    coveredSize cpuCount vmxCount := by
  have bound := fits.coveredSize_le
  have payload := fits.toNat_payload
  have header : kTargetEvidenceSnapshotWireHeaderSize.toNat = 64 := by decide
  change (kTargetEvidenceSnapshotWireHeaderSize + calculatePayloadSize cpuCount vmxCount).toNat = _
  rw [BitVec.toNat_add, header]
  omega

theorem toNat_envelope :
    (calculateEnvelopeSize (calculatePayloadSize cpuCount vmxCount)).toNat =
      coveredSize cpuCount vmxCount + 32 := by
  have bound := fits.coveredSize_le
  have payload := fits.toNat_payload
  rw [toNat_calculateEnvelopeSize (by omega)]
  omega

theorem payload_ne_zero : calculatePayloadSize cpuCount vmxCount ≠ 0#32 := by
  intro zero
  have payload := fits.toNat_payload
  rw [zero, coveredSize, BitVec.toNat_zero] at payload
  omega

theorem wireSize_eq : getTargetEvidenceSnapshotWireSize cpuCount vmxCount =
    calculateEnvelopeSize (calculatePayloadSize cpuCount vmxCount) := by
  have cpu : ¬kCpuMatrixMaxProcessors < cpuCount := BitVec.not_lt.mpr fits.cpu
  have vmx : ¬kVmxCapabilityMaxProcessors < vmxCount := BitVec.not_lt.mpr fits.vmx
  simp [getTargetEvidenceSnapshotWireSize, cpu, vmx, fits.payload_ne_zero]

end Fits

theorem foldl_or_eq_zero {ι : Type} {f : ι → U8} {start : U8} {indices : List ι} :
    indices.foldl (fun difference index => difference ||| f index) start = 0#8 ↔
      start = 0#8 ∧ ∀ index ∈ indices, f index = 0#8 := by
  induction indices generalizing start with
  | nil => simp
  | cons index indices ih =>
    rw [List.foldl_cons, ih, List.forall_mem_cons, BitVec.or_eq_zero_iff, and_assoc]

theorem isDigestEqual_iff {left right : Digest} :
    isDigestEqual left right = true ↔ left = right := by
  have zero : (0 : U8) = 0#8 := rfl
  rw [isDigestEqual, beq_iff_eq, zero, foldl_or_eq_zero]
  constructor
  · rintro ⟨_, same⟩
    funext index
    exact BitVec.xor_eq_zero_iff.mp (same index (List.mem_finRange index))
  · rintro rfl
    exact ⟨rfl, fun index _ => BitVec.xor_self⟩

section Arrays

variable {α : Type}

/-- An array that is there as far as its count says. -/
def Present (samples : Samples α) : Prop := isMissing samples samples.count = false

theorem Present.length_eq {samples : Samples α} (present : Present samples) :
    samples.items.length = samples.count.toNat := by
  cases samples with
  | null count =>
    have zero : count = 0#32 := by simpa [Present, isMissing, Samples.count, Samples.isNull] using present
    rw [Samples.count, zero]
    rfl
  | array items bounded =>
    rw [Samples.items, Samples.count, BitVec.toNat_ofNat, Nat.mod_eq_of_lt bounded]

/-- Two arrays that are the same to a reader. -/
structure Alike (first second : Samples α) : Prop where
  count : first.count = second.count
  same : first.count ≠ 0#32 → first = second

/-- A reader that does not look into an empty array does not tell them apart. -/
theorem Alike.congr {β : Type} {first second : Samples α} (alike : Alike first second)
    (read : Samples α → β)
    (blind : first.count = 0#32 → second.count = 0#32 → read first = read second) :
    read first = read second := by
  by_cases empty : first.count = 0#32
  · exact blind empty (alike.count.symm.trans empty)
  · rw [alike.same empty]

theorem Alike.missing_eq {first second : Samples α} (alike : Alike first second) :
    (first.count != 0 && first.isNull) = (second.count != 0 && second.isNull) :=
  alike.congr (fun samples => samples.count != 0 && samples.isNull) fun empty alsoEmpty => by
    simp [empty, alsoEmpty]

end Arrays

theorem buildCpuMatrixSummary_alike {first second : Samples CpuMatrixSample} {expected : U32}
    (alike : Alike first second) :
    buildCpuMatrixSummary first expected = buildCpuMatrixSummary second expected :=
  alike.congr (buildCpuMatrixSummary · expected) fun empty alsoEmpty => by
    simp [buildCpuMatrixSummary, empty, alsoEmpty]

theorem buildVmxCapabilityMatrix_alike {first second : Samples VmxCapabilitySample} {expected : U32}
    (alike : Alike first second) :
    buildVmxCapabilityMatrix first expected = buildVmxCapabilityMatrix second expected :=
  alike.congr (buildVmxCapabilityMatrix · expected) fun empty alsoEmpty => by
    simp [buildVmxCapabilityMatrix, empty, alsoEmpty]

/-- The validator does not tell arrays apart that are the same to a reader. -/
theorem validate_alike {cpuAlso : Samples CpuMatrixSample} {vmxAlso : Samples VmxCapabilitySample}
    (cpu : Alike cpuSamples cpuAlso) (vmx : Alike vmxSamples vmxAlso) :
    isTargetEvidenceSnapshotValid (some snapshot) cpuSamples vmxSamples =
      isTargetEvidenceSnapshotValid (some snapshot) cpuAlso vmxAlso := by
  have cpuSame : cpuChecks snapshot cpuSamples = cpuChecks snapshot cpuAlso := by
    rw [cpuChecks, cpuChecks, buildCpuMatrixSummary_alike cpu, cpu.missing_eq, cpu.count]
  have vmxSame : vmxChecks snapshot vmxSamples = vmxChecks snapshot vmxAlso := by
    rw [vmxChecks, vmxChecks, buildVmxCapabilityMatrix_alike vmx, vmx.missing_eq, vmx.count]
  rw [isTargetEvidenceSnapshotValid, isTargetEvidenceSnapshotValid,
    validateTargetEvidenceSnapshot, validateTargetEvidenceSnapshot, checks, checks, cpuSame,
    vmxSame]

theorem buildCpuMatrixSummary_bound {expected : U32}
    (built : (buildCpuMatrixSummary cpuSamples expected).1 = true) :
    cpuSamples.count ≤ kCpuMatrixMaxProcessors := by
  by_contra above
  have beyond : decide (kCpuMatrixMaxProcessors < cpuSamples.count) = true :=
    decide_eq_true (BitVec.not_le.mp above)
  simp [buildCpuMatrixSummary, beyond] at built

theorem buildVmxCapabilityMatrix_bound {expected : U32}
    (built : (buildVmxCapabilityMatrix vmxSamples expected).1 = true) :
    vmxSamples.count ≤ kVmxCapabilityMaxProcessors := by
  by_contra above
  have beyond : decide (kVmxCapabilityMaxProcessors < vmxSamples.count) = true :=
    decide_eq_true (BitVec.not_le.mp above)
  simp [buildVmxCapabilityMatrix, beyond] at built

/-- The samples of an accepted snapshot are there, and fit into a package. -/
theorem Accepted.samples (accepted : Accepted snapshot cpuSamples vmxSamples) :
    Present cpuSamples ∧ Present vmxSamples ∧ Fits cpuSamples.count vmxSamples.count := by
  have cpu := accepted.cpu
  have vmx := accepted.vmx
  simp only [Clear, cpuChecks, List.forall_mem_cons] at cpu
  simp only [Clear, vmxChecks, List.forall_mem_cons] at vmx
  have cpuFacts : Present cpuSamples ∧ cpuSamples.count ≤ kCpuMatrixMaxProcessors := by
    cases flag : hasFlag snapshot kTargetEvidenceSnapshotFlagCpuMatrix with
    | true =>
      simp only [flag, Bool.true_and, Bool.or_eq_false_iff, Bool.not_eq_false'] at cpu
      exact ⟨cpu.2.1.1.2, buildCpuMatrixSummary_bound cpu.2.2.1.1⟩
    | false =>
      have empty : cpuSamples.count = 0#32 := by simpa [flag] using cpu.1
      refine ⟨?_, ?_⟩
      · simp [Present, isMissing, empty]
      · rw [empty]
        decide
  have vmxFacts : Present vmxSamples ∧ vmxSamples.count ≤ kVmxCapabilityMaxProcessors := by
    cases flag : hasFlag snapshot kTargetEvidenceSnapshotFlagVmxMatrix with
    | true =>
      simp only [flag, Bool.true_and, Bool.or_eq_false_iff, Bool.not_eq_false'] at vmx
      exact ⟨vmx.2.1.1.2, buildVmxCapabilityMatrix_bound vmx.2.2.1.1⟩
    | false =>
      have empty : vmxSamples.count = 0#32 := by simpa [flag] using vmx.1
      refine ⟨?_, ?_⟩
      · simp [Present, isMissing, empty]
      · rw [empty]
        decide
  exact ⟨cpuFacts.1, vmxFacts.1, cpuFacts.2, vmxFacts.2⟩

/-- The bytes of a package that the digest is taken over. -/
def signedPart (header : TargetEvidenceSnapshotWireHeader) (snapshot : TargetEvidenceSnapshot)
    (cpuSamples : List CpuMatrixSample) (vmxSamples : List VmxCapabilitySample) : List U8 :=
  headerLayout.encode header ++ snapshotLayout.encode snapshot ++
    cpuSampleLayout.encodeAll cpuSamples ++ vmxSampleLayout.encodeAll vmxSamples

theorem length_signedPart {header : TargetEvidenceSnapshotWireHeader}
    {cpuItems : List CpuMatrixSample} {vmxItems : List VmxCapabilitySample} :
    (signedPart header snapshot cpuItems vmxItems).length =
      64 + (544 + cpuItems.length * 112 + vmxItems.length * 296) := by
  have cpuSize : cpuSampleLayout.size = 112 := rfl
  have vmxSize : vmxSampleLayout.size = 296 := rfl
  have snapshotSize : snapshotLayout.size = 544 := rfl
  have headerSize : headerLayout.size = 64 := rfl
  simp only [signedPart, List.length_append, Layout.length_encode, Layout.length_encodeAll, cpuSize,
    vmxSize, snapshotSize, headerSize]
  omega

/-- What is copied piece by piece is the package, in front of what was there. -/
theorem copyPackage_eq {header : TargetEvidenceSnapshotWireHeader}
    {cpuItems : List CpuMatrixSample} {vmxItems : List VmxCapabilitySample} {output : List U8} :
    copyPackage header snapshot cpuItems vmxItems output =
      signedPart header snapshot cpuItems vmxItems ++
        output.drop (signedPart header snapshot cpuItems vmxItems).length := by
  have atFront : Layout.overwrite output 0 (headerLayout.encode header) =
      headerLayout.encode header ++ output.drop (headerLayout.encode header).length :=
    @Layout.overwrite_behind U8 [] output (headerLayout.encode header) 0 rfl
  have headerLength : (headerLayout.encode header).length =
      kTargetEvidenceSnapshotWireHeaderSize.toNat := headerLayout.length_encode header
  have snapshotLength : (headerLayout.encode header ++ snapshotLayout.encode snapshot).length =
      kTargetEvidenceSnapshotWireHeaderSize.toNat + snapshotLayout.size := by
    rw [List.length_append, headerLength, snapshotLayout.length_encode]
  have cpuLength : (headerLayout.encode header ++ snapshotLayout.encode snapshot ++
      cpuSampleLayout.encodeAll cpuItems).length =
      kTargetEvidenceSnapshotWireHeaderSize.toNat + snapshotLayout.size +
        cpuItems.length * cpuSampleLayout.size := by
    rw [List.length_append, snapshotLength, Layout.length_encodeAll]
  unfold copyPackage
  dsimp only
  rw [atFront, Layout.overwrite_behind headerLength, Layout.overwrite_behind snapshotLength,
    Layout.overwrite_behind cpuLength, List.drop_drop, List.drop_drop, List.drop_drop]
  simp only [signedPart, List.length_append, Nat.add_assoc]

section Encoding

variable {sha256 : Sha256}

/-- What an accepted snapshot is encoded to. -/
def packageOf (snapshot : TargetEvidenceSnapshot) (cpuSamples : Samples CpuMatrixSample)
    (vmxSamples : Samples VmxCapabilitySample) : List U8 :=
  signedPart (initializeHeader cpuSamples.count vmxSamples.count) snapshot cpuSamples.items
    vmxSamples.items

theorem Accepted.length_packageOf (accepted : Accepted snapshot cpuSamples vmxSamples) :
    (packageOf snapshot cpuSamples vmxSamples).length =
      coveredSize cpuSamples.count vmxSamples.count := by
  obtain ⟨cpu, vmx, _⟩ := accepted.samples
  rw [packageOf, length_signedPart, cpu.length_eq, vmx.length_eq, coveredSize]

theorem computeSha256_of_package {input : List U8} {digest : Digest} (filled : input ≠ [])
    (hashed : sha256 input = some digest) : computeSha256 sha256 input = some digest := by
  rw [computeSha256, if_neg (by simpa using filled), hashed]

theorem sha256_of_compute {input : List U8} {digest : Digest}
    (hashed : computeSha256 sha256 input = some digest) : sha256 input = some digest := by
  unfold computeSha256 at hashed
  split at hashed
  · cases hashed
  · exact hashed

theorem packageOf_ne_nil : packageOf snapshot cpuSamples vmxSamples ≠ [] := by
  intro empty
  have length := congrArg List.length empty
  rw [packageOf, length_signedPart, List.length_nil] at length
  omega

/-- An accepted snapshot is encoded into every buffer of the size of its
package. -/
theorem encode_eq
    (accepted : validateTargetEvidenceSnapshot (some snapshot) cpuSamples vmxSamples = .Success)
    {digest : Digest} (hashed : sha256 (packageOf snapshot cpuSamples vmxSamples) = some digest)
    {output : Samples U8} (there : output.isNull = false)
    (sized : output.count = getTargetEvidenceSnapshotWireSize cpuSamples.count vmxSamples.count) :
    encodeTargetEvidenceSnapshotPackage sha256 (some snapshot) cpuSamples vmxSamples output =
      ⟨.Success, getTargetEvidenceSnapshotWireSize cpuSamples.count vmxSamples.count,
        packageOf snapshot cpuSamples vmxSamples ++ digestLayout.encode digest⟩ := by
  have sections := validate_eq_success_iff.mp accepted
  obtain ⟨cpu, vmx, fits⟩ := sections.samples
  have length := sections.length_packageOf
  have outputLength : output.items.length = coveredSize cpuSamples.count vmxSamples.count + 32 := by
    have present : Present output := by
      rw [Present, isMissing, there, Bool.and_false]
    rw [present.length_eq, sized, fits.wireSize_eq, fits.toNat_envelope]
  have nonzero : getTargetEvidenceSnapshotWireSize cpuSamples.count vmxSamples.count ≠ 0#32 := by
    intro zero
    have envelope := fits.toNat_envelope
    rw [← fits.wireSize_eq, zero, BitVec.toNat_zero] at envelope
    omega
  have valid : isTargetEvidenceSnapshotValid (some snapshot) cpuSamples vmxSamples = true := by
    rw [isTargetEvidenceSnapshotValid, accepted, beq_self_eq_true]
  have copied : copyPackage (initializeHeader cpuSamples.count vmxSamples.count) snapshot
      cpuSamples.items vmxSamples.items output.items =
      packageOf snapshot cpuSamples vmxSamples ++
        output.items.drop (coveredSize cpuSamples.count vmxSamples.count) := by
    rw [copyPackage_eq, ← packageOf, length]
  have hash := computeSha256_of_package packageOf_ne_nil hashed
  have rest : (output.items.drop (coveredSize cpuSamples.count vmxSamples.count)).drop
      (digestLayout.encode digest).length = [] := by
    rw [digestLayout.length_encode, List.drop_drop, List.drop_eq_nil_iff, outputLength]
    exact le_of_eq rfl
  unfold encodeTargetEvidenceSnapshotPackage
  dsimp only
  rw [there, cpu, vmx, if_neg (by decide), if_neg (by simpa using nonzero), sized,
    if_neg (BitVec.lt_irrefl _), valid, if_neg (by decide), copied, fits.covered_eq, ← length,
    List.take_left, hash, length]
  dsimp only
  rw [Layout.overwrite_behind length, rest, List.append_nil]

end Encoding

section Inspection

variable {cpuCount vmxCount : U32}

theorem validateHeader_initializeHeader (fits : Fits cpuCount vmxCount) :
    validateHeader (initializeHeader cpuCount vmxCount)
      (calculateEnvelopeSize (calculatePayloadSize cpuCount vmxCount)) = .Success := by
  have cpu : ¬kCpuMatrixMaxProcessors < cpuCount := BitVec.not_lt.mpr fits.cpu
  have vmx : ¬kVmxCapabilityMaxProcessors < vmxCount := BitVec.not_lt.mpr fits.vmx
  have bound := fits.coveredSize_le
  have envelope := fits.toNat_envelope
  have nonzero : calculateEnvelopeSize (calculatePayloadSize cpuCount vmxCount) ≠ 0#32 := by
    intro zero
    rw [zero, BitVec.toNat_zero] at envelope
    omega
  have small : ¬kTargetEvidenceSnapshotWireMaxSize <
      calculateEnvelopeSize (calculatePayloadSize cpuCount vmxCount) := by
    have size : kTargetEvidenceSnapshotWireMaxSize.toNat = 2097152 := by decide
    rw [BitVec.lt_def, size, envelope]
    omega
  simp [validateHeader, isMagicValid, initializeHeader, cpu, vmx, nonzero, small,
    fits.payload_ne_zero]

/-- A header that is valid is the one that the encoder writes. -/
theorem eq_initializeHeader_of_valid {header : TargetEvidenceSnapshotWireHeader} {inputSize : U32}
    (valid : validateHeader header inputSize = .Success) :
    Fits header.cpuSampleCount header.vmxSampleCount ∧
      header = initializeHeader header.cpuSampleCount header.vmxSampleCount ∧
      inputSize = calculateEnvelopeSize
        (calculatePayloadSize header.cpuSampleCount header.vmxSampleCount) := by
  unfold validateHeader at valid
  dsimp only at valid
  split at valid
  · cases valid
  rename_i magic
  split at valid
  · cases valid
  rename_i version
  split at valid
  · cases valid
  rename_i sizes
  split at valid
  · cases valid
  rename_i counts
  split at valid
  · cases valid
  rename_i lengths
  simp only [isMagicValid, Bool.not_eq_true', Bool.not_eq_false, beq_iff_eq] at magic
  simp only [bne_iff_ne, not_not] at version
  simp only [Bool.or_eq_true, bne_iff_ne, not_or, not_not] at sizes
  simp only [Bool.or_eq_true, decide_eq_true_eq, not_or, BitVec.not_lt] at counts
  simp only [Bool.or_eq_true, bne_iff_ne, beq_iff_eq, not_or, not_not] at lengths
  obtain ⟨⟨⟨⟨⟨⟨⟨⟨headerSize, snapshotSize⟩, cpuSize⟩, vmxSize⟩, digestSize⟩, first⟩, second⟩,
    third⟩, fourth⟩ := sizes
  obtain ⟨⟨⟨⟨⟨_, _⟩, payload⟩, envelope⟩, _⟩, whole⟩ := lengths
  refine ⟨⟨counts.1, counts.2⟩, ?_, whole.trans envelope⟩
  cases header
  rw [initializeHeader, TargetEvidenceSnapshotWireHeader.mk.injEq]
  exact ⟨magic, version, headerSize, snapshotSize, cpuSize, vmxSize, rfl, rfl, payload, digestSize,
    envelope, first, second, third, fourth⟩

/-- What an inspection that succeeds has seen. -/
structure Inspected (input : Samples U8) (header : TargetEvidenceSnapshotWireHeader)
    (cpuCount vmxCount : U32) : Prop where
  fits : Fits cpuCount vmxCount
  same : header = initializeHeader cpuCount vmxCount
  read : headerLayout.decode input.items = header
  there : input.isNull = false
  count : input.count = calculateEnvelopeSize (calculatePayloadSize cpuCount vmxCount)

theorem Inspected.length {input : Samples U8} {header : TargetEvidenceSnapshotWireHeader}
    (seen : Inspected input header cpuCount vmxCount) :
    input.items.length = coveredSize cpuCount vmxCount + 32 := by
  have present : Present input := by
    rw [Present, isMissing, seen.there, Bool.and_false]
  rw [present.length_eq, seen.count, seen.fits.toNat_envelope]

theorem inspect_eq_success_iff {input : Samples U8} {header : TargetEvidenceSnapshotWireHeader} :
    inspectTargetEvidenceSnapshotPackage input = (.Success, header) ↔
      Inspected input header header.cpuSampleCount header.vmxSampleCount := by
  unfold inspectTargetEvidenceSnapshotPackage
  constructor
  · intro success
    split at success
    · cases success
    rename_i there
    split at success
    · cases success
    dsimp only at success
    obtain ⟨valid, read⟩ := Prod.mk.inj success
    rw [read] at valid
    obtain ⟨fits, same, count⟩ := eq_initializeHeader_of_valid valid
    exact ⟨fits, same, read, Bool.eq_false_iff.mpr there, count⟩
  · intro seen
    have bound := seen.fits.coveredSize_le
    have envelope := seen.fits.toNat_envelope
    have enough : ¬input.count < kTargetEvidenceSnapshotWireHeaderSize := by
      have size : kTargetEvidenceSnapshotWireHeaderSize.toNat = 64 := by decide
      rw [BitVec.lt_def, size, seen.count, envelope, coveredSize]
      omega
    have small : ¬kTargetEvidenceSnapshotWireMaxSize < input.count := by
      have size : kTargetEvidenceSnapshotWireMaxSize.toNat = 2097152 := by decide
      rw [BitVec.lt_def, size, seen.count, envelope]
      omega
    have valid := validateHeader_initializeHeader seen.fits
    rw [← seen.same, ← seen.count] at valid
    simp [seen.there, enough, small, seen.read, valid]

end Inspection

section Decoding

variable {sha256 : Sha256} {α : Type}

/-- A buffer with room for as many values. -/
structure Room (buffer : Samples α) (count : U32) : Prop where
  capacity : count ≤ buffer.count
  there : isMissing buffer count = false

theorem overwrite_front {target source : List α} :
    Layout.overwrite target 0 source = source ++ target.drop source.length :=
  @Layout.overwrite_behind α [] target source 0 rfl

/-- What is passed on behind a buffer is what has been stored in it. -/
theorem passOn_stored {buffer : Samples α} {stored : List α} {count : U32}
    (length : stored.length = count.toNat) (there : isMissing buffer count = false) :
    (passOn buffer (Layout.overwrite buffer.items 0 stored) count).count = count ∧
      (passOn buffer (Layout.overwrite buffer.items 0 stored) count).items = stored ∧
      Present (passOn buffer (Layout.overwrite buffer.items 0 stored) count) := by
  cases buffer with
  | null capacity =>
    have zero : count = 0#32 := by simpa [isMissing, Samples.isNull] using there
    rw [zero, BitVec.toNat_zero] at length
    refine ⟨rfl, (List.length_eq_zero_iff.mp length).symm, ?_⟩
    simpa [Present, isMissing, passOn, Samples.count, Samples.isNull] using there
  | array items bounded =>
    have taken : (Layout.overwrite items 0 stored).take count.toNat = stored := by
      rw [overwrite_front, ← length, List.take_left]
    refine ⟨?_, taken, ?_⟩
    · have counted : BitVec.ofNat 32 ((Layout.overwrite items 0 stored).take count.toNat).length =
          count := by
        rw [taken, length, BitVec.ofNat_toNat, BitVec.setWidth_eq]
      exact counted
    · rw [Present, isMissing]
      exact Bool.and_false _

theorem alike_of_items {first second : Samples α} (count : first.count = second.count)
    (items : first.items = second.items) (present : Present first)
    (alsoPresent : Present second) : Alike first second := by
  refine ⟨count, fun filled => ?_⟩
  have firstThere : first.isNull = false := by simpa [Present, isMissing, filled] using present
  have secondThere : second.isNull = false := by
    simpa [Present, isMissing, ← count, filled] using alsoPresent
  cases first with
  | null _ => cases firstThere
  | array values _ =>
    cases second with
    | null _ => cases secondThere
    | array others _ =>
      have same : values = others := items
      subst same
      rfl

/-- The payload of a package, read back. -/
theorem readPayload_eq
    (accepted : validateTargetEvidenceSnapshot (some snapshot) cpuSamples vmxSamples = .Success)
    {trailer : List U8} {cpuBuffer : Samples CpuMatrixSample}
    {vmxBuffer : Samples VmxCapabilitySample} (cpuRoom : Room cpuBuffer cpuSamples.count)
    (vmxRoom : Room vmxBuffer vmxSamples.count) :
    readPayload (initializeHeader cpuSamples.count vmxSamples.count)
        (packageOf snapshot cpuSamples vmxSamples ++ trailer) cpuBuffer vmxBuffer =
      ⟨.Success, snapshot, Layout.overwrite cpuBuffer.items 0 cpuSamples.items, cpuSamples.count,
        Layout.overwrite vmxBuffer.items 0 vmxSamples.items, vmxSamples.count⟩ := by
  obtain ⟨cpu, vmx, fits⟩ := (validate_eq_success_iff.mp accepted).samples
  have behindHeader : (packageOf snapshot cpuSamples vmxSamples ++ trailer).drop
      (initializeHeader cpuSamples.count vmxSamples.count).headerSize.toNat =
      snapshotLayout.encode snapshot ++ (cpuSampleLayout.encodeAll cpuSamples.items ++
        (vmxSampleLayout.encodeAll vmxSamples.items ++ trailer)) := by
    simp only [packageOf, signedPart, List.append_assoc]
    exact List.drop_left' (headerLayout.length_encode _)
  have behindSnapshot : (snapshotLayout.encode snapshot ++
      (cpuSampleLayout.encodeAll cpuSamples.items ++
        (vmxSampleLayout.encodeAll vmxSamples.items ++ trailer))).drop snapshotLayout.size =
      cpuSampleLayout.encodeAll cpuSamples.items ++
        (vmxSampleLayout.encodeAll vmxSamples.items ++ trailer) :=
    List.drop_left' (snapshotLayout.length_encode snapshot)
  have behindCpu : (cpuSampleLayout.encodeAll cpuSamples.items ++
      (vmxSampleLayout.encodeAll vmxSamples.items ++ trailer)).drop
        (cpuSamples.items.length * cpuSampleLayout.size) =
      vmxSampleLayout.encodeAll vmxSamples.items ++ trailer :=
    List.drop_left' (cpuSampleLayout.length_encodeAll cpuSamples.items)
  have cpuPassed := passOn_stored cpu.length_eq cpuRoom.there
  have vmxPassed := passOn_stored vmx.length_eq vmxRoom.there
  have valid : isTargetEvidenceSnapshotValid (some snapshot)
      (passOn cpuBuffer (Layout.overwrite cpuBuffer.items 0 cpuSamples.items) cpuSamples.count)
      (passOn vmxBuffer (Layout.overwrite vmxBuffer.items 0 vmxSamples.items) vmxSamples.count) =
      true := by
    have same := @validate_alike snapshot _ _ _ _
      (alike_of_items cpuPassed.1 cpuPassed.2.1 cpuPassed.2.2 cpu)
      (alike_of_items vmxPassed.1 vmxPassed.2.1 vmxPassed.2.2 vmx)
    rw [same, isTargetEvidenceSnapshotValid, accepted, beq_self_eq_true]
  have cpuCount : (initializeHeader cpuSamples.count vmxSamples.count).cpuSampleCount =
      cpuSamples.count := rfl
  have vmxCount : (initializeHeader cpuSamples.count vmxSamples.count).vmxSampleCount =
      vmxSamples.count := rfl
  have cpuRead : cpuSampleLayout.decodeAll cpuSamples.count.toNat
      (cpuSampleLayout.encodeAll cpuSamples.items ++
        (vmxSampleLayout.encodeAll vmxSamples.items ++ trailer)) = cpuSamples.items := by
    rw [← cpu.length_eq, Layout.decodeAll_append]
  have vmxRead : vmxSampleLayout.decodeAll vmxSamples.count.toNat
      (vmxSampleLayout.encodeAll vmxSamples.items ++ trailer) = vmxSamples.items := by
    rw [← vmx.length_eq, Layout.decodeAll_append]
  rw [cpu.length_eq] at behindCpu
  unfold readPayload
  dsimp only
  rw [behindHeader, snapshotLayout.decode_append, behindSnapshot, cpuCount, vmxCount, cpuRead,
    behindCpu, vmxRead, valid, if_neg (by decide)]

/-- A package is decoded to what it was encoded from. -/
theorem decode_eq
    (accepted : validateTargetEvidenceSnapshot (some snapshot) cpuSamples vmxSamples = .Success)
    {digest : Digest} (hashed : sha256 (packageOf snapshot cpuSamples vmxSamples) = some digest)
    {input : Samples U8} (there : input.isNull = false)
    (bytes : input.items =
      packageOf snapshot cpuSamples vmxSamples ++ digestLayout.encode digest)
    {cpuBuffer : Samples CpuMatrixSample} {vmxBuffer : Samples VmxCapabilitySample}
    (cpuRoom : Room cpuBuffer cpuSamples.count) (vmxRoom : Room vmxBuffer vmxSamples.count) :
    decodeTargetEvidenceSnapshotPackage sha256 input cpuBuffer vmxBuffer =
      ⟨.Success, snapshot, Layout.overwrite cpuBuffer.items 0 cpuSamples.items, cpuSamples.count,
        Layout.overwrite vmxBuffer.items 0 vmxSamples.items, vmxSamples.count⟩ := by
  have sections := validate_eq_success_iff.mp accepted
  obtain ⟨cpu, vmx, fits⟩ := sections.samples
  have length := sections.length_packageOf
  have seen : Inspected input (initializeHeader cpuSamples.count vmxSamples.count)
      cpuSamples.count vmxSamples.count := by
    refine ⟨fits, rfl, ?_, there, ?_⟩
    · rw [bytes, packageOf, signedPart]
      simp only [List.append_assoc]
      exact headerLayout.decode_append _ _
    · have present : Present input := by
        rw [Present, isMissing, there, Bool.and_false]
      apply BitVec.eq_of_toNat_eq
      rw [← present.length_eq, fits.toNat_envelope, bytes, List.length_append, length,
        digestLayout.length_encode]
      rfl
  have inspected := inspect_eq_success_iff.mpr seen
  have hash := computeSha256_of_package packageOf_ne_nil hashed
  have capacity : ¬cpuBuffer.count < cpuSamples.count := BitVec.not_lt.mpr cpuRoom.capacity
  have vmxCapacity : ¬vmxBuffer.count < vmxSamples.count := BitVec.not_lt.mpr vmxRoom.capacity
  have cpuCount : (initializeHeader cpuSamples.count vmxSamples.count).cpuSampleCount =
      cpuSamples.count := rfl
  have vmxCount : (initializeHeader cpuSamples.count vmxSamples.count).vmxSampleCount =
      vmxSamples.count := rfl
  have equal : isDigestEqual digest (digestLayout.decode (digestLayout.encode digest)) = true := by
    have same := digestLayout.decode_append digest []
    rw [List.append_nil] at same
    rw [same, isDigestEqual_iff]
  unfold decodeTargetEvidenceSnapshotPackage
  rw [inspected]
  dsimp only
  rw [if_neg (by decide), cpuCount, vmxCount, decide_eq_false capacity, decide_eq_false vmxCapacity,
    cpuRoom.there, vmxRoom.there, if_neg (by decide), fits.covered_eq, ← length, bytes,
    List.take_left, List.drop_left, hash]
  dsimp only
  rw [equal, if_neg (by decide)]
  exact readPayload_eq accepted cpuRoom vmxRoom

/-- What the decoder has seen of a package that it accepts. -/
theorem decode_success {input : Samples U8} {cpuBuffer : Samples CpuMatrixSample}
    {vmxBuffer : Samples VmxCapabilitySample}
    (success : (decodeTargetEvidenceSnapshotPackage sha256 input cpuBuffer vmxBuffer).status =
      .Success) :
    ∃ header expected, Inspected input header header.cpuSampleCount header.vmxSampleCount ∧
      isMissing cpuBuffer header.cpuSampleCount = false ∧
      isMissing vmxBuffer header.vmxSampleCount = false ∧
      computeSha256 sha256 (input.items.take (covered header)) = some expected ∧
      expected = digestLayout.decode (input.items.drop (covered header)) ∧
      decodeTargetEvidenceSnapshotPackage sha256 input cpuBuffer vmxBuffer =
        readPayload header input.items cpuBuffer vmxBuffer := by
  unfold decodeTargetEvidenceSnapshotPackage at success ⊢
  rcases inspected : inspectTargetEvidenceSnapshotPackage input with ⟨status, header⟩
  rw [inspected] at success
  dsimp only at success ⊢
  by_cases fine : status = .Success
  · subst fine
    rw [if_neg (by decide)] at success ⊢
    split at success
    · cases success
    rename_i room
    rw [if_neg room]
    simp only [Bool.or_eq_true, not_or, Bool.not_eq_true] at room
    split at success
    · cases success
    rename_i expected hashed
    split at success
    · cases success
    rename_i equal
    rw [if_neg equal]
    rw [Bool.not_eq_true', Bool.not_eq_false, isDigestEqual_iff] at equal
    exact ⟨header, expected, inspect_eq_success_iff.mp inspected, room.1.2, room.2, hashed, equal,
      rfl⟩
  · rw [if_pos (bne_iff_ne.mpr fine)] at success
    exact absurd success fine

/-- The bytes of a package are those of what is read from it. -/
theorem signedPart_of_bytes {input : List U8} {cpuCount vmxCount : Nat}
    (enough : 64 + (544 + cpuCount * 112 + vmxCount * 296) ≤ input.length) :
    signedPart (headerLayout.decode input) (snapshotLayout.decode (input.drop 64))
        (cpuSampleLayout.decodeAll cpuCount ((input.drop 64).drop 544))
        (vmxSampleLayout.decodeAll vmxCount (((input.drop 64).drop 544).drop (cpuCount * 112))) =
      input.take (64 + (544 + cpuCount * 112 + vmxCount * 296)) := by
  have header := headerLayout.encode_decode input (by change 64 ≤ _; omega)
  have body := snapshotLayout.encode_decode (input.drop 64)
    (by change 544 ≤ _; rw [List.length_drop]; omega)
  have cpu := cpuSampleLayout.encodeAll_decodeAll cpuCount ((input.drop 64).drop 544)
    (by change cpuCount * 112 ≤ _; rw [List.length_drop, List.length_drop]; omega)
  have vmx := vmxSampleLayout.encodeAll_decodeAll vmxCount
    (((input.drop 64).drop 544).drop (cpuCount * 112))
    (by change vmxCount * 296 ≤ _; rw [List.length_drop, List.length_drop, List.length_drop]; omega)
  rw [signedPart, header, body, cpu, vmx, List.take_add, List.take_add, List.take_add]
  simp only [List.append_assoc, List.drop_drop, Nat.add_assoc]
  rfl

/-- What is read from a package that is accepted. -/
theorem readPayload_success {header : TargetEvidenceSnapshotWireHeader} {input : List U8}
    {cpuBuffer : Samples CpuMatrixSample} {vmxBuffer : Samples VmxCapabilitySample}
    (success : (readPayload header input cpuBuffer vmxBuffer).status = .Success) :
    let outcome := readPayload header input cpuBuffer vmxBuffer
    let payload := input.drop header.headerSize.toNat
    let behind := payload.drop snapshotLayout.size
    let behindCpu := behind.drop (header.cpuSampleCount.toNat * cpuSampleLayout.size)
    outcome.snapshot = snapshotLayout.decode payload ∧
      outcome.cpuSampleCount = header.cpuSampleCount ∧
      outcome.vmxSampleCount = header.vmxSampleCount ∧
      outcome.cpuSamples = Layout.overwrite cpuBuffer.items 0
        (cpuSampleLayout.decodeAll header.cpuSampleCount.toNat behind) ∧
      outcome.vmxSamples = Layout.overwrite vmxBuffer.items 0
        (vmxSampleLayout.decodeAll header.vmxSampleCount.toNat behindCpu) ∧
      isTargetEvidenceSnapshotValid (some outcome.snapshot)
        (passOn cpuBuffer outcome.cpuSamples outcome.cpuSampleCount)
        (passOn vmxBuffer outcome.vmxSamples outcome.vmxSampleCount) = true := by
  unfold readPayload at success ⊢
  dsimp only at success ⊢
  split at success
  · cases success
  rename_i valid
  rw [if_neg valid]
  rw [Bool.not_eq_true', Bool.not_eq_false] at valid
  exact ⟨rfl, rfl, rfl, rfl, rfl, valid⟩

/-- A package that is accepted is encoded again to the same bytes. -/
theorem reencode_eq {input : Samples U8} {cpuBuffer : Samples CpuMatrixSample}
    {vmxBuffer : Samples VmxCapabilitySample} {outcome : DecodeOutcome}
    (decoded : decodeTargetEvidenceSnapshotPackage sha256 input cpuBuffer vmxBuffer = outcome)
    (success : outcome.status = .Success) {output : Samples U8} (there : output.isNull = false)
    (sized : output.count =
      getTargetEvidenceSnapshotWireSize outcome.cpuSampleCount outcome.vmxSampleCount) :
    encodeTargetEvidenceSnapshotPackage sha256 (some outcome.snapshot)
        (passOn cpuBuffer outcome.cpuSamples outcome.cpuSampleCount)
        (passOn vmxBuffer outcome.vmxSamples outcome.vmxSampleCount) output =
      ⟨.Success, input.count, input.items⟩ := by
  subst decoded
  obtain ⟨header, expected, seen, cpuThere, vmxThere, hashed, stored, same⟩ :=
    decode_success success
  rw [same] at success sized ⊢
  obtain ⟨snapshotRead, cpuCount, vmxCount, cpuRead, vmxRead, valid⟩ := readPayload_success success
  generalize readPayload header input.items cpuBuffer vmxBuffer = outcome at *
  rw [cpuRead, cpuCount, vmxRead, vmxCount] at valid ⊢
  rw [cpuCount, vmxCount] at sized
  have headerSize : header.headerSize.toNat = 64 := by
    rw [seen.same]
    rfl
  rw [headerSize] at snapshotRead cpuRead vmxRead valid ⊢
  have cpuPassed := @passOn_stored _ cpuBuffer _ _ (cpuSampleLayout.length_decodeAll
    header.cpuSampleCount.toNat ((input.items.drop 64).drop snapshotLayout.size)) cpuThere
  have vmxPassed := @passOn_stored _ vmxBuffer _ _ (vmxSampleLayout.length_decodeAll
    header.vmxSampleCount.toNat (((input.items.drop 64).drop snapshotLayout.size).drop
      (header.cpuSampleCount.toNat * cpuSampleLayout.size))) vmxThere
  generalize cpuAgain : passOn cpuBuffer _ header.cpuSampleCount = cpuSamples at *
  generalize vmxAgain : passOn vmxBuffer _ header.vmxSampleCount = vmxSamples at *
  have accepted : validateTargetEvidenceSnapshot (some outcome.snapshot) cpuSamples vmxSamples =
      .Success := beq_iff_eq.mp valid
  have coveredIs : covered header = coveredSize header.cpuSampleCount header.vmxSampleCount :=
    (congrArg covered seen.same).trans seen.fits.covered_eq
  have length := seen.length
  have package : packageOf outcome.snapshot cpuSamples vmxSamples =
      input.items.take (covered header) := by
    rw [packageOf, cpuPassed.1, vmxPassed.1, cpuPassed.2.1, vmxPassed.2.1, snapshotRead,
      ← seen.same, ← seen.read]
    refine (signedPart_of_bytes ?_).trans ?_
    · rw [seen.read, length, coveredSize]
      omega
    · rw [seen.read, coveredIs, coveredSize]
  have trailer : digestLayout.encode expected = input.items.drop (covered header) := by
    have rest : (input.items.drop (covered header)).length = digestLayout.size := by
      rw [List.length_drop, length, coveredIs, Nat.add_sub_cancel_left]
      rfl
    rw [stored, digestLayout.encode_decode _ rest.ge, ← rest, List.take_length]
  have hash : sha256 (packageOf outcome.snapshot cpuSamples vmxSamples) = some expected := by
    rw [package]
    exact sha256_of_compute hashed
  rw [← cpuPassed.1, ← vmxPassed.1] at sized
  rw [encode_eq accepted hash there sized, cpuPassed.1, vmxPassed.1, seen.fits.wireSize_eq,
    ← seen.count, package, trailer, List.take_append_drop]

/-- The digest that is stored at the end of a package. -/
def storedDigest (input : List U8) : Digest :=
  digestLayout.decode (input.drop (input.length - digestLayout.size))

theorem storedDigest_eq {input : Samples U8} {header : TargetEvidenceSnapshotWireHeader}
    (seen : Inspected input header header.cpuSampleCount header.vmxSampleCount) :
    digestLayout.decode (input.items.drop (covered header)) = storedDigest input.items := by
  have coveredIs : covered header = coveredSize header.cpuSampleCount header.vmxSampleCount :=
    (congrArg covered seen.same).trans seen.fits.covered_eq
  have size : digestLayout.size = 32 := rfl
  rw [storedDigest, seen.length, coveredIs, size, Nat.add_sub_cancel]

/-- A digest that is reported is the one that is stored. -/
theorem reported_digest_eq {input : Samples U8} {digest : Digest}
    (reported : getTargetEvidenceSnapshotPackageDigest sha256 input = (.Success, digest)) :
    digest = storedDigest input.items := by
  unfold getTargetEvidenceSnapshotPackageDigest at reported
  rcases inspected : inspectTargetEvidenceSnapshotPackage input with ⟨status, header⟩
  rw [inspected] at reported
  dsimp only at reported
  by_cases fine : status = .Success
  · subst fine
    rw [if_neg (by decide)] at reported
    split at reported
    · cases reported
    rename_i expected hashed
    split at reported
    · cases reported
    rename_i equal
    rw [Bool.not_eq_true', Bool.not_eq_false, isDigestEqual_iff] at equal
    rw [← (Prod.mk.inj reported).2, equal]
    exact storedDigest_eq (inspect_eq_success_iff.mp inspected)
  · rw [if_pos (bne_iff_ne.mpr fine)] at reported
    exact absurd (Prod.mk.inj reported).1 fine

/-- The digest of a package that is accepted is reported. -/
theorem digest_reported {input : Samples U8} {cpuBuffer : Samples CpuMatrixSample}
    {vmxBuffer : Samples VmxCapabilitySample}
    (success : (decodeTargetEvidenceSnapshotPackage sha256 input cpuBuffer vmxBuffer).status =
      .Success) :
    getTargetEvidenceSnapshotPackageDigest sha256 input =
      (.Success, storedDigest input.items) := by
  obtain ⟨header, expected, seen, _, _, hashed, stored, _⟩ := decode_success success
  have inspected := inspect_eq_success_iff.mpr seen
  have equal := isDigestEqual_iff.mpr stored
  unfold getTargetEvidenceSnapshotPackageDigest
  rw [inspected]
  dsimp only
  rw [if_neg (by decide), hashed]
  dsimp only
  rw [equal, if_neg (by decide), stored, storedDigest_eq seen]

/-- The codec over a provider of the hash. -/
structure PackageRoundTrip (sha256 : Sha256) : Prop where
  encodes : ∀ (snapshot : TargetEvidenceSnapshot) (cpuSamples : Samples CpuMatrixSample)
    (vmxSamples : Samples VmxCapabilitySample) (output : Samples U8),
    validateTargetEvidenceSnapshot (some snapshot) cpuSamples vmxSamples = .Success →
    output.isNull = false →
    output.count = getTargetEvidenceSnapshotWireSize cpuSamples.count vmxSamples.count →
    ∃ bytes, encodeTargetEvidenceSnapshotPackage sha256 (some snapshot) cpuSamples vmxSamples
        output =
          ⟨.Success, getTargetEvidenceSnapshotWireSize cpuSamples.count vmxSamples.count, bytes⟩ ∧
      ∀ (input : Samples U8) (cpuBuffer : Samples CpuMatrixSample)
        (vmxBuffer : Samples VmxCapabilitySample), input.isNull = false → input.items = bytes →
        Room cpuBuffer cpuSamples.count → Room vmxBuffer vmxSamples.count →
        decodeTargetEvidenceSnapshotPackage sha256 input cpuBuffer vmxBuffer =
          ⟨.Success, snapshot, cpuSamples.items ++ cpuBuffer.items.drop cpuSamples.items.length,
            cpuSamples.count, vmxSamples.items ++ vmxBuffer.items.drop vmxSamples.items.length,
            vmxSamples.count⟩
  reencodes : ∀ (input : Samples U8) (cpuBuffer : Samples CpuMatrixSample)
    (vmxBuffer : Samples VmxCapabilitySample) (outcome : DecodeOutcome) (output : Samples U8),
    decodeTargetEvidenceSnapshotPackage sha256 input cpuBuffer vmxBuffer = outcome →
    outcome.status = .Success → output.isNull = false →
    output.count =
      getTargetEvidenceSnapshotWireSize outcome.cpuSampleCount outcome.vmxSampleCount →
    encodeTargetEvidenceSnapshotPackage sha256 (some outcome.snapshot)
        (passOn cpuBuffer outcome.cpuSamples outcome.cpuSampleCount)
        (passOn vmxBuffer outcome.vmxSamples outcome.vmxSampleCount) output =
      ⟨.Success, input.count, input.items⟩
  reports : ∀ (input : Samples U8) (digest : Digest),
    getTargetEvidenceSnapshotPackageDigest sha256 input = (.Success, digest) →
    digest = storedDigest input.items
  reported : ∀ (input : Samples U8) (cpuBuffer : Samples CpuMatrixSample)
    (vmxBuffer : Samples VmxCapabilitySample),
    (decodeTargetEvidenceSnapshotPackage sha256 input cpuBuffer vmxBuffer).status = .Success →
    getTargetEvidenceSnapshotPackageDigest sha256 input = (.Success, storedDigest input.items)

/-- With a provider that is there, packages are read back as they were written
and written again as they were read, and carry the digest that is reported. -/
theorem package_round_trip (available : ∀ input, sha256 input ≠ none) :
    PackageRoundTrip sha256 where
  encodes snapshot cpuSamples vmxSamples output accepted there sized := by
    obtain ⟨digest, hashed⟩ :=
      Option.ne_none_iff_exists'.mp (available (packageOf snapshot cpuSamples vmxSamples))
    refine ⟨_, encode_eq accepted hashed there sized, ?_⟩
    intro input cpuBuffer vmxBuffer inputThere bytes cpuRoom vmxRoom
    rw [decode_eq accepted hashed inputThere bytes cpuRoom vmxRoom, overwrite_front,
      overwrite_front]
  reencodes _ _ _ _ _ decoded success there sized := reencode_eq decoded success there sized
  reports _ _ := reported_digest_eq
  reported _ _ _ := digest_reported

/-- The snapshot of an owner that has acquired the hardware. -/
def acquiredSnapshot : TargetEvidenceSnapshot :=
  ownerSnapshot .NativeIntelL0 (bootRootObservation .Clear) acquiredGate

/-- The hash of the package of that snapshot. -/
def acquiredDigest : Digest := fun index =>
  [0xA0, 0x7B, 0xDF, 0x60, 0x81, 0xE6, 0x17, 0x01, 0x6E, 0x58, 0x68, 0x14, 0x8F, 0x6E, 0x34, 0xB1,
    0xE6, 0xC5, 0x6B, 0x50, 0x8E, 0x45, 0xFF, 0x8A, 0xA3, 0x3F, 0xD6, 0xBB, 0x29, 0xE7, 0x1A,
    0x1E].getD index.val 0

/-- A provider that answers as it does for that package. -/
def acquiredSha256 : Sha256 := fun _ => some acquiredDigest

theorem package_round_trip_acquired :
    PackageRoundTrip acquiredSha256 ∧
      validateTargetEvidenceSnapshot (some acquiredSnapshot) (.null 0) (.null 0) = .Success ∧
      acquiredSha256 (packageOf acquiredSnapshot (.null 0) (.null 0)) = some acquiredDigest :=
  ⟨package_round_trip fun _ => Option.some_ne_none _, by decide, rfl⟩

end Decoding

end Knhv.Evidence
