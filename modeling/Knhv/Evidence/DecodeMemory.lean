import Knhv.Evidence.RoundTrip
import Knhv.Lib.Pointer

namespace Knhv.Evidence.Memory

open Knhv.Matrix Owner Snapshot Wire

/-- What a caller of the decoder passes: the pointers with what is behind them,
and the sizes. An output without a value is a null pointer. -/
structure Caller where
  input : Pointer U8
  inputSize : U32
  snapshot : Option TargetEvidenceSnapshot
  cpuSamples : Pointer CpuMatrixSample
  cpuCapacity : U32
  cpuSampleCount : Option U32
  vmxSamples : Pointer VmxCapabilitySample
  vmxCapacity : U32
  vmxSampleCount : Option U32

def clearDecodeOutputs (caller : Caller) : Caller :=
  { caller with
    snapshot := caller.snapshot.map fun _ => snapshotLayout.zero
    cpuSampleCount := caller.cpuSampleCount.map fun _ => 0
    vmxSampleCount := caller.vmxSampleCount.map fun _ => 0 }

def inspectTargetEvidenceSnapshotPackage (caller : Caller) :
    TargetEvidenceSnapshotCodecStatus × TargetEvidenceSnapshotWireHeader × Caller :=
  if caller.input.isNull then (.InvalidArgument, headerLayout.zero, caller)
  else if caller.inputSize < kTargetEvidenceSnapshotWireHeaderSize ||
      kTargetEvidenceSnapshotWireMaxSize < caller.inputSize then
    (.InvalidLength, headerLayout.zero, caller)
  else
    let (bytes, input) := caller.input.read ⟨0, headerLayout.size⟩
    let header := headerLayout.decode bytes
    (validateHeader header caller.inputSize, header, { caller with input })

/-- The hash reads the bytes that it is given, also where its provider fails. -/
def computeSha256 (sha256 : Sha256) (size : Nat) (caller : Caller) : Option Digest × Caller :=
  let (bytes, input) := caller.input.read ⟨0, size⟩
  (Wire.computeSha256 sha256 bytes, { caller with input })

def isDigestEqual (expected : Digest) (position : Nat) (caller : Caller) : Bool × Caller :=
  let (bytes, input) := caller.input.read ⟨position, digestLayout.size⟩
  (Wire.isDigestEqual expected (digestLayout.decode bytes), { caller with input })

/-- Samples that are copied from the payload to a buffer, where there are any. -/
def copySamples {α : Type} (layout : Layout α) (count position : Nat) (input : Pointer U8)
    (buffer : Pointer α) : Pointer U8 × Pointer α :=
  if count = 0 then (input, buffer)
  else
    let (bytes, input) := input.read ⟨position, count * layout.size⟩
    (input, buffer.write 0 (layout.decodeAll count bytes))

/-- Samples that are cleared in a buffer, where there are any. -/
def clearSamples {α : Type} (layout : Layout α) (count : Nat) (buffer : Pointer α) : Pointer α :=
  if count = 0 then buffer else buffer.write 0 (List.replicate count layout.zero)

/-- The samples that the validator is given, and looks at. -/
def passSamples {α : Type} (count : U32) (buffer : Pointer α) : Samples α × Pointer α :=
  if buffer.isNull then (.null count, buffer)
  else
    let span : Span := ⟨0, count.toNat⟩
    (.array (buffer.read span).1 (Pointer.length_load.trans_lt count.isLt), (buffer.read span).2)

/-- The payload is copied to the buffers of the caller before it is validated. -/
def copyPayload (header : TargetEvidenceSnapshotWireHeader) (caller : Caller) :
    TargetEvidenceSnapshot × Caller :=
  let cpuCount := header.cpuSampleCount.toNat
  let behindHeader := header.headerSize.toNat
  let behindSnapshot := behindHeader + snapshotLayout.size
  let behindCpuSamples := behindSnapshot + cpuCount * cpuSampleLayout.size
  let (bytes, input) := caller.input.read ⟨behindHeader, snapshotLayout.size⟩
  let (input, cpuSamples) :=
    copySamples cpuSampleLayout cpuCount behindSnapshot input caller.cpuSamples
  let (input, vmxSamples) :=
    copySamples vmxSampleLayout header.vmxSampleCount.toNat behindCpuSamples input caller.vmxSamples
  (snapshotLayout.decode bytes, { caller with input, cpuSamples, vmxSamples })

def finishPayload (header : TargetEvidenceSnapshotWireHeader) (decoded : TargetEvidenceSnapshot)
    (caller : Caller) : TargetEvidenceSnapshotCodecStatus × Caller :=
  let (cpuPassed, cpuSamples) := passSamples header.cpuSampleCount caller.cpuSamples
  let (vmxPassed, vmxSamples) := passSamples header.vmxSampleCount caller.vmxSamples
  if !isTargetEvidenceSnapshotValid (some decoded) cpuPassed vmxPassed then
    (.SnapshotInvalid, { caller with
      snapshot := caller.snapshot.map fun _ => snapshotLayout.zero
      cpuSamples := clearSamples cpuSampleLayout header.cpuSampleCount.toNat cpuSamples
      vmxSamples := clearSamples vmxSampleLayout header.vmxSampleCount.toNat vmxSamples })
  else
    (.Success, { caller with
      snapshot := caller.snapshot.map fun _ => decoded
      cpuSamples
      cpuSampleCount := caller.cpuSampleCount.map fun _ => header.cpuSampleCount
      vmxSamples
      vmxSampleCount := caller.vmxSampleCount.map fun _ => header.vmxSampleCount })

def decodePayload (header : TargetEvidenceSnapshotWireHeader) (caller : Caller) :
    TargetEvidenceSnapshotCodecStatus × Caller :=
  let copied := copyPayload header caller
  finishPayload header copied.1 copied.2

/-- The buffers are too small for what the header says, or they are not there. -/
def lacksRoom (caller : Caller) (header : TargetEvidenceSnapshotWireHeader) : Bool :=
  caller.cpuCapacity < header.cpuSampleCount || caller.vmxCapacity < header.vmxSampleCount ||
    header.cpuSampleCount != 0 && caller.cpuSamples.isNull ||
    header.vmxSampleCount != 0 && caller.vmxSamples.isNull

def decodeTargetEvidenceSnapshotPackage (sha256 : Sha256) (caller : Caller) :
    TargetEvidenceSnapshotCodecStatus × Caller :=
  let caller := clearDecodeOutputs caller
  if caller.snapshot.isNone || caller.cpuSampleCount.isNone || caller.vmxSampleCount.isNone then
    (.InvalidArgument, caller)
  else
    let (inspectStatus, header, caller) := inspectTargetEvidenceSnapshotPackage caller
    if inspectStatus != .Success then (inspectStatus, caller)
    else if lacksRoom caller header then (.BufferTooSmall, caller)
    else
      match computeSha256 sha256 (covered header) caller with
      | (none, caller) => (.DigestUnavailable, caller)
      | (some expected, caller) =>
        let (equal, caller) := isDigestEqual expected (covered header) caller
        if !equal then (.DigestMismatch, caller)
        else decodePayload header caller

/-- The caller after more of the input has been read. -/
def Caller.reading (caller : Caller) (spans : List Span) : Caller :=
  { caller with input := { caller.input with accesses := spans ++ caller.input.accesses } }

/-- The header that the first bytes of the input stand for. -/
def Caller.wireHeader (caller : Caller) : TargetEvidenceSnapshotWireHeader :=
  headerLayout.decode (Pointer.load caller.input.cells ⟨0, headerLayout.size⟩)

/-- Whatever has been accessed is there and within its size. -/
structure Safe (caller : Caller) : Prop where
  input : caller.input.Within caller.inputSize.toNat
  cpu : caller.cpuSamples.Within caller.cpuCapacity.toNat
  vmx : caller.vmxSamples.Within caller.vmxCapacity.toNat

/-- Spans of the input that may be read. -/
def Readable (caller : Caller) (spans : List Span) : Prop :=
  ∀ span ∈ spans, caller.input.isNull = false ∧ span.stop ≤ caller.inputSize.toNat

theorem Readable.cons {caller : Caller} {spans : List Span} {span : Span}
    (rest : Readable caller spans) (there : caller.input.isNull = false)
    (inside : span.stop ≤ caller.inputSize.toNat) : Readable caller (span :: spans) :=
  List.forall_mem_cons.mpr ⟨⟨there, inside⟩, rest⟩

theorem Safe.reading {caller : Caller} {spans : List Span} (safe : Safe caller)
    (readable : Readable caller spans) : Safe (caller.reading spans) where
  input span member := (List.mem_append.mp member).elim (readable span) (safe.input span)
  cpu := safe.cpu
  vmx := safe.vmx

theorem Safe.clearDecodeOutputs {caller : Caller} (safe : Safe caller) :
    Safe (clearDecodeOutputs caller) :=
  ⟨safe.input, safe.cpu, safe.vmx⟩

/-- The header of a package that goes on to be hashed. -/
structure Admitted (caller : Caller) (header : TargetEvidenceSnapshotWireHeader) : Prop where
  there : caller.input.isNull = false
  read : caller.wireHeader = header
  fits : Fits header.cpuSampleCount header.vmxSampleCount
  same : header = initializeHeader header.cpuSampleCount header.vmxSampleCount
  size : caller.inputSize.toNat =
    coveredSize header.cpuSampleCount header.vmxSampleCount + digestLayout.size
  cpuRoom : header.cpuSampleCount ≤ caller.cpuCapacity
  cpuThere : header.cpuSampleCount ≠ 0#32 → caller.cpuSamples.isNull = false
  vmxRoom : header.vmxSampleCount ≤ caller.vmxCapacity
  vmxThere : header.vmxSampleCount ≠ 0#32 → caller.vmxSamples.isNull = false

theorem Admitted.covered_eq {caller : Caller} {header : TargetEvidenceSnapshotWireHeader}
    (admitted : Admitted caller header) :
    covered header = coveredSize header.cpuSampleCount header.vmxSampleCount := by
  have size := admitted.fits.covered_eq
  rwa [← admitted.same] at size

theorem validateHeader_ne_snapshotInvalid {header : TargetEvidenceSnapshotWireHeader}
    {inputSize : U32} : validateHeader header inputSize ≠ .SnapshotInvalid := by
  unfold validateHeader
  dsimp only
  repeat' split
  all_goals
    intro invalid
    cases invalid

/-- An inspection reads no more than a header that is there. -/
theorem inspect_cases {caller after : Caller} {status : TargetEvidenceSnapshotCodecStatus}
    {header : TargetEvidenceSnapshotWireHeader}
    (inspected : inspectTargetEvidenceSnapshotPackage caller = (status, header, after)) :
    ∃ spans, after = caller.reading spans ∧ Readable caller spans ∧ status ≠ .SnapshotInvalid ∧
      (status = .Success → caller.input.isNull = false ∧ caller.wireHeader = header ∧
        validateHeader header caller.inputSize = .Success) := by
  unfold inspectTargetEvidenceSnapshotPackage at inspected
  split at inspected
  · cases inspected
    exact ⟨[], rfl, List.forall_mem_nil _, by decide, fun success => by cases success⟩
  rename_i there
  split at inspected
  · cases inspected
    exact ⟨[], rfl, List.forall_mem_nil _, by decide, fun success => by cases success⟩
  rename_i sized
  cases inspected
  have present : caller.input.isNull = false := Bool.eq_false_iff.mpr there
  refine ⟨[⟨0, headerLayout.size⟩], rfl, ?_, validateHeader_ne_snapshotInvalid,
    fun success => ⟨present, rfl, success⟩⟩
  simp only [Bool.or_eq_true, decide_eq_true_eq, not_or, BitVec.not_lt] at sized
  have enough : 64 ≤ caller.inputSize.toNat := sized.1
  exact Readable.cons (List.forall_mem_nil _) present enough

theorem admitted_of_room {caller : Caller} {header : TargetEvidenceSnapshotWireHeader}
    (there : caller.input.isNull = false) (read : caller.wireHeader = header)
    (valid : validateHeader header caller.inputSize = .Success)
    (room : ¬lacksRoom caller header = true) : Admitted caller header := by
  obtain ⟨fits, same, size⟩ := eq_initializeHeader_of_valid valid
  simp only [lacksRoom, Bool.or_eq_true, Bool.and_eq_true, decide_eq_true_eq, bne_iff_ne, not_or,
    not_and, BitVec.not_lt] at room
  obtain ⟨⟨⟨cpuRoom, vmxRoom⟩, cpuThere⟩, vmxThere⟩ := room
  have whole : caller.inputSize.toNat =
      coveredSize header.cpuSampleCount header.vmxSampleCount + digestLayout.size :=
    (congrArg BitVec.toNat size).trans fits.toNat_envelope
  exact ⟨there, read, fits, same, whole, cpuRoom,
    fun filled => Bool.eq_false_iff.mpr (cpuThere filled), vmxRoom,
    fun filled => Bool.eq_false_iff.mpr (vmxThere filled)⟩

/-- Up to the payload a decoder only reads: it gives up, with another status than
the one for a payload that is not valid, or it goes on to copy. -/
theorem decode_cases (sha256 : Sha256) (caller : Caller) :
    ∃ spans, Readable caller spans ∧
      ((∃ status, decodeTargetEvidenceSnapshotPackage sha256 caller =
          (status, (clearDecodeOutputs caller).reading spans) ∧
          status ≠ .Success ∧ status ≠ .SnapshotInvalid) ∨
        ∃ header, Admitted caller header ∧
          decodeTargetEvidenceSnapshotPackage sha256 caller =
            decodePayload header ((clearDecodeOutputs caller).reading spans)) := by
  unfold decodeTargetEvidenceSnapshotPackage
  dsimp only
  split
  · exact ⟨[], List.forall_mem_nil _, .inl ⟨_, rfl, by decide, by decide⟩⟩
  obtain ⟨status, header, after, inspected⟩ :
      ∃ status header after, inspectTargetEvidenceSnapshotPackage (clearDecodeOutputs caller) =
        (status, header, after) := ⟨_, _, _, rfl⟩
  obtain ⟨spans, looked, (readable : Readable caller spans), noPayload, valid⟩ :=
    inspect_cases inspected
  rw [inspected, looked]
  dsimp only
  split
  · rename_i failed
    exact ⟨spans, readable, .inl ⟨status, rfl, by simpa using failed, noPayload⟩⟩
  rename_i success
  obtain ⟨there, read, validated⟩ := valid (by simpa using success)
  split
  · exact ⟨spans, readable, .inl ⟨_, rfl, by decide, by decide⟩⟩
  rename_i room
  have admitted : Admitted caller header := admitted_of_room there read validated room
  have hashed : Readable caller (⟨0, covered header⟩ :: spans) := by
    refine readable.cons there ?_
    rw [admitted.covered_eq, admitted.size, Span.stop_mk, Nat.zero_add]
    exact Nat.le_add_right _ _
  have compared : Readable caller
      (⟨covered header, digestLayout.size⟩ :: ⟨0, covered header⟩ :: spans) := by
    refine hashed.cons there ?_
    rw [admitted.covered_eq, admitted.size, Span.stop_mk]
  cases digest : computeSha256 sha256 (covered header)
      ((clearDecodeOutputs caller).reading spans) with
  | mk expected after =>
    have read : after = (clearDecodeOutputs caller).reading (⟨0, covered header⟩ :: spans) :=
      (congrArg Prod.snd digest).symm
    rw [read]
    cases expected with
    | none => exact ⟨_, hashed, .inl ⟨_, rfl, by decide, by decide⟩⟩
    | some expected =>
      dsimp only
      split
      · exact ⟨_, compared, .inl ⟨_, rfl, by decide, by decide⟩⟩
      · exact ⟨_, compared, .inr ⟨header, admitted, rfl⟩⟩

section Samples

variable {α : Type} {layout : Layout α} {count position size : Nat} {input : Pointer U8}
  {buffer : Pointer α}

@[simp] theorem copySamples_input_isNull :
    (copySamples layout count position input buffer).1.isNull = input.isNull := by
  unfold copySamples
  split <;> rfl

@[simp] theorem copySamples_input_cells :
    (copySamples layout count position input buffer).1.cells = input.cells := by
  unfold copySamples
  split <;> rfl

@[simp] theorem copySamples_isNull :
    (copySamples layout count position input buffer).2.isNull = buffer.isNull := by
  unfold copySamples
  split <;> rfl

@[simp] theorem copySamples_cells :
    (copySamples layout count position input buffer).2.cells =
      Pointer.store buffer.cells 0 (layout.decodeAll count
        (Pointer.load input.cells ⟨position, count * layout.size⟩)) := by
  unfold copySamples
  split
  · rename_i empty
    rw [empty, Layout.decodeAll, Pointer.store_nil]
  · rfl

theorem copySamples_reads (within : input.Within size) (there : input.isNull = false)
    (inside : position + count * layout.size ≤ size) :
    (copySamples layout count position input buffer).1.Within size := by
  unfold copySamples
  split
  · exact within
  · exact within.read there inside

theorem copySamples_writes (within : buffer.Within size) (room : count ≤ size)
    (there : count ≠ 0 → buffer.isNull = false) :
    (copySamples layout count position input buffer).2.Within size := by
  unfold copySamples
  split
  · exact within
  · rename_i filled
    refine within.write (there filled) ?_
    rw [Layout.length_decodeAll, Nat.zero_add]
    exact room

@[simp] theorem clearSamples_isNull : (clearSamples layout count buffer).isNull = buffer.isNull := by
  unfold clearSamples
  split <;> rfl

@[simp] theorem clearSamples_cells : (clearSamples layout count buffer).cells =
    Pointer.store buffer.cells 0 (List.replicate count layout.zero) := by
  unfold clearSamples
  split
  · rename_i empty
    rw [empty, List.replicate_zero, Pointer.store_nil]
  · rfl

theorem clearSamples_writes (within : buffer.Within size) (room : count ≤ size)
    (there : count ≠ 0 → buffer.isNull = false) :
    (clearSamples layout count buffer).Within size := by
  unfold clearSamples
  split
  · exact within
  · rename_i filled
    refine within.write (there filled) ?_
    rw [List.length_replicate, Nat.zero_add]
    exact room

@[simp] theorem passSamples_isNull {passed : U32} :
    (passSamples passed buffer).2.isNull = buffer.isNull := by
  unfold passSamples
  split <;> rfl

@[simp] theorem passSamples_cells {passed : U32} :
    (passSamples passed buffer).2.cells = buffer.cells := by
  unfold passSamples
  split <;> rfl

theorem passSamples_reads {passed : U32} (within : buffer.Within size)
    (room : passed.toNat ≤ size) : (passSamples passed buffer).2.Within size := by
  unfold passSamples
  split
  · exact within
  · rename_i there
    refine within.read (Bool.eq_false_iff.mpr there) ?_
    rw [Span.stop_mk, Nat.zero_add]
    exact room

end Samples

section Payload

variable {caller : Caller} {header : TargetEvidenceSnapshotWireHeader}

theorem Admitted.headerSize (admitted : Admitted caller header) : header.headerSize.toNat = 64 := by
  rw [admitted.same]
  rfl

/-- The spans of the payload end where the digest starts. -/
theorem Admitted.payload_inside (admitted : Admitted caller header) :
    header.headerSize.toNat + snapshotLayout.size +
        header.cpuSampleCount.toNat * cpuSampleLayout.size +
        header.vmxSampleCount.toNat * vmxSampleLayout.size ≤ caller.inputSize.toNat := by
  have snapshotSize : snapshotLayout.size = 544 := rfl
  have cpuSize : cpuSampleLayout.size = 112 := rfl
  have vmxSize : vmxSampleLayout.size = 296 := rfl
  rw [admitted.headerSize, admitted.size, coveredSize, snapshotSize, cpuSize, vmxSize]
  omega

theorem Admitted.cpuFilled (admitted : Admitted caller header)
    (filled : header.cpuSampleCount.toNat ≠ 0) : caller.cpuSamples.isNull = false := by
  refine admitted.cpuThere fun empty => filled ?_
  rw [empty, BitVec.toNat_zero]

theorem Admitted.vmxFilled (admitted : Admitted caller header)
    (filled : header.vmxSampleCount.toNat ≠ 0) : caller.vmxSamples.isNull = false := by
  refine admitted.vmxThere fun empty => filled ?_
  rw [empty, BitVec.toNat_zero]

theorem Safe.copyPayload (safe : Safe caller) (admitted : Admitted caller header) :
    Safe (copyPayload header caller).2 where
  input := by
    have inside := admitted.payload_inside
    have snapshotRead : (caller.input.read
        ⟨header.headerSize.toNat, snapshotLayout.size⟩).2.Within caller.inputSize.toNat :=
      safe.input.read admitted.there (by rw [Span.stop_mk]; omega)
    have cpuRead : (copySamples cpuSampleLayout header.cpuSampleCount.toNat
        (header.headerSize.toNat + snapshotLayout.size)
        (caller.input.read ⟨header.headerSize.toNat, snapshotLayout.size⟩).2
        caller.cpuSamples).1.Within caller.inputSize.toNat :=
      copySamples_reads snapshotRead admitted.there (by omega)
    exact copySamples_reads cpuRead (copySamples_input_isNull.trans admitted.there) inside
  cpu := copySamples_writes safe.cpu admitted.cpuRoom admitted.cpuFilled
  vmx := copySamples_writes safe.vmx admitted.vmxRoom admitted.vmxFilled

theorem Safe.finishPayload {decoded : TargetEvidenceSnapshot} (safe : Safe caller)
    (admitted : Admitted caller header) : Safe (finishPayload header decoded caller).2 := by
  have cpuPassed := passSamples_reads safe.cpu admitted.cpuRoom
  have vmxPassed := passSamples_reads safe.vmx admitted.vmxRoom
  unfold Memory.finishPayload
  dsimp only
  split
  · refine ⟨safe.input, ?_, ?_⟩
    · refine clearSamples_writes cpuPassed admitted.cpuRoom fun filled => ?_
      rw [passSamples_isNull, admitted.cpuFilled filled]
    · refine clearSamples_writes vmxPassed admitted.vmxRoom fun filled => ?_
      rw [passSamples_isNull, admitted.vmxFilled filled]
  · exact ⟨safe.input, cpuPassed, vmxPassed⟩

/-- Copying to the buffers leaves the package admitted. -/
theorem Admitted.copyPayload (admitted : Admitted caller header) :
    Admitted (copyPayload header caller).2 header where
  there := by
    simpa [Memory.copyPayload, Pointer.read] using admitted.there
  read := by
    simpa [Memory.copyPayload, Caller.wireHeader, Pointer.read] using admitted.read
  fits := admitted.fits
  same := admitted.same
  size := admitted.size
  cpuRoom := admitted.cpuRoom
  cpuThere filled := by
    simpa [Memory.copyPayload] using admitted.cpuThere filled
  vmxRoom := admitted.vmxRoom
  vmxThere filled := by
    simpa [Memory.copyPayload] using admitted.vmxThere filled

theorem Safe.decodePayload (safe : Safe caller) (admitted : Admitted caller header) :
    Safe (Memory.decodePayload header caller).2 := by
  have copied := safe.copyPayload admitted
  have still := admitted.copyPayload
  unfold Memory.decodePayload
  exact copied.finishPayload still

/-- The first cells are cleared, and the others are as they were. -/
def PrefixCleared {α : Type} (zero : α) (count : Nat) (before after : Nat → α) : Prop :=
  ∀ index, after index = if index < count then zero else before index

theorem clearSamples_copied {α : Type} {layout : Layout α} {count position : Nat} {passed : U32}
    {input : Pointer U8} {buffer : Pointer α} :
    PrefixCleared layout.zero count buffer.cells
      (clearSamples layout count
        (passSamples passed (copySamples layout count position input buffer).2).2).cells := by
  intro index
  rw [clearSamples_cells, Pointer.store_replicate, passSamples_cells, copySamples_cells]
  split
  · rfl
  · rename_i behind
    refine Pointer.store_behind ?_
    rw [Layout.length_decodeAll]
    exact Nat.not_lt.mp behind

/-- The cells from a size on are as they were. -/
def SameBeyond {α : Type} (size : Nat) (before after : Nat → α) : Prop :=
  ∀ index, size ≤ index → after index = before index

theorem PrefixCleared.beyond {α : Type} {zero : α} {count size : Nat} {before after : Nat → α}
    (cleared : PrefixCleared zero count before after) (room : count ≤ size) :
    SameBeyond size before after := by
  intro index above
  rw [cleared index, if_neg (by omega)]

theorem copySamples_beyond {α : Type} {layout : Layout α} {count position size : Nat}
    {passed : U32} {input : Pointer U8} {buffer : Pointer α} (room : count ≤ size) :
    SameBeyond size buffer.cells
      (passSamples passed (copySamples layout count position input buffer).2).2.cells := by
  intro index above
  rw [passSamples_cells, copySamples_cells]
  refine Pointer.store_behind ?_
  rw [Layout.length_decodeAll]
  exact room.trans above

/-- What a decoder that does not succeed leaves behind, and where any decoder has
looked and written. -/
structure FailsCleanly (before : Caller) (status : TargetEvidenceSnapshotCodecStatus)
    (after : Caller) : Prop where
  outputs : status ≠ .Success →
    after.snapshot = before.snapshot.map (fun _ => snapshotLayout.zero) ∧
    after.cpuSampleCount = before.cpuSampleCount.map (fun _ => 0#32) ∧
    after.vmxSampleCount = before.vmxSampleCount.map (fun _ => 0#32)
  untouched : status ≠ .Success → status ≠ .SnapshotInvalid →
    after.cpuSamples.cells = before.cpuSamples.cells ∧
    after.vmxSamples.cells = before.vmxSamples.cells
  zeroed : status = .SnapshotInvalid →
    PrefixCleared cpuSampleLayout.zero before.wireHeader.cpuSampleCount.toNat
      before.cpuSamples.cells after.cpuSamples.cells ∧
    PrefixCleared vmxSampleLayout.zero before.wireHeader.vmxSampleCount.toNat
      before.vmxSamples.cells after.vmxSamples.cells
  sizes : after.inputSize = before.inputSize ∧ after.cpuCapacity = before.cpuCapacity ∧
    after.vmxCapacity = before.vmxCapacity
  beyond : SameBeyond before.cpuCapacity.toNat before.cpuSamples.cells after.cpuSamples.cells ∧
    SameBeyond before.vmxCapacity.toNat before.vmxSamples.cells after.vmxSamples.cells
  safe : Safe before → Safe after

theorem Admitted.reading (admitted : Admitted caller header) (spans : List Span) :
    Admitted ((clearDecodeOutputs caller).reading spans) header :=
  ⟨admitted.there, admitted.read, admitted.fits, admitted.same, admitted.size, admitted.cpuRoom,
    admitted.cpuThere, admitted.vmxRoom, admitted.vmxThere⟩

theorem decodePayload_cleanly (admitted : Admitted caller header) {spans : List Span}
    (readable : Readable caller spans) {status : TargetEvidenceSnapshotCodecStatus}
    {after : Caller}
    (decoded : decodePayload header ((clearDecodeOutputs caller).reading spans) =
      (status, after)) : FailsCleanly caller status after := by
  have read := admitted.reading spans
  have safe : Safe caller → Safe after := by
    intro safe
    have finished := (safe.clearDecodeOutputs.reading readable).decodePayload read
    rwa [decoded] at finished
  unfold decodePayload finishPayload at decoded
  dsimp only at decoded
  split at decoded
  · cases decoded
    refine ⟨fun _ => ⟨?_, rfl, rfl⟩, fun _ other => absurd rfl other, fun _ => ?_,
      ⟨rfl, rfl, rfl⟩, ⟨clearSamples_copied.beyond admitted.cpuRoom,
        clearSamples_copied.beyond admitted.vmxRoom⟩, safe⟩
    · exact Option.map_map ..
    · rw [admitted.read]
      exact ⟨clearSamples_copied, clearSamples_copied⟩
  · cases decoded
    exact ⟨fun failed => absurd rfl failed, fun failed => absurd rfl failed,
      (by intro invalid; cases invalid), ⟨rfl, rfl, rfl⟩,
      ⟨copySamples_beyond admitted.cpuRoom, copySamples_beyond admitted.vmxRoom⟩, safe⟩

end Payload

/-- Decoding fails cleanly, whatever the bytes, the sizes and the outputs are. -/
theorem decode_fails_cleanly (sha256 : Sha256) (caller : Caller) :
    FailsCleanly caller (decodeTargetEvidenceSnapshotPackage sha256 caller).1
      (decodeTargetEvidenceSnapshotPackage sha256 caller).2 := by
  obtain ⟨spans, readable, ⟨status, gaveUp, failed, noPayload⟩ | ⟨header, admitted, copied⟩⟩ :=
    decode_cases sha256 caller
  · rw [gaveUp]
    refine ⟨fun _ => ⟨rfl, rfl, rfl⟩, fun _ _ => ⟨rfl, rfl⟩, fun invalid => absurd invalid noPayload,
      ⟨rfl, rfl, rfl⟩, ⟨fun _ _ => rfl, fun _ _ => rfl⟩, fun safe => ?_⟩
    exact safe.clearDecodeOutputs.reading readable
  · rw [copied]
    exact decodePayload_cleanly admitted readable Prod.mk.eta.symm

section Refinement

/-- The bytes that a caller passes. -/
def Caller.package (caller : Caller) : Samples U8 := (passSamples caller.inputSize caller.input).1

def Caller.cpuBuffer (caller : Caller) : Samples CpuMatrixSample :=
  (passSamples caller.cpuCapacity caller.cpuSamples).1

def Caller.vmxBuffer (caller : Caller) : Samples VmxCapabilitySample :=
  (passSamples caller.vmxCapacity caller.vmxSamples).1

/-- The outputs of a caller hold what a decoder of lists leaves in them. -/
structure Carries (caller : Caller) (outcome : DecodeOutcome) : Prop where
  snapshot : caller.snapshot = some outcome.snapshot
  cpuSamples : caller.cpuBuffer.items = outcome.cpuSamples
  cpuSampleCount : caller.cpuSampleCount = some outcome.cpuSampleCount
  vmxSamples : caller.vmxBuffer.items = outcome.vmxSamples
  vmxSampleCount : caller.vmxSampleCount = some outcome.vmxSampleCount

variable {α : Type} {buffer : Pointer α} {count : U32}

@[simp] theorem passSamples_count : (passSamples count buffer).1.count = count := by
  unfold passSamples
  split
  · rfl
  · have length : (buffer.read ⟨0, count.toNat⟩).1.length = count.toNat := Pointer.length_load
    simp [Samples.count, length]

@[simp] theorem passSamples_null : (passSamples count buffer).1.isNull = buffer.isNull := by
  unfold passSamples
  split
  · rename_i absent
    rw [absent]
    rfl
  · rename_i there
    rw [Bool.eq_false_iff.mpr there]
    rfl

theorem passSamples_items (there : buffer.isNull = false) :
    (passSamples count buffer).1.items = Pointer.load buffer.cells ⟨0, count.toNat⟩ := by
  rw [passSamples, there]
  rfl

theorem passSamples_absent (absent : buffer.isNull = true) :
    (passSamples count buffer).1 = .null count := by
  rw [passSamples, if_pos absent]

variable {layout : Layout α} {capacity : U32} {position : Nat} {input : Pointer U8}

/-- What is stored in a buffer is what is written over its list. -/
theorem passSamples_stored {stored : Pointer α} {values : List α}
    (there : count ≠ 0#32 → buffer.isNull = false) (room : count ≤ capacity)
    (length : values.length = count.toNat) (same : stored.isNull = buffer.isNull)
    (cells : stored.cells = Pointer.store buffer.cells 0 values) :
    (passSamples capacity stored).1.items =
      Layout.overwrite (passSamples capacity buffer).1.items 0 values := by
  cases present : buffer.isNull with
  | false =>
    have fits : values.length ≤ capacity.toNat := length.trans_le room
    rw [passSamples_items (same.trans present), passSamples_items present, cells,
      Pointer.load_store fits, overwrite_front]
  | true =>
    have empty : count = 0#32 := by
      by_contra filled
      rw [there filled] at present
      cases present
    rw [empty, BitVec.toNat_zero] at length
    rw [passSamples_absent (same.trans present), passSamples_absent present,
      List.length_eq_zero_iff.mp length]
    rfl

theorem passSamples_congr {other : Pointer α} (same : other.isNull = buffer.isNull)
    (cells : other.cells = buffer.cells) :
    (passSamples capacity other).1 = (passSamples capacity buffer).1 := by
  cases other
  cases buffer
  cases same
  cases cells
  unfold passSamples
  split <;> rfl

/-- What is passed on from a buffer is what is passed on from its list. -/
theorem copySamples_passed :
    (passSamples count (copySamples layout count.toNat position input buffer).2).1 =
      passOn (passSamples capacity buffer).1
        (Layout.overwrite (passSamples capacity buffer).1.items 0
          (layout.decodeAll count.toNat
            (Pointer.load input.cells ⟨position, count.toNat * layout.size⟩))) count := by
  have length := layout.length_decodeAll count.toNat
    (Pointer.load input.cells ⟨position, count.toNat * layout.size⟩)
  cases present : buffer.isNull with
  | false =>
    have copied : (copySamples layout count.toNat position input buffer).2.isNull = false :=
      copySamples_isNull.trans present
    have stored : Pointer.load (copySamples layout count.toNat position input buffer).2.cells
        ⟨0, count.toNat⟩ = layout.decodeAll count.toNat
          (Pointer.load input.cells ⟨position, count.toNat * layout.size⟩) := by
      rw [copySamples_cells]
      exact Pointer.load_store_whole length
    have taken : ∀ items, (Layout.overwrite items 0 (layout.decodeAll count.toNat
        (Pointer.load input.cells ⟨position, count.toNat * layout.size⟩))).take count.toNat =
        layout.decodeAll count.toNat
          (Pointer.load input.cells ⟨position, count.toNat * layout.size⟩) := by
      intro items
      rw [overwrite_front, List.take_left' length]
    simp only [passSamples, present, copied, Bool.false_eq_true, if_false, passOn, taken]
    exact (Samples.array.injEq ..).mpr stored
  | true =>
    have copied : (copySamples layout count.toNat position input buffer).2.isNull = true :=
      copySamples_isNull.trans present
    rw [passSamples_absent copied, passSamples_absent present]
    rfl

variable {caller : Caller} {header : TargetEvidenceSnapshotWireHeader} {sha256 : Sha256}

theorem Admitted.load_eq (admitted : Admitted caller header) {start length : Nat}
    (inside : start + length ≤ caller.inputSize.toNat) :
    Pointer.load caller.input.cells ⟨start, length⟩ =
      (caller.package.items.drop start).take length := by
  rw [Caller.package, passSamples_items admitted.there, Pointer.load_within inside]

theorem Admitted.length_package (admitted : Admitted caller header) :
    caller.package.items.length = caller.inputSize.toNat := by
  rw [Caller.package, passSamples_items admitted.there, Pointer.length_load]

/-- The samples of the payload as they are read from a list of bytes. -/
def Caller.listedCpu (caller : Caller) (header : TargetEvidenceSnapshotWireHeader) :
    List CpuMatrixSample :=
  cpuSampleLayout.decodeAll header.cpuSampleCount.toNat
    ((caller.package.items.drop header.headerSize.toNat).drop snapshotLayout.size)

def Caller.listedVmx (caller : Caller) (header : TargetEvidenceSnapshotWireHeader) :
    List VmxCapabilitySample :=
  vmxSampleLayout.decodeAll header.vmxSampleCount.toNat
    (((caller.package.items.drop header.headerSize.toNat).drop snapshotLayout.size).drop
      (header.cpuSampleCount.toNat * cpuSampleLayout.size))

/-- The buffers hold the samples of the payload, in front of what was there. -/
structure Copied (header : TargetEvidenceSnapshotWireHeader) (before after : Caller) : Prop where
  cpuPassed : (passSamples header.cpuSampleCount after.cpuSamples).1 =
    passOn before.cpuBuffer (Layout.overwrite before.cpuBuffer.items 0 (before.listedCpu header))
      header.cpuSampleCount
  cpuItems : after.cpuBuffer.items =
    Layout.overwrite before.cpuBuffer.items 0 (before.listedCpu header)
  vmxPassed : (passSamples header.vmxSampleCount after.vmxSamples).1 =
    passOn before.vmxBuffer (Layout.overwrite before.vmxBuffer.items 0 (before.listedVmx header))
      header.vmxSampleCount
  vmxItems : after.vmxBuffer.items =
    Layout.overwrite before.vmxBuffer.items 0 (before.listedVmx header)

theorem Admitted.cpu_read (admitted : Admitted caller header) (input : Pointer U8)
    (same : input.cells = caller.input.cells) :
    cpuSampleLayout.decodeAll header.cpuSampleCount.toNat
        (Pointer.load input.cells ⟨header.headerSize.toNat + snapshotLayout.size,
          header.cpuSampleCount.toNat * cpuSampleLayout.size⟩) = caller.listedCpu header := by
  have inside := admitted.payload_inside
  have length := admitted.length_package
  rw [same, admitted.load_eq (by omega), Layout.decodeAll_take, Caller.listedCpu, List.drop_drop]
  rw [List.length_drop]
  omega

theorem Admitted.vmx_read (admitted : Admitted caller header) (input : Pointer U8)
    (same : input.cells = caller.input.cells) :
    vmxSampleLayout.decodeAll header.vmxSampleCount.toNat
        (Pointer.load input.cells
          ⟨header.headerSize.toNat + snapshotLayout.size +
              header.cpuSampleCount.toNat * cpuSampleLayout.size,
            header.vmxSampleCount.toNat * vmxSampleLayout.size⟩) = caller.listedVmx header := by
  have inside := admitted.payload_inside
  have length := admitted.length_package
  rw [same, admitted.load_eq inside, Layout.decodeAll_take, Caller.listedVmx, List.drop_drop,
    List.drop_drop, Nat.add_assoc]
  rw [List.length_drop]
  omega

theorem copyPayload_snapshot (admitted : Admitted caller header) :
    (copyPayload header caller).1 =
      snapshotLayout.decode (caller.package.items.drop header.headerSize.toNat) := by
  have inside := admitted.payload_inside
  have length := admitted.length_package
  change snapshotLayout.decode (Pointer.load caller.input.cells
    ⟨header.headerSize.toNat, snapshotLayout.size⟩) = _
  rw [admitted.load_eq (by omega), Layout.decode_take]
  rw [List.length_drop]
  omega

theorem copyPayload_copied (admitted : Admitted caller header) :
    Copied header caller (copyPayload header caller).2 := by
  have cpuRead := admitted.cpu_read
    (caller.input.read ⟨header.headerSize.toNat, snapshotLayout.size⟩).2 rfl
  have vmxRead := admitted.vmx_read
    (copySamples cpuSampleLayout header.cpuSampleCount.toNat
      (header.headerSize.toNat + snapshotLayout.size)
      (caller.input.read ⟨header.headerSize.toNat, snapshotLayout.size⟩).2 caller.cpuSamples).1
    copySamples_input_cells
  refine ⟨?_, ?_, ?_, ?_⟩
  · rw [← cpuRead]
    exact copySamples_passed
  · rw [← cpuRead]
    exact passSamples_stored admitted.cpuThere admitted.cpuRoom (Layout.length_decodeAll ..)
      copySamples_isNull copySamples_cells
  · rw [← vmxRead]
    exact copySamples_passed
  · rw [← vmxRead]
    exact passSamples_stored admitted.vmxThere admitted.vmxRoom (Layout.length_decodeAll ..)
      copySamples_isNull copySamples_cells

/-- Samples that are cleared are zeroes over the list of the buffer. -/
theorem clearSamples_items {passed : U32} (there : count ≠ 0#32 → buffer.isNull = false)
    (room : count ≤ capacity) :
    (passSamples capacity
        (clearSamples layout count.toNat (passSamples passed buffer).2)).1.items =
      Layout.overwrite (passSamples capacity buffer).1.items 0
        (List.replicate count.toNat layout.zero) := by
  refine passSamples_stored there room List.length_replicate ?_ ?_
  · rw [clearSamples_isNull, passSamples_isNull]
  · rw [clearSamples_cells, passSamples_cells]

/-- A decoder of memory goes on from an admitted package as the one of lists. -/
theorem decodePayload_refines (admitted : Admitted caller header)
    (snapshot : caller.snapshot = some snapshotLayout.zero)
    (cpuCount : caller.cpuSampleCount = some 0#32) (vmxCount : caller.vmxSampleCount = some 0#32) :
    (decodePayload header caller).1 =
        (readPayload header caller.package.items caller.cpuBuffer caller.vmxBuffer).status ∧
      Carries (decodePayload header caller).2
        (readPayload header caller.package.items caller.cpuBuffer caller.vmxBuffer) := by
  obtain ⟨cpuPassed, cpuItems, vmxPassed, vmxItems⟩ := copyPayload_copied admitted
  have decoded := copyPayload_snapshot admitted
  have still := admitted.copyPayload
  unfold decodePayload finishPayload readPayload
  dsimp only
  rw [decoded, cpuPassed, vmxPassed]
  split
  · rename_i invalid
    rw [Caller.listedCpu, Caller.listedVmx] at invalid
    rw [if_pos invalid]
    refine ⟨rfl, ?_, ?_, cpuCount, ?_, vmxCount⟩
    · exact congrArg (Option.map fun _ => snapshotLayout.zero) snapshot
    · exact (clearSamples_items still.cpuThere still.cpuRoom).trans
        (congrArg (Layout.overwrite · 0 _) cpuItems)
    · exact (clearSamples_items still.vmxThere still.vmxRoom).trans
        (congrArg (Layout.overwrite · 0 _) vmxItems)
  · rename_i valid
    rw [Caller.listedCpu, Caller.listedVmx] at valid
    rw [if_neg valid]
    refine ⟨rfl, ?_, ?_, ?_, ?_, ?_⟩
    · exact congrArg (Option.map fun _ =>
        snapshotLayout.decode (caller.package.items.drop header.headerSize.toNat)) snapshot
    · exact (congrArg Samples.items
        (passSamples_congr passSamples_isNull passSamples_cells)).trans cpuItems
    · exact congrArg (Option.map fun _ => header.cpuSampleCount) cpuCount
    · exact (congrArg Samples.items
        (passSamples_congr passSamples_isNull passSamples_cells)).trans vmxItems
    · exact congrArg (Option.map fun _ => header.vmxSampleCount) vmxCount

theorem package_count : caller.package.count = caller.inputSize := passSamples_count

theorem package_isNull : caller.package.isNull = caller.input.isNull := passSamples_null

theorem reading_package {spans : List Span} :
    ((clearDecodeOutputs caller).reading spans).package = caller.package :=
  passSamples_congr rfl rfl

theorem reading_cpuBuffer {spans : List Span} :
    ((clearDecodeOutputs caller).reading spans).cpuBuffer = caller.cpuBuffer := rfl

theorem reading_vmxBuffer {spans : List Span} :
    ((clearDecodeOutputs caller).reading spans).vmxBuffer = caller.vmxBuffer := rfl

/-- Both inspections see the same header. -/
theorem inspect_refines :
    Evidence.inspectTargetEvidenceSnapshotPackage caller.package =
      ((inspectTargetEvidenceSnapshotPackage caller).1,
        (inspectTargetEvidenceSnapshotPackage caller).2.1) := by
  unfold Evidence.inspectTargetEvidenceSnapshotPackage inspectTargetEvidenceSnapshotPackage
  rw [package_isNull, package_count]
  split
  · rfl
  rename_i there
  split
  · rfl
  rename_i sized
  have present : caller.input.isNull = false := Bool.eq_false_iff.mpr there
  simp only [Bool.or_eq_true, decide_eq_true_eq, not_or, BitVec.not_lt] at sized
  have enough : 64 ≤ caller.inputSize.toNat := sized.1
  have header : headerLayout.decode caller.package.items =
      headerLayout.decode (Pointer.load caller.input.cells ⟨0, headerLayout.size⟩) := by
    have length : (Pointer.load caller.input.cells ⟨0, caller.inputSize.toNat⟩).length =
        caller.inputSize.toNat := Pointer.length_load
    have loaded : Pointer.load caller.input.cells ⟨0, headerLayout.size⟩ =
        ((Pointer.load caller.input.cells ⟨0, caller.inputSize.toNat⟩).drop 0).take
          headerLayout.size := Pointer.load_within ((Nat.zero_add _).trans_le enough)
    rw [Caller.package, passSamples_items present, loaded, List.drop_zero, Layout.decode_take]
    rw [length]
    exact enough
  rw [header]
  rfl

/-- Where its outputs are there, the decoder of memory does what the one of lists
does. -/
theorem decode_refines (snapshot : caller.snapshot.isSome = true)
    (cpuCount : caller.cpuSampleCount.isSome = true)
    (vmxCount : caller.vmxSampleCount.isSome = true) :
    (decodeTargetEvidenceSnapshotPackage sha256 caller).1 =
        (Evidence.decodeTargetEvidenceSnapshotPackage sha256 caller.package caller.cpuBuffer
          caller.vmxBuffer).status ∧
      Carries (decodeTargetEvidenceSnapshotPackage sha256 caller).2
        (Evidence.decodeTargetEvidenceSnapshotPackage sha256 caller.package caller.cpuBuffer
          caller.vmxBuffer) := by
  obtain ⟨oldSnapshot, snapshotThere⟩ := Option.isSome_iff_exists.mp snapshot
  obtain ⟨oldCpuCount, cpuCountThere⟩ := Option.isSome_iff_exists.mp cpuCount
  obtain ⟨oldVmxCount, vmxCountThere⟩ := Option.isSome_iff_exists.mp vmxCount
  have clearedSnapshot : (clearDecodeOutputs caller).snapshot = some snapshotLayout.zero :=
    congrArg (Option.map fun _ => snapshotLayout.zero) snapshotThere
  have clearedCpu : (clearDecodeOutputs caller).cpuSampleCount = some 0#32 :=
    congrArg (Option.map fun _ => 0#32) cpuCountThere
  have clearedVmx : (clearDecodeOutputs caller).vmxSampleCount = some 0#32 :=
    congrArg (Option.map fun _ => 0#32) vmxCountThere
  have carries : ∀ spans status, Carries ((clearDecodeOutputs caller).reading spans)
      (cleared status caller.cpuBuffer caller.vmxBuffer) :=
    fun _ _ => ⟨clearedSnapshot, rfl, clearedCpu, rfl, clearedVmx⟩
  have present : ((clearDecodeOutputs caller).snapshot.isNone ||
      (clearDecodeOutputs caller).cpuSampleCount.isNone ||
      (clearDecodeOutputs caller).vmxSampleCount.isNone) = false := by
    rw [clearedSnapshot, clearedCpu, clearedVmx]
    rfl
  obtain ⟨status, header, after, inspected⟩ :
      ∃ status header after, inspectTargetEvidenceSnapshotPackage (clearDecodeOutputs caller) =
        (status, header, after) := ⟨_, _, _, rfl⟩
  obtain ⟨spans, looked, (readable : Readable caller spans), _, valid⟩ := inspect_cases inspected
  have listed : Evidence.inspectTargetEvidenceSnapshotPackage caller.package =
      (status, header) := by
    have same := @inspect_refines (clearDecodeOutputs caller)
    rwa [inspected] at same
  unfold decodeTargetEvidenceSnapshotPackage Evidence.decodeTargetEvidenceSnapshotPackage
  dsimp only
  rw [present, if_neg Bool.false_ne_true, listed, inspected, looked]
  dsimp only
  by_cases failed : (status != .Success) = true
  · rw [if_pos failed, if_pos failed]
    exact ⟨rfl, carries spans status⟩
  rw [if_neg failed, if_neg failed]
  obtain ⟨there, read, validated⟩ := valid (by simpa using failed)
  have sameRoom : (decide (caller.cpuBuffer.count < header.cpuSampleCount) ||
      decide (caller.vmxBuffer.count < header.vmxSampleCount) ||
      isMissing caller.cpuBuffer header.cpuSampleCount ||
      isMissing caller.vmxBuffer header.vmxSampleCount) = lacksRoom caller header := by
    rw [isMissing, isMissing, Caller.cpuBuffer, Caller.vmxBuffer, passSamples_count,
      passSamples_count, passSamples_null, passSamples_null, lacksRoom]
  have alsoRoom : lacksRoom ((clearDecodeOutputs caller).reading spans) header =
      lacksRoom caller header := rfl
  rw [sameRoom, alsoRoom]
  by_cases room : lacksRoom caller header = true
  · rw [if_pos room, if_pos room]
    exact ⟨rfl, carries spans .BufferTooSmall⟩
  rw [if_neg room, if_neg room]
  have admitted : Admitted caller header := admitted_of_room there read validated room
  have whole : covered header + digestLayout.size = caller.inputSize.toNat := by
    rw [admitted.covered_eq, admitted.size]
  have hashed : Pointer.load caller.input.cells ⟨0, covered header⟩ =
      caller.package.items.take (covered header) := by
    rw [admitted.load_eq (by omega), List.drop_zero]
  have stored : digestLayout.decode
      (Pointer.load caller.input.cells ⟨covered header, digestLayout.size⟩) =
      digestLayout.decode (caller.package.items.drop (covered header)) := by
    have length := admitted.length_package
    rw [admitted.load_eq whole.le, Layout.decode_take]
    rw [List.length_drop]
    omega
  have computed : computeSha256 sha256 (covered header)
      ((clearDecodeOutputs caller).reading spans) =
      (Wire.computeSha256 sha256 (caller.package.items.take (covered header)),
        (clearDecodeOutputs caller).reading (⟨0, covered header⟩ :: spans)) :=
    congrArg (fun bytes => (Wire.computeSha256 sha256 bytes,
      (clearDecodeOutputs caller).reading (⟨0, covered header⟩ :: spans))) hashed
  rw [computed]
  cases Wire.computeSha256 sha256 (caller.package.items.take (covered header)) with
  | none => exact ⟨rfl, carries _ .DigestUnavailable⟩
  | some expected =>
    have compared : isDigestEqual expected (covered header)
        ((clearDecodeOutputs caller).reading (⟨0, covered header⟩ :: spans)) =
        (Wire.isDigestEqual expected (digestLayout.decode
          (caller.package.items.drop (covered header))), (clearDecodeOutputs caller).reading
            (⟨covered header, digestLayout.size⟩ :: ⟨0, covered header⟩ :: spans)) :=
      congrArg (fun digest => (Wire.isDigestEqual expected digest, (clearDecodeOutputs caller).reading
        (⟨covered header, digestLayout.size⟩ :: ⟨0, covered header⟩ :: spans))) stored
    dsimp only
    rw [compared]
    dsimp only
    by_cases differs : (!Wire.isDigestEqual expected (digestLayout.decode
        (caller.package.items.drop (covered header)))) = true
    · rw [if_pos differs, if_pos differs]
      exact ⟨rfl, carries _ .DigestMismatch⟩
    · rw [if_neg differs, if_neg differs]
      have refined := decodePayload_refines (admitted.reading
        (⟨covered header, digestLayout.size⟩ :: ⟨0, covered header⟩ :: spans))
        clearedSnapshot clearedCpu clearedVmx
      rwa [reading_package, reading_cpuBuffer, reading_vmxBuffer] at refined

end Refinement

end Knhv.Evidence.Memory
