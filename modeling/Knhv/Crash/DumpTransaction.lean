import Mathlib
import Knhv.Crash.Dump

namespace Knhv.Crash

/-- The `length` bytes that start at an address. -/
def bytesAt (memory : U64 → U8) (address : U64) (length : Nat) : List U8 :=
  (List.range length).map fun i => memory (address + BitVec.ofNat 64 i)

theorem bytesAt_append (memory : U64 → U8) (address : U64) (first second : Nat) :
    bytesAt memory address (first + second) =
      bytesAt memory address first ++
        bytesAt memory (address + BitVec.ofNat 64 first) second := by
  simp only [bytesAt, List.range_add, List.map_append, List.map_map]
  congr 1
  apply List.map_congr_left
  intro i _
  rw [Function.comp_apply, BitVec.ofNat_add, BitVec.add_assoc]

/-- The bytes that the dump writer copies out of an answer. -/
def chunkBytes (memory : U64 → U8) (answer : SecondaryDumpData) : List U8 :=
  bytesAt memory answer.outBuffer answer.outBufferLength.toNat

/-- An answer that points into the blob, or carries the null pointer and no
data. -/
def InsideBlob (s : CrashGlobals) (answer : SecondaryDumpData) : Prop :=
  (answer.outBuffer = 0 ∧ answer.outBufferLength = 0) ∨
    ∃ offset, answer.outBuffer = s.hvCrashBlob + BitVec.ofNat 64 offset ∧
      offset + answer.outBufferLength.toNat ≤ s.hvCrashBlobSize.toNat

/-- The answers from a cursor on are in their limits and make up the rest of
the blob. -/
structure Covers (s : CrashGlobals) (requests : Nat → SecondaryDumpData) (call cursor : Nat)
    (answers : List SecondaryDumpData) : Prop where
  limited : ∀ i answer, answers[i]? = some answer →
    answer.outBufferLength ≤ (requests (call + i)).maximumAllowed
  inside : ∀ answer ∈ answers, InsideBlob s answer
  bytes : answers.flatMap (chunkBytes s.memory) =
    bytesAt s.memory (s.hvCrashBlob + BitVec.ofNat 64 cursor) (s.hvCrashBlobSize.toNat - cursor)

variable {fill : BugcheckParameters → (U64 → U8) → U64 → U8} {dataSize : U32}
  {requests : Nat → SecondaryDumpData} {s : CrashGlobals}

theorem callback_committed (committed : s.hvCrashBlobCaptured = hvCrashBlobCaptureCommitted)
    (data : SecondaryDumpData) :
    hvSecondaryDumpDataCallback fill dataSize .secondaryMultiPartDumpData (some data) dataSize s =
      (some (answerChunk s data), s) := by
  have accepted : ¬dataSize < dataSize := BitVec.lt_irrefl dataSize
  have notIdle : hvCrashBlobCaptureCommitted ≠ hvCrashBlobCaptureIdle := by decide
  have notWriting : hvCrashBlobCaptureCommitted ≠ hvCrashBlobCaptureWriting := by decide
  simp only [hvSecondaryDumpDataCallback, committed, if_neg accepted, if_neg notIdle,
    if_neg notWriting, ne_eq, not_true, if_false]

/-- What the first call makes of the globals. -/
def afterCapture (fill : BugcheckParameters → (U64 → U8) → U64 → U8)
    (bugCheck : BugcheckParameters) (s : CrashGlobals) : CrashGlobals :=
  { captureHvCrashBlob fill bugCheck
      { s with hvCrashBlobCaptured := hvCrashBlobCaptureWriting } with
    hvCrashBlobCaptured := hvCrashBlobCaptureCommitted }

theorem callback_idle (idle : s.hvCrashBlobCaptured = hvCrashBlobCaptureIdle)
    (data : SecondaryDumpData) :
    hvSecondaryDumpDataCallback fill dataSize .secondaryMultiPartDumpData (some data) dataSize s =
      (some (answerChunk (afterCapture fill data.bugCheck s) data),
        afterCapture fill data.bugCheck s) := by
  have accepted : ¬dataSize < dataSize := BitVec.lt_irrefl dataSize
  simp only [hvSecondaryDumpDataCallback, idle, if_neg accepted, afterCapture, ne_eq, not_true,
    if_false, if_true]

/-- The first call is a capture, and then a call on the committed blob. -/
theorem collectDump_idle (idle : s.hvCrashBlobCaptured = hvCrashBlobCaptureIdle)
    (fuel call : Nat) (context : U64) :
    collectDump fill dataSize requests fuel call context s =
      collectDump fill dataSize requests fuel call context
        (afterCapture fill (requests call).bugCheck s) := by
  rcases fuel with _ | fuel
  · rfl
  · rw [collectDump, collectDump, callback_idle idle, callback_committed rfl]

theorem answerChunk_past {data : SecondaryDumpData} (past : s.hvCrashBlobSize ≤ data.context) :
    ∃ outBuffer, answerChunk s data = answerEmpty outBuffer data ∧
      (outBuffer = 0 ∨ outBuffer = s.hvCrashBlob + s.hvCrashBlobSize) := by
  by_cases absent : s.hvCrashBlob = 0 ∨ s.hvCrashBlobSize = 0
  · exact ⟨0, if_pos absent, Or.inl rfl⟩
  · refine ⟨s.hvCrashBlob + s.hvCrashBlobSize, ?_, Or.inr rfl⟩
    rw [answerChunk, if_neg absent, if_pos past]

/-- Before the end of a blob whose size has 32 bits, a positive limit yields
the bytes at the cursor, and the next cursor while there are more. -/
theorem answerChunk_next {data : SecondaryDumpData} (present : s.hvCrashBlob ≠ 0)
    (small : s.hvCrashBlobSize.toNat < 2 ^ 32) (before : data.context < s.hvCrashBlobSize)
    (positive : data.maximumAllowed ≠ 0) :
    let answer := answerChunk s data
    answer.outBuffer = s.hvCrashBlob + data.context ∧
      answer.outBufferLength.toNat =
        min data.maximumAllowed.toNat (s.hvCrashBlobSize.toNat - data.context.toNat) ∧
      (answer.flags.additionalData = true ↔
        data.context.toNat + answer.outBufferLength.toNat < s.hvCrashBlobSize.toNat) ∧
      (answer.flags.additionalData = true →
        answer.context.toNat = data.context.toNat + answer.outBufferLength.toNat) := by
  have cursor : data.context.toNat < s.hvCrashBlobSize.toNat := before
  have some : ¬(s.hvCrashBlob = 0 ∨ s.hvCrashBlobSize = 0) := by
    rintro (null | empty)
    · exact present null
    · rw [empty] at cursor
      exact Nat.not_lt_zero _ cursor
  have notPast : ¬s.hvCrashBlobSize ≤ data.context := BitVec.not_le.mpr before
  have difference : (s.hvCrashBlobSize - data.context).toNat =
      s.hvCrashBlobSize.toNat - data.context.toNat := by bv_omega
  generalize taken : (if s.hvCrashBlobSize - data.context < maxUlong then
    s.hvCrashBlobSize - data.context else maxUlong).setWidth 32 = remaining
  have rest : remaining.toNat = s.hvCrashBlobSize.toNat - data.context.toNat := by
    have ulong : maxUlong.toNat = 2 ^ 32 - 1 := by decide
    rw [← taken]
    by_cases fits : s.hvCrashBlobSize - data.context < maxUlong
    · rw [if_pos fits, BitVec.toNat_setWidth, difference]
      omega
    · have bound : ¬(s.hvCrashBlobSize - data.context).toNat < maxUlong.toNat := fits
      rw [if_neg fits, BitVec.toNat_setWidth, ulong]
      omega
  have allowed : ¬(data.maximumAllowed = 0 ∧ remaining ≠ 0) := fun both => positive both.1
  by_cases whole : remaining ≤ data.maximumAllowed
  · have bound : remaining.toNat ≤ data.maximumAllowed.toNat := whole
    simp only [answerChunk, if_neg some, if_neg notPast, taken, if_neg allowed, if_pos whole,
      if_neg (BitVec.lt_irrefl remaining), DumpFlags.empty, Bool.false_eq_true, false_iff,
      IsEmpty.forall_iff, and_true, true_and]
    omega
  · have less : data.maximumAllowed < remaining := BitVec.not_le.mp whole
    have bound : data.maximumAllowed.toNat < remaining.toNat := less
    simp only [answerChunk, if_neg some, if_neg notPast, taken, if_neg allowed, if_neg whole,
      if_pos less, DumpFlags.empty, true_and, true_iff, forall_const]
    refine ⟨by omega, by omega, ?_⟩
    rw [BitVec.toNat_add, BitVec.toNat_setWidth]
    omega

/-- One answer in front of those from its own end on. -/
theorem Covers.cons {call cursor next : Nat} {answer : SecondaryDumpData}
    {answers : List SecondaryDumpData} (rest : Covers s requests (call + 1) next answers)
    (limit : answer.outBufferLength ≤ (requests call).maximumAllowed)
    (place : answer.outBuffer = s.hvCrashBlob + BitVec.ofNat 64 cursor)
    (ends : next = cursor + answer.outBufferLength.toNat)
    (fits : next ≤ s.hvCrashBlobSize.toNat) :
    Covers s requests call cursor (answer :: answers) := by
  constructor
  · intro i found atPlace
    rcases i with _ | i
    · cases Option.some.inj atPlace
      exact limit
    · have within := rest.limited i found atPlace
      rwa [Nat.add_right_comm, Nat.add_assoc] at within
  · intro found member
    rcases List.mem_cons.mp member with first | later
    · rw [first]
      exact Or.inr ⟨cursor, place, by omega⟩
    · exact rest.inside found later
  · have split : s.hvCrashBlobSize.toNat - cursor =
        answer.outBufferLength.toNat + (s.hvCrashBlobSize.toNat - next) := by omega
    have address : s.hvCrashBlob + BitVec.ofNat 64 next =
        s.hvCrashBlob + BitVec.ofNat 64 cursor +
          BitVec.ofNat 64 answer.outBufferLength.toNat := by
      rw [ends, BitVec.ofNat_add, BitVec.add_assoc]
    rw [List.flatMap_cons, rest.bytes, chunkBytes, place, split, bytesAt_append, address]

/-- An answer after which nothing is left. -/
theorem Covers.last {call cursor : Nat} {answer : SecondaryDumpData}
    (limit : answer.outBufferLength ≤ (requests call).maximumAllowed)
    (inside : InsideBlob s answer)
    (bytes : chunkBytes s.memory answer =
      bytesAt s.memory (s.hvCrashBlob + BitVec.ofNat 64 cursor)
        (s.hvCrashBlobSize.toNat - cursor)) :
    Covers s requests call cursor [answer] := by
  constructor
  · intro i found atPlace
    rcases i with _ | i
    · cases Option.some.inj atPlace
      exact limit
    · exact absurd atPlace (by simp)
  · intro found member
    rw [List.mem_singleton.mp member]
    exact inside
  · rw [List.flatMap_cons, List.flatMap_nil, List.append_nil, bytes]

variable (fill dataSize requests) in
theorem collectDump_past (committed : s.hvCrashBlobCaptured = hvCrashBlobCaptureCommitted)
    {context : U64} (past : s.hvCrashBlobSize ≤ context) (call : Nat) :
    ∃ answers, Covers s requests call context.toNat answers ∧
      ∀ fuel, 0 < fuel →
        collectDump fill dataSize requests fuel call context s = some (answers, s) := by
  obtain ⟨outBuffer, empty, place⟩ :=
    @answerChunk_past s { requests call with context := context } past
  refine ⟨[answerEmpty outBuffer { requests call with context := context }], ?_, ?_⟩
  · have nothing : s.hvCrashBlobSize.toNat - context.toNat = 0 := by bv_omega
    apply Covers.last (Nat.zero_le _)
    · rcases place with null | ending
      · exact Or.inl ⟨null, rfl⟩
      · refine Or.inr ⟨s.hvCrashBlobSize.toNat, ?_, le_rfl⟩
        rw [BitVec.ofNat_toNat, BitVec.setWidth_eq]
        exact ending
    · rw [nothing]
      rfl
  · intro fuel positive
    obtain ⟨fuel, rfl⟩ := Nat.exists_eq_add_of_lt positive
    rw [Nat.zero_add, collectDump, callback_committed committed, empty]
    rfl

variable (fill dataSize) in
/-- From any cursor the transaction ends and covers what is left. The
induction is on the bytes behind the cursor, every answer takes at least one. -/
theorem collectDump_covers (committed : s.hvCrashBlobCaptured = hvCrashBlobCaptureCommitted)
    (present : s.hvCrashBlob ≠ 0) (small : s.hvCrashBlobSize.toNat < 2 ^ 32)
    (positive : ∀ call, (requests call).maximumAllowed ≠ 0) (left call : Nat) (context : U64)
    (behind : s.hvCrashBlobSize.toNat - context.toNat = left) :
    ∃ answers, Covers s requests call context.toNat answers ∧
      ∀ fuel, left < fuel →
        collectDump fill dataSize requests fuel call context s = some (answers, s) := by
  induction left using Nat.strong_induction_on generalizing call context with
  | _ left ih =>
    by_cases past : s.hvCrashBlobSize ≤ context
    · obtain ⟨answers, covers, runs⟩ :=
        collectDump_past fill dataSize requests committed past call
      exact ⟨answers, covers, fun fuel enough => runs fuel (by omega)⟩
    · have before : context < s.hvCrashBlobSize := BitVec.not_le.mp past
      have cursor : context.toNat < s.hvCrashBlobSize.toNat := before
      obtain ⟨place, length, more, next⟩ :=
        @answerChunk_next s { requests call with context := context } present small before
          (positive call)
      generalize taken : answerChunk s { requests call with context := context } = answer at *
      have someAllowed : 0 < (requests call).maximumAllowed.toNat := by
        have nonzero := positive call
        bv_omega
      simp only at place length more next
      have limit : answer.outBufferLength ≤ (requests call).maximumAllowed := by
        rw [BitVec.le_def]
        omega
      have start : answer.outBuffer = s.hvCrashBlob + BitVec.ofNat 64 context.toNat := by
        rw [place, BitVec.ofNat_toNat, BitVec.setWidth_eq]
      by_cases additional : answer.flags.additionalData = true
      · have moved := next additional
        obtain ⟨rest, covers, runs⟩ :=
          ih (s.hvCrashBlobSize.toNat - answer.context.toNat) (by omega) (call + 1)
            answer.context rfl
        have within := more.mp additional
        refine ⟨answer :: rest, covers.cons limit start moved (by omega), ?_⟩
        intro fuel enough
        obtain ⟨fuel, rfl⟩ := Nat.exists_eq_add_of_lt enough
        have again := runs (left + fuel) (by omega)
        simp only [collectDump, callback_committed committed, taken, if_pos additional, again]
      · have whole : answer.outBufferLength.toNat =
            s.hvCrashBlobSize.toNat - context.toNat := by
          have notMore := mt more.mpr additional
          omega
        refine ⟨[answer], Covers.last limit (Or.inr ⟨context.toNat, start, by omega⟩) ?_, ?_⟩
        · rw [chunkBytes, start, whole]
        · intro fuel enough
          obtain ⟨fuel, rfl⟩ := Nat.exists_eq_add_of_lt enough
          simp only [collectDump, callback_committed committed, taken, if_neg additional]

/-- An answer without data that ends the transaction. -/
def EndsEmpty (answer : SecondaryDumpData) : Prop :=
  answer.outBufferLength = 0 ∧ answer.flags.additionalData = false ∧ answer.context = 0

theorem answerEmpty_ends (outBuffer : U64) (data : SecondaryDumpData) :
    EndsEmpty (answerEmpty outBuffer data) := ⟨rfl, rfl, rfl⟩

/-- A limit of zero ends the transaction wherever the cursor is. -/
theorem answerChunk_zero {data : SecondaryDumpData} (zero : data.maximumAllowed = 0) :
    EndsEmpty (answerChunk s data) := by
  by_cases absent : s.hvCrashBlob = 0 ∨ s.hvCrashBlobSize = 0
  · rw [answerChunk, if_pos absent]
    exact answerEmpty_ends ..
  · by_cases past : s.hvCrashBlobSize ≤ data.context
    · rw [answerChunk, if_neg absent, if_pos past]
      exact answerEmpty_ends ..
    · generalize taken : (if s.hvCrashBlobSize - data.context < maxUlong then
        s.hvCrashBlobSize - data.context else maxUlong).setWidth 32 = remaining
      by_cases none : remaining = 0
      · have nothing : (0 : U32) ≤ data.maximumAllowed := Nat.zero_le _
        simp only [answerChunk, if_neg absent, if_neg past, taken, none, ne_eq, not_true, and_false,
          if_pos nothing, if_neg (BitVec.lt_irrefl (0 : U32)), if_false]
        exact ⟨rfl, rfl, rfl⟩
      · simp only [answerChunk, if_neg absent, if_neg past, taken,
          if_pos (And.intro zero none)]
        exact answerEmpty_ends ..

/-- A call that ends the transaction with an empty chunk, whatever came before. -/
theorem collectDump_empty {call : Nat}
    (empty : (requests call).maximumAllowed = 0 ∨
      s.hvCrashBlobCaptured = hvCrashBlobCaptureWriting) (fuel : Nat) (context : U64) :
    ∃ answer after,
      collectDump fill dataSize requests (fuel + 1) call context s = some ([answer], after) ∧
        EndsEmpty answer := by
  have accepted : ¬dataSize < dataSize := BitVec.lt_irrefl dataSize
  have answered : ∃ answer after,
      hvSecondaryDumpDataCallback fill dataSize .secondaryMultiPartDumpData
        (some { requests call with context := context }) dataSize s = (some answer, after) ∧
      EndsEmpty answer := by
    by_cases idle : s.hvCrashBlobCaptured = hvCrashBlobCaptureIdle
    · rcases empty with zero | writing
      · exact ⟨_, _, callback_idle idle _, answerChunk_zero zero⟩
      · rw [idle] at writing
        exact absurd writing (by decide)
    · by_cases committed : s.hvCrashBlobCaptured = hvCrashBlobCaptureCommitted
      · rcases empty with zero | writing
        · exact ⟨_, _, callback_committed committed _, answerChunk_zero zero⟩
        · rw [committed] at writing
          exact absurd writing (by decide)
      · refine ⟨_, s, ?_, answerEmpty_ends 0 { requests call with context := context }⟩
        simp only [hvSecondaryDumpDataCallback, if_neg accepted, if_neg idle, if_pos committed,
          ne_eq, not_true, if_false, ite_self]
  obtain ⟨answer, after, answers, ends⟩ := answered
  refine ⟨answer, after, ?_, ends⟩
  simp only [collectDump, answers, ends.2.1, Bool.false_eq_true, if_false]

/-- What a whole transaction on a blob that was not captured yet amounts to. -/
structure CompleteDump (fill : BugcheckParameters → (U64 → U8) → U64 → U8)
    (requests : Nat → SecondaryDumpData) (before after : CrashGlobals)
    (answers : List SecondaryDumpData) : Prop where
  capturedOnce : after.captures = before.captures ++ [(requests 0).bugCheck]
  committed : after.hvCrashBlobCaptured = hvCrashBlobCaptureCommitted
  content : after.memory = fill (requests 0).bugCheck before.memory
  sameBlob : after.hvCrashBlob = before.hvCrashBlob ∧
    after.hvCrashBlobSize = before.hvCrashBlobSize
  limited : ∀ i answer, answers[i]? = some answer →
    answer.outBufferLength ≤ (requests i).maximumAllowed
  inside : ∀ answer ∈ answers, InsideBlob after answer
  bytes : answers.flatMap (chunkBytes after.memory) =
    bytesAt after.memory after.hvCrashBlob after.hvCrashBlobSize.toNat

variable (fill) in
theorem afterCapture_present (present : s.hvCrashBlob ≠ 0) (bugCheck : BugcheckParameters) :
    afterCapture fill bugCheck s =
      { s with
        hvCrashBlobCaptured := hvCrashBlobCaptureCommitted
        captures := s.captures ++ [bugCheck]
        memory := fill bugCheck s.memory } := by
  simp only [afterCapture, captureHvCrashBlob, if_neg present]

/-- With positive limits the transaction ends after one capture and delivers
the blob; a limit of zero, or a capture in progress, ends it with nothing. -/
theorem collectDump_complete (fill : BugcheckParameters → (U64 → U8) → U64 → U8) (dataSize : U32)
    (requests : Nat → SecondaryDumpData) :
    (∀ s : CrashGlobals, s.hvCrashBlob ≠ 0 → s.hvCrashBlobSize.toNat < 2 ^ 32 →
      s.hvCrashBlobCaptured = hvCrashBlobCaptureIdle →
      (∀ call, (requests call).maximumAllowed ≠ 0) →
      ∃ answers after,
        (∀ fuel, s.hvCrashBlobSize.toNat < fuel →
          collectDump fill dataSize requests fuel 0 0 s = some (answers, after)) ∧
        CompleteDump fill requests s after answers) ∧
    ∀ (s : CrashGlobals) (fuel call : Nat) (context : U64),
      ((requests call).maximumAllowed = 0 ∨ s.hvCrashBlobCaptured = hvCrashBlobCaptureWriting) →
      ∃ answer after,
        collectDump fill dataSize requests (fuel + 1) call context s = some ([answer], after) ∧
          EndsEmpty answer := by
  constructor
  · intro s present small idle positive
    have captured := afterCapture_present fill present (requests 0).bugCheck
    generalize became : afterCapture fill (requests 0).bugCheck s = after at captured
    have sameBlob : after.hvCrashBlob = s.hvCrashBlob := by rw [captured]
    have sameSize : after.hvCrashBlobSize = s.hvCrashBlobSize := by rw [captured]
    have committed : after.hvCrashBlobCaptured = hvCrashBlobCaptureCommitted := by rw [captured]
    have start : (0 : U64).toNat = 0 := rfl
    obtain ⟨answers, covers, runs⟩ :=
      collectDump_covers fill dataSize committed (by rwa [sameBlob])
        (by rwa [sameSize]) positive after.hvCrashBlobSize.toNat 0 0 (by rw [start, Nat.sub_zero])
    refine ⟨answers, after, ?_, ?_⟩
    · intro fuel enough
      rw [collectDump_idle idle, became]
      exact runs fuel (by rwa [sameSize])
    · constructor
      · rw [captured]
      · exact committed
      · rw [captured]
      · exact ⟨sameBlob, sameSize⟩
      · intro i answer place
        have limit := covers.limited i answer place
        rwa [Nat.zero_add] at limit
      · exact covers.inside
      · have whole := covers.bytes
        rwa [start, BitVec.add_zero, Nat.sub_zero] at whole
  · intro s fuel call context empty
    exact collectDump_empty empty fuel context

def dumpRequest (maximumAllowed : U32) : SecondaryDumpData :=
  { maximumAllowed := maximumAllowed
    bugCheck := { code := 0x20001, parameter1 := 1, parameter2 := 2, parameter3 := 3,
                  parameter4 := 4 }
    guid := kCrashBlobGuid, outBuffer := 0, outBufferLength := 0, flags := .empty, context := 0 }

def uncapturedBlob : CrashGlobals :=
  { hvCrashBlob := 0x1000, hvCrashBlobSize := 5, hvCrashBlobCaptured := hvCrashBlobCaptureIdle
    memory := fun _ => 0, captures := [] }

/-- Five bytes in chunks of two, and the same blob while it is being written. -/
theorem collectDump_complete_five :
    (∃ answers after,
      collectDump (fun _ _ address => address.setWidth 8) 64 (fun _ => dumpRequest 2) 6 0 0
          uncapturedBlob = some (answers, after) ∧
        answers.flatMap (chunkBytes after.memory) = bytesAt after.memory 0x1000 5) ∧
    ∃ answer after,
      collectDump (fun _ _ address => address.setWidth 8) 64 (fun _ => dumpRequest 2) 1 0 0
          { uncapturedBlob with hvCrashBlobCaptured := hvCrashBlobCaptureWriting } =
        some ([answer], after) ∧ EndsEmpty answer := by
  have complete :=
    collectDump_complete (fun _ _ address => address.setWidth 8) 64 fun _ => dumpRequest 2
  constructor
  · obtain ⟨answers, after, runs, dump⟩ :=
      complete.1 uncapturedBlob (by decide) (by decide) rfl (fun _ => by decide)
    have bytes := dump.bytes
    rw [dump.sameBlob.1, dump.sameBlob.2] at bytes
    exact ⟨answers, after, runs 6 (by decide), bytes⟩
  · exact complete.2 _ 0 0 0 (Or.inr rfl)

end Knhv.Crash
