import Knhv.Abi
import Knhv.Lib.Ring
import Mathlib.Logic.Function.Basic
import Mathlib.Tactic.IntervalCases

namespace Knhv.Crash

def hvTraceRecordsPerCpu : U32 := 512
def hvTraceTailRecords : U32 := 32

structure HvTraceRecord where
  sequence : U64
  tsc : U64
  cpu : U32
  lifecycle : U16
  stage : U16
  event : U32
  arg0 : U64
  arg1 : U64
  arg2 : U64
  arg3 : U64
  deriving DecidableEq, Repr

/-- Zeroed memory read as a record. -/
def HvTraceRecord.zero : HvTraceRecord :=
  { sequence := 0, tsc := 0, cpu := 0, lifecycle := 0, stage := 0, event := 0,
    arg0 := 0, arg1 := 0, arg2 := 0, arg3 := 0 }

/-- The fields of `VcpuContext` that the flight recorder uses. -/
structure VcpuTrace where
  traceRing : Option (Nat → HvTraceRecord)
  traceCapacity : U32
  traceWriteIndex : U64

/-- The arguments of one call of `WriteHvTrace`, and what it reads on the way:
the time stamp counter, `g_HvLifecycle` and `LaunchStage`. -/
structure TraceCall where
  cpu : U32
  event : U32
  arg0 : U64
  arg1 : U64
  arg2 : U64
  arg3 : U64
  tsc : U64
  lifecycle : U32
  stage : U32
  deriving DecidableEq, Repr

/-- The stores into the record, in their order. The sequence number is the
last one, behind the barrier. -/
def traceStores (call : TraceCall) (sequence : U64) : List (HvTraceRecord → HvTraceRecord) :=
  [fun record => { record with tsc := call.tsc },
    fun record => { record with cpu := call.cpu },
    fun record => { record with lifecycle := call.lifecycle.setWidth 16 },
    fun record => { record with stage := call.stage.setWidth 16 },
    fun record => { record with event := call.event },
    fun record => { record with arg0 := call.arg0 },
    fun record => { record with arg1 := call.arg1 },
    fun record => { record with arg2 := call.arg2 },
    fun record => { record with arg3 := call.arg3 },
    fun record => { record with sequence := sequence }]

/-- The first `stores` of them. -/
def storeFields (call : TraceCall) (sequence : U64) (stores : Nat) (record : HvTraceRecord) :
    HvTraceRecord :=
  ((traceStores call sequence).take stores).foldl (fun record store => store record) record

/-- `WriteHvTrace` up to its increment of the write index and the first `stores`
stores after it. -/
def writeHvTraceUpTo (stores : Nat) (call : TraceCall) (vcpu : VcpuTrace) : VcpuTrace :=
  match vcpu.traceRing with
  | none => vcpu
  | some ring =>
    if vcpu.traceCapacity = 0 then vcpu
    else
      let sequence := vcpu.traceWriteIndex
      let slot := (sequence % vcpu.traceCapacity.setWidth 64).toNat
      { vcpu with
        traceWriteIndex := sequence + 1
        traceRing := some (Function.update ring slot
          (storeFields call sequence stores (ring slot))) }

def writeHvTrace (call : TraceCall) (vcpu : VcpuTrace) : VcpuTrace :=
  writeHvTraceUpTo 10 call vcpu

/-- A processor's recorder as `StartHypervisor` leaves it. -/
def startTrace : VcpuTrace :=
  { traceRing := some fun _ => .zero
    traceCapacity := hvTraceRecordsPerCpu
    traceWriteIndex := 0 }

/-- The copy of one processor's records into its part of the tail. -/
def captureTraceTailOf (cpu : Nat) (vcpu : VcpuTrace) (traceTail : Nat → HvTraceRecord) :
    Nat → HvTraceRecord :=
  match vcpu.traceRing with
  | none => traceTail
  | some ring =>
    if vcpu.traceCapacity = 0 then traceTail
    else
      let capacity := vcpu.traceCapacity.setWidth 64
      let writeIndex := vcpu.traceWriteIndex
      let available := if writeIndex < capacity then writeIndex else capacity
      let count := if available < hvTraceTailRecords.setWidth 64 then available
        else hvTraceTailRecords.setWidth 64
      (List.range count.toNat).foldl
        (fun tail j =>
          let sequence := writeIndex - count + BitVec.ofNat 64 j
          let slot := (sequence % capacity).toNat
          if (ring slot).sequence = sequence then
            Function.update tail (cpu * hvTraceTailRecords.toNat + j) (ring slot)
          else tail)
        traceTail

/-- `snapshotCount` of `CaptureHvCrashBlob`. -/
def crashSnapshotCount (processorCount maxSnapshots : Nat) : Nat :=
  if processorCount < maxSnapshots then processorCount else maxSnapshots

/-- The end of `CaptureHvCrashBlob`: `traceTail` is the part of the blob behind
the snapshots, `vcpuData` is none where `g_VcpuData` is null. -/
def captureTraceTail (vcpuData : Option (Nat → VcpuTrace)) (processorCount snapshotCount : Nat) :
    Nat → HvTraceRecord :=
  (List.range snapshotCount).foldl
    (fun tail cpu =>
      match vcpuData with
      | none => tail
      | some vcpus => if processorCount ≤ cpu then tail else captureTraceTailOf cpu (vcpus cpu) tail)
    fun _ => .zero

/-- The calls of `WriteHvTrace` on one processor's recorder up to the crash:
`completed` of them returned, and with `stored = some k` the crash came inside
the next one, after its increment and its first `k` stores. -/
structure TraceRun where
  calls : Nat → TraceCall
  completed : Nat
  stored : Option (Fin 10)

/-- The recorder after `n` completed calls. -/
def traceAfter (calls : Nat → TraceCall) : Nat → VcpuTrace
  | 0 => startTrace
  | n + 1 => writeHvTrace (calls n) (traceAfter calls n)

namespace TraceRun

/-- The recorder that the crash finds. -/
def crashed (run : TraceRun) : VcpuTrace :=
  match run.stored with
  | none => traceAfter run.calls run.completed
  | some k => writeHvTraceUpTo k (run.calls run.completed) (traceAfter run.calls run.completed)

def started (run : TraceRun) : Nat := run.completed + if run.stored.isSome then 1 else 0

/-- How many records the tail has to show. -/
def kept (run : TraceRun) : Nat :=
  min run.started (min hvTraceRecordsPerCpu.toNat hvTraceTailRecords.toNat)

/-- The record of call number `n`, once that call has completed. -/
def record (run : TraceRun) (n : Nat) : HvTraceRecord :=
  let call := run.calls n
  { sequence := BitVec.ofNat 64 n, tsc := call.tsc, cpu := call.cpu,
    lifecycle := call.lifecycle.setWidth 16, stage := call.stage.setWidth 16,
    event := call.event, arg0 := call.arg0, arg1 := call.arg1, arg2 := call.arg2,
    arg3 := call.arg3 }

end TraceRun

/-- A tail that shows the last records of the run in their order: a completed
one as it was written, the one still being written as zero, and nothing after
them. -/
structure HonestTail (run : TraceRun) (tail : Nat → HvTraceRecord) : Prop where
  completed : ∀ j < run.kept, run.started - run.kept + j < run.completed →
    tail j = run.record (run.started - run.kept + j)
  writing : ∀ j < run.kept, run.completed ≤ run.started - run.kept + j → tail j = .zero
  rest : ∀ j < hvTraceTailRecords.toNat, run.kept ≤ j → tail j = .zero

theorem storeFields_all (call : TraceCall) (sequence : U64) (record : HvTraceRecord) :
    storeFields call sequence 10 record =
      { sequence := sequence, tsc := call.tsc, cpu := call.cpu,
        lifecycle := call.lifecycle.setWidth 16, stage := call.stage.setWidth 16,
        event := call.event, arg0 := call.arg0, arg1 := call.arg1, arg2 := call.arg2,
        arg3 := call.arg3 } := rfl

/-- Until the last store the slot keeps the sequence number it had. -/
theorem storeFields_sequence (call : TraceCall) (sequence : U64) (record : HvTraceRecord)
    {stores : Nat} (unfinished : stores < 10) :
    (storeFields call sequence stores record).sequence = record.sequence := by
  interval_cases stores <;> rfl

/-- The write index wraps at a multiple of the capacity, so the slot is that of
the record's number. -/
theorem slot_of_index (n : Nat) :
    (BitVec.ofNat 64 n % hvTraceRecordsPerCpu.setWidth 64).toNat =
      n % hvTraceRecordsPerCpu.toNat := by
  have capacity : (hvTraceRecordsPerCpu.setWidth 64).toNat = 512 := by decide
  rw [BitVec.toNat_umod, BitVec.toNat_ofNat, capacity]
  show n % 2 ^ 64 % 512 = n % 512
  omega

theorem traceAfter_eq (run : TraceRun) (n : Nat) :
    traceAfter run.calls n =
      { traceRing := some (Ring.written hvTraceRecordsPerCpu.toNat (fun _ => .zero) run.record n)
        traceCapacity := hvTraceRecordsPerCpu
        traceWriteIndex := BitVec.ofNat 64 n } := by
  induction n with
  | zero => rfl
  | succ n ih =>
    have positive : hvTraceRecordsPerCpu ≠ 0 := by decide
    have next : BitVec.ofNat 64 n + 1 = BitVec.ofNat 64 (n + 1) :=
      (BitVec.ofNat_add ..).symm
    simp only [traceAfter, ih, writeHvTrace, writeHvTraceUpTo, if_neg positive, slot_of_index,
      storeFields_all, next, Ring.written, TraceRun.record]

/-- The ring that the crash finds. -/
def TraceRun.ring (run : TraceRun) : Nat → HvTraceRecord :=
  let before := Ring.written hvTraceRecordsPerCpu.toNat (fun _ => .zero) run.record run.completed
  match run.stored with
  | none => before
  | some k =>
    let slot := run.completed % hvTraceRecordsPerCpu.toNat
    Function.update before slot
      (storeFields (run.calls run.completed) (BitVec.ofNat 64 run.completed) k (before slot))

theorem TraceRun.crashed_eq (run : TraceRun) :
    run.crashed =
      { traceRing := some run.ring
        traceCapacity := hvTraceRecordsPerCpu
        traceWriteIndex := BitVec.ofNat 64 run.started } := by
  have positive : hvTraceRecordsPerCpu ≠ 0 := by decide
  have next : BitVec.ofNat 64 run.completed + 1 = BitVec.ofNat 64 (run.completed + 1) :=
    (BitVec.ofNat_add ..).symm
  rcases inside : run.stored with _ | k
  · simp [TraceRun.crashed, TraceRun.ring, TraceRun.started, inside, traceAfter_eq]
  · simp only [TraceRun.crashed, TraceRun.ring, TraceRun.started, inside, traceAfter_eq,
      writeHvTraceUpTo, if_neg positive, slot_of_index, next, Option.isSome_some, if_true]

/-- A completed record that no later call has reached, the unfinished one
included, is in its slot. -/
theorem TraceRun.ring_completed {run : TraceRun} {n : Nat} (done : n < run.completed)
    (recent : run.started ≤ n + hvTraceRecordsPerCpu.toNat) :
    run.ring (n % hvTraceRecordsPerCpu.toNat) = run.record n := by
  have capacity : hvTraceRecordsPerCpu.toNat = 512 := by decide
  rcases inside : run.stored with _ | k
  · have bound : run.completed ≤ n + hvTraceRecordsPerCpu.toNat := by
      simpa only [TraceRun.started, inside, Option.isSome_none, Bool.false_eq_true, if_false,
        Nat.add_zero] using recent
    simp only [TraceRun.ring, inside]
    exact Ring.written_recent done bound
  · have bound : run.completed + 1 ≤ n + hvTraceRecordsPerCpu.toNat := by
      simpa only [TraceRun.started, inside, Option.isSome_some, if_true] using recent
    have apart : n % hvTraceRecordsPerCpu.toNat ≠ run.completed % hvTraceRecordsPerCpu.toNat := by
      rw [capacity] at bound ⊢
      omega
    simp only [TraceRun.ring, inside]
    rw [Function.update_of_ne apart]
    exact Ring.written_recent done (by omega)

/-- The slot that the crash interrupted. -/
theorem TraceRun.ring_writing {run : TraceRun} {k : Fin 10} (inside : run.stored = some k) :
    run.ring (run.completed % hvTraceRecordsPerCpu.toNat) =
      storeFields (run.calls run.completed) (BitVec.ofNat 64 run.completed) k
        (if hvTraceRecordsPerCpu.toNat ≤ run.completed then
          run.record (run.completed - hvTraceRecordsPerCpu.toNat)
        else .zero) := by
  have positive : 0 < hvTraceRecordsPerCpu.toNat := by decide
  simp only [TraceRun.ring, inside]
  rw [Function.update_self, Ring.written_next positive]

/-- Its sequence number gives it away, except in the first call. -/
theorem TraceRun.ring_writing_sequence {run : TraceRun} {k : Fin 10}
    (inside : run.stored = some k) :
    (run.ring (run.completed % hvTraceRecordsPerCpu.toNat)).sequence =
        BitVec.ofNat 64 run.completed ↔ run.completed = 0 := by
  have capacity : hvTraceRecordsPerCpu.toNat = 512 := by decide
  rw [TraceRun.ring_writing inside, storeFields_sequence _ _ _ k.isLt]
  by_cases lap : hvTraceRecordsPerCpu.toNat ≤ run.completed
  · rw [if_pos lap]
    constructor
    · intro same
      have values := congrArg BitVec.toNat same
      simp only [TraceRun.record, BitVec.toNat_ofNat] at values
      omega
    · intro empty
      omega
  · rw [if_neg lap]
    constructor
    · intro same
      have values := congrArg BitVec.toNat same
      have zeroed : HvTraceRecord.zero.sequence.toNat = 0 := rfl
      rw [zeroed, BitVec.toNat_ofNat] at values
      omega
    · intro empty
      rw [empty]
      rfl

end Knhv.Crash
