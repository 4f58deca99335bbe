import Knhv.Crash.Trace

namespace Knhv.Crash

/-- `writeIndex` and `count` of the capture. -/
def TraceRun.writeIndex (run : TraceRun) : Nat := run.started % 2 ^ 64
def TraceRun.count (run : TraceRun) : Nat := min run.writeIndex hvTraceTailRecords.toNat

/-- The sequence number that entry `j` of the tail asks for. -/
def TraceRun.asked (run : TraceRun) (j : Nat) : Nat := run.writeIndex - run.count + j

def TraceRun.slotAsked (run : TraceRun) (j : Nat) : HvTraceRecord :=
  run.ring (run.asked j % hvTraceRecordsPerCpu.toNat)

theorem tailCount_toNat (index : U64) :
    (if (if index < 512#64 then index else 512#64) < 32#64 then
      (if index < 512#64 then index else 512#64) else 32#64).toNat = min index.toNat 32 := by
  by_cases below : index < 512#64
  · rw [if_pos below]
    by_cases few : index < 32#64
    · have bound : index.toNat < 32 := few
      rw [if_pos few, Nat.min_eq_left bound.le]
    · have bound : ¬index.toNat < 32 := few
      rw [if_neg few, Nat.min_eq_right (by omega), BitVec.toNat_ofNat]
  · have bound : ¬index.toNat < 512 := below
    rw [if_neg below, Nat.min_eq_right (by omega)]
    decide

theorem captureTraceTailOf_crashed (run : TraceRun) (cpu : Nat) (tail : Nat → HvTraceRecord) :
    captureTraceTailOf cpu run.crashed tail =
      Ring.copyWhere (fun j => (run.slotAsked j).sequence = BitVec.ofNat 64 (run.asked j))
        run.slotAsked (cpu * hvTraceTailRecords.toNat) run.count tail := by
  have positive : hvTraceRecordsPerCpu ≠ 0 := by decide
  have capacity : hvTraceRecordsPerCpu.setWidth 64 = 512#64 := by decide
  have records : hvTraceTailRecords.setWidth 64 = 32#64 := by decide
  generalize written : BitVec.ofNat 64 run.started = index
  have indexValue : index.toNat = run.writeIndex := by
    rw [← written, BitVec.toNat_ofNat, TraceRun.writeIndex]
  generalize chosen : (if (if index < 512#64 then index else 512#64) < 32#64 then
    (if index < 512#64 then index else 512#64) else 32#64) = count
  have countValue : count.toNat = run.count := by
    rw [TraceRun.count, ← indexValue, ← chosen]
    exact tailCount_toNat index
  have countBound : run.count ≤ run.writeIndex := Nat.min_le_left ..
  have small : run.writeIndex < 2 ^ 64 := by rw [← indexValue]; exact index.isLt
  have asks : ∀ j, index - count + BitVec.ofNat 64 j = BitVec.ofNat 64 (run.asked j) := by
    intro j
    apply BitVec.eq_of_toNat_eq
    rw [TraceRun.asked, BitVec.toNat_add, BitVec.toNat_sub, BitVec.toNat_ofNat,
      BitVec.toNat_ofNat, indexValue, countValue]
    omega
  have slots : ∀ n, (BitVec.ofNat 64 n % 512#64).toNat = n % hvTraceRecordsPerCpu.toNat := by
    intro n
    rw [← capacity]
    exact slot_of_index n
  simp only [TraceRun.crashed_eq, captureTraceTailOf, if_neg positive, written, capacity, records,
    chosen, countValue, asks, slots]
  rfl

theorem tailCount_le (available : U64) :
    (if available < hvTraceTailRecords.setWidth 64 then available
      else hvTraceTailRecords.setWidth 64).toNat ≤ hvTraceTailRecords.toNat := by
  have records : hvTraceTailRecords.setWidth 64 = 32#64 := by decide
  have few : hvTraceTailRecords.toNat = 32 := by decide
  rw [records, few]
  split <;> bv_omega

theorem captureTraceTailOf_outside {cpu place : Nat} {vcpu : VcpuTrace}
    {tail : Nat → HvTraceRecord}
    (outside : place < cpu * hvTraceTailRecords.toNat ∨
      cpu * hvTraceTailRecords.toNat + hvTraceTailRecords.toNat ≤ place) :
    captureTraceTailOf cpu vcpu tail place = tail place := by
  rcases allocated : vcpu.traceRing with _ | ring
  · simp only [captureTraceTailOf, allocated]
  · by_cases empty : vcpu.traceCapacity = 0
    · simp only [captureTraceTailOf, allocated, if_pos empty]
    · simp only [captureTraceTailOf, allocated, if_neg empty]
      apply Ring.copyWhere_outside
      have bound := tailCount_le
        (if vcpu.traceWriteIndex < vcpu.traceCapacity.setWidth 64 then vcpu.traceWriteIndex
          else vcpu.traceCapacity.setWidth 64)
      omega

theorem captureTraceTailOf_congr {cpu place : Nat} {vcpu : VcpuTrace}
    {tail other : Nat → HvTraceRecord} (same : tail place = other place) :
    captureTraceTailOf cpu vcpu tail place = captureTraceTailOf cpu vcpu other place := by
  rcases allocated : vcpu.traceRing with _ | ring
  · simpa only [captureTraceTailOf, allocated] using same
  · by_cases empty : vcpu.traceCapacity = 0
    · simpa only [captureTraceTailOf, allocated, if_pos empty] using same
    · simp only [captureTraceTailOf, allocated, if_neg empty]
      exact Ring.copyWhere_congr same

theorem captureTraceTail_succ (vcpus : Nat → VcpuTrace) (processorCount snapshotCount : Nat) :
    captureTraceTail (some vcpus) processorCount (snapshotCount + 1) =
      if processorCount ≤ snapshotCount then
        captureTraceTail (some vcpus) processorCount snapshotCount
      else captureTraceTailOf snapshotCount (vcpus snapshotCount)
        (captureTraceTail (some vcpus) processorCount snapshotCount) := by
  simp only [captureTraceTail, List.range_succ, List.foldl_append, List.foldl_cons,
    List.foldl_nil]

/-- The part of a processor is zero until the loop reaches it. -/
theorem captureTraceTail_unreached {vcpus : Nat → VcpuTrace}
    {processorCount snapshotCount place : Nat}
    (later : snapshotCount * hvTraceTailRecords.toNat ≤ place) :
    captureTraceTail (some vcpus) processorCount snapshotCount place = .zero := by
  induction snapshotCount with
  | zero => rfl
  | succ count ih =>
    rw [Nat.succ_mul] at later
    rw [captureTraceTail_succ]
    split
    · exact ih (by omega)
    · rw [captureTraceTailOf_outside (Or.inr later)]
      exact ih (by omega)

/-- The tail of one processor does not depend on the others. -/
theorem captureTraceTail_entry {vcpus : Nat → VcpuTrace} {processorCount snapshotCount cpu j : Nat}
    (present : cpu < processorCount) (shown : cpu < snapshotCount)
    (entry : j < hvTraceTailRecords.toNat) :
    captureTraceTail (some vcpus) processorCount snapshotCount
        (cpu * hvTraceTailRecords.toNat + j) =
      captureTraceTailOf cpu (vcpus cpu) (fun _ => .zero) (cpu * hvTraceTailRecords.toNat + j) := by
  induction snapshotCount with
  | zero => omega
  | succ count ih =>
    rw [captureTraceTail_succ]
    by_cases last : cpu = count
    · subst last
      rw [if_neg (by omega)]
      apply captureTraceTailOf_congr
      exact captureTraceTail_unreached (Nat.le_add_right ..)
    · have earlier : cpu < count := by omega
      have block : cpu * hvTraceTailRecords.toNat + hvTraceTailRecords.toNat ≤
          count * hvTraceTailRecords.toNat := by
        rw [← Nat.succ_mul]
        exact Nat.mul_le_mul_right _ earlier
      split
      · exact ih earlier
      · rw [captureTraceTailOf_outside (Or.inl (by omega))]
        exact ih earlier

/-- What the tail shows in entry `j` of a processor. -/
theorem captureTraceTail_crashed {run : TraceRun} {vcpus : Nat → VcpuTrace}
    {processorCount snapshotCount cpu j : Nat} (found : vcpus cpu = run.crashed)
    (present : cpu < processorCount) (shown : cpu < snapshotCount)
    (entry : j < hvTraceTailRecords.toNat) :
    captureTraceTail (some vcpus) processorCount snapshotCount
        (cpu * hvTraceTailRecords.toNat + j) =
      if j < run.count ∧ (run.slotAsked j).sequence = BitVec.ofNat 64 (run.asked j) then
        run.slotAsked j
      else .zero := by
  rw [captureTraceTail_entry present shown entry, found, captureTraceTailOf_crashed]
  by_cases used : j < run.count
  · rw [Ring.copyWhere_apply used]
    simp only [used, true_and]
  · rw [Ring.copyWhere_outside (Or.inr (by omega)), if_neg (fun both => used both.1)]

/-- No sequence number is one that zeroed memory also has: the last records do
not straddle the wrap of the write index, and the crash did not come inside the
first call after it stored anything. -/
structure Recognisable (run : TraceRun) : Prop where
  unwrapped : run.started < 2 ^ 64 ∨ hvTraceTailRecords.toNat ≤ run.started % 2 ^ 64
  firstBlank : ∀ k : Fin 10, run.stored = some k → run.completed = 0 →
    storeFields (run.calls 0) 0 k .zero = .zero

variable {run : TraceRun} {vcpus : Nat → VcpuTrace} {processorCount snapshotCount cpu : Nat}

theorem kept_eq (run : TraceRun) : run.kept = min run.started 32 := by
  have records : hvTraceTailRecords.toNat = 32 := by decide
  have capacity : hvTraceRecordsPerCpu.toNat = 512 := by decide
  rw [TraceRun.kept, records, capacity]
  omega

theorem count_eq (run : TraceRun) : run.count = min (run.started % 2 ^ 64) 32 := by
  have records : hvTraceTailRecords.toNat = 32 := by decide
  rw [TraceRun.count, TraceRun.writeIndex, records]

theorem asked_eq (run : TraceRun) (j : Nat) :
    run.asked j = run.started % 2 ^ 64 - min (run.started % 2 ^ 64) 32 + j := by
  rw [TraceRun.asked, count_eq, TraceRun.writeIndex]

/-- Away from the wrap the capture asks for as many records as there are to
show, and for the same ones. -/
theorem asked_number (unwrapped : run.started < 2 ^ 64 ∨ 32 ≤ run.started % 2 ^ 64) :
    run.count = run.kept ∧ ∀ j < run.kept,
      run.asked j % 2 ^ 64 = (run.started - run.kept + j) % 2 ^ 64 := by
  rw [kept_eq, count_eq]
  refine ⟨by omega, ?_⟩
  intro j used
  rw [asked_eq]
  omega

theorem slot_congr {first second : Nat} (same : first % 2 ^ 64 = second % 2 ^ 64) :
    BitVec.ofNat 64 first = BitVec.ofNat 64 second ∧
      first % hvTraceRecordsPerCpu.toNat = second % hvTraceRecordsPerCpu.toNat := by
  have capacity : hvTraceRecordsPerCpu.toNat = 512 := by decide
  rw [capacity]
  refine ⟨?_, by omega⟩
  apply BitVec.eq_of_toNat_eq
  rw [BitVec.toNat_ofNat, BitVec.toNat_ofNat, same]

theorem slotAsked_completed {j : Nat} (done : run.started - run.kept + j < run.completed)
    (same : run.asked j % 2 ^ 64 = (run.started - run.kept + j) % 2 ^ 64) :
    run.slotAsked j = run.record (run.started - run.kept + j) := by
  have capacity : hvTraceRecordsPerCpu.toNat = 512 := by decide
  rw [kept_eq] at done same ⊢
  rw [TraceRun.slotAsked, (slot_congr same).2]
  exact TraceRun.ring_completed done (by omega)

theorem started_le (run : TraceRun) : run.completed ≤ run.started ∧
    run.started ≤ run.completed + 1 := by
  unfold TraceRun.started
  split <;> omega

/-- An entry past the completed records is the one being written. -/
theorem interrupted {j : Nat} (used : j < run.kept)
    (writing : run.completed ≤ run.started - run.kept + j) :
    run.started - run.kept + j = run.completed ∧ ∃ k, run.stored = some k := by
  have ends := started_le run
  have below : run.kept ≤ run.started := Nat.min_le_left ..
  refine ⟨by omega, ?_⟩
  rcases inside : run.stored with _ | k
  · have whole : run.started = run.completed := by
      simp only [TraceRun.started, inside, Option.isSome_none, Bool.false_eq_true, if_false,
        Nat.add_zero]
    omega
  · exact ⟨k, rfl⟩

theorem honestTail_of_recognisable (found : vcpus cpu = run.crashed)
    (present : cpu < processorCount) (shown : cpu < snapshotCount)
    (recognisable : Recognisable run) :
    HonestTail run fun j =>
      captureTraceTail (some vcpus) processorCount snapshotCount
        (cpu * hvTraceTailRecords.toNat + j) := by
  have records : hvTraceTailRecords.toNat = 32 := by decide
  have unwrapped := recognisable.unwrapped
  rw [records] at unwrapped
  obtain ⟨sameCount, sameNumber⟩ := asked_number unwrapped
  have fits : run.kept ≤ hvTraceTailRecords.toNat := by
    rw [kept_eq, records]
    omega
  constructor
  · intro j used done
    have slot := slotAsked_completed done (sameNumber j used)
    rw [captureTraceTail_crashed found present shown (by omega), slot, if_pos]
    refine ⟨by omega, ?_⟩
    exact (slot_congr (sameNumber j used)).1.symm
  · intro j used writing
    obtain ⟨last, k, inside⟩ := interrupted used writing
    have same := slot_congr (sameNumber j used)
    rw [last] at same
    have slot : run.slotAsked j = run.ring (run.completed % hvTraceRecordsPerCpu.toNat) := by
      rw [TraceRun.slotAsked, same.2]
    rw [captureTraceTail_crashed found present shown (by omega), slot, same.1]
    by_cases first : run.completed = 0
    · -- the first record has the sequence number of zeroed memory
      have blank := recognisable.firstBlank k inside first
      have content : run.ring (run.completed % hvTraceRecordsPerCpu.toNat) = .zero := by
        rw [TraceRun.ring_writing inside, if_neg (by rw [first]; decide), first]
        exact blank
      rw [content]
      split <;> rfl
    · rw [if_neg]
      intro both
      exact first ((TraceRun.ring_writing_sequence inside).mp both.2)
  · intro j entry unused
    rw [captureTraceTail_crashed found present shown entry, if_neg]
    intro both
    omega

/-- At a wrap the first entry is that of a record with number zero, or none. -/
theorem captureTraceTail_wrapped (found : vcpus cpu = run.crashed)
    (present : cpu < processorCount) (shown : cpu < snapshotCount)
    (wrapped : run.started % 2 ^ 64 < 32) :
    (captureTraceTail (some vcpus) processorCount snapshotCount
      (cpu * hvTraceTailRecords.toNat + 0)).sequence = 0 := by
  have records : hvTraceTailRecords.toNat = 32 := by decide
  have zeroAsked : run.asked 0 = 0 := by
    rw [asked_eq]
    omega
  rw [captureTraceTail_crashed found present shown (by omega), zeroAsked]
  split
  · next both => exact both.2
  · rfl

theorem recognisable_of_honestTail (found : vcpus cpu = run.crashed)
    (present : cpu < processorCount) (shown : cpu < snapshotCount)
    (honest : HonestTail run fun j =>
      captureTraceTail (some vcpus) processorCount snapshotCount
        (cpu * hvTraceTailRecords.toNat + j)) :
    Recognisable run := by
  have records : hvTraceTailRecords.toNat = 32 := by decide
  have ends := started_le run
  constructor
  · rw [records]
    by_contra straddles
    rw [not_or, Nat.not_lt, Nat.not_le] at straddles
    have kept : run.kept = 32 := by
      rw [kept_eq]
      omega
    have expected := honest.completed 0 (by omega) (by omega)
    have shownFirst := captureTraceTail_wrapped found present shown straddles.2
    rw [expected] at shownFirst
    have values := congrArg BitVec.toNat shownFirst
    have zeroed : (0 : U64).toNat = 0 := rfl
    rw [TraceRun.record, zeroed, BitVec.toNat_ofNat] at values
    omega
  · intro k inside first
    have one : run.started = 1 := by
      simp only [TraceRun.started, inside, first, Option.isSome_some, if_true]
    have kept : run.kept = 1 := by
      rw [kept_eq]
      omega
    have count : run.count = 1 := by
      rw [count_eq]
      omega
    have zeroAsked : run.asked 0 = 0 := by
      rw [asked_eq]
      omega
    have slot : run.slotAsked 0 = run.ring (run.completed % hvTraceRecordsPerCpu.toNat) := by
      rw [TraceRun.slotAsked, zeroAsked, first]
    have expected := honest.writing 0 (by omega) (by omega)
    have passes := (TraceRun.ring_writing_sequence inside).mpr first
    simp only [captureTraceTail_crashed found present shown (show 0 < hvTraceTailRecords.toNat by
      rw [records]; omega)] at expected
    rw [slot, zeroAsked, if_pos ⟨by omega, by rw [passes, first]⟩, TraceRun.ring_writing inside,
      if_neg (by rw [first]; decide), first] at expected
    exact expected

theorem cpu_of_crashSnapshotCount {maxSnapshots : Nat}
    (shown : cpu < crashSnapshotCount processorCount maxSnapshots) : cpu < processorCount := by
  unfold crashSnapshotCount at shown
  split at shown <;> omega

/-- Whatever the other recorders hold, the tail of a processor tells the truth
about its run exactly when each of its records can be told from zeroed memory. -/
theorem captureTraceTail_honest_iff (run : TraceRun) (vcpus : Nat → VcpuTrace)
    (processorCount maxSnapshots cpu : Nat) (found : vcpus cpu = run.crashed)
    (shown : cpu < crashSnapshotCount processorCount maxSnapshots) :
    HonestTail run (fun j =>
        captureTraceTail (some vcpus) processorCount
          (crashSnapshotCount processorCount maxSnapshots)
          (cpu * hvTraceTailRecords.toNat + j)) ↔
      Recognisable run := by
  have present := cpu_of_crashSnapshotCount shown
  exact ⟨recognisable_of_honestTail found present shown,
    honestTail_of_recognisable found present shown⟩

def vmExitCall : TraceCall :=
  { cpu := 0, event := 18, arg0 := 1, arg1 := 2, arg2 := 3, arg3 := 4, tsc := 1000,
    lifecycle := 2, stage := 3 }

/-- Six hundred completed calls and a crash inside the next. -/
def lapped : TraceRun := { calls := fun _ => vmExitCall, completed := 600, stored := some 4 }

theorem captureTraceTail_honest_lapped :
    HonestTail lapped fun j =>
      captureTraceTail (some fun _ => lapped.crashed) 1 (crashSnapshotCount 1 1)
        (0 * hvTraceTailRecords.toNat + j) := by
  refine (captureTraceTail_honest_iff lapped (fun _ => lapped.crashed) 1 1 0 rfl (by decide)).mpr ?_
  refine ⟨Or.inl (by decide), ?_⟩
  intro k inside first
  exact absurd first (by decide)

/-- The crash comes in the very first call, after its store of the time stamp:
the half-written record has the sequence number zero that is asked for. -/
def firstCall : TraceRun := { calls := fun _ => vmExitCall, completed := 0, stored := some 1 }

theorem captureTraceTail_shows_unfinished :
    ¬HonestTail firstCall fun j =>
      captureTraceTail (some fun _ => firstCall.crashed) 1 (crashSnapshotCount 1 1)
        (0 * hvTraceTailRecords.toNat + j) := by
  intro honest
  have blank := honest.writing 0 (by decide) (by decide)
  have shown : (captureTraceTail (some fun _ => firstCall.crashed) 1 (crashSnapshotCount 1 1)
      (0 * hvTraceTailRecords.toNat + 0)).tsc = 1000 := by decide
  simp only [blank] at shown
  exact absurd shown (by decide)

end Knhv.Crash
