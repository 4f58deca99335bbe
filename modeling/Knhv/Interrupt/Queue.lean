import Knhv.Interrupt.Model

namespace Knhv.Interrupt

/-- What the state check asks, said of the queue as a list. -/
structure StateSound (state : InterruptState) : Prop where
  header : isStateHeaderValid state = true
  events : ∀ event ∈ queue state,
    isInterruptEventValid (some event) = true ∧ event.generation = state.generation
  distinct : ((queue state).map (·.sequence)).Nodup
  tail : ∀ slot, state.pendingCount.toNat ≤ slot.val → state.pending slot = InterruptEvent.zero

theorem count_le_of_header {state : InterruptState} (header : isStateHeaderValid state = true) :
    state.pendingCount.toNat ≤ kInterruptQueueDepth := by
  simp only [isStateHeaderValid, Bool.and_eq_true, decide_eq_true_eq] at header
  exact header.1.1.1.2

theorem isInterruptStateValid_iff {state : InterruptState} :
    isInterruptStateValid state = true ↔ StateSound state := by
  simp only [isInterruptStateValid, Bool.and_eq_true, List.all_eq_true, List.mem_finRange,
    true_implies, Bool.or_eq_true, Bool.not_eq_true', decide_eq_false_iff_not, isPendingEntryValid,
    beq_iff_eq, Bool.and_eq_false_imp, decide_eq_true_eq, beq_eq_false_iff_ne]
  constructor
  · rintro ⟨⟨header, used⟩, unused⟩
    have fits := count_le_of_header header
    refine ⟨header, fun event member => ?_, ?_, fun slot after => ?_⟩
    · obtain ⟨slot, inside, rfl⟩ := ArrayQueue.mem_contents.mp member
      exact ((used slot).resolve_left (by omega)).1
    · refine (ArrayQueue.nodup_map_contents_iff fits).mpr fun first second before inside => ?_
      exact ((used second).resolve_left (by omega)).2 first before
    · exact (unused slot).resolve_left (by omega)
  · intro sound
    have fits := count_le_of_header sound.header
    refine ⟨⟨sound.header, fun index => ?_⟩, fun index => ?_⟩
    · by_cases inside : index.val < state.pendingCount.toNat
      · refine Or.inr ⟨sound.events _ (ArrayQueue.mem_contents.mpr ⟨index, inside, rfl⟩), ?_⟩
        intro prior before
        exact (ArrayQueue.nodup_map_contents_iff fits).mp sound.distinct prior index before inside
      · exact Or.inl inside
    · by_cases after : state.pendingCount.toNat ≤ index.val
      · exact Or.inr (sound.tail index after)
      · exact Or.inl after

theorem StateSound.count_le {state : InterruptState} (sound : StateSound state) :
    state.pendingCount.toNat ≤ kInterruptQueueDepth := count_le_of_header sound.header

theorem StateSound.length_queue {state : InterruptState} (sound : StateSound state) :
    (queue state).length = state.pendingCount.toNat :=
  ArrayQueue.length_contents state.pending sound.count_le

/-- The events that the enqueue takes in. -/
structure Accepts (state : InterruptState) (event : InterruptEvent) : Prop where
  sound : StateSound state
  valid : isInterruptEventValid (some event) = true
  generation : event.generation = state.generation
  room : state.pendingCount.toNat < kInterruptQueueDepth
  fresh : ∀ other ∈ queue state, other.sequence ≠ event.sequence
  bounded : event.sequence ≠ ~~~0

theorem enqueueInterrupt_cases (state : InterruptState) (given : Option InterruptEvent) :
    ((enqueueInterrupt state given).1 ≠ .Ready ∧ (enqueueInterrupt state given).2 = state) ∨
      ∃ event, given = some event ∧ Accepts state event ∧
        enqueueInterrupt state given = (.Ready, pushPending state event) := by
  cases given with
  | none => exact Or.inl ⟨nofun, rfl⟩
  | some event =>
    simp only [enqueueInterrupt]
    split
    · exact Or.inl ⟨nofun, rfl⟩
    rename_i accepted
    simp only [Bool.or_eq_true, Bool.not_eq_true', not_or, Bool.not_eq_false] at accepted
    split
    · exact Or.inl ⟨nofun, rfl⟩
    rename_i sameGeneration
    split
    · exact Or.inl ⟨nofun, rfl⟩
    rename_i room
    split
    · exact Or.inl ⟨nofun, rfl⟩
    rename_i fresh
    split
    · exact Or.inl ⟨nofun, rfl⟩
    rename_i bounded
    refine Or.inr ⟨event, rfl, ⟨isInterruptStateValid_iff.mp accepted.1, accepted.2, ?_, ?_, ?_, ?_⟩,
      rfl⟩
    · simpa using sameGeneration
    · omega
    · simpa using fresh
    · simpa using bounded

theorem Accepts.count_push {state : InterruptState} {event : InterruptEvent}
    (accepts : Accepts state event) :
    (pushPending state event).pendingCount.toNat = state.pendingCount.toNat + 1 := by
  have room := accepts.room
  have depth : kInterruptQueueDepth = 32 := rfl
  simp only [pushPending, BitVec.toNat_add]
  have one : (1 : U32).toNat = 1 := rfl
  omega

theorem Accepts.queue_push {state : InterruptState} {event : InterruptEvent}
    (accepts : Accepts state event) :
    queue (pushPending state event) = queue state ++ [event] := by
  rw [queue, accepts.count_push]
  exact ArrayQueue.contents_push state.pending accepts.room event

/-- The counter after an event has been taken in: above the event, and not
below what it was. -/
theorem Accepts.nextSequence_push {state : InterruptState} {event : InterruptEvent}
    (accepts : Accepts state event) :
    event.sequence < (pushPending state event).nextSequence ∧
      state.nextSequence ≤ (pushPending state event).nextSequence := by
  have largest : event.sequence.toNat ≠ 2 ^ 64 - 1 := by
    intro same
    exact accepts.bounded (BitVec.eq_of_toNat_eq (by rw [same]; rfl))
  have inside := event.sequence.isLt
  have succ : (event.sequence + 1).toNat = event.sequence.toNat + 1 := by
    rw [BitVec.toNat_add]
    have one : (1 : U64).toNat = 1 := rfl
    omega
  simp only [pushPending]
  split
  · rename_i above
    simp only [BitVec.lt_def, BitVec.le_def, succ] at above ⊢
    omega
  · rename_i below
    simp only [BitVec.lt_def, BitVec.le_def] at below ⊢
    omega

theorem Accepts.header_push {state : InterruptState} {event : InterruptEvent}
    (accepts : Accepts state event) : isStateHeaderValid (pushPending state event) = true := by
  have header := accepts.sound.header
  have count := accepts.count_push
  have room := accepts.room
  have above := accepts.nextSequence_push.1
  have positive : (pushPending state event).nextSequence ≠ 0 := by
    intro zero
    rw [zero, BitVec.lt_def] at above
    exact Nat.not_lt_zero _ above
  simp only [isStateHeaderValid, Bool.and_eq_true, decide_eq_true_eq, bne_iff_ne, ne_eq] at header ⊢
  refine ⟨⟨⟨⟨⟨⟨header.1.1.1.1.1.1, header.1.1.1.1.1.2⟩, positive⟩, ?_⟩, header.1.1.2⟩, header.1.2⟩,
    header.2⟩
  omega

theorem Accepts.sound_push {state : InterruptState} {event : InterruptEvent}
    (accepts : Accepts state event) : StateSound (pushPending state event) := by
  refine ⟨accepts.header_push, fun other member => ?_, ?_, fun slot after => ?_⟩
  · rw [accepts.queue_push, List.mem_append, List.mem_singleton] at member
    rcases member with old | rfl
    · exact accepts.sound.events other old
    · exact ⟨accepts.valid, accepts.generation⟩
  · rw [accepts.queue_push, List.map_append, List.nodup_append]
    refine ⟨accepts.sound.distinct, List.nodup_singleton _, fun sequence member other here => ?_⟩
    obtain ⟨old, inQueue, rfl⟩ := List.mem_map.mp member
    simp only [List.map_cons, List.map_nil, List.mem_singleton] at here
    rw [here]
    exact accepts.fresh old inQueue
  · rw [accepts.count_push] at after
    have elsewhere : slot.val ≠ state.pendingCount.toNat := by omega
    simp only [pushPending, ArrayQueue.store, if_neg elsewhere]
    exact accepts.sound.tail slot (by omega)

/-- The decisions that the commit acts on, with the place of their event. -/
structure Commits (state : InterruptState) (decision : InterruptDecision)
    (index : Fin kInterruptQueueDepth) : Prop where
  sound : StateSound state
  committable : isDecisionCommittable state decision = true
  used : index.val < state.pendingCount.toNat
  same : isSameEvent (state.pending index) decision = true

theorem commitSlot_some {state : InterruptState} {decision : InterruptDecision}
    {index : Fin kInterruptQueueDepth}
    (found : commitSlot state decision = some index) : Commits state decision index := by
  simp only [commitSlot] at found
  split at found
  · cases found
  rename_i accepted
  simp only [Bool.or_eq_true, Bool.not_eq_true', not_or, Bool.not_eq_false] at accepted
  obtain ⟨used, same⟩ := ArrayQueue.findSlot_some found
  exact ⟨isInterruptStateValid_iff.mp accepted.1, accepted.2, used, same⟩

theorem commitInterruptInjection_cases (state : InterruptState)
    (given : Option InterruptDecision) :
    commitInterruptInjection state given = (false, state) ∨
      ∃ decision index, given = some decision ∧ commitSlot state decision = some index ∧
        Commits state decision index ∧
        commitInterruptInjection state given = (true, committed state decision index) := by
  cases given with
  | none => exact Or.inl rfl
  | some decision =>
    cases found : commitSlot state decision with
    | none =>
      left
      unfold commitInterruptInjection
      simp only [found]
    | some index =>
      refine Or.inr ⟨decision, index, rfl, found, commitSlot_some found, ?_⟩
      unfold commitInterruptInjection
      simp only [found]

/-- A committable decision that names a pending event is committed. -/
theorem commitInterruptInjection_of_match {state : InterruptState} {decision : InterruptDecision}
    (sound : StateSound state) (committable : isDecisionCommittable state decision = true)
    {event : InterruptEvent} (member : event ∈ queue state)
    (same : isSameEvent event decision = true) :
    (commitInterruptInjection state (some decision)).1 = true := by
  have found : (commitSlot state decision).isSome = true := by
    rw [commitSlot, isInterruptStateValid_iff.mpr sound, committable, if_neg (by decide)]
    exact ArrayQueue.findSlot_isSome_iff.mpr ⟨event, member, same⟩
  obtain ⟨index, slot⟩ := Option.isSome_iff_exists.mp found
  unfold commitInterruptInjection
  simp only [slot]

theorem Commits.count_remove {state : InterruptState} {decision : InterruptDecision}
    {index : Fin kInterruptQueueDepth} (commits : Commits state decision index) :
    (removePending state index).pendingCount.toNat + 1 = state.pendingCount.toNat := by
  have used := commits.used
  have one : (1 : U32).toNat = 1 := rfl
  have inside := state.pendingCount.isLt
  simp only [removePending, BitVec.toNat_sub]
  omega

theorem Commits.queue_remove {state : InterruptState} {decision : InterruptDecision}
    {index : Fin kInterruptQueueDepth} (commits : Commits state decision index) :
    queue (removePending state index) = (queue state).eraseIdx index.val := by
  have count := commits.count_remove
  have used := commits.used
  have fits := commits.sound.count_le
  rw [queue, queue, ← count]
  have removed : (removePending state index).pending =
      ArrayQueue.store (ArrayQueue.shiftDown state.pending index.val
        ((removePending state index).pendingCount.toNat + 1))
        (removePending state index).pendingCount.toNat InterruptEvent.zero := by
    rw [count]
    rfl
  rw [removed]
  exact ArrayQueue.contents_remove state.pending (by omega) (by omega) InterruptEvent.zero

theorem Commits.sound_remove {state : InterruptState} {decision : InterruptDecision}
    {index : Fin kInterruptQueueDepth} (commits : Commits state decision index) :
    StateSound (removePending state index) := by
  have count := commits.count_remove
  have fits := commits.sound.count_le
  refine ⟨?_, fun event member => ?_, ?_, fun slot after => ?_⟩
  · have header := commits.sound.header
    simp only [isStateHeaderValid, Bool.and_eq_true, decide_eq_true_eq] at header ⊢
    refine ⟨⟨⟨⟨header.1.1.1.1, ?_⟩, header.1.1.2⟩, header.1.2⟩, header.2⟩
    omega
  · rw [commits.queue_remove] at member
    exact commits.sound.events event (List.mem_of_mem_eraseIdx member)
  · rw [commits.queue_remove]
    exact commits.sound.distinct.sublist ((List.eraseIdx_sublist _ _).map _)
  · simp only [removePending, ArrayQueue.store]
    split
    · rfl
    · rename_i elsewhere
      rw [ArrayQueue.shiftDown, dif_neg (by simp only [removePending] at after elsewhere count; omega)]
      refine commits.sound.tail slot ?_
      simp only [removePending] at after elsewhere count
      omega

theorem queue_committed (state : InterruptState) (decision : InterruptDecision)
    (index : Fin kInterruptQueueDepth) :
    queue (committed state decision index) = queue (removePending state index) := by
  simp only [committed]
  split
  · rfl
  · rfl

theorem nextSequence_committed (state : InterruptState) (decision : InterruptDecision)
    (index : Fin kInterruptQueueDepth) :
    (committed state decision index).nextSequence = state.nextSequence := by
  simp only [committed]
  split
  · rfl
  · rfl

theorem or_blockNmi_known {word : U32} (known : word &&& ~~~kInterruptKnownBlockMask = 0) :
    (word ||| kInterruptBlockNmi) &&& ~~~kInterruptKnownBlockMask = 0 := by
  have inside : kInterruptBlockNmi &&& ~~~kInterruptKnownBlockMask = 0 := by decide
  rw [BitVec.and_comm, BitVec.and_or_distrib_left, BitVec.and_comm, known, BitVec.and_comm, inside]
  rfl

theorem Commits.sound_committed {state : InterruptState} {decision : InterruptDecision}
    {index : Fin kInterruptQueueDepth} (commits : Commits state decision index) :
    StateSound (committed state decision index) := by
  have sound := commits.sound_remove
  have sameQueue := queue_committed state decision index
  simp only [committed] at sameQueue ⊢
  split
  · refine ⟨?_, sound.events, sound.distinct, sound.tail⟩
    have header := sound.header
    simp only [isStateHeaderValid, Bool.and_eq_true, beq_iff_eq] at header ⊢
    exact ⟨⟨⟨header.1.1.1, or_blockNmi_known header.1.1.2⟩, header.1.2⟩, header.2⟩
  · exact sound

end Knhv.Interrupt
