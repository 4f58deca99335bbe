import Mathlib.Algebra.Group.Nat.Defs
import Knhv.Interrupt.History
import Knhv.Lib.Bits

namespace Knhv.Interrupt

/-- Whether a vector is set in the request bitmap. -/
def isPosted (descriptor : PostedInterruptDescriptor) (vector : Nat) : Bool :=
  if inside : vector / 32 < 8 then (descriptor.pir ⟨vector / 32, inside⟩).getLsbD (vector % 32)
  else false

/-- The vectors of the bitmap below a bound, in the order of the loops. -/
def postedBelow (descriptor : PostedInterruptDescriptor) (bound : Nat) : List Nat :=
  (List.range bound).filter (isPosted descriptor)

/-- The state takes in one more event with its own next number. -/
structure HasSlot (state : InterruptState) : Prop where
  room : state.pendingCount.toNat < kInterruptQueueDepth
  fresh : ∀ event ∈ queue state, event.sequence ≠ state.nextSequence
  bounded : state.nextSequence ≠ ~~~0

/-- The drain after its loops have passed the vectors below a bound, with the
events that it has made. -/
structure DrainedTo (descriptor : PostedInterruptDescriptor) (state : InterruptState)
    (bound : Nat) (drain : Drain) (events : List InterruptEvent) : Prop where
  chain : Enqueues state events drain.state
  kinds : ∀ event ∈ events, event.kind = kKindVirtual
  vectors : events.map (·.vector.toNat) <+: postedBelow descriptor bound
  numbers : events.map (·.sequence.toNat) = List.range' state.nextSequence.toNat events.length
  next : drain.state.nextSequence.toNat = state.nextSequence.toNat + events.length
  frame : drain.descriptor = { descriptor with pir := drain.descriptor.pir }
  cleared : ∀ vector, isPosted drain.descriptor vector =
    (isPosted descriptor vector && !(events.map (·.vector.toNat)).contains vector)
  running : drain.returned = none → events.map (·.vector.toNat) = postedBelow descriptor bound
  stopped : drain.returned.isSome = true → ¬HasSlot drain.state ∧
    events.map (·.vector.toNat) ≠ postedBelow descriptor bound

theorem isPosted_place (descriptor : PostedInterruptDescriptor) (word : Fin 8) {bit : Nat}
    (inside : bit < 32) :
    isPosted descriptor (32 * word.val + bit) = (descriptor.pir word).getLsbD bit := by
  have quotient : (32 * word.val + bit) / 32 = word.val := by omega
  have rest : (32 * word.val + bit) % 32 = bit := by omega
  simp only [isPosted, quotient, rest, word.isLt, dif_pos]

theorem exists_place {vector : Nat} (inside : vector < 256) :
    ∃ (word : Fin 8) (bit : Nat), bit < 32 ∧ vector = 32 * word.val + bit :=
  ⟨⟨vector / 32, by omega⟩, vector % 32, Nat.mod_lt _ (by decide), by simp only; omega⟩

theorem isPosted_of_le (descriptor : PostedInterruptDescriptor) {vector : Nat}
    (outside : 256 ≤ vector) : isPosted descriptor vector = false :=
  dif_neg (by omega)

theorem postedBelow_succ (descriptor : PostedInterruptDescriptor) (bound : Nat) :
    postedBelow descriptor (bound + 1) =
      postedBelow descriptor bound ++ if isPosted descriptor bound then [bound] else [] := by
  rw [postedBelow, List.range_succ, List.filter_append, List.filter_singleton, Bool.cond_eq_ite]
  rfl

theorem mem_postedBelow {descriptor : PostedInterruptDescriptor} {bound vector : Nat} :
    vector ∈ postedBelow descriptor bound ↔ vector < bound ∧ isPosted descriptor vector = true := by
  simp only [postedBelow, List.mem_filter, List.mem_range]

/-- Clearing the bit of a vector takes that vector out. -/
theorem isPosted_clear (descriptor : PostedInterruptDescriptor) (word : Fin 8) {bit : Nat}
    (inside : bit < 32) (vector : Nat) :
    isPosted { descriptor with
        pir := Function.update descriptor.pir word (descriptor.pir word &&& ~~~(1#32 <<< bit)) }
      vector = (isPosted descriptor vector && vector != 32 * word.val + bit) := by
  by_cases below : vector < 256
  swap
  · rw [isPosted_of_le _ (by omega), isPosted_of_le _ (by omega)]
    rfl
  obtain ⟨other, place, within, rfl⟩ := exists_place below
  rw [isPosted_place _ other within, isPosted_place _ other within]
  by_cases sameWord : other = word
  · subst sameWord
    dsimp only
    rw [Function.update_self, Bits.getLsbD_and_not_one_shiftLeft _ bit within]
    by_cases same : place = bit
    · subst same
      simp only [bne_self_eq_false]
    · have apart : 32 * other.val + place ≠ 32 * other.val + bit := by omega
      rw [bne_iff_ne.mpr same, bne_iff_ne.mpr apart]
  · have apart : 32 * other.val + place ≠ 32 * word.val + bit := by
      have values : other.val ≠ word.val := fun same => sameWord (Fin.ext same)
      omega
    dsimp only
    rw [Function.update_of_ne sameWord, bne_iff_ne.mpr apart, Bool.and_true]

theorem toNat_vector (word : Fin 8) {bit : Nat} (inside : bit < 32)
    (generation sourceId sequence : U64) :
    (postedEvent word bit generation sourceId sequence).vector.toNat = 32 * word.val + bit := by
  have small := word.isLt
  simp only [postedEvent, BitVec.toNat_add, BitVec.toNat_shiftLeft, BitVec.toNat_ofNat,
    Nat.shiftLeft_eq]
  omega

theorem postedEvent_valid {word : Fin 8} {bit : Nat} (inside : bit < 32)
    {generation sourceId sequence : U64} (external : 32 ≤ 32 * word.val + bit)
    (current : generation ≠ 0) (counting : sequence ≠ 0) :
    isInterruptEventValid (some (postedEvent word bit generation sourceId sequence)) = true := by
  have vector := toNat_vector word inside generation sourceId sequence
  have small := word.isLt
  have inRange : isVectorValid kKindVirtual
      (postedEvent word bit generation sourceId sequence).vector = true := by
    have from32 : kInterruptVectorFirstExternal ≤
        (postedEvent word bit generation sourceId sequence).vector := by
      rw [BitVec.le_def, vector]
      exact external
    have below256 : (postedEvent word bit generation sourceId sequence).vector <
        kInterruptVectorCount := by
      rw [BitVec.lt_def, vector]
      show _ < 256
      omega
    have virtual : (kKindVirtual == kKindHardwareException) = false := by decide
    simp only [isVectorValid, virtual, Bool.false_eq_true, if_false, beq_self_eq_true,
      Bool.or_true, if_true, from32, below256, decide_true, Bool.and_self]
  have header : isVersionedSizeValid kInterruptContractVersion sizeofInterruptEvent
      sizeofInterruptEvent = true ∧ isKindValid kKindVirtual = true := by decide
  have flagged : kInterruptEventPosted ||| kInterruptEventFromDevice = 6#32 := by decide
  simp only [postedEvent] at inRange
  refine (if_neg ?_).trans ((if_neg ?_).trans (if_neg ?_))
  · rw [Bool.not_eq_true]
    simp only [postedEvent, inRange, header, beq_eq_false_iff_ne.mpr current,
      beq_eq_false_iff_ne.mpr counting, flagged]
    decide
  · simp only [postedEvent, flagged]
    decide
  · simp only [postedEvent, flagged]
    decide

theorem StateSound.generation_ne_zero {state : InterruptState} (sound : StateSound state) :
    state.generation ≠ 0 := by
  have header := sound.header
  simp only [isStateHeaderValid, Bool.and_eq_true, bne_iff_ne, ne_eq] at header
  exact header.1.1.1.1.1.2

/-- A vector is taken in exactly if the state has a place and a number for it. -/
theorem accepts_postedEvent_iff {state : InterruptState} (sound : StateSound state)
    {word : Fin 8} {bit : Nat} (inside : bit < 32) (external : 32 ≤ 32 * word.val + bit)
    (sourceId : U64) :
    Accepts state (postedEvent word bit state.generation sourceId state.nextSequence) ↔
      HasSlot state := by
  constructor
  · intro accepts
    exact ⟨accepts.room, accepts.fresh, accepts.bounded⟩
  · intro slot
    exact ⟨sound, postedEvent_valid inside external sound.generation_ne_zero sound.counting, rfl,
      slot.room, slot.fresh, slot.bounded⟩

theorem Accepts.ready {state : InterruptState} {event : InterruptEvent}
    (accepts : Accepts state event) :
    enqueueInterrupt state (some event) = (.Ready, pushPending state event) := by
  have room := accepts.room
  have valid := isInterruptStateValid_iff.mpr accepts.sound
  have fresh : (queue state).any (·.sequence == event.sequence) = false := by
    simpa using accepts.fresh
  simp only [enqueueInterrupt, valid, accepts.valid, accepts.generation, fresh, bne_self_eq_false,
    Bool.not_true, Bool.or_self, Bool.false_eq_true, if_false, beq_iff_eq, accepts.bounded]
  rw [if_neg (by omega)]

/-- An event with the next number moves the counter by one. -/
theorem Accepts.nextSequence_succ {state : InterruptState} {event : InterruptEvent}
    (accepts : Accepts state event) (next : event.sequence = state.nextSequence) :
    (pushPending state event).nextSequence.toNat = state.nextSequence.toNat + 1 := by
  have largest : state.nextSequence.toNat ≠ 2 ^ 64 - 1 := by
    intro same
    exact accepts.bounded (BitVec.eq_of_toNat_eq (by rw [next, same]; rfl))
  have inside := state.nextSequence.isLt
  have one : (1 : U64).toNat = 1 := rfl
  rw [pushPending, next, if_pos (BitVec.le_refl _), BitVec.toNat_add]
  omega

theorem DrainedTo.start (descriptor : PostedInterruptDescriptor) (state : InterruptState) :
    DrainedTo descriptor state 0 ⟨descriptor, state, false, none⟩ [] := by
  refine ⟨.none, nofun, List.prefix_rfl, rfl, rfl, rfl, fun vector => ?_, fun _ => rfl, nofun⟩
  simp

/-- A vector that is passed over: it is not set, or the drain has left its
loops. -/
theorem DrainedTo.skip {descriptor : PostedInterruptDescriptor} {state : InterruptState}
    {bound : Nat} {drain : Drain} {events : List InterruptEvent}
    (drained : DrainedTo descriptor state bound drain events)
    (passed : drain.returned.isSome = true ∨ isPosted descriptor bound = false) :
    DrainedTo descriptor state (bound + 1) drain events := by
  have grows : postedBelow descriptor bound <+: postedBelow descriptor (bound + 1) := by
    rw [postedBelow_succ]
    exact List.prefix_append _ _
  refine { drained with
    vectors := drained.vectors.trans grows
    running := fun going => ?_
    stopped := fun left => ⟨(drained.stopped left).1, fun same => ?_⟩ }
  · have clear : isPosted descriptor bound = false := by
      rcases passed with left | clear
      · rw [going] at left
        cases left
      · exact clear
    rw [drained.running going, postedBelow_succ, clear]
    exact (List.append_nil _).symm
  · -- The events are a prefix of the shorter list, so they cannot be the longer one.
    refine (drained.stopped left).2 (drained.vectors.eq_of_length_le ?_)
    rw [same]
    exact grows.length_le

/-- A vector that finds no place or no number. -/
theorem DrainedTo.stop {descriptor : PostedInterruptDescriptor} {state : InterruptState}
    {bound : Nat} {drain : Drain} {events : List InterruptEvent}
    (drained : DrainedTo descriptor state bound drain events) (status : InterruptStatus)
    (posted : isPosted descriptor bound = true) (refused : ¬HasSlot drain.state) :
    DrainedTo descriptor state (bound + 1) { drain with returned := some status } events := by
  have longer : postedBelow descriptor (bound + 1) = postedBelow descriptor bound ++ [bound] := by
    rw [postedBelow_succ, posted]
    rfl
  refine { drained with
    vectors := drained.vectors.trans (longer ▸ List.prefix_append _ _)
    running := nofun
    stopped := fun _ => ⟨refused, fun same => ?_⟩ }
  have short := drained.vectors.length_le
  rw [same, longer, List.length_append, List.length_singleton] at short
  omega

/-- A vector that is taken in. -/
theorem DrainedTo.deliver {descriptor : PostedInterruptDescriptor} {state : InterruptState}
    {word : Fin 8} {bit : Nat} {drain : Drain} {events : List InterruptEvent}
    {generation sourceId : U64} (inside : bit < 32)
    (drained : DrainedTo descriptor state (32 * word.val + bit) drain events)
    (posted : isPosted descriptor (32 * word.val + bit) = true) (going : drain.returned = none)
    (accepts : Accepts drain.state
      (postedEvent word bit generation sourceId drain.state.nextSequence)) :
    DrainedTo descriptor state (32 * word.val + bit + 1)
      { descriptor :=
          { drain.descriptor with
            pir := Function.update drain.descriptor.pir word
              (drain.descriptor.pir word &&& ~~~(1#32 <<< bit)) }
        state := pushPending drain.state
          (postedEvent word bit generation sourceId drain.state.nextSequence)
        drained := true
        returned := none }
      (events ++ [postedEvent word bit generation sourceId drain.state.nextSequence]) := by
  have vector := toNat_vector word inside generation sourceId drain.state.nextSequence
  have all : (events ++ [postedEvent word bit generation sourceId drain.state.nextSequence]).map
      (·.vector.toNat) = postedBelow descriptor (32 * word.val + bit + 1) := by
    rw [List.map_append, drained.running going, postedBelow_succ, posted, List.map_singleton, vector]
    rfl
  refine ⟨drained.chain.next accepts.ready, fun event member => ?_, all ▸ List.prefix_rfl, ?_, ?_,
    ?_, fun other => ?_, fun _ => all, nofun⟩
  · rcases List.mem_append.mp member with old | new
    · exact drained.kinds event old
    · rw [List.mem_singleton.mp new]
      rfl
  · rw [List.map_append, drained.numbers, List.length_append, List.length_singleton,
      List.range'_1_concat, List.map_singleton]
    exact congrArg (fun number => _ ++ [number]) drained.next
  · rw [List.length_append, List.length_singleton, accepts.nextSequence_succ rfl, drained.next]
    omega
  · exact congrArg (fun old : PostedInterruptDescriptor =>
      { old with
        pir := Function.update drain.descriptor.pir word
          (drain.descriptor.pir word &&& ~~~(1#32 <<< bit)) }) drained.frame
  · rw [isPosted_clear _ word inside, drained.cleared, List.map_append, List.map_singleton, vector]
    rw [List.contains_append, List.contains_cons, List.contains_nil, Bool.or_false, Bool.not_or,
      Bool.and_assoc]
    rfl

theorem DrainedTo.sound {descriptor : PostedInterruptDescriptor} {state : InterruptState}
    {bound : Nat} {drain : Drain} {events : List InterruptEvent}
    (drained : DrainedTo descriptor state bound drain events) (sound : StateSound state) :
    StateSound drain.state :=
  drained.chain.keeps (fun _ _ _ accepts => accepts.sound_push) sound

/-- The body of the inner loop, where `bits` is the word as it was before. -/
theorem DrainedTo.drainBit {descriptor : PostedInterruptDescriptor} {state : InterruptState}
    {word : Fin 8} {bit : Nat} {bits : U32} {drain : Drain} {events : List InterruptEvent}
    (sourceId : U64) (sound : StateSound state) (inside : bit < 32)
    (external : isPosted descriptor (32 * word.val + bit) = true → 32 ≤ 32 * word.val + bit)
    (read : bits.getLsbD bit = isPosted descriptor (32 * word.val + bit))
    (drained : DrainedTo descriptor state (32 * word.val + bit) drain events) :
    ∃ events, DrainedTo descriptor state (32 * word.val + bit + 1)
      (drainBit word bits state.generation sourceId drain bit) events := by
  have later := drained.sound sound
  have same : drain.state.generation = state.generation :=
    drained.chain.keeps (P := fun later => later.generation = state.generation)
      (fun _ _ held _ => held) rfl
  unfold Interrupt.drainBit
  dsimp only
  split
  · rename_i left
    exact ⟨events, drained.skip (Or.inl left)⟩
  rename_i running
  have going : drain.returned = none := by simpa using running
  split
  · rename_i clear
    refine ⟨events, drained.skip (Or.inr ?_)⟩
    rw [← read, ← Bool.not_eq_true, ← Bits.and_one_shiftLeft_ne_zero bits inside]
    simpa using clear
  rename_i set
  have posted : isPosted descriptor (32 * word.val + bit) = true := by
    rw [← read, ← Bits.and_one_shiftLeft_ne_zero bits inside]
    simpa using set
  have slot := accepts_postedEvent_iff later inside (external posted) sourceId
  rw [same] at slot
  split
  · rename_i exhausted
    refine ⟨events, drained.stop .Conflict posted fun open' => ?_⟩
    exact open'.bounded (by simpa using exhausted)
  rcases enqueueInterrupt_cases drain.state
    (some (postedEvent word bit state.generation sourceId drain.state.nextSequence)) with
    ⟨failed, unchanged⟩ | ⟨event, made, accepts, ready⟩
  · rw [if_pos (bne_iff_ne.mpr failed), unchanged]
    refine ⟨events, drained.stop _ posted fun open' => ?_⟩
    rw [(slot.mpr open').ready] at failed
    exact failed rfl
  · cases made
    rw [ready]
    exact ⟨_, drained.deliver inside posted going accepts⟩

/-- The inner loop. -/
theorem DrainedTo.drainWord {descriptor : PostedInterruptDescriptor} {state : InterruptState}
    {word : Fin 8} {drain : Drain} {events : List InterruptEvent} (sourceId : U64)
    (sound : StateSound state)
    (external : ∀ vector, isPosted descriptor vector = true → 32 ≤ vector)
    (drained : DrainedTo descriptor state (32 * word.val) drain events) :
    ∃ events, DrainedTo descriptor state (32 * (word.val + 1))
      (drainWord state.generation sourceId drain word) events := by
  have read (bit : Nat) (inside : bit < 32) :
      (drain.descriptor.pir word).getLsbD bit = isPosted descriptor (32 * word.val + bit) := by
    -- The vectors of this word have not been passed, so none of them is cleared yet.
    have ahead : (events.map (·.vector.toNat)).contains (32 * word.val + bit) = false := by
      rw [← Bool.not_eq_true, List.contains_iff_mem]
      intro member
      have below := (mem_postedBelow.mp (drained.vectors.subset member)).1
      omega
    rw [← isPosted_place _ word inside, drained.cleared, ahead]
    exact Bool.and_true _
  have loop (count : Nat) (inside : count ≤ 32) :
      ∃ events, DrainedTo descriptor state (32 * word.val + count)
        ((List.range count).foldl
          (Interrupt.drainBit word (drain.descriptor.pir word) state.generation sourceId) drain)
        events := by
    induction count with
    | zero => exact ⟨events, drained⟩
    | succ count ih =>
      obtain ⟨_, before⟩ := ih (by omega)
      rw [List.range_succ, List.foldl_append]
      exact before.drainBit sourceId sound (by omega) (external _) (read count (by omega))
  exact loop 32 (Nat.le_refl _)

/-- The loops of the drain. -/
theorem drainWords_drainedTo {descriptor : PostedInterruptDescriptor} {state : InterruptState}
    (sourceId : U64) (sound : StateSound state)
    (external : ∀ vector, isPosted descriptor vector = true → 32 ≤ vector) :
    ∃ events, DrainedTo descriptor state 256
      (drainWords descriptor state state.generation sourceId) events := by
  exact Run.foldl_finRange
    (P := fun count drain => ∃ events, DrainedTo descriptor state (32 * count) drain events)
    ⟨[], .start descriptor state⟩
    (fun _ _ ⟨_, drained⟩ => drained.drainWord sourceId sound external)

/-- The vectors that a descriptor holds, in order. -/
def postedVectors (descriptor : PostedInterruptDescriptor) : List Nat := postedBelow descriptor 256

/-- How many of the events carry a vector. -/
def deliveries (events : List InterruptEvent) (vector : Nat) : Nat :=
  events.countP fun event => event.vector.toNat == vector

/-- What a drain makes of a descriptor and a queue: every vector that was set
is still set or has become one event, and nothing else happens to the queue. -/
structure DrainsOnce (before : PostedInterruptDescriptor) (state : InterruptState)
    (after : PostedInterruptDescriptor) (later : InterruptState) (events : List InterruptEvent) :
    Prop where
  queue : queue later = queue state ++ events
  virtual : ∀ event ∈ events, event.kind = kKindVirtual
  posted : ∀ vector, isPosted before vector = true →
    (isPosted after vector = true ∧ deliveries events vector = 0) ∨
      (isPosted after vector = false ∧ deliveries events vector = 1)
  others : ∀ vector, isPosted before vector = false →
    isPosted after vector = false ∧ deliveries events vector = 0
  vectors : (events.map (·.vector)).Pairwise (· < ·)
  sequences : (events.map (·.sequence)).Pairwise (· < ·)

/-- The state takes in a number of events with its own next numbers. -/
structure HasRoom (state : InterruptState) (count : Nat) : Prop where
  room : state.pendingCount.toNat + count ≤ kInterruptQueueDepth
  fresh : ∀ event ∈ queue state, event.sequence.toNat < state.nextSequence.toNat ∨
    state.nextSequence.toNat + count ≤ event.sequence.toNat
  bounded : state.nextSequence.toNat + count < 2 ^ 64

theorem postedVectors_pairwise (descriptor : PostedInterruptDescriptor) :
    (postedVectors descriptor).Pairwise (· < ·) :=
  List.Pairwise.filter _ List.pairwise_lt_range

theorem mem_postedVectors {descriptor : PostedInterruptDescriptor} {vector : Nat} :
    vector ∈ postedVectors descriptor ↔ isPosted descriptor vector = true := by
  rw [postedVectors, mem_postedBelow]
  refine and_iff_right_of_imp fun posted => ?_
  by_contra outside
  rw [isPosted_of_le descriptor (by omega)] at posted
  cases posted

theorem deliveries_eq_count (events : List InterruptEvent) (vector : Nat) :
    deliveries events vector = (events.map (·.vector.toNat)).count vector := by
  rw [deliveries, List.count, List.countP_map]
  rfl

theorem DrainedTo.pairwise {descriptor : PostedInterruptDescriptor} {state : InterruptState}
    {drain : Drain} {events : List InterruptEvent}
    (drained : DrainedTo descriptor state 256 drain events) :
    (events.map (·.vector.toNat)).Pairwise (· < ·) :=
  (postedVectors_pairwise descriptor).sublist drained.vectors.sublist

theorem DrainedTo.once {descriptor : PostedInterruptDescriptor} {state : InterruptState}
    {drain : Drain} {events : List InterruptEvent}
    (drained : DrainedTo descriptor state 256 drain events) :
    DrainsOnce descriptor state drain.descriptor drain.state events := by
  have ordered := drained.pairwise
  refine ⟨drained.chain.queue_eq, drained.kinds, fun vector posted => ?_, fun vector clear => ?_,
    ?_, ?_⟩
  · rw [drained.cleared, posted, Bool.true_and, deliveries_eq_count]
    by_cases delivered : vector ∈ events.map (·.vector.toNat)
    · rw [List.contains_iff_mem.mpr delivered]
      exact Or.inr ⟨rfl, List.count_eq_one_of_mem ordered.nodup delivered⟩
    · rw [Bool.eq_false_iff.mpr (fun held => delivered (List.contains_iff_mem.mp held))]
      exact Or.inl ⟨rfl, List.count_eq_zero_of_not_mem delivered⟩
  · refine ⟨by rw [drained.cleared, clear, Bool.false_and], ?_⟩
    rw [deliveries_eq_count]
    refine List.count_eq_zero_of_not_mem fun member => ?_
    rw [mem_postedVectors.mp (drained.vectors.subset member)] at clear
    cases clear
  · rw [List.pairwise_map] at ordered ⊢
    exact ordered
  · have numbers : (events.map (·.sequence.toNat)).Pairwise (· < ·) := by
      rw [drained.numbers]
      exact List.pairwise_lt_range'
    rw [List.pairwise_map] at numbers ⊢
    exact numbers

theorem DrainedTo.sequence_lt {descriptor : PostedInterruptDescriptor} {state : InterruptState}
    {bound : Nat} {drain : Drain} {events : List InterruptEvent}
    (drained : DrainedTo descriptor state bound drain events) {event : InterruptEvent}
    (member : event ∈ events) :
    state.nextSequence.toNat ≤ event.sequence.toNat ∧
      event.sequence.toNat < drain.state.nextSequence.toNat := by
  have listed : event.sequence.toNat ∈ events.map (·.sequence.toNat) :=
    List.mem_map.mpr ⟨event, member, rfl⟩
  rw [drained.numbers, List.mem_range'_1] at listed
  rw [drained.next]
  exact listed

theorem DrainedTo.count {descriptor : PostedInterruptDescriptor} {state : InterruptState}
    {bound : Nat} {drain : Drain} {events : List InterruptEvent} (sound : StateSound state)
    (drained : DrainedTo descriptor state bound drain events) :
    drain.state.pendingCount.toNat = state.pendingCount.toNat + events.length := by
  have later := drained.sound sound
  rw [← later.length_queue, drained.chain.queue_eq, List.length_append, sound.length_queue]

/-- The drain empties the bitmap exactly if the queue has places and numbers
for all of it. -/
theorem DrainedTo.empties_iff {descriptor : PostedInterruptDescriptor} {state : InterruptState}
    {drain : Drain} {events : List InterruptEvent} (sound : StateSound state)
    (drained : DrainedTo descriptor state 256 drain events) :
    events.map (·.vector.toNat) = postedVectors descriptor ↔
      HasRoom state (postedVectors descriptor).length := by
  have later := drained.sound sound
  have count := drained.count sound
  constructor
  · intro all
    have length : events.length = (postedVectors descriptor).length := by
      rw [← all, List.length_map]
    rw [← length]
    refine ⟨count ▸ later.count_le, fun event member => ?_, ?_⟩
    · by_contra taken
      -- A pending event with one of the numbers would stand twice in the queue.
      have listed : event.sequence.toNat ∈ events.map (·.sequence.toNat) := by
        rw [drained.numbers, List.mem_range'_1]
        omega
      obtain ⟨other, made, same⟩ := List.mem_map.mp listed
      have distinct := later.distinct
      rw [drained.chain.queue_eq, List.map_append, List.nodup_append] at distinct
      exact distinct.2.2 _ (List.mem_map.mpr ⟨event, member, rfl⟩) _
        (List.mem_map.mpr ⟨other, made, rfl⟩) (BitVec.eq_of_toNat_eq same.symm)
    · rw [← drained.next]
      exact drain.state.nextSequence.isLt
  · intro fits
    by_contra short
    have left : drain.returned.isSome = true := by
      cases status : drain.returned with
      | none => exact absurd (drained.running status) short
      | some status => rfl
    have fewer : events.length < (postedVectors descriptor).length := by
      have most := drained.vectors.length_le
      rw [List.length_map] at most
      refine lt_of_le_of_ne most fun same => short (drained.vectors.eq_of_length ?_)
      rw [List.length_map]
      exact same
    have room := fits.room
    have bounded := fits.bounded
    have next := drained.next
    refine (drained.stopped left).1 ⟨by omega, fun event member same => ?_, fun same => ?_⟩
    · rw [drained.chain.queue_eq] at member
      have number := congrArg BitVec.toNat same
      rcases List.mem_append.mp member with old | new
      · have apart := fits.fresh event old
        omega
      · have below := (drained.sequence_lt new).2
        omega
    · have number := congrArg BitVec.toNat same
      have largest : (~~~0 : U64).toNat = 2 ^ 64 - 1 := by decide
      omega

/-- The descriptor that a drain leaves. -/
def drainedDescriptor (descriptor : PostedInterruptDescriptor) (state : InterruptState)
    (generation sourceId : U64) : PostedInterruptDescriptor :=
  (drainPostedInterrupt (some descriptor) state generation sourceId).2.1.getD descriptor

/-- Every vector that is set becomes one event. -/
def Delivers (descriptor : PostedInterruptDescriptor) (state : InterruptState) (sourceId : U64) :
    Prop :=
  ∀ vector, isPosted descriptor vector = true →
    isPosted (drainedDescriptor descriptor state descriptor.generation sourceId) vector = false ∧
      deliveries (drainedEvents (some descriptor) state descriptor.generation sourceId) vector = 1

theorem drainPostedInterrupt_refused {descriptor : PostedInterruptDescriptor}
    {state : InterruptState} {generation : U64}
    (other : ¬(descriptor.generation = generation ∧ state.generation = generation))
    (sourceId : U64) :
    (drainPostedInterrupt (some descriptor) state generation sourceId).2 =
      (some descriptor, state) := by
  simp only [drainPostedInterrupt]
  split
  · rfl
  · rw [if_pos]
    simp only [Bool.or_eq_true, bne_iff_ne, ne_eq]
    by_contra same
    exact other (by simpa using same)

theorem drainPostedInterrupt_current {descriptor : PostedInterruptDescriptor}
    {state : InterruptState} (valid : isPostedInterruptValid descriptor = true)
    (sound : StateSound state) (current : state.generation = descriptor.generation)
    (sourceId : U64) :
    (drainPostedInterrupt (some descriptor) state descriptor.generation sourceId).2 =
      (some (drainWords descriptor state descriptor.generation sourceId).descriptor,
        (drainWords descriptor state descriptor.generation sourceId).state) := by
  simp only [drainPostedInterrupt, valid, isInterruptStateValid_iff.mpr sound, current,
    bne_self_eq_false, Bool.not_true, Bool.or_self, Bool.false_eq_true, if_false]

/-- The drain of a current descriptor runs its loops to the end of the bitmap. -/
theorem drainedTo_current {descriptor : PostedInterruptDescriptor} {state : InterruptState}
    (valid : isPostedInterruptValid descriptor = true)
    (external : ∀ vector, isPosted descriptor vector = true → 32 ≤ vector)
    (sound : StateSound state) (current : state.generation = descriptor.generation)
    (sourceId : U64) :
    ∃ drain : Drain,
      (drainPostedInterrupt (some descriptor) state descriptor.generation sourceId).2 =
        (some drain.descriptor, drain.state) ∧
      drainedDescriptor descriptor state descriptor.generation sourceId = drain.descriptor ∧
      DrainedTo descriptor state 256 drain
        (drainedEvents (some descriptor) state descriptor.generation sourceId) := by
  have done := drainPostedInterrupt_current valid sound current sourceId
  obtain ⟨events, drained⟩ := drainWords_drainedTo sourceId sound external
  rw [current] at drained
  refine ⟨_, done, by rw [drainedDescriptor, done]; rfl, ?_⟩
  have same : drainedEvents (some descriptor) state descriptor.generation sourceId = events := by
    rw [drainedEvents, done, drained.chain.queue_eq, List.drop_left]
  rw [same]
  exact drained

theorem drainsOnce_refl (descriptor : PostedInterruptDescriptor) (state : InterruptState) :
    DrainsOnce descriptor state descriptor state [] :=
  ⟨(List.append_nil _).symm, nofun, fun _ posted => Or.inl ⟨posted, rfl⟩,
    fun _ clear => ⟨clear, rfl⟩, List.Pairwise.nil, List.Pairwise.nil⟩

/-- What is left after a drain can be drained again. -/
theorem drainedDescriptor_again {descriptor : PostedInterruptDescriptor} {state : InterruptState}
    (valid : isPostedInterruptValid descriptor = true)
    (external : ∀ vector, isPosted descriptor vector = true → 32 ≤ vector)
    (sound : StateSound state) (generation sourceId : U64) :
    DrainsOnce descriptor state (drainedDescriptor descriptor state generation sourceId)
        (drainPostedInterrupt (some descriptor) state generation sourceId).2.2
        (drainedEvents (some descriptor) state generation sourceId) ∧
      drainedDescriptor descriptor state generation sourceId =
        { descriptor with pir := (drainedDescriptor descriptor state generation sourceId).pir } := by
  by_cases same : descriptor.generation = generation ∧ state.generation = generation
  · obtain ⟨rfl, current⟩ := same
    obtain ⟨drain, done, left, drained⟩ := drainedTo_current valid external sound current sourceId
    rw [left, done]
    exact ⟨drained.once, drained.frame⟩
  · have refused := drainPostedInterrupt_refused same sourceId
    rw [drainedDescriptor, drainedEvents, refused, List.drop_length]
    exact ⟨drainsOnce_refl descriptor state, rfl⟩

theorem delivers_iff {descriptor : PostedInterruptDescriptor} {state : InterruptState}
    (valid : isPostedInterruptValid descriptor = true)
    (external : ∀ vector, isPosted descriptor vector = true → 32 ≤ vector)
    (sound : StateSound state) (current : state.generation = descriptor.generation)
    (sourceId : U64) :
    Delivers descriptor state sourceId ↔ HasRoom state (postedVectors descriptor).length := by
  obtain ⟨drain, done, left, drained⟩ := drainedTo_current valid external sound current sourceId
  rw [← drained.empties_iff sound]
  constructor
  · intro delivers
    refine drained.vectors.eq_of_length_le ?_
    refine (List.Pairwise.nodup (postedVectors_pairwise descriptor)).subperm ?_ |>.length_le
    intro vector member
    have once := (delivers vector (mem_postedVectors.mp member)).2
    rw [deliveries_eq_count] at once
    exact List.count_pos_iff.mp (by omega)
  · intro all vector posted
    have made := all ▸ mem_postedVectors.mpr posted
    rw [left, drained.cleared, List.contains_iff_mem.mpr made, deliveries_eq_count]
    exact ⟨Bool.and_false _, List.count_eq_one_of_mem drained.pairwise.nodup made⟩

/-- The drain, for every valid descriptor and state and however it ends: each
vector stays set or becomes one event, and what stays set is delivered by a
later drain exactly if the queue then has places and free numbers for it. -/
theorem drainPostedInterrupt_once {descriptor : PostedInterruptDescriptor} {state : InterruptState}
    (valid : isPostedInterruptValid descriptor = true)
    (external : ∀ vector, isPosted descriptor vector = true → 32 ≤ vector)
    (stateValid : isInterruptStateValid state = true) (generation sourceId : U64) :
    DrainsOnce descriptor state (drainedDescriptor descriptor state generation sourceId)
        (drainPostedInterrupt (some descriptor) state generation sourceId).2.2
        (drainedEvents (some descriptor) state generation sourceId) ∧
      ∀ later laterSource, isInterruptStateValid later = true →
        later.generation = descriptor.generation →
        (Delivers (drainedDescriptor descriptor state generation sourceId) later laterSource ↔
          HasRoom later
            (postedVectors (drainedDescriptor descriptor state generation sourceId)).length) := by
  have sound := isInterruptStateValid_iff.mp stateValid
  obtain ⟨once, frame⟩ := drainedDescriptor_again valid external sound generation sourceId
  refine ⟨once, fun later laterSource laterValid current => ?_⟩
  refine delivers_iff ?_ (fun vector posted => external vector ?_)
    (isInterruptStateValid_iff.mp laterValid) ?_ laterSource
  · rw [frame]
    exact valid
  · by_contra clear
    rw [(once.others vector (by simpa using clear)).1] at posted
    cases posted
  · rw [frame]
    exact current

theorem external_of_word {descriptor : PostedInterruptDescriptor} (clear : descriptor.pir 0 = 0)
    (vector : Nat) (posted : isPosted descriptor vector = true) : 32 ≤ vector := by
  by_contra inside
  have first : vector / 32 = 0 := by omega
  simp only [isPosted, first] at posted
  rw [dif_pos (by decide)] at posted
  change (descriptor.pir 0).getLsbD (vector % 32) = true at posted
  rw [clear] at posted
  simp at posted

/-- A descriptor with the vectors 0x45 and 0xE0. -/
def twoPosted : PostedInterruptDescriptor where
  size := sizeofPostedInterruptDescriptor
  version := kInterruptContractVersion
  notificationVector := 0xF0
  suppressNotification := 0
  reserved := 0
  reserved2 := 0
  pir := fun word => if word = 2 then 0x20 else if word = 7 then 0x1 else 0
  generation := 1

theorem drainPostedInterrupt_once_two :
    DrainsOnce twoPosted emptyState (drainedDescriptor twoPosted emptyState 1 77)
      (drainPostedInterrupt (some twoPosted) emptyState 1 77).2.2
      (drainedEvents (some twoPosted) emptyState 1 77) :=
  (drainPostedInterrupt_once (by decide) (external_of_word (by decide)) (by decide +kernel) 1 77).1

/-- A queue whose last number but one has been used. -/
def lastNumberState : InterruptState :=
  (enqueueInterrupt emptyState (some (nmiEvent 0xFFFFFFFFFFFFFFFE))).2

/-- With no number left, no room that is made in the queue lets the remaining
vectors through. -/
theorem exhausted_numbers_keep_vectors :
    ¬∀ (descriptor : PostedInterruptDescriptor) (state : InterruptState)
        (decisions : List InterruptDecision) (sourceId : U64),
      isPostedInterruptValid descriptor = true →
      (∀ vector, isPosted descriptor vector = true → 32 ≤ vector) →
      isInterruptStateValid state = true →
      (Run.after queueStep
          (drainPostedInterrupt (some descriptor) state descriptor.generation sourceId).2.2
          (decisions.map fun decision => .commit (some decision))).pendingCount.toNat +
        (postedVectors
          (drainedDescriptor descriptor state descriptor.generation sourceId)).length ≤
          kInterruptQueueDepth →
      Delivers (drainedDescriptor descriptor state descriptor.generation sourceId)
        (Run.after queueStep
          (drainPostedInterrupt (some descriptor) state descriptor.generation sourceId).2.2
          (decisions.map fun decision => .commit (some decision))) sourceId := by
  intro delivers
  have gone := (delivers twoPosted lastNumberState
    [readyDecision 1 (nmiEvent 0xFFFFFFFFFFFFFFFE)] 77 (by decide) (external_of_word (by decide))
    (by decide +kernel) (by decide +kernel) 0x45 (by decide +kernel)).1
  revert gone
  decide +kernel

end Knhv.Interrupt
