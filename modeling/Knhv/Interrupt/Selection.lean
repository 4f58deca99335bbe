import Knhv.Interrupt.Nmi

namespace Knhv.Interrupt

/-- The event whose turn it is: of the events that are not blocked, one of the
highest class and, within the class, the oldest. -/
structure IsNext (state : InterruptState) (event : InterruptEvent) : Prop where
  pending : event ∈ queue state
  unblocked : isBlocked state event = false
  first : ∀ other ∈ queue state, isBlocked state other = false → other ≠ event →
    priority other < priority event ∨
      (priority other = priority event ∧ event.sequence < other.sequence)

/-- The state after an event has been injected, field by field. -/
structure Injected (state : InterruptState) (event : InterruptEvent) (after : InterruptState) :
    Prop where
  queue : queue after = (queue state).filter (· != event)
  count : after.pendingCount.toNat + 1 = state.pendingCount.toNat
  freed : ∀ slot, after.pendingCount.toNat ≤ slot.val → after.pending slot = InterruptEvent.zero
  rest : after =
    { state with
      pending := after.pending
      pendingCount := after.pendingCount
      interruptibility :=
        if event.kind = kKindNmi then state.interruptibility ||| kInterruptBlockNmi
        else state.interruptibility }

def isUnblocked (state : InterruptState) (event : InterruptEvent) : Bool := !isBlocked state event

theorem selectEvent_eq (state : InterruptState) :
    selectEvent state = Argmax.scan (isUnblocked state) isPreferred (queue state) :=
  selectEvent_scan state

theorem StateSound.sequence_injective {state : InterruptState} (sound : StateSound state)
    {left right : InterruptEvent} (leftIn : left ∈ queue state) (rightIn : right ∈ queue state)
    (same : left.sequence = right.sequence) : left = right :=
  List.inj_on_of_nodup_map sound.distinct leftIn rightIn same

/-- Of two pending events one comes before the other. -/
theorem StateSound.isPreferred_total {state : InterruptState} (sound : StateSound state)
    (left : InterruptEvent) (leftIn : left ∈ queue state) (right : InterruptEvent)
    (rightIn : right ∈ queue state) (ahead : isPreferred left right = false)
    (behind : isPreferred right left = false) : left = right := by
  refine sound.sequence_injective leftIn rightIn ?_
  rw [← Bool.not_eq_true, isPreferred_iff] at ahead behind
  simp only [BitVec.lt_def, ← BitVec.toNat_inj] at ahead behind ⊢
  omega

theorem StateSound.isNext_of_selected {state : InterruptState} (sound : StateSound state)
    {event : InterruptEvent} (selected : selectEvent state = some event) : IsNext state event := by
  rw [selectEvent_eq] at selected
  have best := Argmax.scan_best isPreferred_irreflexive isPreferred_transitive selected
  refine ⟨best.member, by simpa [isUnblocked] using best.admitted, ?_⟩
  intro other member unblocked differs
  have loses := best.unbeaten other member (by simp [isUnblocked, unblocked])
  refine isPreferred_iff.mp ?_ |>.imp_right fun ⟨same, less⟩ => ⟨same.symm, less⟩
  by_contra ahead
  rw [Bool.not_eq_true] at ahead
  exact differs (sound.isPreferred_total other member event best.member loses ahead)

theorem selectEvent_eq_none_iff {state : InterruptState} :
    selectEvent state = none ↔ ∀ event ∈ queue state, isBlocked state event = true := by
  rw [selectEvent_eq, Argmax.scan_eq_none_iff]
  simp only [isUnblocked, Bool.not_eq_false']

/-- What is selected from a state that passes its check. -/
theorem selectInterrupt_of_valid {state : InterruptState}
    (valid : isInterruptStateValid state = true) :
    (∃ event, selectEvent state = some event ∧
        selectInterrupt (some state) state.generation true =
          (.Ready, some (readyDecision state.generation event))) ∨
      (selectEvent state = none ∧
        (selectInterrupt (some state) state.generation true).1 ≠ .Ready) := by
  simp only [selectInterrupt, valid, Bool.not_true, Bool.false_eq_true, if_false, bne_self_eq_false]
  split
  · rename_i empty
    have blank : queue state = [] := by
      rw [queue, beq_iff_eq.mp empty]
      rfl
    refine Or.inr ⟨?_, InterruptStatus.noConfusion⟩
    rw [selectEvent, blank]
    rfl
  · cases selected : selectEvent state with
    | none => exact Or.inr ⟨rfl, InterruptStatus.noConfusion⟩
    | some event => exact Or.inl ⟨event, rfl, rfl⟩

theorem isSameEvent_readyDecision {event : InterruptEvent} {generation : U64}
    (current : event.generation = generation) :
    isSameEvent event (readyDecision generation event) = true := by
  simp [isSameEvent, readyDecision, initializeDecision, current]

theorem Commits.getElem_queue {state : InterruptState} {decision : InterruptDecision}
    {index : Fin kInterruptQueueDepth} (commits : Commits state decision index) :
    (queue state)[index.val]? = some (state.pending index) :=
  ArrayQueue.getElem?_contents state.pending commits.used index.isLt

/-- The entry that is taken out is the only one with its number. -/
theorem Commits.queue_filter {state : InterruptState} {decision : InterruptDecision}
    {index : Fin kInterruptQueueDepth} (commits : Commits state decision index) :
    (queue state).eraseIdx index.val = (queue state).filter (· != state.pending index) := by
  have nodup : (queue state).Nodup := List.Nodup.of_map _ commits.sound.distinct
  obtain ⟨inside, here⟩ := List.getElem?_eq_some_iff.mp commits.getElem_queue
  rw [← nodup.erase_getElem index.val inside, here, nodup.erase_eq_filter]

theorem Commits.injected {state : InterruptState} {event : InterruptEvent}
    {index : Fin kInterruptQueueDepth}
    (commits : Commits state (readyDecision state.generation event) index)
    (same : state.pending index = event) :
    Injected state event (committed state (readyDecision state.generation event) index) := by
  have sound := commits.sound_committed
  refine ⟨?_, ?_, sound.tail, ?_⟩
  · rw [queue_committed, commits.queue_remove, commits.queue_filter, same]
  · rw [← commits.count_remove, committed]
    split
    · rfl
    · rfl
  · simp only [committed, readyDecision, beq_iff_eq]
    split
    · rfl
    · rfl

/-- Committing what was selected. -/
theorem IsNext.commit {state : InterruptState} {event : InterruptEvent} (sound : StateSound state)
    (next : IsNext state event) :
    (commitInterruptInjection state (some (readyDecision state.generation event))).1 = true ∧
      Injected state event
        (commitInterruptInjection state (some (readyDecision state.generation event))).2 := by
  obtain ⟨valid, current⟩ := sound.events event next.pending
  have success := commitInterruptInjection_of_match sound (readyDecision_committable valid)
    next.pending (isSameEvent_readyDecision current)
  refine ⟨success, ?_⟩
  rcases commitInterruptInjection_cases state
    (some (readyDecision state.generation event)) with failed | ⟨_, index, same, _, commits, done⟩
  · rw [failed] at success
    cases success
  cases same
  have member : state.pending index ∈ queue state :=
    ArrayQueue.mem_contents.mpr ⟨index, commits.used, rfl⟩
  have sameNumber : (state.pending index).sequence = event.sequence := by
    have same := commits.same
    simp only [isSameEvent, Bool.and_eq_true, beq_iff_eq] at same
    exact same.1.2
  rw [done]
  exact commits.injected (sound.sequence_injective member next.pending sameNumber)

/-- The state with its pending entries in another order. -/
def shuffled (state : InterruptState) (shuffle : Equiv.Perm (Fin kInterruptQueueDepth)) :
    InterruptState :=
  { state with pending := state.pending ∘ shuffle }

/-- The orders of the pending entries: the unused places stay. -/
def KeepsUnused (state : InterruptState) (shuffle : Equiv.Perm (Fin kInterruptQueueDepth)) : Prop :=
  ∀ slot, state.pendingCount.toNat ≤ slot.val → shuffle slot = slot

theorem queue_shuffled {state : InterruptState} {shuffle : Equiv.Perm (Fin kInterruptQueueDepth)}
    (keeps : KeepsUnused state shuffle) : (queue (shuffled state shuffle)).Perm (queue state) :=
  ArrayQueue.contents_shuffle state.pending shuffle keeps

theorem StateSound.shuffled {state : InterruptState} (sound : StateSound state)
    {shuffle : Equiv.Perm (Fin kInterruptQueueDepth)} (keeps : KeepsUnused state shuffle) :
    StateSound (shuffled state shuffle) where
  header := sound.header
  events := fun event member => sound.events event ((queue_shuffled keeps).subset member)
  distinct := (((queue_shuffled keeps).map _).nodup_iff).mpr sound.distinct
  tail := fun slot unused => by
    show state.pending (shuffle slot) = _
    rw [keeps slot unused]
    exact sound.tail slot unused

theorem selectEvent_shuffled {state : InterruptState} (sound : StateSound state)
    {shuffle : Equiv.Perm (Fin kInterruptQueueDepth)} (keeps : KeepsUnused state shuffle) :
    selectEvent (shuffled state shuffle) = selectEvent state := by
  rw [selectEvent_eq, selectEvent_eq]
  exact Argmax.scan_perm isPreferred_irreflexive isPreferred_transitive sound.isPreferred_total
    (queue_shuffled keeps).symm

theorem selectInterrupt_shuffled {state : InterruptState}
    (valid : isInterruptStateValid state = true)
    {shuffle : Equiv.Perm (Fin kInterruptQueueDepth)} (keeps : KeepsUnused state shuffle) :
    selectInterrupt (some (shuffled state shuffle)) state.generation true =
      selectInterrupt (some state) state.generation true := by
  have sound := isInterruptStateValid_iff.mp valid
  have stays := isInterruptStateValid_iff.mpr (sound.shuffled keeps)
  have sameEvent := selectEvent_shuffled sound keeps
  simp only [selectInterrupt, valid, stays, sameEvent]
  rfl

/-- The selection and the injection, for every valid state: the choice is the
event whose turn it is, whatever the order of the entries, and committing it
takes out that event and nothing else. -/
theorem selectInterrupt_next {state : InterruptState} (valid : isInterruptStateValid state = true) :
    ((selectInterrupt (some state) state.generation true).1 = .Ready ↔
        ∃ event ∈ queue state, isBlocked state event = false) ∧
      (∀ shuffle, KeepsUnused state shuffle →
        selectInterrupt (some (shuffled state shuffle)) state.generation true =
          selectInterrupt (some state) state.generation true) ∧
      ((selectInterrupt (some state) state.generation true).1 = .Ready →
        ∃ event, IsNext state event ∧
          (selectInterrupt (some state) state.generation true).2 =
            some (readyDecision state.generation event) ∧
          (commitInterruptInjection state
            (selectInterrupt (some state) state.generation true).2).1 = true ∧
          Injected state event (commitInterruptInjection state
            (selectInterrupt (some state) state.generation true).2).2) := by
  have sound := isInterruptStateValid_iff.mp valid
  refine ⟨?_, fun _ => selectInterrupt_shuffled valid, ?_⟩
  · rcases selectInterrupt_of_valid valid with ⟨event, selected, done⟩ | ⟨nothing, failed⟩
    · have next := sound.isNext_of_selected selected
      rw [done]
      exact iff_of_true rfl ⟨event, next.pending, next.unblocked⟩
    · refine iff_of_false failed ?_
      rintro ⟨event, member, unblocked⟩
      rw [selectEvent_eq_none_iff.mp nothing event member] at unblocked
      cases unblocked
  · intro ready
    rcases selectInterrupt_of_valid valid with ⟨event, selected, done⟩ | ⟨_, failed⟩
    · have next := sound.isNext_of_selected selected
      rw [done]
      exact ⟨event, next, rfl, next.commit sound⟩
    · exact absurd ready failed

/-- Two NMIs, of which the later one has the lower number. -/
def twoNmis : InterruptState :=
  (enqueueInterrupt (enqueueInterrupt emptyState (some (nmiEvent 7))).2 (some (nmiEvent 3))).2

theorem selectInterrupt_next_two_nmis :
    ∃ event, IsNext twoNmis event ∧
      (selectInterrupt (some twoNmis) twoNmis.generation true).2 =
        some (readyDecision twoNmis.generation event) ∧
      (commitInterruptInjection twoNmis
        (selectInterrupt (some twoNmis) twoNmis.generation true).2).1 = true ∧
      Injected twoNmis event (commitInterruptInjection twoNmis
        (selectInterrupt (some twoNmis) twoNmis.generation true).2).2 :=
  (selectInterrupt_next (by decide +kernel)).2.2 (by decide +kernel)

/-- The decision and the returned status say the same. -/
def DecisionAgrees (result : InterruptStatus × Option InterruptDecision) : Prop :=
  ∀ decision, result.2 = some decision →
    decision.status = result.1.word ∧
      (decision.action = InterruptAction.Inject.word ↔ result.1 = .Ready)

/-- The inputs that the selection does not refuse. -/
def isCurrentState (state : Option InterruptState) (generation : U64) : Bool :=
  state.any fun state => isInterruptStateValid state && state.generation == generation

theorem waitWindow_ne_inject : InterruptAction.WaitWindow.word ≠ InterruptAction.Inject.word := by
  decide

theorem quarantine_ne_inject : InterruptAction.Quarantine.word ≠ InterruptAction.Inject.word := by
  decide

theorem selectInterrupt_refused {state : Option InterruptState} {generation : U64}
    (refused : isCurrentState state generation = false) :
    (selectInterrupt state generation true).1 ≠ .Ready ∧
      (selectInterrupt state generation true).2 =
        some { initializeDecision generation with action := InterruptAction.Quarantine.word } := by
  cases state with
  | none => exact ⟨InterruptStatus.noConfusion, rfl⟩
  | some state =>
    simp only [isCurrentState, Option.any_some, Bool.and_eq_false_iff] at refused
    simp only [selectInterrupt, Bool.not_true, Bool.false_eq_true, if_false]
    split
    · exact ⟨InterruptStatus.noConfusion, rfl⟩
    · rename_i valid
      rcases refused with invalid | stale
      · exact absurd (by simp [invalid]) valid
      · rw [if_pos (by simpa using stale)]
        exact ⟨InterruptStatus.noConfusion, rfl⟩

theorem selectInterrupt_agrees {state : InterruptState} {generation : U64}
    (current : isCurrentState (some state) generation = true) :
    DecisionAgrees (selectInterrupt (some state) generation true) := by
  simp only [isCurrentState, Option.any_some, Bool.and_eq_true, beq_iff_eq] at current
  obtain ⟨valid, rfl⟩ := current
  intro decision written
  simp only [selectInterrupt, valid, Bool.not_true, Bool.false_eq_true, if_false,
    bne_self_eq_false] at written ⊢
  split at written
  · rename_i empty
    cases written
    rw [if_pos empty]
    exact ⟨rfl, iff_of_false waitWindow_ne_inject InterruptStatus.noConfusion⟩
  · rename_i pending
    rw [if_neg pending]
    cases selected : selectEvent state with
    | none =>
      rw [selected] at written
      cases written
      exact ⟨rfl, iff_of_false waitWindow_ne_inject InterruptStatus.noConfusion⟩
    | some event =>
      rw [selected] at written
      cases written
      exact ⟨rfl, iff_of_true rfl rfl⟩

/-- Whether the action says to inject is right on every path. -/
theorem selectInterrupt_inject_iff {state : Option InterruptState} {generation : U64}
    {decision : InterruptDecision}
    (written : (selectInterrupt state generation true).2 = some decision) :
    decision.action = InterruptAction.Inject.word ↔
      (selectInterrupt state generation true).1 = .Ready := by
  cases current : isCurrentState state generation with
  | false =>
    obtain ⟨failed, quarantined⟩ := selectInterrupt_refused current
    rw [quarantined] at written
    cases written
    exact iff_of_false quarantine_ne_inject failed
  | true =>
    cases state with
    | none => cases current
    | some state => exact (selectInterrupt_agrees current decision written).2

/-- The status in the decision is the returned one exactly if the state is
valid and of the asked generation: a refusal returns its status and leaves
`Ready` in the decision. -/
theorem selectInterrupt_agrees_iff (state : Option InterruptState) (generation : U64)
    (wanted : Bool) :
    DecisionAgrees (selectInterrupt state generation wanted) ↔
      (wanted = true → isCurrentState state generation = true) := by
  cases wanted with
  | false => exact iff_of_true (fun _ written => by cases written) nofun
  | true =>
    simp only [true_implies]
    constructor
    · intro agrees
      by_contra refused
      obtain ⟨failed, quarantined⟩ := selectInterrupt_refused (by simpa using refused)
      have same := (agrees _ quarantined).1
      cases status : (selectInterrupt state generation true).1 with
      | Ready => exact failed status
      | NoPending | Blocked | Invalid | GenerationMismatch | QueueFull | Conflict =>
        rw [status] at same
        revert same
        simp only [initializeDecision]
        decide
    · intro current
      cases state with
      | none => cases current
      | some state => exact selectInterrupt_agrees current

/-- A valid state of another generation is refused, and the decision says
`Ready`. -/
theorem stale_generation_says_ready :
    isInterruptStateValid emptyState = true ∧
      ¬∀ state generation wanted, DecisionAgrees (selectInterrupt state generation wanted) := by
  refine ⟨by decide +kernel, fun agrees => ?_⟩
  have refused : isCurrentState (some emptyState) 2 = false := by decide +kernel
  obtain ⟨failed, quarantined⟩ := selectInterrupt_refused refused
  have same := (agrees (some emptyState) 2 true _ quarantined).1
  revert same
  decide +kernel

end Knhv.Interrupt
