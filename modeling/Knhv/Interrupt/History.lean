import Knhv.Interrupt.Queue
import Knhv.Lib.Ledger
import Knhv.Lib.Run

namespace Knhv.Interrupt

/-- A chain of calls of the enqueue that all succeed, with the events that they
are given. -/
inductive Enqueues (start : InterruptState) : List InterruptEvent → InterruptState → Prop
  | none : Enqueues start [] start
  | next {events : List InterruptEvent} {state after : InterruptState} {event : InterruptEvent} :
      Enqueues start events state → enqueueInterrupt state (some event) = (.Ready, after) →
      Enqueues start (events ++ [event]) after

theorem accepts_of_ready {state after : InterruptState} {event : InterruptEvent}
    (ready : enqueueInterrupt state (some event) = (.Ready, after)) :
    Accepts state event ∧ after = pushPending state event := by
  rcases enqueueInterrupt_cases state (some event) with ⟨failed, _⟩ | ⟨given, same, accepts, done⟩
  · rw [ready] at failed
    exact absurd rfl failed
  · cases same
    rw [ready] at done
    exact ⟨accepts, (Prod.mk.inj done).2⟩

theorem enqueueInterrupt_failed {state : InterruptState} {event : Option InterruptEvent}
    (failed : (enqueueInterrupt state event).1 ≠ .Ready) :
    (enqueueInterrupt state event).2 = state := by
  rcases enqueueInterrupt_cases state event with ⟨_, same⟩ | ⟨_, _, _, done⟩
  · exact same
  · rw [done] at failed
    exact absurd rfl failed

/-- What a successful call keeps, a chain of them keeps. -/
theorem Enqueues.keeps {P : InterruptState → Prop}
    (keep : ∀ state event, P state → Accepts state event → P (pushPending state event))
    {start after : InterruptState} {events : List InterruptEvent}
    (chain : Enqueues start events after) (holds : P start) : P after := by
  induction chain with
  | none => exact holds
  | next _ ready ih =>
    obtain ⟨accepts, rfl⟩ := accepts_of_ready ready
    exact keep _ _ ih accepts

theorem Enqueues.queue_eq {start after : InterruptState} {events : List InterruptEvent}
    (chain : Enqueues start events after) : queue after = queue start ++ events := by
  induction chain with
  | none => rw [List.append_nil]
  | next _ ready ih =>
    obtain ⟨accepts, rfl⟩ := accepts_of_ready ready
    rw [accepts.queue_push, ih, List.append_assoc]

theorem drainBit_enqueues {start : InterruptState} {word : Fin 8} {bits : U32}
    {generation sourceId : U64} {drain : Drain} (bit : Nat)
    (chain : ∃ events, Enqueues start events drain.state) :
    ∃ events, Enqueues start events (drainBit word bits generation sourceId drain bit).state := by
  unfold drainBit
  dsimp only
  split
  · exact chain
  split
  · exact chain
  split
  · exact chain
  split
  · rename_i failed
    have same := enqueueInterrupt_failed (by simpa using failed)
    rw [same]
    exact chain
  · rename_i ready
    obtain ⟨events, earlier⟩ := chain
    exact ⟨_, earlier.next (Prod.ext (by simpa using ready) rfl)⟩

/-- The drain changes the state only by enqueueing events. -/
theorem drainWords_enqueues (descriptor : PostedInterruptDescriptor) (state : InterruptState)
    (generation sourceId : U64) :
    ∃ events, Enqueues state events (drainWords descriptor state generation sourceId).state := by
  refine Run.invariant_always (P := fun drain : Drain => ∃ events, Enqueues state events drain.state)
    (fun drain word chain => ?_) ⟨[], .none⟩ (List.finRange 8)
  exact Run.invariant_always (P := fun drain : Drain => ∃ events, Enqueues state events drain.state)
    (fun drain bit => drainBit_enqueues bit) chain (List.range 32)

theorem drainPostedInterrupt_enqueues (descriptor : Option PostedInterruptDescriptor)
    (state : InterruptState) (generation sourceId : U64) :
    ∃ events,
      Enqueues state events (drainPostedInterrupt descriptor state generation sourceId).2.2 := by
  cases descriptor with
  | none => exact ⟨[], .none⟩
  | some descriptor =>
    simp only [drainPostedInterrupt]
    split
    · exact ⟨[], .none⟩
    split
    · exact ⟨[], .none⟩
    · dsimp only
      exact drainWords_enqueues descriptor state generation sourceId

/-- The calls that change the state of the queue, with any arguments. -/
inductive QueueInput
  | enqueue (event : Option InterruptEvent)
  | commit (decision : Option InterruptDecision)
  | drain (descriptor : Option PostedInterruptDescriptor) (generation sourceId : U64)

def queueStep (state : InterruptState) : QueueInput → InterruptState
  | .enqueue event => (enqueueInterrupt state event).2
  | .commit decision => (commitInterruptInjection state decision).2
  | .drain descriptor generation sourceId =>
    (drainPostedInterrupt descriptor state generation sourceId).2.2

/-- What a call tells the books: the events it put into the queue, or the place
of the one it took out. -/
inductive QueueEvent
  | accepted (events : List InterruptEvent)
  | removed (place : Nat)
  deriving DecidableEq

def enqueuedEvents (state : InterruptState) (event : Option InterruptEvent) :
    List InterruptEvent :=
  if (enqueueInterrupt state event).1 = .Ready then event.toList else []

/-- The drain calls the enqueue: what it has put in stands behind what was
there. -/
def drainedEvents (descriptor : Option PostedInterruptDescriptor) (state : InterruptState)
    (generation sourceId : U64) : List InterruptEvent :=
  (queue (drainPostedInterrupt descriptor state generation sourceId).2.2).drop (queue state).length

def committedEvent (state : InterruptState) (decision : Option InterruptDecision) : QueueEvent :=
  match decision.bind (commitSlot state) with
  | none => .accepted []
  | some index => .removed index.val

def queueEvent (state : InterruptState) : QueueInput → QueueEvent
  | .enqueue event => .accepted (enqueuedEvents state event)
  | .commit decision => committedEvent state decision
  | .drain descriptor generation sourceId =>
    .accepted (drainedEvents descriptor state generation sourceId)

def nextLedger (ledger : Ledger InterruptEvent) : QueueEvent → Ledger InterruptEvent
  | .accepted events => ledger.accept events
  | .removed place => ledger.remove place

/-- The books of a run. -/
def ledgerOf (events : List QueueEvent) : Ledger InterruptEvent := events.foldl nextLedger .empty

/-- The calls that commit an injection. -/
def isCommit (state : InterruptState) : QueueInput → Bool
  | .commit decision => (commitInterruptInjection state decision).1
  | _ => false

/-- What is true of the queue after every run. -/
structure QueueHolds (state : InterruptState) (ledger : Ledger InterruptEvent) (commits : Nat) :
    Prop where
  valid : isInterruptStateValid state = true
  below : ∀ event ∈ queue state, event.sequence < state.nextSequence
  counting : state.nextSequence ≠ 0
  balanced : ledger.Balanced (queue state)
  removals : ledger.taken.length = commits

/-- What is true of the next call, whatever it is. -/
structure QueueNext (state : InterruptState) : Prop where
  enqueueFailed : ∀ event, (enqueueInterrupt state event).1 ≠ .Ready →
    (enqueueInterrupt state event).2 = state
  commitFailed : ∀ decision, (commitInterruptInjection state decision).1 = false →
    (commitInterruptInjection state decision).2 = state
  enqueued : ∀ event, (enqueueInterrupt state (some event)).1 = .Ready →
    queue (enqueueInterrupt state (some event)).2 = queue state ++ [event]
  removed : ∀ decision, (commitInterruptInjection state (some decision)).1 = true →
    ∃ event ∈ queue state, isSameEvent event decision = true ∧
      (event :: queue (commitInterruptInjection state (some decision)).2).Perm (queue state)
  drained : ∀ descriptor generation sourceId, ∃ events,
    Enqueues state events (drainPostedInterrupt descriptor state generation sourceId).2.2
  counting : ∀ input, state.nextSequence ≤ (queueStep state input).nextSequence

/-- The invariant of the queue. -/
structure QueueInv (state : InterruptState) (ledger : Ledger InterruptEvent) : Prop where
  sound : StateSound state
  below : ∀ event ∈ queue state, event.sequence < state.nextSequence
  balanced : ledger.Balanced (queue state)

theorem below_push {state : InterruptState} {event : InterruptEvent}
    (below : ∀ other ∈ queue state, other.sequence < state.nextSequence)
    (accepts : Accepts state event) :
    ∀ other ∈ queue (pushPending state event),
      other.sequence < (pushPending state event).nextSequence := by
  obtain ⟨above, grows⟩ := accepts.nextSequence_push
  intro other member
  rw [accepts.queue_push, List.mem_append, List.mem_singleton] at member
  rcases member with old | rfl
  · have before := below other old
    rw [BitVec.lt_def] at before ⊢
    rw [BitVec.le_def] at grows
    omega
  · exact above

theorem QueueInv.enqueues {state after : InterruptState} {ledger : Ledger InterruptEvent}
    {events : List InterruptEvent} (inv : QueueInv state ledger)
    (chain : Enqueues state events after) : QueueInv after (ledger.accept events) := by
  refine ⟨?_, ?_, ?_⟩
  · exact chain.keeps (fun _ _ _ accepts => accepts.sound_push) inv.sound
  · exact chain.keeps (P := fun state => ∀ event ∈ queue state, event.sequence < state.nextSequence)
      (fun _ _ below accepts => below_push below accepts) inv.below
  · rw [chain.queue_eq]
    exact inv.balanced.accept events

theorem QueueInv.committed {state : InterruptState} {ledger : Ledger InterruptEvent}
    {decision : InterruptDecision} {index : Fin kInterruptQueueDepth}
    (inv : QueueInv state ledger) (commits : Commits state decision index) :
    QueueInv (committed state decision index) (ledger.remove index.val) := by
  refine ⟨commits.sound_committed, fun event member => ?_, ?_⟩
  · rw [queue_committed, commits.queue_remove] at member
    rw [nextSequence_committed]
    exact inv.below event (List.mem_of_mem_eraseIdx member)
  · rw [queue_committed, commits.queue_remove]
    refine inv.balanced.remove ?_
    rw [inv.sound.length_queue]
    exact commits.used

/-- Every call is a chain of enqueues or one removal, and the books say which. -/
inductive QueueEffect (state : InterruptState) (input : QueueInput) : Prop
  | enqueues {events : List InterruptEvent}
      (event : queueEvent state input = .accepted events)
      (chain : Enqueues state events (queueStep state input))
      (other : isCommit state input = false)
  | commits {decision : InterruptDecision} {index : Fin kInterruptQueueDepth}
      (event : queueEvent state input = .removed index.val)
      (commits : Commits state decision index)
      (after : queueStep state input = committed state decision index)
      (done : isCommit state input = true)

theorem commitSlot_none {state : InterruptState} {decision : InterruptDecision}
    (failed : commitInterruptInjection state (some decision) = (false, state)) :
    commitSlot state decision = none := by
  cases slot : commitSlot state decision with
  | none => rfl
  | some index =>
    unfold commitInterruptInjection at failed
    simp only [slot] at failed
    cases (Prod.mk.inj failed).1

theorem queueStep_effect (state : InterruptState) (input : QueueInput) :
    QueueEffect state input := by
  cases input with
  | enqueue event =>
    have chain : Enqueues state (enqueuedEvents state event)
        (queueStep state (.enqueue event)) := by
      rcases enqueueInterrupt_cases state event with ⟨failed, same⟩ | ⟨given, rfl, accepts, done⟩
      · rw [enqueuedEvents, if_neg failed, queueStep, same]
        exact .none
      · rw [enqueuedEvents, done, if_pos rfl, queueStep]
        exact Enqueues.none.next (Prod.ext (by rw [done]) rfl)
    exact .enqueues rfl chain rfl
  | commit decision =>
    rcases commitInterruptInjection_cases state decision with failed |
      ⟨decision, index, rfl, slot, commits, done⟩
    · have chain : Enqueues state [] (queueStep state (.commit decision)) := by
        rw [queueStep, failed]
        exact .none
      refine .enqueues ?_ chain ?_
      · cases decision with
        | none => rfl
        | some decision => rw [queueEvent, committedEvent, Option.bind_some, commitSlot_none failed]
      · rw [isCommit, failed]
    · refine .commits (by rw [queueEvent, committedEvent, Option.bind_some, slot]) commits ?_ ?_
      · rw [queueStep, done]
      · rw [isCommit, done]
  | drain descriptor generation sourceId =>
    obtain ⟨events, chain⟩ := drainPostedInterrupt_enqueues descriptor state generation sourceId
    refine .enqueues ?_ chain rfl
    rw [queueEvent, drainedEvents, chain.queue_eq, List.drop_left]

theorem QueueInv.step {state : InterruptState} {ledger : Ledger InterruptEvent}
    (inv : QueueInv state ledger) (input : QueueInput) :
    QueueInv (queueStep state input) (nextLedger ledger (queueEvent state input)) := by
  rcases queueStep_effect state input with ⟨event, chain, _⟩ | ⟨event, commits, after, _⟩
  · rw [event]
    exact inv.enqueues chain
  · rw [event, after]
    exact inv.committed commits

/-- The number of successful commits of a run. -/
def commitCount (state : InterruptState) (inputs : List QueueInput) : Nat :=
  (Run.trace queueStep isCommit state inputs).count true

/-- One ticket is taken by every successful commit, and by nothing else. -/
theorem QueueInv.length_taken {state : InterruptState} {ledger : Ledger InterruptEvent}
    (inv : QueueInv state ledger) (input : QueueInput) :
    (nextLedger ledger (queueEvent state input)).taken.length =
      ledger.taken.length + [isCommit state input].count true := by
  cases queueStep_effect state input with
  | enqueues event _ other =>
    rw [event, other]
    rfl
  | @commits decision index event commits _ done =>
    have waits : index.val < ledger.waiting.length := by
      rw [← inv.balanced.length_eq, inv.sound.length_queue]
      exact commits.used
    rw [event, done]
    simp only [nextLedger, Ledger.remove, List.length_append, List.getElem?_eq_getElem waits,
      Option.toList_some, List.length_singleton, List.count_singleton_self]

theorem ledgerOf_snoc (events : List QueueEvent) (event : QueueEvent) :
    ledgerOf (events ++ [event]) = nextLedger (ledgerOf events) event := by
  simp only [ledgerOf, List.foldl_append, List.foldl_cons, List.foldl_nil]

/-- What a whole run keeps, from an empty queue. -/
theorem QueueInv.run {state : InterruptState} (valid : isInterruptStateValid state = true)
    (empty : state.pendingCount = 0) (inputs : List QueueInput) :
    QueueInv (Run.after queueStep state inputs)
        (ledgerOf (Run.trace queueStep queueEvent state inputs)) ∧
      (ledgerOf (Run.trace queueStep queueEvent state inputs)).taken.length =
        commitCount state inputs := by
  induction inputs using List.reverseRecOn with
  | nil =>
    have blank : queue state = [] := by
      rw [queue, empty]
      rfl
    refine ⟨⟨isInterruptStateValid_iff.mp valid, ?_, ?_⟩, rfl⟩
    · rw [Run.after_nil, blank]
      exact fun event member => absurd member List.not_mem_nil
    · rw [Run.after_nil, blank]
      exact Ledger.balanced_empty
  | append_singleton inputs input ih =>
    rw [Run.after_append, Run.trace_snoc, ledgerOf_snoc]
    refine ⟨ih.1.step input, ?_⟩
    rw [commitCount, Run.trace_snoc, List.count_append, ih.1.length_taken input, ih.2, commitCount]

theorem StateSound.counting {state : InterruptState} (sound : StateSound state) :
    state.nextSequence ≠ 0 := by
  have header := sound.header
  simp only [isStateHeaderValid, Bool.and_eq_true, bne_iff_ne, ne_eq] at header
  exact header.1.1.1.1.2

theorem nextSequence_step (state : InterruptState) (input : QueueInput) :
    state.nextSequence ≤ (queueStep state input).nextSequence := by
  rcases queueStep_effect state input with ⟨_, chain, _⟩ | ⟨_, _, after, _⟩
  · refine chain.keeps (P := fun later => state.nextSequence ≤ later.nextSequence)
      (fun between event held accepts => ?_) (BitVec.le_refl _)
    exact BitVec.le_trans held accepts.nextSequence_push.2
  · rw [after, nextSequence_committed]
    exact BitVec.le_refl _

theorem queueNext (state : InterruptState) : QueueNext state where
  enqueueFailed := fun _ failed => enqueueInterrupt_failed failed
  commitFailed := by
    intro decision failed
    rcases commitInterruptInjection_cases state decision with same | ⟨_, _, _, _, _, done⟩
    · rw [same]
    · rw [done] at failed
      cases failed
  enqueued := by
    intro event ready
    exact (Enqueues.none.next (Prod.ext ready rfl)).queue_eq
  removed := by
    intro decision success
    rcases commitInterruptInjection_cases state (some decision) with failed |
      ⟨given, index, same, _, commits, done⟩
    · rw [failed] at success
      cases success
    · cases same
      have inside : index.val < (queue state).length := by
        rw [commits.sound.length_queue]
        exact commits.used
      have entry : (queue state)[index.val] = state.pending index := by
        have here := ArrayQueue.getElem?_contents state.pending commits.used index.isLt
        exact Option.some.inj ((List.getElem?_eq_getElem inside).symm.trans here)
      refine ⟨state.pending index, ?_, commits.same, ?_⟩
      · rw [← entry]
        exact List.getElem_mem inside
      · rw [done, queue_committed, commits.queue_remove, ← entry]
        exact List.getElem_cons_eraseIdx_perm inside
  drained := fun descriptor generation sourceId =>
    drainPostedInterrupt_enqueues descriptor state generation sourceId
  counting := nextSequence_step state

/-- The queue over every run from an empty one: its check holds, its counter
stays above every pending event, and every event that was ever taken in waits
in one place or was taken out by one commit. -/
theorem queue_invariant {state : InterruptState} (valid : isInterruptStateValid state = true)
    (empty : state.pendingCount = 0) (inputs : List QueueInput) :
    QueueHolds (Run.after queueStep state inputs)
        (ledgerOf (Run.trace queueStep queueEvent state inputs)) (commitCount state inputs) ∧
      QueueNext (Run.after queueStep state inputs) := by
  obtain ⟨inv, removals⟩ := QueueInv.run valid empty inputs
  exact ⟨⟨isInterruptStateValid_iff.mpr inv.sound, inv.below, inv.sound.counting, inv.balanced,
    removals⟩, queueNext _⟩

/-- A state with nothing pending. -/
def emptyState : InterruptState where
  size := sizeofInterruptState
  version := kInterruptContractVersion
  generation := 1
  nextSequence := 1
  pendingCount := 0
  interruptibility := 0
  virtualApicTpr := 0
  reserved := 0
  pending := fun _ => InterruptEvent.zero

def nmiEvent (sequence : U64) : InterruptEvent where
  size := sizeofInterruptEvent
  version := kInterruptContractVersion
  kind := kKindNmi
  vector := 2
  errorCode := 0
  flags := 0
  reserved := 0
  reserved2 := 0
  sourceId := 0
  generation := 1
  sequence := sequence

/-- Two events, of which the first is committed. -/
theorem queue_invariant_two_events :
    QueueHolds (Run.after queueStep emptyState
        [.enqueue (some (nmiEvent 7)), .enqueue (some (nmiEvent 3)),
          .commit (some (readyDecision 1 (nmiEvent 7)))])
      (ledgerOf (Run.trace queueStep queueEvent emptyState
        [.enqueue (some (nmiEvent 7)), .enqueue (some (nmiEvent 3)),
          .commit (some (readyDecision 1 (nmiEvent 7)))]))
      (commitCount emptyState
        [.enqueue (some (nmiEvent 7)), .enqueue (some (nmiEvent 3)),
          .commit (some (readyDecision 1 (nmiEvent 7)))]) :=
  (@queue_invariant emptyState (by decide +kernel) (by decide) _).1

end Knhv.Interrupt
