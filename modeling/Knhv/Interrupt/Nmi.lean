import Knhv.Lib.Argmax
import Knhv.Interrupt.History

namespace Knhv.Interrupt

/-- The queue with every decision that was returned `Ready` for it. -/
structure Injector where
  state : InterruptState
  issued : List InterruptDecision

inductive InjectInput
  | call (input : QueueInput)
  | select (generation : U64)

def injectStep (injector : Injector) : InjectInput → Injector
  | .call input => { injector with state := queueStep injector.state input }
  | .select generation =>
    match selectInterrupt (some injector.state) generation true with
    | (.Ready, some decision) => { injector with issued := injector.issued ++ [decision] }
    | _ => injector

/-- A commit is made only of a decision that was returned `Ready`. -/
def CommitsIssued (injector : Injector) : InjectInput → Prop
  | .call (.commit none) => False
  | .call (.commit (some decision)) => decision ∈ injector.issued
  | _ => True

def NmiBlocked (injector : Injector) : Prop :=
  injector.state.interruptibility &&& kInterruptBlockNmi ≠ 0

/-- The steps that commit an NMI. -/
def CommitsNmi (injector : Injector) : InjectInput → Prop
  | .call (.commit (some decision)) =>
    decision.kind = kKindNmi ∧ (commitInterruptInjection injector.state (some decision)).1 = true
  | _ => False

/-- The steps that end the blocking of NMIs. -/
def UnblocksNmi (injector : Injector) (input : InjectInput) : Prop :=
  NmiBlocked injector ∧ ¬NmiBlocked (injectStep injector input)

/-- While NMIs are blocked, no NMI decision is committed whose event is still
pending. -/
def NmiCommitOpen (injector : Injector) : InjectInput → Prop
  | .call (.commit (some decision)) =>
    decision.kind = kKindNmi → NmiBlocked injector →
      ∀ event ∈ queue injector.state, isSameEvent event decision = false
  | _ => True

instance (injector : Injector) : Decidable (NmiBlocked injector) :=
  inferInstanceAs (Decidable (_ ≠ _))

instance (injector : Injector) : (input : InjectInput) → Decidable (CommitsIssued injector input)
  | .call (.commit none) => inferInstanceAs (Decidable False)
  | .call (.commit (some decision)) => inferInstanceAs (Decidable (decision ∈ injector.issued))
  | .call (.enqueue _) | .call (.drain _ _ _) | .select _ => inferInstanceAs (Decidable True)

instance (injector : Injector) : (input : InjectInput) → Decidable (NmiCommitOpen injector input)
  | .call (.commit (some decision)) =>
    inferInstanceAs (Decidable (decision.kind = kKindNmi → NmiBlocked injector →
      ∀ event ∈ queue injector.state, isSameEvent event decision = false))
  | .call (.commit none) | .call (.enqueue _) | .call (.drain _ _ _) | .select _ =>
    inferInstanceAs (Decidable True)

instance (injector : Injector) : (input : InjectInput) → Decidable (CommitsNmi injector input)
  | .call (.commit (some _)) => inferInstanceAs (Decidable (_ = _ ∧ _ = _))
  | .call (.commit none) | .call (.enqueue _) | .call (.drain _ _ _) | .select _ =>
    inferInstanceAs (Decidable False)

theorem considerEvent_eq (state : InterruptState) :
    considerEvent state = Argmax.consider (fun event => !isBlocked state event) isPreferred := by
  funext selected candidate
  unfold considerEvent Argmax.consider
  by_cases blocked : isBlocked state candidate = true
  · simp [blocked]
  · cases selected <;> simp [blocked]

theorem selectEvent_scan (state : InterruptState) :
    selectEvent state =
      Argmax.scan (fun event => !isBlocked state event) isPreferred (queue state) := by
  rw [selectEvent, considerEvent_eq]
  rfl

theorem isPreferred_iff {candidate selected : InterruptEvent} :
    isPreferred candidate selected = true ↔
      priority selected < priority candidate ∨
        (priority candidate = priority selected ∧ candidate.sequence < selected.sequence) := by
  simp only [isPreferred, Bool.or_eq_true, Bool.and_eq_true, decide_eq_true_eq, beq_iff_eq]

theorem isPreferred_irreflexive (event : InterruptEvent) : isPreferred event event = false := by
  rw [← Bool.not_eq_true, isPreferred_iff]
  simp only [BitVec.lt_def]
  omega

theorem isPreferred_transitive (first second third : InterruptEvent)
    (upper : isPreferred first second = true) (lower : isPreferred second third = true) :
    isPreferred first third = true := by
  rw [isPreferred_iff] at upper lower ⊢
  simp only [BitVec.lt_def, ← BitVec.toNat_inj] at upper lower ⊢
  omega

theorem selectEvent_mem {state : InterruptState} {event : InterruptEvent}
    (selected : selectEvent state = some event) : event ∈ queue state := by
  rw [selectEvent_scan] at selected
  exact (Argmax.scan_best isPreferred_irreflexive isPreferred_transitive selected).member

/-- A decision that is returned `Ready` names a pending event. -/
theorem selectInterrupt_ready {state : InterruptState} {generation : U64}
    {decision : InterruptDecision}
    (ready : selectInterrupt (some state) generation true = (.Ready, some decision)) :
    StateSound state ∧ state.generation = generation ∧
      ∃ event ∈ queue state, decision = readyDecision generation event := by
  simp only [selectInterrupt, Bool.not_true, Bool.false_eq_true, if_false] at ready
  split at ready
  · cases (Prod.mk.inj ready).1
  rename_i valid
  split at ready
  · cases (Prod.mk.inj ready).1
  rename_i current
  split at ready
  · cases (Prod.mk.inj ready).1
  split at ready
  · cases (Prod.mk.inj ready).1
  · rename_i event selected
    have same := (Prod.mk.inj ready).2
    refine ⟨isInterruptStateValid_iff.mp (by simpa using valid), by simpa using current, event,
      selectEvent_mem selected, ?_⟩
    exact (Option.some.inj same).symm

theorem readyDecision_committable {state : InterruptState} {event : InterruptEvent}
    (valid : isInterruptEventValid (some event) = true) :
    isDecisionCommittable state (readyDecision state.generation event) = true := by
  have facts : event.flags &&& ~~~kInterruptKnownEventMask = 0 ∧ event.sequence ≠ 0 := by
    simp only [isInterruptEventValid] at valid
    split at valid
    · cases valid
    · rename_i header
      simp only [Bool.or_eq_true, bne_iff_ne, ne_eq, beq_iff_eq, not_or, Decidable.not_not] at header
      exact ⟨header.1.1.1.1.2, header.2⟩
  simp only [isDecisionCommittable, readyDecision, initializeDecision, facts.1, bne_iff_ne, ne_eq,
    Bool.and_eq_true, beq_iff_eq, facts.2, not_false_eq_true, and_true]
  decide

/-- The invariant of the runs: the queue is sound and every decision that was
returned can be committed as long as its event is pending. -/
structure InjectInv (injector : Injector) : Prop where
  sound : StateSound injector.state
  committable : ∀ decision ∈ injector.issued,
    isDecisionCommittable injector.state decision = true

theorem generation_committed (state : InterruptState) (decision : InterruptDecision)
    (index : Fin kInterruptQueueDepth) :
    (committed state decision index).generation = state.generation := by
  simp only [committed]
  split
  · rfl
  · rfl

theorem queueStep_generation (state : InterruptState) (input : QueueInput) :
    (queueStep state input).generation = state.generation := by
  rcases queueStep_effect state input with ⟨_, chain, _⟩ | ⟨_, _, after, _⟩
  · exact chain.keeps (P := fun later => later.generation = state.generation)
      (fun _ _ held _ => held) rfl
  · rw [after, generation_committed]

theorem queueStep_sound {state : InterruptState} (sound : StateSound state) (input : QueueInput) :
    StateSound (queueStep state input) := by
  rcases queueStep_effect state input with ⟨_, chain, _⟩ | ⟨_, commits, after, _⟩
  · exact chain.keeps (fun _ _ _ accepts => accepts.sound_push) sound
  · rw [after]
    exact commits.sound_committed

theorem isDecisionCommittable_congr {state after : InterruptState} {decision : InterruptDecision}
    (same : after.generation = state.generation) :
    isDecisionCommittable after decision = isDecisionCommittable state decision := by
  simp only [isDecisionCommittable, same]

theorem InjectInv.step {injector : Injector} (inv : InjectInv injector) (input : InjectInput) :
    InjectInv (injectStep injector input) := by
  cases input with
  | call input =>
    refine ⟨queueStep_sound inv.sound input, fun decision member => ?_⟩
    rw [injectStep, isDecisionCommittable_congr (queueStep_generation injector.state input)]
    exact inv.committable decision member
  | select generation =>
    simp only [injectStep]
    split
    · rename_i decision ready
      refine ⟨inv.sound, fun other member => ?_⟩
      obtain ⟨_, rfl, event, inQueue, rfl⟩ := selectInterrupt_ready ready
      rw [List.mem_append, List.mem_singleton] at member
      rcases member with old | rfl
      · exact inv.committable other old
      · exact readyDecision_committable (inv.sound.events event inQueue).1
    · exact inv

theorem commitsNmi_iff {injector : Injector} {input : InjectInput} :
    CommitsNmi injector input ↔
      ∃ decision, input = .call (.commit (some decision)) ∧ decision.kind = kKindNmi ∧
        (commitInterruptInjection injector.state (some decision)).1 = true := by
  constructor
  · intro commits
    cases input with
    | select generation => exact commits.elim
    | call input =>
      cases input with
      | enqueue event | drain descriptor generation sourceId => exact commits.elim
      | commit given =>
        cases given with
        | none => exact commits.elim
        | some decision => exact ⟨decision, rfl, commits⟩
  · rintro ⟨decision, rfl, commits⟩
    exact commits

/-- Committing an NMI blocks NMIs. -/
theorem nmiBlocked_of_commitsNmi {injector : Injector} {input : InjectInput}
    (commits : CommitsNmi injector input) : NmiBlocked (injectStep injector input) := by
  obtain ⟨decision, rfl, nmi, success⟩ := commitsNmi_iff.mp commits
  rcases commitInterruptInjection_cases injector.state (some decision) with failed |
    ⟨given, index, same, _, _, done⟩
  · rw [failed] at success
    cases success
  · cases same
    have after : (injectStep injector (.call (.commit (some decision)))).state.interruptibility =
        injector.state.interruptibility ||| kInterruptBlockNmi := by
      simp only [injectStep, queueStep, done, committed, nmi, beq_self_eq_true, if_true]
      rfl
    rw [NmiBlocked, after]
    intro clear
    have bit := congrArg (BitVec.getLsbD · 2) clear
    simp [kInterruptBlockNmi] at bit

/-- Only the commit of an NMI starts the blocking. -/
theorem commitsNmi_of_nmiBlocked {injector : Injector} {input : InjectInput}
    (blocked : NmiBlocked (injectStep injector input)) :
    CommitsNmi injector input ∨ NmiBlocked injector := by
  cases input with
  | select generation =>
    refine Or.inr ?_
    simp only [injectStep] at blocked
    split at blocked
    · exact blocked
    · exact blocked
  | call input =>
    cases queueStep_effect injector.state input with
    | enqueues _ chain _ =>
      refine Or.inr ?_
      have same : (queueStep injector.state input).interruptibility =
          injector.state.interruptibility :=
        chain.keeps (P := fun later =>
          later.interruptibility = injector.state.interruptibility) (fun _ _ held _ => held) rfl
      simpa only [NmiBlocked, injectStep, same] using blocked
    | commits _ commits after done =>
      cases input with
      | enqueue event | drain descriptor generation sourceId => cases done
      | commit given =>
        rcases commitInterruptInjection_cases injector.state given with failed |
          ⟨decision, index, rfl, _, _, success⟩
        · rw [isCommit, failed] at done
          cases done
        by_cases nmi : decision.kind = kKindNmi
        · exact Or.inl ⟨nmi, done⟩
        · refine Or.inr ?_
          have same : (queueStep injector.state (.commit (some decision))).interruptibility =
              injector.state.interruptibility := by
            rw [queueStep, success]
            simp only [Interrupt.committed, beq_eq_false_iff_ne.mpr nmi, Bool.false_eq_true,
              if_false]
            rfl
          simpa only [NmiBlocked, injectStep, same] using blocked

theorem InjectInv.run {state : InterruptState} (valid : isInterruptStateValid state = true)
    (inputs : List InjectInput) : InjectInv (Run.after injectStep ⟨state, []⟩ inputs) :=
  Run.invariant_always (P := InjectInv) (fun _ input inv => inv.step input)
    ⟨isInterruptStateValid_iff.mp valid, fun _ member => by cases member⟩ inputs

/-- NMI blocking, over every run: between two commits of an NMI the blocking
has ended, exactly if no NMI decision whose event is pending is committed while
NMIs are blocked. The commit does not look at the blocking itself. -/
theorem nmi_commits_separated_iff {state : InterruptState}
    (valid : isInterruptStateValid state = true)
    (clear : state.interruptibility &&& kInterruptBlockNmi = 0) {inputs : List InjectInput}
    (issued : Run.Every injectStep CommitsIssued ⟨state, []⟩ inputs) :
    Run.Separated injectStep CommitsNmi UnblocksNmi ⟨state, []⟩ inputs ↔
      Run.Every injectStep NmiCommitOpen ⟨state, []⟩ inputs := by
  constructor
  · intro separated pre input post split
    have inv := InjectInv.run valid pre
    have known := issued pre input post split
    unfold NmiCommitOpen
    split
    swap
    · trivial
    rename_i decision
    intro nmi blocked event member
    by_contra same
    rw [Bool.not_eq_false] at same
    have commits : CommitsNmi (Run.after injectStep ⟨state, []⟩ pre)
        (.call (.commit (some decision))) :=
      ⟨nmi, commitInterruptInjection_of_match inv.sound (inv.committable decision known) member
        same⟩
    -- The blocking was started by an earlier commit, and nothing has ended it since.
    have since : Run.Since injectStep CommitsNmi UnblocksNmi ⟨state, []⟩ pre := by
      refine Run.since_of_flag (F := NmiBlocked) (fun injector input up => ?_)
        (fun started => started clear) blocked
      rcases commitsNmi_of_nmiBlocked up with raised | before
      · exact Or.inl raised
      · exact Or.inr ⟨before, fun ends => ends.2 up⟩
    obtain ⟨earlier, first, between, shape, firstNmi, quiet⟩ := since
    have whole : inputs = earlier ++ first :: (between ++ .call (.commit (some decision)) :: post) := by
      rw [split, shape, List.append_assoc, List.cons_append]
    rw [shape] at commits
    exact quiet (separated earlier first between _ post whole firstNmi commits)
  · intro openCommits
    refine Run.separated_of_flag (F := NmiBlocked)
      (G := fun injector input => NmiCommitOpen injector input)
      (fun _ _ => nmiBlocked_of_commitsNmi) ?_ ?_ openCommits
    · intro injector input _ blocked stays
      by_contra ended
      exact stays ⟨blocked, ended⟩
    · intro injector input guarded blocked commits
      obtain ⟨decision, rfl, nmi, success⟩ := commitsNmi_iff.mp commits
      rcases commitInterruptInjection_cases injector.state (some decision) with failed |
        ⟨given, index, same, _, commits, _⟩
      · rw [failed] at success
        cases success
      · cases same
        have member : injector.state.pending index ∈ queue injector.state :=
          ArrayQueue.mem_contents.mpr ⟨index, commits.used, rfl⟩
        have differs := guarded nmi blocked _ member
        rw [commits.same] at differs
        cases differs

/-- One NMI, selected and committed. -/
theorem nmi_commits_separated_once :
    Run.Separated injectStep CommitsNmi UnblocksNmi ⟨emptyState, []⟩
      [.call (.enqueue (some (nmiEvent 5))), .select 1,
        .call (.commit (some (readyDecision 1 (nmiEvent 5))))] :=
  (nmi_commits_separated_iff (by decide +kernel) (by decide) (by decide +kernel)).mpr
    (by decide +kernel)

/-- An NMI is selected, another one with a lower sequence number arrives and is
selected too, and both decisions are committed. -/
def staleNmiTrace : List InjectInput :=
  [.call (.enqueue (some (nmiEvent 5))), .select 1, .call (.enqueue (some (nmiEvent 3))),
    .select 1, .call (.commit (some (readyDecision 1 (nmiEvent 3)))),
    .call (.commit (some (readyDecision 1 (nmiEvent 5))))]

/-- Both commits succeed, and NMIs stay blocked in between. -/
theorem stale_nmi_committed :
    isInterruptStateValid emptyState = true ∧
      emptyState.interruptibility &&& kInterruptBlockNmi = 0 ∧
      Run.Every injectStep CommitsIssued ⟨emptyState, []⟩ staleNmiTrace ∧
      ¬Run.Separated injectStep CommitsNmi UnblocksNmi ⟨emptyState, []⟩ staleNmiTrace := by
  refine ⟨by decide +kernel, by decide, by decide +kernel, fun separated => ?_⟩
  have occurs := separated (staleNmiTrace.take 4)
    (.call (.commit (some (readyDecision 1 (nmiEvent 3))))) []
    (.call (.commit (some (readyDecision 1 (nmiEvent 5))))) [] rfl (by decide +kernel)
    (by decide +kernel)
  exact Run.not_occurs_iff.mpr (Run.every_nil _) occurs

end Knhv.Interrupt
