import Knhv.Teardown.Model

namespace Knhv.Teardown

namespace Point

/-- The caller has the stage claim. -/
def holdsStage : Point → Bool
  | claimState | rereadState | rollBackStage | publishRequest | readCr4 | dropRequest
  | restoreStage | readRequest | publishQuiesced | publishStopped | publishStoppedStage => true
  | vmcall caller | exit caller | markerRequest caller | markerState caller | markerStage caller
  | consumeRequest caller | vmxoff caller => caller
  | _ => false

/-- The caller has the state claim. -/
def holdsState : Point → Bool
  | publishRequest | readCr4 | dropRequest | restoreStage | restoreState | readRequest
  | publishQuiesced | publishStopped => true
  | vmcall caller | exit caller | markerRequest caller | markerState caller | markerStage caller
  | consumeRequest caller | vmxoff caller => caller
  | _ => false

/-- The caller has published its request and does not know yet what became of
it. -/
def awaitsAnswer : Point → Bool
  | readCr4 | readRequest => true
  | vmcall caller | exit caller | markerRequest caller | markerState caller | markerStage caller
  | consumeRequest caller | vmxoff caller => caller
  | _ => false

/-- The caller has not published anything yet. -/
def isEarly : Point → Bool
  | idle | readState | readStage _ | claimStage | claimState | rereadState | rollBackStage
  | publishRequest => true
  | _ => false

/-- The caller's VM exit is being handled. -/
def inRoot : Point → Bool
  | exit _ | markerRequest _ | markerState _ | markerStage _ | consumeRequest _ | vmxoff _
  | parkStage | parkState => true
  | _ => false

/-- `MarkCurrentVcpuStopped` has found the callback quiesced. -/
def isMarked : Point → Bool
  | markedRequest | markedState | markStopped => true
  | _ => false

/-- The caller has stopped the vCPU and still has to say so in the stage word. -/
def isSettled : Point → Bool
  | markStoppedStage | publishStoppedStage => true
  | _ => false

/-- The caller has seen CR4.VMXE clear. -/
def isNative : Point → Bool
  | readRequest | publishQuiesced | publishStopped => true
  | _ => false

/-- The caller has also seen that its request is gone. -/
def isAnswered : Point → Bool
  | publishQuiesced | publishStopped => true
  | _ => false

/-- The caller gives its claims back after a deferred stop. -/
def isRestoring : Point → Bool
  | restoreStage | restoreState => true
  | _ => false

theorem holdsState_of_isRestoring {p : Point} (restoring : p.isRestoring = true) :
    p.holdsState = true := by
  cases p <;> first | rfl | cases restoring

theorem holdsState_of_awaitsAnswer {p : Point} (awaits : p.awaitsAnswer = true) :
    p.holdsState = true := by
  cases p <;> first | exact awaits | rfl

end Point

/-- One move of the caller `k`: it begins a routine, or makes its next access. -/
inductive Move (k : Nat) (w : Words) : Point → Words × Point → Prop
  | enter (routine : Routine) : Move k w .idle (w, routine.entry)
  | proceed (p : Point) (turn : Turn) : Move k w p (access k turn w p)

/-- A step of the vCPU is a move of one caller that may run, or nothing. -/
theorem step_cases (s : Vcpu) (a : Action) :
    step s a = s ∨ ∃ k next, s.words.canRun k = true ∧ Move k s.words (s.points k) next ∧
      (s.points k = .idle ∨ ∃ turn, a = .proceed k turn) ∧ step s a = s.put k next := by
  cases a with
  | enter k routine =>
    simp only [step]
    split
    next runs =>
      simp only [Bool.and_eq_true, decide_eq_true_eq] at runs
      refine .inr ⟨k, _, runs.1, ?_, .inl runs.2, rfl⟩
      rw [runs.2]
      exact .enter routine
    next => exact .inl rfl
  | proceed k turn =>
    simp only [step]
    split
    next runs => exact .inr ⟨k, _, runs, .proceed _ turn, .inr ⟨turn, rfl⟩, rfl⟩
    next => exact .inl rfl

/-- What one access writes into the log. -/
inductive Emits (k : Nat) (w : Words) : Point → Event → Prop
  | stageWon : Emits k w .claimStage (.stageWon k)
  | stateWon : Emits k w .claimState (.stateWon k)
  | published : Emits k w .publishRequest (.published k)
  | authorised (caller : Bool) : w.teardownRequest = true →
      Emits k w (.consumeRequest caller) (.authorised w.requestOwner)
  | sawNative : Emits k w .readCr4 (.sawNative k)
  | stopped : Emits k w .publishStopped (.stopped k)
  | markedStopped : Emits k w .markStopped .markedStopped
  | deferred : Emits k w .restoreState
      (.deferred (w.casState .tearingDown .launched).state w.launchStage w.teardownRequest)

section Moves

-- The lemmas below all split on the branches of an access.
attribute [elab_as_elim] access.fun_cases_unfolding

attribute [local simp] Words.note Words.casState Words.casStage Words.clearRequest Words.leaveRoot
  Words.leaveVmx Words.noteDeferred Point.holdsStage Point.holdsState Point.awaitsAnswer
  Point.isEarly Point.inRoot Point.isMarked Point.isSettled Point.isRestoring
  Point.isNative Point.isAnswered

variable {k : Nat} {w : Words} {p : Point} {next : Words × Point}

/-- A routine begins without a claim, outside root, and nothing published. -/
theorem entry_plain (routine : Routine) :
    routine.entry.holdsStage = false ∧ routine.entry.holdsState = false ∧
      routine.entry.awaitsAnswer = false ∧ routine.entry.inRoot = false := by
  cases routine <;> simp [Routine.entry]

theorem Move.holdsStage (move : Move k w p next) (holds : next.2.holdsStage = true) :
    p.holdsStage = true ∨ p = .claimStage ∧ w.launchStage = .guestActive ∧
      next.1.launchStage = .teardown ∧ .stageWon k ∈ next.1.log := by
  cases move with
  | enter routine => exact absurd holds (by rw [(entry_plain routine).1]; decide)
  | proceed p turn =>
    revert holds
    fun_cases access k turn w p <;> simp_all

theorem Move.holdsState (move : Move k w p next) (holds : next.2.holdsState = true) :
    p.holdsState = true ∨ p = .claimState ∧ w.state = .launched ∧
      next.1.state = .tearingDown ∧ .stateWon k ∈ next.1.log := by
  cases move with
  | enter routine => exact absurd holds (by rw [(entry_plain routine).2.1]; decide)
  | proceed p turn =>
    revert holds
    fun_cases access k turn w p <;> simp_all

/-- What can become of the stage word. -/
theorem Move.stage (move : Move k w p next) :
    next.1.launchStage = w.launchStage ∨
      p = .parkStage ∧ next.1.launchStage = .parked ∧ next.2 = .parkState ∨
      p = .runningStage ∧ w.launchStage = .handoff ∧ next.1.launchStage = .guestActive ∨
      p = .claimStage ∧ w.launchStage = .guestActive ∧ next.1.launchStage = .teardown ∨
      p.holdsStage = true ∧ next.2.holdsStage = false ∧ w.launchStage = .teardown ∧
        next.1.launchStage = .guestActive ∨
      (p = .markStoppedStage ∨ p = .publishStoppedStage) ∧ w.launchStage = .teardown ∧
        next.1.launchStage = .stopped := by
  cases move with
  | enter routine => exact .inl rfl
  | proceed p turn =>
    fun_cases access k turn w p <;> simp_all
    all_goals grind

/-- What can become of the state word. -/
theorem Move.state (move : Move k w p next) :
    next.1.state = w.state ∨
      p = .parkState ∧ next.1.state = .parked ∧ next.1.halted = true ∨
      p = .claimState ∧ w.state = .launched ∧ next.1.state = .tearingDown ∨
      p = .restoreState ∧ w.state = .tearingDown ∧ next.1.state = .launched ∨
      (p = .publishStopped ∨ p = .markStopped) ∧ w.state = .tearingDown ∧
        next.1.state = .stopped ∧ (.stopped k ∈ next.1.log ∨ .markedStopped ∈ next.1.log) := by
  cases move with
  | enter routine => exact .inl rfl
  | proceed p turn =>
    fun_cases access k turn w p <;> simp_all
    all_goals grind

theorem Move.released (move : Move k w p next) (last : p = .publishStopped ∨ p = .restoreState) :
    next.2.holdsState = false := by
  cases move with
  | enter routine => simp at last
  | proceed p turn =>
    revert last
    fun_cases access k turn w p <;> simp_all

theorem Move.quiesced (move : Move k w p next) :
    next.1.teardownQuiesced = w.teardownQuiesced ∨
      p = .publishQuiesced ∧ next.2 = .publishStopped ∧ next.1.teardownQuiesced = true ∧
        next.1.state = w.state := by
  cases move with
  | enter routine => exact .inl rfl
  | proceed p turn => fun_cases access k turn w p <;> simp_all

theorem Move.parks (move : Move k w p next) (last : p = .parkState) : next.1.halted = true := by
  cases move with
  | enter routine => cases last
  | proceed p turn =>
    subst last
    rfl

/-- The processor goes into root and comes out again with its caller. -/
theorem Move.root (move : Move k w p next) (before : p.inRoot = true ↔ w.root = some k)
    (free : w.root = none ∨ w.root = some k) :
    next.1.halted = true ∨ (next.2.inRoot = true ↔ next.1.root = some k) ∧
      (next.1.root = none ∨ next.1.root = some k) := by
  cases move with
  | enter routine =>
    have outside := (entry_plain routine).2.2.2
    simp_all
  | proceed p turn => fun_cases access k turn w p <;> simp_all

/-- The marker of a stopped vCPU goes on only where the callback has quiesced. -/
theorem Move.isMarked (move : Move k w p next) (reached : next.2.isMarked = true) :
    next.1.teardownQuiesced = true ∨ p.isMarked = true := by
  cases move with
  | enter routine => cases routine <;> simp [Routine.entry] at reached
  | proceed p turn =>
    revert reached
    fun_cases access k turn w p <;> simp_all

theorem Move.isSettled (move : Move k w p next) (reached : next.2.isSettled = true) :
    next.1.state = .stopped := by
  cases move with
  | enter routine => cases routine <;> simp [Routine.entry] at reached
  | proceed p turn =>
    revert reached
    fun_cases access k turn w p <;> simp_all

theorem Move.isRestoring (move : Move k w p next) (reached : next.2.isRestoring = true) :
    next.1.teardownRequest = false ∨
      p = .restoreStage ∧ next.1.teardownRequest = w.teardownRequest := by
  cases move with
  | enter routine => cases routine <;> simp [Routine.entry] at reached
  | proceed p turn =>
    revert reached
    fun_cases access k turn w p <;> simp_all

/-- The words and the owner of a request as one move leaves them. -/
theorem Move.request (move : Move k w p next) :
    next.1.teardownRequest = w.teardownRequest ∧ next.1.requestOwner = w.requestOwner ∧
        (∀ owner, .authorised owner ∈ next.1.log → .authorised owner ∈ w.log) ∨
      p = .publishRequest ∧ next.1.teardownRequest = true ∧ next.1.requestOwner = some k ∧
        next.1.log = .published k :: w.log ∨
      p = .dropRequest ∧ next.1.teardownRequest = false ∨
      p.inRoot = true ∧ w.teardownRequest = true ∧ next.1.teardownRequest = false ∧
        next.1.log = .authorised w.requestOwner :: w.log := by
  cases move with
  | enter routine => exact .inl ⟨rfl, rfl, fun _ => id⟩
  | proceed p turn => fun_cases access k turn w p <;> simp_all

theorem Move.log (move : Move k w p next) :
    next.1.log = w.log ∨ ∃ event, Emits k w p event ∧ next.1.log = event :: w.log := by
  cases move with
  | enter routine => exact .inl rfl
  | proceed p turn =>
    fun_cases access k turn w p
    all_goals first
      | exact .inl rfl
      | exact .inr ⟨_, .stageWon, rfl⟩
      | exact .inr ⟨_, .stateWon, rfl⟩
      | exact .inr ⟨_, .published, rfl⟩
      | exact .inr ⟨_, .sawNative, rfl⟩
      | exact .inr ⟨_, .stopped, rfl⟩
      | exact .inr ⟨_, .markedStopped, rfl⟩
      | exact .inr ⟨_, .deferred, rfl⟩
      | exact .inr ⟨_, .authorised _ (by assumption), rfl⟩

theorem Move.awaitsAnswer (move : Move k w p next) (awaits : next.2.awaitsAnswer = true) :
    p.awaitsAnswer = true ∨
      p = .publishRequest ∧ next.1.teardownRequest = true ∧ next.1.requestOwner = some k := by
  cases move with
  | enter routine => exact absurd awaits (by rw [(entry_plain routine).2.2.1]; decide)
  | proceed p turn =>
    revert awaits
    fun_cases access k turn w p <;> simp_all

theorem Move.isEarly (move : Move k w p next) (early : next.2.isEarly = true) :
    p.isEarly = true ∧ p ≠ .publishRequest := by
  cases move with
  | enter routine => simp
  | proceed p turn =>
    revert early
    fun_cases access k turn w p <;> simp_all

theorem Move.isNative (move : Move k w p next) (reached : next.2.isNative = true) :
    p.isNative = true ∨ .sawNative k ∈ next.1.log := by
  cases move with
  | enter routine => cases routine <;> simp [Routine.entry] at reached
  | proceed p turn =>
    revert reached
    fun_cases access k turn w p <;> simp_all

theorem Move.isAnswered (move : Move k w p next) (reached : next.2.isAnswered = true) :
    p.isAnswered = true ∨ p = .readRequest ∧ w.teardownRequest = false := by
  cases move with
  | enter routine => cases routine <;> simp [Routine.entry] at reached
  | proceed p turn =>
    revert reached
    fun_cases access k turn w p <;> simp_all

theorem Move.vmxe (move : Move k w p next) :
    next.1.vmxe = w.vmxe ∨ ∃ caller, p = .vmxoff caller := by
  cases move with
  | enter routine => exact .inl rfl
  | proceed p turn => fun_cases access k turn w p <;> simp_all

theorem Move.vmxoff (move : Move k w p next) {caller : Bool} (reached : next.2 = .vmxoff caller) :
    w.teardownRequest = true ∧ .authorised w.requestOwner ∈ next.1.log := by
  cases move with
  | enter routine => cases routine <;> simp [Routine.entry] at reached
  | proceed p turn =>
    revert reached
    fun_cases access k turn w p <;> simp_all

theorem Move.restoreState (move : Move k w p next) (reached : next.2 = .restoreState) :
    p = .restoreStage ∧ next.1.launchStage = (w.casStage .teardown .guestActive).launchStage := by
  cases move with
  | enter routine => cases routine <;> simp [Routine.entry] at reached
  | proceed p turn =>
    revert reached
    fun_cases access k turn w p <;> simp_all

end Moves

end Knhv.Teardown
