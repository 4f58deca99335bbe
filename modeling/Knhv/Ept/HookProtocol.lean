import Knhv.Ept.Hook
import Knhv.Lib.Run

namespace Knhv.Ept

/-- A call on a transaction that has begun. -/
inductive HookCall
  | acknowledge (generation : U64) (cpuCount : U32) (nowTsc : U64)
  | publish (currentGeneration nowTsc : U64)
  | retire (currentGeneration : U64)
  | rollback (currentGeneration : U64)
  | quarantine (currentGeneration : U64)
  | expire (currentGeneration nowTsc : U64)
  deriving DecidableEq

def hookCall (transaction : EptHookTransaction) : HookCall → HookOutcome
  | .acknowledge generation cpuCount nowTsc =>
    acknowledgeEptHookCpu transaction generation cpuCount nowTsc
  | .publish currentGeneration nowTsc => publishEptHookUpdate transaction currentGeneration nowTsc
  | .retire currentGeneration => retireEptHookUpdate transaction currentGeneration
  | .rollback currentGeneration => rollbackEptHookUpdate transaction currentGeneration
  | .quarantine currentGeneration => quarantineEptHookUpdate transaction currentGeneration
  | .expire currentGeneration nowTsc => expireEptHookUpdate transaction currentGeneration nowTsc

def hookStep (transaction : EptHookTransaction) (call : HookCall) : EptHookTransaction :=
  (hookCall transaction call).1

/-- The state of a transaction, as the raw word holds it. -/
def InState (transaction : EptHookTransaction) (state : EptHookTransactionState) : Prop :=
  transaction.state = state.value

instance (transaction : EptHookTransaction) (state : EptHookTransactionState) :
    Decidable (InState transaction state) :=
  inferInstanceAs (Decidable (transaction.state = state.value))

/-- The publication that the protocol asks for: every acknowledgement is in, the
deadline is ahead and no other update has come between. -/
structure Publishes (transaction : EptHookTransaction) (call : HookCall) : Prop where
  prepared : InState transaction .Prepared
  timely : ∃ nowTsc, call = .publish transaction.parentGeneration nowTsc ∧
    nowTsc < transaction.deadlineTsc
  acknowledged : transaction.observedCpuAcks = transaction.requiredCpuAcks

/-- A transaction that an update may still leave. -/
def Open (transaction : EptHookTransaction) : Prop :=
  InState transaction .Prepared ∨ InState transaction .Published

/-- Everything that a call which succeeds can do. -/
inductive Moves (transaction : EptHookTransaction) (call : HookCall) : EptHookTransaction → Prop
  | acknowledged (cpuCount : U32) (prepared : InState transaction .Prepared)
      (room : cpuCount ≤ transaction.requiredCpuAcks - transaction.observedCpuAcks) :
      Moves transaction call
        { transaction with observedCpuAcks := transaction.observedCpuAcks + cpuCount }
  | published (publishes : Publishes transaction call) :
      Moves transaction call
        { transaction with state := EptHookTransactionState.Published.value }
  | retired (published : InState transaction .Published) :
      Moves transaction call { transaction with state := EptHookTransactionState.Retired.value }
  | rolledBack (live : Open transaction) :
      Moves transaction call
        { transaction with state := EptHookTransactionState.RolledBack.value }
  | quarantined (live : Open transaction) :
      Moves transaction call
        { transaction with state := EptHookTransactionState.Quarantined.value }

/-- A call fails and leaves the transaction alone, or makes a valid transaction
move. -/
def Acts (transaction : EptHookTransaction) (call : HookCall) (outcome : HookOutcome) : Prop :=
  outcome = (transaction, false) ∨
    isEptHookTransactionValid transaction = true ∧ outcome.2 = true ∧
      Moves transaction call outcome.1

theorem inState_iff {transaction : EptHookTransaction} {state : EptHookTransactionState} :
    (transaction.state == state.value) = true ↔ InState transaction state :=
  beq_iff_eq

/-- The five states are the words that the check lets through. -/
theorem inState_of_valid {transaction : EptHookTransaction}
    (valid : isHookTransactionStateValid transaction.state = true) :
    ∃ state, InState transaction state := by
  simp only [isHookTransactionStateValid, Bool.and_eq_true, decide_eq_true_eq] at valid
  have low : 1 ≤ transaction.state.toNat := valid.1
  have high : transaction.state.toNat ≤ 5 := valid.2
  have cases : transaction.state.toNat = 1 ∨ transaction.state.toNat = 2 ∨
      transaction.state.toNat = 3 ∨ transaction.state.toNat = 4 ∨ transaction.state.toNat = 5 := by
    omega
  rcases cases with one | two | three | four | five
  · exact ⟨.Prepared, BitVec.eq_of_toNat_eq one⟩
  · exact ⟨.Published, BitVec.eq_of_toNat_eq two⟩
  · exact ⟨.Retired, BitVec.eq_of_toNat_eq three⟩
  · exact ⟨.RolledBack, BitVec.eq_of_toNat_eq four⟩
  · exact ⟨.Quarantined, BitVec.eq_of_toNat_eq five⟩

theorem live_iff {transaction : EptHookTransaction} {nowTsc : U64} :
    isEptHookTransactionLive transaction nowTsc = true ↔
      isEptHookTransactionValid transaction = true ∧ Open transaction ∧
        nowTsc < transaction.deadlineTsc := by
  rw [isEptHookTransactionLive, Bool.and_eq_true, Bool.and_eq_true, Bool.or_eq_true, inState_iff,
    inState_iff, decide_eq_true_eq, and_assoc]
  rfl

theorem acknowledge_acts (transaction : EptHookTransaction) (generation : U64) (cpuCount : U32)
    (nowTsc : U64) :
    Acts transaction (.acknowledge generation cpuCount nowTsc)
      (acknowledgeEptHookCpu transaction generation cpuCount nowTsc) := by
  unfold acknowledgeEptHookCpu
  split
  · exact Or.inl rfl
  · rename_i passed
    simp only [Bool.or_eq_true, Bool.not_eq_true', bne_iff_ne, decide_eq_true_eq, not_or,
      Bool.not_eq_false, live_iff, not_not, BitVec.not_lt] at passed
    obtain ⟨⟨⟨⟨live, prepared⟩, _⟩, _⟩, room⟩ := passed
    exact Or.inr ⟨live.1, rfl, .acknowledged cpuCount prepared room⟩

theorem publish_acts (transaction : EptHookTransaction) (currentGeneration nowTsc : U64) :
    Acts transaction (.publish currentGeneration nowTsc)
      (publishEptHookUpdate transaction currentGeneration nowTsc) := by
  unfold publishEptHookUpdate
  split
  · exact Or.inl rfl
  · rename_i passed
    simp only [Bool.or_eq_true, Bool.not_eq_true', bne_iff_ne, not_or, Bool.not_eq_false, live_iff,
      not_not] at passed
    obtain ⟨⟨⟨live, prepared⟩, rfl⟩, acknowledged⟩ := passed
    exact Or.inr ⟨live.1, rfl, .published ⟨prepared, ⟨nowTsc, rfl, live.2.2⟩, acknowledged⟩⟩

theorem retire_acts (transaction : EptHookTransaction) (currentGeneration : U64) :
    Acts transaction (.retire currentGeneration)
      (retireEptHookUpdate transaction currentGeneration) := by
  unfold retireEptHookUpdate
  split
  · exact Or.inl rfl
  · rename_i passed
    simp only [Bool.or_eq_true, Bool.not_eq_true', bne_iff_ne, not_or, Bool.not_eq_false,
      not_not] at passed
    exact Or.inr ⟨passed.1.1, rfl, .retired passed.1.2⟩

theorem rollback_acts (transaction : EptHookTransaction) (currentGeneration : U64) :
    Acts transaction (.rollback currentGeneration)
      (rollbackEptHookUpdate transaction currentGeneration) := by
  unfold rollbackEptHookUpdate
  split
  · exact Or.inl rfl
  · rename_i passed
    simp only [Bool.or_eq_true, Bool.and_eq_true, Bool.not_eq_true', bne_iff_ne, not_or,
      Bool.not_eq_false, not_and_or, not_not] at passed
    exact Or.inr ⟨passed.1.1, rfl, .rolledBack passed.1.2⟩

theorem quarantine_acts (transaction : EptHookTransaction) (currentGeneration : U64) :
    Acts transaction (.quarantine currentGeneration)
      (quarantineEptHookUpdate transaction currentGeneration) := by
  unfold quarantineEptHookUpdate
  split
  · exact Or.inl rfl
  · rename_i passed
    simp only [Bool.or_eq_true, Bool.not_eq_true', inState_iff, not_or, Bool.not_eq_false]
      at passed
    obtain ⟨⟨⟨⟨valid, notRetired⟩, notRolledBack⟩, notQuarantined⟩, _⟩ := passed
    have stateValid : isHookTransactionStateValid transaction.state = true := by
      simp only [isEptHookTransactionValid, Bool.and_eq_true] at valid
      exact valid.1.1.1.1.1.2
    obtain ⟨state, here⟩ := inState_of_valid stateValid
    refine Or.inr ⟨valid, rfl, .quarantined ?_⟩
    cases state with
    | Prepared => exact Or.inl here
    | Published => exact Or.inr here
    | Retired => exact absurd here notRetired
    | RolledBack => exact absurd here notRolledBack
    | Quarantined => exact absurd here notQuarantined

theorem expire_acts (transaction : EptHookTransaction) (currentGeneration nowTsc : U64) :
    Acts transaction (.expire currentGeneration nowTsc)
      (expireEptHookUpdate transaction currentGeneration nowTsc) := by
  unfold expireEptHookUpdate
  split
  · exact Or.inl rfl
  rename_i passed
  simp only [Bool.or_eq_true, Bool.not_eq_true', not_or, Bool.not_eq_false] at passed
  split
  · rename_i prepared
    rw [Bool.and_eq_true, inState_iff] at prepared
    exact Or.inr ⟨passed.1, rfl, .rolledBack (Or.inl prepared.1)⟩
  split
  · rename_i published
    rw [Bool.and_eq_true, inState_iff] at published
    exact Or.inr ⟨passed.1, rfl, .quarantined (Or.inr published.1)⟩
  · exact Or.inl rfl

theorem hookCall_acts (transaction : EptHookTransaction) (call : HookCall) :
    Acts transaction call (hookCall transaction call) := by
  cases call with
  | acknowledge generation cpuCount nowTsc =>
    exact acknowledge_acts transaction generation cpuCount nowTsc
  | publish currentGeneration nowTsc => exact publish_acts transaction currentGeneration nowTsc
  | retire currentGeneration => exact retire_acts transaction currentGeneration
  | rollback currentGeneration => exact rollback_acts transaction currentGeneration
  | quarantine currentGeneration => exact quarantine_acts transaction currentGeneration
  | expire currentGeneration nowTsc => exact expire_acts transaction currentGeneration nowTsc

/-- The check of a transaction looks at the two words that move apart from the
others. -/
theorem valid_with {transaction : EptHookTransaction} {state observedCpuAcks : U32}
    (valid : isEptHookTransactionValid transaction = true)
    (stateValid : isHookTransactionStateValid state = true)
    (inside : observedCpuAcks ≤ transaction.requiredCpuAcks) :
    isEptHookTransactionValid { transaction with state, observedCpuAcks } = true := by
  simp only [isEptHookTransactionValid, Bool.and_eq_true, decide_eq_true_eq] at valid ⊢
  obtain ⟨⟨⟨⟨⟨⟨header, _⟩, required⟩, most⟩, _⟩, exits⟩, reserved⟩ := valid
  exact ⟨⟨⟨⟨⟨⟨header, stateValid⟩, required⟩, most⟩, inside⟩, exits⟩, reserved⟩

theorem acks_inside {transaction : EptHookTransaction}
    (valid : isEptHookTransactionValid transaction = true) :
    transaction.observedCpuAcks ≤ transaction.requiredCpuAcks := by
  simp only [isEptHookTransactionValid, Bool.and_eq_true, decide_eq_true_eq] at valid
  exact valid.1.1.2

theorem state_valid {transaction : EptHookTransaction}
    (valid : isEptHookTransactionValid transaction = true) :
    isHookTransactionStateValid transaction.state = true := by
  simp only [isEptHookTransactionValid, Bool.and_eq_true] at valid
  exact valid.1.1.1.1.1.2

/-- The update that a transaction describes. -/
def SameUpdate (start transaction : EptHookTransaction) : Prop :=
  transaction = { start with
    state := transaction.state, observedCpuAcks := transaction.observedCpuAcks }

/-- What a call keeps. -/
structure Keeps (before after : EptHookTransaction) : Prop where
  valid : isEptHookTransactionValid after = true
  same : SameUpdate before after
  acks : before.observedCpuAcks ≤ after.observedCpuAcks

theorem Keeps.rfl {transaction : EptHookTransaction}
    (valid : isEptHookTransactionValid transaction = true) : Keeps transaction transaction :=
  ⟨valid, Eq.refl _, BitVec.le_refl _⟩

theorem Keeps.trans {first second third : EptHookTransaction} (early : Keeps first second)
    (late : Keeps second third) : Keeps first third := by
  refine ⟨late.valid, ?_, BitVec.le_trans early.acks late.acks⟩
  have same := late.same
  rw [early.same] at same
  exact same

theorem Keeps.moved {transaction : EptHookTransaction} {state : EptHookTransactionState}
    (valid : isEptHookTransactionValid transaction = true) :
    Keeps transaction { transaction with state := state.value } := by
  have stateValid : isHookTransactionStateValid state.value = true := by
    cases state <;> rfl
  exact ⟨valid_with valid stateValid (acks_inside valid), Eq.refl _, BitVec.le_refl _⟩

theorem Keeps.acknowledged {transaction : EptHookTransaction} {cpuCount : U32}
    (valid : isEptHookTransactionValid transaction = true)
    (room : cpuCount ≤ transaction.requiredCpuAcks - transaction.observedCpuAcks) :
    Keeps transaction
      { transaction with observedCpuAcks := transaction.observedCpuAcks + cpuCount } := by
  have inside := acks_inside valid
  have bound := transaction.requiredCpuAcks.isLt
  rw [BitVec.le_def, BitVec.toNat_sub_of_le inside] at room
  rw [BitVec.le_def] at inside
  have total : (transaction.observedCpuAcks + cpuCount).toNat =
      transaction.observedCpuAcks.toNat + cpuCount.toNat := by
    rw [BitVec.toNat_add]
    exact Nat.mod_eq_of_lt (by omega)
  refine ⟨valid_with valid (state_valid valid) ?_, Eq.refl _, ?_⟩
  · rw [BitVec.le_def, total]
    omega
  · rw [BitVec.le_def, total]
    exact Nat.le_add_right _ _

theorem Moves.keeps {before after : EptHookTransaction} {call : HookCall}
    (moves : Moves before call after) (valid : isEptHookTransactionValid before = true) :
    Keeps before after := by
  cases moves with
  | acknowledged cpuCount prepared room => exact .acknowledged valid room
  | published publishes => exact .moved valid
  | retired published => exact .moved valid
  | rolledBack live => exact .moved valid
  | quarantined live => exact .moved valid

theorem hookStep_keeps {transaction : EptHookTransaction}
    (valid : isEptHookTransactionValid transaction = true) (call : HookCall) :
    Keeps transaction (hookStep transaction call) := by
  unfold hookStep
  rcases hookCall_acts transaction call with failed | ⟨_, _, moves⟩
  · rw [failed]
    exact .rfl valid
  · exact moves.keeps valid

theorem hookRun_keeps {start : EptHookTransaction} (valid : isEptHookTransactionValid start = true)
    (calls : List HookCall) : Keeps start (Run.after hookStep start calls) :=
  Run.invariant_always (fun _ call kept => kept.trans (hookStep_keeps kept.valid call))
    (.rfl valid) calls

/-- The update is in effect, or has been. -/
def Effective (transaction : EptHookTransaction) : Prop :=
  InState transaction .Published ∨ InState transaction .Retired

/-- A state that no call leaves. -/
def Final (transaction : EptHookTransaction) : Prop :=
  InState transaction .Retired ∨ InState transaction .RolledBack ∨
    InState transaction .Quarantined

theorem InState.unique {transaction : EptHookTransaction} {left right : EptHookTransactionState}
    (inLeft : InState transaction left) (inRight : InState transaction right) : left = right := by
  have same : left.value = right.value := inLeft.symm.trans inRight
  revert same
  cases left <;> cases right <;> decide

theorem Final.not_open {transaction : EptHookTransaction} (final : Final transaction) :
    ¬Open transaction := by
  rintro (prepared | published)
  · rcases final with retired | rolledBack | quarantined
    · cases prepared.unique retired
    · cases prepared.unique rolledBack
    · cases prepared.unique quarantined
  · rcases final with retired | rolledBack | quarantined
    · cases published.unique retired
    · cases published.unique rolledBack
    · cases published.unique quarantined

theorem InState.not_effective {transaction : EptHookTransaction} {state : EptHookTransactionState}
    (here : InState transaction state) (notPublished : state ≠ .Published)
    (notRetired : state ≠ .Retired) : ¬Effective transaction := by
  rintro (published | retired)
  · exact notPublished (here.unique published)
  · exact notRetired (here.unique retired)

/-- A transaction that enters any other state is not in effect there. -/
theorem not_effective_entering (transaction : EptHookTransaction)
    {state : EptHookTransactionState} (notPublished : state ≠ .Published)
    (notRetired : state ≠ .Retired) : ¬Effective { transaction with state := state.value } :=
  have here : InState { transaction with state := state.value } state := rfl
  here.not_effective notPublished notRetired

/-- Only an open transaction moves. -/
theorem Moves.live {before after : EptHookTransaction} {call : HookCall}
    (moves : Moves before call after) : Open before := by
  cases moves with
  | acknowledged cpuCount prepared room => exact Or.inl prepared
  | published publishes => exact Or.inl publishes.prepared
  | retired published => exact Or.inr published
  | rolledBack live => exact live
  | quarantined live => exact live

theorem hookCall_of_final {transaction : EptHookTransaction} (final : Final transaction)
    (call : HookCall) : hookCall transaction call = (transaction, false) := by
  rcases hookCall_acts transaction call with failed | ⟨_, _, moves⟩
  · exact failed
  · exact absurd moves.live final.not_open

/-- A call that succeeds as a publication. -/
def PublishesNow (transaction : EptHookTransaction) (call : HookCall) : Prop :=
  Publishes transaction call ∧ (hookCall transaction call).2 = true

/-- The update takes effect by a publication only. -/
theorem effective_entered (transaction : EptHookTransaction) (call : HookCall)
    (effective : Effective (hookStep transaction call)) :
    Effective transaction ∨ PublishesNow transaction call := by
  unfold hookStep at effective
  rcases hookCall_acts transaction call with failed | ⟨_, succeeded, moves⟩
  · rw [failed] at effective
    exact Or.inl effective
  · generalize (hookCall transaction call).1 = after at effective moves
    cases moves with
    | acknowledged cpuCount prepared room => exact Or.inl effective
    | published publishes => exact Or.inr ⟨publishes, succeeded⟩
    | retired published => exact Or.inl (Or.inl published)
    | rolledBack live =>
      exact absurd effective (not_effective_entering transaction (by decide) (by decide))
    | quarantined live =>
      exact absurd effective (not_effective_entering transaction (by decide) (by decide))

/-- While the update is in effect its acknowledgements are complete. -/
theorem effective_acknowledged (transaction : EptHookTransaction) (call : HookCall)
    (complete : Effective transaction → transaction.observedCpuAcks = transaction.requiredCpuAcks)
    (effective : Effective (hookStep transaction call)) :
    (hookStep transaction call).observedCpuAcks = (hookStep transaction call).requiredCpuAcks := by
  unfold hookStep at effective ⊢
  rcases hookCall_acts transaction call with failed | ⟨_, _, moves⟩
  · rw [failed] at effective ⊢
    exact complete effective
  · generalize (hookCall transaction call).1 = after at effective moves ⊢
    cases moves with
    | acknowledged cpuCount prepared room =>
      exact absurd effective (prepared.not_effective (by decide) (by decide))
    | published publishes => exact publishes.acknowledged
    | retired published => exact complete (Or.inl published)
    | rolledBack live =>
      exact absurd effective (not_effective_entering transaction (by decide) (by decide))
    | quarantined live =>
      exact absurd effective (not_effective_entering transaction (by decide) (by decide))

theorem begin_prepared {lease : EptHookLease} {request : EptHookRequest}
    {currentGeneration nowTsc transactionId : U64} {requiredCpuAcks : U32}
    {transaction : EptHookTransaction}
    (begun : beginEptHookUpdate lease request currentGeneration nowTsc requiredCpuAcks
      transactionId = (transaction, true)) :
    isEptHookTransactionValid transaction = true ∧ InState transaction .Prepared := by
  unfold beginEptHookUpdate at begun
  split at begun
  · cases begun
  · obtain ⟨made, valid⟩ := Prod.mk.inj begun
    rw [made] at valid
    exact ⟨valid, by rw [InState, ← made]⟩

/-- What holds of a transaction wherever the calls on it have led. -/
structure HookProtocol (start : EptHookTransaction) (calls : List HookCall)
    (reached : EptHookTransaction) : Prop where
  valid : isEptHookTransactionValid reached = true
  failure : ∀ call, (hookCall reached call).2 = false → (hookCall reached call).1 = reached
  frame : SameUpdate start reached
  growing : ∀ more, reached.observedCpuAcks ≤ (Run.after hookStep reached more).observedCpuAcks
  bounded : reached.observedCpuAcks ≤ reached.requiredCpuAcks
  effective : Effective reached → reached.observedCpuAcks = reached.requiredCpuAcks ∧
    ∃ pre nowTsc post, calls = pre ++ .publish start.parentGeneration nowTsc :: post ∧
      nowTsc < start.deadlineTsc ∧
      (hookCall (Run.after hookStep start pre) (.publish start.parentGeneration nowTsc)).2 = true
  absorbing : Final reached → ∀ more, Run.after hookStep reached more = reached

/-- A hook update follows its protocol through every run of calls. -/
theorem eptHookUpdate_protocol {lease : EptHookLease} {request : EptHookRequest}
    {currentGeneration nowTsc transactionId : U64} {requiredCpuAcks : U32}
    {start : EptHookTransaction}
    (begun : beginEptHookUpdate lease request currentGeneration nowTsc requiredCpuAcks
      transactionId = (start, true)) (calls : List HookCall) :
    HookProtocol start calls (Run.after hookStep start calls) := by
  obtain ⟨startValid, prepared⟩ := begin_prepared begun
  have kept := hookRun_keeps startValid calls
  have notYet : ¬Effective start := prepared.not_effective (by decide) (by decide)
  refine ⟨kept.valid, ?_, kept.same, fun more => (hookRun_keeps kept.valid more).acks,
    acks_inside kept.valid, ?_, ?_⟩
  · intro call failed
    rcases hookCall_acts (Run.after hookStep start calls) call with nothing | ⟨_, succeeded, _⟩
    · rw [nothing]
    · rw [succeeded] at failed
      cases failed
  · intro effective
    have complete : Effective (Run.after hookStep start calls) →
        (Run.after hookStep start calls).observedCpuAcks =
          (Run.after hookStep start calls).requiredCpuAcks :=
      Run.invariant_always (P := fun transaction => Effective transaction →
        transaction.observedCpuAcks = transaction.requiredCpuAcks) effective_acknowledged
        (fun now => absurd now notYet) calls
    refine ⟨complete effective, ?_⟩
    obtain ⟨pre, call, post, split, ⟨publishes, succeeded⟩, _⟩ :=
      Run.follows_of_entered (Q := fun _ => True) effective_entered (fun _ _ _ => trivial) notYet
        effective
    obtain ⟨nowTsc, rfl, timely⟩ := publishes.timely
    have same := (hookRun_keeps startValid pre).same
    rw [same] at timely split succeeded
    refine ⟨pre, nowTsc, post, split, timely, ?_⟩
    rw [same]
    exact succeeded
  · intro final more
    refine Run.invariant_always (P := (· = Run.after hookStep start calls)) ?_ rfl more
    rintro _ call rfl
    rw [hookStep, hookCall_of_final final]

/-- The hook of one page under that lease. -/
def debugRequest : EptHookRequest where
  size := sizeofEptHookRequest
  version := kEptContractVersion
  ownerId := 3
  expectedGeneration := 7
  guestPhysical := 0x5000
  pageCount := 1
  view := EptViewKind.GuestDebug.value
  hookKind := EptHookKind.Execute.value
  permissions := kEptPermissionRead
  reserved := 0
  moduleHash := (1, 0)

/-- Two processors acknowledge, the hook is published, a late acknowledgement
fails and the hook is retired. -/
theorem eptHookUpdate_protocol_retired :
    ∃ start, beginEptHookUpdate debugLease debugRequest 7 10 2 1 = (start, true) ∧
      Effective (Run.after hookStep start [.acknowledge 7 1 20, .acknowledge 7 1 30,
        .publish 7 40, .acknowledge 7 1 50, .retire 8]) ∧
      HookProtocol start [.acknowledge 7 1 20, .acknowledge 7 1 30, .publish 7 40,
          .acknowledge 7 1 50, .retire 8]
        (Run.after hookStep start [.acknowledge 7 1 20, .acknowledge 7 1 30, .publish 7 40,
          .acknowledge 7 1 50, .retire 8]) := by
  have begun : beginEptHookUpdate debugLease debugRequest 7 10 2 1 =
      ((beginEptHookUpdate debugLease debugRequest 7 10 2 1).1, true) := by decide
  exact ⟨_, begun, Or.inr (by decide), eptHookUpdate_protocol begun _⟩

end Knhv.Ept
