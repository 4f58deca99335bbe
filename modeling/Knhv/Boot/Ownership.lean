import Knhv.Boot.Model
import Knhv.Lib.Run
import Mathlib.Data.List.Induction

namespace Knhv.Boot

/-- The calls on the boot contract, with any arguments. -/
inductive BootCall
  | start (context : Option BootContext)
  | handoff (context : Option BootContext)
  | recover (reason : HvStatus)
  | stop

def bootCall (contract : BootL0Contract) : BootCall → HvStatus × BootL0Contract
  | .start context => startBootL0 contract context
  | .handoff context => handoffWindows contract context
  | .recover reason => recoverBootL0 contract reason
  | .stop => stopBootL0 contract

def step (contract : BootL0Contract) (call : BootCall) : BootL0Contract :=
  (bootCall contract call).2

/-- The context reports a machine that nobody else owns. -/
structure Clear (context : BootContext) : Prop where
  externalOwner : context.externalOwner = 0
  manifestValid : context.manifestValid ≠ 0
  physicalVmxReady : context.physicalVmxReady ≠ 0

/-- The root has the hardware. -/
def Owns (state : BootL0State) : Prop := state = .RootActive ∨ state = .Ready

instance (state : BootL0State) : Decidable (Owns state) :=
  inferInstanceAs (Decidable (_ ∨ _))

/-- Everything that a call can do to a contract. -/
inductive Outcome (contract : BootL0Contract) : BootCall → HvStatus × BootL0Contract → Prop
  | unchanged {call : BootCall} {status : HvStatus}
      (failed : ∀ context, call = .start context → status ≠ .Success) :
      Outcome contract call (status, contract)
  | published {call : BootCall} {status : HvStatus} (failed : status ≠ .Success) :
      Outcome contract call (status, publishEvidence contract status)
  | recovered {call : BootCall} {status : HvStatus} (failed : status ≠ .Success) :
      Outcome contract call (status, enterRecovery contract status)
  | started {context : BootContext} (idle : ¬Owns contract.state)
      (valid : validContext context = true) (clear : Clear context) :
      Outcome contract (.start (some context))
        (.Success, publishEvidence (activateRoot contract context) .Success)
  | handed {context : BootContext} (valid : validContext context = true)
      (active : contract.state = .RootActive) (owned : contract.owner.ownerCount = 1)
      (processors : contract.owner.activeProcessors = context.logicalProcessors)
      (ready : context.windowsHandoffReady ≠ 0) :
      Outcome contract (.handoff (some context))
        (.Success, publishEvidence { contract with state := .Ready } .Success)
  | stopped (owned : contract.state ≠ .Recovery) :
      Outcome contract .stop
        (.Success, publishEvidence { invalidateOwner contract with state := .PreL0 } .Success)

theorem startBootL0_outcome (contract : BootL0Contract) (context : Option BootContext) :
    Outcome contract (.start context) (startBootL0 contract context) := by
  cases context with
  | none => exact .unchanged fun _ _ => by simp
  | some context =>
    unfold startBootL0
    dsimp only
    split
    · exact .unchanged fun _ _ => by simp
    rename_i valid
    split
    · exact .published (by simp)
    rename_i idle
    split
    · exact .recovered (by simp)
    rename_i externalOwner
    split
    · exact .recovered (by simp)
    rename_i manifestValid
    split
    · exact .recovered (by simp)
    rename_i physicalVmxReady
    simp only [Bool.or_eq_true, Bool.not_eq_true', not_or, Bool.not_eq_false] at valid
    simp only [Bool.or_eq_true, beq_iff_eq, not_or] at idle
    simp only [bne_iff_ne, ne_eq, Decidable.not_not] at externalOwner
    simp only [beq_iff_eq] at manifestValid physicalVmxReady
    exact .started (not_or.mpr ⟨idle.1.1, idle.2⟩) valid.2
      ⟨externalOwner, manifestValid, physicalVmxReady⟩

theorem handoffWindows_outcome (contract : BootL0Contract) (context : Option BootContext) :
    Outcome contract (.handoff context) (handoffWindows contract context) := by
  cases context with
  | none => exact .unchanged fun _ other => by cases other
  | some context =>
    unfold handoffWindows
    dsimp only
    split
    · exact .unchanged fun _ other => by cases other
    rename_i valid
    split
    · exact .published (by simp)
    rename_i current
    split
    · exact .recovered (by simp)
    rename_i ready
    simp only [Bool.or_eq_true, Bool.not_eq_true', not_or, Bool.not_eq_false] at valid
    simp only [Bool.or_eq_true, bne_iff_ne, ne_eq, not_or, Decidable.not_not] at current
    exact .handed valid.2 current.1.1 current.1.2 current.2 (by simpa using ready)

theorem recoverBootL0_outcome (contract : BootL0Contract) (reason : HvStatus) :
    Outcome contract (.recover reason) (recoverBootL0 contract reason) := by
  unfold recoverBootL0
  split
  · exact .unchanged fun _ other => by cases other
  · have failed : (if reason == .Success then .RecoveryRequired else reason) ≠
        HvStatus.Success := by
      split
      · simp
      · rename_i failed
        simpa using failed
    exact .recovered failed

theorem stopBootL0_outcome (contract : BootL0Contract) :
    Outcome contract .stop (stopBootL0 contract) := by
  unfold stopBootL0
  split
  · exact .unchanged fun _ other => by cases other
  split
  · exact .unchanged fun _ other => by cases other
  rename_i active
  refine .stopped fun recovery => active ?_
  rw [recovery]
  rfl

theorem bootCall_outcome (contract : BootL0Contract) (call : BootCall) :
    Outcome contract call (bootCall contract call) := by
  cases call with
  | start context => exact startBootL0_outcome contract context
  | handoff context => exact handoffWindows_outcome contract context
  | recover reason => exact recoverBootL0_outcome contract reason
  | stop => exact stopBootL0_outcome contract

/-- The published evidence repeats the contract. -/
structure Mirrors (contract : BootL0Contract) : Prop where
  state : contract.evidence.state = contract.state
  bootGeneration : contract.evidence.bootGeneration = contract.generation
  ownerGeneration : contract.evidence.ownerGeneration = contract.owner.generation
  ownerCount : contract.evidence.ownerCount = contract.owner.ownerCount
  activeProcessors : contract.evidence.activeProcessors = contract.owner.activeProcessors

theorem publishEvidence_mirrors (contract : BootL0Contract) (status : HvStatus) :
    Mirrors (publishEvidence contract status) := ⟨rfl, rfl, rfl, rfl, rfl⟩

/-- The owner of the hardware: there is one exactly while the root has it, of
the generation of the contract, and nothing is left of it afterwards. -/
structure Owned (contract : BootL0Contract) : Prop where
  valid : validContract contract = true
  ownerCount : contract.owner.ownerCount = 1 ↔ Owns contract.state
  released : ¬Owns contract.state → contract.owner = noOwner
  ownerGeneration : contract.owner.ownerCount = 1 → contract.owner.generation = contract.generation
  generation : contract.generation ≠ 0
  handoff : contract.state ≠ .WindowsHandoff

theorem Owned.publish {contract : BootL0Contract} (owned : Owned contract) (status : HvStatus) :
    Owned (publishEvidence contract status) :=
  ⟨owned.valid, owned.ownerCount, owned.released, owned.ownerGeneration, owned.generation,
    owned.handoff⟩

/-- A contract that has let its owner go. -/
theorem Owned.release {contract : BootL0Contract} (owned : Owned contract) {state : BootL0State}
    (idle : ¬Owns state) (between : state ≠ .WindowsHandoff) :
    Owned { contract with state := state, owner := noOwner } := by
  have none : noOwner.ownerCount ≠ 1 := by decide
  exact ⟨owned.valid, iff_of_false none idle, fun _ => rfl, fun one => absurd one none,
    owned.generation, between⟩

theorem nextGeneration_ne_zero (generation : U32) : nextGeneration generation ≠ 0 := by
  unfold nextGeneration
  split
  · decide
  · rename_i nonzero
    simpa using nonzero

theorem nextGeneration_ne_self {generation : U32} : nextGeneration generation ≠ generation := by
  unfold nextGeneration
  split
  · rename_i wraps
    rw [beq_iff_eq] at wraps
    intro one
    rw [← one] at wraps
    exact absurd wraps (by decide)
  · intro same
    have sum := congrArg BitVec.toNat same
    rw [BitVec.toNat_add, show (1 : U32).toNat = 1 from rfl] at sum
    have := generation.isLt
    omega

theorem Owned.activate {contract : BootL0Contract} (owned : Owned contract)
    (context : BootContext) : Owned (activateRoot contract context) where
  valid := owned.valid
  ownerCount := iff_of_true rfl (Or.inl rfl)
  released := fun idle => absurd (Or.inl rfl) idle
  ownerGeneration := fun _ => rfl
  generation := nextGeneration_ne_zero _
  handoff := fun handoff => by cases handoff

theorem Owned.ready {contract : BootL0Contract} (owned : Owned contract)
    (active : contract.state = .RootActive) : Owned { contract with state := .Ready } where
  valid := owned.valid
  ownerCount := iff_of_true (owned.ownerCount.mpr (Or.inl active)) (Or.inr rfl)
  released := fun idle => absurd (Or.inr rfl) idle
  ownerGeneration := owned.ownerGeneration
  generation := owned.generation
  handoff := fun handoff => by cases handoff

theorem Outcome.owned {contract : BootL0Contract} {call : BootCall}
    {result : HvStatus × BootL0Contract} (outcome : Outcome contract call result)
    (owned : Owned contract) : Owned result.2 := by
  cases outcome with
  | unchanged _ => exact owned
  | published _ => exact owned.publish _
  | recovered _ =>
    have released : Owned { contract with state := .Recovery, owner := noOwner } :=
      owned.release (by decide) (by decide)
    exact released.publish _
  | started _ _ _ => exact (owned.activate _).publish _
  | handed _ active _ _ _ => exact (owned.ready active).publish _
  | stopped _ =>
    have released : Owned { contract with state := .PreL0, owner := noOwner } :=
      owned.release (by decide) (by decide)
    exact released.publish _

theorem Outcome.mirrors {contract : BootL0Contract} {call : BootCall}
    {result : HvStatus × BootL0Contract} (outcome : Outcome contract call result)
    (mirrors : Mirrors contract) : Mirrors result.2 := by
  cases outcome with
  | unchanged _ => exact mirrors
  | published | recovered | started | handed | stopped => exact publishEvidence_mirrors _ _

theorem initial_owned : Owned initializeBootL0Contract where
  valid := by decide
  ownerCount := by decide
  released := fun _ => rfl
  ownerGeneration := by decide
  generation := by decide
  handoff := by decide

/-- The call is a start, and it succeeds. -/
def Starts (contract : BootL0Contract) : BootCall → Prop
  | .start context => (startBootL0 contract context).1 = .Success
  | _ => False

/-- A start that succeeds activates the root. -/
theorem Starts.activates {contract : BootL0Contract} {call : BootCall}
    (starts : Starts contract call) :
    ∃ context, step contract call = publishEvidence (activateRoot contract context) .Success := by
  cases call with
  | start given =>
    have success : (startBootL0 contract given).1 = .Success := starts
    have outcome := startBootL0_outcome contract given
    rw [step, bootCall]
    generalize startBootL0 contract given = result at success outcome
    cases outcome with
    | unchanged failed => exact absurd success (failed given rfl)
    | published failed => exact absurd success failed
    | recovered failed => exact absurd success failed
    | @started context _ _ _ => exact ⟨context, rfl⟩
  | handoff | recover | stop => exact starts.elim

/-- Only a start that succeeds changes the generation. -/
theorem step_generation {contract : BootL0Contract} {call : BootCall}
    (quiet : ¬Starts contract call) : (step contract call).generation = contract.generation := by
  have outcome := bootCall_outcome contract call
  rw [step]
  generalize done : bootCall contract call = result at outcome
  cases outcome with
  | unchanged | published | recovered | handed | stopped => rfl
  | @started context _ _ _ =>
    have starts : Starts contract (.start (some context)) := congrArg Prod.fst done
    exact absurd starts quiet

theorem ownerNonce_generation (generation logicalProcessors : U32) :
    (ownerNonce generation logicalProcessors).extractLsb' 32 32 = generation := by
  unfold ownerNonce
  ext bit inside
  have wide : 32 + bit < 64 := by omega
  have high : ¬32 + bit < 32 := by omega
  simp [wide, high, BitVec.getLsbD_eq_getElem inside]

theorem ownerNonce_ne_zero {generation logicalProcessors : U32} (nonzero : generation ≠ 0) :
    ownerNonce generation logicalProcessors ≠ 0 := by
  intro zero
  have same := ownerNonce_generation generation logicalProcessors
  rw [zero] at same
  exact nonzero (same.symm.trans (by decide))

/-- Every two starts that succeed one after the other publish nonces that are
different, and not zero. -/
def NoncesDiffer (contract : BootL0Contract) (calls : List BootCall) : Prop :=
  ∀ pre first mid second post, calls = pre ++ first :: (mid ++ second :: post) →
    Starts (Run.after step contract pre) first →
    ¬Run.Occurs step Starts (Run.after step contract (pre ++ [first])) mid →
    Starts (Run.after step contract (pre ++ first :: mid)) second →
    (Run.after step contract (pre ++ [first])).owner.nonce ≠ 0 ∧
      (Run.after step contract (pre ++ first :: (mid ++ [second]))).owner.nonce ≠ 0 ∧
      (Run.after step contract (pre ++ [first])).owner.nonce ≠
        (Run.after step contract (pre ++ first :: (mid ++ [second]))).owner.nonce

theorem nonces_differ (contract : BootL0Contract) (calls : List BootCall) :
    NoncesDiffer contract calls := by
  intro pre first mid second post _ starts none again
  obtain ⟨context, active⟩ := starts.activates
  obtain ⟨later, reactive⟩ := again.activates
  have here : Run.after step contract (pre ++ [first]) =
      publishEvidence (activateRoot (Run.after step contract pre) context) .Success := by
    rw [Run.after_append, ← active]
    rfl
  have kept : (Run.after step contract (pre ++ first :: mid)).generation =
      (Run.after step contract (pre ++ [first])).generation := by
    have same : Run.after step contract (pre ++ first :: mid) =
        Run.after step (Run.after step contract (pre ++ [first])) mid := by
      rw [← Run.after_append, List.append_assoc, List.singleton_append]
    rw [same]
    refine Run.invariant
      (P := fun state : BootL0Contract =>
        state.generation = (Run.after step contract (pre ++ [first])).generation)
      (fun state call held quiet => ?_) rfl (Run.not_occurs_iff.mp none)
    exact (step_generation quiet).trans held
  have there : Run.after step contract (pre ++ first :: (mid ++ [second])) =
      publishEvidence (activateRoot (Run.after step contract (pre ++ first :: mid)) later)
        .Success := by
    rw [← List.cons_append, ← List.append_assoc, Run.after_append, ← reactive]
    rfl
  rw [here, there]
  refine ⟨ownerNonce_ne_zero (nextGeneration_ne_zero _),
    ownerNonce_ne_zero (nextGeneration_ne_zero _), fun same => ?_⟩
  have generations := congrArg (BitVec.extractLsb' 32 32) same
  simp only [publishEvidence, activateRoot, ownerNonce_generation] at generations
  rw [kept, here] at generations
  exact nextGeneration_ne_self generations.symm

theorem after_owned (calls : List BootCall) :
    Owned (Run.after step initializeBootL0Contract calls) :=
  Run.invariant_always (P := Owned)
    (fun contract call owned => (bootCall_outcome contract call).owned owned) initial_owned calls

theorem after_mirrors (calls : List BootCall) :
    Mirrors (Run.after step initializeBootL0Contract calls) :=
  Run.invariant_always (P := Mirrors)
    (fun contract call mirrors => (bootCall_outcome contract call).mirrors mirrors)
    (publishEvidence_mirrors _ _) calls

/-- The ownership of the hardware at boot, over every run of the calls. -/
theorem boot_ownership (calls : List BootCall) :
    Owned (Run.after step initializeBootL0Contract calls) ∧
      Mirrors (Run.after step initializeBootL0Contract calls) ∧
      NoncesDiffer initializeBootL0Contract calls :=
  ⟨after_owned calls, after_mirrors calls, nonces_differ _ calls⟩

/-- The call takes the contract into `Ready`. -/
def Enters (contract : BootL0Contract) (call : BootCall) : Prop :=
  contract.state ≠ .Ready ∧ (step contract call).state = .Ready

/-- The call is a start that succeeds, and its context is clear. -/
def StartsClear (contract : BootL0Contract) : BootCall → Prop
  | .start (some context) => (startBootL0 contract (some context)).1 = .Success ∧ Clear context
  | _ => False

/-- The call is a handoff whose context is clear. -/
def HandsClear : BootCall → Prop
  | .handoff (some context) => Clear context
  | _ => False

/-- The contract does not stay with the root. -/
def Leaves (contract : BootL0Contract) (call : BootCall) : Prop :=
  (step contract call).state ≠ .RootActive

/-- Every entry into `Ready` is a handoff over a clear context, and the root has
been active since a start over a clear context. -/
def ClearEntries (contract : BootL0Contract) (calls : List BootCall) : Prop :=
  ∀ pre call post, calls = pre ++ call :: post → Enters (Run.after step contract pre) call →
    HandsClear call ∧ Run.Since step StartsClear Leaves contract pre

/-- A handoff that the active root can carry out has a clear context. -/
def HandoffClear (contract : BootL0Contract) : BootCall → Prop
  | .handoff (some context) =>
    validContext context = true → contract.state = .RootActive →
      contract.owner.activeProcessors = context.logicalProcessors →
      context.windowsHandoffReady ≠ 0 → Clear context
  | _ => True

/-- The root becomes active only by a start over a clear context. -/
theorem step_rootActive {contract : BootL0Contract} {call : BootCall}
    (active : (step contract call).state = .RootActive) :
    StartsClear contract call ∨ contract.state = .RootActive ∧ ¬Leaves contract call := by
  have stays : ¬Leaves contract call := fun leaves => leaves active
  have outcome := bootCall_outcome contract call
  rw [step] at active
  generalize done : bootCall contract call = result at active outcome
  cases outcome with
  | unchanged | published => exact Or.inr ⟨active, stays⟩
  | recovered | handed | stopped => cases active
  | started _ _ clear => exact Or.inl ⟨congrArg Prod.fst done, clear⟩

/-- The contract becomes ready only by a handoff that an active root carries
out. -/
theorem enters_inv {contract : BootL0Contract} {call : BootCall} (enters : Enters contract call) :
    ∃ context, call = .handoff (some context) ∧ validContext context = true ∧
      contract.state = .RootActive ∧
      contract.owner.activeProcessors = context.logicalProcessors ∧
      context.windowsHandoffReady ≠ 0 := by
  obtain ⟨before, after⟩ := enters
  have outcome := bootCall_outcome contract call
  rw [step] at after
  generalize bootCall contract call = result at after outcome
  cases outcome with
  | unchanged | published => exact absurd after before
  | recovered | started | stopped => cases after
  | @handed context valid active _ processors ready =>
    exact ⟨context, rfl, valid, active, processors, ready⟩

/-- An active root carries out every handoff that finds its processors and is
ready. -/
theorem handoff_enters {contract : BootL0Contract} {context : BootContext}
    (owned : Owned contract) (valid : validContext context = true)
    (active : contract.state = .RootActive)
    (processors : contract.owner.activeProcessors = context.logicalProcessors)
    (ready : context.windowsHandoffReady ≠ 0) : Enters contract (.handoff (some context)) := by
  have one := owned.ownerCount.mpr (Or.inl active)
  constructor
  · rw [active]
    decide
  · have handed : ¬(context.windowsHandoffReady == 0) = true := by simpa using ready
    simp only [step, bootCall, handoffWindows, owned.valid, valid, active, one, processors,
      bne_self_eq_false, Bool.not_true, Bool.or_self, Bool.false_eq_true, if_false, if_neg handed,
      publishEvidence]

/-- The contract enters `Ready` only over clear contexts, in every step of a
run, exactly if every handoff that an active root can carry out has one: the
handoff itself does not look at the owner, the manifest and the hardware that
its context reports, as the start does. -/
theorem clear_entries_iff (calls : List BootCall) :
    ClearEntries initializeBootL0Contract calls ↔
      Run.Every step HandoffClear initializeBootL0Contract calls := by
  constructor
  · intro entries pre call post split
    cases call with
    | handoff given =>
      cases given with
      | none => trivial
      | some context =>
        intro valid active processors ready
        have enters := handoff_enters (after_owned pre) valid active processors ready
        exact (entries pre _ post split enters).1
    | start | recover | stop => trivial
  · intro every pre call post split enters
    obtain ⟨context, rfl, valid, active, processors, ready⟩ := enters_inv enters
    refine ⟨every pre _ post split valid active processors ready, ?_⟩
    exact Run.since_of_flag (F := fun contract : BootL0Contract => contract.state = .RootActive)
      (fun _ _ => step_rootActive) (by decide) active

/-- The context of a machine with two processors and a foreign owner. -/
def foreignContext : BootContext := ⟨kAbiVersion, sizeofBootContext, 2, 1, 1, 1, 1, 0⟩

/-- The start finds no foreign owner, and the handoff does. -/
theorem handoff_over_foreign_owner :
    ¬ClearEntries initializeBootL0Contract
      [.start (some { foreignContext with externalOwner := 0 }),
        .handoff (some foreignContext)] := by
  intro entries
  have enters : Enters (Run.after step initializeBootL0Contract
      [.start (some { foreignContext with externalOwner := 0 })])
      (.handoff (some foreignContext)) := ⟨by decide +kernel, by decide +kernel⟩
  have clear : Clear foreignContext := (entries [_] _ [] rfl enters).1
  exact absurd clear.externalOwner (by decide)

end Knhv.Boot
