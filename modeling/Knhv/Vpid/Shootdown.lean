import Knhv.Lib.Bits
import Knhv.Lib.Guarded
import Knhv.Lib.Run
import Knhv.Vpid.Model

namespace Knhv.Vpid

/-- A call on a shootdown record, with whatever the caller passes. -/
inductive ShootdownInput
  | begin (request : Option ShootdownRequest)
  | acknowledge (cpuIndex : U32)
  | complete (nowTsc : U64)
  | quarantine

def shootdownStep (state : ShootdownState) : ShootdownInput → ShootdownState
  | .begin request => (beginShootdown request).2
  | .acknowledge cpuIndex => (acknowledgeShootdown state cpuIndex).2
  | .complete nowTsc => (completeShootdown state nowTsc).2
  | .quarantine => (quarantineShootdown state).2

/-- A call that starts the record over, whether or not it takes the request. -/
def ShootdownInput.Begins : ShootdownInput → Prop
  | .begin _ => True
  | _ => False

instance : DecidablePred ShootdownInput.Begins
  | .begin _ => .isTrue trivial
  | .acknowledge _ | .complete _ | .quarantine => .isFalse id

/-- What a valid record holds once a request has been taken, whichever state it
is in. -/
structure Underway (state : ShootdownState) : Prop where
  header : isVersionedSizeValid state.version state.size sizeofShootdownState = true
  reserved : state.reserved = 0
  requestId : state.requestId ≠ 0
  generation : state.generation ≠ 0
  targets : state.targetCpuMask ≠ 0
  deadline : state.deadlineTsc ≠ 0
  payload : isShootdownPayloadValid state.type state.vpid = true
  inside : state.acknowledgedCpuMask &&& ~~~state.targetCpuMask = 0

/-- The coupling of the state with the acknowledgements. -/
theorem isShootdownStateValid_iff {state : ShootdownState} (busy : state.state ≠ kShootdownIdle) :
    isShootdownStateValid state = true ↔
      isShootdownStateValidValue state.state = true ∧ Underway state ∧
        (state.state = kShootdownCompleted → state.acknowledgedCpuMask = state.targetCpuMask) ∧
        (state.state = kShootdownTimedOut → state.acknowledgedCpuMask ≠ state.targetCpuMask) := by
  constructor
  · intro valid
    simp only [isShootdownStateValid, beq_iff_eq, if_neg busy] at valid
    split at valid
    · cases valid
    rename_i header
    split at valid
    · cases valid
    rename_i payload
    simp only [Bool.or_eq_true, Bool.not_eq_true', bne_iff_ne, ne_eq, not_or, Bool.not_eq_false,
      not_not, beq_iff_eq] at header payload
    obtain ⟨⟨versioned, reserved⟩, known⟩ := header
    obtain ⟨⟨⟨⟨⟨requestId, generation⟩, targets⟩, deadline⟩, covered⟩, inside⟩ := payload
    refine ⟨known, ⟨versioned, reserved, requestId, generation, targets, deadline, covered, inside⟩,
      fun completed => ?_, fun timedOut => ?_⟩
    · simpa [completed] using valid
    · have other : kShootdownTimedOut ≠ kShootdownCompleted := by decide
      simpa [timedOut, other] using valid
  · rintro ⟨known, underway, completed, timedOut⟩
    simp only [isShootdownStateValid, known, underway.header, underway.reserved, underway.requestId,
      underway.generation, underway.targets, underway.deadline, underway.payload, underway.inside,
      busy, beq_iff_eq, Bool.not_true, bne_self_eq_false, Bool.or_self, Bool.false_eq_true, if_false,
      Bool.or_eq_true, or_self]
    split
    · rename_i done
      simpa using completed done
    · split
      · rename_i late
        simpa using timedOut late
      · rfl

theorem underway_pendingShootdown {request : ShootdownRequest}
    (valid : isShootdownRequestValid (some request) = true) :
    Underway (pendingShootdown request) := by
  simp only [isShootdownRequestValid] at valid
  split at valid
  · cases valid
  rename_i checks
  simp only [Bool.or_eq_true, Bool.not_eq_true', bne_iff_ne, ne_eq, not_or, Bool.not_eq_false,
    not_not, beq_iff_eq, decide_eq_true_eq] at checks
  obtain ⟨⟨⟨⟨⟨⟨⟨_, _⟩, requestId⟩, generation⟩, _⟩, targets⟩, deadline⟩, payload⟩ := checks
  have header : isVersionedSizeValid kVpidContractVersion sizeofShootdownState sizeofShootdownState =
      true := by decide
  have nothing : (0 : U64) &&& ~~~request.targetCpuMask = 0 := BitVec.zero_and
  exact ⟨header, rfl, requestId, generation, targets, deadline, payload, nothing⟩

/-- Everything a call can do to a record. -/
inductive ShootdownEffect (state : ShootdownState) : ShootdownInput → ShootdownState → Prop
  | refused {input} : ¬input.Begins → ShootdownEffect state input state
  | emptied {request} : isShootdownRequestValid request = false →
      ShootdownEffect state (.begin request) initializeShootdownState
  | begun {request} : isShootdownRequestValid (some request) = true →
      ShootdownEffect state (.begin (some request)) (pendingShootdown request)
  | acknowledged {cpuIndex} : isShootdownStateValid state = true →
      state.state = kShootdownPending → cpuIndex < kVpidMaxCpus →
      state.targetCpuMask.getLsbD cpuIndex.toNat = true →
      (acknowledgeShootdown state cpuIndex).1 = true →
      ShootdownEffect state (.acknowledge cpuIndex)
        { state with acknowledgedCpuMask := state.acknowledgedCpuMask ||| 1#64 <<< cpuIndex.toNat }
  | completed {nowTsc} : isShootdownStateValid state = true → state.state = kShootdownPending →
      nowTsc ≤ state.deadlineTsc → state.acknowledgedCpuMask = state.targetCpuMask →
      ShootdownEffect state (.complete nowTsc) { state with state := kShootdownCompleted }
  | timedOut {nowTsc} : isShootdownStateValid state = true → state.state = kShootdownPending →
      state.deadlineTsc < nowTsc →
      ShootdownEffect state (.complete nowTsc) { state with state := kShootdownTimedOut }
  | quarantined : isShootdownStateValid state = true →
      state.state = kShootdownPending ∨ state.state = kShootdownTimedOut →
      ShootdownEffect state .quarantine { state with state := kShootdownQuarantined }

theorem acknowledgeShootdown_guarded (state : ShootdownState) (cpuIndex : U32) :
    Guarded state
      (fun new => isShootdownStateValid state = true ∧ state.state = kShootdownPending ∧
        cpuIndex < kVpidMaxCpus ∧ state.targetCpuMask.getLsbD cpuIndex.toNat = true ∧
        new = { state with
          acknowledgedCpuMask := state.acknowledgedCpuMask ||| 1#64 <<< cpuIndex.toNat })
      (acknowledgeShootdown state cpuIndex) := by
  simp only [acknowledgeShootdown]
  split
  · exact Or.inl rfl
  rename_i checks
  simp only [Bool.or_eq_true, Bool.not_eq_true', bne_iff_ne, ne_eq, not_or, Bool.not_eq_false,
    not_not, decide_eq_true_eq, BitVec.not_le] at checks
  obtain ⟨⟨valid, pending⟩, inRange⟩ := checks
  split
  · exact Or.inl rfl
  · rename_i target
    have width : cpuIndex.toNat < 64 := inRange
    have named := (Bits.and_one_shiftLeft_ne_zero state.targetCpuMask width).mp (by simpa using target)
    exact Or.inr ⟨_, ⟨valid, pending, inRange, named, rfl⟩, rfl⟩

/-- The one place that says what a call does. -/
theorem shootdownStep_effect (state : ShootdownState) (input : ShootdownInput) :
    ShootdownEffect state input (shootdownStep state input) := by
  cases input with
  | begin request =>
    cases request with
    | none => exact .emptied rfl
    | some request =>
      simp only [shootdownStep, beginShootdown]
      cases valid : isShootdownRequestValid (some request) with
      | false => exact .emptied valid
      | true => exact .begun valid
  | acknowledge cpuIndex =>
    refine (acknowledgeShootdown_guarded state cpuIndex).elim (.refused id) ?_
    rintro _ took ⟨valid, pending, inRange, target, rfl⟩
    exact .acknowledged valid pending inRange target took
  | complete nowTsc =>
    simp only [shootdownStep, completeShootdown]
    split
    · exact .refused id
    rename_i checks
    simp only [Bool.or_eq_true, Bool.not_eq_true', bne_iff_ne, ne_eq, not_or, Bool.not_eq_false,
      not_not] at checks
    obtain ⟨valid, pending⟩ := checks
    split
    · rename_i late
      exact .timedOut valid pending late
    rename_i inTime
    split
    · exact .refused id
    · rename_i all
      simp only [bne_iff_ne, ne_eq, not_not] at all
      exact .completed valid pending (BitVec.not_lt.mp inTime) all
  | quarantine =>
    simp only [shootdownStep, quarantineShootdown]
    split
    · exact .refused id
    · rename_i checks
      simp only [Bool.or_eq_true, Bool.not_eq_true', Bool.and_eq_true, bne_iff_ne, ne_eq, not_or,
        Bool.not_eq_false, not_and, not_not] at checks
      exact .quarantined checks.1 (or_iff_not_imp_left.mpr checks.2)

/-- A completion that comes after the deadline does not find every target CPU
acknowledged. -/
def OnTime (state : ShootdownState) : ShootdownInput → Prop
  | .complete nowTsc => state.state = kShootdownPending →
      state.acknowledgedCpuMask = state.targetCpuMask → nowTsc ≤ state.deadlineTsc
  | _ => True

instance (state : ShootdownState) : DecidablePred (OnTime state)
  | .complete nowTsc => inferInstanceAs (Decidable (state.state = kShootdownPending →
      state.acknowledgedCpuMask = state.targetCpuMask → nowTsc ≤ state.deadlineTsc))
  | .begin _ | .acknowledge _ | .quarantine => .isTrue trivial

theorem Underway.acknowledge {state : ShootdownState} (underway : Underway state) {cpuIndex : U32}
    (inRange : cpuIndex < kVpidMaxCpus)
    (target : state.targetCpuMask.getLsbD cpuIndex.toNat = true) :
    Underway { state with
      acknowledgedCpuMask := state.acknowledgedCpuMask ||| 1#64 <<< cpuIndex.toNat } := by
  refine { underway with inside := ?_ }
  have width : cpuIndex.toNat < 64 := inRange
  refine BitVec.eq_of_getLsbD_eq fun bit inside => ?_
  have before := congrArg (·.getLsbD bit) underway.inside
  simp only [BitVec.getLsbD_and, BitVec.getLsbD_not, inside, decide_true, Bool.true_and] at before
  have grown := Bits.getLsbD_or_one_shiftLeft state.acknowledgedCpuMask width bit
  simp only [BitVec.getLsbD_and, BitVec.getLsbD_not, inside, decide_true, Bool.true_and]
  rw [grown]
  by_cases same : bit = cpuIndex.toNat
  · simp [same, target]
  · simpa [same] using before

theorem underway_of_valid {state : ShootdownState} (valid : isShootdownStateValid state = true)
    (busy : state.state ≠ kShootdownIdle) : Underway state :=
  ((isShootdownStateValid_iff busy).mp valid).2.1

theorem busy_of_pending {state : ShootdownState} (pending : state.state = kShootdownPending) :
    state.state ≠ kShootdownIdle := by
  rw [pending]
  decide

theorem busy_of_held {state : ShootdownState}
    (held : state.state = kShootdownPending ∨ state.state = kShootdownTimedOut) :
    state.state ≠ kShootdownIdle := by
  rcases held with pending | late
  · exact busy_of_pending pending
  · rw [late]
    decide

theorem isShootdownStateValid_pending {state : ShootdownState}
    (pending : state.state = kShootdownPending) (underway : Underway state) :
    isShootdownStateValid state = true := by
  refine (isShootdownStateValid_iff (busy_of_pending pending)).mpr ⟨?_, underway, ?_, ?_⟩
  · rw [pending]
    decide
  · rw [pending]
    exact fun completed => absurd completed (by decide)
  · rw [pending]
    exact fun late => absurd late (by decide)

theorem isShootdownStateValid_moved {state : ShootdownState} (underway : Underway state)
    {kind : U32} (known : isShootdownStateValidValue kind = true) (busy : kind ≠ kShootdownIdle)
    (completed : kind = kShootdownCompleted → state.acknowledgedCpuMask = state.targetCpuMask)
    (timedOut : kind = kShootdownTimedOut → state.acknowledgedCpuMask ≠ state.targetCpuMask) :
    isShootdownStateValid { state with state := kind } = true := by
  have moved : Underway { state with state := kind } := { underway with }
  exact (@isShootdownStateValid_iff { state with state := kind } busy).mpr
    ⟨known, moved, completed, timedOut⟩

/-- A call in time keeps a record valid. -/
theorem ShootdownEffect.valid {state next : ShootdownState} {input : ShootdownInput}
    (effect : ShootdownEffect state input next) (valid : isShootdownStateValid state = true)
    (inTime : OnTime state input) : isShootdownStateValid next = true := by
  cases effect with
  | refused => exact valid
  | emptied => decide
  | begun request => exact isShootdownStateValid_pending rfl (underway_pendingShootdown request)
  | acknowledged _ pending inRange target =>
    have underway := underway_of_valid valid (busy_of_pending pending)
    exact isShootdownStateValid_pending pending (underway.acknowledge inRange target)
  | completed _ pending _ all =>
    have underway := underway_of_valid valid (busy_of_pending pending)
    exact isShootdownStateValid_moved underway (by decide) (by decide) (fun _ => all)
      (fun late => absurd late (by decide))
  | timedOut _ pending late =>
    have underway := underway_of_valid valid (busy_of_pending pending)
    refine isShootdownStateValid_moved underway (by decide) (by decide)
      (fun completed => absurd completed (by decide)) (fun _ all => ?_)
    exact absurd late (BitVec.not_lt.mpr (inTime pending all))
  | quarantined _ held =>
    have underway := underway_of_valid valid (busy_of_held held)
    exact isShootdownStateValid_moved underway (by decide) (by decide)
      (fun completed => absurd completed (by decide)) (fun late => absurd late (by decide))

/-- What a record promises in every state it reaches. -/
structure StateSound (state : ShootdownState) : Prop where
  valid : isShootdownStateValid state = true
  inside : state.acknowledgedCpuMask &&& ~~~state.targetCpuMask = 0
  completed : state.state = kShootdownCompleted → state.acknowledgedCpuMask = state.targetCpuMask
  timedOut : state.state = kShootdownTimedOut →
    quarantineShootdown state = (true, { state with state := kShootdownQuarantined })

/-- What a call promises: within one shootdown the acknowledgements only grow,
and only a completion in time, with all of them there, reaches `Completed`. -/
structure StepSound (state : ShootdownState) (input : ShootdownInput) : Prop where
  grows : ¬input.Begins →
    state.acknowledgedCpuMask &&& ~~~(shootdownStep state input).acknowledgedCpuMask = 0 ∧
      (shootdownStep state input).targetCpuMask = state.targetCpuMask
  completes : (shootdownStep state input).state = kShootdownCompleted →
    state.state ≠ kShootdownCompleted →
    ∃ nowTsc, input = .complete nowTsc ∧ nowTsc ≤ state.deadlineTsc ∧
      state.acknowledgedCpuMask = state.targetCpuMask

/-- An acknowledgement of this CPU that the record takes. -/
def Acknowledges (cpuIndex : U32) (state : ShootdownState) (input : ShootdownInput) : Prop :=
  input = .acknowledge cpuIndex ∧ (acknowledgeShootdown state cpuIndex).1 = true

theorem StateSound.of_valid {state : ShootdownState} (valid : isShootdownStateValid state = true) :
    StateSound state := by
  by_cases idle : state.state = kShootdownIdle
  · refine ⟨valid, ?_, ?_, ?_⟩
    · simp only [isShootdownStateValid, idle] at valid
      split at valid
      · cases valid
      · simp only [beq_self_eq_true, if_true, Bool.and_eq_true, beq_iff_eq] at valid
        rw [valid.1.1.2]
        exact BitVec.zero_and
    · rw [idle]
      exact fun completed => absurd completed (by decide)
    · rw [idle]
      exact fun late => absurd late (by decide)
  · obtain ⟨_, underway, completed, _⟩ := (isShootdownStateValid_iff idle).mp valid
    refine ⟨valid, underway.inside, completed, fun late => ?_⟩
    have late' : (state.state != kShootdownTimedOut) = false := by simpa using late
    simp only [quarantineShootdown, valid, late', Bool.not_true, Bool.and_false, Bool.or_self,
      Bool.false_eq_true, if_false]

theorem stepSound (state : ShootdownState) (input : ShootdownInput) : StepSound state input := by
  have effect := shootdownStep_effect state input
  generalize reached : shootdownStep state input = next at effect
  have kept : state.acknowledgedCpuMask &&& ~~~state.acknowledgedCpuMask = 0 :=
    BitVec.and_not_self _
  refine ⟨?_, ?_⟩
  · rw [reached]
    intro quiet
    cases effect with
    | refused => exact ⟨kept, rfl⟩
    | emptied | begun => exact absurd trivial quiet
    | acknowledged =>
      refine ⟨?_, rfl⟩
      change state.acknowledgedCpuMask &&& ~~~(state.acknowledgedCpuMask ||| _) = 0
      rw [BitVec.not_or, ← BitVec.and_assoc, kept]
      exact BitVec.zero_and
    | completed | timedOut | quarantined => exact ⟨kept, rfl⟩
  · rw [reached]
    intro completed fresh
    cases effect with
    | refused => exact absurd completed fresh
    | acknowledged => exact absurd completed fresh
    | completed _ _ inTime all => exact ⟨_, rfl, inTime, all⟩
    | emptied => exact absurd completed (by decide)
    | begun => exact absurd completed (by decide : kShootdownPending ≠ kShootdownCompleted)
    | timedOut => exact absurd completed (by decide : kShootdownTimedOut ≠ kShootdownCompleted)
    | quarantined => exact absurd completed (by decide : kShootdownQuarantined ≠ kShootdownCompleted)

/-- A bit of the acknowledgement mask that is up is from a call of its CPU just
now, or was up before a call that did not start the record over. -/
theorem acknowledged_raised {state : ShootdownState} {input : ShootdownInput} {cpuIndex : U32}
    (up : (shootdownStep state input).acknowledgedCpuMask.getLsbD cpuIndex.toNat = true) :
    Acknowledges cpuIndex state input ∨
      state.acknowledgedCpuMask.getLsbD cpuIndex.toNat = true ∧ ¬input.Begins := by
  have effect := shootdownStep_effect state input
  generalize shootdownStep state input = next at effect up
  cases effect with
  | refused quiet => exact Or.inr ⟨up, quiet⟩
  | emptied => simp [initializeShootdownState] at up
  | begun => simp [pendingShootdown, initializeShootdownState] at up
  | @acknowledged cpu _ _ inRange _ took =>
    have width : cpu.toNat < 64 := inRange
    simp only [Bits.getLsbD_or_one_shiftLeft _ width, Bool.or_eq_true, decide_eq_true_eq] at up
    rcases up with before | same
    · exact Or.inr ⟨before, id⟩
    · have named : cpuIndex = cpu := BitVec.eq_of_toNat_eq same
      subst named
      exact Or.inl ⟨rfl, took⟩
  | completed | timedOut | quarantined => exact Or.inr ⟨up, id⟩

theorem isShootdownStateValid_beginShootdown (request : Option ShootdownRequest) :
    isShootdownStateValid (beginShootdown request).2 = true := by
  have idle : isShootdownStateValid initializeShootdownState = true := by decide
  exact (shootdownStep_effect initializeShootdownState (.begin request)).valid idle trivial

theorem acknowledgedCpuMask_beginShootdown (request : Option ShootdownRequest) :
    (beginShootdown request).2.acknowledgedCpuMask = 0 := by
  have effect := shootdownStep_effect initializeShootdownState (.begin request)
  change ShootdownEffect _ _ (beginShootdown request).2 at effect
  generalize (beginShootdown request).2 = next at effect
  cases effect with
  | refused quiet => exact absurd trivial quiet
  | emptied | begun => rfl

/-- A late completion that finds every target CPU acknowledged leaves a record
that is not valid and that cannot be quarantined. -/
theorem late_completion {state : ShootdownState} {nowTsc : U64}
    (valid : isShootdownStateValid state = true) (pending : state.state = kShootdownPending)
    (all : state.acknowledgedCpuMask = state.targetCpuMask) (late : state.deadlineTsc < nowTsc) :
    isShootdownStateValid (shootdownStep state (.complete nowTsc)) = false := by
  have pending' : (state.state != kShootdownPending) = false := by simpa using pending
  have reached : shootdownStep state (.complete nowTsc) =
      { state with state := kShootdownTimedOut } := by
    simp only [shootdownStep, completeShootdown, valid, pending', late, Bool.not_true,
      Bool.or_self, Bool.false_eq_true, if_false, if_true]
  rw [reached, ← Bool.not_eq_true]
  intro accepted
  have busy : kShootdownTimedOut ≠ kShootdownIdle := by decide
  have coupled := ((@isShootdownStateValid_iff { state with state := kShootdownTimedOut } busy).mp
    accepted).2.2.2
  exact coupled rfl all

/-- A run on one record, from the begin that opens it: what its states and its
calls promise, and that a completed shootdown was acknowledged by every target
CPU since it was begun. -/
structure ShootdownHolds (request : Option ShootdownRequest) (inputs : List ShootdownInput) :
    Prop where
  states : ∀ pre post, inputs = pre ++ post →
    StateSound (Run.after shootdownStep (beginShootdown request).2 pre)
  steps : Run.Every shootdownStep StepSound (beginShootdown request).2 inputs
  acknowledged : ∀ pre post, inputs = pre ++ post →
    (Run.after shootdownStep (beginShootdown request).2 pre).state = kShootdownCompleted →
    ∀ cpuIndex : U32,
      (Run.after shootdownStep (beginShootdown request).2 pre).targetCpuMask.getLsbD
        cpuIndex.toNat = true →
      Run.Since shootdownStep (Acknowledges cpuIndex) (fun _ input => input.Begins)
        (beginShootdown request).2 pre

/-- The shootdown state machine over every run. It keeps its promises exactly in
the runs in which no completion comes after the deadline of a pending shootdown
that every target CPU has acknowledged. -/
theorem shootdown_holds_iff (request : Option ShootdownRequest) (inputs : List ShootdownInput) :
    ShootdownHolds request inputs ↔
      Run.Every shootdownStep OnTime (beginShootdown request).2 inputs := by
  constructor
  · intro holds pre input post split
    cases input with
    | complete nowTsc =>
      intro pending all
      by_contra late
      have before := (holds.states pre _ split).valid
      have reached := (holds.states (pre ++ [.complete nowTsc]) post (by simp [split])).valid
      rw [Run.after_append] at reached
      have broken := late_completion before pending all (BitVec.not_le.mp late)
      exact Bool.false_ne_true (broken.symm.trans reached)
    | begin | acknowledge | quarantine => trivial
  · intro inTime
    have states (pre post : List ShootdownInput) (split : inputs = pre ++ post) :
        StateSound (Run.after shootdownStep (beginShootdown request).2 pre) := by
      refine .of_valid (Run.invariant (P := fun state => isShootdownStateValid state = true)
        (fun state input valid => (shootdownStep_effect state input).valid valid)
        (isShootdownStateValid_beginShootdown request) ?_)
      rw [split] at inTime
      exact Run.every_of_append inTime
    refine ⟨states, fun pre input post _ => stepSound _ input, fun pre post split completed cpu target => ?_⟩
    rw [← (states pre post split).completed completed] at target
    refine Run.since_of_flag
      (F := fun state => state.acknowledgedCpuMask.getLsbD cpu.toNat = true)
      (fun _ _ up => acknowledged_raised up) ?_ target
    rw [acknowledgedCpuMask_beginShootdown]
    simp

/-- A request for one CPU to drop VPID 1. -/
def sampleShootdown (generation deadlineTsc : U64) : ShootdownRequest where
  size := sizeofShootdownRequest
  version := kVpidContractVersion
  type := kTypeSingleContext
  flags := 0
  requestId := 1
  generation := generation
  sourceCpu := 0
  vpid := 1
  targetCpuMask := 1
  address := 0
  deadlineTsc := deadlineTsc

theorem shootdown_acknowledged_then_late :
    (Run.after shootdownStep (beginShootdown (some (sampleShootdown 7 10))).2
        [.acknowledge 0, .complete 11]).state = kShootdownTimedOut ∧
      isShootdownStateValid (Run.after shootdownStep
        (beginShootdown (some (sampleShootdown 7 10))).2 [.acknowledge 0, .complete 11]) = false ∧
      (quarantineShootdown (Run.after shootdownStep
        (beginShootdown (some (sampleShootdown 7 10))).2 [.acknowledge 0, .complete 11])).1 = false ∧
      ¬ShootdownHolds (some (sampleShootdown 7 10)) [.acknowledge 0, .complete 11] := by
  have broken : isShootdownStateValid (Run.after shootdownStep
      (beginShootdown (some (sampleShootdown 7 10))).2 [.acknowledge 0, .complete 11]) = false := by
    decide
  refine ⟨by decide, broken, by decide, fun holds => ?_⟩
  exact Bool.false_ne_true (broken.symm.trans (holds.states _ [] rfl).valid)

end Knhv.Vpid
