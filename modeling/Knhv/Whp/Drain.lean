import Mathlib.Logic.Function.Basic
import Knhv.Lib.Guarded
import Knhv.Lib.Run
import Knhv.Whp.Model

namespace Knhv.Whp

variable {V : Type}

/-- A partition with the processors that its owner has passed to
`CreateWhpVcpu`. -/
structure Machine (V : Type) where
  partition : WhpPartition
  vcpus : V → Option WhpVcpu

/-- The calls on a partition and on its processors, with any arguments. -/
inductive Call (V : Type)
  | configure (generation : U64) (vcpuCount : U32)
  | mapGpa (mapping : Option WhpMemoryMapping) (generation : U64) (physicalAddressBits : U32)
  | createVcpu (vcpu : V) (index : U32) (generation : U64)
  | startPartition (generation : U64)
  | startVcpu (vcpu : V) (generation : U64)
  | stopVcpu (vcpu : V) (generation : U64)
  | beginDrain (generation : U64)
  | close (generation : U64)
  | quarantine (generation : U64)

section Step

variable [DecidableEq V]

def Machine.setVcpu (machine : Machine V) (vcpu : V) (value : WhpVcpu) : Machine V :=
  { machine with vcpus := Function.update machine.vcpus vcpu (some value) }

/-- A processor that was never created has no state to change. -/
def Machine.updateVcpu (machine : Machine V) (vcpu : V) (call : WhpVcpu → WhpStatus × WhpVcpu) :
    Machine V :=
  match machine.vcpus vcpu with
  | none => machine
  | some value => machine.setVcpu vcpu (call value).2

def step (machine : Machine V) : Call V → Machine V
  | .configure generation vcpuCount =>
    { machine with
      partition := (configureWhpPartition machine.partition generation vcpuCount).2 }
  | .mapGpa mapping generation physicalAddressBits =>
    { machine with
      partition := (mapWhpGpa machine.partition mapping generation physicalAddressBits).2 }
  | .createVcpu vcpu index generation =>
    machine.setVcpu vcpu (createWhpVcpu machine.partition index generation).2
  | .startPartition generation =>
    { machine with partition := (startWhpPartition machine.partition generation).2 }
  | .startVcpu vcpu generation =>
    machine.updateVcpu vcpu fun value => startWhpVcpu machine.partition value generation
  | .stopVcpu vcpu generation =>
    machine.updateVcpu vcpu fun value => stopWhpVcpu machine.partition value generation
  | .beginDrain generation =>
    { machine with partition := (beginWhpDrain machine.partition generation).2 }
  | .close generation =>
    { machine with partition := (closeWhpPartition machine.partition generation).2 }
  | .quarantine generation =>
    { machine with partition := (quarantineWhpPartition machine.partition generation).2 }

/-- A partition that was just created, before any processor of it. -/
def fresh (partition : WhpPartition) : Machine V := ⟨partition, fun _ => none⟩

end Step

/-- What makes a partition valid. -/
structure PartitionValid (partition : WhpPartition) : Prop where
  versioned : isVersionedSizeValid partition.version partition.size sizeofWhpPartition = true
  partitionId : partition.partitionId ≠ 0
  ownerId : partition.ownerId ≠ 0
  generation : partition.generation ≠ 0
  state : partition.state ≤ kPartitionQuarantined
  flags : partition.flags &&& ~~~kWhpKnownPartitionFlagMask = 0
  someVcpu : partition.maxVcpus ≠ 0
  maxVcpus : partition.maxVcpus ≤ kWhpMaxVcpus
  configuredVcpus : partition.configuredVcpus ≤ partition.maxVcpus
  mappingCount : partition.mappingCount ≤ kWhpMaxMappings
  reserved : partition.reserved = 0
  empty : partition.state = kPartitionEmpty →
    partition.configuredVcpus = 0 ∧ partition.mappingCount = 0 ∧ partition.mappedPages = 0

theorem isWhpPartitionValid_iff {partition : WhpPartition} :
    isWhpPartitionValid partition = true ↔ PartitionValid partition := by
  unfold isWhpPartitionValid
  constructor
  · intro valid
    split at valid
    · cases valid
    rename_i checked
    simp only [Bool.or_eq_true, Bool.not_eq_true', beq_iff_eq, bne_iff_ne, decide_eq_true_eq,
      not_or, ne_eq, Bool.not_eq_false, Decidable.not_not, isPartitionStateValidValue,
      BitVec.not_lt] at checked
    obtain ⟨⟨⟨⟨⟨⟨⟨⟨⟨⟨versioned, partitionId⟩, ownerId⟩, generation⟩, state⟩, flags⟩, someVcpu⟩,
      maxVcpus⟩, configuredVcpus⟩, mappingCount⟩, reserved⟩ := checked
    refine ⟨versioned, partitionId, ownerId, generation, state, flags, someVcpu, maxVcpus,
      configuredVcpus, mappingCount, reserved, fun empty => ?_⟩
    rw [if_pos (beq_iff_eq.mpr empty)] at valid
    simpa only [Bool.and_eq_true, beq_iff_eq, and_assoc] using valid
  · intro valid
    rw [if_neg]
    · split
      · rename_i empty
        simpa only [Bool.and_eq_true, beq_iff_eq, and_assoc] using
          valid.empty (beq_iff_eq.mp empty)
      · rfl
    · simp only [Bool.or_eq_true, Bool.not_eq_true', beq_iff_eq, bne_iff_ne, decide_eq_true_eq,
        not_or, ne_eq, Bool.not_eq_false, Decidable.not_not, isPartitionStateValidValue,
        BitVec.not_lt]
      exact ⟨⟨⟨⟨⟨⟨⟨⟨⟨⟨valid.versioned, valid.partitionId⟩, valid.ownerId⟩, valid.generation⟩,
        valid.state⟩, valid.flags⟩, valid.someVcpu⟩, valid.maxVcpus⟩, valid.configuredVcpus⟩,
        valid.mappingCount⟩, valid.reserved⟩

theorem isCurrent_iff {partition : WhpPartition} {generation : U64} :
    isCurrent partition generation = true ↔
      PartitionValid partition ∧ partition.generation = generation := by
  unfold isCurrent
  simp only [Bool.and_eq_true, bne_iff_ne, beq_iff_eq, isWhpPartitionValid_iff]
  constructor
  · rintro ⟨⟨valid, _⟩, same⟩
    exact ⟨valid, same⟩
  · rintro ⟨valid, same⟩
    exact ⟨⟨valid, same ▸ valid.generation⟩, same⟩

/-- Everything that a call can do to a machine, other than nothing. -/
inductive Moves [DecidableEq V] (machine : Machine V) : Call V → Machine V → Prop
  | configure {generation : U64} {vcpuCount : U32}
      (valid : PartitionValid machine.partition)
      (created : machine.partition.state = kPartitionCreated)
      (fits : vcpuCount ≤ machine.partition.maxVcpus) :
      Moves machine (.configure generation vcpuCount)
        { machine with partition := { machine.partition with
          configuredVcpus := vcpuCount
          state := kPartitionConfigured } }
  | mapGpa {mapping : WhpMemoryMapping} {generation : U64} {physicalAddressBits : U32}
      (valid : PartitionValid machine.partition)
      (mappable : machine.partition.state = kPartitionCreated ∨
        machine.partition.state = kPartitionConfigured)
      (room : machine.partition.mappingCount < kWhpMaxMappings) :
      Moves machine (.mapGpa (some mapping) generation physicalAddressBits)
        { machine with partition := { machine.partition with
          mappingCount := machine.partition.mappingCount + 1
          mappedPages := machine.partition.mappedPages + mapping.pageCount } }
  | createVcpu {vcpu : V} {index : U32} {generation : U64} {value : WhpVcpu}
      (idle : value.state ≠ kVcpuRunning) :
      Moves machine (.createVcpu vcpu index generation) (machine.setVcpu vcpu value)
  | startPartition {generation : U64}
      (valid : PartitionValid machine.partition)
      (configured : machine.partition.state = kPartitionConfigured) :
      Moves machine (.startPartition generation)
        { machine with partition := { machine.partition with state := kPartitionRunning } }
  | startVcpu {vcpu : V} {generation : U64} {value : WhpVcpu}
      (present : machine.vcpus vcpu = some value)
      (running : machine.partition.state = kPartitionRunning) :
      Moves machine (.startVcpu vcpu generation)
        (machine.setVcpu vcpu { value with
          state := kVcpuRunning
          runCount := value.runCount + 1 })
  | stopVcpu {vcpu : V} {generation : U64} {value : WhpVcpu}
      (present : machine.vcpus vcpu = some value)
      (stoppable : machine.partition.state = kPartitionRunning ∨
        machine.partition.state = kPartitionDraining) :
      Moves machine (.stopVcpu vcpu generation)
        (machine.setVcpu vcpu { value with state := kVcpuStopped })
  | beginDrain {generation : U64}
      (valid : PartitionValid machine.partition)
      (drainable : machine.partition.state = kPartitionRunning ∨
        machine.partition.state = kPartitionConfigured) :
      Moves machine (.beginDrain generation)
        { machine with partition := { machine.partition with state := kPartitionDraining } }
  | close {generation : U64}
      (valid : PartitionValid machine.partition)
      (same : machine.partition.generation = generation)
      (closable : machine.partition.state = kPartitionCreated ∨
        machine.partition.state = kPartitionConfigured ∨
        machine.partition.state = kPartitionDraining) :
      Moves machine (.close generation)
        { machine with partition := { machine.partition with state := kPartitionClosed } }
  | quarantine {generation : U64}
      (valid : PartitionValid machine.partition) :
      Moves machine (.quarantine generation)
        { machine with partition := { machine.partition with state := kPartitionQuarantined } }

theorem movePartition_guarded (allowed : WhpPartition → Bool) (target : U32)
    (partition : WhpPartition) (generation : U64) :
    Guarded partition
      (fun after => PartitionValid partition ∧ partition.generation = generation ∧
        allowed partition = true ∧ after = { partition with state := target })
      (movePartition allowed target partition generation) := by
  unfold movePartition
  split
  · exact Or.inl rfl
  · rename_i accepted
    simp only [Bool.or_eq_true, Bool.not_eq_true', not_or, Bool.not_eq_false,
      isCurrent_iff] at accepted
    exact Or.inr ⟨_, ⟨accepted.1.1, accepted.1.2, accepted.2, rfl⟩, rfl⟩

theorem configureWhpPartition_guarded (partition : WhpPartition) (generation : U64)
    (vcpuCount : U32) :
    Guarded partition
      (fun after => PartitionValid partition ∧ partition.state = kPartitionCreated ∧
        vcpuCount ≤ partition.maxVcpus ∧
        after = { partition with configuredVcpus := vcpuCount, state := kPartitionConfigured })
      ((configureWhpPartition partition generation vcpuCount).1 == .Success,
        (configureWhpPartition partition generation vcpuCount).2) := by
  unfold configureWhpPartition
  split
  · exact Or.inl rfl
  · rename_i accepted
    simp only [Bool.or_eq_true, Bool.not_eq_true', bne_iff_ne, beq_iff_eq, decide_eq_true_eq,
      not_or, Bool.not_eq_false, isCurrent_iff, ne_eq, Decidable.not_not,
      BitVec.not_lt] at accepted
    obtain ⟨⟨⟨current, created⟩, _⟩, fits⟩ := accepted
    exact Or.inr ⟨_, ⟨current.1, created, fits, rfl⟩, rfl⟩

theorem mapWhpGpa_guarded (partition : WhpPartition) (mapping : Option WhpMemoryMapping)
    (generation : U64) (physicalAddressBits : U32) :
    Guarded partition
      (fun after => ∃ added, mapping = some added ∧ PartitionValid partition ∧
        isWhpMemoryMappingValid added physicalAddressBits = true ∧
        (partition.state = kPartitionCreated ∨ partition.state = kPartitionConfigured) ∧
        partition.mappingCount < kWhpMaxMappings ∧
        after = { partition with
          mappingCount := partition.mappingCount + 1
          mappedPages := partition.mappedPages + added.pageCount })
      ((mapWhpGpa partition mapping generation physicalAddressBits).1 == .Success,
        (mapWhpGpa partition mapping generation physicalAddressBits).2) := by
  cases mapping with
  | none => exact Or.inl rfl
  | some mapping =>
    unfold mapWhpGpa
    dsimp only
    split
    · exact Or.inl rfl
    rename_i valid
    split
    · exact Or.inl rfl
    split
    · exact Or.inl rfl
    rename_i state
    split
    · exact Or.inl rfl
    rename_i room
    simp only [Bool.or_eq_true, Bool.not_eq_true', not_or, Bool.not_eq_false,
      isWhpPartitionValid_iff] at valid
    simp only [Bool.and_eq_true, bne_iff_ne, ne_eq, not_and_or, Decidable.not_not] at state
    simp only [Bool.or_eq_true, decide_eq_true_eq, not_or, BitVec.not_le] at room
    exact Or.inr ⟨_, ⟨mapping, rfl, valid.1, valid.2, state, room.1, rfl⟩, rfl⟩

section Cases

variable [DecidableEq V]

/-- A processor call writes its processor back as it was, or writes what it is
allowed to. -/
theorem updateVcpu_cases {machine : Machine V} {vcpu : V} {call : WhpVcpu → WhpStatus × WhpVcpu}
    {written : WhpVcpu → WhpVcpu} {allowed : Prop}
    (guarded : ∀ value, (call value).2 = value ∨ allowed ∧ (call value).2 = written value) :
    machine.updateVcpu vcpu call = machine ∨
      allowed ∧ ∃ value, machine.vcpus vcpu = some value ∧
        machine.updateVcpu vcpu call = machine.setVcpu vcpu (written value) := by
  unfold Machine.updateVcpu
  split
  · exact Or.inl rfl
  · rename_i value found
    rcases guarded value with same | ⟨allows, writes⟩
    · left
      rw [same, Machine.setVcpu, ← found, Function.update_eq_self]
    · exact Or.inr ⟨allows, value, found, by rw [writes]⟩

/-- A step is a move or changes nothing. -/
theorem step_cases (machine : Machine V) (call : Call V) :
    step machine call = machine ∨ Moves machine call (step machine call) := by
  cases call with
  | configure generation vcpuCount =>
    rcases configureWhpPartition_guarded machine.partition generation vcpuCount with refused |
      ⟨after, ⟨valid, created, fits, rfl⟩, done⟩
    · left
      rw [step, (Prod.mk.inj refused).2]
    · right
      rw [step, (Prod.mk.inj done).2]
      exact .configure valid created fits
  | mapGpa mapping generation physicalAddressBits =>
    rcases mapWhpGpa_guarded machine.partition mapping generation physicalAddressBits with refused |
      ⟨after, ⟨mapping, rfl, valid, _, mappable, room, rfl⟩, done⟩
    · left
      rw [step, (Prod.mk.inj refused).2]
    · right
      rw [step, (Prod.mk.inj done).2]
      exact .mapGpa valid mappable room
  | createVcpu vcpu index generation =>
    right
    refine .createVcpu ?_
    unfold createWhpVcpu
    split
    · exact (by decide : kVcpuEmpty ≠ kVcpuRunning)
    · exact (by decide : kVcpuCreated ≠ kVcpuRunning)
  | startVcpu vcpu generation =>
    have guarded : ∀ value, (startWhpVcpu machine.partition value generation).2 = value ∨
        machine.partition.state = kPartitionRunning ∧
          (startWhpVcpu machine.partition value generation).2 =
            { value with state := kVcpuRunning, runCount := value.runCount + 1 } := by
      intro value
      unfold startWhpVcpu
      split
      · exact Or.inl rfl
      · rename_i accepted
        simp only [Bool.or_eq_true, bne_iff_ne, ne_eq, not_or, Decidable.not_not] at accepted
        exact Or.inr ⟨accepted.1.1.1.2, rfl⟩
    rcases updateVcpu_cases (V := V) guarded with same | ⟨running, value, present, done⟩
    · exact Or.inl same
    · right
      rw [step, done]
      exact .startVcpu present running
  | stopVcpu vcpu generation =>
    have guarded : ∀ value, (stopWhpVcpu machine.partition value generation).2 = value ∨
        (machine.partition.state = kPartitionRunning ∨
          machine.partition.state = kPartitionDraining) ∧
          (stopWhpVcpu machine.partition value generation).2 =
            { value with state := kVcpuStopped } := by
      intro value
      unfold stopWhpVcpu
      split
      · exact Or.inl rfl
      · rename_i accepted
        simp only [Bool.or_eq_true, Bool.and_eq_true, bne_iff_ne, ne_eq, not_or, not_and_or,
          Decidable.not_not] at accepted
        exact Or.inr ⟨accepted.1.2, rfl⟩
    rcases updateVcpu_cases (V := V) guarded with same | ⟨stoppable, value, present, done⟩
    · exact Or.inl same
    · right
      rw [step, done]
      exact .stopVcpu present stoppable
  | startPartition generation =>
    rcases movePartition_guarded _ _ machine.partition generation with same |
      ⟨after, ⟨valid, _, allowed, rfl⟩, done⟩
    · left
      rw [step, startWhpPartition, same]
    · right
      rw [step, startWhpPartition, done]
      simp only [Bool.and_eq_true, beq_iff_eq] at allowed
      exact .startPartition valid allowed.1
  | beginDrain generation =>
    rcases movePartition_guarded _ _ machine.partition generation with same |
      ⟨after, ⟨valid, _, allowed, rfl⟩, done⟩
    · left
      rw [step, beginWhpDrain, same]
    · right
      rw [step, beginWhpDrain, done]
      simp only [Bool.or_eq_true, beq_iff_eq] at allowed
      exact .beginDrain valid allowed
  | close generation =>
    rcases movePartition_guarded _ _ machine.partition generation with same |
      ⟨after, ⟨valid, named, allowed, rfl⟩, done⟩
    · left
      rw [step, closeWhpPartition, same]
    · right
      rw [step, closeWhpPartition, done]
      simp only [Bool.or_eq_true, beq_iff_eq, or_assoc] at allowed
      exact .close valid named allowed
  | quarantine generation =>
    rcases movePartition_guarded _ _ machine.partition generation with same |
      ⟨after, ⟨valid, _, _, rfl⟩, done⟩
    · left
      rw [step, quarantineWhpPartition, same]
    · right
      rw [step, quarantineWhpPartition, done]
      exact .quarantine valid

/-- A partition stays valid. -/
theorem Moves.valid {machine after : Machine V} {call : Call V} (moves : Moves machine call after)
    (before : PartitionValid machine.partition) : PartitionValid after.partition := by
  have moved : ∀ target : U32, target ≤ kPartitionQuarantined → target ≠ kPartitionEmpty →
      PartitionValid { machine.partition with state := target } := fun target inside nonempty =>
    { before with state := inside, empty := fun empty => absurd empty nonempty }
  cases moves with
  | createVcpu | startVcpu | stopVcpu => exact before
  | startPartition => exact moved kPartitionRunning (by decide) (by decide)
  | beginDrain => exact moved kPartitionDraining (by decide) (by decide)
  | close => exact moved kPartitionClosed (by decide) (by decide)
  | quarantine => exact moved kPartitionQuarantined (by decide) (by decide)
  | configure _ _ fits =>
    refine { moved kPartitionConfigured (by decide) (by decide) with
      configuredVcpus := fits
      empty := fun empty => ?_ }
    exact absurd (show kPartitionConfigured = kPartitionEmpty from empty) (by decide)
  | mapGpa _ mappable room =>
    refine { before with mappingCount := ?_, empty := fun empty => ?_ }
    · rw [BitVec.lt_def] at room
      rw [BitVec.le_def, BitVec.toNat_add]
      exact Nat.le_trans (Nat.mod_le _ _) room
    · rcases mappable with created | configured
      · exact absurd (created.symm.trans empty) (by decide)
      · exact absurd (configured.symm.trans empty) (by decide)

/-- No processor of the machine is running. -/
def Idle (machine : Machine V) : Prop :=
  ∀ vcpu value, machine.vcpus vcpu = some value → value.state ≠ kVcpuRunning

/-- The machine is idle once its partition is closed. -/
def Quiet (machine : Machine V) : Prop :=
  machine.partition.state = kPartitionClosed → Idle machine

/-- The step does not close a partition that drains while a processor of it is
still running. -/
def Drained (machine : Machine V) : Call V → Prop
  | .close generation =>
    machine.partition.generation = generation → machine.partition.state = kPartitionDraining →
      Idle machine
  | _ => True

/-- The states of a partition in which no processor of it can run. -/
def Rests (state : U32) : Prop :=
  state = kPartitionCreated ∨ state = kPartitionConfigured ∨ state = kPartitionClosed

instance (state : U32) : Decidable (Rests state) :=
  inferInstanceAs (Decidable (_ ∨ _))

theorem not_rests_running : ¬Rests kPartitionRunning := by decide

theorem not_rests_draining : ¬Rests kPartitionDraining := by decide

theorem not_rests_quarantined : ¬Rests kPartitionQuarantined := by decide

/-- What the runs keep: a processor runs only after the partition has started,
and a partition that has started comes to rest only through a drain. -/
def Settled (machine : Machine V) : Prop :=
  Rests machine.partition.state → Idle machine

omit [DecidableEq V] in
theorem Settled.quiet {machine : Machine V} (settled : Settled machine) : Quiet machine :=
  fun closed => settled (Or.inr (Or.inr closed))

theorem Idle.setVcpu {machine : Machine V} (idle : Idle machine) {vcpu : V} {value : WhpVcpu}
    (stopped : value.state ≠ kVcpuRunning) : Idle (machine.setVcpu vcpu value) := by
  intro other found present
  simp only [Machine.setVcpu] at present
  by_cases same : other = vcpu
  · rw [same, Function.update_self] at present
    cases present
    exact stopped
  · rw [Function.update_of_ne same] at present
    exact idle other found present

theorem Moves.settled {machine after : Machine V} {call : Call V}
    (moves : Moves machine call after) (drained : Drained machine call)
    (settled : Settled machine) : Settled after := by
  cases moves with
  | configure _ created _ => exact fun _ => settled (Or.inl created)
  | mapGpa _ _ _ => exact settled
  | createVcpu idle => exact fun rests => (settled rests).setVcpu idle
  | startPartition => exact fun rests => absurd rests not_rests_running
  | startVcpu _ running =>
    intro rests
    rw [Machine.setVcpu, running] at rests
    exact absurd rests not_rests_running
  | stopVcpu _ stoppable =>
    intro rests
    rw [Machine.setVcpu] at rests
    rcases stoppable with running | draining
    · rw [running] at rests
      exact absurd rests not_rests_running
    · rw [draining] at rests
      exact absurd rests not_rests_draining
  | beginDrain => exact fun rests => absurd rests not_rests_draining
  | close valid same closable =>
    intro _
    rcases closable with created | configured | draining
    · exact settled (Or.inl created)
    · exact settled (Or.inr (Or.inl configured))
    · exact drained same draining
  | quarantine => exact fun rests => absurd rests not_rests_quarantined

theorem step_valid (machine : Machine V) (call : Call V)
    (valid : PartitionValid machine.partition) :
    PartitionValid (step machine call).partition := by
  rcases step_cases machine call with same | moves
  · rw [same]
    exact valid
  · exact moves.valid valid

theorem step_settled (machine : Machine V) (call : Call V) (settled : Settled machine)
    (drained : Drained machine call) : Settled (step machine call) := by
  rcases step_cases machine call with same | moves
  · rw [same]
    exact settled
  · exact moves.settled drained settled

/-- A close that names a draining partition is carried out: nothing of the
processors is asked. -/
theorem close_draining {machine : Machine V} (valid : PartitionValid machine.partition)
    (draining : machine.partition.state = kPartitionDraining) :
    step machine (.close machine.partition.generation) =
      { machine with partition := { machine.partition with state := kPartitionClosed } } := by
  have current := isCurrent_iff.mpr ⟨valid, rfl⟩
  simp only [step, closeWhpPartition, movePartition, current, draining, beq_self_eq_true,
    Bool.or_true, Bool.not_true, Bool.or_self, Bool.false_eq_true, if_false]

theorem step_drained (machine : Machine V) (call : Call V)
    (valid : PartitionValid machine.partition) (quiet : Quiet (step machine call)) :
    Drained machine call := by
  cases call with
  | close generation =>
    intro same draining
    rw [← same, close_draining valid draining] at quiet
    exact quiet rfl
  | configure | mapGpa | createVcpu | startPartition | startVcpu | stopVcpu | beginDrain
  | quarantine => trivial

end Cases

theorem createWhpPartition_success {capabilities : Option WhpCapabilities}
    {config : Option WhpPartitionConfig} {partitionId : U64} {wanted : Bool}
    {partition : WhpPartition}
    (created : createWhpPartition capabilities config partitionId wanted =
      (.Success, some partition)) : PartitionValid partition := by
  unfold createWhpPartition at created
  split at created
  · cases created
  split at created
  · rename_i capabilities config
    split at created
    · cases created
    rename_i checked
    split at created
    · cases created
    cases created
    simp only [Bool.or_eq_true, Bool.not_eq_true', not_or, Bool.not_eq_false, beq_iff_eq,
      bne_iff_ne, decide_eq_true_eq, ne_eq] at checked
    have named := checked.1.1.1.1.2
    have valid := checked.1.1.1.1.1.2
    simp only [isWhpPartitionConfigValid, Bool.and_eq_true, bne_iff_ne, ne_eq, beq_iff_eq,
      decide_eq_true_eq] at valid
    obtain ⟨⟨⟨⟨⟨⟨⟨⟨_, ownerId⟩, generation⟩, someVcpu⟩, maxVcpus⟩, _⟩, _⟩, flags⟩, _⟩ := valid
    have state : kPartitionCreated ≤ kPartitionQuarantined := by decide
    have mappingCount : (0 : U32) ≤ kWhpMaxMappings := by decide
    have configuredVcpus : 0 ≤ config.maxVcpus := by
      rw [BitVec.le_def]
      exact Nat.zero_le _
    exact ⟨rfl, named, ownerId, generation, state, flags, someVcpu, maxVcpus, configuredVcpus,
      mappingCount, rfl, fun _ => ⟨rfl, rfl, rfl⟩⟩
  · cases created

/-- No processor runs once the partition is closed, in every state of a run,
exactly if the run never closes a draining partition before its processors have
stopped: the close itself does not look at them. -/
theorem idle_once_closed_iff [DecidableEq V] {capabilities : Option WhpCapabilities}
    {config : Option WhpPartitionConfig} {partitionId : U64} {wanted : Bool}
    {partition : WhpPartition}
    (created : createWhpPartition capabilities config partitionId wanted =
      (.Success, some partition)) (calls : List (Call V)) :
    Run.Always step Quiet (fresh partition) calls ↔
      Run.Every step Drained (fresh partition) calls := by
  have valid : PartitionValid (fresh (V := V) partition).partition :=
    createWhpPartition_success created
  have settled : Settled (fresh (V := V) partition) := fun _ _ _ present => by cases present
  constructor
  · exact Run.every_of_always step_valid step_drained valid
  · exact Run.always_of_every step_settled (fun _ settled => settled.quiet) settled

/-- A partition with one processor. -/
def samplePartition : WhpPartition :=
  { initializePartition with
    partitionId := 77
    ownerId := 55
    generation := 9
    maxVcpus := 2
    state := kPartitionCreated }

def sampleCapabilities : WhpCapabilities :=
  ⟨sizeofWhpCapabilities, kWhpContractVersion, kWhpCapPartition, 0, 1, 48, 4, 0, 2400000000, 9⟩

def sampleConfig : WhpPartitionConfig :=
  ⟨sizeofWhpPartitionConfig, kWhpContractVersion, 55, 9, 2, 48, 0, 0⟩

/-- A processor is stopped in the drain, before the close. -/
def stoppedRun : List (Call Unit) :=
  [.configure 9 1, .createVcpu () 0 9, .startPartition 9, .startVcpu () 9, .beginDrain 9,
    .stopVcpu () 9, .close 9]

theorem idle_once_closed_stopped : Run.Always step Quiet (fresh samplePartition) stoppedRun := by
  have created : createWhpPartition (some sampleCapabilities) (some sampleConfig) 77 true =
      (.Success, some samplePartition) := by decide +kernel
  refine (idle_once_closed_iff created stoppedRun).mpr ?_
  simp only [stoppedRun, Run.every_cons, Drained, true_and]
  refine ⟨fun _ _ vcpu value present => ?_, Run.every_nil _⟩
  cases present
  exact (by decide : kVcpuStopped ≠ kVcpuRunning)

/-- The drain begins and the partition closes while its processor runs. -/
theorem closed_while_running :
    createWhpPartition (some sampleCapabilities) (some sampleConfig) 77 true =
        (.Success, some samplePartition) ∧
      ¬Run.Always step Quiet (fresh (V := Unit) samplePartition)
        [.configure 9 1, .createVcpu () 0 9, .startPartition 9, .startVcpu () 9, .beginDrain 9,
          .close 9] := by
  refine ⟨by decide +kernel, fun always => ?_⟩
  exact always _ [] (List.append_nil _).symm rfl () _ rfl rfl

end Knhv.Whp
