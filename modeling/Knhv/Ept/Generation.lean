import Knhv.Ept.Pointer
import Knhv.Lib.Run

namespace Knhv.Ept

/-- The words of `EptGenerationState` that a publication goes through. -/
def kGenerationActive : U32 := 1
def kGenerationPending : U32 := 2

def sizeofEptGeneration : U32 := 40

structure EptGeneration where
  size : U32
  version : U32
  generation : U64
  parentGeneration : U64
  state : U32
  requiredCpuAcks : U32
  observedCpuAcks : U32
  reserved : U32
  deriving DecidableEq

def nextEptGeneration (currentGeneration : U64) : Option U64 :=
  if currentGeneration = ~~~0 then none
  else some (if currentGeneration = 0 then 1 else currentGeneration + 1)

/-- The pending record is written only on success. -/
def beginEptGeneration (current : EptGeneration) : Option EptGeneration :=
  if !isVersionedSizeValid current.version current.size sizeofEptGeneration ||
      current.state ≠ kGenerationActive || current.generation = 0 || current.reserved ≠ 0 then
    none
  else
    match nextEptGeneration current.generation with
    | none => none
    | some next => some
      { size := sizeofEptGeneration
        version := kEptContractVersion
        generation := next
        parentGeneration := current.generation
        state := kGenerationPending
        requiredCpuAcks := 0
        observedCpuAcks := 0
        reserved := 0 }

def acknowledgeEptGeneration (pending : EptGeneration) (cpuCount : U32) : Bool × EptGeneration :=
  if !isVersionedSizeValid pending.version pending.size sizeofEptGeneration ||
      pending.state ≠ kGenerationPending || cpuCount = 0 || pending.requiredCpuAcks = 0 ||
      pending.requiredCpuAcks < pending.observedCpuAcks ||
      pending.requiredCpuAcks - pending.observedCpuAcks < cpuCount then
    (false, pending)
  else (true, { pending with observedCpuAcks := pending.observedCpuAcks + cpuCount })

def publishEptGeneration (pending : EptGeneration) : Bool × EptGeneration :=
  if !isVersionedSizeValid pending.version pending.size sizeofEptGeneration ||
      pending.state ≠ kGenerationPending || pending.requiredCpuAcks = 0 ||
      pending.observedCpuAcks ≠ pending.requiredCpuAcks then
    (false, pending)
  else (true, { pending with state := kGenerationActive })

/-! One generation after the other. -/

/-- The published generation, and the one that collects acknowledgements. -/
structure Generations where
  current : EptGeneration
  pending : Option EptGeneration

/-- The caller of a begin sets the number of acknowledgements that it needs. -/
inductive GenerationCall
  | begin (requiredCpuAcks : U32)
  | acknowledge (cpuCount : U32)
  | publish

def generationStep (s : Generations) : GenerationCall → Generations
  | .begin requiredCpuAcks =>
    match beginEptGeneration s.current with
    | none => s
    | some pending =>
      { s with pending := some { pending with requiredCpuAcks := requiredCpuAcks } }
  | .acknowledge cpuCount =>
    { s with pending := s.pending.map fun pending => (acknowledgeEptGeneration pending cpuCount).2 }
  | .publish =>
    match s.pending with
    | none => s
    | some pending =>
      let (done, published) := publishEptGeneration pending
      if done then ⟨published, none⟩ else s

/-- A run with what its observer writes down: the acknowledgements that were
accepted since the last begin, and the generations that were published. -/
structure Audited where
  generations : Generations
  credited : Nat
  published : List U64

/-- What an acknowledgement is credited with. -/
def creditOf (s : Generations) (cpuCount : U32) : Nat :=
  match s.pending with
  | none => 0
  | some pending => if (acknowledgeEptGeneration pending cpuCount).1 then cpuCount.toNat else 0

/-- The generation that a publish makes current. -/
def publishedBy (s : Generations) : List U64 :=
  match s.pending with
  | none => []
  | some pending => if (publishEptGeneration pending).1 then [pending.generation] else []

def auditStep (a : Audited) (call : GenerationCall) : Audited where
  generations := generationStep a.generations call
  credited :=
    match call with
    | .begin _ => if (beginEptGeneration a.generations.current).isSome then 0 else a.credited
    | .acknowledge cpuCount => a.credited + creditOf a.generations cpuCount
    | .publish => a.credited
  published :=
    match call with
    | .begin _ | .acknowledge _ => a.published
    | .publish => a.published ++ publishedBy a.generations

theorem beginEptGeneration_some {current pending : EptGeneration}
    (begun : beginEptGeneration current = some pending) :
    pending.generation.toNat = current.generation.toNat + 1 ∧
      pending.parentGeneration = current.generation ∧ pending.observedCpuAcks = 0 ∧
      pending.state = kGenerationPending ∧
      isVersionedSizeValid pending.version pending.size sizeofEptGeneration = true := by
  unfold beginEptGeneration at begun
  split at begun
  · cases begun
  rename_i accepted
  simp only [Bool.or_eq_true, decide_eq_true_eq, not_or] at accepted
  unfold nextEptGeneration at begun
  by_cases last : current.generation = ~~~0
  · rw [if_pos last] at begun
    cases begun
  · rw [if_neg last, if_neg accepted.1.2] at begun
    cases begun
    have largest : (~~~0 : U64).toNat = 2 ^ 64 - 1 := rfl
    have below : current.generation.toNat ≠ 2 ^ 64 - 1 := fun same =>
      last (BitVec.eq_of_toNat_eq (same.trans largest.symm))
    have bound := current.generation.isLt
    have one : (1 : U64).toNat = 1 := rfl
    refine ⟨?_, rfl, rfl, rfl, rfl⟩
    dsimp only
    rw [BitVec.toNat_add, one]
    omega

theorem acknowledgeEptGeneration_cases (pending : EptGeneration) (cpuCount : U32) :
    acknowledgeEptGeneration pending cpuCount = (false, pending) ∨
      (pending.observedCpuAcks + cpuCount).toNat =
          pending.observedCpuAcks.toNat + cpuCount.toNat ∧
        pending.observedCpuAcks + cpuCount ≤ pending.requiredCpuAcks ∧
        acknowledgeEptGeneration pending cpuCount =
          (true, { pending with observedCpuAcks := pending.observedCpuAcks + cpuCount }) := by
  unfold acknowledgeEptGeneration
  split
  · exact .inl rfl
  rename_i accepted
  simp only [Bool.or_eq_true, decide_eq_true_eq, not_or, BitVec.not_lt] at accepted
  obtain ⟨⟨-, order⟩, room⟩ := accepted
  have left : (pending.requiredCpuAcks - pending.observedCpuAcks).toNat =
      pending.requiredCpuAcks.toNat - pending.observedCpuAcks.toNat :=
    BitVec.toNat_sub_of_le order
  have bound := pending.requiredCpuAcks.isLt
  rw [BitVec.le_def] at order
  rw [BitVec.le_def, left] at room
  have sum : (pending.observedCpuAcks + cpuCount).toNat =
      pending.observedCpuAcks.toNat + cpuCount.toNat := by
    rw [BitVec.toNat_add]
    omega
  refine .inr ⟨sum, ?_, rfl⟩
  rw [BitVec.le_def, sum]
  omega

/-- A pending generation follows the current one and has counted what was
credited. -/
structure Collecting (current : EptGeneration) (credited : Nat) (pending : EptGeneration) :
    Prop where
  generation : pending.generation.toNat = current.generation.toNat + 1
  parent : pending.parentGeneration = current.generation
  counted : pending.observedCpuAcks.toNat = credited
  bounded : pending.observedCpuAcks ≤ pending.requiredCpuAcks
  state : pending.state = kGenerationPending
  versioned : isVersionedSizeValid pending.version pending.size sizeofEptGeneration = true

/-- A publish succeeds with the last acknowledgement that it needs, and never
before. -/
theorem Collecting.publishes {current pending : EptGeneration} {credited : Nat}
    (collecting : Collecting current credited pending) :
    (publishEptGeneration pending).1 = true ↔
      0 < credited ∧ credited = pending.requiredCpuAcks.toNat := by
  have counted := collecting.counted
  have required : pending.requiredCpuAcks = 0 ↔ pending.requiredCpuAcks.toNat = 0 :=
    BitVec.toNat_eq
  have reached : pending.observedCpuAcks = pending.requiredCpuAcks ↔
      pending.observedCpuAcks.toNat = pending.requiredCpuAcks.toNat := BitVec.toNat_eq
  unfold publishEptGeneration
  split
  · rename_i refused
    simp only [collecting.versioned, collecting.state, Bool.or_eq_true, decide_eq_true_eq, required,
      reached, ne_eq, not_true_eq_false, Bool.not_true, Bool.false_eq_true, false_or] at refused
    simp only [Bool.false_eq_true, false_iff]
    omega
  · rename_i accepted
    simp only [Bool.or_eq_true, decide_eq_true_eq, required, reached, not_or, ne_eq, not_not]
      at accepted
    simp only [true_iff]
    omega

/-- What holds all along a run. -/
structure Audit (start : U64) (a : Audited) : Prop where
  consecutive : a.published.map BitVec.toNat = List.range' (start.toNat + 1) a.published.length
  current : a.generations.current.generation.toNat = start.toNat + a.published.length
  pending : ∀ pending, a.generations.pending = some pending →
    Collecting a.generations.current a.credited pending

theorem Audit.begin {start : U64} {a : Audited} (audit : Audit start a) (requiredCpuAcks : U32) :
    Audit start (auditStep a (.begin requiredCpuAcks)) := by
  cases begun : beginEptGeneration a.generations.current with
  | none =>
    have same : auditStep a (.begin requiredCpuAcks) = a := by
      simp only [auditStep, generationStep, begun, Option.isSome_none, Bool.false_eq_true, if_false]
    rw [same]
    exact audit
  | some pending =>
    obtain ⟨generation, parent, observed, state, versioned⟩ := beginEptGeneration_some begun
    have shape : auditStep a (.begin requiredCpuAcks) = ⟨{ a.generations with
        pending := some { pending with requiredCpuAcks := requiredCpuAcks } }, 0, a.published⟩ := by
      simp only [auditStep, generationStep, begun, Option.isSome_some, if_true]
    rw [shape]
    refine ⟨audit.consecutive, audit.current, fun other same => ?_⟩
    cases same
    exact ⟨generation, parent, congrArg BitVec.toNat observed,
      by rw [observed, BitVec.le_def]; exact Nat.zero_le _, state, versioned⟩

theorem Audit.acknowledge {start : U64} {a : Audited} (audit : Audit start a) (cpuCount : U32) :
    Audit start (auditStep a (.acknowledge cpuCount)) := by
  refine ⟨audit.consecutive, audit.current, fun after same => ?_⟩
  obtain ⟨pending, before, rfl⟩ := Option.map_eq_some_iff.mp same
  have collecting := audit.pending pending before
  have credit : (auditStep a (.acknowledge cpuCount)).credited =
      a.credited + if (acknowledgeEptGeneration pending cpuCount).1 then cpuCount.toNat else 0 := by
    simp only [auditStep, creditOf, before]
  rw [credit]
  rcases acknowledgeEptGeneration_cases pending cpuCount with refused | ⟨sum, bounded, accepted⟩
  · rw [refused]
    exact collecting
  · rw [accepted]
    exact { collecting with
      counted := by
        have counted := collecting.counted
        rw [if_pos rfl, ← counted]
        exact sum
      bounded := bounded }

theorem Audit.publish {start : U64} {a : Audited} (audit : Audit start a) :
    Audit start (auditStep a .publish) := by
  cases before : a.generations.pending with
  | none =>
    have same : auditStep a .publish = a := by
      simp only [auditStep, generationStep, publishedBy, before, List.append_nil]
    rw [same]
    exact audit
  | some pending =>
    have collecting := audit.pending pending before
    by_cases done : (publishEptGeneration pending).1 = true
    · have shape : auditStep a .publish = ⟨⟨(publishEptGeneration pending).2, none⟩, a.credited,
          a.published ++ [pending.generation]⟩ := by
        simp only [auditStep, generationStep, publishedBy, before, done, if_true]
      have generation : (publishEptGeneration pending).2.generation = pending.generation := by
        unfold publishEptGeneration
        split <;> rfl
      have next := collecting.generation
      have current := audit.current
      rw [shape]
      refine ⟨?_, ?_, fun other same => by cases same⟩
      · rw [List.map_append, audit.consecutive, List.length_append, List.length_singleton,
          List.range'_1_concat, List.map_cons, List.map_nil]
        congr 2
        omega
      · rw [List.length_append, List.length_singleton]
        dsimp only
        rw [generation]
        omega
    · have same : auditStep a .publish = a := by
        simp only [auditStep, generationStep, publishedBy, before, done, Bool.false_eq_true,
          if_false, List.append_nil]
      rw [same]
      exact audit

theorem Audit.step {start : U64} {a : Audited} (audit : Audit start a) (call : GenerationCall) :
    Audit start (auditStep a call) := by
  cases call with
  | begin requiredCpuAcks => exact audit.begin requiredCpuAcks
  | acknowledge cpuCount => exact audit.acknowledge cpuCount
  | publish => exact audit.publish

/-- The observer changes nothing. -/
theorem auditRun_generations (a : Audited) (calls : List GenerationCall) :
    (Run.after auditStep a calls).generations =
      Run.after generationStep a.generations calls := by
  induction calls generalizing a with
  | nil => rfl
  | cons call rest ih => exact ih (auditStep a call)

/-- In every run the published generations follow one another without a gap,
and each of them is published by exactly the acknowledgements it asked for. -/
theorem ept_generations_in_order {start : Generations} (idle : start.pending = none)
    (calls : List GenerationCall) :
    let a := Run.after auditStep ⟨start, 0, []⟩ calls
    a.generations = Run.after generationStep start calls ∧
      Audit start.current.generation a ∧
      ∀ pending, a.generations.pending = some pending →
        ((publishEptGeneration pending).1 = true ↔
          0 < a.credited ∧ a.credited = pending.requiredCpuAcks.toNat) := by
  have audit : Audit start.current.generation (Run.after auditStep ⟨start, 0, []⟩ calls) := by
    refine Run.invariant_always (fun _ call audit => audit.step call) ⟨rfl, rfl, ?_⟩ calls
    intro pending same
    rw [idle] at same
    cases same
  exact ⟨auditRun_generations _ calls, audit,
    fun pending same => (audit.pending pending same).publishes⟩

/-- The first generation, with nothing pending. -/
def firstGeneration : Generations where
  current :=
    { size := sizeofEptGeneration
      version := kEptContractVersion
      generation := 7
      parentGeneration := 6
      state := kGenerationActive
      requiredCpuAcks := 0
      observedCpuAcks := 0
      reserved := 0 }
  pending := none

/-- One generation for two processors, and a second one on its way. -/
theorem ept_generations_in_order_two :
    (Run.after auditStep ⟨firstGeneration, 0, []⟩ [.begin 2, .acknowledge 1, .publish,
      .acknowledge 3, .acknowledge 1, .publish, .begin 1]).published.map BitVec.toNat = [8] :=
  (ept_generations_in_order rfl [.begin 2, .acknowledge 1, .publish, .acknowledge 3,
    .acknowledge 1, .publish, .begin 1]).2.1.consecutive

end Knhv.Ept
