import Mathlib.Algebra.Group.Action.Defs
import Mathlib.Algebra.Order.BigOperators.Group.List
import Mathlib.Algebra.Order.Ring.Nat
import Knhv.Whp.Drain

namespace Knhv.Whp

/-- The calls on a partition, with any arguments: a mapping or a processor may
be missing, and a processor may be any record. -/
inductive PartitionCall
  | configure (generation : U64) (vcpuCount : U32)
  | mapGpa (mapping : Option WhpMemoryMapping) (generation : U64) (physicalAddressBits : U32)
  | createVcpu (vcpu : Option WhpVcpu) (index : U32) (generation : U64)
  | startPartition (generation : U64)
  | startVcpu (vcpu : Option WhpVcpu) (generation : U64)
  | stopVcpu (vcpu : Option WhpVcpu) (generation : U64)
  | beginDrain (generation : U64)
  | close (generation : U64)
  | quarantine (generation : U64)

/-- Whether a call succeeds, and the partition after it. -/
def WhpPartition.call (partition : WhpPartition) : PartitionCall → Bool × WhpPartition
  | .configure generation vcpuCount =>
    let answer := configureWhpPartition partition generation vcpuCount
    (answer.1 == .Success, answer.2)
  | .mapGpa mapping generation physicalAddressBits =>
    let answer := mapWhpGpa partition mapping generation physicalAddressBits
    (answer.1 == .Success, answer.2)
  | .createVcpu vcpu index generation =>
    (vcpu.isSome && (createWhpVcpu partition index generation).1 == .Success, partition)
  | .startPartition generation => startWhpPartition partition generation
  | .startVcpu vcpu generation =>
    (vcpu.any fun vcpu => (startWhpVcpu partition vcpu generation).1 == .Success, partition)
  | .stopVcpu vcpu generation =>
    (vcpu.any fun vcpu => (stopWhpVcpu partition vcpu generation).1 == .Success, partition)
  | .beginDrain generation => beginWhpDrain partition generation
  | .close generation => closeWhpPartition partition generation
  | .quarantine generation => quarantineWhpPartition partition generation

/-- A partition with the mappings that it has accepted so far. -/
structure Ledger where
  partition : WhpPartition
  accepted : List WhpMemoryMapping

/-- The mapping that a call adds, if it succeeds. -/
def PartitionCall.adds : PartitionCall → List WhpMemoryMapping
  | .mapGpa (some mapping) _ _ => [mapping]
  | _ => []

def Ledger.step (ledger : Ledger) (call : PartitionCall) : Ledger where
  partition := (ledger.partition.call call).2
  accepted := ledger.accepted ++ if (ledger.partition.call call).1 then call.adds else []

/-- The pages of the mappings that were accepted. -/
def Ledger.pages (ledger : Ledger) : Nat :=
  (ledger.accepted.map fun mapping => mapping.pageCount.toNat).sum

/-- The states that no call leaves. -/
def Final (state : U32) : Prop := state = kPartitionClosed ∨ state = kPartitionQuarantined

/-- What a successful call makes of a partition. -/
inductive Advances (partition : WhpPartition) : PartitionCall → WhpPartition → Prop
  | configure {generation : U64} {vcpuCount : U32} (valid : PartitionValid partition)
      (created : partition.state = kPartitionCreated) (fits : vcpuCount ≤ partition.maxVcpus) :
      Advances partition (.configure generation vcpuCount)
        { partition with configuredVcpus := vcpuCount, state := kPartitionConfigured }
  | mapGpa {mapping : WhpMemoryMapping} {generation : U64} {physicalAddressBits : U32}
      (valid : PartitionValid partition) (small : mapping.pageCount ≤ 1 <<< 20)
      (mappable : partition.state = kPartitionCreated ∨ partition.state = kPartitionConfigured)
      (room : partition.mappingCount < kWhpMaxMappings) :
      Advances partition (.mapGpa (some mapping) generation physicalAddressBits)
        { partition with
          mappingCount := partition.mappingCount + 1
          mappedPages := partition.mappedPages + mapping.pageCount }
  | vcpu {call : PartitionCall} (processor : call.adds = []) : Advances partition call partition
  | move {call : PartitionCall} {target : U32} (valid : PartitionValid partition)
      (adds : call.adds = []) (leaves : ¬Final partition.state)
      (known : target ≤ kPartitionQuarantined) (begun : target ≠ kPartitionEmpty) :
      Advances partition call { partition with state := target }

theorem isWhpMemoryMappingValid_small {mapping : WhpMemoryMapping} {physicalAddressBits : U32}
    (valid : isWhpMemoryMappingValid mapping physicalAddressBits = true) :
    mapping.pageCount ≤ 1 <<< 20 := by
  unfold isWhpMemoryMappingValid at valid
  split at valid
  · cases valid
  rename_i checked
  simp only [Bool.or_eq_true, decide_eq_true_eq, not_or, BitVec.not_lt] at checked
  exact checked.1.1.1.1.1.1.1.2

/-- A call on a processor writes its own record only. -/
theorem vcpu_guarded (partition : WhpPartition) {call : PartitionCall} (processor : call.adds = [])
    (answered : Bool) : Guarded partition (Advances partition call) (answered, partition) := by
  cases answered with
  | false => exact Or.inl rfl
  | true => exact Or.inr ⟨partition, .vcpu processor, rfl⟩

theorem move_guarded (partition : WhpPartition) {call : PartitionCall} (adds : call.adds = [])
    {allowed : WhpPartition → Bool} {target : U32} (generation : U64)
    (leaves : allowed partition = true → ¬Final partition.state)
    (known : target ≤ kPartitionQuarantined) (begun : target ≠ kPartitionEmpty) :
    Guarded partition (Advances partition call)
      (movePartition allowed target partition generation) := by
  refine (movePartition_guarded allowed target partition generation).imp ?_
  rintro _ ⟨valid, _, accepted, rfl⟩
  exact .move valid adds (leaves accepted) known begun

theorem call_guarded (partition : WhpPartition) (call : PartitionCall) :
    Guarded partition (Advances partition call) (partition.call call) := by
  cases call with
  | configure generation vcpuCount =>
    refine (configureWhpPartition_guarded partition generation vcpuCount).imp ?_
    rintro _ ⟨valid, created, fits, rfl⟩
    exact .configure valid created fits
  | mapGpa mapping generation physicalAddressBits =>
    refine (mapWhpGpa_guarded partition mapping generation physicalAddressBits).imp ?_
    rintro _ ⟨mapping, rfl, valid, accepted, mappable, room, rfl⟩
    exact .mapGpa valid (isWhpMemoryMappingValid_small accepted) mappable room
  | createVcpu vcpu index generation => exact vcpu_guarded partition rfl _
  | startVcpu vcpu generation => exact vcpu_guarded partition rfl _
  | stopVcpu vcpu generation => exact vcpu_guarded partition rfl _
  | startPartition generation =>
    simp only [WhpPartition.call, startWhpPartition]
    refine move_guarded partition ?_ generation (fun accepted => ?_) ?_ ?_
    · rfl
    · simp only [Bool.and_eq_true, beq_iff_eq] at accepted
      rw [accepted.1]
      unfold Final
      decide
    · decide
    · decide
  | beginDrain generation =>
    simp only [WhpPartition.call, beginWhpDrain]
    refine move_guarded partition ?_ generation (fun accepted => ?_) ?_ ?_
    · rfl
    · simp only [Bool.or_eq_true, beq_iff_eq] at accepted
      unfold Final
      rcases accepted with state | state <;> rw [state] <;> decide
    · decide
    · decide
  | close generation =>
    simp only [WhpPartition.call, closeWhpPartition]
    refine move_guarded partition ?_ generation (fun accepted => ?_) ?_ ?_
    · rfl
    · simp only [Bool.or_eq_true, beq_iff_eq] at accepted
      unfold Final
      rcases accepted with (state | state) | state <;> rw [state] <;> decide
    · decide
    · decide
  | quarantine generation =>
    simp only [WhpPartition.call, quarantineWhpPartition]
    refine move_guarded partition ?_ generation (fun accepted => ?_) ?_ ?_
    · rfl
    · simp only [Bool.and_eq_true, bne_iff_ne, ne_eq] at accepted
      exact fun final => final.elim accepted.1 accepted.2
    · decide
    · decide

/-- The invariant of a partition that was created as `origin`: the counters are
within their limits and say exactly what was accepted. -/
structure PartitionSound (origin : WhpPartition) (ledger : Ledger) : Prop where
  valid : isWhpPartitionValid ledger.partition = true
  mappingCount : ledger.partition.mappingCount.toNat = ledger.accepted.length
  mappingLimit : ledger.accepted.length ≤ kWhpMaxMappings.toNat
  configuredVcpus : ledger.partition.configuredVcpus ≤ ledger.partition.maxVcpus
  maxVcpus : ledger.partition.maxVcpus ≤ kWhpMaxVcpus
  mappedPages : ledger.partition.mappedPages.toNat = ledger.pages
  small : ∀ mapping ∈ ledger.accepted, mapping.pageCount.toNat ≤ 2 ^ 20
  identity : ledger.partition.partitionId = origin.partitionId ∧
    ledger.partition.ownerId = origin.ownerId ∧ ledger.partition.generation = origin.generation ∧
    ledger.partition.flags = origin.flags ∧ ledger.partition.maxVcpus = origin.maxVcpus

variable {origin partition after : WhpPartition} {ledger : Ledger} {call : PartitionCall}

/-- The accepted mappings have at most `2 ^ 30` pages together. -/
theorem PartitionSound.pages_le (sound : PartitionSound origin ledger) :
    ledger.pages ≤ 1024 * 2 ^ 20 := by
  have each : ∀ pages ∈ ledger.accepted.map fun mapping => mapping.pageCount.toNat,
      pages ≤ 2 ^ 20 := by
    intro pages member
    obtain ⟨mapping, accepted, rfl⟩ := List.mem_map.mp member
    exact sound.small mapping accepted
  have total := List.sum_le_card_nsmul _ _ each
  rw [List.length_map, smul_eq_mul] at total
  have few : ledger.accepted.length ≤ 1024 := sound.mappingLimit
  exact total.trans (Nat.mul_le_mul_right _ few)

/-- The guard against an overflow of the page counter never fires. -/
theorem PartitionSound.room (sound : PartitionSound origin ledger) {mapping : WhpMemoryMapping}
    (small : mapping.pageCount ≤ 1 <<< 20) :
    ¬~~~0 - mapping.pageCount < ledger.partition.mappedPages := by
  have bounded := sound.pages_le
  rw [← sound.mappedPages] at bounded
  have pages : mapping.pageCount.toNat ≤ 2 ^ 20 := small
  have top : (~~~0 : U64).toNat = 2 ^ 64 - 1 := rfl
  rw [BitVec.lt_def, BitVec.toNat_sub_of_le (by rw [BitVec.le_def, top]; omega), top]
  omega

theorem mappingCount_succ {count : U32} (room : count.toNat < kWhpMaxMappings.toNat) :
    (count + 1).toNat = count.toNat + 1 := by
  have limit : kWhpMaxMappings.toNat = 1024 := rfl
  have one : (1 : U32).toNat = 1 := rfl
  rw [BitVec.toNat_add, one]
  omega

theorem Advances.valid (valid : PartitionValid partition) (advances : Advances partition call after) :
    PartitionValid after := by
  cases advances with
  | configure _ _ fits =>
    have known : kPartitionConfigured ≤ kPartitionQuarantined := by decide
    have begun : kPartitionConfigured ≠ kPartitionEmpty := by decide
    exact { valid with
      state := known
      configuredVcpus := fits
      empty := fun empty => absurd empty begun }
  | mapGpa _ _ mappable room =>
    have started : partition.state ≠ kPartitionEmpty := by
      rcases mappable with state | state <;> rw [state] <;> decide
    have within : partition.mappingCount + 1 ≤ kWhpMaxMappings := by
      rw [BitVec.lt_def] at room
      rw [BitVec.le_def, mappingCount_succ room]
      omega
    exact { valid with
      mappingCount := within
      empty := fun empty => absurd empty started }
  | vcpu => exact valid
  | move _ _ _ known begun =>
    exact { valid with
      state := known
      empty := fun empty => absurd empty begun }

theorem Advances.identity (advances : Advances partition call after) :
    after.partitionId = partition.partitionId ∧ after.ownerId = partition.ownerId ∧
      after.generation = partition.generation ∧ after.flags = partition.flags ∧
      after.maxVcpus = partition.maxVcpus := by
  cases advances with
  | configure | mapGpa | vcpu | move => exact ⟨rfl, rfl, rfl, rfl, rfl⟩

/-- A call keeps both counters in step with the accepted mappings. -/
theorem PartitionSound.advance (sound : PartitionSound origin ledger)
    (advances : Advances ledger.partition call after) :
    PartitionSound origin ⟨after, ledger.accepted ++ call.adds⟩ := by
  have valid : PartitionValid after := advances.valid (isWhpPartitionValid_iff.mp sound.valid)
  obtain ⟨partitionId, ownerId, generation, flags, maxVcpus⟩ := advances.identity
  obtain ⟨ids, owners, generations, flagged, vcpus⟩ := sound.identity
  have identity := And.intro (partitionId.trans ids) (And.intro (ownerId.trans owners)
    (And.intro (generation.trans generations) (And.intro (flags.trans flagged)
      (maxVcpus.trans vcpus))))
  -- A call that adds nothing leaves both counters alone.
  have still (adds : call.adds = []) (count : after.mappingCount = ledger.partition.mappingCount)
      (pages : after.mappedPages = ledger.partition.mappedPages) :
      PartitionSound origin ⟨after, ledger.accepted ++ call.adds⟩ := by
    rw [adds, List.append_nil]
    exact ⟨isWhpPartitionValid_iff.mpr valid, count ▸ sound.mappingCount, sound.mappingLimit,
      valid.configuredVcpus, valid.maxVcpus, pages ▸ sound.mappedPages, sound.small, identity⟩
  cases advances with
  | configure => exact still rfl rfl rfl
  | vcpu processor => exact still processor rfl rfl
  | move _ adds => exact still adds rfl rfl
  | @mapGpa mapping _ _ _ small _ room =>
    have counted : (ledger.partition.mappingCount + 1).toNat = ledger.accepted.length + 1 := by
      rw [mappingCount_succ room, sound.mappingCount]
    have summed : (ledger.partition.mappedPages + mapping.pageCount).toNat =
        ledger.pages + mapping.pageCount.toNat := by
      have bounded := sound.pages_le
      have pages : mapping.pageCount.toNat ≤ 2 ^ 20 := small
      rw [BitVec.toNat_add, sound.mappedPages]
      omega
    refine ⟨isWhpPartitionValid_iff.mpr valid, ?_, ?_, valid.configuredVcpus, valid.maxVcpus, ?_,
      ?_, identity⟩
    · rw [PartitionCall.adds, List.length_append, List.length_singleton]
      exact counted
    · have within : (ledger.partition.mappingCount + 1).toNat ≤ kWhpMaxMappings.toNat :=
        valid.mappingCount
      rw [PartitionCall.adds, List.length_append, List.length_singleton, ← counted]
      exact within
    · rw [Ledger.pages, PartitionCall.adds, List.map_append, List.sum_append, List.map_singleton,
        List.sum_singleton]
      exact summed
    · intro other member
      rcases List.mem_append.mp member with earlier | added
      · exact sound.small other earlier
      · rw [PartitionCall.adds, List.mem_singleton] at added
        rw [added]
        exact small

theorem PartitionSound.step (sound : PartitionSound origin ledger) (call : PartitionCall) :
    PartitionSound origin (ledger.step call) := by
  rcases call_guarded ledger.partition call with failed | ⟨after, advances, succeeded⟩
  · rw [Ledger.step, failed, if_neg Bool.false_ne_true, List.append_nil]
    exact sound
  · rw [Ledger.step, succeeded, if_pos rfl]
    exact sound.advance advances

/-- What one call may do: nothing if it fails, and nothing to a partition that
is closed or quarantined; and the page counter has room for whatever is mapped. -/
structure CallSound (ledger : Ledger) (call : PartitionCall) : Prop where
  unchanged : (ledger.partition.call call).1 = false →
    (ledger.partition.call call).2 = ledger.partition
  absorbed : Final ledger.partition.state → (ledger.step call).partition = ledger.partition
  room : ∀ mapping physicalAddressBits, isWhpMemoryMappingValid mapping physicalAddressBits = true →
    ¬~~~0 - mapping.pageCount < ledger.partition.mappedPages

theorem Advances.final (advances : Advances partition call after) (final : Final partition.state) :
    after = partition := by
  have notCreated : ¬Final kPartitionCreated := by
    unfold Final
    decide
  have notConfigured : ¬Final kPartitionConfigured := by
    unfold Final
    decide
  cases advances with
  | configure _ created => exact absurd (created ▸ final) notCreated
  | mapGpa _ _ mappable =>
    rcases mappable with created | configured
    · exact absurd (created ▸ final) notCreated
    · exact absurd (configured ▸ final) notConfigured
  | vcpu => rfl
  | move _ _ leaves => exact absurd final leaves

theorem PartitionSound.callSound (sound : PartitionSound origin ledger) (call : PartitionCall) :
    CallSound ledger call := by
  have guarded := call_guarded ledger.partition call
  refine ⟨guarded.unchanged, fun final => ?_, ?_⟩
  · exact guarded.elim (P := fun after => after = ledger.partition) rfl
      fun after _ advances => advances.final final
  · exact fun mapping _ valid => sound.room (isWhpMemoryMappingValid_small valid)

/-- A partition that was just created has accepted nothing. -/
def Ledger.fresh (partition : WhpPartition) : Ledger := ⟨partition, []⟩

theorem createWhpPartition_blank {capabilities : Option WhpCapabilities}
    {config : Option WhpPartitionConfig} {partitionId : U64} {wanted : Bool}
    (created : createWhpPartition capabilities config partitionId wanted =
      (.Success, some partition)) : partition.mappingCount = 0 ∧ partition.mappedPages = 0 := by
  unfold createWhpPartition at created
  repeat' split at created
  all_goals cases created
  exact ⟨rfl, rfl⟩

/-- Over every run of the calls from a partition that was just created, the
invariant holds in every state and every call is sound. -/
theorem partition_sound {capabilities : Option WhpCapabilities}
    {config : Option WhpPartitionConfig} {partitionId : U64} {wanted : Bool}
    (created : createWhpPartition capabilities config partitionId wanted =
      (.Success, some partition)) (calls : List PartitionCall) :
    Run.Always Ledger.step (PartitionSound partition) (.fresh partition) calls ∧
      Run.Every Ledger.step CallSound (.fresh partition) calls := by
  have valid := createWhpPartition_success created
  obtain ⟨noMapping, noPages⟩ := createWhpPartition_blank created
  have start : PartitionSound partition (.fresh partition) := by
    refine ⟨isWhpPartitionValid_iff.mpr valid, ?_, Nat.zero_le _, valid.configuredVcpus,
      valid.maxVcpus, ?_, fun _ member => absurd member List.not_mem_nil, ⟨rfl, rfl, rfl, rfl, rfl⟩⟩
    · rw [Ledger.fresh, noMapping]
      rfl
    · rw [Ledger.fresh, noPages]
      rfl
  have reached (earlier : List PartitionCall) :
      PartitionSound partition (Run.after Ledger.step (.fresh partition) earlier) :=
    Run.invariant_always (fun _ call sound => sound.step call) start earlier
  exact ⟨fun earlier _ _ => reached earlier, fun earlier call _ _ => (reached earlier).callSound call⟩

/-- Two pages at the bottom of the guest. -/
def sampleMapping : WhpMemoryMapping :=
  ⟨sizeofWhpMemoryMapping, kWhpContractVersion, 0, 0x100000, 2, kWhpMappingRead, 0, 9⟩

theorem partition_sound_mapped :
    Run.Always Ledger.step (PartitionSound samplePartition) (.fresh samplePartition)
        [.mapGpa (some sampleMapping) 9 48, .configure 9 1, .close 9] ∧
      Run.Every Ledger.step CallSound (.fresh samplePartition)
        [.mapGpa (some sampleMapping) 9 48, .configure 9 1, .close 9] := by
  have created : createWhpPartition (some sampleCapabilities) (some sampleConfig) 77 true =
      (.Success, some samplePartition) := by decide +kernel
  exact partition_sound created _

end Knhv.Whp
