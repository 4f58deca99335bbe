import Mathlib.Order.Bounds.Defs
import Knhv.Lib.Guarded
import Knhv.Lib.Run
import Knhv.Lib.SlotTable
import Knhv.Vpid.Model

namespace Knhv.Vpid

variable {n : Nat}

/-- A lease that holds its VPID: active, retiring or quarantined. -/
def InUse (lease : VpidLease) : Prop := lease.state ≠ kLeaseFree

instance : DecidablePred InUse := fun lease => inferInstanceAs (Decidable (lease.state ≠ kLeaseFree))

/-- The VPIDs that a request with this bound can be given. -/
def freeVpids (table : LeaseTable n) (maxVpid : U32) : Set U32 :=
  {vpid | kVpidMinimum ≤ vpid ∧ vpid ≤ maxVpid ∧
    ∀ slot, InUse (table slot) → (table slot).vpid ≠ vpid}

/-- The tables that the allocation accepts. -/
structure TableSound (table : LeaseTable n) : Prop where
  valid : ∀ slot, isVpidLeaseValid (table slot) = true
  distinct : SlotTable.KeysDistinct InUse VpidLease.vpid table

theorem inUse_of_held {lease : VpidLease}
    (held : lease.state = kLeaseActive ∨ lease.state = kLeaseRetiring) : InUse lease := by
  unfold InUse
  rcases held with active | retiring
  · rw [active]
    decide
  · rw [retiring]
    decide

theorem isVpidUsed_iff {table : LeaseTable n} {vpid : U32} :
    isVpidUsed table vpid = true ↔ ∃ slot, InUse (table slot) ∧ (table slot).vpid = vpid := by
  simp only [isVpidUsed, List.any_eq_true, List.mem_finRange, true_and, Bool.and_eq_true,
    bne_iff_ne, ne_eq, beq_iff_eq, InUse]

/-- The loop over the existing leases lets exactly the sound tables through. -/
theorem checkLeases_eq_none_iff {table : LeaseTable n} :
    checkLeases table = none ↔ TableSound table := by
  simp only [checkLeases, List.findSome?_eq_none_iff, List.mem_finRange, true_implies]
  constructor
  · intro quiet
    have valid (slot : Fin n) : isVpidLeaseValid (table slot) = true := by
      have here := quiet slot
      split at here
      · cases here
      · rename_i accepted
        simpa using accepted
    refine ⟨valid, fun first second usedFirst usedSecond same => ?_⟩
    have noPrior (slot prior : Fin n) (used : InUse (table slot)) (usedPrior : InUse (table prior))
        (equal : (table prior).vpid = (table slot).vpid) : ¬prior < slot := by
      intro before
      have here := quiet slot
      rw [valid slot, if_neg (by decide), if_neg (by simpa [InUse] using used), if_pos] at here
      · cases here
      · rw [List.any_eq_true]
        exact ⟨prior, List.mem_finRange prior, by simpa [before, equal, InUse] using usedPrior⟩
    have notBefore := noPrior second first usedSecond usedFirst same
    have notAfter := noPrior first second usedFirst usedSecond same.symm
    omega
  · intro sound slot
    rw [sound.valid slot, if_neg (by decide)]
    split
    · rfl
    rename_i used
    rw [if_neg]
    rw [List.any_eq_true]
    rintro ⟨prior, _, repeated⟩
    simp only [Bool.and_eq_true, decide_eq_true_eq, bne_iff_ne, ne_eq, beq_iff_eq] at repeated
    have equal := sound.distinct prior slot repeated.1.2 (by simpa [InUse] using used) repeated.2
    exact absurd repeated.1.1 (by rw [equal]; exact lt_irrefl slot)

theorem checkLeases_ne_success (table : LeaseTable n) : checkLeases table ≠ some .Success := by
  intro success
  obtain ⟨index, _, here⟩ := List.exists_of_findSome?_eq_some success
  split at here
  · cases here
  split at here
  · cases here
  split at here
  · cases here
  · cases here

theorem firstUnused_some {table : LeaseTable n} {maxVpid : U32} {candidate : Nat}
    (found : firstUnused table maxVpid = some candidate) :
    IsLeast (freeVpids table maxVpid) (BitVec.ofNat 32 candidate) := by
  simp only [firstUnused, List.find?_range'_eq_some, List.mem_range'_1, Bool.not_eq_true',
    Bool.not_not] at found
  obtain ⟨unused, ⟨lower, upper⟩, earlier⟩ := found
  have minimum : kVpidMinimum.toNat = 1 := rfl
  have word : (BitVec.ofNat 32 candidate).toNat = candidate := by
    have := maxVpid.isLt
    rw [BitVec.toNat_ofNat]
    omega
  refine ⟨⟨?_, ?_, ?_⟩, ?_⟩
  · rw [BitVec.le_def, word]
    exact lower
  · rw [BitVec.le_def, word]
    omega
  · intro slot used same
    rw [isVpidUsed_iff.mpr ⟨slot, used, same⟩] at unused
    cases unused
  · rintro vpid ⟨atLeast, _, unheld⟩
    rw [BitVec.le_def] at atLeast ⊢
    rw [word]
    by_contra below
    have held := earlier vpid.toNat atLeast (by omega)
    rw [BitVec.ofNat_toNat, BitVec.setWidth_eq] at held
    obtain ⟨slot, used, same⟩ := isVpidUsed_iff.mp held
    exact unheld slot used same

theorem firstUnused_none {table : LeaseTable n} {maxVpid : U32}
    (none : firstUnused table maxVpid = none) : freeVpids table maxVpid = ∅ := by
  rw [Set.eq_empty_iff_forall_notMem]
  rintro vpid ⟨lower, upper, unheld⟩
  simp only [firstUnused, List.find?_range'_eq_none, Bool.not_not] at none
  rw [BitVec.le_def] at lower upper
  have minimum : kVpidMinimum.toNat = 1 := rfl
  have held := none vpid.toNat lower (by omega)
  rw [BitVec.ofNat_toNat, BitVec.setWidth_eq] at held
  obtain ⟨slot, used, same⟩ := isVpidUsed_iff.mp held
  exact unheld slot used same

/-- An allocation that does not succeed hands out a free lease; one that does
hands out the least VPID that is free. -/
theorem allocateVpid_cases (request : Option VpidRequest) (table : LeaseTable n) :
    ((allocateVpid request table).1 ≠ .Success ∧
        (allocateVpid request table).2 = initializeFreeLease) ∨
      ∃ given vpid, request = some given ∧ isVpidRequestValid (some given) = true ∧
        IsLeast (freeVpids table given.maxVpid) vpid ∧
        allocateVpid request table = (.Success, grantedLease given vpid) := by
  cases request with
  | none => exact Or.inl ⟨nofun, rfl⟩
  | some given =>
    simp only [allocateVpid]
    split
    · exact Or.inl ⟨nofun, rfl⟩
    rename_i accepted
    simp only [Bool.or_eq_true, Bool.not_eq_true', not_or, Bool.not_eq_false] at accepted
    split
    · rename_i status stopped
      refine Or.inl ⟨?_, rfl⟩
      rintro rfl
      exact checkLeases_ne_success table stopped
    · split
      · exact Or.inl ⟨nofun, rfl⟩
      · rename_i candidate found
        exact Or.inr ⟨given, _, rfl, accepted.1, firstUnused_some found, rfl⟩

/-- What an allocation answers on a table it accepts. -/
inductive Answer (table : LeaseTable n) : Option VpidRequest → VpidStatus × VpidLease → Prop
  | invalid {request} : isVpidRequestValid request = false →
      Answer table request (.InvalidParameter, initializeFreeLease)
  | granted {request vpid} : isVpidRequestValid (some request) = true →
      IsLeast (freeVpids table request.maxVpid) vpid →
      Answer table (some request) (.Success, grantedLease request vpid)
  | exhausted {request} : isVpidRequestValid (some request) = true →
      freeVpids table request.maxVpid = ∅ →
      Answer table (some request) (.Exhausted, initializeFreeLease)

theorem allocateVpid_answer {table : LeaseTable n} (few : n ≤ kVpidMaxLeases)
    (sound : TableSound table) (request : Option VpidRequest) :
    Answer table request (allocateVpid request table) := by
  cases request with
  | none => exact .invalid rfl
  | some given =>
    have count : ¬kVpidMaxLeases < n := Nat.not_lt.mpr few
    cases accepted : isVpidRequestValid (some given) with
    | false =>
      simp only [allocateVpid, accepted, Bool.not_false, Bool.true_or, if_true]
      exact .invalid accepted
    | true =>
      simp only [allocateVpid, accepted, count, checkLeases_eq_none_iff.mpr sound]
      cases search : firstUnused table given.maxVpid with
      | none => exact .exhausted accepted (firstUnused_none search)
      | some candidate => exact .granted accepted (firstUnused_some search)

theorem beginVpidRetire_guarded (lease : VpidLease) (generation : U64) :
    Guarded lease
      (fun new => lease.generation = generation ∧ lease.state = kLeaseActive ∧
        new = { lease with state := kLeaseRetiring })
      (beginVpidRetire lease generation) := by
  unfold beginVpidRetire
  split
  · exact Or.inl rfl
  · rename_i checks
    simp only [Bool.or_eq_true, Bool.not_eq_true', not_or, Bool.not_eq_false, bne_iff_ne, ne_eq,
      not_not] at checks
    exact Or.inr ⟨_, ⟨checks.1.2, checks.2, rfl⟩, rfl⟩

theorem quarantineVpid_guarded (lease : VpidLease) (generation : U64) :
    Guarded lease
      (fun new => (lease.state = kLeaseActive ∨ lease.state = kLeaseRetiring) ∧
        new = { lease with state := kLeaseQuarantined })
      (quarantineVpid lease generation) := by
  unfold quarantineVpid
  split
  · exact Or.inl rfl
  · rename_i checks
    simp only [Bool.or_eq_true, Bool.not_eq_true', not_or, Bool.not_eq_false, bne_iff_ne, ne_eq,
      not_not, Bool.and_eq_true, not_and] at checks
    exact Or.inr ⟨_, ⟨or_iff_not_imp_left.mpr checks.2, rfl⟩, rfl⟩

/-- What a successful reclaim has checked. -/
structure Reclaimable (lease : VpidLease) (generation : U64) (shootdown : ShootdownState) :
    Prop where
  valid : isVpidLeaseValid lease = true
  retiring : lease.state = kLeaseRetiring
  ofLease : lease.generation = generation
  validRecord : isShootdownStateValid shootdown = true
  ofRecord : shootdown.generation = generation
  acknowledged : shootdown.acknowledgedCpuMask = shootdown.targetCpuMask
  covers : shootdownCoversVpid shootdown lease.vpid = true

theorem reclaimVpid_guarded (lease : VpidLease) (generation : U64)
    (shootdown : Option ShootdownState) :
    Guarded lease
      (fun new => (∃ record, shootdown = some record ∧ Reclaimable lease generation record) ∧
        new = initializeFreeLease)
      (reclaimVpid lease generation shootdown) := by
  cases shootdown with
  | none => exact Or.inl rfl
  | some record =>
    simp only [reclaimVpid]
    split
    · exact Or.inl rfl
    · rename_i checks
      simp only [Bool.or_eq_true, Bool.not_eq_true', not_or, Bool.not_eq_false, bne_iff_ne, ne_eq,
        not_not] at checks
      obtain ⟨⟨⟨⟨⟨⟨⟨valid, _⟩, retiring⟩, ofLease⟩, validRecord⟩, ofRecord⟩, acknowledged⟩,
        covers⟩ := checks
      have checked : Reclaimable lease generation record :=
        ⟨valid, retiring, ofLease, validRecord, ofRecord, acknowledged, covers⟩
      exact Or.inr ⟨_, ⟨⟨record, rfl, checked⟩, rfl⟩, rfl⟩

/-- A call on a lease table. The result of an allocation is stored in the slot
it names when that slot is free. -/
inductive LeaseInput (n : Nat)
  | allocate (request : Option VpidRequest) (slot : Fin n)
  | retire (slot : Fin n) (generation : U64)
  | quarantine (slot : Fin n) (generation : U64)
  | reclaim (slot : Fin n) (generation : U64) (shootdown : Option ShootdownState)

def LeaseInput.slot : LeaseInput n → Fin n
  | .allocate _ slot | .retire slot _ | .quarantine slot _ | .reclaim slot _ _ => slot

/-- The lease that a call leaves in its slot. -/
def leaseCall (table : LeaseTable n) : LeaseInput n → VpidLease
  | .allocate request slot =>
    if (table slot).state = kLeaseFree then (allocateVpid request table).2 else table slot
  | .retire slot generation => (beginVpidRetire (table slot) generation).2
  | .quarantine slot generation => (quarantineVpid (table slot) generation).2
  | .reclaim slot generation shootdown => (reclaimVpid (table slot) generation shootdown).2

def leaseStep (table : LeaseTable n) (input : LeaseInput n) : LeaseTable n :=
  Function.update table input.slot (leaseCall table input)

/-- Everything a call can leave in its slot. -/
inductive LeaseEffect (table : LeaseTable n) : LeaseInput n → VpidLease → Prop
  | same {call} : LeaseEffect table call (table call.slot)
  | refused {request slot} : (table slot).state = kLeaseFree →
      LeaseEffect table (.allocate request slot) initializeFreeLease
  | granted {request slot vpid} : (table slot).state = kLeaseFree →
      isVpidRequestValid (some request) = true →
      IsLeast (freeVpids table request.maxVpid) vpid →
      LeaseEffect table (.allocate (some request) slot) (grantedLease request vpid)
  | retired {slot generation} : (table slot).state = kLeaseActive →
      (table slot).generation = generation →
      (beginVpidRetire (table slot) generation).1 = true →
      LeaseEffect table (.retire slot generation) { table slot with state := kLeaseRetiring }
  | quarantined {slot generation} :
      (table slot).state = kLeaseActive ∨ (table slot).state = kLeaseRetiring →
      LeaseEffect table (.quarantine slot generation) { table slot with state := kLeaseQuarantined }
  | freed {slot generation shootdown} : (table slot).state = kLeaseRetiring →
      (reclaimVpid (table slot) generation (some shootdown)).1 = true →
      LeaseEffect table (.reclaim slot generation (some shootdown)) initializeFreeLease

/-- The one place that says what a call does. -/
theorem leaseCall_effect (table : LeaseTable n) (call : LeaseInput n) :
    LeaseEffect table call (leaseCall table call) := by
  cases call with
  | allocate request slot =>
    simp only [leaseCall]
    split
    · rename_i free
      rcases allocateVpid_cases request table with ⟨_, failed⟩ | ⟨given, vpid, rfl, valid, least, done⟩
      · rw [failed]
        exact .refused free
      · rw [done]
        exact .granted free valid least
    · exact .same
  | retire slot generation =>
    refine (beginVpidRetire_guarded (table slot) generation).elim .same ?_
    rintro _ took ⟨ofLease, active, rfl⟩
    exact .retired active ofLease took
  | quarantine slot generation =>
    refine (quarantineVpid_guarded (table slot) generation).elim .same ?_
    rintro _ - ⟨held, rfl⟩
    exact .quarantined held
  | reclaim slot generation shootdown =>
    refine (reclaimVpid_guarded (table slot) generation shootdown).elim .same ?_
    rintro _ took ⟨⟨record, rfl, checked⟩, rfl⟩
    exact .freed checked.retiring took

theorem isVpidLeaseValid_initializeFreeLease : isVpidLeaseValid initializeFreeLease = true := by
  decide

theorem isVpidLeaseValid_grantedLease {request : VpidRequest} {vpid : U32}
    (valid : isVpidRequestValid (some request) = true) (lower : kVpidMinimum ≤ vpid)
    (upper : vpid ≤ request.maxVpid) : isVpidLeaseValid (grantedLease request vpid) = true := by
  simp only [isVpidRequestValid, Bool.and_eq_true, bne_iff_ne, ne_eq, decide_eq_true_eq,
    beq_iff_eq] at valid
  obtain ⟨⟨⟨⟨⟨⟨⟨_, owner⟩, generation⟩, kind⟩, _⟩, bounded⟩, _⟩, _⟩ := valid
  have inRange : isVpidValueValid vpid = true := by
    simp only [isVpidValueValid, Bool.and_eq_true, decide_eq_true_eq]
    exact ⟨lower, BitVec.le_trans upper bounded⟩
  have sequence : vpid.setWidth 64 ≠ 0 := by
    intro zero
    have word := congrArg BitVec.toNat zero
    rw [BitVec.le_def] at lower
    simp only [kVpidMinimum, BitVec.toNat_setWidth, BitVec.ofNat_eq_ofNat, BitVec.toNat_ofNat,
      Nat.zero_mod] at word lower
    have := vpid.isLt
    omega
  have active : (kLeaseActive == kLeaseFree) = false := by decide
  have header : (!isVersionedSizeValid kVpidContractVersion sizeofVpidLease sizeofVpidLease ||
      0 &&& ~~~kVpidKnownLeaseFlagMask != 0 || !isLeaseStateValid kLeaseActive) = false := by decide
  simp only [isVpidLeaseValid, grantedLease, initializeFreeLease, header, active, inRange, kind,
    bne_iff_ne.mpr owner, bne_iff_ne.mpr generation, bne_iff_ne.mpr sequence, Bool.and_self,
    Bool.false_eq_true, if_false]

theorem isVpidLeaseValid_moved {lease : VpidLease} {state : U32}
    (valid : isVpidLeaseValid lease = true) (held : InUse lease)
    (known : isLeaseStateValid state = true) (used : state ≠ kLeaseFree) :
    isVpidLeaseValid { lease with state := state } = true := by
  simp only [isVpidLeaseValid, beq_iff_eq, if_neg held] at valid
  simp only [isVpidLeaseValid, beq_iff_eq, if_neg used, known, Bool.not_true, Bool.or_false]
  split at valid
  · cases valid
  · rename_i header
    simp only [Bool.or_eq_true, not_or] at header
    rw [if_neg (by simpa only [Bool.or_eq_true, not_or] using header.1)]
    exact valid

theorem LeaseEffect.valid {table : LeaseTable n} {call : LeaseInput n} {new : VpidLease}
    (effect : LeaseEffect table call new) (valid : isVpidLeaseValid (table call.slot) = true) :
    isVpidLeaseValid new = true := by
  cases effect with
  | same => exact valid
  | refused | freed => exact isVpidLeaseValid_initializeFreeLease
  | granted _ request least => exact isVpidLeaseValid_grantedLease request least.1.1 least.1.2.1
  | retired active =>
    exact isVpidLeaseValid_moved valid (inUse_of_held (Or.inl active)) (by decide) (by decide)
  | quarantined held =>
    exact isVpidLeaseValid_moved valid (inUse_of_held held) (by decide) (by decide)

theorem LeaseEffect.distinct {table : LeaseTable n} {call : LeaseInput n} {new : VpidLease}
    (effect : LeaseEffect table call new)
    (distinct : SlotTable.KeysDistinct InUse VpidLease.vpid table) :
    SlotTable.KeysDistinct InUse VpidLease.vpid (Function.update table call.slot new) := by
  cases effect with
  | same =>
    rw [Function.update_eq_self]
    exact distinct
  | refused | freed => exact distinct.release (not_not.mpr rfl)
  | granted _ _ least => exact distinct.update fun other used => least.1.2.2 other used
  | retired active =>
    have retiring : kLeaseRetiring ≠ kLeaseFree := by decide
    exact distinct.replace retiring (inUse_of_held (Or.inl active)) rfl
  | quarantined held =>
    have quarantined : kLeaseQuarantined ≠ kLeaseFree := by decide
    exact distinct.replace quarantined (inUse_of_held held) rfl

/-- No call moves a quarantined lease. -/
theorem LeaseEffect.quarantined_stays {table : LeaseTable n} {call : LeaseInput n}
    {new : VpidLease} (effect : LeaseEffect table call new)
    (stopped : (table call.slot).state = kLeaseQuarantined) : new = table call.slot := by
  cases effect with
  | same => rfl
  | refused free | granted free => exact absurd (free.symm.trans stopped) (by decide)
  | retired active => exact absurd (active.symm.trans stopped) (by decide)
  | quarantined held =>
    rcases held with active | retiring
    · exact absurd (active.symm.trans stopped) (by decide)
    · exact absurd (retiring.symm.trans stopped) (by decide)
  | freed retiring => exact absurd (retiring.symm.trans stopped) (by decide)

theorem TableSound.step {table : LeaseTable n} (sound : TableSound table) (input : LeaseInput n) :
    TableSound (leaseStep table input) := by
  have effect := leaseCall_effect table input
  refine ⟨fun slot => ?_, effect.distinct sound.distinct⟩
  unfold leaseStep
  by_cases same : slot = input.slot
  · rw [same, Function.update_self]
    exact effect.valid (sound.valid input.slot)
  · rw [Function.update_of_ne same]
    exact sound.valid slot

theorem leaseStep_quarantined {table : LeaseTable n} {slot : Fin n}
    (quarantined : (table slot).state = kLeaseQuarantined) (input : LeaseInput n) :
    leaseStep table input slot = table slot := by
  unfold leaseStep
  by_cases same : slot = input.slot
  · subst same
    rw [Function.update_self]
    exact (leaseCall_effect table input).quarantined_stays quarantined
  · exact Function.update_of_ne same ..

theorem after_quarantined {table : LeaseTable n} {slot : Fin n}
    (quarantined : (table slot).state = kLeaseQuarantined) (inputs : List (LeaseInput n)) :
    Run.after leaseStep table inputs slot = table slot :=
  Run.invariant_always (P := fun (reached : LeaseTable n) => reached slot = table slot)
    (fun reached input kept =>
      (leaseStep_quarantined (by rw [kept]; exact quarantined) input).trans kept) rfl inputs

/-- What a table of leases promises: the leases are valid and their VPIDs
distinct, an allocation hands out the least VPID that is free or finds none,
and a quarantined lease keeps its VPID for good. -/
structure LeaseTableHolds (table : LeaseTable n) : Prop where
  valid : ∀ slot, isVpidLeaseValid (table slot) = true
  distinct : ∀ first second, (table first).state ≠ kLeaseFree → (table second).state ≠ kLeaseFree →
    (table first).vpid = (table second).vpid → first = second
  granted : ∀ request lease, allocateVpid (some request) table = (.Success, lease) ↔
    isVpidRequestValid (some request) = true ∧
      ∃ vpid, IsLeast (freeVpids table request.maxVpid) vpid ∧ lease = grantedLease request vpid
  exhausted : ∀ request, (allocateVpid (some request) table).1 = .Exhausted ↔
    isVpidRequestValid (some request) = true ∧ freeVpids table request.maxVpid = ∅
  noConflict : ∀ request, (allocateVpid request table).1 ≠ .Conflict
  quarantined : ∀ slot later, (table slot).state = kLeaseQuarantined →
    Run.after leaseStep table later slot = table slot ∧
      ∀ request, (allocateVpid request (Run.after leaseStep table later)).1 = .Success →
        (allocateVpid request (Run.after leaseStep table later)).2.vpid ≠ (table slot).vpid

theorem TableSound.holds {table : LeaseTable n} (few : n ≤ kVpidMaxLeases)
    (sound : TableSound table) : LeaseTableHolds table where
  valid := sound.valid
  distinct := sound.distinct
  granted := by
    intro request lease
    have answer := allocateVpid_answer few sound (some request)
    constructor
    · intro success
      rw [success] at answer
      cases answer with
      | granted valid least => exact ⟨valid, _, least, rfl⟩
    · rintro ⟨valid, vpid, least, rfl⟩
      generalize given : allocateVpid (some request) table = outcome at answer
      cases answer with
      | invalid refused => rw [refused] at valid; cases valid
      | granted _ found => rw [BitVec.le_antisymm (found.2 least.1) (least.2 found.1)]
      | exhausted _ none => exact absurd least.1 (by rw [none]; exact Set.notMem_empty vpid)
  exhausted := by
    intro request
    have answer := allocateVpid_answer few sound (some request)
    generalize allocateVpid (some request) table = outcome at answer
    cases answer with
    | invalid refused => simp [refused]
    | granted _ found =>
      refine iff_of_false nofun fun empty => ?_
      exact absurd found.1 (by rw [empty.2]; exact Set.notMem_empty _)
    | exhausted valid none => exact iff_of_true rfl ⟨valid, none⟩
  noConflict := by
    intro request conflict
    have answer := allocateVpid_answer few sound request
    generalize allocateVpid request table = outcome at answer conflict
    cases answer <;> cases conflict
  quarantined := by
    intro slot later quarantined
    have kept := after_quarantined quarantined later
    refine ⟨kept, fun request success => ?_⟩
    rcases allocateVpid_cases request (Run.after leaseStep table later) with
      ⟨failed, _⟩ | ⟨given, vpid, _, _, least, done⟩
    · exact absurd success failed
    · rw [done, ← kept]
      refine Ne.symm (least.1.2.2 slot ?_)
      rw [InUse, kept, quarantined]
      decide

/-- The lease table over every run: whatever is allocated, retired, quarantined
and reclaimed from a table of at most 128 free leases, in any order and with any
arguments, the table keeps its promises. -/
theorem reachable_lease_table (few : n ≤ kVpidMaxLeases) {start : LeaseTable n}
    (free : ∀ slot, isVpidLeaseValid (start slot) = true ∧ (start slot).state = kLeaseFree)
    (inputs : List (LeaseInput n)) : LeaseTableHolds (Run.after leaseStep start inputs) := by
  have sound : TableSound start := by
    refine ⟨fun slot => (free slot).1, fun first second used _ _ => ?_⟩
    exact absurd (free first).2 used
  exact (Run.invariant_always (fun _ input holds => holds.step input) sound inputs).holds few

/-- A request of some owner for one of the lowest VPIDs. -/
def sampleRequest (ownerId generation : U64) (maxVpid : U32) : VpidRequest where
  size := sizeofVpidRequest
  version := kVpidContractVersion
  ownerId := ownerId
  generation := generation
  kind := kKindL2
  maxVpid := maxVpid
  reserved := 0
  reserved2 := 0

/-- Two allocations, and the first lease is quarantined. -/
def sampleLeases : List (LeaseInput 3) :=
  let first : Fin 3 := (Fin.last 0).castSucc.castSucc
  let second : Fin 3 := (Fin.last 1).castSucc
  [.allocate (some (sampleRequest 5 7 2)) first, .allocate (some (sampleRequest 6 7 2)) second,
    .retire first 7, .quarantine first 7]

theorem reachable_lease_table_sample :
    (∀ slot, isVpidLeaseValid ((fun _ => initializeFreeLease : LeaseTable 3) slot) = true ∧
        ((fun _ => initializeFreeLease : LeaseTable 3) slot).state = kLeaseFree) ∧
      (Run.after leaseStep (fun _ => initializeFreeLease) sampleLeases 0).state =
        kLeaseQuarantined ∧
      (allocateVpid (some (sampleRequest 9 8 2))
        (Run.after leaseStep (fun _ => initializeFreeLease) sampleLeases)).1 = .Exhausted ∧
      (allocateVpid (some (sampleRequest 9 8 9))
        (Run.after leaseStep (fun _ => initializeFreeLease) sampleLeases)).2.vpid = 3 ∧
      LeaseTableHolds (Run.after leaseStep (fun _ => initializeFreeLease) sampleLeases) :=
  ⟨by decide, by decide +kernel, by decide +kernel, by decide +kernel,
    reachable_lease_table (by decide) (by decide) sampleLeases⟩

end Knhv.Vpid
