import Knhv.Vpid.Shootdown
import Knhv.Vpid.Table

namespace Knhv.Vpid

variable {n : Nat}

/-- The leases of one table and the shootdown records its callers keep. -/
structure VpidSystem (n : Nat) where
  leases : LeaseTable n
  shootdowns : Nat → ShootdownState

/-- A call on a lease or on a record. A reclaim is passed one of the records,
or none. -/
inductive SystemInput (n : Nat)
  | allocate (request : Option VpidRequest) (slot : Fin n)
  | retire (slot : Fin n) (generation : U64)
  | quarantine (slot : Fin n) (generation : U64)
  | reclaim (slot : Fin n) (generation : U64) (record : Option Nat)
  | shootdown (record : Nat) (call : ShootdownInput)

def systemStep (s : VpidSystem n) : SystemInput n → VpidSystem n
  | .allocate request slot => { s with leases := leaseStep s.leases (.allocate request slot) }
  | .retire slot generation => { s with leases := leaseStep s.leases (.retire slot generation) }
  | .quarantine slot generation =>
    { s with leases := leaseStep s.leases (.quarantine slot generation) }
  | .reclaim slot generation record =>
    { s with leases := leaseStep s.leases (.reclaim slot generation (record.map s.shootdowns)) }
  | .shootdown record call =>
    { s with
      shootdowns := Function.update s.shootdowns record (shootdownStep (s.shootdowns record) call) }

/-- A system before its first call: no lease is out and no shootdown is begun. -/
structure Untouched (s : VpidSystem n) : Prop where
  free : ∀ slot, isVpidLeaseValid (s.leases slot) = true ∧ (s.leases slot).state = kLeaseFree
  idle : ∀ record, (s.shootdowns record).state = kShootdownIdle

/-- A call on this record of which `L` holds. -/
def OnRecord (record : Nat) (L : ShootdownState → ShootdownInput → Prop) (s : VpidSystem n) :
    SystemInput n → Prop
  | .shootdown other call => other = record ∧ L (s.shootdowns record) call
  | _ => False

instance (record : Nat) (L : ShootdownState → ShootdownInput → Prop)
    [∀ state call, Decidable (L state call)] (s : VpidSystem n) : DecidablePred (OnRecord record L s)
  | .shootdown other call => inferInstanceAs (Decidable (other = record ∧ L (s.shootdowns record) call))
  | .allocate .. | .retire .. | .quarantine .. | .reclaim .. => .isFalse id

/-- The record is started over. -/
def Restarts (_ : ShootdownState) (call : ShootdownInput) : Prop := call.Begins

instance (state : ShootdownState) : DecidablePred (Restarts state) :=
  fun call => inferInstanceAs (Decidable call.Begins)

/-- The shootdown of this request is begun. -/
def Opens (request : ShootdownRequest) (_ : ShootdownState) (call : ShootdownInput) : Prop :=
  call = .begin (some request) ∧ isShootdownRequestValid (some request) = true

/-- The shootdown is completed, by its deadline and acknowledged by all. -/
def CompletesInTime (state : ShootdownState) (call : ShootdownInput) : Prop :=
  ∃ nowTsc, call = .complete nowTsc ∧ nowTsc ≤ state.deadlineTsc ∧
    state.acknowledgedCpuMask = state.targetCpuMask

/-- A call on a record, or one that leaves it. -/
theorem systemStep_record (s : VpidSystem n) (input : SystemInput n) (record : Nat) :
    (∃ call, input = .shootdown record call ∧
        (systemStep s input).shootdowns record = shootdownStep (s.shootdowns record) call) ∨
      (∀ L, ¬OnRecord record L s input) ∧
        (systemStep s input).shootdowns record = s.shootdowns record := by
  cases input with
  | shootdown other call =>
    by_cases same : other = record
    · subst same
      exact Or.inl ⟨call, rfl, Function.update_self ..⟩
    · exact Or.inr ⟨fun _ on => same on.1, Function.update_of_ne (Ne.symm same) ..⟩
  | allocate | retire | quarantine | reclaim => exact Or.inr ⟨fun _ => id, rfl⟩

/-- What a record shows that only `L` calls can have put there since it was last
started over. -/
theorem record_since {F : ShootdownState → Prop} {L : ShootdownState → ShootdownInput → Prop}
    (raised : ∀ state call, F (shootdownStep state call) → L state call ∨ F state ∧ ¬call.Begins)
    {start : VpidSystem n} {record : Nat} (down : ¬F (start.shootdowns record))
    {inputs : List (SystemInput n)}
    (up : F ((Run.after systemStep start inputs).shootdowns record)) :
    Run.Since systemStep (OnRecord record L) (OnRecord record Restarts) start inputs := by
  refine Run.since_of_flag (F := fun s => F (s.shootdowns record)) ?_ down up
  intro s input shown
  rcases systemStep_record s input record with ⟨call, rfl, moved⟩ | ⟨off, same⟩
  · rw [moved] at shown
    rcases raised _ call shown with now | ⟨before, quiet⟩
    · exact Or.inl ⟨rfl, now⟩
    · exact Or.inr ⟨before, fun on => quiet on.2⟩
  · rw [same] at shown
    exact Or.inr ⟨shown, off Restarts⟩

/-- The part of a record that says which shootdown it is of. -/
def subject (state : ShootdownState) : U32 × U64 × U64 × U32 :=
  (state.type, state.generation, state.targetCpuMask, state.vpid)

theorem shootdownStep_subject {state : ShootdownState} {call : ShootdownInput}
    (quiet : ¬call.Begins) : subject (shootdownStep state call) = subject state := by
  have effect := shootdownStep_effect state call
  generalize shootdownStep state call = next at effect
  cases effect with
  | emptied | begun => exact absurd trivial quiet
  | refused | acknowledged | completed | timedOut | quarantined => rfl

/-- Only the begin of a shootdown makes an idle record busy. -/
theorem shootdownStep_busy {state : ShootdownState} {call : ShootdownInput}
    (busy : (shootdownStep state call).state ≠ kShootdownIdle) :
    (∃ request, Opens request state call ∧ shootdownStep state call = pendingShootdown request) ∨
      state.state ≠ kShootdownIdle ∧ ¬call.Begins := by
  have effect := shootdownStep_effect state call
  generalize shootdownStep state call = next at effect busy
  cases effect with
  | refused quiet => exact Or.inr ⟨busy, quiet⟩
  | emptied => exact absurd rfl busy
  | @begun request valid => exact Or.inl ⟨request, ⟨rfl, valid⟩, rfl⟩
  | acknowledged _ pending => exact Or.inr ⟨busy_of_pending pending, id⟩
  | completed _ pending => exact Or.inr ⟨busy_of_pending pending, id⟩
  | timedOut _ pending => exact Or.inr ⟨busy_of_pending pending, id⟩
  | quarantined _ held => exact Or.inr ⟨busy_of_held held, id⟩

section Provenance

variable {start : VpidSystem n} (untouched : Untouched start) {record : Nat}
  {inputs : List (SystemInput n)}

include untouched

/-- A busy record is of the shootdown that was begun on it last. -/
theorem record_opened
    (busy : ((Run.after systemStep start inputs).shootdowns record).state ≠ kShootdownIdle) :
    ∃ request, subject (pendingShootdown request) =
        subject ((Run.after systemStep start inputs).shootdowns record) ∧
      Run.Since systemStep (OnRecord record (Opens request)) (OnRecord record Restarts)
        start inputs := by
  generalize described : subject ((Run.after systemStep start inputs).shootdowns record) = about
  have since : Run.Since systemStep
      (OnRecord record fun state call => ∃ request, Opens request state call ∧
        subject (pendingShootdown request) = about)
      (OnRecord record Restarts) start inputs := by
    refine record_since (F := fun state => state.state ≠ kShootdownIdle ∧ subject state = about)
      ?_ (fun up => up.1 (untouched.idle record)) ⟨busy, described⟩
    rintro state call ⟨shown, same⟩
    rcases shootdownStep_busy shown with ⟨request, opens, pending⟩ | ⟨before, quiet⟩
    · exact Or.inl ⟨request, opens, by rw [← pending]; exact same⟩
    · rw [shootdownStep_subject quiet] at same
      exact Or.inr ⟨⟨before, same⟩, quiet⟩
  obtain ⟨pre, input, post, split, on, none⟩ := since
  cases input with
  | shootdown other call =>
    obtain ⟨same, request, opens, named⟩ := on
    exact ⟨request, named, pre, _, post, split, ⟨same, opens⟩, none⟩
  | allocate | retire | quarantine | reclaim => exact on.elim

theorem record_acknowledged {cpuIndex : U32}
    (busy : ((Run.after systemStep start inputs).shootdowns record).state ≠ kShootdownIdle)
    (up : ((Run.after systemStep start inputs).shootdowns record).acknowledgedCpuMask.getLsbD
      cpuIndex.toNat = true) :
    Run.Since systemStep (OnRecord record (Acknowledges cpuIndex)) (OnRecord record Restarts)
      start inputs := by
  refine record_since (F := fun state => state.state ≠ kShootdownIdle ∧
      state.acknowledgedCpuMask.getLsbD cpuIndex.toNat = true)
    ?_ (fun up => up.1 (untouched.idle record)) ⟨busy, up⟩
  rintro state call ⟨shown, bit⟩
  rcases acknowledged_raised bit with now | ⟨before, quiet⟩
  · exact Or.inl now
  · rcases shootdownStep_busy shown with ⟨request, opens, _⟩ | ⟨busyBefore, _⟩
    · rw [opens.1] at quiet
      exact absurd trivial quiet
    · exact Or.inr ⟨⟨busyBefore, before⟩, quiet⟩

theorem record_completed
    (completed : ((Run.after systemStep start inputs).shootdowns record).state =
      kShootdownCompleted) :
    Run.Since systemStep (OnRecord record CompletesInTime) (OnRecord record Restarts)
      start inputs := by
  refine record_since (F := fun state => state.state = kShootdownCompleted) ?_ ?_ completed
  · intro state call shown
    by_cases before : state.state = kShootdownCompleted
    · refine Or.inr ⟨before, ?_⟩
      have busy : (shootdownStep state call).state ≠ kShootdownIdle := by
        rw [shown]
        decide
      rcases shootdownStep_busy busy with ⟨request, _, pending⟩ | ⟨_, quiet⟩
      · rw [pending] at shown
        exact absurd shown (by decide : kShootdownPending ≠ kShootdownCompleted)
      · exact quiet
    · exact Or.inl ((stepSound state call).completes shown before)
  · rw [untouched.idle record]
    decide

end Provenance

/-- The reclaim of this lease with this record succeeds. -/
def Frees (s : VpidSystem n) (slot : Fin n) (generation : U64) (record : Nat) : Prop :=
  (reclaimVpid (s.leases slot) generation (some (s.shootdowns record))).1 = true

instance (s : VpidSystem n) (slot : Fin n) (generation : U64) (record : Nat) :
    Decidable (Frees s slot generation record) :=
  inferInstanceAs (Decidable (_ = true))

/-- The lease of this slot goes from active to retiring. -/
def Retires (slot : Fin n) (generation : U64) (s : VpidSystem n) (input : SystemInput n) : Prop :=
  input = .retire slot generation ∧ (beginVpidRetire (s.leases slot) generation).1 = true

/-- This VPID is handed out. -/
def Grants (vpid : U32) (s : VpidSystem n) : SystemInput n → Prop
  | .allocate request slot => (s.leases slot).state = kLeaseFree ∧
      (allocateVpid request s.leases).1 = .Success ∧ (allocateVpid request s.leases).2.vpid = vpid
  | _ => False

/-- The lease of this VPID is freed. -/
def Returns (vpid : U32) (s : VpidSystem n) : SystemInput n → Prop
  | .reclaim slot generation (some record) =>
    Frees s slot generation record ∧ (s.leases slot).vpid = vpid
  | _ => False

theorem Frees.reclaimable {s : VpidSystem n} {slot : Fin n} {generation : U64} {record : Nat}
    (frees : Frees s slot generation record) :
    Reclaimable (s.leases slot) generation (s.shootdowns record) := by
  obtain ⟨⟨shootdown, same, checked⟩, _⟩ := (reclaimVpid_guarded _ _ _).of_success frees
  cases same
  exact checked

/-- The call on the leases that an input makes. -/
def leaseInput (s : VpidSystem n) : SystemInput n → Option (LeaseInput n)
  | .allocate request slot => some (.allocate request slot)
  | .retire slot generation => some (.retire slot generation)
  | .quarantine slot generation => some (.quarantine slot generation)
  | .reclaim slot generation record => some (.reclaim slot generation (record.map s.shootdowns))
  | .shootdown .. => none

theorem systemStep_leases (s : VpidSystem n) (input : SystemInput n) :
    (systemStep s input).leases = (leaseInput s input).elim s.leases (leaseStep s.leases) := by
  cases input <;> rfl

/-- A lease is left as it is, or moved by a call on its slot. -/
theorem systemStep_lease (s : VpidSystem n) (input : SystemInput n) (slot : Fin n) :
    (systemStep s input).leases slot = s.leases slot ∨
      ∃ call, leaseInput s input = some call ∧ call.slot = slot ∧
        LeaseEffect s.leases call ((systemStep s input).leases slot) := by
  rw [systemStep_leases]
  cases made : leaseInput s input with
  | none => exact Or.inl rfl
  | some call =>
    simp only [Option.elim_some, leaseStep]
    by_cases same : slot = call.slot
    · subst same
      rw [Function.update_self]
      exact Or.inr ⟨call, rfl, rfl, leaseCall_effect s.leases call⟩
    · exact Or.inl (Function.update_of_ne same ..)

theorem leaseInput_retire {s : VpidSystem n} {input : SystemInput n} {slot : Fin n}
    {generation : U64} (made : leaseInput s input = some (.retire slot generation)) :
    input = .retire slot generation := by
  cases input with
  | retire => cases made; rfl
  | allocate | quarantine | reclaim | shootdown => cases made

theorem leaseInput_reclaim {s : VpidSystem n} {input : SystemInput n} {slot : Fin n}
    {generation : U64} {shootdown : ShootdownState}
    (made : leaseInput s input = some (.reclaim slot generation (some shootdown))) :
    ∃ record, input = .reclaim slot generation (some record) ∧
      s.shootdowns record = shootdown := by
  cases input with
  | reclaim named given record =>
    simp only [leaseInput, Option.some.injEq, LeaseInput.reclaim.injEq, Option.map_eq_some_iff]
      at made
    obtain ⟨rfl, rfl, record, rfl, same⟩ := made
    exact ⟨record, rfl, same⟩
  | allocate | retire | quarantine | shootdown => cases made

/-- A lease is retiring since the call that retired it. -/
theorem systemStep_retiring {s : VpidSystem n} {input : SystemInput n} {slot : Fin n}
    {generation : U64}
    (retiring : ((systemStep s input).leases slot).state = kLeaseRetiring)
    (ofLease : ((systemStep s input).leases slot).generation = generation) :
    Retires slot generation s input ∨
      (s.leases slot).state = kLeaseRetiring ∧ (s.leases slot).generation = generation := by
  rcases systemStep_lease s input slot with same | ⟨call, made, rfl, effect⟩
  · rw [same] at retiring ofLease
    exact Or.inr ⟨retiring, ofLease⟩
  generalize (systemStep s input).leases call.slot = next at effect retiring ofLease
  cases effect with
  | same => exact Or.inr ⟨retiring, ofLease⟩
  | refused | freed => exact absurd retiring (by decide)
  | granted => exact absurd retiring (by decide : kLeaseActive ≠ kLeaseRetiring)
  | retired _ given took =>
    have named := given.symm.trans ofLease
    subst named
    exact Or.inl ⟨leaseInput_retire made, took⟩
  | quarantined => exact absurd retiring (by decide : kLeaseQuarantined ≠ kLeaseRetiring)

/-- A lease keeps its VPID until it is freed. -/
theorem systemStep_inUse {s : VpidSystem n} {input : SystemInput n} {slot : Fin n}
    (used : InUse (s.leases slot)) :
    InUse ((systemStep s input).leases slot) ∧
        ((systemStep s input).leases slot).vpid = (s.leases slot).vpid ∨
      Returns (s.leases slot).vpid s input := by
  rcases systemStep_lease s input slot with same | ⟨call, made, rfl, effect⟩
  · rw [same]
    exact Or.inl ⟨used, rfl⟩
  generalize (systemStep s input).leases call.slot = next at effect
  cases effect with
  | same => exact Or.inl ⟨used, rfl⟩
  | refused free | granted free => exact absurd free used
  | retired => exact Or.inl ⟨(by decide : kLeaseRetiring ≠ kLeaseFree), rfl⟩
  | quarantined => exact Or.inl ⟨(by decide : kLeaseQuarantined ≠ kLeaseFree), rfl⟩
  | freed _ took =>
    obtain ⟨record, rfl, same⟩ := leaseInput_reclaim made
    exact Or.inr ⟨by rw [Frees, same]; exact took, rfl⟩

/-- The shootdown of this request drops every translation of this VPID, and it
is for leases of this generation. -/
def Covers (request : ShootdownRequest) (generation : U64) (vpid : U32) : Prop :=
  request.generation = generation ∧
    (request.type = kTypeAllContext ∨ isContextShootdown request.type = true ∧ request.vpid = vpid)

/-- Such a shootdown is begun, on any record. -/
def OpensCovering (generation : U64) (vpid : U32) (_ : VpidSystem n) (input : SystemInput n) : Prop :=
  ∃ record request, input = .shootdown record (.begin (some request)) ∧
    isShootdownRequestValid (some request) = true ∧ Covers request generation vpid

/-- The last begin of this record came when the lease of this slot was retiring
already, and the lease has been retiring since. -/
def BegunWhileRetiring (slot : Fin n) (record : Nat) (start : VpidSystem n)
    (inputs : List (SystemInput n)) : Prop :=
  Run.Since systemStep
    (fun s input => OnRecord record Restarts s input ∧ (s.leases slot).state = kLeaseRetiring)
    (fun s input => OnRecord record Restarts s input ∨ ¬(s.leases slot).state = kLeaseRetiring)
    start inputs

instance (slot : Fin n) (record : Nat) (start : VpidSystem n) (inputs : List (SystemInput n)) :
    Decidable (BegunWhileRetiring slot record start inputs) :=
  inferInstanceAs (Decidable (Run.Since ..))

/-- What stands behind a reclaim that succeeds after these inputs: a shootdown
for the generation of the lease that covers its VPID, begun on the record and
not started over, acknowledged by every target CPU and completed in time. It is
one begun after the lease entered retirement if none such was begun before. -/
structure Backed (start : VpidSystem n) (inputs : List (SystemInput n)) (slot : Fin n)
    (generation : U64) (record : Nat) : Prop where
  opened : ∃ request,
    Covers request generation ((Run.after systemStep start inputs).leases slot).vpid ∧
    Run.Since systemStep (OnRecord record (Opens request)) (OnRecord record Restarts) start inputs ∧
    ∀ cpuIndex : U32, request.targetCpuMask.getLsbD cpuIndex.toNat = true →
      Run.Since systemStep (OnRecord record (Acknowledges cpuIndex)) (OnRecord record Restarts)
        start inputs
  completed : Run.Since systemStep (OnRecord record CompletesInTime) (OnRecord record Restarts)
    start inputs
  entered : Run.Since systemStep (Retires slot generation)
    (fun s _ => (s.leases slot).state ≠ kLeaseRetiring) start inputs
  fresh : ∀ early input late, inputs = early ++ input :: late →
    Retires slot generation (Run.after systemStep start early) input →
    Run.Every systemStep (fun s _ => (s.leases slot).state = kLeaseRetiring)
      (Run.after systemStep start (early ++ [input])) late →
    ¬Run.Occurs systemStep
      (OpensCovering generation ((Run.after systemStep start inputs).leases slot).vpid)
      start early →
    BegunWhileRetiring slot record start inputs

section Reclaim

variable {start : VpidSystem n} {inputs : List (SystemInput n)} {slot : Fin n} {generation : U64}
  {record : Nat}

/-- A shootdown that was not begun before the lease entered retirement was begun
while it was retiring. -/
theorem begunWhileRetiring_of_none_before {request : ShootdownRequest} {vpid : U32}
    {early late : List (SystemInput n)} {input : SystemInput n}
    (covers : Covers request generation vpid)
    (opened : Run.Since systemStep (OnRecord record (Opens request)) (OnRecord record Restarts) start
      (early ++ input :: late))
    (entered : Retires slot generation (Run.after systemStep start early) input)
    (retiring : Run.Every systemStep (fun s _ => (s.leases slot).state = kLeaseRetiring)
      (Run.after systemStep start (early ++ [input])) late)
    (none : ¬Run.Occurs systemStep (OpensCovering generation vpid) start early) :
    BegunWhileRetiring slot record start (early ++ input :: late) := by
  have shape : early ++ input :: late = (early ++ [input]) ++ late := by
    rw [List.append_assoc, List.singleton_append]
  rw [shape] at opened ⊢
  rcases Run.since_append opened with ⟨pre, other, post, split, on⟩ | later
  · -- the begin is before the retirement, which is excluded, or it is the retirement
    cases other with
    | shootdown named call =>
      obtain ⟨rfl, rfl, valid⟩ := on
      rcases List.eq_nil_or_concat post with rfl | ⟨rest, last, rfl⟩
      · obtain ⟨_, same⟩ := List.append_inj' split rfl
        rw [entered.1] at same
        cases same
      · have inside : early ++ [input] =
            (pre ++ .shootdown named (.begin (some request)) :: rest) ++ [last] := by
          rw [split, List.concat_eq_append, List.append_assoc, List.cons_append]
        exact absurd ⟨pre, _, rest, (List.append_inj' inside rfl).1,
          named, request, rfl, valid, covers⟩ none
    | allocate | retire | quarantine | reclaim => exact on.elim
  · refine ((later.and_every retiring).after_first).mono (fun s step holds => ⟨?_, holds.2⟩)
      (fun _ _ stop => stop)
    cases step with
    | shootdown named call =>
      obtain ⟨rfl, rfl, _⟩ := holds.1
      exact ⟨rfl, trivial⟩
    | allocate | retire | quarantine | reclaim => exact holds.1.elim

theorem Frees.backed (untouched : Untouched start)
    (frees : Frees (Run.after systemStep start inputs) slot generation record) :
    Backed start inputs slot generation record := by
  have checked := frees.reclaimable
  have covered := checked.covers
  simp only [shootdownCoversVpid] at covered
  split at covered
  · cases covered
  rename_i done
  have completed : ((Run.after systemStep start inputs).shootdowns record).state =
      kShootdownCompleted := by simpa using done
  have busy : ((Run.after systemStep start inputs).shootdowns record).state ≠ kShootdownIdle := by
    rw [completed]
    decide
  obtain ⟨request, same, opened⟩ := record_opened untouched busy
  obtain ⟨type, sameGeneration, targets, vpid⟩ : request.type = _ ∧ request.generation = _ ∧
      request.targetCpuMask = _ ∧ request.vpid = _ := by
    simpa only [subject, pendingShootdown, Prod.mk.injEq] using same
  have covers : Covers request generation
      ((Run.after systemStep start inputs).leases slot).vpid := by
    refine ⟨sameGeneration.trans checked.ofRecord, ?_⟩
    rw [type, vpid]
    split at covered
    · rename_i all
      exact Or.inl (by simpa using all)
    · exact Or.inr (by simpa using covered)
  refine ⟨⟨request, covers, opened, fun cpu target => ?_⟩, record_completed untouched completed, ?_, ?_⟩
  · rw [targets, ← checked.acknowledged] at target
    exact record_acknowledged untouched busy target
  · refine Run.since_of_flag (F := fun s => (s.leases slot).state = kLeaseRetiring ∧
      (s.leases slot).generation = generation) ?_ ?_ ⟨checked.retiring, checked.ofLease⟩
    · rintro s input ⟨retiring, ofLease⟩
      rcases systemStep_retiring retiring ofLease with now | before
      · exact Or.inl now
      · exact Or.inr ⟨before, not_not.mpr before.1⟩
    · rintro ⟨retiring, _⟩
      rw [(untouched.free slot).2] at retiring
      exact absurd retiring (by decide)
  · intro early input late split entered retiring none
    rw [split] at opened ⊢
    exact begunWhileRetiring_of_none_before covers opened entered retiring none

/-- While a record is not started over it is of one shootdown. -/
theorem subject_kept (quiet : ¬Run.Occurs systemStep (OnRecord record Restarts) start inputs) :
    subject ((Run.after systemStep start inputs).shootdowns record) =
      subject (start.shootdowns record) := by
  refine Run.invariant
    (P := fun s => subject (s.shootdowns record) = subject (start.shootdowns record)) ?_ rfl
    (Run.not_occurs_iff.mp quiet)
  intro s input kept on
  rcases systemStep_record s input record with ⟨call, rfl, moved⟩ | ⟨_, same⟩
  · rw [moved, shootdownStep_subject fun begins => on ⟨rfl, begins⟩]
    exact kept
  · rw [same]
    exact kept

/-- A VPID is handed out again only after the lease that held it was freed. -/
theorem grants_separated (vpid : U32) :
    Run.Separated systemStep (Grants vpid) (Returns vpid) start inputs := by
  refine Run.separated_of_flag (G := fun _ _ => True)
    (F := fun s => ∃ slot, InUse (s.leases slot) ∧ (s.leases slot).vpid = vpid) ?_ ?_ ?_
    (fun _ _ _ _ => trivial)
  · intro s input grants
    cases input with
    | allocate request slot =>
      obtain ⟨free, success, named⟩ := grants
      rcases allocateVpid_cases request s.leases with ⟨failed, _⟩ | ⟨given, granted, _, _, _, done⟩
      · exact absurd success failed
      have stored : (systemStep s (.allocate request slot)).leases slot =
          grantedLease given granted := by
        simp only [systemStep, leaseStep, LeaseInput.slot, Function.update_self, leaseCall, free,
          if_true, done]
      rw [done] at named
      refine ⟨slot, ?_, by rw [stored]; exact named⟩
      rw [stored]
      exact (by decide : kLeaseActive ≠ kLeaseFree)
    | retire | quarantine | reclaim | shootdown => exact grants.elim
  · rintro s input - ⟨slot, used, named⟩ kept
    rcases systemStep_inUse used with ⟨stays, same⟩ | returned
    · exact ⟨slot, stays, same.trans named⟩
    · rw [named] at returned
      exact absurd returned kept
  · rintro s input - ⟨slot, used, named⟩ grants
    cases input with
    | allocate request other =>
      obtain ⟨_, success, granted⟩ := grants
      rcases allocateVpid_cases request s.leases with ⟨failed, _⟩ | ⟨given, vpid, _, _, least, done⟩
      · exact absurd success failed
      · rw [done] at granted
        exact least.1.2.2 slot used (named.trans granted.symm)
    | retire | quarantine | reclaim | shootdown => exact grants.elim

end Reclaim

/-- What a run promises about reclaims: each is backed, the shootdown of a
record frees leases of one generation only, and a VPID is handed out again only
after the lease that held it was freed so. -/
structure ReclaimHolds (start : VpidSystem n) (inputs : List (SystemInput n)) : Prop where
  backed : ∀ pre slot generation record post,
    inputs = pre ++ .reclaim slot generation (some record) :: post →
    Frees (Run.after systemStep start pre) slot generation record →
    Backed start pre slot generation record
  oneGeneration : ∀ pre slot generation record mid other otherGeneration post,
    inputs = pre ++ .reclaim slot generation (some record) ::
      (mid ++ .reclaim other otherGeneration (some record) :: post) →
    Frees (Run.after systemStep start pre) slot generation record →
    Frees (Run.after systemStep start (pre ++ .reclaim slot generation (some record) :: mid))
      other otherGeneration record →
    ¬Run.Occurs systemStep (OnRecord record Restarts) (Run.after systemStep start pre)
      (.reclaim slot generation (some record) :: mid) →
    otherGeneration = generation
  handedOn : ∀ vpid, Run.Separated systemStep (Grants vpid) (Returns vpid) start inputs

/-- The reclaims of every run on an untouched system. A shootdown is tied to a
lease by its generation and its VPID, and by nothing else. -/
theorem reclaim_holds {start : VpidSystem n} (untouched : Untouched start)
    (inputs : List (SystemInput n)) : ReclaimHolds start inputs where
  backed := by
    intro pre slot generation record post _ frees
    exact frees.backed untouched
  oneGeneration := by
    intro pre slot generation record mid other otherGeneration post _ first second quiet
    have kept := subject_kept quiet
    rw [← Run.after_append] at kept
    have same := congrArg (·.2.1) kept
    exact second.reclaimable.ofRecord.symm.trans (same.trans first.reclaimable.ofRecord)
  handedOn := fun vpid => grants_separated vpid

/-- One free lease, and no shootdown. -/
def sampleSystem : VpidSystem 1 where
  leases := fun _ => initializeFreeLease
  shootdowns := fun _ => initializeShootdownState

theorem untouched_sampleSystem : Untouched sampleSystem := ⟨by decide, fun _ => rfl⟩

/-- The lease of VPID 1 is retired, and then its translations are shot down. -/
def freshRun : List (SystemInput 1) :=
  [.allocate (some (sampleRequest 5 7 2)) 0, .retire 0 7,
    .shootdown 0 (.begin (some (sampleShootdown 7 10))), .shootdown 0 (.acknowledge 0),
    .shootdown 0 (.complete 9)]

theorem reclaim_holds_fresh :
    Frees (Run.after systemStep sampleSystem freshRun) 0 7 0 ∧
      BegunWhileRetiring 0 0 sampleSystem freshRun ∧
      ReclaimHolds sampleSystem (freshRun ++ [.reclaim 0 7 (some 0)]) :=
  ⟨by decide +kernel, by decide +kernel,
    reclaim_holds untouched_sampleSystem (freshRun ++ [.reclaim 0 7 (some 0)])⟩

/-- The translations of VPID 1 are shot down while its lease is active, and the
lease is retired after. -/
def staleRun : List (SystemInput 1) :=
  [.allocate (some (sampleRequest 5 7 2)) 0,
    .shootdown 0 (.begin (some (sampleShootdown 7 10))), .shootdown 0 (.acknowledge 0),
    .shootdown 0 (.complete 9), .retire 0 7]

/-- The next lease of the same VPID in the same generation, of another owner. -/
def nextLease : List (SystemInput 1) :=
  [.reclaim 0 7 (some 0), .allocate (some (sampleRequest 6 7 2)) 0, .retire 0 7]

theorem stale_shootdown_frees_twice :
    Untouched sampleSystem ∧ Frees (Run.after systemStep sampleSystem staleRun) 0 7 0 ∧
      ¬BegunWhileRetiring 0 0 sampleSystem staleRun ∧
      Frees (Run.after systemStep sampleSystem (staleRun ++ nextLease)) 0 7 0 ∧
      ¬BegunWhileRetiring 0 0 sampleSystem (staleRun ++ nextLease) ∧
      ¬Run.Occurs systemStep (OnRecord 0 Restarts) (Run.after systemStep sampleSystem staleRun)
        nextLease ∧
      ((Run.after systemStep sampleSystem staleRun).leases 0).vpid =
        ((Run.after systemStep sampleSystem (staleRun ++ nextLease)).leases 0).vpid ∧
      ((Run.after systemStep sampleSystem staleRun).leases 0).ownerId = 5 ∧
      ((Run.after systemStep sampleSystem (staleRun ++ nextLease)).leases 0).ownerId = 6 := by
  refine ⟨untouched_sampleSystem, ?_⟩
  decide +kernel

end Knhv.Vpid
