import Knhv.Lifecycle.Stopping

namespace Knhv.Lifecycle

open Teardown Driver Interleaving

variable {t count : Nat} {phase : HvLifecycle} {cpu dpc : Bool} {F : Nat → Bool → Bool → Prop}
  {s : System} {q : Processor}

/-- What the guards have found out about a vCPU whose memory may go. -/
def Free (q : Processor) : Prop := Cleared q ∧ Quiet q

theorem lasting_free : Lasting Free := lasting_cleared.and lasting_quiet

namespace Sound

variable (sound : Sound q) (free : Free q)

include sound free

theorem vmxe_off : q.words.vmxe = false := sound.vmxe_of_terminal free.1.terminal free.1.vmcsCurrent

theorem dead : Dead q := by
  refine ⟨?_, free.1.vmcsCurrent, sound.worker_absent_of_handle free.2.1, free.1.launch⟩
  by_contra on
  exact nomatch (sound.operation (by simpa using on)).symm.trans (sound.vmxe_off free)

theorem blank_of_free (memory : q.memory = false) : Blank q := by
  refine ⟨memory, free.2.1, free.2.2, free.1.vmcsCurrent, sound.vmxe_off free, ?_⟩
  by_contra halted
  have terminal := free.1.terminal
  rw [(sound.halted (by simpa using halted)).state] at terminal
  cases terminal

end Sound

/-- Behind the guards every processor is dead, also those that have no vCPU. -/
theorem Scanned.dead (scanned : Scanned t phase count cpu dpc F Free s) (i : Nat) :
    Dead (s.processors i) := by
  obtain ⟨held, all⟩ := scanned
  by_cases inside : i < count
  · exact (held.inv.sound i).dead (all i inside)
  · exact (held.inv.blank i (.inr (held.processorCount ▸ Nat.not_lt.mp inside))).dead (held.inv.sound i)

/-- The memory of one processor is freed. -/
theorem Scanned.free (scanned : Scanned t .stopping count cpu dpc Drained Free s) {i : Nat}
    (inside : i < count) :
    Guarantee t s (s.put i { s.processors i with memory := false }) ∧
      Scanned t .stopping count cpu dpc Drained Free
        (s.put i { s.processors i with memory := false }) := by
  have dead := scanned.dead
  obtain ⟨⟨⟨inv, owner, lifecycle⟩, vcpuData, processorCount, cpuWork, dpcWork, slots⟩, all⟩ := scanned
  have inv' : SystemInv (s.put i { s.processors i with memory := false }) := by
    refine ⟨?_, fun j given => ?_, inv.driver, inv.owned, inv.idle, inv.running, inv.pinned, fun none => ?_,
      fun none => ?_⟩
    · refine System.put_all (P := fun _ q => Sound q) ((inv.sound i).setMemory fun needed => ?_)
        fun j _ => inv.sound j
      rcases needed with present | on
      · exact absurd (dead i).launch present
      · exact nomatch on.symm.trans (dead i).vmxOperation
    · refine System.put_all (P := fun j q => s.vcpuData = false ∨ s.processorCount ≤ j → Blank q)
        (fun given => ?_) (fun j _ => inv.blank j) j given
      obtain ⟨_, handle, queued, current, vmxe, halted⟩ := inv.blank i given
      exact ⟨rfl, handle, queued, current, vmxe, halted⟩
    · exact System.put_all (P := fun _ q => q.work.threadHandle = false) (inv.cpuWork none i)
        fun j _ => inv.cpuWork none j
    · exact System.put_all (P := fun _ q => q.dpc.dpcQueued = false) (inv.dpcWork none i)
        fun j _ => inv.dpcWork none j
  refine ⟨fun _ => ⟨inv', ⟨fun _ _ => ⟨lifecycle, dead⟩, fun before _ => absurd lifecycle before, .inl, id⟩,
    fun u other =>
    .of_other (.inl owner) (.inl owner) id other⟩, ⟨⟨inv', owner, lifecycle⟩, vcpuData, processorCount,
    cpuWork, dpcWork, ?_⟩, ?_⟩
  · exact System.put_all (P := fun j q => Drained j q.memory q.dpc.dpcQueued) (slots i) fun j _ => slots j
  · refine System.put_all (P := fun j q => j < count → Free q) (fun _ => ?_) fun j _ => all j
    obtain ⟨⟨⟨launch, terminal⟩, current⟩, quiet⟩ := all i inside
    exact ⟨⟨⟨launch, terminal⟩, current⟩, quiet⟩

/-- Everything of the vCPUs is free but the arrays themselves. -/
structure Emptied (t : Nat) (s : System) : Prop extends Own t .stopping s where
  empty : ∀ i, i < s.processorCount → Free (s.processors i) ∧ (s.processors i).memory = false

theorem Emptied.blank (emptied : Emptied t s) (i : Nat) : Blank (s.processors i) := by
  by_cases inside : i < s.processorCount
  · obtain ⟨free, memory⟩ := emptied.empty i inside
    exact (emptied.inv.sound i).blank_of_free free memory
  · exact emptied.inv.blank i (.inr (Nat.not_lt.mp inside))

theorem stable_emptied : Stable (Rely t) (Emptied t) := by
  rintro s s' ⟨own, empty⟩ move
  obtain ⟨inv', kept⟩ := move own.inv
  refine ⟨stable_own s s' own move, fun i inside => ?_⟩
  rw [kept.processorCount own.owner] at inside
  obtain ⟨free, memory⟩ := empty i inside
  have calm := kept.processors own.owner i
  exact ⟨lasting_free _ _ free calm, calm.memory.trans memory⟩

/-- The owner has no vCPUs. -/
structure Bare (t : Nat) (phase : HvLifecycle) (s : System) : Prop extends Own t phase s where
  none : s.vcpuData = false

theorem stable_bare : Stable (Rely t) (Bare t phase) := by
  rintro s s' ⟨own, none⟩ move
  exact ⟨stable_own s s' own move, ((move own.inv).2.vcpuData own.owner).trans none⟩

/-- The owner writes what is neither its ownership nor the lifecycle. -/
theorem Own.write {s' : System} (own : Own t phase s) (inv' : SystemInv s')
    (owner : s'.owner = s.owner) (lifecycle : s'.lifecycle = s.lifecycle)
    (pinned : s'.imagePinned = s.imagePinned)
    (freed : ∀ i, (s.processors i).memory = true ∧ (s'.processors i).memory = false ∨
      s.vcpuData = true ∧ s'.vcpuData = false → s.lifecycle = .stopping ∧ ∀ j, Dead (s.processors j)) :
    Guarantee t s s' ∧ Own t phase s' := by
  refine ⟨fun _ => ⟨inv', ⟨freed, fun before after => absurd (lifecycle.symm.trans after) before,
    fun stopping => .inl (lifecycle.trans stopping),
    fun quarantined => lifecycle.trans quarantined⟩, fun u other => ?_⟩, inv', owner.trans own.owner,
    lifecycle.trans own.lifecycle⟩
  exact .of_other (.inl own.owner) (.inl (owner.trans own.owner)) (fun before => pinned.trans before) other

/-- Nothing is freed where the arrays and the memory stay. -/
theorem not_freed {s' : System} {C : Prop} (vcpuData : s'.vcpuData = s.vcpuData)
    (memory : ∀ i, (s'.processors i).memory = (s.processors i).memory) (i : Nat)
    (gone : (s.processors i).memory = true ∧ (s'.processors i).memory = false ∨
      s.vcpuData = true ∧ s'.vcpuData = false) : C := by
  rcases gone with ⟨there, gone⟩ | ⟨there, gone⟩
  · exact nomatch there.symm.trans ((memory i).symm.trans gone)
  · exact nomatch there.symm.trans (vcpuData.symm.trans gone)

/-- A call without vCPUs sets their count. -/
theorem Bare.setCount (bare : Bare t phase s) (size : Nat) :
    Guarantee t s { s with processorCount := size } ∧
      Bare t phase { s with processorCount := size } := by
  obtain ⟨own, none⟩ := bare
  have inv' : SystemInv { s with processorCount := size } :=
    ⟨own.inv.sound, fun i _ => own.inv.blank i (.inl none), own.inv.driver, own.inv.owned,
      own.inv.idle, own.inv.running, own.inv.pinned, own.inv.cpuWork, own.inv.dpcWork⟩
  obtain ⟨promise, own'⟩ := own.write inv' rfl rfl rfl (not_freed rfl fun _ => rfl)
  exact ⟨promise, own', none⟩

/-- A stop that has nothing left goes idle. -/
theorem idle_of_bare :
    Upholds t (Bare t .stopping) (do
      Script.write fun s => { s with processorCount := 0 }
      exchangeLifecycle t .idle) fun _ => Apart t := by
  refine .bind (M := fun _ => Bare t .stopping) (.write stable_bare stable_bare fun s bare =>
    bare.setCount 0) fun _ => ?_
  refine .write stable_bare stable_apart fun s bare => ?_
  exact bare.leave ⟨nofun, nofun⟩ (fun _ => bare.none) nofun nofun (fun _ => .inl rfl) nofun

theorem freeProcessors_held :
    Upholds t (Scanned t .stopping count cpu dpc Drained Free) (freeProcessors t count)
      fun _ => Apart t := by
  have scanned : Stable (Rely t) (Scanned t .stopping count cpu dpc Drained Free) :=
    lasting_free.scanned
  have freed (i : Nat) : Stable (Rely t) fun s =>
      Scanned t .stopping count cpu dpc Drained Free s ∧ (s.processors i).memory = false := by
    rintro s s' ⟨given, memory⟩ move
    exact ⟨scanned s s' given move, ((move given.1.inv).2.processors given.1.owner i).memory.trans memory⟩
  unfold freeProcessors
  refine .bind (.forEach (D := fun i s => Scanned t .stopping count cpu dpc Drained Free s ∧
    (s.processors i).memory = false) scanned freed fun i member behind => ?_) fun _ => ?_
  · have earlier : Stable (Rely t) fun s => ∀ j ∈ behind,
        Scanned t .stopping count cpu dpc Drained Free s ∧ (s.processors j).memory = false :=
      .all fun j => .imp fun _ => freed j
    refine .exchange (scanned.and earlier) (fun _ => scanned.and (earlier.and (freed i))) ?_
    rintro _ s ⟨given, gone⟩
    obtain ⟨promise, given'⟩ := given.free (List.mem_range.mp member)
    refine ⟨promise, given', fun j before => ⟨given', ?_⟩, given', by rw [System.put_self]⟩
    exact System.put_all (P := fun j q => j ∈ behind → q.memory = false) (fun _ => rfl)
      (fun j _ before => (gone j before).2) j before
  refine .pre (P := Emptied t) ?_ ?_
  · refine .bind (M := fun _ => Emptied t) (.write stable_emptied stable_emptied fun s emptied => ?_)
      fun _ => ?_
    · have inv' : SystemInv { s with targetCpuWork := false } :=
        { emptied.inv with cpuWork := fun _ i => (emptied.blank i).handle }
      obtain ⟨promise, own⟩ := emptied.write inv' rfl rfl rfl (not_freed rfl fun _ => rfl)
      exact ⟨promise, own, emptied.empty⟩
    refine .bind (M := fun _ => Emptied t) (.write stable_emptied stable_emptied fun s emptied => ?_)
      fun _ => ?_
    · have inv' : SystemInv { s with targetLaunchDpcWork := false } :=
        { emptied.inv with dpcWork := fun _ i => (emptied.blank i).dpcQueued }
      obtain ⟨promise, own⟩ := emptied.write inv' rfl rfl rfl (not_freed rfl fun _ => rfl)
      exact ⟨promise, own, emptied.empty⟩
    refine .bind (M := fun _ => Bare t .stopping) (.write stable_emptied stable_bare fun s emptied => ?_)
      fun _ => idle_of_bare
    have inv' : SystemInv { s with vcpuData := false } :=
      { emptied.inv with
        blank := fun i _ => emptied.blank i
        idle := fun _ => rfl
        running := fun running => absurd (emptied.lifecycle.symm.trans running) nofun }
    obtain ⟨promise, own⟩ := emptied.write inv' rfl rfl rfl fun _ _ =>
      ⟨emptied.lifecycle, fun i => (emptied.blank i).dead (emptied.inv.sound i)⟩
    exact ⟨promise, own, rfl⟩
  · rintro s ⟨⟨held, all⟩, gone⟩
    refine ⟨held.toOwn, fun i inside => ?_⟩
    rw [held.processorCount] at inside
    exact ⟨all i inside, (gone i (List.mem_range.mpr inside)).2⟩

theorem stopOthers_held (reserved : Nat) :
    Upholds t (Held t phase count cpu dpc F) (stopOthers reserved count)
      fun _ => Held t phase count cpu dpc F := by
  refine .loop _ stable_held fun i _ flags => ?_
  refine .ite (fun _ => .ret stable_held fun _ => id) fun _ => ?_
  refine .bind (reads stable_held) fun state => ?_
  refine .ite (fun _ => .ret stable_held fun _ => id) fun _ => ?_
  refine .bind (stopTargetProcessor_held flags.1) fun answer => ?_
  exact .ite (fun _ => .ret stable_held fun _ => id) fun _ => .ret stable_held fun _ => id

theorem stopFromCoordinator_held (reserved : Nat) :
    Upholds t (Held t phase count cpu dpc F) (stopFromCoordinator reserved count)
      fun _ => Held t phase count cpu dpc F := by
  refine .bind (reads stable_held) fun bound => ?_
  exact .ite (fun _ => stopOthers_held reserved) fun _ => .ret stable_held fun _ => id

theorem stopReserved_held (reserved : Nat) (unresolved stopFailed : Bool) :
    Upholds t (Held t phase count cpu dpc F) (stopReserved reserved count unresolved stopFailed)
      fun _ => Held t phase count cpu dpc F := by
  refine .bind (reads stable_held) fun state => ?_
  refine .ite (fun _ => ?_) fun _ => .ret stable_held fun _ => id
  refine .bind (M := fun _ => Held t phase count cpu dpc F) ?_ fun native => ?_
  · refine .loop _ stable_held fun i _ _ => ?_
    refine .bind (M := fun _ => Held t phase count cpu dpc F) ?_ fun _ => .ret stable_held fun _ => id
    exact .bind (reads stable_held) fun candidate => .ret stable_held fun _ => id
  refine .ite (fun _ => .ret stable_held fun _ => id) fun _ => ?_
  refine .bind (reads stable_held) fun bound => ?_
  refine .ite (fun _ => .ret stable_held fun _ => id) fun _ => ?_
  exact .bind (stopTargetProcessor_held unresolved) fun answer => .ret stable_held fun _ => id

/-- What the guards in front of the sweep have found out. -/
theorem Held.drained (held : Held t phase count cpu dpc F s)
    (quiet : ∀ i, i < count → Quiet (s.processors i)) : Held t phase count cpu dpc Drained s := by
  obtain ⟨own, vcpuData, processorCount, cpuWork, dpcWork, _⟩ := held
  refine ⟨own, vcpuData, processorCount, cpuWork, dpcWork, fun i => ?_⟩
  by_cases inside : i < count
  · exact (quiet i inside).2
  · exact (own.inv.blank i (.inr (processorCount ▸ Nat.not_lt.mp inside))).dpcQueued

theorem Held.scanned (held : Held t phase count cpu dpc F s) :
    Scanned t phase count cpu dpc F (fun _ => True) s := ⟨held, fun _ _ => trivial⟩

theorem Scanned.held {K : Processor → Prop} (scanned : Scanned t phase count cpu dpc F K s) :
    Held t phase count cpu dpc F s := scanned.1

/-- A stop that has found vCPUs frees them or quarantines the image. -/
theorem stopProcessors_held :
    Upholds t (Held t .stopping count cpu dpc F) (stopProcessors t) fun _ => Apart t := by
  have quarantines {F : Nat → Bool → Bool → Prop} {P : System → Prop}
      (held : ∀ s, P s → Held t .stopping count cpu dpc F s) :
      Upholds t P (quarantineImage t) fun _ => Apart t :=
    quarantineImage_held.pre fun s given => (held s given).toOwn
  refine .pre (P := Scanned t .stopping count cpu dpc F fun _ => True) ?_ fun _ => Held.scanned
  refine .bind (anyVcpu_plain lasting_true) fun parked => ?_
  refine .ite (fun _ => quarantines fun _ => Scanned.held) fun _ => ?_
  refine .bind (hasUnresolvedTargetWork_scanned lasting_true) fun unresolved => ?_
  refine .ite (fun _ => quarantines fun _ given => given.1.held) fun resolved => ?_
  refine .pre (P := Held t .stopping count cpu dpc Drained) ?_ fun s given =>
    given.1.held.drained fun i inside => ((given.2 (by simpa using resolved)).2 i inside).2
  -- no launch can run from here on
  refine .bind (reads_fact (K := fun size => size = count) stable_held fun _ s held =>
    held.processorCount) fun size => .fact fun same => ?_
  subst same
  refine .bind (reads stable_held) fun current => ?_
  refine .bind (stopFromCoordinator_held _) fun others => ?_
  refine .bind (stopReserved_held _ _ _) fun own => ?_
  refine .ite (fun _ => quarantines fun _ => id) fun _ => ?_
  refine .pre (P := Scanned t .stopping size cpu dpc Drained fun _ => True) ?_ fun _ => Held.scanned
  refine .bind (anyVcpu_plain lasting_true) fun parked => ?_
  refine .ite (fun _ => quarantines fun _ => Scanned.held) fun _ => ?_
  refine .bind (anyVcpu_plain lasting_true) fun live => ?_
  refine .ite (fun _ => quarantines fun _ => Scanned.held) fun _ => ?_
  refine .pre (P := Scanned t .stopping size cpu dpc Drained fun q => q.launch = .absent) ?_
    fun s given => ⟨given.1, fun i _ => (given.1.inv.sound i).launch_absent_of_dpc (given.1.slots i)⟩
  refine .bind hasUnresolvedVcpu_scanned fun unresolved => ?_
  refine .ite (fun _ => quarantines fun _ given => given.1.held) fun ended => ?_
  refine .bind (hasUnclearedVmcs_scanned.pre fun s given => given.2 (by simpa using ended))
    fun uncleared => ?_
  refine .ite (fun _ => quarantines fun _ given => given.1.held) fun cleared => ?_
  refine .bind ((hasUnresolvedTargetWork_scanned lasting_cleared).pre fun s given =>
    given.2 (by simpa using cleared)) fun pending => ?_
  refine .ite (fun _ => quarantines fun _ given => given.1.held) fun quiet => ?_
  exact freeProcessors_held.pre fun s given => given.2 (by simpa using quiet)

/-- The call owns the lifecycle and has its vCPUs. -/
structure Stocked (t : Nat) (phase : HvLifecycle) (s : System) : Prop extends Own t phase s where
  vcpuData : s.vcpuData = true

theorem stable_stocked : Stable (Rely t) (Stocked t phase) := by
  rintro s s' ⟨own, there⟩ move
  exact ⟨stable_own s s' own move, ((move own.inv).2.vcpuData own.owner).trans there⟩

theorem Held.stocked (held : Held t phase count cpu dpc F s) : Stocked t phase s :=
  ⟨held.toOwn, held.vcpuData⟩

/-- Whoever may claim the stop: the owner of a start, or anybody. -/
def Claimant (t : Nat) : Bool → System → Prop
  | true => Stocked t .starting
  | false => Apart t

theorem stable_claimant (startRollback : Bool) : Stable (Rely t) (Claimant t startRollback) := by
  cases startRollback
  · exact stable_apart
  · exact stable_stocked

/-- The lifecycle is taken from where nobody owns it, or by its owner. -/
theorem SystemInv.claim (inv : SystemInv s) (owner : s.owner = some t ∨ s.owner = none)
    {desired : HvLifecycle} (owned : desired = .starting ∨ desired = .stopping)
    (before : s.lifecycle ≠ .stopping ∧ s.lifecycle ≠ .quarantined)
    (stocked : desired = .stopping → s.vcpuData = true) :
    Guarantee t s (s.enter t desired) ∧ Own t desired (s.enter t desired) := by
  have mine : (s.enter t desired).owner = some t := by
    rcases owned with rfl | rfl <;> rfl
  have inv' : SystemInv (s.enter t desired) := by
    refine ⟨inv.sound, inv.blank, inv.driver, ?_, ?_, ?_, ?_, inv.cpuWork, inv.dpcWork⟩
    · rw [mine]
      rcases owned with rfl | rfl <;> simp [System.enter]
    all_goals
      intro reached
      rcases owned with rfl | rfl <;> cases reached
  refine ⟨fun _ => ⟨inv', ⟨not_freed rfl fun _ => rfl, fun _ => stocked,
    fun stopping => absurd stopping before.1, fun quarantined => absurd quarantined before.2⟩,
    fun u other => ?_⟩, inv', mine, rfl⟩
  exact .of_other owner (.inl mine) id other

theorem stop_claimed (startRollback : Bool) :
    Upholds t (Claimant t startRollback)
      (compareExchangeLifecycle t .stopping (if startRollback then .starting else .running))
      fun claimed s => if claimed then Stocked t .stopping s else Apart t s := by
  refine .exchange (stable_claimant startRollback) ?_ ?_
  · rintro (_ | _)
    · exact stable_apart
    · exact stable_stocked
  intro _ s claimant
  cases startRollback with
  | true =>
    obtain ⟨⟨inv, owner, lifecycle⟩, vcpuData⟩ := claimant
    simp only [if_true, lifecycle]
    obtain ⟨promise, own⟩ := inv.claim (.inl owner) (.inr rfl) (by simp [lifecycle]) fun _ => vcpuData
    exact ⟨promise, own, vcpuData⟩
  | false =>
    obtain ⟨inv, apart⟩ := claimant
    by_cases running : s.lifecycle = .running
    · simp only [Bool.false_eq_true, if_false, running, if_true, decide_true]
      obtain ⟨promise, own⟩ := inv.claim (t := t) (.inr (inv.owned.mpr (by simp [running])))
        (.inr rfl) (by simp [running]) fun _ => inv.running running
      exact ⟨promise, own, inv.running running⟩
    · simp only [Bool.false_eq_true, if_false, running, decide_false]
      exact ⟨.refl t s, inv, apart⟩

/-- A stop frees everything or quarantines the image, if it stops at all. -/
theorem stopHypervisorInternal_held (startRollback : Bool) :
    Upholds t (Claimant t startRollback) (stopHypervisorInternal t startRollback)
      fun _ => Apart t := by
  refine .bind (stop_claimed startRollback) ?_
  rintro (_ | _)
  · exact .ret stable_apart fun _ => id
  refine .ite nofun fun _ => ?_
  refine .bind (reads_fact (K := fun there => there = true) stable_stocked fun _ s => Stocked.vcpuData)
    fun there => .fact fun some => ?_
  refine .ite (fun none => absurd some (by simpa using none)) fun _ s stocked => ?_
  exact stopProcessors_held (F := fun _ _ _ => True) s
    ⟨stocked.toOwn, stocked.vcpuData, rfl, rfl, rfl, fun _ => trivial⟩

end Knhv.Lifecycle
