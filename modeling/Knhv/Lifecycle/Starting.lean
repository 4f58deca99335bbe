import Knhv.Lifecycle.Freeing

namespace Knhv.Lifecycle

open Teardown Driver Interleaving

variable {t count : Nat} {phase : HvLifecycle} {cpu dpc : Bool} {F : Nat → Bool → Bool → Prop}
  {s : System} {q : Processor}

theorem rejectStart_held (status : U32) :
    Upholds t (Bare t .starting) (rejectStart t status) fun _ => Apart t := by
  refine .bind (M := fun _ => Apart t) ?_ fun _ => .ret stable_apart fun _ => id
  refine .exchange stable_bare (fun _ => stable_apart) fun _ s bare => ?_
  rw [if_pos bare.lifecycle]
  exact bare.leave ⟨nofun, nofun⟩ (fun _ => bare.none) nofun nofun nofun nofun

theorem rollBack_held (status : U32) :
    Upholds t (Stocked t .starting) (rollBack t status) fun _ => Apart t :=
  .bind (stopHypervisorInternal_held true) fun _ => .ret stable_apart fun _ => id

theorem rollBackUnlessQuarantined_held (status : U32) :
    Upholds t (Stocked t .starting) (rollBackUnlessQuarantined t status) fun _ => Apart t := by
  refine .bind (stopHypervisorInternal_held true) fun _ => ?_
  refine .bind (reads stable_apart) fun quarantined => ?_
  exact .ite (fun _ => .ret stable_apart fun _ => id) fun _ => .ret stable_apart fun _ => id

theorem quarantineTargetWork_held :
    Upholds t (Own t phase) (quarantineTargetWork t) fun _ => Apart t :=
  .bind quarantineImage_held fun _ => .ret stable_apart fun _ => id

theorem probeAll_held :
    Upholds t (Held t phase count cpu dpc F) (probeAll count) fun _ => Held t phase count cpu dpc F := by
  refine .bind (M := fun _ => Held t phase count cpu dpc F) ?_ fun queued => ?_
  · refine .loop _ stable_held fun i _ p => ?_
    exact .bind (queueTargetOperation_held .probe) fun status => .ret stable_held fun _ => id
  · refine .loop _ stable_held fun i _ p => ?_
    refine .bind (reads stable_held) fun handle => ?_
    refine .ite (fun _ => .ret stable_held fun _ => id) fun _ => ?_
    exact .bind waitTargetOperation_held fun answer => .ret stable_held fun _ => id

theorem launchOthers_held (p : Progress) :
    Upholds t (Held t phase count cpu dpc (Backed count)) (launchOthers count p)
      fun _ => Held t phase count cpu dpc (Backed count) := by
  refine .loop _ stable_held fun i _ p => ?_
  refine .ite (fun _ => .ret stable_held fun _ => id) fun _ => ?_
  refine .bind launchTarget_held fun answer => ?_
  refine .ite (fun _ => .ret stable_held fun _ => id) fun _ => ?_
  refine .bind (reads stable_held) fun state => ?_
  refine .ite (fun _ => .ret stable_held fun _ => id) fun _ => ?_
  refine .bind runRuntimeCanary_held fun canary => ?_
  exact .ite (fun _ => .ret stable_held fun _ => id) fun _ => .ret stable_held fun _ => id

theorem sweepCanaries_held (p : Progress) :
    Upholds t (Held t phase count cpu dpc F) (sweepCanaries count p)
      fun _ => Held t phase count cpu dpc F :=
  .loop _ stable_held fun _ _ _ =>
    .bind runRuntimeCanary_held fun _ => .ret stable_held fun _ => id

theorem countLaunched_held :
    Upholds t (Held t phase count cpu dpc F) (countLaunched count)
      fun _ => Held t phase count cpu dpc F :=
  .loop _ stable_held fun _ _ _ => .bind (reads stable_held) fun _ => .ret stable_held fun _ => id

theorem rolledBack (status : U32) :
    Upholds t (Held t .starting count cpu dpc F) (rollBack t status) fun _ => Apart t :=
  (rollBack_held status).pre fun _ => Held.stocked

theorem quarantined :
    Upholds t (Held t phase count cpu dpc F) (quarantineTargetWork t) fun _ => Apart t :=
  quarantineTargetWork_held.pre fun _ => Held.toOwn

theorem finishStart_held (p : Progress) :
    Upholds t (Held t .starting count cpu dpc F) (finishStart t count p) fun _ => Apart t := by
  have unlessQuarantined (status : U32) := (rollBackUnlessQuarantined_held (t := t) status).pre
    fun s (held : Held t .starting count cpu dpc F s) => held.stocked
  refine .ite (fun _ => unlessQuarantined statusNotSupported) fun _ => ?_
  refine .bind countLaunched_held fun ok => ?_
  refine .ite (fun _ => rolledBack statusNotSupported) fun _ => ?_
  refine .bind (reads stable_held) fun active => ?_
  refine .ite (fun _ => unlessQuarantined statusDeviceConfigurationError) fun _ => ?_
  refine .bind (M := fun _ => Apart t) ?_ fun _ => .ret stable_apart fun _ => id
  exact .write stable_held stable_apart fun s held =>
    held.leave ⟨nofun, nofun⟩ nofun (fun _ => held.vcpuData) nofun nofun nofun

theorem launchCoordinator_held (p : Progress) :
    Upholds t (Held t .starting count cpu dpc (Backed count)) (launchCoordinator t count p)
      fun _ => Apart t := by
  refine .bind (M := fun _ => Held t .starting count cpu dpc (Backed count)) ?_ fun ready => ?_
  · refine .loop _ stable_held fun i _ _ => ?_
    refine .bind (M := fun _ => Held t .starting count cpu dpc (Backed count)) ?_
      fun _ => .ret stable_held fun _ => id
    exact .bind (reads stable_held) fun state => .bind (reads stable_held) fun returned =>
      .ret stable_held fun _ => id
  refine .ite (fun _ => rolledBack _) fun _ => ?_
  refine .bind (reads stable_held) fun bound => ?_
  refine .ite (fun _ => rolledBack _) fun _ => ?_
  refine .bind launchTarget_held fun answer => ?_
  refine .bind (reads stable_held) fun state => ?_
  refine .ite (fun _ => quarantined) fun _ => ?_
  refine .ite (fun _ => rolledBack _) fun _ => ?_
  refine .bind runRuntimeCanary_held fun canary => ?_
  refine .ite (fun _ => quarantined) fun _ => ?_
  refine .ite (fun _ => rolledBack _) fun _ => ?_
  refine .bind (sweepCanaries_held _) fun swept => ?_
  refine .ite (fun _ => quarantined) fun _ => ?_
  exact .ite (fun _ => rolledBack _) fun _ => finishStart_held swept

theorem bringUp_held :
    Upholds t (Held t .starting count cpu dpc (Backed count)) (bringUp t count)
      fun _ => Apart t := by
  refine .ite (fun _ => rolledBack _) fun _ => ?_
  refine .bind (reads stable_held) fun bound => ?_
  refine .ite (fun _ => rolledBack _) fun _ => ?_
  refine .bind probeAll_held fun probed => ?_
  refine .ite (fun _ => quarantined) fun _ => ?_
  refine .ite (fun _ => rolledBack _) fun _ => ?_
  refine .bind (launchOthers_held probed) fun staged => ?_
  refine .ite (fun _ => quarantined) fun _ => ?_
  exact .ite (fun _ => rolledBack _) fun _ => launchCoordinator_held staged

/-- A start that has its vCPUs, on which nothing runs yet. -/
structure Allocated (t count : Nat) (s : System) : Prop extends Stocked t .starting s where
  processorCount : s.processorCount = count
  quiet : ∀ i, Quiet (s.processors i)

theorem stable_allocated : Stable (Rely t) (Allocated t count) := by
  rintro s s' ⟨stocked, processorCount, quiet⟩ move
  obtain ⟨inv', kept⟩ := move stocked.inv
  exact ⟨stable_stocked s s' stocked move, (kept.processorCount stocked.owner).trans processorCount,
    fun i => lasting_quiet _ _ (quiet i) (kept.processors stocked.owner i)⟩

/-- The vCPU array is allocated and zeroed. -/
theorem Bare.allocate (bare : Bare t .starting s) :
    Guarantee t s { s with vcpuData := true, processors := fun i => (s.processors i).zeroVcpu } ∧
      Allocated t s.processorCount
        { s with vcpuData := true, processors := fun i => (s.processors i).zeroVcpu } := by
  have blank (i : Nat) : Blank (s.processors i) := bare.inv.blank i (.inl bare.none)
  have inv' : SystemInv
      { s with vcpuData := true, processors := fun i => (s.processors i).zeroVcpu } :=
    ⟨fun i => (bare.inv.sound i).zeroVcpu (blank i), fun i _ => (blank i).zeroVcpu, bare.inv.driver,
      bare.inv.owned, fun idle => (nomatch bare.lifecycle.symm.trans idle), fun _ => rfl, bare.inv.pinned,
      fun _ i => (blank i).handle, fun _ i => (blank i).dpcQueued⟩
  obtain ⟨promise, own⟩ := bare.write inv' rfl rfl rfl fun i gone => absurd gone
    (not_or.mpr ⟨fun memory => (nomatch (blank i).memory.symm.trans memory.1),
      fun array => (nomatch bare.none.symm.trans array.1)⟩)
  exact ⟨promise, ⟨own, rfl⟩, rfl, fun i => ⟨(blank i).handle, (blank i).dpcQueued⟩⟩

/-- The array of the target work is allocated and zeroed. -/
theorem Allocated.allocateWork (allocated : Allocated t count s) :
    Guarantee t s { s with targetCpuWork := true, processors := fun i => (s.processors i).zeroWork } ∧
      Allocated t count
        { s with targetCpuWork := true, processors := fun i => (s.processors i).zeroWork } := by
  obtain ⟨⟨own, vcpuData⟩, processorCount, quiet⟩ := allocated
  have inv' : SystemInv
      { s with targetCpuWork := true, processors := fun i => (s.processors i).zeroWork } := by
    refine ⟨fun i => (own.inv.sound i).setWork fun present => ?_, fun i given => ?_, own.inv.driver,
      own.inv.owned, own.inv.idle, own.inv.running, own.inv.pinned, nofun, fun none i => own.inv.dpcWork none i⟩
    · exact absurd ((own.inv.sound i).worker_absent_of_handle (quiet i).1) present
    · obtain ⟨memory, _, queued, current, vmxe, halted⟩ := own.inv.blank i given
      exact ⟨memory, rfl, queued, current, vmxe, halted⟩
  obtain ⟨promise, own'⟩ := own.write inv' rfl rfl rfl (not_freed rfl fun _ => rfl)
  exact ⟨promise, ⟨own', vcpuData⟩, processorCount, fun i => ⟨rfl, (quiet i).2⟩⟩

/-- The array of the launch DPCs is allocated and zeroed. -/
theorem Allocated.allocateDpc (allocated : Allocated t count s) :
    Guarantee t s
        { s with targetLaunchDpcWork := true, processors := fun i => (s.processors i).zeroDpc } ∧
      Allocated t count
        { s with targetLaunchDpcWork := true, processors := fun i => (s.processors i).zeroDpc } := by
  obtain ⟨⟨own, vcpuData⟩, processorCount, quiet⟩ := allocated
  have inv' : SystemInv
      { s with targetLaunchDpcWork := true, processors := fun i => (s.processors i).zeroDpc } := by
    refine ⟨fun i => (own.inv.sound i).setDpc fun present => ?_, fun i given => ?_, own.inv.driver,
      own.inv.owned, own.inv.idle, own.inv.running, own.inv.pinned, fun none i => own.inv.cpuWork none i, nofun⟩
    · exact absurd ((own.inv.sound i).launch_absent_of_dpc (quiet i).2) present
    · obtain ⟨memory, handle, _, current, vmxe, halted⟩ := own.inv.blank i given
      exact ⟨memory, handle, rfl, current, vmxe, halted⟩
  obtain ⟨promise, own'⟩ := own.write inv' rfl rfl rfl (not_freed rfl fun _ => rfl)
  exact ⟨promise, ⟨own', vcpuData⟩, processorCount, fun i => ⟨(quiet i).1, rfl⟩⟩

/-- The loop that gives every processor its memory. -/
theorem allocateProcessors_held :
    Upholds t (Held t phase count cpu dpc fun _ _ _ => True) (allocateProcessors count)
      fun failed s => if failed then Held t phase count cpu dpc (fun _ _ _ => True) s else
        Held t phase count cpu dpc (Backed count) s := by
  have given (i : Nat) : Stable (Rely t) fun s =>
      Held t phase count cpu dpc (fun _ _ _ => True) s ∧ (s.processors i).memory = true :=
    Lasting.stable (K := fun q => q.memory = true) (fun _ _ memory calm => calm.memory.trans memory) i
  have plain : Stable (Rely t) (Held t phase count cpu dpc fun _ _ _ => True) := stable_held
  refine .post (.any (D := fun i s => Held t phase count cpu dpc (fun _ _ _ => True) s ∧
    (s.processors i).memory = true) (T := Held t phase count cpu dpc fun _ _ _ => True)
    stable_held given stable_held fun i member behind => ?_) ?_
  · have earlier : Stable (Rely t) fun s => ∀ j ∈ behind,
        Held t phase count cpu dpc (fun _ _ _ => True) s ∧ (s.processors j).memory = true :=
      .all fun j => .imp fun _ => given j
    have done := plain.and (earlier.and (given i))
    refine .bind (M := fun _ s => Held t phase count cpu dpc (fun _ _ _ => True) s ∧
      (∀ j ∈ behind, Held t phase count cpu dpc (fun _ _ _ => True) s ∧
        (s.processors j).memory = true) ∧
      Held t phase count cpu dpc (fun _ _ _ => True) s ∧ (s.processors i).memory = true) ?_ fun _ => ?_
    · refine .exchange (plain.and earlier) (fun _ => done) ?_
      rintro _ s ⟨held, before⟩
      obtain ⟨promise, held'⟩ := held.put (List.mem_range.mp member)
        ⟨(held.inv.sound i).setMemory fun _ => rfl, fun _ => rfl, trivial, .inl, .inl⟩
      refine ⟨promise, held', fun j inside => ⟨held', ?_⟩, held', by rw [System.put_self]⟩
      exact System.put_all (P := fun j q => j ∈ behind → q.memory = true) (fun _ => rfl)
        (fun j _ inside => (before j inside).2) j inside
    · refine .bind (reads done) fun complete => .ret done fun s result => ?_
      cases complete
      · exact result.1
      · exact result
  · rintro (_ | _) s result
    · obtain ⟨⟨own, vcpuData, processorCount, cpuWork, dpcWork, _⟩, all⟩ := result
      exact ⟨own, vcpuData, processorCount, cpuWork, dpcWork,
        fun i inside => (all i (List.mem_range.mpr inside)).2⟩
    · exact result

theorem startProcessors_held :
    Upholds t (Allocated t count) (startProcessors t count) fun _ => Apart t := by
  have rolls (status : U32) : Upholds t (Allocated t count) (rollBack t status) fun _ => Apart t :=
    (rollBack_held status).pre fun _ allocated => allocated.toStocked
  refine .bind (reads stable_allocated) fun work => ?_
  refine .ite (fun _ => rolls _) fun _ => ?_
  have stableWork : Stable (Rely t) fun s => Allocated t count s ∧ s.targetCpuWork = true := by
    rintro s s' ⟨allocated, array⟩ move
    exact ⟨stable_allocated s s' allocated move,
      ((move allocated.inv).2.cpuWork allocated.owner).trans array⟩
  refine .bind (M := fun _ s => Allocated t count s ∧ s.targetCpuWork = true) ?_ fun _ => ?_
  · refine .write stable_allocated stableWork fun s allocated => ?_
    exact ⟨allocated.allocateWork.1, allocated.allocateWork.2, rfl⟩
  refine .bind (reads stableWork) fun dpcs => ?_
  refine .ite (fun _ => (rolls _).pre fun _ => And.left) fun _ => ?_
  refine .bind (M := fun _ => Held t .starting count true true fun _ _ _ => True) ?_ fun _ => ?_
  · refine .write stableWork stable_held fun s given => ?_
    obtain ⟨promise, ⟨own, vcpuData⟩, processorCount, _⟩ := given.1.allocateDpc
    exact ⟨promise, own, vcpuData, processorCount, given.2, rfl, fun _ => trivial⟩
  refine .bind allocateProcessors_held ?_
  rintro (_ | _)
  · exact .ite nofun fun _ => bringUp_held
  · exact .ite (fun _ => rolledBack _) fun none => absurd rfl none

theorem startClaimed_held :
    Upholds t (Bare t .starting) (startClaimed t) fun _ => Apart t := by
  refine .bind (reads stable_bare) fun capable => ?_
  refine .ite (fun _ => rejectStart_held _) fun _ => ?_
  refine .bind (reads stable_bare) fun count => ?_
  have counted : Stable (Rely t) fun s => Bare t .starting s ∧ s.processorCount = count := by
    rintro s s' ⟨bare, same⟩ move
    exact ⟨stable_bare s s' bare move, ((move bare.inv).2.processorCount bare.owner).trans same⟩
  have rejects (status : U32) : Upholds t (fun s => Bare t .starting s ∧ s.processorCount = count)
      (rejectStart t status) fun _ => Apart t := (rejectStart_held status).pre fun _ => And.left
  refine .bind (M := fun _ s => Bare t .starting s ∧ s.processorCount = count) ?_ fun _ => ?_
  · refine .write stable_bare counted fun s bare => ?_
    exact ⟨(bare.setCount count).1, (bare.setCount count).2, rfl⟩
  refine .ite (fun _ => rejects _) fun _ => ?_
  refine .bind (reads counted) fun blob => ?_
  refine .ite (fun _ => rejects _) fun _ => ?_
  refine .bind (reads counted) fun vcpus => ?_
  refine .ite (fun _ => rejects _) fun _ => ?_
  refine .bind (M := fun _ => Allocated t count) ?_ fun _ => startProcessors_held
  refine .write counted stable_allocated ?_
  rintro s ⟨bare, rfl⟩
  exact bare.allocate

theorem startHypervisor_held : Upholds t (Apart t) (startHypervisor t) fun _ => Apart t := by
  have busy : Upholds t (Apart t) (pure statusDeviceBusy : LifecycleM U32) fun _ => Apart t :=
    .ret stable_apart fun _ => id
  refine .bind (reads stable_apart) fun pinned => .ite (fun _ => busy) fun _ => ?_
  refine .bind (reads stable_apart) fun vcpus => .ite (fun _ => busy) fun _ => ?_
  refine .bind (reads stable_apart) fun work => .ite (fun _ => busy) fun _ => ?_
  refine .bind (reads stable_apart) fun dpcs => .ite (fun _ => busy) fun _ => ?_
  refine .bind (M := fun claimed s => if claimed then Bare t .starting s else Apart t s) ?_ ?_
  · refine .exchange stable_apart ?_ fun _ s given => ?_
    · rintro (_ | _)
      · exact stable_apart
      · exact stable_bare
    · by_cases idle : s.lifecycle = .idle
      · simp only [idle, if_true, decide_true]
        obtain ⟨promise, own⟩ := given.inv.claim (t := t) (.inr (given.inv.owned.mpr (by simp [idle])))
          (.inl rfl) (by simp [idle]) nofun
        exact ⟨promise, own, given.inv.idle idle⟩
      · simp only [idle, if_false, decide_false, Bool.false_eq_true]
        exact ⟨.refl t s, given⟩
  · rintro (_ | _)
    · exact .ite (fun _ => busy) fun owned => absurd rfl owned
    · exact .ite nofun fun _ => startClaimed_held

/-- Every lifecycle call keeps its promise, and owns nothing when it has returned. -/
theorem LifecycleCall.script_held (call : LifecycleCall) :
    Upholds t (Apart t) (call.script t) fun _ => Apart t := by
  cases call with
  | startHypervisor => exact .bind startHypervisor_held fun _ => .ret stable_apart fun _ => id
  | stopHypervisor => exact stopHypervisorInternal_held false

end Knhv.Lifecycle
