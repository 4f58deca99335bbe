import Knhv.Lifecycle.Operations

namespace Knhv.Lifecycle

open Teardown Driver Interleaving

variable {t count : Nat} {phase : HvLifecycle} {cpu dpc : Bool} {F : Nat → Bool → Bool → Prop}
  {s : System}

theorem stable_pinned : Stable (Rely t) fun s => Own t phase s ∧ s.imagePinned = true := by
  rintro s s' ⟨own, pinned⟩ move
  exact ⟨stable_own s s' own move, (move own.inv).2.imagePinned pinned⟩

/-- The owner sets the lifecycle to where nobody owns it. -/
theorem Own.leave (own : Own t phase s) {lifecycle : HvLifecycle}
    (unowned : lifecycle ≠ .starting ∧ lifecycle ≠ .stopping)
    (idle : lifecycle = .idle → s.vcpuData = false)
    (running : lifecycle = .running → s.vcpuData = true)
    (pinned : lifecycle = .quarantined → s.imagePinned = true)
    (ends : phase = .stopping → lifecycle = .idle ∨ lifecycle = .quarantined)
    (stays : phase = .quarantined → lifecycle = .quarantined) :
    Guarantee t s (s.enter t lifecycle) ∧ Apart t (s.enter t lifecycle) := by
  have free : (s.enter t lifecycle).owner = none := by simp [System.enter, unowned]
  have inv' : SystemInv (s.enter t lifecycle) :=
    ⟨own.inv.sound, own.inv.blank, own.inv.driver, ⟨fun _ => unowned, fun _ => free⟩, idle, running, pinned,
      own.inv.cpuWork, own.inv.dpcWork⟩
  refine ⟨fun _ => ⟨inv', ⟨fun i gone => ?_, fun _ after => absurd after unowned.2, fun stopping => ?_,
    fun quarantined => ?_⟩,
    fun u other => .of_other (.inl own.owner) (.inr free) id other⟩, inv', ?_⟩
  · rcases gone with ⟨there, gone⟩ | ⟨there, gone⟩ <;> exact nomatch there.symm.trans gone
  · rcases ends (own.lifecycle.symm.trans stopping) with rfl | rfl
    · exact .inr (.inl ⟨rfl, idle rfl, fun i => (own.inv.blank i (.inl (idle rfl))).memory⟩)
    · exact .inr (.inr ⟨rfl, pinned rfl⟩)
  · exact stays (own.lifecycle.symm.trans quarantined)
  · rw [free]
    exact nofun

/-- A call that pins the image and quarantines it owns nothing any more. -/
theorem quarantineImage_held :
    Upholds t (Own t phase) (quarantineImage t) fun _ => Apart t := by
  refine .bind (M := fun _ s => Own t phase s ∧ s.imagePinned = true) ?_ fun _ => ?_
  · refine .bind (reads_fact (K := fun driver => driver = true) stable_own fun _ s own => own.inv.driver)
      fun driver => .fact fun loaded => ?_
    refine .ite (fun _ => ?_) fun none => absurd loaded none
    refine .write stable_own stable_pinned fun s own => ⟨fun inv => ⟨?_, ?_, ?_⟩, ?_, rfl⟩
    · exact ⟨inv.sound, inv.blank, inv.driver, inv.owned, inv.idle, inv.running, fun _ => rfl,
        inv.cpuWork, inv.dpcWork⟩
    · exact ⟨(Safe.refl s).freed, (Safe.refl s).entered, .inl, id⟩
    · exact fun u other => .of_other (.inl own.owner) (.inl own.owner) (fun _ => rfl) other
    · exact ⟨⟨own.inv.sound, own.inv.blank, own.inv.driver, own.inv.owned, own.inv.idle,
        own.inv.running, fun _ => rfl, own.inv.cpuWork, own.inv.dpcWork⟩, own.owner, own.lifecycle⟩
  · refine .write stable_pinned stable_apart fun s given => ?_
    exact given.1.leave ⟨nofun, nofun⟩ nofun nofun (fun _ => given.2) (fun _ => .inr rfl) fun _ => rfl

/-- No launch DPC is left. -/
def Drained (_ : Nat) (_memory queued : Bool) : Prop := queued = false

/-- The owner holds its vCPUs, and has found `K` of each of them. -/
def Scanned (t : Nat) (phase : HvLifecycle) (count : Nat) (cpu dpc : Bool)
    (F : Nat → Bool → Bool → Prop) (K : Processor → Prop) (s : System) : Prop :=
  Held t phase count cpu dpc F s ∧ ∀ i, i < count → K (s.processors i)

variable {K L : Processor → Prop}

theorem Lasting.and (first : Lasting K) (second : Lasting L) : Lasting fun q => K q ∧ L q :=
  fun q q' both calm => ⟨first q q' both.1 calm, second q q' both.2 calm⟩

theorem Lasting.scanned (lasting : Lasting K) : Stable (Rely t) (Scanned t phase count cpu dpc F K) := by
  rintro s s' ⟨held, all⟩ move
  refine ⟨stable_held s s' held move, fun i inside => ?_⟩
  exact lasting _ _ (all i inside) ((move held.inv).2.processors held.owner i)

/-- A scan that answers no has found out about every vCPU. What else is known stays
known, since it only reads. -/
theorem scan_held {f : Nat → LifecycleM Bool} (before : Lasting K) (after : Lasting fun q => K q ∧ L q)
    (each : ∀ i (P : System → Prop), i < count → Stable (Rely t) P →
      (∀ s, P s → Scanned t phase count cpu dpc F K s) →
      Upholds t P (f i) fun answer s => P s ∧ (answer = false → L (s.processors i))) :
    Upholds t (Scanned t phase count cpu dpc F K) (Script.any f (List.range count)) fun answer s =>
      Scanned t phase count cpu dpc F K s ∧
        (answer = false → Scanned t phase count cpu dpc F (fun q => K q ∧ L q) s) := by
  have kept (i : Nat) : Stable (Rely t) fun s => Held t phase count cpu dpc F s ∧
      K (s.processors i) ∧ L (s.processors i) := after.stable i
  refine .post (.any (D := fun i s => Held t phase count cpu dpc F s ∧ K (s.processors i) ∧
    L (s.processors i)) (T := Scanned t phase count cpu dpc F K) before.scanned kept before.scanned
    fun i member behind => ?_) ?_
  · have inside := List.mem_range.mp member
    refine .post (each i _ inside (before.scanned.and (.all fun j => .imp fun _ => kept j))
      fun _ => And.left) ?_
    rintro (_ | _) s ⟨⟨given, earlier⟩, found⟩
    · exact ⟨given, earlier, given.1, given.2 i inside, found rfl⟩
    · exact given
  · rintro (_ | _) s result
    · exact ⟨result.1, fun _ => ⟨result.1.1, fun i inside => (result.2 i (List.mem_range.mpr inside)).2⟩⟩
    · exact ⟨result, nofun⟩

theorem anyVcpu_scanned {f : Nat → LifecycleM Bool} (before : Lasting K)
    (after : Lasting fun q => K q ∧ L q)
    (each : ∀ i (P : System → Prop), i < count → Stable (Rely t) P →
      (∀ s, P s → Scanned t phase count cpu dpc F K s) →
      Upholds t P (f i) fun answer s => P s ∧ (answer = false → L (s.processors i))) :
    Upholds t (Scanned t phase count cpu dpc F K) (anyVcpu f) fun answer s =>
      Scanned t phase count cpu dpc F K s ∧
        (answer = false → Scanned t phase count cpu dpc F (fun q => K q ∧ L q) s) := by
  refine .bind (reads_fact (K := fun some => some = true) before.scanned fun _ s given =>
    given.1.vcpuData) fun some => .fact fun there => ?_
  refine .ite (fun none => absurd there (by simpa using none)) fun _ => ?_
  refine .bind (reads_fact (K := fun size => size = count) before.scanned fun _ s given =>
    given.1.processorCount) fun size => .fact fun same => ?_
  subst same
  exact scan_held before after each

/-- One read of a vCPU that answers no has found that out. -/
theorem readVcpu_scanned {i : Nat} {f : Processor → Bool} {P : System → Prop} {T : Processor → Prop}
    (stable : Stable (Rely t) P) (after : Stable (Rely t) fun s => P s ∧ T (s.processors i))
    (found : ∀ s, P s → f (s.processors i) = false → T (s.processors i)) :
    Upholds t P (readVcpu i f) fun answer s => P s ∧ (answer = false → T (s.processors i)) := by
  refine .read stable (fun answer => ?_) (fun s _ => .refl t s) fun _ s given => ⟨given, found s given⟩
  rintro s s' ⟨given, known⟩ move
  exact ⟨stable s s' given move, fun no => (after s s' ⟨given, known no⟩ move).2⟩

/-- A processor that nobody launches and whose vCPU has come to its end. -/
structure Ended (q : Processor) : Prop where
  launch : q.launch = .absent
  terminal : isVcpuStopTerminal q.words.state = true

theorem lasting_ended : Lasting Ended := by
  rintro q q' ⟨launch, terminal⟩ calm
  exact ⟨calm.launch launch, by rw [(calm.terminal launch terminal).1]; exact terminal⟩

/-- A processor whose VMCS has been given back, too. -/
structure Cleared (q : Processor) : Prop extends Ended q where
  vmcsCurrent : q.vmcsCurrent = .none

theorem lasting_cleared : Lasting Cleared := by
  rintro q q' ⟨ended, current⟩ calm
  exact ⟨lasting_ended q q' ended calm, (calm.terminal ended.launch ended.terminal).2 current⟩

/-- A guard that the stop does not need for what it frees. -/
theorem anyVcpu_plain {f : Processor → Bool} (before : Lasting K) :
    Upholds t (Scanned t phase count cpu dpc F K) (anyVcpu fun i => readVcpu i f)
      fun _ => Scanned t phase count cpu dpc F K := by
  refine (anyVcpu_scanned (L := fun _ => True) before (before.and lasting_true)
    fun i P _ stable _ => ?_).post fun _ _ => And.left
  exact readVcpu_scanned (T := fun _ => True) stable (stable.and fun _ _ _ _ => trivial)
    fun _ _ _ => trivial

theorem hasUnresolvedVcpu_scanned :
    Upholds t (Scanned t phase count cpu dpc F fun q => q.launch = .absent) hasUnresolvedVcpu
      fun answer s => Scanned t phase count cpu dpc F (fun q => q.launch = .absent) s ∧
        (answer = false → Scanned t phase count cpu dpc F Ended s) := by
  refine .post (anyVcpu_scanned (L := fun q => isVcpuStopTerminal q.words.state = true) lasting_absent
    ?_ fun i P inside stable given => ?_) fun answer s result => ⟨result.1, fun no => ?_⟩
  · exact fun q q' both calm =>
      ⟨calm.launch both.1, (lasting_ended q q' ⟨both.1, both.2⟩ calm).terminal⟩
  · have kept (state : VcpuState) : Stable (Rely t) fun s => P s ∧
        (isVcpuStopTerminal state = true → isVcpuStopTerminal (s.processors i).words.state = true) := by
      rintro s s' ⟨holds, known⟩ move
      have held := given s holds
      refine ⟨stable s s' holds move, fun terminal => ?_⟩
      exact (lasting_ended _ _ ⟨held.2 i inside, known terminal⟩
        ((move held.1.inv).2.processors held.1.owner i)).terminal
    refine .bind (.read stable kept (fun s _ => .refl t s) fun _ s holds => ⟨holds, id⟩) fun state => ?_
    refine .bind (reads (kept state)) fun stage => ?_
    refine .ret (kept state) fun s known => ⟨known.1, fun no => known.2 ?_⟩
    simp only [Bool.or_eq_false_iff, Bool.not_eq_false'] at no
    exact no.2
  · obtain ⟨held, all⟩ := result.2 no
    exact ⟨held, fun i inside => ⟨(all i inside).1, (all i inside).2⟩⟩

theorem hasUnclearedVmcs_scanned :
    Upholds t (Scanned t phase count cpu dpc F Ended) hasUnclearedVmcs
      fun answer s => Scanned t phase count cpu dpc F Ended s ∧
        (answer = false → Scanned t phase count cpu dpc F Cleared s) := by
  have cleared : Lasting fun q => Ended q ∧ q.vmcsCurrent = .none := by
    rintro q q' ⟨ended, current⟩ calm
    obtain ⟨ended, current⟩ := lasting_cleared q q' ⟨ended, current⟩ calm
    exact ⟨ended, current⟩
  refine .post (anyVcpu_scanned (L := fun q => q.vmcsCurrent = .none) lasting_ended cleared
    fun i P inside stable given => ?_) fun answer s result => ⟨result.1, fun no => ?_⟩
  · refine readVcpu_scanned (T := fun q => q.vmcsCurrent = .none) stable ?_
      fun s holds no => by simpa using no
    rintro s s' ⟨holds, current⟩ move
    have held := given s holds
    exact ⟨stable s s' holds move, (cleared _ _ ⟨held.2 i inside, current⟩
      ((move held.1.inv).2.processors held.1.owner i)).2⟩
  · obtain ⟨held, all⟩ := result.2 no
    exact ⟨held, fun i inside => ⟨(all i inside).1, (all i inside).2⟩⟩

/-- Neither a worker nor a launch DPC is left. -/
def Quiet (q : Processor) : Prop := q.work.threadHandle = false ∧ q.dpc.dpcQueued = false

theorem lasting_quiet : Lasting Quiet :=
  fun _ _ quiet calm => ⟨calm.handle.trans quiet.1, calm.dpcQueued.trans quiet.2⟩

theorem hasUnresolvedTargetWork_scanned (before : Lasting K) :
    Upholds t (Scanned t phase count cpu dpc F K) hasUnresolvedTargetWork
      fun answer s => Scanned t phase count cpu dpc F K s ∧
        (answer = false → Scanned t phase count cpu dpc F (fun q => K q ∧ Quiet q) s) := by
  have after := before.and lasting_quiet
  refine .bind (reads_fact (K := fun array => array = cpu) before.scanned fun _ s given =>
    given.1.targetCpuWork) fun array => .fact fun same => ?_
  subst same
  refine .bind (reads_fact (K := fun found => found = dpc) before.scanned fun _ s given =>
    given.1.targetLaunchDpcWork) fun found => .fact fun same => ?_
  subst same
  refine .ite (fun none => ?_) fun _ => ?_
  · simp only [Bool.and_eq_true, Bool.not_eq_true'] at none
    refine .ret before.scanned fun s given => ⟨given, fun _ => ⟨given.1, fun i inside =>
      ⟨given.2 i inside, ?_, ?_⟩⟩⟩
    · exact given.1.inv.cpuWork (given.1.targetCpuWork.trans none.1) i
    · exact given.1.inv.dpcWork (given.1.targetLaunchDpcWork.trans none.2) i
  refine .bind (reads_fact (K := fun size => size = count) before.scanned fun _ s given =>
    given.1.processorCount) fun size => .fact fun same => ?_
  subst same
  refine scan_held before after fun i P inside stable given => ?_
  have kept (K : Processor → Prop) (lasting : Lasting K) :
      Stable (Rely t) fun s => P s ∧ K (s.processors i) := by
    rintro s s' ⟨holds, known⟩ move
    have held := given s holds
    exact ⟨stable s s' holds move, lasting _ _ known
      ((move held.1.inv).2.processors held.1.owner i)⟩
  refine .bind (readVcpu_scanned (T := fun q => q.work.threadHandle = false) stable
    (kept _ (lasting_handle false)) fun s holds no => ?_) fun handle => ?_
  · cases array with
    | false => exact (given s holds).1.inv.cpuWork (given s holds).1.targetCpuWork i
    | true => simpa using no
  refine .ite (fun _ => .pre (.ret stable fun s given => ⟨given, nofun⟩) fun _ => And.left) fun no => ?_
  have closed := kept _ (lasting_handle false)
  refine .pre (.post (readVcpu_scanned (T := fun q => q.dpc.dpcQueued = false) closed ?_ ?_) ?_)
    fun s given => ⟨given.1, given.2 (by simpa using no)⟩
  · rintro s s' ⟨⟨holds, handle⟩, dpc⟩ move
    have quiet := kept _ lasting_quiet s s' ⟨holds, handle, dpc⟩ move
    exact ⟨⟨quiet.1, quiet.2.1⟩, quiet.2.2⟩
  · rintro s ⟨holds, _⟩ no
    cases found with
    | false => exact (given s holds).1.inv.dpcWork (given s holds).1.targetLaunchDpcWork i
    | true => simpa using no
  · exact fun answer s result => ⟨result.1.1, fun no => ⟨result.1.2, result.2 no⟩⟩

end Knhv.Lifecycle
