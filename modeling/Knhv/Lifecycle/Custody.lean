import Knhv.Lifecycle.Coordinator

namespace Knhv.Lifecycle

open Teardown Driver Interleaving

namespace Sound

variable {q : Processor} (sound : Sound q)

include sound

/-- Only a worker that is stopping the vCPU has a caller on it. -/
theorem unsolicited (away : ∀ caller, q.worker ≠ .stopping caller) (a : Nat) :
    isUnsolicited (q.points a) = true :=
  (sound.callers a).resolve_right fun mine => away a mine.1

/-- A worker that is not in the callback comes or goes. -/
theorem rework {worker : WorkerPoint} {work : TargetCpuWork}
    (away : ∀ caller, q.worker ≠ .stopping caller)
    (handle : worker ≠ .absent → work.threadHandle = true) :
    Sound { q with worker := worker, work := work } := by
  refine ⟨sound.operation, sound.owned, sound.guest, sound.root, sound.native, fun halted => ?_,
    sound.fresh, fun early => ?_, sound.prepared.congr rfl rfl rfl, fun a => .inl ?_, handle,
    sound.queued, sound.memory⟩
  · obtain ⟨state, outside, released⟩ := sound.halted halted
    exact ⟨state, outside, released⟩
  · obtain ⟨inactive, noGuest, outside⟩ := sound.untouched early
    exact ⟨inactive, noGuest, outside⟩
  · exact sound.unsolicited away a

theorem setWork {work : TargetCpuWork} (handle : q.worker ≠ .absent → work.threadHandle = true) :
    Sound { q with work := work } := by
  refine ⟨sound.operation, sound.owned, sound.guest, sound.root, sound.native, fun halted => ?_,
    sound.fresh, fun early => ?_, sound.prepared.congr rfl rfl rfl, sound.callers, handle,
    sound.queued, sound.memory⟩
  · obtain ⟨state, outside, released⟩ := sound.halted halted
    exact ⟨state, outside, released⟩
  · obtain ⟨inactive, noGuest, outside⟩ := sound.untouched early
    exact ⟨inactive, noGuest, outside⟩

/-- A launch that does not run comes or goes. -/
theorem relaunch {launch : LaunchPoint} {dpc : TargetLaunchDpcWork}
    (waiting : launch.phase = .waiting)
    (queued : launch ≠ .absent → dpc.dpcQueued = true)
    (memory : launch ≠ .absent → q.memory = true) :
    Sound { q with launch := launch, dpc := dpc } := by
  have notPreparing : ¬launch.isPreparing = true := by
    rw [LaunchPoint.isPreparing, waiting]
    exact nofun
  refine ⟨sound.operation, sound.owned, sound.guest, sound.root, sound.native, fun halted => ?_,
    sound.fresh, fun early => ?_, .of_released notPreparing ?_, sound.callers, sound.handle, queued,
    fun needed => needed.elim memory fun on => sound.memory (.inr on)⟩
  · obtain ⟨state, outside, _⟩ := sound.halted halted
    exact ⟨state, outside, by simpa using notPreparing⟩
  · obtain ⟨inactive, noGuest, outside⟩ :=
      sound.untouched (.inl (early.resolve_right notPreparing))
    exact ⟨inactive, noGuest, outside⟩
  · rw [waiting]
    exact nofun

theorem setDpc {dpc : TargetLaunchDpcWork} (queued : q.launch ≠ .absent → dpc.dpcQueued = true) :
    Sound { q with dpc := dpc } := by
  refine ⟨sound.operation, sound.owned, sound.guest, sound.root, sound.native, fun halted => ?_,
    sound.fresh, fun early => ?_, sound.prepared.congr rfl rfl rfl, sound.callers, sound.handle,
    queued, sound.memory⟩
  · obtain ⟨state, outside, released⟩ := sound.halted halted
    exact ⟨state, outside, released⟩
  · obtain ⟨inactive, noGuest, outside⟩ := sound.untouched early
    exact ⟨inactive, noGuest, outside⟩

theorem setMemory {memory : Bool}
    (needed : q.launch ≠ .absent ∨ q.vmxOperation = true → memory = true) :
    Sound { q with memory := memory } := by
  refine ⟨sound.operation, sound.owned, sound.guest, sound.root, sound.native, fun halted => ?_,
    sound.fresh, fun early => ?_, sound.prepared.congr rfl rfl rfl, sound.callers, sound.handle,
    sound.queued, needed⟩
  · obtain ⟨state, outside, released⟩ := sound.halted halted
    exact ⟨state, outside, released⟩
  · obtain ⟨inactive, noGuest, outside⟩ := sound.untouched early
    exact ⟨inactive, noGuest, outside⟩

theorem outside_of_blank (blank : Blank q) (a : Nat) : isOutside (q.points a) = true := by
  have away : ∀ caller, q.worker ≠ .stopping caller := by
    rw [sound.worker_absent blank]
    exact fun caller => nofun
  have unsolicited := sound.unsolicited away a
  have notRoot := sound.not_inRoot_of_noGuest (sound.noGuest blank) a
  revert unsolicited notRoot
  cases q.points a <;> simp +contextual [isUnsolicited, Point.inRoot, isOutside]

/-- A vCPU that is zeroed on a blank processor is a fresh one. -/
theorem zeroVcpu (blank : Blank q) : Sound q.zeroVcpu := by
  have off := sound.vmxOperation_off blank
  have noGuest := sound.noGuest blank
  refine ⟨fun on => ?_, fun on => ?_, fun on => ?_, fun a inside => ?_, fun a native => ?_,
    fun halted => ?_, fun _ => blank.vmxe, fun _ => ?_, ?_, sound.callers, sound.handle,
    sound.queued, sound.memory⟩
  · exact absurd (off.symm.trans on) nofun
  · exact absurd (blank.vmxe.symm.trans on) nofun
  · exact absurd (noGuest.symm.trans on) nofun
  · exact absurd inside (sound.not_inRoot_of_noGuest noGuest a)
  · exact blank.vmxe
  · exact absurd (blank.halted.symm.trans halted) nofun
  · exact ⟨nofun, noGuest, sound.outside_of_blank blank⟩
  · refine .of_released ?_ fun claimed => ?_
    · rw [show q.zeroVcpu.launch = .absent from sound.launch_absent blank]
      exact nofun
    · rw [show q.zeroVcpu.launch = .absent from sound.launch_absent blank] at claimed
      cases claimed

end Sound

theorem Blank.zeroVcpu {q : Processor} (blank : Blank q) : Blank q.zeroVcpu :=
  ⟨blank.memory, blank.handle, blank.dpcQueued, rfl, blank.vmxe, blank.halted⟩

/-- Nothing on the processor can still use its VMX memory. -/
structure Dead (q : Processor) : Prop where
  vmxOperation : q.vmxOperation = false
  vmcsCurrent : q.vmcsCurrent = .none
  worker : q.worker = .absent
  launch : q.launch = .absent

/-- What holds of the driver at any time. -/
structure SystemInv (s : System) : Prop where
  sound : ∀ i, Sound (s.processors i)
  blank : ∀ i, s.vcpuData = false ∨ s.processorCount ≤ i → Blank (s.processors i)
  driver : s.driverObject = true
  owned : s.owner = none ↔ s.lifecycle ≠ .starting ∧ s.lifecycle ≠ .stopping
  idle : s.lifecycle = .idle → s.vcpuData = false
  running : s.lifecycle = .running → s.vcpuData = true
  pinned : s.lifecycle = .quarantined → s.imagePinned = true
  cpuWork : s.targetCpuWork = false → ∀ i, (s.processors i).work.threadHandle = false
  dpcWork : s.targetLaunchDpcWork = false → ∀ i, (s.processors i).dpc.dpcQueued = false

/-- What nobody takes from the call `t`: its ownership, while it has that what it
owns, and the pinned image. -/
structure Kept (t : Nat) (s s' : System) : Prop where
  owner : s.owner = some t ↔ s'.owner = some t
  lifecycle : s.owner = some t → s'.lifecycle = s.lifecycle
  vcpuData : s.owner = some t → s'.vcpuData = s.vcpuData
  cpuWork : s.owner = some t → s'.targetCpuWork = s.targetCpuWork
  dpcWork : s.owner = some t → s'.targetLaunchDpcWork = s.targetLaunchDpcWork
  processorCount : s.owner = some t → s'.processorCount = s.processorCount
  imagePinned : s.imagePinned = true → s'.imagePinned = true
  processors : s.owner = some t → ∀ i, Calm (s.processors i) (s'.processors i)

def Rely (t : Nat) (s s' : System) : Prop := SystemInv s → SystemInv s' ∧ Kept t s s'

/-- What no step breaks: VMX memory goes away only under dead processors, a stop
begins with vCPUs and ends with nothing left or in quarantine, and quarantine has
no end. -/
structure Safe (s s' : System) : Prop where
  freed : ∀ i, (s.processors i).memory = true ∧ (s'.processors i).memory = false ∨
      s.vcpuData = true ∧ s'.vcpuData = false →
    s.lifecycle = .stopping ∧ ∀ j, Dead (s.processors j)
  entered : s.lifecycle ≠ .stopping → s'.lifecycle = .stopping → s'.vcpuData = true
  stopping : s.lifecycle = .stopping → s'.lifecycle = .stopping ∨
    s'.lifecycle = .idle ∧ s'.vcpuData = false ∧ (∀ i, (s'.processors i).memory = false) ∨
    s'.lifecycle = .quarantined ∧ s'.imagePinned = true
  quarantined : s.lifecycle = .quarantined → s'.lifecycle = .quarantined

def Guarantee (t : Nat) (s s' : System) : Prop :=
  SystemInv s → SystemInv s' ∧ Safe s s' ∧ ∀ u, u ≠ t → Kept u s s'

variable {t u : Nat} {s s' : System}

theorem Blank.dead {q : Processor} (blank : Blank q) (sound : Sound q) : Dead q :=
  ⟨sound.vmxOperation_off blank, blank.vmcsCurrent, sound.worker_absent blank,
    sound.launch_absent blank⟩

theorem Safe.refl (s : System) : Safe s s := by
  refine ⟨fun i gone => ?_, fun before after => absurd after before, .inl, id⟩
  rcases gone with ⟨there, gone⟩ | ⟨there, gone⟩ <;> exact nomatch there.symm.trans gone

theorem Kept.refl (t : Nat) (s : System) : Kept t s s :=
  ⟨.rfl, fun _ => rfl, fun _ => rfl, fun _ => rfl, fun _ => rfl, fun _ => rfl, id,
    fun _ _ => .refl _⟩

theorem Guarantee.refl (t : Nat) (s : System) : Guarantee t s s :=
  fun inv => ⟨inv, .refl s, fun u _ => .refl u s⟩

/-- What the owner does, and what takes or gives up the ownership, nobody else
relies on. -/
theorem Kept.of_other (before : s.owner = some t ∨ s.owner = none)
    (after : s'.owner = some t ∨ s'.owner = none)
    (pinned : s.imagePinned = true → s'.imagePinned = true) (other : u ≠ t) : Kept u s s' := by
  have notBefore : s.owner ≠ some u := by
    rcases before with mine | free
    · rw [mine]
      exact fun same => other (Option.some.inj same).symm
    · rw [free]
      exact nofun
  have notAfter : s'.owner ≠ some u := by
    rcases after with mine | free
    · rw [mine]
      exact fun same => other (Option.some.inj same).symm
    · rw [free]
      exact nofun
  exact ⟨⟨fun same => absurd same notBefore, fun same => absurd same notAfter⟩,
    fun same => absurd same notBefore, fun same => absurd same notBefore,
    fun same => absurd same notBefore, fun same => absurd same notBefore,
    fun same => absurd same notBefore, pinned, fun same => absurd same notBefore⟩

@[simp] theorem System.put_self (s : System) (i : Nat) (q : Processor) :
    (s.put i q).processors i = q := Function.update_self ..

theorem System.put_of_ne {i j : Nat} (other : j ≠ i) (s : System) (q : Processor) :
    (s.put i q).processors j = s.processors j := Function.update_of_ne other ..

/-- A statement about every processor holds after a write to one. -/
theorem System.put_all {P : Nat → Processor → Prop} {i : Nat} {q : Processor} (own : P i q)
    (others : ∀ j, j ≠ i → P j (s.processors j)) (j : Nat) : P j ((s.put i q).processors j) := by
  by_cases mine : j = i
  · subst mine
    rwa [System.put_self]
  · rw [System.put_of_ne mine]
    exact others j mine

theorem SystemInv.calm (inv : SystemInv s) (a : Nat × ProcessorAction) (i : Nat) :
    Calm (s.processors i) ((s.move a).processors i) := by
  by_cases mine : i = a.1
  · subst mine
    rw [System.move, System.put_self]
    exact (inv.sound a.1).calm a.2
  · rw [System.move, System.put_of_ne mine]
    exact .refl _

/-- What runs on the processors keeps the driver's invariant. -/
theorem SystemInv.move (inv : SystemInv s) (a : Nat × ProcessorAction) : SystemInv (s.move a) := by
  refine ⟨?_, ?_, inv.driver, inv.owned, inv.idle, inv.running, inv.pinned, fun none i => ?_, fun none i => ?_⟩
  · exact System.put_all (P := fun _ q => Sound q) ((inv.sound a.1).step a.2) fun j _ => inv.sound j
  · intro j given
    refine System.put_all (P := fun j q => s.vcpuData = false ∨ s.processorCount ≤ j → Blank q)
      (fun given => ?_) (fun j _ => inv.blank j) j given
    exact (inv.sound a.1).blank_step (inv.blank a.1 given) a.2
  · exact (inv.calm a i).handle.trans (inv.cpuWork none i)
  · exact (inv.calm a i).dpcQueued.trans (inv.dpcWork none i)

theorem SystemInv.safe_move (inv : SystemInv s) (a : Nat × ProcessorAction) : Safe s (s.move a) := by
  refine ⟨fun i gone => ?_, fun before after => absurd after before, .inl, id⟩
  rcases gone with ⟨there, gone⟩ | ⟨there, gone⟩
  · rw [(inv.calm a i).memory, there] at gone
    cases gone
  · exact nomatch there.symm.trans gone

theorem rely_move (t : Nat) (a : Nat × ProcessorAction) (s : System) : Rely t s (s.move a) :=
  fun inv => ⟨inv.move a, .rfl, fun _ => rfl, fun _ => rfl, fun _ => rfl, fun _ => rfl, fun _ => rfl,
    id, fun _ => inv.calm a⟩

theorem guarantee_rely (other : t ≠ u) (s s' : System) (promise : Guarantee u s s') :
    Rely t s s' :=
  fun inv => ⟨(promise inv).1, (promise inv).2.2 t other⟩

/-- The call does not own the lifecycle. -/
structure Apart (t : Nat) (s : System) : Prop where
  inv : SystemInv s
  apart : s.owner ≠ some t

/-- The call owns the lifecycle, in a phase of it. -/
structure Own (t : Nat) (phase : HvLifecycle) (s : System) : Prop where
  inv : SystemInv s
  owner : s.owner = some t
  lifecycle : s.lifecycle = phase

/-- The owner has its vCPUs and knows which arrays there are, and `F` holds of the
memory and of the launch DPC of every processor, which nobody else changes. -/
structure Held (t : Nat) (phase : HvLifecycle) (count : Nat) (cpu dpc : Bool)
    (F : Nat → Bool → Bool → Prop) (s : System) : Prop extends Own t phase s where
  vcpuData : s.vcpuData = true
  processorCount : s.processorCount = count
  targetCpuWork : s.targetCpuWork = cpu
  targetLaunchDpcWork : s.targetLaunchDpcWork = dpc
  slots : ∀ i, F i (s.processors i).memory (s.processors i).dpc.dpcQueued

/-- What the owner may do to one processor. -/
structure Access (cpu dpc : Bool) (F : Nat → Bool → Bool → Prop) (i : Nat) (q q' : Processor) :
    Prop where
  sound : Sound q'
  memory : q.memory = true → q'.memory = true
  slot : F i q'.memory q'.dpc.dpcQueued
  handle : q'.work.threadHandle = true → q.work.threadHandle = true ∨ cpu = true
  queued : q'.dpc.dpcQueued = true → q.dpc.dpcQueued = true ∨ dpc = true

variable {phase : HvLifecycle} {count : Nat} {cpu dpc : Bool} {F : Nat → Bool → Bool → Prop}

theorem stable_apart : Stable (Rely t) (Apart t) := by
  rintro s s' ⟨inv, apart⟩ move
  obtain ⟨inv', kept⟩ := move inv
  exact ⟨inv', fun mine => apart (kept.owner.mpr mine)⟩

theorem stable_own : Stable (Rely t) (Own t phase) := by
  rintro s s' ⟨inv, owner, lifecycle⟩ move
  obtain ⟨inv', kept⟩ := move inv
  exact ⟨inv', kept.owner.mp owner, (kept.lifecycle owner).trans lifecycle⟩

theorem stable_held : Stable (Rely t) (Held t phase count cpu dpc F) := by
  rintro s s' ⟨own, vcpuData, processorCount, cpuWork, dpcWork, slots⟩ move
  obtain ⟨inv', kept⟩ := move own.inv
  refine ⟨stable_own s s' own move, (kept.vcpuData own.owner).trans vcpuData,
    (kept.processorCount own.owner).trans processorCount, (kept.cpuWork own.owner).trans cpuWork,
    (kept.dpcWork own.owner).trans dpcWork, fun i => ?_⟩
  rw [(kept.processors own.owner i).memory, (kept.processors own.owner i).dpcQueued]
  exact slots i

/-- A write of the owner to one processor. -/
theorem Held.put {i : Nat} {q : Processor} (held : Held t phase count cpu dpc F s)
    (inside : i < count) (access : Access cpu dpc F i (s.processors i) q) :
    Guarantee t s (s.put i q) ∧ Held t phase count cpu dpc F (s.put i q) := by
  obtain ⟨⟨inv, owner, lifecycle⟩, vcpuData, processorCount, cpuWork, dpcWork, slots⟩ := held
  have inv' : SystemInv (s.put i q) := by
    refine ⟨?_, fun j given => ?_, inv.driver, inv.owned, inv.idle, inv.running, inv.pinned, fun none => ?_,
      fun none => ?_⟩
    · exact System.put_all (P := fun _ q => Sound q) access.sound fun j _ => inv.sound j
    · have other : j ≠ i := by
        rintro rfl
        rcases given with none | beyond
        · exact nomatch vcpuData.symm.trans none
        · exact absurd inside (Nat.not_lt.mpr (processorCount ▸ beyond))
      rw [System.put_of_ne other]
      exact inv.blank j given
    · refine System.put_all (P := fun _ q => q.work.threadHandle = false) ?_ fun j _ => inv.cpuWork none j
      refine Bool.eq_false_iff.mpr fun handle => ?_
      rcases access.handle handle with before | array
      · exact nomatch before.symm.trans (inv.cpuWork none i)
      · exact nomatch (cpuWork.trans array).symm.trans none
    · refine System.put_all (P := fun _ q => q.dpc.dpcQueued = false) ?_ fun j _ => inv.dpcWork none j
      refine Bool.eq_false_iff.mpr fun queued => ?_
      rcases access.queued queued with before | array
      · exact nomatch before.symm.trans (inv.dpcWork none i)
      · exact nomatch (dpcWork.trans array).symm.trans none
  refine ⟨fun _ => ⟨inv', ⟨fun j gone => ?_, fun before after => absurd after before, .inl, id⟩,
    fun u other =>
    .of_other (.inl owner) (.inl owner) id other⟩, ⟨inv', owner, lifecycle⟩, vcpuData, processorCount,
    cpuWork, dpcWork, ?_⟩
  · rcases gone with ⟨there, gone⟩ | ⟨there, gone⟩
    · by_cases mine : j = i
      · subst mine
        rw [System.put_self] at gone
        exact nomatch gone.symm.trans (access.memory there)
      · rw [System.put_of_ne mine] at gone
        exact nomatch there.symm.trans gone
    · exact nomatch there.symm.trans gone
  · exact System.put_all (P := fun j q => F j q.memory q.dpc.dpcQueued) access.slot fun j _ => slots j

section Rules

variable {α : Type} {P : System → Prop}

/-- The call keeps its promise from `P` to `Q`. -/
abbrev Upholds (t : Nat) (P : System → Prop) (p : LifecycleM α) (Q : α → System → Prop) : Prop :=
  Triple (Rely t) (Guarantee t) P p Q

/-- Reading keeps every promise. -/
theorem reads {f : Reply → System → α} (stable : Stable (Rely t) P) :
    Upholds t P (Script.read f) fun _ => P :=
  .read stable (fun _ => stable) (fun s _ => .refl t s) fun _ _ => id

theorem reads_fact {f : Reply → System → α} {K : α → Prop} (stable : Stable (Rely t) P)
    (found : ∀ o s, P s → K (f o s)) :
    Upholds t P (Script.read f) fun value s => P s ∧ K value :=
  .read stable (fun _ => stable.and fun _ _ holds _ => holds) (fun s _ => .refl t s)
    fun o s given => ⟨given, found o s given⟩

/-- A fact about one processor that it keeps by itself. -/
def Lasting (K : Processor → Prop) : Prop := ∀ q q', K q → Calm q q' → K q'

theorem Lasting.stable {K : Processor → Prop} (lasting : Lasting K) (i : Nat) :
    Stable (Rely t) fun s => Held t phase count cpu dpc F s ∧ K (s.processors i) := by
  rintro s s' ⟨held, holds⟩ move
  exact ⟨stable_held s s' held move, lasting _ _ holds ((move held.inv).2.processors held.owner i)⟩

theorem lasting_true : Lasting fun _ => True := fun _ _ _ _ => trivial

theorem askVcpu_held {i : Nat} {g : Reply → Processor → α} {K : Processor → Prop}
    {L : α → Processor → Prop} (before : Lasting K) (after : ∀ value, Lasting (L value))
    (found : ∀ o q, K q → L (g o q) q) :
    Upholds t (fun s => Held t phase count cpu dpc F s ∧ K (s.processors i)) (askVcpu i g)
      fun value s => Held t phase count cpu dpc F s ∧ L value (s.processors i) :=
  .read (before.stable i) (fun value => (after value).stable i) (fun s _ => .refl t s)
    fun o _ given => ⟨given.1, found o _ given.2⟩

/-- An access of the owner to one processor. -/
theorem exchangeVcpu_held {i : Nat} {f : Reply → Processor → Processor} {g : Reply → Processor → α}
    {K : Processor → Prop} {L : α → Processor → Prop} (inside : i < count) (before : Lasting K)
    (after : ∀ value, Lasting (L value))
    (step : ∀ o q, Sound q → K q → F i q.memory q.dpc.dpcQueued →
      Access cpu dpc F i q (f o q) ∧ L (g o q) (f o q)) :
    Upholds t (fun s => Held t phase count cpu dpc F s ∧ K (s.processors i)) (exchangeVcpu i f g)
      fun value s => Held t phase count cpu dpc F s ∧ L value (s.processors i) := by
  refine .exchange (before.stable i) (fun value => (after value).stable i) ?_
  rintro o s ⟨held, given⟩
  obtain ⟨access, result⟩ := step o _ (held.inv.sound i) given (held.slots i)
  obtain ⟨promise, held'⟩ := held.put inside access
  refine ⟨promise, held', ?_⟩
  rwa [System.put_self]

/-- The same where nothing is known before or after. -/
theorem exchangeVcpu_plain {i : Nat} {f : Reply → Processor → Processor}
    {g : Reply → Processor → α} (inside : i < count)
    (step : ∀ o q, Sound q → F i q.memory q.dpc.dpcQueued → Access cpu dpc F i q (f o q)) :
    Upholds t (Held t phase count cpu dpc F) (exchangeVcpu i f g) fun _ => Held t phase count cpu dpc F := by
  refine ((exchangeVcpu_held (K := fun _ => True) (L := fun _ _ => True) inside lasting_true
    (fun _ => lasting_true) fun o q sound _ slot => ?_).pre fun s held => ⟨held, trivial⟩).post
    fun _ _ => And.left
  exact ⟨step o q sound slot, trivial⟩

end Rules

end Knhv.Lifecycle
