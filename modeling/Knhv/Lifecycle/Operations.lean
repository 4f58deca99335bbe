import Knhv.Lifecycle.Custody

namespace Knhv.Lifecycle

open Teardown Driver Interleaving

variable {t i count : Nat} {phase : HvLifecycle} {cpu dpc : Bool} {F : Nat → Bool → Bool → Prop}

theorem lasting_handle (handle : Bool) : Lasting fun q => q.work.threadHandle = handle :=
  fun _ _ holds calm => calm.handle.trans holds

theorem lasting_imp {c : Prop} {K : Processor → Prop} (lasting : c → Lasting K) :
    Lasting fun q => c → K q :=
  fun q q' holds calm given => lasting given q q' (holds given) calm

theorem lasting_exited : Lasting fun q => q.worker = .exited := fun _ _ holds calm => calm.exited holds

theorem lasting_absent : Lasting fun q => q.launch = .absent := fun _ _ holds calm => calm.launch holds

theorem Sound.worker_absent_of_handle {q : Processor} (sound : Sound q)
    (closed : q.work.threadHandle = false) : q.worker = .absent := by
  by_contra present
  exact nomatch closed.symm.trans (sound.handle present)

theorem Sound.launch_absent_of_dpc {q : Processor} (sound : Sound q)
    (closed : q.dpc.dpcQueued = false) : q.launch = .absent := by
  by_contra present
  exact nomatch closed.symm.trans (sound.queued present)

/-- The index and the array that an operation has checked. -/
theorem inside_of_check {f : System → Bool} {array : Bool} (found : ∀ s,
    Held t phase count cpu dpc F s → f s = true → array = true) :
    Upholds t (Held t phase count cpu dpc F)
      (readSystem fun s => f s && decide (i < s.processorCount))
      fun checked s => Held t phase count cpu dpc F s ∧
        (checked = true → array = true ∧ i < count) := by
  refine reads_fact (K := fun checked => checked = true → array = true ∧ i < count) stable_held
    fun _ s held checked => ?_
  simp only [Bool.and_eq_true, decide_eq_true_eq, held.processorCount] at checked
  exact ⟨found s held checked.1, checked.2⟩

theorem queueTargetOperation_held (operation : TargetOperation) :
    Upholds t (Held t phase count cpu dpc F) (queueTargetOperation i operation)
      fun _ => Held t phase count cpu dpc F := by
  unfold queueTargetOperation
  refine .bind (inside_of_check (f := fun s => s.targetCpuWork && s.driverObject) fun s held array =>
    held.targetCpuWork.symm.trans (Bool.and_eq_true_iff.mp array).1) fun checked => .fact fun known => ?_
  refine .ite (fun _ => .ret stable_held fun _ => id) fun unchecked => ?_
  obtain ⟨array, inside⟩ := known (by simpa using unchecked)
  refine .bind ((askVcpu_held (K := fun _ => True) (L := fun handle q => q.work.threadHandle = handle)
    lasting_true lasting_handle fun _ _ _ => rfl).pre fun s held => ⟨held, trivial⟩) fun handle => ?_
  refine .ite (fun _ => .ret ((lasting_handle handle).stable i) fun _ => And.left) fun none => ?_
  rw [Bool.not_eq_true] at none
  subst none
  -- without a handle there is no worker
  refine .bind (exchangeVcpu_held (L := fun _ q => q.work.threadHandle = false) inside
    (lasting_handle false) (fun _ => lasting_handle false) fun _ q sound closed slot =>
      ⟨⟨sound.setWork fun present => absurd (sound.worker_absent_of_handle closed) present, id, slot,
        nofun, .inl⟩, rfl⟩)
    fun _ => ?_
  refine .bind (reads ((lasting_handle false).stable i)) fun located => ?_
  refine .ite (fun _ => .ret ((lasting_handle false).stable i) fun _ => And.left) fun _ => ?_
  refine .bind (exchangeVcpu_held (L := fun _ q => q.work.threadHandle = false) inside
    (lasting_handle false) (fun _ => lasting_handle false) fun _ q sound closed slot =>
      ⟨⟨sound.setWork fun present => absurd (sound.worker_absent_of_handle closed) present, id, slot,
        nofun, .inl⟩, rfl⟩)
    fun _ => ?_
  refine .bind (M := fun _ => Held t phase count cpu dpc F) ?_ fun created => ?_
  · refine (exchangeVcpu_held (L := fun _ _ => True) inside (lasting_handle false)
      (fun _ => lasting_true) fun o q sound closed slot => ?_).post fun _ _ => And.left
    split
    · refine ⟨⟨sound.rework ?_ fun _ => rfl, id, slot, fun _ => .inr array, .inl⟩, trivial⟩
      rw [sound.worker_absent_of_handle closed]
      exact fun caller => nofun
    · exact ⟨⟨sound, id, slot, .inl, .inl⟩, trivial⟩
  · refine .ite (fun _ => ?_) fun _ => .ret stable_held fun _ => id
    refine .bind (exchangeVcpu_plain inside fun _ q sound slot =>
      ⟨sound.setWork sound.handle, id, slot, .inl, .inl⟩) fun _ => ?_
    exact .ret stable_held fun _ => id

/-- A wait that succeeds has seen the thread return. -/
theorem waitThread_held : Upholds t (Held t phase count cpu dpc F) (waitThread i)
    fun waited s => Held t phase count cpu dpc F s ∧
      (waited = statusSuccess → (s.processors i).worker = .exited) := by
  refine (askVcpu_held (K := fun _ => True)
    (L := fun waited q => waited = statusSuccess → q.worker = .exited) lasting_true
    (fun _ => lasting_imp fun _ => lasting_exited) fun o q _ waited => ?_).pre
      fun s held => ⟨held, trivial⟩
  by_contra running
  revert waited
  split
  · exact nofun
  · next answered =>
    intro success
    exact answered (by simp [success, running])

theorem closeCompletedTargetWork_held (inside : i < count) :
    Upholds t (fun s => Held t phase count cpu dpc F s ∧ (s.processors i).worker = .exited)
      (closeCompletedTargetWork i) fun _ => Held t phase count cpu dpc F := by
  refine .bind (reads (lasting_exited.stable i)) fun _ => ?_
  refine .bind (exchangeVcpu_held (L := fun _ _ => True) inside lasting_exited
    (fun _ => lasting_true) fun _ q sound exited slot => ⟨⟨sound.rework ?_ nofun, id, slot, nofun, .inl⟩, trivial⟩)
    fun _ => ?_
  · rw [exited]
    exact fun caller => nofun
  · exact .ret (lasting_true.stable i) fun _ => And.left

theorem cancelWork_held (inside : i < count) (expected : TargetWorkState) :
    Upholds t (Held t phase count cpu dpc F) (cancelWork i expected) fun _ => Held t phase count cpu dpc F := by
  refine exchangeVcpu_plain inside fun _ q sound slot => ?_
  split
  · exact ⟨sound.setWork sound.handle, id, slot, .inl, .inl⟩
  · exact ⟨sound, id, slot, .inl, .inl⟩

theorem cancelTargetWork_held (inside : i < count) :
    Upholds t (Held t phase count cpu dpc F) (cancelTargetWork i) fun _ => Held t phase count cpu dpc F := by
  refine .bind (cancelWork_held inside .queued) fun queued => ?_
  exact .ite (fun _ => .ret stable_held fun _ => id) fun _ => cancelWork_held inside .entered

theorem waitTargetOperation_held :
    Upholds t (Held t phase count cpu dpc F) (waitTargetOperation i) fun _ => Held t phase count cpu dpc F := by
  have closed (waited : U32) (inside : i < count) (success : waited = statusSuccess) :
      Upholds t (fun s => Held t phase count cpu dpc F s ∧
        (waited = statusSuccess → (s.processors i).worker = .exited))
        (closeCompletedTargetWork i) fun _ => Held t phase count cpu dpc F :=
    (closeCompletedTargetWork_held inside).pre fun s given => ⟨given.1, given.2 success⟩
  have waiting (waited : U32) : Stable (Rely t) fun s => Held t phase count cpu dpc F s ∧
      (waited = statusSuccess → (s.processors i).worker = .exited) :=
    (lasting_imp fun _ => lasting_exited).stable i
  unfold waitTargetOperation
  refine .bind (inside_of_check fun s held array => held.targetCpuWork.symm.trans array)
    fun checked => .fact fun known => ?_
  refine .ite (fun _ => .ret stable_held fun _ => id) fun unchecked => ?_
  obtain ⟨_, inside⟩ := known (by simpa using unchecked)
  refine .bind (reads stable_held) fun handle => ?_
  refine .ite (fun _ => .bind (reads stable_held) fun _ => .ret stable_held fun _ => id) fun _ => ?_
  refine .bind waitThread_held fun waited => ?_
  refine .ite (fun success => ?_) fun _ => ?_
  · exact .bind (closed waited inside success) fun _ => .ret stable_held fun _ => id
  refine .ite (fun _ => ?_) fun _ => .ret (waiting waited) fun _ => And.left
  -- the deadline has passed
  refine .bind ((cancelTargetWork_held inside).pre fun _ => And.left) fun cancelled => ?_
  refine .bind (reads stable_held) fun state => ?_
  refine .ite (fun _ => ?_) fun _ => .ret stable_held fun _ => id
  refine .bind waitThread_held fun waited => ?_
  refine .ite (fun success => ?_) fun _ => .ret (waiting waited) fun _ => And.left
  exact .bind (closed waited inside success) fun _ => .ret stable_held fun _ => id

theorem runTargetOperation_held (operation : TargetOperation) :
    Upholds t (Held t phase count cpu dpc F) (runTargetOperation i operation)
      fun _ => Held t phase count cpu dpc F := by
  refine .bind (queueTargetOperation_held operation) fun queued => ?_
  exact .ite (fun _ => waitTargetOperation_held) fun _ => .ret stable_held fun _ => id

/-- The attempts to stop one processor keep what the owner holds, whatever they come
to. -/
theorem stopTargetProcessorWithRetries_held (unresolved : Bool) (attempts : Nat) :
    Upholds t (Held t phase count cpu dpc F) (stopTargetProcessorWithRetries i unresolved attempts)
      fun _ => Held t phase count cpu dpc F := by
  induction attempts with
  | zero => exact .ret stable_held fun _ => id
  | succ attempts ih =>
    refine .bind (reads stable_held) fun state => ?_
    refine .ite (fun _ => .ret stable_held fun _ => id) fun _ => ?_
    refine .ite (fun _ => .ret stable_held fun _ => id) fun _ => ?_
    refine .bind (runTargetOperation_held .stop) fun answer => ?_
    refine .ite (fun _ => .ret stable_held fun _ => id) fun _ => ?_
    refine .bind (reads stable_held) fun retryState => .bind (reads stable_held) fun retryStage => ?_
    exact .ite (fun _ => .ret stable_held fun _ => id) fun _ => ih

theorem stopTargetProcessor_held (unresolved : Bool) :
    Upholds t (Held t phase count cpu dpc F) (stopTargetProcessor i unresolved)
      fun _ => Held t phase count cpu dpc F := by
  refine .bind (reads stable_held) fun _ => ?_
  exact .ite (fun _ => .ret stable_held fun _ => id)
    fun _ => stopTargetProcessorWithRetries_held unresolved kStopRetryLimit

theorem runRuntimeCanary_held :
    Upholds t (Held t phase count cpu dpc F) (runRuntimeCanary i) fun _ => Held t phase count cpu dpc F := by
  refine .bind (reads stable_held) fun _ => ?_
  exact .ite (fun _ => .ret stable_held fun _ => id) fun _ => runTargetOperation_held .runtimeCanary

/-- Every processor has its memory. -/
def Backed (count : Nat) (i : Nat) (memory _queued : Bool) : Prop := i < count → memory = true

theorem queueTargetLaunchDpc_held :
    Upholds t (Held t phase count cpu dpc (Backed count)) (queueTargetLaunchDpc i)
      fun _ => Held t phase count cpu dpc (Backed count) := by
  unfold queueTargetLaunchDpc
  refine .bind (inside_of_check fun s held array => held.targetLaunchDpcWork.symm.trans array)
    fun checked => .fact fun known => ?_
  refine .ite (fun _ => .ret stable_held fun _ => id) fun unchecked => ?_
  obtain ⟨array, inside⟩ := known (by simpa using unchecked)
  have stays : Stable (Rely t) fun s =>
      Held t phase count cpu dpc (Backed count) s ∧ (s.processors i).launch = .absent :=
    lasting_absent.stable i
  have settled (work : TargetLaunchDpcWork) (closed : work.dpcQueued = false) : Upholds t
      (fun s => Held t phase count cpu dpc (Backed count) s ∧ (s.processors i).launch = .absent)
      (writeVcpu i fun q => { q with dpc := work })
      fun _ s => Held t phase count cpu dpc (Backed count) s ∧ (s.processors i).launch = .absent :=
    exchangeVcpu_held (L := fun _ q => q.launch = .absent) inside lasting_absent
      (fun _ => lasting_absent) fun _ q sound absent slot =>
        ⟨⟨sound.setDpc fun present => absurd absent present, id, slot, .inl, fun queued =>
          nomatch closed.symm.trans queued⟩, absent⟩
  refine .bind (M := fun queued s => Held t phase count cpu dpc (Backed count) s ∧
    (queued = false → (s.processors i).launch = .absent)) ?_ fun queued => ?_
  · refine (exchangeVcpu_held (K := fun _ => True) (L := fun queued q => queued = false →
      q.launch = .absent) inside lasting_true (fun _ => lasting_imp fun _ => lasting_absent) ?_).pre
        fun s held => ⟨held, trivial⟩
    exact fun _ q sound _ slot =>
      ⟨⟨sound.setDpc fun _ => rfl, id, slot, .inl, fun _ => .inr array⟩, sound.launch_absent_of_dpc⟩
  refine .ite (fun _ => .ret ((lasting_imp fun _ => lasting_absent).stable i) fun _ => And.left)
    fun free => ?_
  refine .pre (P := fun s => Held t phase count cpu dpc (Backed count) s ∧ (s.processors i).launch = .absent)
    ?_ fun s given => ⟨given.1, given.2 (by simpa using free)⟩
  -- until it is inserted the DPC is absent
  refine .bind (reads stays) fun located => ?_
  refine .ite (fun _ => ?_) fun _ => ?_
  · refine .bind (exchangeVcpu_held (L := fun _ _ => True) inside lasting_absent (fun _ => lasting_true)
      ?_) fun _ => .ret (lasting_true.stable i) fun _ => And.left
    exact fun _ q sound _ slot =>
      ⟨⟨sound.relaunch rfl nofun nofun, id, slot, .inl, nofun⟩, trivial⟩
  have queuedDpc : Lasting fun q => q.launch = .absent ∧ q.dpc.dpcQueued = true :=
    fun q q' holds calm => ⟨calm.launch holds.1, calm.dpcQueued.trans holds.2⟩
  refine .bind (M := fun _ s => Held t phase count cpu dpc (Backed count) s ∧
    (s.processors i).launch = .absent ∧ (s.processors i).dpc.dpcQueued = true) ?_ fun _ => ?_
  · refine exchangeVcpu_held (L := fun _ q => q.launch = .absent ∧ q.dpc.dpcQueued = true) inside
      lasting_absent (fun _ => queuedDpc) fun _ q sound absent slot => ?_
    exact ⟨⟨sound.setDpc fun _ => rfl, id, slot, .inl, fun _ => .inr array⟩, absent, rfl⟩
  refine .bind (reads (queuedDpc.stable i)) fun targeted => ?_
  refine .ite (fun _ => ?_) fun _ => ?_
  · refine .bind ((settled _ rfl).pre fun s given => ⟨given.1, given.2.1⟩) fun _ => ?_
    exact .ret stays fun _ => And.left
  refine .bind (M := fun inserted s => Held t phase count cpu dpc (Backed count) s ∧
    (inserted = false → (s.processors i).launch = .absent)) ?_ fun inserted => ?_
  · refine exchangeVcpu_held (L := fun inserted q => inserted = false → q.launch = .absent) inside
      queuedDpc (fun _ => lasting_imp fun _ => lasting_absent) fun o q sound given slot => ?_
    split
    · next inserts =>
      refine ⟨⟨sound.relaunch rfl (fun _ => given.2) fun _ => slot inside, id, slot, .inl, .inl⟩,
        fun refused => ?_⟩
      exact nomatch inserts.symm.trans refused
    · exact ⟨⟨sound, id, slot, .inl, .inl⟩, fun _ => given.1⟩
  refine .ite (fun refused => ?_) fun _ =>
    .ret ((lasting_imp fun _ => lasting_absent).stable i) fun _ => And.left
  refine .bind ((settled _ rfl).pre fun s given => ⟨given.1, given.2 (by simpa using refused)⟩) fun _ => ?_
  exact .ret stays fun _ => And.left

theorem waitTargetLaunchDpc_held :
    Upholds t (Held t phase count cpu dpc (Backed count)) (waitTargetLaunchDpc i)
      fun _ => Held t phase count cpu dpc (Backed count) := by
  unfold waitTargetLaunchDpc
  refine .bind (inside_of_check fun s held array => held.targetLaunchDpcWork.symm.trans array)
    fun checked => .fact fun known => ?_
  refine .ite (fun _ => .ret stable_held fun _ => id) fun unchecked => ?_
  obtain ⟨array, inside⟩ := known (by simpa using unchecked)
  refine .bind (reads stable_held) fun queued => ?_
  refine .ite (fun _ => .bind (reads stable_held) fun _ => .ret stable_held fun _ => id) fun _ => ?_
  refine .bind (reads stable_held) fun waited => ?_
  refine .ite (fun _ => ?_) fun _ => ?_
  · refine .bind (exchangeVcpu_plain inside fun _ q sound slot =>
      ⟨sound.relaunch rfl nofun nofun, id, slot, .inl, nofun⟩) fun _ => ?_
    exact .bind (reads stable_held) fun _ => .ret stable_held fun _ => id
  refine .ite (fun _ => ?_) fun _ => .ret stable_held fun _ => id
  refine .bind (M := fun removed s => Held t phase count cpu dpc (Backed count) s ∧
    (removed = true → (s.processors i).launch = .absent)) ?_ fun removed => ?_
  · refine (exchangeVcpu_held (K := fun _ => True) (L := fun removed q => removed = true →
      q.launch = .absent) inside lasting_true (fun _ => lasting_imp fun _ => lasting_absent) ?_).pre
        fun s held => ⟨held, trivial⟩
    intro _ q sound _ slot
    split
    · exact ⟨⟨sound.relaunch rfl nofun nofun, id, slot, .inl, .inl⟩, fun _ => rfl⟩
    · next other =>
      exact ⟨⟨sound, id, slot, .inl, .inl⟩, fun removed => absurd (by simpa using removed) other⟩
  refine .ite (fun gone => ?_) fun _ =>
    .ret ((lasting_imp fun _ => lasting_absent).stable i) fun _ => And.left
  refine .bind ((exchangeVcpu_held (L := fun _ _ => True) inside lasting_absent
    (fun _ => lasting_true) ?_).pre fun s given => ⟨given.1, given.2 gone⟩) fun _ => ?_
  · exact fun _ q sound absent slot =>
      ⟨⟨sound.setDpc fun present => absurd absent present, id, slot, .inl, nofun⟩, trivial⟩
  · exact .ret (lasting_true.stable i) fun _ => And.left

theorem launchTarget_held :
    Upholds t (Held t phase count cpu dpc (Backed count)) (launchTarget i)
      fun _ => Held t phase count cpu dpc (Backed count) := by
  refine .bind queueTargetLaunchDpc_held fun queued => ?_
  exact .ite (fun _ => waitTargetLaunchDpc_held) fun _ => .ret stable_held fun _ => id

end Knhv.Lifecycle
