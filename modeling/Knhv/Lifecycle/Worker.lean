import Knhv.Lifecycle.Launching

namespace Knhv.Lifecycle

open Teardown

variable {q : Processor} {k : Nat} {turn : Turn} {p : WorkerPoint}

/-- What one access of the worker does to its processor. -/
inductive Work (k : Nat) (q : Processor) : WorkerPoint → Processor × WorkerPoint → Prop
  | absent : Work k q .absent (q, .absent)
  | stops : q.points k = .idle → Work k q .operate
      ({ q with points := Function.update q.points k Routine.stopHvCallback.entry }, .stopping k)
  | reports (p next : WorkerPoint) (state : TargetWorkState) (result : U32) :
      p ≠ .absent → next ≠ .absent → (p = .exited → next = .exited) →
      (∀ caller, p = .stopping caller → next = .stopping caller ∨ q.points caller = .done) →
      Work k q p ({ q with work := { q.work with state := state, result := result } }, next)

theorem workerAccess_work (k : Nat) (turn : Turn) (q : Processor) (p : WorkerPoint) :
    Work k q p (q.workerAccess k turn p) := by
  fun_cases Processor.workerAccess k turn q p <;> first
    | exact .absent
    | exact .stops ‹_›
    | exact .reports _ _ _ _ nofun nofun (by simp) (by simp_all)

/-- The park path leaves VMX, or keeps what it cannot clear. -/
inductive Parks (q : Processor) : Processor → Prop
  | leaves (turn : Turn) : Parks q (q.clearVmcs turn).leaveVmx
  | keeps (turn : Turn) : Parks q (q.clearVmcs turn)

theorem parkedAccess_parks (turn : Turn) (q : Processor) : Parks q (q.parkedAccess turn) := by
  unfold Processor.parkedAccess
  split
  · exact .leaves turn
  · exact .keeps turn

namespace Sound

variable (sound : Sound q)

include sound

theorem absent_worker_unsolicited (absent : q.worker = .absent ∨ q.worker = .operate) (a : Nat) :
    isUnsolicited (q.points a) = true := by
  rcases sound.callers a with unsolicited | ⟨mine, _⟩
  · exact unsolicited
  · rw [mine] at absent
    simp at absent

/-- A caller that enters has claimed nothing. -/
theorem enters {entry : Point} {worker : WorkerPoint} (outside : isOutside entry = true)
    (callers : ∀ a, isUnsolicited (Function.update q.points k entry a) = true ∨
      worker = .stopping a ∧ isCallback (Function.update q.points k entry a) = true)
    (handle : worker ≠ .absent → q.work.threadHandle = true) :
    Sound { q with points := Function.update q.points k entry, worker := worker } := by
  have notRoot : entry.inRoot = false := by
    revert outside
    cases entry <;> simp [isOutside, Point.inRoot]
  have notNative : entry.isNative = false := by
    revert outside
    cases entry <;> simp [isOutside, Point.isNative]
  refine ⟨sound.operation, sound.owned, sound.guest, ?_, ?_, fun halted => ?_, sound.fresh,
    fun early => ?_, sound.prepared.congr rfl rfl rfl, callers, handle, sound.queued, sound.memory⟩
  · refine points_all (P := fun a p => p.inRoot = true → _) (fun inside => ?_) fun b _ => sound.root b
    rw [notRoot] at inside
    cases inside
  · refine points_all (P := fun _ p => p.isNative = true → _) (fun native => ?_)
      fun b _ => sound.native b
    rw [notNative] at native
    cases native
  · obtain ⟨state, others, released⟩ := sound.halted halted
    exact ⟨state, points_all (P := fun _ p => p.inRoot = false) notRoot fun b _ => others b, released⟩
  · obtain ⟨inactive, noGuest, others⟩ := sound.untouched early
    exact ⟨inactive, noGuest, points_all (P := fun _ p => isOutside p = true) outside fun b _ => others b⟩

/-- An access of the worker keeps its processor sound. -/
theorem worked (k : Nat) (turn : Turn) :
    Sound { (q.workerAccess k turn q.worker).1 with
      worker := (q.workerAccess k turn q.worker).2 } := by
  have work := workerAccess_work k turn q q.worker
  revert work
  generalize q.workerAccess k turn q.worker = next
  generalize here : q.worker = p
  intro work
  cases work with
  | absent => rwa [← here]
  | stops idle =>
    have unsolicited := sound.absent_worker_unsolicited (.inr here)
    refine sound.enters rfl ?_ fun _ => sound.handle (by rw [here]; exact nofun)
    exact points_all (P := fun a p => isUnsolicited p = true ∨ WorkerPoint.stopping k = .stopping a ∧
      isCallback p = true) (.inr ⟨rfl, rfl⟩) fun b _ => .inl (unsolicited b)
  | reports p next state result present stays _ stopping =>
    refine ⟨sound.operation, sound.owned, sound.guest, sound.root, sound.native, fun halted => ?_,
      sound.fresh, fun early => ?_, sound.prepared.congr rfl rfl rfl, fun a => ?_,
      fun _ => sound.handle (by rw [here]; exact present), sound.queued, sound.memory⟩
    · obtain ⟨state, outside, released⟩ := sound.halted halted
      exact ⟨state, outside, released⟩
    · obtain ⟨inactive, noGuest, outside⟩ := sound.untouched early
      exact ⟨inactive, noGuest, outside⟩
    · rcases sound.callers a with unsolicited | ⟨mine, callback⟩
      · exact .inl unsolicited
      · rcases stopping a (here ▸ mine) with same | done
        · exact .inr ⟨same, callback⟩
        · exact .inl (by simp only [done]; rfl)

/-- The park path keeps its processor sound. -/
theorem parked (halted : q.words.halted = true) (turn : Turn) : Sound (q.parkedAccess turn) := by
  obtain ⟨state, outside, released⟩ := sound.halted halted
  have unreleased : ¬q.launch.isPreparing = true := by rw [released]; exact nofun
  have claimed : q.words.state ≠ .uninitialized := by rw [state]; exact nofun
  have live : isLive q.words.state = true := by rw [state]; rfl
  have parks := parkedAccess_parks turn q
  revert parks
  generalize q.parkedAccess turn = next
  intro parks
  cases parks with
  | leaves turn =>
    refine ⟨nofun, nofun, nofun, fun a inside => ?_, fun _ _ => rfl, fun _ => ⟨state, outside, released⟩,
      fun _ => rfl, fun early => ?_, .of_released unreleased fun _ => claimed, sound.callers,
      sound.handle, sound.queued, fun on => sound.memory (on.imp_right nofun)⟩
    · exact absurd inside (by simp [Processor.leaveVmx, Processor.setVmxe, Processor.clearVmcs, outside])
    · exact absurd early (not_or.mpr ⟨claimed, unreleased⟩)
  | keeps turn =>
    refine ⟨sound.operation, fun _ => .inl live, sound.guest, sound.root, sound.native,
      fun _ => ⟨state, outside, released⟩, sound.fresh, fun early => ?_,
      .of_released unreleased fun _ => claimed, sound.callers, sound.handle, sound.queued,
      sound.memory⟩
    exact absurd early (not_or.mpr ⟨claimed, unreleased⟩)

/-- Whatever a processor does, it stays sound. -/
theorem step (a : ProcessorAction) : Sound (q.step a) := by
  cases a with
  | vmcall k =>
    simp only [Processor.step]
    split
    · refine sound.enters rfl ?_ sound.handle
      exact points_all (P := fun a p => isUnsolicited p = true ∨ q.worker = .stopping a ∧
        isCallback p = true) (.inl rfl) fun b _ => sound.callers b
    · exact sound
  | caller k turn =>
    simp only [Processor.step]
    split
    · next runs => exact sound.put (callerAccess_call k turn q (q.points k)) runs
    · exact sound
  | launch turn =>
    simp only [Processor.step]
    split
    · next free => exact sound.launched turn free
    · exact sound
  | worker k turn =>
    simp only [Processor.step]
    split
    · exact sound.worked k turn
    · exact sound
  | parked turn =>
    simp only [Processor.step]
    split
    · next halted => exact sound.parked halted turn
    · exact sound

end Sound

end Knhv.Lifecycle
