import Mathlib
import Knhv.Driver.Image

open Std.Do

set_option mvcgen.warning false

namespace Knhv.Driver

/-- Nothing of the image is in use any more. -/
structure Released (s : DriverState) : Prop where
  lifecycle : s.lifecycle = .idle
  vcpuData : s.vcpuData = false
  imagePinned : s.imagePinned = false
  unregistered : s.bugCheckReasonRegistered = false
  crashBlob : s.crashBlob = none

/-- The blob was never freed under a registered callback or in quarantine. -/
def SafeFrees (s : DriverState) : Prop :=
  ∀ free ∈ s.blobFrees, free.registered = false ∧ free.lifecycle ≠ .quarantined

theorem releaseHvCrashBlob_safe :
    ⦃fun s => ⌜SafeFrees s⌝⦄ releaseHvCrashBlob ⦃⇓ _ s => ⌜SafeFrees s⌝⦄ := by
  mvcgen [releaseHvCrashBlob]
  case vc3 s safe guard held =>
    intro free member
    rcases List.mem_append.mp member with old | new
    · exact safe free old
    · obtain rfl := List.mem_singleton.mp new
      simp_all

/-- With the lifecycle back at Idle and the callback gone, the blob is freed. -/
theorem releaseHvCrashBlob_idle :
    ⦃fun s => ⌜s.lifecycle = .idle ∧ s.bugCheckReasonRegistered = false⌝⦄ releaseHvCrashBlob
    ⦃⇓ _ s => ⌜s.crashBlob = none ∧ s.bugCheckReasonRegistered = false⌝⦄ := by
  mvcgen [releaseHvCrashBlob]
  all_goals simp_all

theorem pinImageForParkedCpu_safe :
    ⦃fun s => ⌜SafeFrees s⌝⦄ pinImageForParkedCpu ⦃⇓ _ s => ⌜SafeFrees s⌝⦄ := by
  mvcgen [pinImageForParkedCpu]
  case vc1 s safe pinned =>
    change SafeFrees (if _ then _ else _)
    split <;> exact safe

theorem quarantine_safe :
    ⦃fun s => ⌜SafeFrees s⌝⦄ quarantine ⦃⇓ _ s => ⌜SafeFrees s⌝⦄ := by
  have pinned := pinImageForParkedCpu_safe
  mvcgen [quarantine, pinned]

theorem quarantineHypervisorImage_safe :
    ⦃fun s => ⌜SafeFrees s⌝⦄ quarantineHypervisorImage ⦃⇓ _ s => ⌜SafeFrees s⌝⦄ := by
  have pinned := pinImageForParkedCpu_safe
  mvcgen [quarantineHypervisorImage, pinned]

theorem stopHypervisorInternal_safe (o : StopFindings) (startRollback : Bool) :
    ⦃fun s => ⌜SafeFrees s⌝⦄ stopHypervisorInternal o startRollback
    ⦃⇓ _ s => ⌜SafeFrees s⌝⦄ := by
  have release := releaseHvCrashBlob_safe
  have held := quarantine_safe
  mvcgen [stopHypervisorInternal, held, release]

theorem rejectStart_safe (status : U32) :
    ⦃fun s => ⌜SafeFrees s⌝⦄ rejectStart status ⦃⇓ _ s => ⌜SafeFrees s⌝⦄ := by
  have release := releaseHvCrashBlob_safe
  mvcgen [rejectStart, release]
  case vc1 s safe rejected =>
    change SafeFrees (if _ then _ else _)
    split <;> exact safe

theorem rollBack_safe (o : StartFindings) (status : U32) :
    ⦃fun s => ⌜SafeFrees s⌝⦄ rollBack o status ⦃⇓ _ s => ⌜SafeFrees s⌝⦄ := by
  have stopped := stopHypervisorInternal_safe
  mvcgen [rollBack, stopped]

theorem rollBackUnlessQuarantined_safe (o : StartFindings) (status : U32) :
    ⦃fun s => ⌜SafeFrees s⌝⦄ rollBackUnlessQuarantined o status
    ⦃⇓ _ s => ⌜SafeFrees s⌝⦄ := by
  have stopped := stopHypervisorInternal_safe
  mvcgen [rollBackUnlessQuarantined, stopped]

theorem rollBackAndRelease_safe (o : StartFindings) (status : U32) :
    ⦃fun s => ⌜SafeFrees s⌝⦄ rollBackAndRelease o status ⦃⇓ _ s => ⌜SafeFrees s⌝⦄ := by
  have stopped := stopHypervisorInternal_safe
  have release := releaseHvCrashBlob_safe
  mvcgen [rollBackAndRelease, stopped, release]

theorem finishStart_safe (o : StartFindings) (processors : List Nat) (p : Progress) :
    ⦃fun s => ⌜SafeFrees s⌝⦄ finishStart o processors p ⦃⇓ _ s => ⌜SafeFrees s⌝⦄ := by
  have rolledBack := rollBackUnlessQuarantined_safe
  have released := rollBackAndRelease_safe
  mvcgen [finishStart, rolledBack, released]

theorem bringUp_safe (o : StartFindings) (processors : List Nat) :
    ⦃fun s => ⌜SafeFrees s⌝⦄ bringUp o processors ⦃⇓ _ s => ⌜SafeFrees s⌝⦄ := by
  have rolledBack := rollBack_safe
  have held := quarantine_safe
  have finished := finishStart_safe
  mvcgen [bringUp, launchCoordinator, quarantineUnresolvedTargetWork, rolledBack, held, finished]

theorem initializeHvCrashBlob_safe (memory : Bool) (cpuCount : Nat) :
    ⦃fun s => ⌜SafeFrees s⌝⦄ initializeHvCrashBlob memory cpuCount
    ⦃⇓ _ s => ⌜SafeFrees s⌝⦄ := by
  mvcgen [initializeHvCrashBlob]

theorem startHypervisor_safe (o : StartFindings) :
    ⦃fun s => ⌜SafeFrees s⌝⦄ startHypervisor o ⦃⇓ _ s => ⌜SafeFrees s⌝⦄ := by
  have rejected := rejectStart_safe
  have allocated := initializeHvCrashBlob_safe
  have rolledBack := rollBack_safe
  have released := rollBackAndRelease_safe
  have up := bringUp_safe
  mvcgen [startHypervisor, rejected, allocated, rolledBack, released, up]

theorem unregisterSecondaryDumpCallback_safe (removed : Bool) :
    ⦃fun s => ⌜SafeFrees s⌝⦄ unregisterSecondaryDumpCallback removed
    ⦃post⟨fun _ s => ⌜SafeFrees s⌝, fun _ s => ⌜SafeFrees s⌝⟩⦄ := by
  have release := releaseHvCrashBlob_safe
  mvcgen [unregisterSecondaryDumpCallback, release]

theorem driverUnload_safe (o : DriverFindings) :
    ⦃fun s => ⌜SafeFrees s⌝⦄ driverUnload o
    ⦃post⟨fun _ s => ⌜SafeFrees s⌝, fun _ s => ⌜SafeFrees s⌝⟩⦄ := by
  have stopped := stopHypervisorInternal_safe
  have unregistered := unregisterSecondaryDumpCallback_safe
  mvcgen [driverUnload, stopHypervisor, requireStopped, stopped, unregistered]

theorem driverEntry_safe (o : DriverFindings) :
    ⦃fun s => ⌜SafeFrees s⌝⦄ driverEntry o
    ⦃post⟨fun _ s => ⌜SafeFrees s⌝, fun _ s => ⌜SafeFrees s⌝⟩⦄ := by
  have started := startHypervisor_safe
  have stopped := stopHypervisorInternal_safe
  have unregistered := unregisterSecondaryDumpCallback_safe
  mvcgen [driverEntry, abandonEntry, registerSecondaryDumpCallback, stopHypervisor,
    requireStopped, started, stopped, unregistered]

theorem imageCall_safe (call : ImageCall) :
    ⦃fun s => ⌜SafeFrees s⌝⦄ imageCall call
    ⦃post⟨fun _ s => ⌜SafeFrees s⌝, fun _ s => ⌜SafeFrees s⌝⟩⦄ := by
  have entered := driverEntry_safe
  have started := startHypervisor_safe
  have stopped := stopHypervisorInternal_safe
  have quarantined := quarantineHypervisorImage_safe
  have unloaded := driverUnload_safe
  cases call <;>
    mvcgen [imageCall, stopHypervisor, entered, started, stopped, quarantined, unloaded]

theorem imageRun_safe (calls : List ImageCall) :
    ⦃fun s => ⌜SafeFrees s⌝⦄ imageRun calls
    ⦃post⟨fun _ s => ⌜SafeFrees s⌝, fun _ s => ⌜SafeFrees s⌝⟩⦄ := by
  have called := imageCall_safe
  induction calls with
  | nil => mvcgen [imageRun]
  | cons call rest ih => mvcgen [imageRun, called, ih]

/-- What `UnregisterSecondaryDumpCallback` leaves behind once the stop before it
is complete. -/
theorem unregisterSecondaryDumpCallback_idle (removed : Bool) :
    ⦃fun s => ⌜s.lifecycle = .idle⌝⦄ unregisterSecondaryDumpCallback removed
    ⦃post⟨fun _ s => ⌜s.bugCheckReasonRegistered = false ∧ s.crashBlob = none⌝,
      fun _ _ => ⌜True⌝⟩⦄ := by
  have release := releaseHvCrashBlob_idle
  mvcgen [unregisterSecondaryDumpCallback, release]
  all_goals simp_all

theorem stopComplete_of {s : DriverState} (complete : isHypervisorStopComplete s = true) :
    s.lifecycle = .idle ∧ s.vcpuData = false ∧ s.imagePinned = false := by
  simpa [isHypervisorStopComplete, and_assoc] using complete

theorem released_of {s : DriverState} (complete : isHypervisorStopComplete s = true)
    (gone : s.bugCheckReasonRegistered = false ∧ s.crashBlob = none) : Released s :=
  have ⟨idle, freed, unpinned⟩ := stopComplete_of complete
  ⟨idle, freed, unpinned, gone.1, gone.2⟩

theorem stateM_returns {σ α : Type} (x : StateM σ α) : ⦃⌜True⌝⦄ x ⦃⇓ _ _ => ⌜True⌝⦄ := by
  intro s _
  trivial

theorem driverUnload_released (o : DriverFindings) :
    ⦃⌜True⌝⦄ driverUnload o ⦃post⟨fun _ s => ⌜Released s⌝, fun _ _ => ⌜True⌝⟩⦄ := by
  have stopped := fun o r => stateM_returns (stopHypervisorInternal o r)
  have unregistered := unregisterSecondaryDumpCallback_idle
  mvcgen [driverUnload, stopHypervisor, requireStopped, stopped, unregistered]
  case vc1 s stopped =>
    exact (stopComplete_of (by simp_all)).1
  case vc2 s _ _ _ gone stopped =>
    exact released_of (by simp_all) gone

theorem driverEntry_released (o : DriverFindings) :
    ⦃fun s => ⌜Released s⌝⦄ driverEntry o
    ⦃post⟨fun status s => ⌜ntSuccess status = false → Released s⌝, fun _ _ => ⌜True⌝⟩⦄ := by
  have registered := fun a => stateM_returns (registerSecondaryDumpCallback a)
  have started := fun o => stateM_returns (startHypervisor o)
  have stopped := fun o r => stateM_returns (stopHypervisorInternal o r)
  have unregistered := unregisterSecondaryDumpCallback_idle
  mvcgen [driverEntry, abandonEntry, registered, stopHypervisor, requireStopped, started, stopped,
    unregistered]
  case vc1.isTrue released _ _ =>
    intro failed
    exact ⟨released.lifecycle, released.vcpuData, released.imagePinned, released.unregistered,
      released.crashBlob⟩
  case vc3 s _ complete =>
    exact (stopComplete_of (by simpa using complete)).1
  case vc4 s gone complete =>
    intro failed
    simp only [Bool.or_eq_true, Bool.not_eq_true', not_or, Bool.not_eq_false] at complete
    exact released_of complete.1 gone
  -- the quarantined image and the started one report success
  all_goals exact fun failed => absurd failed (by decide)

theorem loadedImage_released : Released loadedImage := ⟨rfl, rfl, rfl, rfl, rfl⟩

/-- A triple read off on one run of the image. -/
theorem driverM_outcome {α : Type} {x : DriverM α} {pre : DriverState → Prop}
    (post : Except BugCheck α → DriverState → Prop)
    (spec : ⦃fun s => ⌜pre s⌝⦄ x
      ⦃post⟨fun a s => ⌜post (.ok a) s⌝, fun e s => ⌜post (.error e) s⌝⟩⦄)
    {before : DriverState} (holds : pre before) {result : Except BugCheck α}
    {after : DriverState} (run : x.run.run before = (result, after)) : post result after := by
  refine StateM.of_wp_run_eq run (fun outcome => post outcome.1 outcome.2) ?_
  have weakest := spec before holds
  simp only [WP.wp, PredTrans.apply_pushExcept] at weakest
  intro _
  refine (wp x.run).mono _ _ ⟨fun outcome => ?_, trivial⟩ before weakest
  cases outcome <;> simp

/-- Whatever the calls before found, a `DriverEntry` that fails and a
`DriverUnload` that returns leave a released image, and no free of the blob ever
met a registered callback or a quarantine. -/
theorem driverImage_safe (calls : List ImageCall) (o : DriverFindings) :
    SafeFrees (imageAfter calls) ∧
      (∀ status s, (driverEntry o).run.run loadedImage = (.ok status, s) →
        ntSuccess status = false → Released s) ∧
      ∀ s, (driverUnload o).run.run (imageAfter calls) = (.ok (), s) → Released s := by
  refine ⟨?_, ?_, ?_⟩
  · have fresh : SafeFrees loadedImage := nofun
    exact driverM_outcome (fun _ => SafeFrees) (imageRun_safe calls) fresh rfl
  · intro status s entered
    exact driverM_outcome
      (fun
        | .ok status, s => ntSuccess status = false → Released s
        | .error _, _ => True) (driverEntry_released o) loadedImage_released entered
  · intro s unloaded
    exact driverM_outcome
      (fun
        | .ok _, s => Released s
        | .error _, _ => True) (driverUnload_released o) trivial unloaded

end Knhv.Driver
