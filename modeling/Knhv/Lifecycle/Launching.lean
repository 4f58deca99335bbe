import Knhv.Lifecycle.Soundness

namespace Knhv.Lifecycle

open Teardown

variable {q : Processor} {turn : Turn} {p : LaunchPoint}

attribute [elab_as_elim] Processor.launchAccess.fun_cases_unfolding

section Launch

attribute [local simp] Processor.setState Processor.setStage Processor.setVmxe Processor.clearVmcs
  Words.casStage Words.clearRequest

attribute [local simp] LaunchPoint.isPreparing LaunchPoint.phase LaunchPhase.isPreparing
  LaunchPhase.isCurrent LaunchPhase.isOn LaunchPhase.isClaimed

/-- A launch step leaves the callers and the queued work alone. -/
theorem launchAccess_frame (turn : Turn) (q : Processor) (p : LaunchPoint) :
    (q.launchAccess turn p).1.points = q.points ∧
      (q.launchAccess turn p).1.dpc.dpcQueued = q.dpc.dpcQueued ∧
      (q.launchAccess turn p).1.worker = q.worker ∧
      (q.launchAccess turn p).1.work = q.work ∧
      (q.launchAccess turn p).1.memory = q.memory ∧
      (q.launchAccess turn p).1.words.root = q.words.root := by
  fun_cases Processor.launchAccess turn q p <;> simp

theorem launchAccess_halted (q : Processor) (turn : Turn) (p : LaunchPoint) :
    (q.launchAccess turn p).1.words.halted = q.words.halted ∨
      (q.launchAccess turn p).2 = .stuck ∧ (q.launchAccess turn p).1.words.state = .parked := by
  fun_cases Processor.launchAccess turn q p <;> simp

theorem launchAccess_guest (q : Processor) (turn : Turn) (p : LaunchPoint) :
    (q.launchAccess turn p).1.guest = q.guest ∨
      p = .vmlaunch ∧ (q.launchAccess turn p).1 = { q with guest := true } := by
  fun_cases Processor.launchAccess turn q p <;> simp

theorem launchAccess_vmxe (q : Processor) (turn : Turn) (p : LaunchPoint) :
    (q.launchAccess turn p).1.words.vmxe = q.words.vmxe ∨
      (q.launchAccess turn p).1.words.vmxe = false ∨ p = .writeCr4 := by
  fun_cases Processor.launchAccess turn q p <;> simp

theorem launchAccess_stage :
    (q.launchAccess turn p).1.words.launchStage = q.words.launchStage ∨
      (q.launchAccess turn p).1.words.launchStage ≠ .guestActive ∨ p = .runningStage := by
  fun_cases Processor.launchAccess turn q p <;> simp

theorem launchAccess_isPreparing (next : (q.launchAccess turn p).2.isPreparing = true) :
    p.isPreparing = true ∨ p = .claimState ∧ q.words.state = .uninitialized := by
  revert next
  fun_cases Processor.launchAccess turn q p <;> simp_all

theorem launchAccess_isClaimed (next : (q.launchAccess turn p).2.phase.isClaimed = true) :
    (p.phase.isClaimed = true → q.words.state ≠ .uninitialized) →
      (q.launchAccess turn p).1.words.state ≠ .uninitialized := by
  revert next
  fun_cases Processor.launchAccess turn q p <;> simp_all

theorem launchAccess_fresh (fresh : (q.launchAccess turn p).1.words.state = .uninitialized) :
    p.phase.isClaimed = true ∨ (q.launchAccess turn p).1.words = q.words ∧
      (q.launchAccess turn p).1.guest = q.guest := by
  revert fresh
  fun_cases Processor.launchAccess turn q p <;> simp_all

theorem launchAccess_state (q : Processor) (turn : Turn) (p : LaunchPoint) :
    (q.launchAccess turn p).1.words.state = q.words.state ∨ p.isPreparing = true ∨
      p = .claimState ∧ q.words.state = .uninitialized := by
  fun_cases Processor.launchAccess turn q p <;> simp_all

theorem launchAccess_enters :
    (q.launchAccess turn p).2.isPreparing = true →
      (q.launchAccess turn p).1.guest = q.guest ∧
        (q.words.launchStage ≠ .guestActive →
          (q.launchAccess turn p).1.words.launchStage ≠ .guestActive) := by
  fun_cases Processor.launchAccess turn q p <;> simp_all

theorem launchAccess_absent (next : (q.launchAccess turn p).2 ≠ .absent) : p ≠ .absent := by
  rintro rfl
  exact next rfl

theorem launchAccess_claimed (turn : Turn) (claimed : p.phase.isClaimed = true)
    (before : q.words.state ≠ .uninitialized) :
    (q.launchAccess turn p).1.words.state ≠ .uninitialized := by
  revert claimed before
  fun_cases Processor.launchAccess turn q p <;> simp_all

theorem launchAccess_stays (released : ¬p.isPreparing = true) (on : q.vmxOperation = true) :
    (q.launchAccess turn p).1.vmxOperation = true := by
  revert released on
  fun_cases Processor.launchAccess turn q p <;> simp

theorem launchAccess_vmxOperation :
    (q.launchAccess turn p).1.vmxOperation = true → q.vmxOperation = true ∨ p = .vmxon := by
  fun_cases Processor.launchAccess turn q p <;> simp_all

theorem launchAccess_live (live : p.isPreparing = true → isLive q.words.state = true)
    (next : (q.launchAccess turn p).2.isPreparing = true) :
    isLive (q.launchAccess turn p).1.words.state = true := by
  revert live next
  fun_cases Processor.launchAccess turn q p <;> simp

theorem launchAccess_native (native : p.phase = .native → q.words.vmxe = false)
    (fresh : q.words.state = .uninitialized → q.words.vmxe = false)
    (next : (q.launchAccess turn p).2.phase = .native) :
    (q.launchAccess turn p).1.words.vmxe = false := by
  revert native next fresh
  fun_cases Processor.launchAccess turn q p <;> simp_all

theorem launchAccess_enabled (next : (q.launchAccess turn p).2 = .vmxon) :
    (q.launchAccess turn p).1.words.vmxe = true := by
  revert next
  fun_cases Processor.launchAccess turn q p <;> simp

theorem launchAccess_off (off : p.phase = .off → q.vmxOperation = false)
    (native : p.phase = .native → q.vmxOperation = false)
    (next : (q.launchAccess turn p).2.phase = .off) :
    (q.launchAccess turn p).1.vmxOperation = false := by
  revert off native next
  fun_cases Processor.launchAccess turn q p <;> simp

theorem launchAccess_on (on : p.phase.isOn = true → q.vmxOperation = true)
    (next : (q.launchAccess turn p).2.phase.isOn = true) :
    (q.launchAccess turn p).1.vmxOperation = true := by
  revert on next
  fun_cases Processor.launchAccess turn q p <;> simp

theorem launchAccess_current (current : p.phase.isCurrent = true → q.vmcsCurrent ≠ .none)
    (next : (q.launchAccess turn p).2.phase.isCurrent = true) :
    (q.launchAccess turn p).1.vmcsCurrent ≠ .none := by
  revert current next
  fun_cases Processor.launchAccess turn q p <;> simp

theorem launchAccess_marked (marked : p.phase = .marked → q.words.state = .launched)
    (next : (q.launchAccess turn p).2.phase = .marked) :
    (q.launchAccess turn p).1.words.state = .launched := by
  revert marked next
  fun_cases Processor.launchAccess turn q p <;> simp

/-- The launch knows at every point what it needs for its next access. -/
theorem Prepared.access (prepared : Prepared q p)
    (operation : q.vmxOperation = true → q.words.vmxe = true)
    (fresh : q.words.state = .uninitialized → q.words.vmxe = false) :
    Prepared (q.launchAccess turn p).1 (q.launchAccess turn p).2 where
  live := launchAccess_live prepared.live
  native := launchAccess_native prepared.native fresh
  enabled := launchAccess_enabled
  off := by
    refine launchAccess_off prepared.off fun native => ?_
    by_contra on
    have enabled := operation (by simpa using on)
    rw [prepared.native native] at enabled
    cases enabled
  on := launchAccess_on prepared.on
  current := launchAccess_current prepared.current
  marked := launchAccess_marked prepared.marked
  claimed := fun next => launchAccess_isClaimed next prepared.claimed

theorem launchAccess_owned (prepared : Prepared q p)
    (owned : q.words.vmxe = true → isLive q.words.state = true ∨ q.vmcsCurrent ≠ .none)
    (on : (q.launchAccess turn p).1.words.vmxe = true) :
    isLive (q.launchAccess turn p).1.words.state = true ∨
      (q.launchAccess turn p).1.vmcsCurrent ≠ .none := by
  obtain ⟨live, native, -, -, -, current, -, -⟩ := prepared
  revert live native current owned on
  fun_cases Processor.launchAccess turn q p <;> simp_all

theorem launchAccess_operation (prepared : Prepared q p)
    (operation : q.vmxOperation = true → q.words.vmxe = true)
    (on : (q.launchAccess turn p).1.vmxOperation = true) :
    (q.launchAccess turn p).1.words.vmxe = true := by
  obtain ⟨-, -, enabled, off, -, -, -, -⟩ := prepared
  revert enabled off operation on
  fun_cases Processor.launchAccess turn q p <;> simp_all

end Launch

namespace Sound

variable (sound : Sound q)

include sound

/-- While the launch owns the vCPU, and where it is about to, no caller has got
anywhere. -/
theorem launch_untouched (turn : Turn)
    (preparing : (q.launchAccess turn q.launch).2.isPreparing = true) : Untouched q := by
  rcases launchAccess_isPreparing preparing with already | ⟨_, fresh⟩
  · exact sound.untouched (.inr already)
  · exact sound.untouched (.inl fresh)

theorem launch_guest (turn : Turn) (active : (q.launchAccess turn q.launch).1.guest = true) :
    (q.launchAccess turn q.launch).1.vmxOperation = true ∧
      ((q.launchAccess turn q.launch).1.words.state = .launched ∨
        (q.launchAccess turn q.launch).1.words.state = .tearingDown ∨
        (q.launchAccess turn q.launch).1.words.state = .parked) := by
  rcases launchAccess_guest q turn q.launch with same | ⟨here, entered⟩
  · have before := same ▸ active
    have released : ¬q.launch.isPreparing = true := fun preparing => by
      rw [(sound.untouched (.inr preparing)).noGuest] at before
      cases before
    obtain ⟨on, state⟩ := sound.guest before
    refine ⟨launchAccess_stays released on, ?_⟩
    rcases launchAccess_state q turn q.launch with kept | preparing | claim
    · rwa [kept]
    · exact absurd preparing released
    · rw [claim.2] at state
      simp at state
  · have on := sound.prepared.on (by rw [here]; rfl)
    have launched := sound.prepared.marked (by rw [here]; rfl)
    rw [entered]
    exact ⟨on, .inl launched⟩

theorem launch_fresh (turn : Turn)
    (fresh : (q.launchAccess turn q.launch).1.words.state = .uninitialized) :
    (q.launchAccess turn q.launch).1.words = q.words ∧
      (q.launchAccess turn q.launch).1.guest = q.guest := by
  rcases launchAccess_fresh fresh with claimed | kept
  · have gone := launchAccess_claimed turn claimed (sound.prepared.claimed claimed)
    exact absurd fresh gone
  · exact kept

/-- A step of the launch keeps its processor sound. -/
theorem launched (turn : Turn) (free : q.isFree = true) :
    Sound { (q.launchAccess turn q.launch).1 with
      launch := (q.launchAccess turn q.launch).2 } := by
  obtain ⟨points, dpc, worker, work, memory, root⟩ := launchAccess_frame turn q q.launch
  constructor
  case operation => exact launchAccess_operation sound.prepared sound.operation
  case owned => exact launchAccess_owned sound.prepared sound.owned
  case guest => exact sound.launch_guest turn
  case root =>
    simp only [points, root]
    exact fun a inside => absurd inside (sound.not_inRoot_of_free free a)
  case native =>
    simp only [points]
    intro a native
    rcases launchAccess_vmxe q turn q.launch with same | off | here
    · exact same.trans (sound.native a native)
    · exact off
    · have outside := (sound.untouched (.inr (by rw [here]; rfl))).outside a
      revert native outside
      cases q.points a <;> simp [Point.isNative, isOutside]
  case halted =>
    intro halted
    rcases launchAccess_halted q turn q.launch with same | ⟨stuck, parked⟩
    · rw [show (q.launchAccess turn q.launch).1.words.halted = true from halted] at same
      rw [Processor.isFree, ← same] at free
      simp at free
    · refine ⟨parked, fun a => ?_, by simp only [stuck]; rfl⟩
      simp only [points]
      exact Bool.eq_false_iff.mpr fun inside => sound.not_inRoot_of_free free a inside
  case fresh =>
    intro fresh
    obtain ⟨kept, _⟩ := sound.launch_fresh turn fresh
    rw [kept] at fresh ⊢
    exact sound.fresh fresh
  case untouched =>
    rintro (fresh | preparing)
    · obtain ⟨kept, guest⟩ := sound.launch_fresh turn fresh
      obtain ⟨inactive, noGuest, outside⟩ := sound.untouched (.inl (kept ▸ fresh))
      exact ⟨kept ▸ inactive, guest.trans noGuest, points.symm ▸ outside⟩
    · obtain ⟨inactive, noGuest, outside⟩ := sound.launch_untouched turn preparing
      obtain ⟨guest, stage⟩ := launchAccess_enters preparing
      exact ⟨stage inactive, guest.trans noGuest, by simpa only [points] using outside⟩
  case prepared => exact (sound.prepared.access sound.operation sound.fresh).congr rfl rfl rfl
  case callers =>
    simp only [points, worker]
    exact sound.callers
  case handle =>
    simp only [worker, work]
    exact sound.handle
  case queued =>
    simp only [dpc]
    exact fun inserted => sound.queued (launchAccess_absent inserted)
  case memory =>
    simp only [memory]
    rintro (inserted | on)
    · exact sound.memory (.inl (launchAccess_absent inserted))
    · refine sound.memory ((launchAccess_vmxOperation on).elim .inr fun here => .inl ?_)
      rw [here]
      exact nofun

end Sound

end Knhv.Lifecycle
