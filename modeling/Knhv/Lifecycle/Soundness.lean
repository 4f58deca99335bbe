import Knhv.Lifecycle.Calls

namespace Knhv.Lifecycle

open Teardown

/-- How far a launch has come. -/
inductive LaunchPhase
  | waiting | native | off | passing | ready | marked | aborting | parking | stuck | reporting
  | ended
  deriving DecidableEq

namespace LaunchPhase

/-- The launch owns the vCPU: it has won the state, and neither given it back nor
handed the processor to its guest. -/
def isPreparing : LaunchPhase → Bool
  | native | off | passing | ready | marked | aborting | parking => true
  | _ => false

/-- The VMCS of the processor is current and not yet given back. -/
def isCurrent : LaunchPhase → Bool
  | ready | marked | aborting => true
  | _ => false

/-- The processor is in VMX root operation. -/
def isOn (phase : LaunchPhase) : Bool := phase = .passing || phase.isCurrent

/-- The launch has found the state word no longer uninitialized. -/
def isClaimed : LaunchPhase → Bool
  | waiting | ended => false
  | _ => true

theorem isPreparing_of_isCurrent {phase : LaunchPhase} (current : phase.isCurrent = true) :
    phase.isPreparing = true := by
  cases phase <;> first | rfl | cases current

theorem isPreparing_of_isOn {phase : LaunchPhase} (on : phase.isOn = true) :
    phase.isPreparing = true := by
  cases phase <;> first | rfl | cases on

end LaunchPhase

namespace LaunchPoint

/-- CR4.VMXE is clear while a point is `native`, VMX operation is off while it is
`off`, the VMCS is not current while it is `passing`, and `MarkCurrentVcpuLaunched`
has gone through where it is `marked`. -/
def phase : LaunchPoint → LaunchPhase
  | absent | queued | claimState => .waiting
  | writeStageEntry | clearQuiesced | clearRequest | clearVmcsCurrent | check | writeCr4
  | writeFailed | abortFail => .native
  | vmxon | restoreCr4 | abortRestoreCr4 => .off
  | writeStageVmxOn | writeStateVmxOn | injectAfterVmxon | vmclear | vmptrld | publishVmcs
  | rollBackClear | rollBackVmxoff | abortClear | abortVmxoff => .passing
  | setupVmcs | writeStageReady | inject | markStage | markState => .ready
  | readCr4 | vmlaunch => .marked
  | abortStage _ | abortClaimStage _ _ | abortNative | abortNativeClaim _ | abortState
  | abortClaimState _ => .aborting
  | parkStage | parkState => .parking
  | stuck => .stuck
  | readState | runningState | runningStage | readStage => .reporting
  | writeResult _ | returned => .ended

def isPreparing (p : LaunchPoint) : Bool := p.phase.isPreparing

end LaunchPoint

/-- What a launch at the point `p` knows of its processor. -/
structure Prepared (q : Processor) (p : LaunchPoint) : Prop where
  live : p.isPreparing = true → isLive q.words.state = true
  native : p.phase = .native → q.words.vmxe = false
  enabled : p = .vmxon → q.words.vmxe = true
  off : p.phase = .off → q.vmxOperation = false
  on : p.phase.isOn = true → q.vmxOperation = true
  current : p.phase.isCurrent = true → q.vmcsCurrent ≠ .none
  marked : p.phase = .marked → q.words.state = .launched
  claimed : p.phase.isClaimed = true → q.words.state ≠ .uninitialized

/-- A launch that owns nothing knows only that the vCPU is claimed. -/
theorem Prepared.of_released {q : Processor} {p : LaunchPoint} (released : ¬p.isPreparing = true)
    (claimed : p.phase.isClaimed = true → q.words.state ≠ .uninitialized) : Prepared q p := by
  constructor
  case live => exact fun preparing => absurd preparing released
  case native => exact fun native => absurd (by rw [LaunchPoint.isPreparing, native]; rfl) released
  case enabled => exact fun here => absurd (by rw [here]; rfl) released
  case off => exact fun off => absurd (by rw [LaunchPoint.isPreparing, off]; rfl) released
  case on => exact fun on => absurd (LaunchPhase.isPreparing_of_isOn on) released
  case current => exact fun current => absurd (LaunchPhase.isPreparing_of_isCurrent current) released
  case marked => exact fun marked => absurd (by rw [LaunchPoint.isPreparing, marked]; rfl) released
  case claimed => exact claimed

theorem Prepared.congr {q q' : Processor} {p : LaunchPoint} (prepared : Prepared q p)
    (words : q'.words = q.words) (operation : q'.vmxOperation = q.vmxOperation)
    (current : q'.vmcsCurrent = q.vmcsCurrent) : Prepared q' p where
  live := words ▸ prepared.live
  native := words ▸ prepared.native
  enabled := words ▸ prepared.enabled
  off := operation ▸ prepared.off
  on := operation ▸ prepared.on
  current := current ▸ prepared.current
  marked := words ▸ prepared.marked
  claimed := words ▸ prepared.claimed

/-- No guest of the processor can be reached. -/
structure Untouched (q : Processor) : Prop where
  inactive : q.words.launchStage ≠ .guestActive
  noGuest : q.guest = false
  outside : ∀ a, isOutside (q.points a) = true

/-- What holds of a processor that has halted, beside its words. -/
structure Halted (q : Processor) : Prop where
  state : q.words.state = .parked
  outside : ∀ a, (q.points a).inRoot = false
  released : q.launch.isPreparing = false

/-- What holds of every processor at any time. -/
structure Sound (q : Processor) : Prop where
  operation : q.vmxOperation = true → q.words.vmxe = true
  owned : q.words.vmxe = true → isLive q.words.state = true ∨ q.vmcsCurrent ≠ .none
  guest : q.guest = true → q.vmxOperation = true ∧
    (q.words.state = .launched ∨ q.words.state = .tearingDown ∨ q.words.state = .parked)
  root : ∀ a, (q.points a).inRoot = true → q.guest = true ∧ q.words.root = some a
  native : ∀ a, (q.points a).isNative = true → q.words.vmxe = false
  halted : q.words.halted = true → Halted q
  fresh : q.words.state = .uninitialized → q.words.vmxe = false
  untouched : q.words.state = .uninitialized ∨ q.launch.isPreparing = true → Untouched q
  prepared : Prepared q q.launch
  callers : ∀ a, isUnsolicited (q.points a) = true ∨
    q.worker = .stopping a ∧ isCallback (q.points a) = true
  handle : q.worker ≠ .absent → q.work.threadHandle = true
  queued : q.launch ≠ .absent → q.dpc.dpcQueued = true
  memory : q.launch ≠ .absent ∨ q.vmxOperation = true → q.memory = true

variable {q : Processor} {k : Nat} {turn : Turn} {next : Processor × Point}

@[simp] theorem isLive_starting : isLive .starting = true := rfl

@[simp] theorem isLive_vmxOn : isLive .vmxOn = true := rfl

@[simp] theorem isLive_launched : isLive .launched = true := rfl

@[simp] theorem isLive_tearingDown : isLive .tearingDown = true := rfl

@[simp] theorem isLive_parked : isLive .parked = true := rfl

theorem isLive_of_guest {state : VcpuState}
    (guest : state = .launched ∨ state = .tearingDown ∨ state = .parked) : isLive state = true := by
  rcases guest with rfl | rfl | rfl <;> rfl

namespace Sound

variable (sound : Sound q)

include sound

/-- Where the words say that nothing is left, VMX operation is over. -/
theorem vmxe_of_terminal (terminal : isVcpuStopTerminal q.words.state = true)
    (cleared : q.vmcsCurrent = .none) : q.words.vmxe = false := by
  by_contra on
  rcases sound.owned (by simpa using on) with live | current
  · revert live terminal
    cases q.words.state <;> simp [isLive, isVcpuStopTerminal]
  · exact current cleared

theorem noGuest_of_terminal (terminal : isVcpuStopTerminal q.words.state = true) :
    q.guest = false := by
  by_contra active
  rcases (sound.guest (by simpa using active)).2 with state | state | state <;>
    simp [state, isVcpuStopTerminal] at terminal

/-- Whoever is about to call the vCPU stopped has seen VMX operation off. -/
theorem vmxe_of_stopping (last : q.points k = .publishStopped ∨ q.points k = .markStopped) :
    q.words.vmxe = false := by
  rcases last with here | here
  · exact sound.native k (by rw [here]; rfl)
  · rcases sound.callers k with unsolicited | ⟨_, callback⟩
    · rw [here] at unsolicited
      cases unsolicited
    · rw [here] at callback
      cases callback

/-- No VM exit is being handled on a free processor. -/
theorem not_inRoot_of_free (free : q.isFree = true) (a : Nat) : ¬(q.points a).inRoot = true := by
  intro inside
  rw [Processor.isFree, (sound.root a inside).2] at free
  simp at free

/-- While `k` runs no VM exit of another caller is being handled. -/
theorem root_own (runs : q.words.canRun k = true) {a : Nat}
    (inside : (q.points a).inRoot = true) : a = k := by
  obtain ⟨_, free⟩ := Words.canRun_iff.mp runs
  rw [(sound.root a inside).2] at free
  rcases free with none | mine
  · cases none
  · exact Option.some.inj mine

end Sound

/-- A statement about every caller after one has moved: it holds of the one that
moves and of the others. -/
theorem points_all {P : Nat → Point → Prop} {points : Nat → Point} {point : Point}
    (own : P k point) (others : ∀ a, a ≠ k → P a (points a)) (a : Nat) :
    P a (Function.update points k point a) := by
  by_cases mine : a = k
  · subst mine
    rw [Function.update_self]
    exact own
  · rw [Function.update_of_ne mine]
    exact others a mine

section Calls

variable (sound : Sound q) (call : Call k q (q.points k) next)

include sound call

theorem Sound.call_untouched (early : next.1.words.state = .uninitialized ∨
    next.1.launch.isPreparing = true) :
    Untouched q ∧ next.1 = q ∧ isOutside next.2 = true := by
  have before : Untouched q := by
    refine sound.untouched (early.imp (fun fresh => ?_) fun preparing => ?_)
    · rcases call.state with same | other | other | other | other
      · exact same ▸ fresh
      all_goals simp_all
    · exact call.frame.2.1 ▸ preparing
  exact ⟨before, call.outside (before.outside k) before.inactive before.noGuest⟩

theorem Sound.call_guest (active : next.1.guest = true) :
    next.1.vmxOperation = true ∧ (next.1.words.state = .launched ∨
      next.1.words.state = .tearingDown ∨ next.1.words.state = .parked) := by
  rcases call.operation with ⟨vmxe, operation, guest⟩ | ⟨_, _, gone⟩
  · obtain ⟨on, before⟩ := sound.guest (guest ▸ active)
    refine ⟨operation.trans on, ?_⟩
    rcases call.state with same | parked | claimed | restored | ⟨last, _, _⟩
    · rwa [same]
    · exact .inr (.inr parked.2)
    · exact .inr (.inl claimed.2)
    · exact .inl restored.2
    · have off := sound.vmxe_of_stopping last
      rw [sound.operation on] at off
      cases off
  · rw [gone] at active
    cases active

theorem Sound.call_owned (on : next.1.words.vmxe = true) :
    isLive next.1.words.state = true ∨ next.1.vmcsCurrent ≠ .none := by
  rcases call.operation with ⟨vmxe, _, _⟩ | ⟨off, _, _⟩
  · have before := vmxe ▸ on
    rcases call.vmcsCurrent with same | ⟨inside, state⟩
    · rcases call.state with kept | parked | claimed | restored | ⟨last, _, _⟩
      · rw [kept, same]
        exact sound.owned before
      · exact .inl (by rw [parked.2]; rfl)
      · exact .inl (by rw [claimed.2]; rfl)
      · exact .inl (by rw [restored.2]; rfl)
      · rw [sound.vmxe_of_stopping last] at before
        cases before
    · rw [state]
      exact .inl (isLive_of_guest (sound.guest (sound.root k inside).1).2)
  · rw [off] at on
    cases on

theorem Sound.call_prepared :
    Prepared { next.1 with points := Function.update q.points k next.2 } q.launch := by
  by_cases preparing : q.launch.isPreparing = true
  · have kept := (sound.call_untouched call (.inr (call.frame.2.1 ▸ preparing))).2.1
    exact sound.prepared.congr (by rw [kept]) (by rw [kept]) (by rw [kept])
  · refine Prepared.of_released preparing fun here => ?_
    have before := sound.prepared.claimed here
    rcases call.state with same | other | other | other | other
    · rwa [same]
    all_goals simp_all

/-- A call of `k` keeps its processor sound. -/
theorem Sound.put (runs : q.words.canRun k = true) :
    Sound { next.1 with points := Function.update q.points k next.2 } := by
  obtain ⟨live, free⟩ := Words.canRun_iff.mp runs
  obtain ⟨_, launch, dpc, worker, work, memory⟩ := call.frame
  constructor
  case operation =>
    intro on
    rcases call.operation with ⟨vmxe, operation, _⟩ | ⟨_, off, _⟩
    · exact vmxe.trans (sound.operation (operation ▸ on))
    · rw [show next.1.vmxOperation = true from on] at off
      cases off
  case owned => exact sound.call_owned call
  case guest => exact sound.call_guest call
  case root =>
    refine points_all (P := fun a p => p.inRoot = true → _) (fun inside => ?_)
      fun b other inside => ?_
    · exact call.inRoot inside (sound.root k)
    · exact absurd (sound.root_own runs inside) other
  case native =>
    refine points_all (P := fun _ p => p.isNative = true → _) (fun native => ?_)
      fun b _ native => ?_
    · exact call.isNative native (sound.native k)
    · have off := sound.native b native
      rcases call.operation with ⟨vmxe, _, _⟩ | ⟨gone, _, _⟩
      · exact vmxe.trans off
      · exact gone
  case halted =>
    intro halted
    rcases call.halted with same | parked
    · rw [show next.1.words.halted = true from halted, live] at same
      cases same
    · obtain ⟨here, gone, state⟩ := parked
      have inside : (q.points k).inRoot = true := by rw [here]; rfl
      refine ⟨state, ?_, ?_⟩
      · refine points_all (P := fun _ p => p.inRoot = false) (by rw [gone]; rfl) fun b other => ?_
        exact Bool.eq_false_iff.mpr fun within => other (sound.root_own runs within)
      · simp only [launch]
        refine Bool.eq_false_iff.mpr fun preparing => ?_
        have active := (sound.root k inside).1
        rw [(sound.untouched (.inr preparing)).noGuest] at active
        cases active
  case fresh =>
    intro fresh
    have kept := (sound.call_untouched call (.inl fresh)).2.1
    rw [kept] at fresh ⊢
    exact sound.fresh fresh
  case untouched =>
    intro early
    obtain ⟨before, kept, outside⟩ := sound.call_untouched call early
    refine ⟨by rw [kept]; exact before.inactive, by rw [kept]; exact before.noGuest, ?_⟩
    exact points_all (P := fun _ p => isOutside p = true) outside fun b _ => before.outside b
  case prepared =>
    have known := sound.call_prepared call
    rwa [← launch] at known
  case callers =>
    simp only [worker]
    refine points_all (P := fun a p => isUnsolicited p = true ∨
      q.worker = .stopping a ∧ isCallback p = true) ?_ fun b _ => sound.callers b
    rcases sound.callers k with unsolicited | ⟨mine, callback⟩
    · exact .inl (call.unsolicited unsolicited)
    · exact .inr ⟨mine, call.callback callback⟩
  case handle =>
    simp only [worker, work]
    exact sound.handle
  case queued =>
    simp only [launch, dpc]
    exact sound.queued
  case memory =>
    simp only [launch, memory]
    rintro (inserted | on)
    · exact sound.memory (.inl inserted)
    · rcases call.operation with ⟨_, operation, _⟩ | ⟨_, off, _⟩
      · exact sound.memory (.inr (operation ▸ on))
      · rw [off] at on
        cases on

end Calls

end Knhv.Lifecycle
