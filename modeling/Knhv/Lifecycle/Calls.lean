import Knhv.Teardown.Claims
import Knhv.Lifecycle.Processor

namespace Knhv.Lifecycle

open Teardown

/-- A VMCS or a host stack of the processor may still be in use. -/
def isLive (state : VcpuState) : Bool :=
  state = .launched || state = .vmxOn || state = .starting || state = .tearingDown ||
    state = .parked

/-- Where guest kernel code can stand that asks for an unload by itself. -/
def isUnsolicited : Point → Bool
  | .idle | .done | .parkStage | .parkState => true
  | .vmcall caller | .exit caller | .markerRequest caller | .markerState caller
  | .markerStage caller | .consumeRequest caller | .vmxoff caller => !caller
  | _ => false

/-- Where `StopHvCallback` can stand. -/
def isCallback : Point → Bool
  | .markedQuiesced | .markedRequest | .markedState | .markStopped | .markStoppedStage
  | .runningState | .runningStage => false
  | _ => true

/-- The caller has claimed nothing, and no VM exit of it is being handled. -/
def isOutside : Point → Bool
  | .idle | .readState | .readStage _ | .claimStage | .vmcall false | .done => true
  | _ => false

variable {k : Nat} {turn : Turn} {q : Processor} {p : Point} {next : Processor × Point}

/-- What one access of a caller does to its processor. -/
inductive Call (k : Nat) (q : Processor) : Point → Processor × Point → Prop
  | exits (caller : Bool) : q.guest = true →
      Call k q (.vmcall caller) ({ q with words := { q.words with root := some k } }, .exit caller)
  | fails : q.guest = false → Call k q (.vmcall true) (q, .readCr4)
  | faults (caller : Bool) : q.guest = false → Call k q (.vmcall caller) (q, .done)
  | refuses (caller : Bool) : Call k q (.vmxoff caller) (q, .parkStage)
  | clears (caller : Bool) (turn : Turn) : Call k q (.vmxoff caller) (q.clearVmcs turn, .vmxoff caller)
  | keeps (caller : Bool) (turn : Turn) : Call k q (.vmxoff caller) (q.clearVmcs turn, .parkStage)
  | native : Call k q (.vmxoff true)
      ({ q.leaveVmx with words := q.leaveVmx.words.leaveRoot }, .readCr4)
  | returns : Call k q (.vmxoff false)
      ({ q.leaveVmx with words := q.leaveVmx.words.leaveRoot }, .done)
  | moves (p : Point) (turn : Teardown.Turn) :
      (∀ caller, p ≠ .vmcall caller) → (∀ caller, p ≠ .vmxoff caller) →
      Call k q p ({ q with words := (access k turn q.words p).1 }, (access k turn q.words p).2)

theorem callerAccess_call (k : Nat) (turn : Turn) (q : Processor) (p : Point) :
    Call k q p (q.callerAccess k turn p) := by
  fun_cases Processor.callerAccess k turn q p
  case case1 caller guest => exact .exits caller guest
  case case2 caller guest root =>
    simp only [Bool.and_eq_true] at root
    obtain ⟨_, rfl⟩ := root
    exact .fails (by simpa using guest)
  case case3 caller guest root => exact .faults caller (by simpa using guest)
  case case4 caller refused => exact .refuses caller
  case case5 caller accepted current cleared => exact .clears caller turn
  case case6 caller accepted current kept => exact .keeps caller turn
  case case7 accepted current => exact .native
  case case8 accepted current solicited =>
    rw [Bool.not_eq_true] at solicited
    subst solicited
    exact .returns
  case case9 notVmcall notVmxoff => exact .moves p turn.exit notVmcall notVmxoff

section Access

attribute [local simp] Words.note Words.casState Words.casStage Words.clearRequest Words.leaveRoot
  Words.leaveVmx Words.noteDeferred Point.inRoot Point.isNative isUnsolicited isCallback isOutside

variable {w : Words} {exit : Teardown.Turn}

theorem access_inRoot (inside : (access k exit w p).2.inRoot = true)
    (notVmcall : ∀ caller, p ≠ .vmcall caller) :
    p.inRoot = true ∧ (access k exit w p).1.root = w.root := by
  revert inside notVmcall
  fun_cases access k exit w p <;> simp_all

theorem access_isNative (native : (access k exit w p).2.isNative = true) :
    p.isNative = true ∨ w.vmxe = false := by
  revert native
  fun_cases access k exit w p <;> simp_all

theorem access_halted :
    (access k exit w p).1.halted = w.halted ∨
      p = .parkState ∧ (access k exit w p).2 = .done ∧
        (access k exit w p).1.state = .parked := by
  fun_cases access k exit w p <;> simp_all

theorem access_isUnsolicited (unsolicited : isUnsolicited p = true) :
    isUnsolicited (access k exit w p).2 = true := by
  revert unsolicited
  fun_cases access k exit w p <;> simp_all

theorem access_isCallback (callback : isCallback p = true) :
    isCallback (access k exit w p).2 = true := by
  revert callback
  fun_cases access k exit w p <;> simp_all

/-- A caller that stays outside claims nothing while no guest is active. -/
theorem access_isOutside (outside : isOutside p = true) (inactive : w.launchStage ≠ .guestActive)
    (notVmcall : ∀ caller, p ≠ .vmcall caller) :
    (access k exit w p).1 = w ∧ isOutside (access k exit w p).2 = true := by
  revert outside notVmcall
  fun_cases access k exit w p <;> simp_all [canClaim]

end Access

namespace Call

/-- A call changes nothing but the words, the VMCS and VMX operation. -/
theorem frame (call : Call k q p next) :
    next.1.points = q.points ∧ next.1.launch = q.launch ∧ next.1.dpc = q.dpc ∧
      next.1.worker = q.worker ∧ next.1.work = q.work ∧ next.1.memory = q.memory := by
  cases call <;> exact ⟨rfl, rfl, rfl, rfl, rfl, rfl⟩

theorem state (call : Call k q p next) :
    next.1.words.state = q.words.state ∨
      p = .parkState ∧ next.1.words.state = .parked ∨
      q.words.state = .launched ∧ next.1.words.state = .tearingDown ∨
      q.words.state = .tearingDown ∧ next.1.words.state = .launched ∨
      (p = .publishStopped ∨ p = .markStopped) ∧ q.words.state = .tearingDown ∧
        next.1.words.state = .stopped := by
  cases call with
  | moves p turn notVmcall notVmxoff =>
    rcases (Move.proceed p turn).state with same | parked | claimed | restored | stopped
    · exact .inl same
    · exact .inr (.inl ⟨parked.1, parked.2.1⟩)
    · exact .inr (.inr (.inl claimed.2))
    · exact .inr (.inr (.inr (.inl restored.2)))
    · exact .inr (.inr (.inr (.inr ⟨stopped.1, stopped.2.1, stopped.2.2.1⟩)))
  | _ => exact .inl rfl

/-- VMX operation stays, or ends behind the marker. -/
theorem operation (call : Call k q p next) :
    next.1.words.vmxe = q.words.vmxe ∧ next.1.vmxOperation = q.vmxOperation ∧
        next.1.guest = q.guest ∨
      next.1.words.vmxe = false ∧ next.1.vmxOperation = false ∧ next.1.guest = false := by
  cases call with
  | native => exact .inr ⟨rfl, rfl, rfl⟩
  | returns => exact .inr ⟨rfl, rfl, rfl⟩
  | moves p turn notVmcall notVmxoff =>
    rcases (Move.proceed p turn).vmxe with same | ⟨caller, here⟩
    · exact .inl ⟨same, rfl, rfl⟩
    · exact absurd here (notVmxoff caller)
  | _ => exact .inl ⟨rfl, rfl, rfl⟩

theorem vmcsCurrent (call : Call k q p next) :
    next.1.vmcsCurrent = q.vmcsCurrent ∨
      p.inRoot = true ∧ next.1.words.state = q.words.state := by
  cases call with
  | clears caller turn => exact .inr ⟨rfl, rfl⟩
  | keeps caller turn => exact .inr ⟨rfl, rfl⟩
  | _ => exact .inl rfl

theorem inRoot (call : Call k q p next) (inside : next.2.inRoot = true)
    (before : p.inRoot = true → q.guest = true ∧ q.words.root = some k) :
    next.1.guest = true ∧ next.1.words.root = some k := by
  cases call with
  | exits caller guest => exact ⟨guest, rfl⟩
  | refuses caller => exact before rfl
  | clears caller turn => exact before rfl
  | keeps caller turn => exact before rfl
  | moves p turn notVmcall notVmxoff =>
    obtain ⟨already, same⟩ := access_inRoot inside notVmcall
    exact ⟨(before already).1, same.trans (before already).2⟩
  | _ => cases inside

theorem isNative (call : Call k q p next) (native : next.2.isNative = true)
    (before : p.isNative = true → q.words.vmxe = false) : next.1.words.vmxe = false := by
  cases call with
  | moves p turn notVmcall notVmxoff =>
    have off := (access_isNative native).elim before id
    rcases (Move.proceed p turn).vmxe with same | ⟨caller, here⟩
    · exact same.trans off
    · exact absurd here (notVmxoff caller)
  | _ => cases native

theorem halted (call : Call k q p next) :
    next.1.words.halted = q.words.halted ∨
      p = .parkState ∧ next.2 = .done ∧ next.1.words.state = .parked := by
  cases call with
  | moves p turn notVmcall notVmxoff => exact access_halted
  | _ => exact .inl rfl

theorem unsolicited (call : Call k q p next) (unsolicited : isUnsolicited p = true) :
    isUnsolicited next.2 = true := by
  cases call with
  | moves p turn notVmcall notVmxoff => exact access_isUnsolicited unsolicited
  | fails => cases unsolicited
  | native => cases unsolicited
  | exits caller => exact unsolicited
  | clears caller turn => exact unsolicited
  | _ => rfl

theorem callback (call : Call k q p next) (callback : isCallback p = true) :
    isCallback next.2 = true := by
  cases call with
  | moves p turn notVmcall notVmxoff => exact access_isCallback callback
  | _ => rfl

/-- A caller outside does nothing while no guest is active. -/
theorem outside (call : Call k q p next) (outside : isOutside p = true)
    (inactive : q.words.launchStage ≠ .guestActive) (noGuest : q.guest = false) :
    next.1 = q ∧ isOutside next.2 = true := by
  cases call with
  | exits caller guest =>
    rw [noGuest] at guest
    cases guest
  | faults caller guest => exact ⟨rfl, rfl⟩
  | moves p turn notVmcall notVmxoff =>
    obtain ⟨same, stays⟩ := access_isOutside outside inactive notVmcall
    exact ⟨by rw [same], stays⟩
  | _ => cases outside

end Call

end Knhv.Lifecycle
