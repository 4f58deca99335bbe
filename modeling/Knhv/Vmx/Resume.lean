import Mathlib
import Knhv.Vmx.Settled

open Std.Do

set_option mvcgen.warning false

namespace Knhv.Vmx

/-- RIP was moved once, behind an instruction of 1 to 15 bytes, to a canonical
address and without wrapping, and no event is armed. -/
structure Skipped (m : Machine) (start : ExitState) (now : Steering) : Prop where
  length : 1 ≤ (start.vmcs .vmExitInstructionLen).toNat ∧
    (start.vmcs .vmExitInstructionLen).toNat ≤ 15
  once : ripWrites now.log = [start.vmcs .guestRip + start.vmcs .vmExitInstructionLen]
  vmcsRip : now.vmcs .guestRip = start.vmcs .guestRip + start.vmcs .vmExitInstructionLen
  forward : (start.vmcs .guestRip + start.vmcs .vmExitInstructionLen).toNat =
    (start.vmcs .guestRip).toNat + (start.vmcs .vmExitInstructionLen).toNat
  canonical : isCanonical m (start.vmcs .guestRip + start.vmcs .vmExitInstructionLen) = true
  unarmed : armedEvents now.log = []
  cleared : now.vmcs .controlVmEntryIntrInfoField = 0

/-- What lets the guest go on. -/
structure Resumable (m : Machine) (start : ExitState) (now : Steering) : Prop
    extends Clean start now where
  continues : Skipped m start now ∨ Armed start now

/-- How the end of the exit is decided. -/
def Concluded (m : Machine) (start : ExitState) (exitReason : U32) (now : Steering) : Prop :=
  Stopped now ∨ Resumable m start now ∨ (exitReason = vmExitReasonVmcall ∧ Aborting start now)

section

variable (m : Machine) (start : ExitState)

theorem failExit_fatal :
    ⦃fun _ => ⌜True⌝⦄ failExit requestFatalStop ⦃⇓ _ s => ⌜Stopped s.steering⌝⦄ :=
  spec_intro fun _ _ => ⟨rfl, rfl⟩

theorem failExit_halt :
    ⦃fun s => ⌜Quiet s.steering⌝⦄ failExit haltVm ⦃⇓ _ s => ⌜Stopped s.steering⌝⦄ :=
  spec_intro fun _ quiet => ⟨rfl, quiet.2⟩

theorem failEarly_spec :
    ⦃fun _ => ⌜True⌝⦄ failEarly ⦃⇓ _ s => ⌜Stopped s.steering⌝⦄ :=
  spec_intro fun _ _ => ⟨rfl, rfl⟩

theorem finishExit_keeps (P : Steering → Prop) (advanceRip : Bool) :
    ⦃fun s => ⌜P s.steering⌝⦄ finishExit m advanceRip
    ⦃⇓ _ s => ⌜Stopped s.steering ∨ P s.steering⌝⦄ := by
  have record := modifyVcpu_keeps fun now => Stopped now ∨ P now
  mvcgen [finishExit, record, requestFatalStop_spec]
  case vc1.isTrue.success.pre stopped _ => exact Or.inl stopped
  case vc2.isTrue.success.post.success.isTrue.success.pre stopped => exact Or.inl stopped
  case vc17.isFalse.pre holds _ _ _ _ => exact Or.inr holds
  case vc18.isFalse.post.success.isTrue.success.pre stopped => exact Or.inl stopped

/-- The length and the address that the exit was checked for. -/
structure Advanceable : Prop where
  length : 1 ≤ (start.vmcs .vmExitInstructionLen).toNat ∧
    (start.vmcs .vmExitInstructionLen).toNat ≤ 15
  canonical : isCanonical m (start.vmcs .guestRip) = true

variable {m start}

theorem toNat_add_of_not_lt {first second : U64} (ordered : ¬first + second < first) :
    (first + second).toNat = first.toNat + second.toNat := by
  rw [BitVec.lt_def, BitVec.toNat_add] at ordered
  rw [BitVec.toNat_add]
  have := first.isLt
  have := second.isLt
  omega

/-- The write that moves RIP. -/
theorem Pending.skipped {s : ExitState} (pending : Pending start s.steering)
    (advanceable : Advanceable m start)
    (canonical : isCanonical m (start.vmcs .guestRip + start.vmcs .vmExitInstructionLen) = true)
    (ordered : ¬start.vmcs .guestRip + start.vmcs .vmExitInstructionLen < start.vmcs .guestRip)
    {flags : U64} (ok : vmxOk flags = true) :
    Resumable m start (s.accessed ⟨.guestRip,
      some (start.vmcs .guestRip + start.vmcs .vmExitInstructionLen), flags⟩).steering where
  toClean := pending.toClean.accessed ok
  continues := by
    refine Or.inl ⟨advanceable.length, ?_, ?_, toNat_add_of_not_lt ordered, canonical, ?_, ?_⟩
    · have unmoved : ripWrites s.log = [] := pending.unmoved
      simp only [steering_log, ExitState.accessed, ripWrites_append, unmoved]
      rfl
    · rw [steering_vmcs, accessed_vmcs_self]
    · have unarmed : armedEvents s.log = [] := pending.unarmed
      simp only [steering_log, ExitState.accessed, armedEvents_append, unarmed]
      rfl
    · rw [steering_vmcs, accessed_vmcs_other s _ _ (by decide)]
      exact pending.cleared

theorem setGuestRip_pending (nextRip : U64) :
    ⦃fun s => ⌜Pending start s.steering⌝⦄ setGuestRip nextRip
    ⦃⇓ _ s => ⌜Pending start s.steering⌝⦄ :=
  spec_intro fun _ pending => { pending with }

/-- RIP has just been written. -/
def Moved (start : ExitState) (nextRip : U64) (s : ExitState) : Prop :=
  ∃ (before : ExitState) (flags : U64), Pending start before.steering ∧ vmxOk flags = true ∧
    s = before.accessed ⟨.guestRip, some nextRip, flags⟩

theorem Moved.quiet {nextRip : U64} {s : ExitState} (moved : Moved start nextRip s) :
    Quiet s.steering := by
  obtain ⟨before, flags, pending, _, rfl⟩ := moved
  exact pending.quiet

theorem writeGuestRip_moved (nextRip : U64) :
    ⦃fun s => ⌜Pending start s.steering⌝⦄ vmWriteChecked m .guestRip nextRip
    ⦃⇓ ok s => ⌜Kept (Moved start nextRip) ok s⌝⦄ :=
  write_step (fun _ pending => pending.quiet) (fun _ moved => moved.quiet)
    fun s flags pending ok => ⟨s, flags, pending, ok, rfl⟩

theorem Moved.resumable {guestRip nextRip : U64} {s : ExitState} (moved : Moved start nextRip s)
    (advanceable : Advanceable m start) (same : guestRip = start.vmcs .guestRip)
    (next : nextRip = guestRip + start.vmcs .vmExitInstructionLen)
    (checked : ¬(!isCanonical m nextRip || decide (nextRip < guestRip)) = true) :
    Resumable m start s.steering := by
  obtain ⟨before, flags, pending, ok, rfl⟩ := moved
  subst next same
  simp only [Bool.or_eq_true, Bool.not_eq_true', decide_eq_true_eq, not_or, Bool.not_eq_false]
    at checked
  exact pending.skipped advanceable checked.1 checked.2 ok

theorem advanceGuestRip_live (advanceable : Advanceable m start) :
    ⦃fun s => ⌜Live start s.steering⌝⦄ advanceGuestRip m (start.vmcs .vmExitInstructionLen)
    ⦃⇓ moved s => ⌜Stopped s.steering ∨ (moved = true ∧ Resumable m start s.steering)⌝⦄ := by
  have move := @setGuestRip_pending start
  have write := @writeGuestRip_moved m start
  mvcgen [advanceGuestRip, failExit_fatal, move, write]
  case vc1.isTrue.isTrue.success stopped => exact Or.inl stopped
  case vc2.isTrue.isFalse.pre live _ _ _ _ _ => exact live.toPending
  case vc4.isTrue.isFalse.post.success.post.success.isTrue.success stopped => exact Or.inl stopped
  case vc5.isTrue.isFalse.post.success.post.success.isFalse _ live _ _ _ _ checked _ _ _ ok done _ kept =>
    have moved := kept.held (by simpa using done)
    exact Or.inr ⟨trivial, moved.resumable advanceable live.guestRip rfl checked⟩
  case vc6.isFalse live rip _ skipped =>
    have same : rip = start.vmcs .guestRip := live.guestRip
    refine absurd ?_ skipped
    have positive : start.vmcs .vmExitInstructionLen ≠ 0#64 := by
      intro zero
      have length := advanceable.length.1
      rw [zero] at length
      exact absurd length (by decide)
    rw [same, advanceable.canonical, decide_eq_true positive]
    rfl

/-- The two flags of the context are these. -/
def Flagged (halt abort : Bool) (now : Steering) : Prop :=
  now.haltVm = halt ∧ now.abortVm = abort

theorem writeGuestRip_flagged {halt abort : Bool} (nextRip : U64) :
    ⦃fun s => ⌜Flagged halt abort s.steering⌝⦄ vmWriteChecked m .guestRip nextRip
    ⦃⇓ _ s => ⌜Flagged halt abort s.steering⌝⦄ := by
  refine spec_intro fun s flagged => ?_
  rcases run : vmWriteChecked m .guestRip nextRip s with ⟨ok, now⟩
  rcases spec_run (vmWriteChecked_spec m .guestRip nextRip s) rfl run with
    ⟨_, _, _, rfl⟩ | ⟨_, same⟩
  · exact flagged
  · simp only [Flagged, ExitState.steering] at flagged ⊢
    rw [same]
    exact flagged

/-- Once the end is decided, moving RIP can only park the vCPU. -/
theorem advanceGuestRip_flagged (exitLen : U64) (halt abort : Bool) :
    ⦃fun s => ⌜Flagged halt abort s.steering⌝⦄ advanceGuestRip m exitLen
    ⦃⇓ _ s => ⌜Stopped s.steering ∨ Flagged halt abort s.steering⌝⦄ := by
  have move : ∀ nextRip, ⦃fun s => ⌜Flagged halt abort s.steering⌝⦄ setGuestRip nextRip
      ⦃⇓ _ s => ⌜Flagged halt abort s.steering⌝⦄ :=
    fun _ => spec_intro fun _ flagged => flagged
  have write := @writeGuestRip_flagged m halt abort
  mvcgen [advanceGuestRip, failExit_fatal, move, write]
  case vc1.isTrue.isTrue.success stopped => exact Or.inl stopped
  case vc4.isTrue.isFalse.post.success.post.success.isTrue.success stopped => exact Or.inl stopped
  case vc5.isTrue.isFalse.post.success.post.success.isFalse flagged => exact Or.inr flagged
  case vc6.isFalse flagged _ _ _ => exact Or.inr flagged

theorem advanceGuestRip_concluded {exitReason : U32}
    (advanceable : requiresRipAdvance exitReason = true → Advanceable m start) :
    ⦃fun s => ⌜Dispatched start exitReason true s.steering⌝⦄
    advanceGuestRip m (start.vmcs .vmExitInstructionLen)
    ⦃⇓ _ s => ⌜Concluded m start exitReason s.steering⌝⦄ := by
  refine spec_intro fun s dispatched => ?_
  rcases dispatched with stopped | ⟨_, advances, live⟩ | ⟨undone, _⟩ | ⟨_, vmcall, aborting⟩
  · rcases advanceGuestRip_flagged _ true false s stopped with now | now
    · exact Or.inl now
    · exact Or.inl now
  · rcases advanceGuestRip_live (advanceable advances) s live with now | ⟨_, now⟩
    · exact Or.inl now
    · exact Or.inr (Or.inl now)
  · exact absurd undone (by decide)
  · rcases advanceGuestRip_flagged _ false true s ⟨aborting.running, aborting.leaving⟩ with
      now | ⟨running, leaving⟩
    · exact Or.inl now
    · exact Or.inr (Or.inr ⟨vmcall, running, leaving, aborting.token⟩)

theorem Dispatched.finished {exitReason : U32} {done stays : Bool} {now : Steering}
    (dispatched : Dispatched start exitReason done now) (advances : (done && stays) = true) :
    Dispatched start exitReason true now := by
  rw [Bool.and_eq_true] at advances
  rw [advances.1] at dispatched
  exact dispatched

theorem Dispatched.concluded {exitReason : U32} {done : Bool} {now : Steering}
    (dispatched : Dispatched start exitReason done now)
    (stays : ¬(done && !(now.abortVm && decide (exitReason ≠ vmExitReasonVmcall))) = true) :
    Concluded m start exitReason now := by
  rcases dispatched with stopped | ⟨rfl, _, live⟩ | ⟨_, armed⟩ | ⟨rfl, rfl, _⟩
  · exact Or.inl stopped
  · exact absurd (by rw [live.quiet.2]; rfl) stays
  · exact Or.inr (Or.inl ⟨armed.toClean, Or.inr armed⟩)
  · exact absurd (by simp) stays

theorem finishExit_concluded {exitReason : U32} (advanceRip : Bool) :
    ⦃fun s => ⌜Concluded m start exitReason s.steering⌝⦄ finishExit m advanceRip
    ⦃⇓ _ s => ⌜Concluded m start exitReason s.steering⌝⦄ :=
  spec_intro fun s concluded =>
    (finishExit_keeps m (Concluded m start exitReason) advanceRip s concluded).elim Or.inl id

theorem emulateExit_spec {exitReason : U32}
    (advanceable : requiresRipAdvance exitReason = true → Advanceable m start) :
    ⦃fun s => ⌜Synced start s⌝⦄ emulateExit m exitReason (start.vmcs .vmExitInstructionLen)
    ⦃⇓ _ s => ⌜Concluded m start exitReason s.steering⌝⦄ := by
  have dispatch := dispatchExit_spec start m exitReason
  have record : ∀ now, ⦃fun s => ⌜s.steering = now⌝⦄ recordGsPair ⦃⇓ _ s => ⌜s.steering = now⌝⦄ :=
    fun _ => spec_intro fun _ same => same
  have advance := advanceGuestRip_concluded advanceable
  have finish := @finishExit_concluded m start exitReason
  mvcgen [emulateExit, dispatch, record, advance, finish]
  case vc2.post.success.isTrue.post.success.isTrue.pre dispatched _ _ _ _ _ _ advances _ same =>
    rw [same]
    exact dispatched.finished advances
  case vc5.post.success.isTrue.post.success.isFalse dispatched _ _ _ _ _ _ stays _ same =>
    rw [same]
    exact dispatched.concluded stays
  case vc6.post.success.isFalse.isTrue.pre dispatched _ _ _ _ _ advances =>
    exact dispatched.finished advances
  case vc9.post.success.isFalse.isFalse dispatched _ _ _ _ _ stays =>
    exact dispatched.concluded stays

end

end Knhv.Vmx
