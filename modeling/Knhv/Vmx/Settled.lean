import Mathlib
import Knhv.Vmx.Steering

open Std.Do

set_option mvcgen.warning false

namespace Knhv.Vmx

theorem requestFatalStop_spec :
    ⦃fun _ => ⌜True⌝⦄ requestFatalStop ⦃⇓ _ s => ⌜Stopped s.steering⌝⦄ :=
  fun _ _ => ⟨rfl, rfl⟩

theorem haltVm_spec :
    ⦃fun s => ⌜Quiet s.steering⌝⦄ haltVm ⦃⇓ _ s => ⌜Stopped s.steering⌝⦄ :=
  fun _ quiet => ⟨rfl, quiet.2⟩

/-- An update of the guest context that steers nothing. -/
def Steady (f : GuestContext → GuestContext) : Prop :=
  ∀ c, (f c).haltVm = c.haltVm ∧ (f c).abortVm = c.abortVm ∧ (f c).guestRip = c.guestRip

theorem Steady.steering {f : GuestContext → GuestContext} (steady : Steady f) (s : ExitState) :
    ({ s with ctx := f s.ctx } : ExitState).steering = s.steering := by
  obtain ⟨halt, abort, rip⟩ := steady s.ctx
  simp only [ExitState.steering, halt, abort, rip]

section

variable (P : Steering → Prop)

theorem modifyCtx_keeps (f : GuestContext → GuestContext) (steady : Steady f) :
    ⦃fun s => ⌜P s.steering⌝⦄ modifyCtx f ⦃⇓ _ s => ⌜P s.steering⌝⦄ :=
  spec_intro fun s holds => (congrArg P (steady.steering s)).mpr holds

theorem modifyVcpu_keeps (f : VcpuContext → VcpuContext) :
    ⦃fun s => ⌜P s.steering⌝⦄ modifyVcpu f ⦃⇓ _ s => ⌜P s.steering⌝⦄ :=
  spec_intro fun _ holds => holds

theorem recordVcpu_keeps (m : Machine) (f : VcpuContext → VcpuContext) :
    ⦃fun s => ⌜P s.steering⌝⦄ recordVcpu m f ⦃⇓ _ s => ⌜P s.steering⌝⦄ := by
  have record := modifyVcpu_keeps P
  mvcgen [recordVcpu, record]

end

section

variable (start : ExitState) (m : Machine)

theorem interruptionInfo_valid (vector : U8) (hasErrorCode : Bool) :
    (interruptionInfo vector hasErrorCode).setWidth 64 &&& kVmEntryIntrInfoValid.setWidth 64 ≠
      (0 : U64) := by
  intro clear
  have top := congrArg (·.getLsbD 31) clear
  cases hasErrorCode with
  | true => simp [interruptionInfo, kVmEntryIntrInfoValid, kVmEntryIntrTypeHardwareException,
      kVmEntryIntrInfoDeliverErrorCode] at top
  | false => simp [interruptionInfo, kVmEntryIntrInfoValid, kVmEntryIntrTypeHardwareException] at top

/-- Arming a fault where none is armed. -/
theorem Live.armed {start s : ExitState} (live : Live start s.steering) {vector : U8}
    (fault : vector = 6 ∨ vector = 13) (hasErrorCode : Bool) {flags : U64}
    (ok : vmxOk flags = true) :
    Armed start (s.accessed ⟨.controlVmEntryIntrInfoField,
      some ((interruptionInfo vector hasErrorCode).setWidth 64), flags⟩).steering where
  toClean := live.toClean.accessed ok
  unmoved := by
    have unmoved : ripWrites s.log = [] := live.unmoved
    simp only [steering_log, ExitState.accessed, ripWrites_append, unmoved]
    rfl
  vmcsRip := by
    rw [steering_vmcs, accessed_vmcs_other s _ _ (by decide)]
    exact live.vmcsRip
  armed := by
    have unarmed : armedEvents s.log = [] := live.unarmed
    refine ⟨vector, hasErrorCode, fault, ?_, by rw [steering_vmcs, accessed_vmcs_self]⟩
    simp only [steering_log, ExitState.accessed, armedEvents_append, unarmed, List.nil_append,
      armedEvents_entry]
    exact if_pos (interruptionInfo_valid vector hasErrorCode)

theorem injectGuestException_spec (vector : U8) (fault : vector = 6 ∨ vector = 13)
    (hasErrorCode : Bool) (errorCode : U32) :
    ⦃fun s => ⌜Live start s.steering⌝⦄ injectGuestException m vector hasErrorCode errorCode
    ⦃⇓ _ s => ⌜Refused start s.steering⌝⦄ := by
  have arm : ⦃fun s => ⌜Live start s.steering⌝⦄
      writeAll m (exceptionFields vector hasErrorCode errorCode)
      ⦃⇓ ok s => ⌜Kept (fun s => Armed start s.steering) ok s⌝⦄ :=
    writeAll_step (fun _ live => live.quiet) (fun _ armed => armed.quiet) (fun _ _ live ok => live.armed fault hasErrorCode ok)
      ((robust_armed start).writeAll m _ (by simp; decide))
  mvcgen [injectGuestException, requestFatalStop_spec, haltVm_spec, arm]
  case vc1.isTrue.success stopped => exact Or.inl stopped
  case vc3.isFalse.post.success.isTrue.pre kept => exact kept.quiet
  case vc4.isFalse.post.success.isTrue.post.success => exact Or.inl
  case vc5.isFalse.post.success.isFalse ok _ kept => exact Or.inr (kept.held (by simpa using ok))

theorem refuse_spec :
    ⦃fun s => ⌜Live start s.steering⌝⦄ refuse m ⦃⇓ done s => ⌜Settled start done s.steering⌝⦄ := by
  have inject := injectGuestException_spec start m
  mvcgen [refuse, inject]
  case vc3.post.success refused => exact refused.settled

theorem refuseUndefined_spec :
    ⦃fun s => ⌜Live start s.steering⌝⦄ refuseUndefined m
    ⦃⇓ done s => ⌜done = false ∧ Refused start s.steering⌝⦄ := by
  have inject := injectGuestException_spec start m
  mvcgen [refuseUndefined, inject]

theorem giveUp_spec :
    ⦃fun s => ⌜Quiet s.steering⌝⦄ giveUp ⦃⇓ done s => ⌜Settled start done s.steering⌝⦄ :=
  spec_intro fun _ quiet => Or.inl ⟨rfl, quiet.2⟩

theorem stopVm_spec :
    ⦃fun _ => ⌜True⌝⦄ stopVm ⦃⇓ done s => ⌜done = false ∧ Stopped s.steering⌝⦄ :=
  spec_intro fun _ _ => ⟨rfl, rfl, rfl⟩

theorem commit_spec (writes : List (VmcsField × U64)) (store : GuestContext → GuestContext)
    (plain : ∀ write ∈ writes, Plain write.1) (steady : Steady store) :
    ⦃fun s => ⌜Live start s.steering⌝⦄ commit m writes store
    ⦃⇓ done s => ⌜Settled start done s.steering⌝⦄ := by
  have write := (robust_live start).writeAll m writes plain
  have halt := giveUp_spec start
  have set := modifyCtx_keeps (Live start)
  mvcgen [commit, set, write, halt]
  case vc2.post.success.isTrue kept => exact kept.quiet
  case vc4.post.success.isFalse.pre ok _ kept => exact kept.held (by simpa using ok)
  case vc5.post.success.isFalse.post.success live => exact live.settled

theorem writeGuestMsr_spec (valid : Bool) (field : Option VmcsField) (value : U64)
    (store : GuestContext → GuestContext) (plain : ∀ f, field = some f → Plain f)
    (steady : Steady store) :
    ⦃fun s => ⌜Live start s.steering⌝⦄ writeGuestMsr m valid field value store
    ⦃⇓ done s => ⌜Settled start done s.steering⌝⦄ := by
  have inject := refuse_spec start m
  have done := commit_spec start m
  mvcgen [writeGuestMsr, inject, done]
  case vc3 =>
    intro _ _ write member
    obtain ⟨f, found, rfl⟩ := List.mem_map.mp member
    exact plain f (Option.mem_toList.mp found)
  case vc4 => exact fun _ _ => steady

theorem handleMsrRead_spec :
    ⦃fun s => ⌜Live start s.steering⌝⦄ handleMsrRead m
    ⦃⇓ done s => ⌜Settled start done s.steering⌝⦄ := by
  have inject := refuse_spec start m
  have set := modifyCtx_keeps (Live start)
  mvcgen [handleMsrRead, set, inject]
  case vc2.steady => exact fun _ => ⟨rfl, rfl, rfl⟩
  case vc4.isFalse.h_1.post.success live => exact live.settled

theorem handleXssWrite_spec (value : U64) :
    ⦃fun s => ⌜Live start s.steering⌝⦄ handleXssWrite m value
    ⦃⇓ done s => ⌜Settled start done s.steering⌝⦄ := by
  have inject := refuse_spec start m
  have set := modifyCtx_keeps (Live start)
  have record := recordVcpu_keeps (Live start) m
  have count := modifyVcpu_keeps (Live start)
  mvcgen [handleXssWrite, rejectXssWrite, record, count, set, inject, stopVm_spec]
  case vc2.steady => exact fun _ => ⟨rfl, rfl, rfl⟩
  case vc5.post.success.isTrue.post.success.post.success live => exact live.settled
  case vc7.post.success.isFalse.isTrue.post.success.success done _ =>
    exact fun _ stopped => stopped.settled done

/-- Each row checks, writes and stores; the rest refuses. -/
theorem handleMsrWrite_spec :
    ⦃fun s => ⌜Live start s.steering⌝⦄ handleMsrWrite m
    ⦃⇓ done s => ⌜Settled start done s.steering⌝⦄ := by
  have inject := refuse_spec start m
  have row := writeGuestMsr_spec start m
  have selector := handleXssWrite_spec start m
  mvcgen [handleMsrWrite, inject, row, selector]
  all_goals exact fun _ => ⟨rfl, rfl, rfl⟩

theorem setGpr_spec (reg : Nat) (v : U64) :
    ⦃fun s => ⌜Live start s.steering⌝⦄ setGpr m reg v
    ⦃⇓ ok s => ⌜Kept (fun s => Live start s.steering) ok s⌝⦄ := by
  have set := modifyCtx_keeps (Live start)
  have write := (robust_live start).write m
  mvcgen [setGpr, set, write]
  case vc1.steady => exact fun _ => ⟨rfl, rfl, rfl⟩
  case vc4 => exact fun _ _ => by decide
  case vc5.steady =>
    intro c
    split <;> exact ⟨rfl, rfl, rfl⟩
  case vc7.isFalse.post.success live => exact ⟨fun _ => live, live.quiet⟩

theorem storeGpr_spec (gpr : Nat) (value : U64) :
    ⦃fun s => ⌜Live start s.steering⌝⦄ storeGpr m gpr value
    ⦃⇓ done s => ⌜Settled start done s.steering⌝⦄ := by
  have set := setGpr_spec start m
  mvcgen [storeGpr, set, haltVm_spec]
  case vc2.post.success.isTrue.pre kept => exact kept.quiet
  case vc3.post.success.isTrue.post.success stopped => exact stopped.settled _
  case vc4.post.success.isFalse ok s kept =>
    have live := kept.held (by simpa using ok)
    have running : s.ctx.haltVm = false := live.quiet.1
    rw [running]
    exact live.settled

theorem movToCr0_spec (value : U64) :
    ⦃fun s => ⌜Live start s.steering⌝⦄ movToCr0 m value
    ⦃⇓ done s => ⌜Settled start done s.steering⌝⦄ := by
  have inject := refuse_spec start m
  have done := commit_spec start m
  mvcgen [movToCr0, inject, done]
  case vc2.plain => simp [Plain]
  case vc3.steady => exact fun _ => ⟨rfl, rfl, rfl⟩

theorem movToCr4_spec (value : U64) :
    ⦃fun s => ⌜Live start s.steering⌝⦄ movToCr4 m value
    ⦃⇓ done s => ⌜Settled start done s.steering⌝⦄ := by
  have inject := refuse_spec start m
  have done := commit_spec start m
  have halt := giveUp_spec start
  have read := (robust_live start).readKept m
  mvcgen [movToCr4, read, inject, done, halt]
  case vc3.isFalse.post.success.h_1 kept => exact kept.quiet
  case vc4.isFalse.post.success.h_2.isTrue kept => exact kept.held rfl
  case vc5.isFalse.post.success.h_2.isFalse kept => exact kept.held rfl
  case vc6 => simp [Plain]
  case vc7 => exact fun _ _ _ => ⟨rfl, rfl, rfl⟩

theorem movToCr3_spec (value : U64) :
    ⦃fun s => ⌜Live start s.steering⌝⦄ movToCr3 m value
    ⦃⇓ done s => ⌜Settled start done s.steering⌝⦄ := by
  have inject := refuse_spec start m
  have done := commit_spec start m
  have halt := giveUp_spec start
  have read := (robust_live start).readKept m
  mvcgen [movToCr3, read, inject, done, halt]
  case vc2.post.success.h_1 kept => exact kept.quiet
  case vc3.post.success.h_2.isTrue kept => exact kept.held rfl
  case vc4.post.success.h_2.isFalse kept => exact kept.held rfl
  case vc5 => simp [Plain]
  case vc6 => exact fun _ _ _ => ⟨rfl, rfl, rfl⟩

theorem movFromCr_spec (field : VmcsField) (gpr : Nat) :
    ⦃fun s => ⌜Live start s.steering⌝⦄ movFromCr m field gpr
    ⦃⇓ done s => ⌜Settled start done s.steering⌝⦄ := by
  have halt := giveUp_spec start
  have read := (robust_live start).readKept m
  have store := storeGpr_spec start m
  mvcgen [movFromCr, read, store, halt]
  case vc2.post.success.h_1 kept => exact kept.quiet
  case vc3.post.success.h_2 kept => exact kept.held rfl

theorem movFromCr4_spec (gpr : Nat) :
    ⦃fun s => ⌜Live start s.steering⌝⦄ movFromCr4 m gpr
    ⦃⇓ done s => ⌜Settled start done s.steering⌝⦄ := by
  have halt := giveUp_spec start
  have read := (robust_live start).readLocals m
  have store := storeGpr_spec start m
  mvcgen [movFromCr4, read, store, halt]
  case vc2.post.success.h_1 kept => exact kept.quiet
  case vc3.post.success.h_2 kept => exact kept.held rfl

theorem handleXsetbv_spec :
    ⦃fun s => ⌜Live start s.steering⌝⦄ handleXsetbv m
    ⦃⇓ done s => ⌜Settled start done s.steering⌝⦄ := by
  have inject := refuse_spec start m
  have undefined := refuseUndefined_spec start m
  have halt := giveUp_spec start
  have set := modifyCtx_keeps (Live start)
  have record := modifyVcpu_keeps (Live start)
  mvcgen [handleXsetbv, set, record, inject, undefined, halt, stopVm_spec]
  case vc3.isFalse.isTrue.post.success =>
    rintro rfl refused
    exact refused.settled
  case vc4.isFalse.isFalse.isTrue live _ _ _ => exact live.quiet
  case vc10.isFalse.isFalse.isFalse.post.success.isFalse.isFalse.h_2.isFalse.isTrue.success =>
    exact fun _ stopped => stopped.settled _
  case vc11.steady => exact fun _ => ⟨rfl, rfl, rfl⟩
  case vc14.isFalse.isFalse.isFalse.post.success.isFalse.isFalse.h_2.isFalse.isFalse.post.success.post.success live =>
    exact live.settled

theorem accessCr_spec (qual : U64) :
    ⦃fun s => ⌜Live start s.steering⌝⦄ accessCr m qual
    ⦃⇓ done s => ⌜Settled start done s.steering⌝⦄ := by
  have undefined := refuseUndefined_spec start m
  have toCr0 := movToCr0_spec start m
  have toCr4 := movToCr4_spec start m
  have toCr3 := movToCr3_spec start m
  have fromCr := movFromCr_spec start m
  have fromCr4 := movFromCr4_spec start m
  mvcgen [accessCr, undefined, toCr0, toCr4, toCr3, fromCr, fromCr4]
  case vc8.h_7.post.success =>
    rintro rfl refused
    exact refused.settled

theorem handleCrAccess_spec :
    ⦃fun s => ⌜Live start s.steering⌝⦄ handleCrAccess m
    ⦃⇓ done s => ⌜Settled start done s.steering⌝⦄ := by
  have inject := refuse_spec start m
  have halt := giveUp_spec start
  have read := (robust_live start).readKept m
  have access := accessCr_spec start m
  mvcgen [handleCrAccess, read, inject, halt, access]
  case vc3.isFalse.post.success.h_1 kept => exact kept.quiet
  case vc4.isFalse.post.success.h_2 kept => exact kept.held rfl

theorem setCpuidResult_spec (regs : CpuidRegs) :
    ⦃fun s => ⌜Live start s.steering⌝⦄ setCpuidResult regs ⦃⇓ _ s => ⌜Live start s.steering⌝⦄ :=
  modifyCtx_keeps (Live start) _ fun _ => ⟨rfl, rfl, rfl⟩

theorem handleCpuid_spec :
    ⦃fun s => ⌜Live start s.steering⌝⦄ handleCpuid m
    ⦃⇓ done s => ⌜Settled start done s.steering⌝⦄ := by
  have result := setCpuidResult_spec start
  have record := modifyVcpu_keeps (Live start)
  mvcgen [handleCpuid, result, record]
  all_goals exact Live.settled ‹_›

theorem updateNativeTeardownContract_spec :
    ⦃fun s => ⌜Live start s.steering⌝⦄ updateNativeTeardownContract m
    ⦃⇓ _ s => ⌜Quiet s.steering ∧ (Live start s.steering ∨
      m.hasVcpu = true ∧ s.vcpu.nativeTeardownRejectMask = kRejectVmcsRead)⌝⦄ := by
  have read := (robust_live start).readLocals m
  mvcgen [updateNativeTeardownContract, modifyVcpu, read]
  case vc1.isTrue live => exact ⟨live.quiet, Or.inl live⟩
  case vc3.isFalse.post.success.h_1 present _ _ _ _ _ kept _ =>
    exact ⟨kept.quiet, Or.inr ⟨by simpa using present, rfl⟩⟩
  case vc4.isFalse.post.success.h_2 kept _ _ _ =>
    exact ⟨kept.quiet, Or.inl (kept.held rfl)⟩

/-- A descriptor read that failed makes the rejection fatal. -/
theorem teardownRejectMask_fatal {s : ExitState} (present : m.hasVcpu = true)
    (failed : s.vcpu.nativeTeardownRejectMask = kRejectVmcsRead) (exitReason : U32) :
    teardownRejectMask m s exitReason &&& kFatalTeardownRejectBits ≠ 0 := by
  refine Masks.and_ne_zero_iff.mpr ⟨14, ?_, by decide⟩
  have bit : kRejectVmcsRead.getLsbD 14 = true := by decide
  simp only [teardownRejectMask, callRejectMask, present, failed, if_true, BitVec.getLsbD_or, bit,
    Bool.true_or]

/-- How an unload request is answered: the vCPU is parked, the guest is resumed
to try again, or the unload is taken. -/
def Answered (now : Steering) : Prop :=
  Stopped now ∨ Live start now ∨ (now.haltVm = false ∧ now.abortVm = true)

theorem answerUnload_answered {s : ExitState} (quiet : Quiet s.steering)
    (known : Live start s.steering ∨
      m.hasVcpu = true ∧ s.vcpu.nativeTeardownRejectMask = kRejectVmcsRead) (exitReason : U32) :
    Answered start (answerUnload m true exitReason s).steering := by
  obtain ⟨running, staying⟩ := quiet
  simp only [answerUnload, unloadFlags, Bool.true_and, if_true]
  split
  · exact Or.inr (Or.inr ⟨rfl, rfl⟩)
  · by_cases fatal : teardownRejectMask m s exitReason &&& kFatalTeardownRejectBits ≠ 0
    · exact Or.inl ⟨decide_eq_true fatal, rfl⟩
    · rcases known with live | ⟨present, failed⟩
      · refine Or.inr (Or.inl ?_)
        have same : s.steering = ⟨false, false, s.ctx.guestRip, s.vmcs, s.log⟩ := by
          simp only [ExitState.steering] at running staying ⊢
          rw [running, staying]
        rw [same] at live
        simp only [fatal, decide_false]
        exact live
      · exact absurd (teardownRejectMask_fatal m present failed exitReason) fatal

theorem requestAuthenticatedUnload_spec (exitReason : U32) :
    ⦃fun s => ⌜Live start s.steering ∧ isAuthenticatedUnload s.ctx exitReason = true⌝⦄
    requestAuthenticatedUnload m exitReason ⦃⇓ _ s => ⌜Answered start s.steering⌝⦄ := by
  have update := updateNativeTeardownContract_spec start m
  mvcgen [requestAuthenticatedUnload, update]
  case vc1.isTrue.pre known _ _ _ => exact known.1
  case vc2.isTrue.post.success known auth _ granted _ s kept _ =>
    have answered := answerUnload_answered start m kept.1 kept.2 exitReason
    rw [← granted] at answered
    exact answered
  case vc3.isFalse known _ _ denied _ => exact absurd known.2 denied

/-- The guest at CPL 0 asks for the unload. -/
structure UnloadToken : Prop where
  kernel : start.vmcs .guestCsSelector &&& 3 = 0
  magic : start.ctx.rcx = hypervisorMagic
  command : start.ctx.rdx = vmcallUnload

/-- The context has been read for the exit that is running. -/
structure Synced (s : ExitState) : Prop extends Live start s.steering where
  guestCs : s.ctx.guestCs = start.vmcs .guestCsSelector
  rcx : s.ctx.rcx = start.ctx.rcx
  rdx : s.ctx.rdx = start.ctx.rdx

/-- The unload has been taken. -/
structure Aborting (now : Steering) : Prop where
  running : now.haltVm = false
  leaving : now.abortVm = true
  token : UnloadToken start

theorem handleVmCall_spec :
    ⦃fun s => ⌜Synced start s⌝⦄ handleVmCall m
    ⦃⇓ done s => ⌜Settled start done s.steering ∨ done = true ∧ Aborting start s.steering⌝⦄ := by
  have inject := refuse_spec start m
  have request := requestAuthenticatedUnload_spec start m
  mvcgen [handleVmCall, inject, request]
  case vc1.isTrue.pre synced _ called =>
    refine ⟨synced.toLive, ?_⟩
    simpa [isAuthenticatedUnload, and_assoc] using called
  case vc2.isTrue.post.success synced _ called _ s answered =>
    have token : UnloadToken start := by
      simp only [Bool.and_eq_true, decide_eq_true_eq] at called
      exact ⟨synced.guestCs ▸ called.1.1, synced.rcx.symm.trans called.1.2,
        synced.rdx.symm.trans called.2⟩
    rcases answered with stopped | live | ⟨running, leaving⟩
    · exact Or.inl (stopped.settled _)
    · have running : s.ctx.haltVm = false := live.quiet.1
      rw [running]
      exact Or.inl live.settled
    · have same : s.ctx.haltVm = false := running
      rw [same]
      exact Or.inr ⟨rfl, running, leaving, token⟩
  case vc3.isFalse.pre synced _ _ => exact synced.toLive
  case vc4.isFalse.post.success => exact Or.inl

/-- How the switch leaves the exit. Only a reason whose instruction is skipped
can end with the instruction done. -/
def Dispatched (exitReason : U32) (done : Bool) (now : Steering) : Prop :=
  Stopped now ∨ (done = true ∧ requiresRipAdvance exitReason = true ∧ Live start now) ∨
    (done = false ∧ Armed start now) ∨
    (done = true ∧ exitReason = vmExitReasonVmcall ∧ Aborting start now)

variable {start m}

theorem Settled.dispatched {exitReason : U32} {done : Bool} {now : Steering}
    (settled : Settled start done now) (advances : requiresRipAdvance exitReason = true) :
    Dispatched start exitReason done now := by
  rcases settled with stopped | ⟨finished, live⟩ | ⟨unfinished, armed⟩
  · exact Or.inl stopped
  · exact Or.inr (Or.inl ⟨finished, advances, live⟩)
  · exact Or.inr (Or.inr (Or.inl ⟨unfinished, armed⟩))

theorem handler_dispatched {handler : StateM ExitState Bool} {exitReason : U32}
    (spec : ⦃fun s => ⌜Live start s.steering⌝⦄ handler
      ⦃⇓ done s => ⌜Settled start done s.steering⌝⦄)
    (advances : requiresRipAdvance exitReason = true) :
    ⦃fun s => ⌜Synced start s⌝⦄ handler
    ⦃⇓ done s => ⌜Dispatched start exitReason done s.steering⌝⦄ :=
  spec_intro fun s synced => (spec s synced.toLive).dispatched advances

variable (start m)

theorem dispatchExit_spec (exitReason : U32) :
    ⦃fun s => ⌜Synced start s⌝⦄ dispatchExit m exitReason
    ⦃⇓ done s => ⌜Dispatched start exitReason done s.steering⌝⦄ := by
  unfold dispatchExit
  split_ifs with cpuid vmcall rdmsr wrmsr crAccess unsupported xsetbv
  · exact handler_dispatched (handleCpuid_spec start m) (by simp [requiresRipAdvance, cpuid])
  · refine spec_intro fun s synced => ?_
    rcases handleVmCall_spec start m s synced with settled | ⟨done, aborting⟩
    · exact settled.dispatched (by simp [requiresRipAdvance, vmcall])
    · exact Or.inr (Or.inr (Or.inr ⟨done, vmcall, aborting⟩))
  · exact handler_dispatched (handleMsrRead_spec start m) (by simp [requiresRipAdvance, rdmsr])
  · exact handler_dispatched (handleMsrWrite_spec start m) (by simp [requiresRipAdvance, wrmsr])
  · exact handler_dispatched (handleCrAccess_spec start m) (by simp [requiresRipAdvance, crAccess])
  · refine spec_intro fun s synced => ?_
    obtain ⟨unfinished, refused⟩ := refuseUndefined_spec start m s synced.toLive
    exact refused.imp id fun armed => Or.inr (Or.inl ⟨unfinished, armed⟩)
  · exact handler_dispatched (handleXsetbv_spec start m) (by simp [requiresRipAdvance, xsetbv])
  · exact spec_intro fun s _ => Or.inl (stopVm_spec s trivial).2

end

end Knhv.Vmx
