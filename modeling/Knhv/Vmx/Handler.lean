import Mathlib
import Knhv.Vmx.Resume

open Std.Do

set_option mvcgen.warning false

namespace Knhv.Vmx

section

variable (start : ExitState)

/-- The exit has only read so far. -/
structure Begun (s : ExitState) : Prop where
  quiet : Quiet s.steering
  accesses : ∀ access ∈ s.log, vmxOk access.flags = true
  unmoved : ripWrites s.log = []
  unarmed : armedEvents s.log = []
  vmcs : s.vmcs = start.vmcs
  rcx : s.ctx.rcx = start.ctx.rcx
  rdx : s.ctx.rdx = start.ctx.rdx

/-- The last event has been taken out of the VMCS. -/
structure Cleared (s : ExitState) : Prop extends Pending start s.steering where
  selector : s.vmcs .guestCsSelector = start.vmcs .guestCsSelector
  rcx : s.ctx.rcx = start.ctx.rcx
  rdx : s.ctx.rdx = start.ctx.rdx

/-- RIP has been read. -/
structure Located (s : ExitState) : Prop extends Cleared start s where
  guestRip : s.ctx.guestRip = start.vmcs .guestRip

variable {start}

theorem robust_begun : Robust (fun _ => False) (Begun start) where
  quiet := fun _ begun => begun.quiet
  accessed := fun s access begun ok silent =>
    have read : access.written = none := silent.resolve_right id
    { quiet := begun.quiet
      accesses := accesses_append begun.accesses ok
      unmoved := (ripWrites_silent (Or.inl read)).trans begun.unmoved
      unarmed := (armedEvents_silent (Or.inl read)).trans begun.unarmed
      vmcs := by
        simp only [ExitState.accessed, read]
        exact begun.vmcs
      rcx := begun.rcx
      rdx := begun.rdx }

theorem robust_cleared :
    Robust (fun field => Plain field ∧ .guestCsSelector ≠ field) (Cleared start) where
  quiet := fun _ cleared => cleared.quiet
  accessed := fun s _ cleared ok silent =>
    { cleared.toPending.accessed ok (silent.imp id And.left) with
      selector := (accessed_vmcs_unwritten s (silent.imp id And.right)).trans cleared.selector
      rcx := cleared.rcx
      rdx := cleared.rdx }

theorem robust_located : Robust (fun _ => False) (Located start) where
  quiet := fun _ located => located.quiet
  accessed := fun s access located ok silent =>
    { robust_cleared.accessed s access located.toCleared ok (silent.imp id False.elim) with
      guestRip := located.guestRip }

theorem robust_synced : Robust (fun _ => False) (Synced start) where
  quiet := fun _ synced => synced.quiet
  accessed := fun s access synced ok silent =>
    { (robust_live start).accessed s access synced.toLive ok (silent.imp id False.elim) with
      guestCs := synced.guestCs
      rcx := synced.rcx
      rdx := synced.rdx }

/-- The write that clears the event. -/
theorem Begun.cleared {s : ExitState} (begun : Begun start s)
    (delivered : start.vmcs .vmExitIdtVectoringInfo &&& kVmEntryIntrInfoValid.setWidth 64 = 0)
    {flags : U64} (ok : vmxOk flags = true) :
    Cleared start (s.accessed ⟨.controlVmEntryIntrInfoField, some 0, flags⟩) where
  quiet := begun.quiet
  accesses := accesses_append begun.accesses ok
  delivered := delivered
  unmoved := by
    simp only [steering_log, ExitState.accessed, ripWrites_append, begun.unmoved]
    rfl
  unarmed := by
    simp only [steering_log, ExitState.accessed, armedEvents_append, begun.unarmed,
      armedEvents_entry]
    rfl
  vmcsRip := by
    rw [steering_vmcs, accessed_vmcs_other s _ _ (by decide), begun.vmcs]
  cleared := by rw [steering_vmcs, accessed_vmcs_self]
  selector := by
    rw [accessed_vmcs_other s _ _ (by decide), begun.vmcs]
  rcx := begun.rcx
  rdx := begun.rdx

theorem clearEvent_spec (m : Machine)
    (delivered : start.vmcs .vmExitIdtVectoringInfo &&& kVmEntryIntrInfoValid.setWidth 64 = 0) :
    ⦃fun s => ⌜Begun start s⌝⦄ writeAll m clearedEvent ⦃⇓ ok s => ⌜Kept (Cleared start) ok s⌝⦄ := by
  refine writeAll_step (fun _ begun => begun.quiet) (fun _ cleared => cleared.quiet)
    (fun s flags begun ok => begun.cleared delivered ok) ?_
  refine robust_cleared.writeAll m _ ?_
  simp [Plain]

theorem readContext_spec (m : Machine) :
    ⦃fun s => ⌜Cleared start s⌝⦄ readInto m contextFields
    ⦃⇓ ok s => ⌜Kept (Synced start) ok s⌝⦄ := by
  have locate : ∀ s, Cleared start s → Located start
      { s with ctx := { s.ctx with guestRip := s.vmcs .guestRip } } :=
    fun s cleared => { cleared with guestRip := cleared.vmcsRip }
  have stack : ∀ s value, Located start s → Located start
      { s with ctx := { s.ctx with guestRsp := value } } :=
    fun s value located => { located with }
  have flags : ∀ s value, Located start s → Located start
      { s with ctx := { s.ctx with rflags := value } } :=
    fun s value located => { located with }
  have select : ∀ s, Located start s → Synced start
      { s with ctx := { s.ctx with guestCs := s.vmcs .guestCsSelector } } :=
    fun s located => { located with guestCs := located.selector }
  refine robust_cleared.readInto_step locate ?_
  refine robust_located.readInto_step (fun s located => stack s _ located) ?_
  refine robust_located.readInto_step (fun s located => flags s _ located) ?_
  refine robust_located.readInto_step select ?_
  refine robust_synced.readInto m _ ?_
  intro entry member
  fin_cases member <;> exact fun s v synced => { synced with }

theorem readCet_spec (m : Machine) :
    ⦃fun s => ⌜Synced start s⌝⦄ readInto m (enabledCetFields m)
    ⦃⇓ ok s => ⌜Kept (Synced start) ok s⌝⦄ := by
  refine robust_synced.readInto m _ ?_
  intro entry member
  rw [enabledCetFields] at member
  split at member
  · fin_cases member <;> exact fun s v synced => { synced with }
  · exact absurd member List.not_mem_nil

theorem syncContext_spec (m : Machine) :
    ⦃fun s => ⌜Cleared start s⌝⦄ syncContext m
    ⦃⇓ ok s => ⌜(ok = false ∧ Stopped s.steering) ∨ (ok = true ∧ Synced start s)⌝⦄ := by
  have context := @readContext_spec start m
  have segments := (@robust_synced start).readLocals m
  have cet := @readCet_spec start m
  have mark : ∀ f, ⦃fun s => ⌜Synced start s⌝⦄ modifyVcpu f ⦃⇓ _ s => ⌜Synced start s⌝⦄ :=
    fun _ => spec_intro fun _ synced => { synced with }
  have record : ∀ values, ⦃fun s => ⌜Synced start s⌝⦄ recordContext values
      ⦃⇓ _ s => ⌜Synced start s⌝⦄ :=
    fun _ => spec_intro fun _ synced => { synced with }
  have extended : ⦃fun s => ⌜Synced start s⌝⦄ recordExtendedState ⦃⇓ _ s => ⌜Synced start s⌝⦄ :=
    spec_intro fun _ synced => { synced with }
  have pair : ⦃fun s => ⌜Synced start s⌝⦄ recordGsPair ⦃⇓ _ s => ⌜Synced start s⌝⦄ :=
    spec_intro fun _ synced => { synced with }
  mvcgen [syncContext, context, segments, cet, mark, record, extended, pair, failExit_halt]
  -- each stage ends in the stop, or hands the synchronised context on
  all_goals first
    | exact Or.inl ⟨trivial, ‹_›⟩
    | exact Kept.quiet ‹_›
    | exact Kept.held ‹_› rfl
    | exact Kept.passed ‹_› ‹_›
    | exact robust_synced.quiet _ ‹_›
    | exact Or.inr ⟨trivial, ‹_›⟩

theorem runSynced_spec (m : Machine) (exitReason : U32) :
    ⦃fun s => ⌜Synced start s⌝⦄ runSynced m exitReason (start.vmcs .vmExitInstructionLen)
    ⦃⇓ _ s => ⌜Concluded m start exitReason s.steering⌝⦄ := by
  refine spec_intro fun s synced => ?_
  have rip : s.ctx.guestRip = start.vmcs .guestRip := synced.toLive.guestRip
  rw [runSynced]
  split
  · exact Or.inl (failExit_fatal s trivial)
  · simp only [get, getThe, MonadStateOf.get, StateT.get, bind, StateT.bind, pure]
    split
    · exact Or.inl (failExit_fatal s trivial)
    · rename_i checked
      refine emulateExit_spec (fun advances => ?_) s synced
      rw [advances, rip] at checked
      simp only [Bool.true_and, Bool.or_eq_true, decide_eq_true_eq, Bool.not_eq_true', not_or,
        Bool.not_eq_false] at checked
      obtain ⟨⟨positive, short⟩, canonical⟩ := checked
      refine ⟨⟨?_, ?_⟩, canonical⟩
      · exact Nat.pos_of_ne_zero fun zero => positive (BitVec.eq_of_toNat_eq zero)
      · exact BitVec.not_lt.mp short

theorem settleEvents_spec (m : Machine) (exitReason : U32) (info exitLen : U64)
    (vectoring : info = start.vmcs .vmExitIdtVectoringInfo)
    (length : exitLen = start.vmcs .vmExitInstructionLen) :
    ⦃fun s => ⌜Begun start s⌝⦄ settleEvents m info exitReason exitLen
    ⦃⇓ _ s => ⌜Concluded m start exitReason s.steering⌝⦄ := by
  subst vectoring length
  have clear := @clearEvent_spec start m
  have sync := @syncContext_spec start m
  have run := @runSynced_spec start m
  mvcgen [settleEvents, clear, sync, run, failExit_fatal]
  case vc1.isTrue.success => exact Or.inl
  case vc2.delivered idle _ _ => exact not_not.mp idle
  case vc4.isFalse.post.success.isTrue.success => exact Or.inl
  case vc5.isFalse.post.success.isFalse.pre passed _ kept => exact kept.passed passed
  case vc6.isFalse.post.success.isFalse.post.success.isTrue done _ synced =>
    rcases synced with ⟨failed, _⟩ | ⟨_, synced⟩
    · exact absurd failed (by simp [done])
    · exact synced
  case vc7.isFalse.post.success.isFalse.post.success.isFalse failed _ stopped =>
    rcases stopped with ⟨_, stopped⟩ | ⟨done, _⟩
    · exact Or.inl stopped
    · exact absurd done failed

theorem modifyVcpu_begun (f : VcpuContext → VcpuContext) :
    ⦃fun s => ⌜Begun start s⌝⦄ modifyVcpu f ⦃⇓ _ s => ⌜Begun start s⌝⦄ :=
  spec_intro fun _ begun => { begun with }

theorem publishEvents_begun (values : VmcsField → U64) :
    ⦃fun s => ⌜Begun start s⌝⦄ publishEvents values ⦃⇓ _ s => ⌜Begun start s⌝⦄ :=
  spec_intro fun _ begun => ⟨begun.quiet, begun.accesses, begun.unmoved, begun.unarmed, begun.vmcs,
    begun.rcx, begun.rdx⟩

theorem handleGuestExit_spec (m : Machine) (exitReason : U32) (exitLen : U64)
    (length : exitLen = start.vmcs .vmExitInstructionLen) :
    ⦃fun s => ⌜Begun start s⌝⦄ handleGuestExit m exitReason exitLen
    ⦃⇓ _ s => ⌜Concluded m start exitReason s.steering⌝⦄ := by
  have member : .vmExitIdtVectoringInfo ∈ eventFields := by decide
  have mark := @modifyVcpu_begun start
  have publish := @publishEvents_begun start
  have settle := @settleEvents_spec start m
  rw [handleGuestExit]
  -- the chain of reads is left closed
  generalize eventFields = fields at member ⊢
  have read := (@robust_begun start).readEach (fun _ begun => begun.vmcs) m fields
  mvcgen [mark, publish, read, settle, failExit_fatal]
  case vc3.post.success.post.success.h_1.success => exact Or.inl
  case vc4.post.success.post.success.h_2.pre kept => exact kept.1.held rfl
  case vc6 found _ _ kept _ => exact fun _ _ => kept.2 found rfl _ member
  case vc7 => exact fun _ _ => length

theorem handleEntryFailure_spec (m : Machine) (rawExitReason : U32) :
    ⦃fun _ => ⌜True⌝⦄ handleEntryFailure m rawExitReason ⦃⇓ _ s => ⌜Stopped s.steering⌝⦄ := by
  have read : ∀ field, ⦃fun _ => ⌜True⌝⦄ vmReadChecked m field ⦃⇓ _ _ => ⌜True⌝⦄ :=
    fun _ => spec_intro fun _ _ => trivial
  have mark : ∀ f, ⦃fun _ => ⌜True⌝⦄ modifyVcpu f ⦃⇓ _ _ => ⌜True⌝⦄ :=
    fun _ => spec_intro fun _ _ => trivial
  mvcgen [handleEntryFailure, read, mark, failExit_fatal]

theorem recordExit_begun (rawExitReason : U32) (entryFailure : Bool) (exitLen : U64) :
    ⦃fun s => ⌜Begun start s⌝⦄ recordExit rawExitReason entryFailure exitLen
    ⦃⇓ _ s => ⌜Begun start s⌝⦄ :=
  spec_intro fun _ begun => ⟨begun.quiet, begun.accesses, begun.unmoved, begun.unarmed, begun.vmcs,
    begun.rcx, begun.rdx⟩

/-- The reason that the exit reads. -/
def rawExitReason (start : ExitState) : U32 := (start.vmcs .vmExitReason).setWidth 32

/-- How the whole exit ends. -/
def Exited (m : Machine) (start : ExitState) (now : Steering) : Prop :=
  Stopped now ∨ Resumable m start now ∨
    (rawExitReason start &&& 0x80000000 = 0 ∧
      rawExitReason start &&& 0xFFFF = vmExitReasonVmcall ∧ Aborting start now)

theorem captureEntry_begun (m : Machine) :
    ⦃fun s => ⌜Begun start s⌝⦄ captureEntry m ⦃⇓ _ s => ⌜Begun start s⌝⦄ :=
  spec_intro fun _ begun => ⟨begun.quiet, begun.accesses, begun.unmoved, begun.unarmed, begun.vmcs,
    begun.rcx, begun.rdx⟩

theorem read_begun (m : Machine) (field : VmcsField) :
    ⦃fun s => ⌜Begun start s⌝⦄ vmReadChecked m field
    ⦃⇓ value s => ⌜Kept (Begun start) value.isSome s ∧
      ∀ v, value = some v → v = start.vmcs field⌝⦄ := by
  refine spec_intro fun s begun => ?_
  rcases run : vmReadChecked m field s with ⟨value, now⟩
  obtain ⟨kept, stored⟩ := spec_run (robust_begun.read m field) begun run
  refine ⟨kept, ?_⟩
  rintro v rfl
  rw [← stored v rfl, (kept.held rfl).vmcs]

theorem vmExitHandler_spec (m : Machine) :
    ⦃fun s => ⌜Begun start s⌝⦄ vmExitHandler m ⦃⇓ _ s => ⌜Exited m start s.steering⌝⦄ := by
  have capture := @captureEntry_begun start m
  have record := @recordExit_begun start
  have read := @read_begun start m
  have handle := @handleGuestExit_spec start m
  rw [vmExitHandler]
  generalize handleGuestExit m = guestExit at handle ⊢
  mvcgen [capture, read, record, handleEntryFailure_spec, handle, failEarly_spec,
    requestFatalStop_spec]
  case vc1.isTrue.success stopped => exact Or.inl stopped
  case vc3.isFalse.post.success.isTrue.success stopped => exact Or.inl stopped
  case vc5.isFalse.post.success.isFalse.post.success.h_1.isTrue.pre kept => exact kept.1.held rfl
  case vc6.isFalse.post.success.isFalse.post.success.h_1.isTrue.post.success.success =>
    exact Or.inl
  case vc7.isFalse.post.success.isFalse.post.success.h_1.isFalse.pre kept => exact kept.1.held rfl
  case vc8.isFalse.post.success.isFalse.post.success.h_1.isFalse.post.success.h_1.pre kept =>
    exact kept.1.held rfl
  case vc10.isFalse.post.success.isFalse.post.success.h_1.isFalse.post.success.h_1.post.success.post.success
      value _ reason entered _ read _ _ _ _ _ _ _ _ _ _ =>
    intro concluded
    have raw : reason = rawExitReason start := congrArg (BitVec.setWidth 32) (read.2 value rfl)
    rw [raw] at entered concluded
    exact concluded.imp id (Or.imp id (And.intro (not_not.mp entered)))
  case vc11 exitLen _ _ read _ => exact fun _ _ => read.2 exitLen rfl
  case vc12.isFalse.post.success.isFalse.post.success.h_1.isFalse.post.success.h_2.success =>
    exact Or.inl
  case vc13.isFalse.post.success.isFalse.post.success.h_2.success => exact Or.inl

/-- A valid #UD or #GP that is delivered as a hardware exception. -/
def HardwareFault (info : U64) : Prop :=
  info &&& kVmEntryIntrInfoValid.setWidth 64 ≠ 0 ∧ info >>> 8 &&& 7 = 3 ∧
    (info &&& 0xFF = 6 ∨ info &&& 0xFF = 13)

instance (info : U64) : Decidable (HardwareFault info) :=
  inferInstanceAs (Decidable (_ ∧ _))

/-- The instruction is faulted where it stands, with one event. -/
structure Faulted (start : ExitState) (now : Steering) : Prop where
  unmoved : ripWrites now.log = []
  vmcsRip : now.vmcs .guestRip = start.vmcs .guestRip
  event : ∃ info, HardwareFault info ∧ armedEvents now.log = [info] ∧
    now.vmcs .controlVmEntryIntrInfoField = info

theorem interruptionInfo_hardwareFault {vector : U8} (fault : vector = 6 ∨ vector = 13)
    (hasErrorCode : Bool) : HardwareFault ((interruptionInfo vector hasErrorCode).setWidth 64) := by
  rcases fault with rfl | rfl <;> cases hasErrorCode <;> decide

theorem Armed.faulted {now : Steering} (armed : Armed start now) : Faulted start now := by
  obtain ⟨vector, hasErrorCode, fault, events, field⟩ := armed.armed
  exact ⟨armed.unmoved, armed.vmcsRip, _, interruptionInfo_hardwareFault fault hasErrorCode, events,
    field⟩

theorem begun_start (quiet : Quiet start.steering) (fresh : start.log = []) : Begun start start where
  quiet := quiet
  accesses := by simp [fresh]
  unmoved := by rw [fresh]; rfl
  unarmed := by rw [fresh]; rfl
  vmcs := rfl
  rcx := rfl
  rdx := rfl

end

/-- Whatever the exit reads, whichever access fails: the flags are never both set,
the guest is resumed only behind an instruction that was skipped once or faulted
once, and only an unload request of the guest kernel leaves the VM. -/
theorem vmExitHandler_resume_discipline (m : Machine) (start : ExitState)
    (running : start.ctx.haltVm = false) (staying : start.ctx.abortVm = false)
    (fresh : start.log = []) :
    let final := (vmExitHandler m start).2
    ¬(final.ctx.haltVm = true ∧ final.ctx.abortVm = true) ∧
      (final.ctx.haltVm = false → final.ctx.abortVm = false →
        (∀ access ∈ final.log, vmxOk access.flags = true) ∧
        start.vmcs .vmExitIdtVectoringInfo &&& kVmEntryIntrInfoValid.setWidth 64 = 0 ∧
        (Skipped m start final.steering ∨ Faulted start final.steering)) ∧
      (final.ctx.abortVm = true → rawExitReason start &&& 0x80000000 = 0 ∧
        rawExitReason start &&& 0xFFFF = vmExitReasonVmcall ∧ UnloadToken start) := by
  intro final
  have exited : Exited m start final.steering := by
    rcases run : vmExitHandler m start with ⟨result, last⟩
    have same : final = last := congrArg Prod.snd run
    rw [same]
    exact spec_run (vmExitHandler_spec m) (begun_start ⟨running, staying⟩ fresh) run
  rcases exited with ⟨halted, staying⟩ | resumable | ⟨entered, vmcall, aborting⟩
  · have halted : final.ctx.haltVm = true := halted
    have staying : final.ctx.abortVm = false := staying
    simp [halted, staying]
  · obtain ⟨running, staying⟩ := resumable.quiet
    have running : final.ctx.haltVm = false := running
    have staying : final.ctx.abortVm = false := staying
    simp only [running, staying]
    exact ⟨by simp, fun _ _ => ⟨resumable.accesses, resumable.delivered,
      resumable.continues.imp id Armed.faulted⟩, by simp⟩
  · have running : final.ctx.haltVm = false := aborting.running
    have leaving : final.ctx.abortVm = true := aborting.leaving
    simp only [running, leaving]
    exact ⟨by simp, by simp, fun _ => ⟨entered, vmcall, aborting.token⟩⟩

/-- A processor on which every access succeeds. -/
def quietMachine : Machine where
  cpuId := 0
  vcpuData := true
  processorCount := 1
  vmxFlags := fun _ => 2
  cpuidex := fun _ _ => ⟨0x16, 0x756E6547, 0x6C65746E, 0x49656E69⟩
  readMsr := fun _ => none
  xgetbv := some 7
  readCr2 := 0
  memory := fun _ => 0
  getSegmentLimit := fun _ => 0
  getSegmentAr := fun _ => 0
  linearAddressBits := 48
  debugctlMask := 0
  cetVmcsEnabled := false
  xsavesEnabled := false
  xstateMode := .xsave
  xsavesMask := 0
  enumeratedXssMask := 0
  guestXssWriteMask := 0
  hostXcr0Mask := 7
  testFault := none

/-- The frame and the record of a vCPU before its first exit. -/
def zeroContext : GuestContext :=
  ⟨0, 0, 0, 0, 0, 0, 0, 0, 0, 0, 0, 0, 0, 0, 0, 0, 0, 0, 0, 0, 0, 0, 0, 0, 0, 0, 0, false, false, 0, 0,
    0, 0, 0, 0, 0, 0, 0, 0, 0, 0, 0⟩

def zeroLatch : AccessLatch := ⟨false, 0, 0, 0, 0⟩

def zeroVcpu : VcpuContext where
  vmcsWrite := zeroLatch
  vmcsRead := zeroLatch
  vmcsFailureCommitState := .empty
  vmcsFailureReason := .none
  vmcsFailureArg0 := 0
  vmcsFailureArg1 := 0
  vmcsDiagnosticValidity := 0
  guestGsBase := 0
  guestKernelGsBase := 0
  guestXss := 0
  guestXcr0 := 0
  guestDr7 := 0
  guestDebugctl := 0
  host := ⟨0, 0, 0, 0, 0, 0, 0, 0, 0, 0, 0, 0⟩
  nativeTeardownSafe := false
  nativeTeardownRejectMask := 0
  lastEvent := ⟨0, 0, 0, 0, 0, 0, 0, 0, 0, 0⟩
  lastEventSnapshotValid := false
  vmExitCount := 0
  vmResumeAttempts := 0
  lastVmResumeFlags := 0
  firstExitProbe := ⟨.idle, 0, 0, 0, 0, 0, .none, 0⟩
  last := ⟨0, 0, 0, false, 0, 0, 0, .none, 0, 0, 0, 0, 0, 0, 0, 0, 0, 0, 0, 0, 0, 0, 0, 0, 0, 0, 0, 0,
    0, 0, 0, 0⟩
  fatalSnapshotCommitState := .empty
  xssWriteExitCount := 0
  xssWriteRejectCount := 0
  lastXssWritePrevious := 0
  lastXssWriteRequested := 0
  xsetbvExitCount := 0
  lastXsetbvPrevious := 0
  lastXsetbvRequested := 0

/-- CPUID at 0x1000, of two bytes. -/
def cpuidExit : ExitState where
  ctx := zeroContext
  vcpu := zeroVcpu
  vmcs := fun
    | .vmExitReason => 10
    | .vmExitInstructionLen => 2
    | .guestRip => 0x1000
    | _ => 0
  launchGuestStarted := 0
  launchFirstVmExitEntered := 0
  log := []

theorem vmExitHandler_resume_discipline_cpuid :
    (vmExitHandler quietMachine cpuidExit).2.ctx.haltVm = false ∧
      (vmExitHandler quietMachine cpuidExit).2.ctx.abortVm = false ∧
      (Skipped quietMachine cpuidExit (vmExitHandler quietMachine cpuidExit).2.steering ∨
        Faulted cpuidExit (vmExitHandler quietMachine cpuidExit).2.steering) := by
  have running : (vmExitHandler quietMachine cpuidExit).2.ctx.haltVm = false := by decide +kernel
  have staying : (vmExitHandler quietMachine cpuidExit).2.ctx.abortVm = false := by decide +kernel
  have disciplined := vmExitHandler_resume_discipline quietMachine cpuidExit rfl rfl rfl
  exact ⟨running, staying, (disciplined.2.1 running staying).2.2⟩

end Knhv.Vmx
