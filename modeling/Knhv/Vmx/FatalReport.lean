import Mathlib
import Knhv.Lib.Bits
import Knhv.Vmx.FatalEvidence
import Knhv.Vmx.Handler

open Std.Do

set_option mvcgen.warning false

namespace Knhv.Vmx

/-- The fields that the event bit speaks for. -/
def fatalEventFields : List VmcsField := fatalEvents.map Prod.fst

/-- The fields that the guest-state bit speaks for. -/
def fatalGuestFields (m : Machine) : List VmcsField :=
  (fatalRegisters ++ fatalMsrs ++ if m.cetVmcsEnabled then fatalCet else []).map Prod.fst

/-- The VMCS holds the record of an exit of the running guest. -/
def OrdinaryExit (before : ExitState) : Prop :=
  before.vcpu.lastVmResumeFlags = 0 ∧
    isEntryFailureReason ((before.vmcs .vmExitReason).setWidth 32) = false

/-- The evidence left at a fatal boundary is what its VMREADs found: a bit is set
for fields that were all read, an ordinary exit is shown as the VMCS has it, and
at a failed entry the bugcheck shows no RIP and no RSP. -/
structure FatalEvidence (m : Machine) (ordinary : Prop) (before now : ExitState) : Prop where
  reason : now.vcpu.vmcsDiagnosticValidity &&& kValidityExitReason ≠ 0 ↔
    ReadOk (accessesSince before now) .vmExitReason
  qualification : now.vcpu.vmcsDiagnosticValidity &&& kValidityExitQualification ≠ 0 ↔
    ReadOk (accessesSince before now) .exitQualification
  events : now.vcpu.vmcsDiagnosticValidity &&& kValidityEventState ≠ 0 ↔
    ∀ field ∈ fatalEventFields, ReadOk (accessesSince before now) field
  guest : now.vcpu.vmcsDiagnosticValidity &&& kValidityGuestState ≠ 0 ↔
    ∀ field ∈ fatalGuestFields m, ReadOk (accessesSince before now) field
  reported : ordinary → (∀ access ∈ accessesSince before now, vmxOk access.flags = true) →
    hvFatalBugCheck m now.vcpu = ⟨m.cpuId, low32 (before.vmcs .vmExitReason),
      before.vmcs .guestRip, before.vmcs .guestRsp⟩
  fresh : ¬ordinary → (hvFatalBugCheck m now.vcpu).rip = 0 ∧ (hvFatalBugCheck m now.vcpu).rsp = 0

/-- No reading of the guest is lost: there is no exit record, it cannot be read,
the entry failed, or a VMREAD of each of the two groups failed. -/
def NothingLost (m : Machine) (before now : ExitState) : Prop :=
  ¬OrdinaryExit before ∨ ¬NextOk m before ∨
    (∃ field ∈ fatalEventFields, ReadFailed (accessesSince before now) field) ∧
      ∃ field ∈ fatalGuestFields m, ReadFailed (accessesSince before now) field

section

variable (m : Machine) {before : ExitState}

theorem Evidence.bits {reason qualification : Bool} {vcpu : VcpuContext}
    (evidence : Evidence reason qualification vcpu) :
    (vcpu.vmcsDiagnosticValidity &&& kValidityExitReason ≠ 0 ↔ reason = true) ∧
      (vcpu.vmcsDiagnosticValidity &&& kValidityExitQualification ≠ 0 ↔ qualification = true) ∧
      ¬vcpu.vmcsDiagnosticValidity &&& kValidityEventState ≠ 0 ∧
      ¬vcpu.vmcsDiagnosticValidity &&& kValidityGuestState ≠ 0 := by
  simp only [kValidityExitReason, kValidityExitQualification, kValidityEventState,
    kValidityGuestState]
  have test {i : Nat} (inside : i < 64) :
      vcpu.vmcsDiagnosticValidity &&& bit i ≠ 0 ↔ vcpu.vmcsDiagnosticValidity.getLsbD i = true :=
    Bits.and_one_shiftLeft_ne_zero _ inside
  rw [test (by omega), test (by omega), test (by omega), test (by omega), evidence.reason,
    evidence.qualification, evidence.events, evidence.guest]
  exact ⟨Iff.rfl, Iff.rfl, Bool.false_ne_true, Bool.false_ne_true⟩

theorem fatal_inside :
    (∀ field ∈ fatalEventFields, field ∈ (fatalFields m).map Prod.fst) ∧
      (∀ field ∈ fatalGuestFields m, field ∈ (fatalFields m).map Prod.fst) ∧
      ((fatalFields m).map Prod.fst).Nodup := by
  cases enabled : m.cetVmcsEnabled
  · simp only [fatalFields, fatalGuestFields, enabled]
    decide
  · simp only [fatalFields, fatalGuestFields, enabled]
    decide

/-- A field of the guest is read once at an ordinary exit, and never at another
boundary. -/
theorem capturedFields_count {field : VmcsField} (inside : field ∈ (fatalFields m).map Prod.fst) :
    (capturedFields m before).count field =
      if (foundReason m before).all isEntryFailureReason then 0 else 1 := by
  obtain ⟨-, notReason, notQualification⟩ := fatalFields_apart m field inside
  have reasonPart :
      field ∉ (if before.vcpu.lastVmResumeFlags = 0 then [VmcsField.vmExitReason] else []) := by
    split <;> simp [notReason]
  have qualificationPart : field ∉ qualificationFields (foundReason m before) := by
    rw [qualificationFields]
    split <;> simp [notQualification]
  rw [capturedFields, List.count_append, List.count_append,
    List.count_eq_zero_of_not_mem reasonPart, List.count_eq_zero_of_not_mem qualificationPart,
    guestFields]
  split
  · rfl
  · rw [List.count_eq_one_of_mem (fatal_inside m).2.2 inside]

/-- With the guest bit clear the bugcheck shows no RIP and no RSP. -/
theorem hvFatalBugCheck_blank {vcpu : VcpuContext} {reason qualification : Bool}
    (evidence : Evidence reason qualification vcpu) :
    (hvFatalBugCheck m vcpu).rip = 0 ∧ (hvFatalBugCheck m vcpu).rsp = 0 := by
  obtain ⟨-, -, -, guest⟩ := evidence.bits
  have clear : vcpu.vmcsDiagnosticValidity &&& kValidityGuestState = 0 := not_ne_iff.mp guest
  simp [hvFatalBugCheck, clear]

/-- Where a field of each of the two groups is unread, the evidence is right: the
two bits are always clear. -/
theorem FatalCaptured.fatalEvidence {fields : List VmcsField} {reason qualification : Bool}
    {now : ExitState} (captured : FatalCaptured before fields reason qualification now) (ordinary : Prop)
    (events : ∃ field ∈ fatalEventFields, ¬ReadOk (accessesSince before now) field)
    (guest : ∃ field ∈ fatalGuestFields m, ¬ReadOk (accessesSince before now) field)
    (failed : ordinary → ∃ access ∈ accessesSince before now, vmxOk access.flags = false) :
    FatalEvidence m ordinary before now := by
  obtain ⟨reads, logged, reasonRead, qualificationRead⟩ := captured.reads
  obtain ⟨reasonBit, qualificationBit, eventsBit, guestBit⟩ := captured.evidence.bits
  have since := logged.accesses
  refine ⟨?_, ?_, ?_, ?_, ?_, fun _ => hvFatalBugCheck_blank m captured.evidence⟩
  · rw [since, reasonBit, reasonRead]
  · rw [since, qualificationBit, qualificationRead]
  · obtain ⟨field, member, unread⟩ := events
    exact iff_of_false eventsBit fun all => unread (all field member)
  · obtain ⟨field, member, unread⟩ := guest
    exact iff_of_false guestBit fun all => unread (all field member)
  · intro exit all
    obtain ⟨access, member, refused⟩ := failed exit
    exact absurd (refused.symm.trans (all access member)) Bool.false_ne_true

/-- The guest is read, and it was an ordinary exit. -/
theorem foundReason_ordinary :
    ¬(foundReason m before).all isEntryFailureReason = true ↔
      OrdinaryExit before ∧ NextOk m before := by
  by_cases known : before.vcpu.lastVmResumeFlags = 0 ∧ NextOk m before
  · rw [foundReason, if_pos known, Option.all_some, OrdinaryExit, Bool.not_eq_true]
    constructor
    · exact fun plain => ⟨⟨known.1, plain⟩, known.2⟩
    · exact fun exit => exit.1.2
  · rw [foundReason, if_neg known, Option.all_none]
    constructor
    · exact fun impossible => absurd rfl impossible
    · exact fun exit => absurd ⟨exit.1.1, exit.2⟩ known

theorem event_member : VmcsField.guestInterruptibilityInfo ∈ fatalEventFields := by decide

theorem guest_member : VmcsField.guestRip ∈ fatalGuestFields m := List.mem_cons_self

/-- The evidence of the capture is right exactly where nothing is lost. -/
theorem capture_evidence_iff (owned : m.hasVcpu = true)
    (first : before.vcpu.fatalSnapshotCommitState = .empty) :
    FatalEvidence m (OrdinaryExit before) before (hvCaptureFatalSnapshotPreVmxoff m before).2 ↔
      NothingLost m before (hvCaptureFatalSnapshotPreVmxoff m before).2 := by
  obtain ⟨qualification, captured⟩ := hvCaptureFatalSnapshotPreVmxoff_captured m owned first
  generalize (hvCaptureFatalSnapshotPreVmxoff m before).2 = now at captured ⊢
  obtain ⟨reads, logged, reasonRead, -⟩ := captured.reads
  have since := logged.accesses
  obtain ⟨eventsInside, guestInside, -⟩ := fatal_inside m
  by_cases ordinary : OrdinaryExit before ∧ NextOk m before
  · have open_ := (foundReason_ordinary m).mpr ordinary
    have failed_iff {field : VmcsField} (inside : field ∈ (fatalFields m).map Prod.fst) :
        ReadFailed reads field ↔ ¬ReadOk reads field := by
      refine logged.readFailed_iff (fatalFields_apart m field inside).1 ?_
      rw [capturedFields_count m inside, if_neg open_]
    constructor
    · intro evidence
      obtain ⟨-, -, eventsBit, guestBit⟩ := captured.evidence.bits
      have events := mt evidence.events.mpr eventsBit
      have guest := mt evidence.guest.mpr guestBit
      push Not at events guest
      obtain ⟨event, eventMember, eventUnread⟩ := events
      obtain ⟨field, member, unread⟩ := guest
      rw [since] at eventUnread unread
      refine Or.inr (Or.inr ⟨⟨event, eventMember, ?_⟩, field, member, ?_⟩)
      · rw [since]
        exact (failed_iff (eventsInside event eventMember)).mpr eventUnread
      · rw [since]
        exact (failed_iff (guestInside field member)).mpr unread
    · rintro (notOrdinary | unreadable | ⟨⟨event, eventMember, eventFailed⟩, field, member, failed⟩)
      · exact absurd ordinary.1 notOrdinary
      · exact absurd ordinary.2 unreadable
      · rw [since] at eventFailed failed
        have eventUnread := (failed_iff (eventsInside event eventMember)).mp eventFailed
        have unread := (failed_iff (guestInside field member)).mp failed
        obtain ⟨access, present, -, -, refused⟩ := failed
        refine captured.fatalEvidence m _ ⟨event, eventMember, ?_⟩ ⟨field, member, ?_⟩
          fun _ => ⟨access, ?_, refused⟩
        · rwa [since]
        · rwa [since]
        · rwa [since]
  · have closed : (foundReason m before).all isEntryFailureReason = true := by
      by_contra open_
      exact ordinary ((foundReason_ordinary m).mp open_)
    have unread {field : VmcsField} (inside : field ∈ (fatalFields m).map Prod.fst) :
        ¬ReadOk (accessesSince before now) field := by
      rw [since]
      refine logged.not_readOk (fatalFields_apart m field inside).1 ?_
      rw [← List.count_eq_zero, capturedFields_count m inside, if_pos closed]
    refine iff_of_true ?_ ?_
    · refine captured.fatalEvidence m _
        ⟨_, event_member, unread (eventsInside _ event_member)⟩
        ⟨_, guest_member m, unread (guestInside _ (guest_member m))⟩ fun exit => ?_
      -- The reason itself could not be read.
      have unreadable : foundReason m before = none :=
        if_neg fun known => ordinary ⟨exit, known.2⟩
      have single : (capturedFields m before).count .vmExitReason = 1 := by
        rw [capturedFields, if_pos exit.1, unreadable]
        rfl
      have failed := (logged.readFailed_iff (by decide) single).mpr
        (by rw [reasonRead, unreadable]; exact Bool.false_ne_true)
      obtain ⟨access, present, -, -, refused⟩ := failed
      exact ⟨access, by rwa [since], refused⟩
    · rcases not_and_or.mp ordinary with notOrdinary | unreadable
      · exact Or.inl notOrdinary
      · exact Or.inr (Or.inl unreadable)

/-- What a failed VMRESUME leaves before the capture: its flags, no snapshot, and
at most reads of the instruction error. -/
structure ResumeFailed (resumeFlags : U64) (before now : ExitState) : Prop where
  flags : now.vcpu.lastVmResumeFlags = resumeFlags
  snapshot : now.vcpu.fatalSnapshotCommitState = before.vcpu.fatalSnapshotCommitState
  log : ∃ errors, Logged before [] errors now

theorem haltAtResumeFailure_keeps (vcpu : VcpuContext) :
    (haltAtResumeFailure vcpu).fatalSnapshotCommitState = vcpu.fatalSnapshotCommitState ∧
      (haltAtResumeFailure vcpu).lastVmResumeFlags = vcpu.lastVmResumeFlags := by
  simp only [haltAtResumeFailure, failFirstExitProbeAtFatalBoundary, failFirstExitProbeIfActive,
    invalidateValidatedFirstExitProbe]
  split <;> split <;> exact ⟨rfl, rfl⟩

section

variable (resumeFlags : U64) (before : ExitState)

theorem modifyVcpu_failed (f : VcpuContext → VcpuContext)
    (keeps : ∀ vcpu, (f vcpu).fatalSnapshotCommitState = vcpu.fatalSnapshotCommitState ∧
      (f vcpu).lastVmResumeFlags = vcpu.lastVmResumeFlags) :
    ⦃fun s => ⌜ResumeFailed resumeFlags before s⌝⦄ modifyVcpu f
    ⦃⇓ _ s => ⌜ResumeFailed resumeFlags before s⌝⦄ :=
  spec_intro fun s failed => ⟨(keeps s.vcpu).2.trans failed.flags,
    (keeps s.vcpu).1.trans failed.snapshot,
    failed.log.imp fun _ logged => ⟨logged.log, logged.plain, logged.once⟩⟩

theorem readError_failed :
    ⦃fun s => ⌜ResumeFailed resumeFlags before s⌝⦄ vmReadChecked m .vmInstructionError
    ⦃⇓ _ s => ⌜ResumeFailed resumeFlags before s⌝⦄ := by
  refine spec_intro fun s failed => ?_
  rcases run : vmReadChecked m .vmInstructionError s with ⟨value, now⟩
  obtain ⟨followed, -⟩ := spec_run (vmReadChecked_followed m .vmInstructionError s) rfl run
  have touched := spec_run (vmReadChecked_touched m (fun _ => False) s .vmInstructionError)
    (Touched.refl s) run
  obtain ⟨earlier, past⟩ := failed.log
  have vcpu := touched.vcpu
  rw [Diagnosed] at vcpu
  refine ⟨?_, ?_, _, past.append followed.silent⟩
  · rw [vcpu]
    exact failed.flags
  · rw [vcpu]
    exact failed.snapshot

theorem readResumeError_failed :
    ⦃fun s => ⌜ResumeFailed resumeFlags before s⌝⦄ readResumeError m resumeFlags
    ⦃⇓ _ s => ⌜ResumeFailed resumeFlags before s⌝⦄ := by
  refine spec_intro fun s failed => ?_
  rw [readResumeError]
  by_cases valid : resumeFlags &&& bit 6 ≠ 0
  · rcases run : vmReadChecked m .vmInstructionError s with ⟨value, mid⟩
    have read := spec_run (readError_failed m resumeFlags before) failed run
    simp only [if_pos valid, bind, StateT.bind, run]
    cases value with
    | none => exact read
    | some error =>
      have record := modifyVcpu_failed resumeFlags before
        (fun vcpu => setVmcsDiagnosticValidity kValidityVmInstructionError
          { vcpu with last := { vcpu.last with vmInstructionError := error } })
        fun _ => ⟨rfl, rfl⟩
      exact spec_run record read rfl
  · rw [if_neg valid]
    exact failed

end

theorem handleVmResumeFailure_evidence (owned : m.hasVcpu = true)
    (first : before.vcpu.fatalSnapshotCommitState = .empty) {resumeFlags : U64}
    (failed : resumeFlags ≠ 0) :
    FatalEvidence m False before (handleVmResumeFailure m resumeFlags before).2 := by
  have begun : ResumeFailed resumeFlags before
      { before with vcpu := beginResumeFailure resumeFlags before.vcpu } :=
    ⟨rfl, rfl, [], Logged.nil rfl⟩
  rcases run : readResumeError m resumeFlags
    { before with vcpu := beginResumeFailure resumeFlags before.vcpu } with ⟨⟨⟩, mid⟩
  have read := spec_run (readResumeError_failed m resumeFlags before) begun run
  obtain ⟨errors, past⟩ := read.log
  let stopped : ExitState := { mid with
    vcpu := haltAtResumeFailure mid.vcpu
    ctx := { mid.ctx with abortVm := false, haltVm := true } }
  have result : handleVmResumeFailure m resumeFlags before =
      hvCaptureFatalSnapshotPreVmxoff m stopped := by
    have step : modifyVcpu (beginResumeFailure resumeFlags) before =
      ((), { before with vcpu := beginResumeFailure resumeFlags before.vcpu }) := rfl
    simp only [handleVmResumeFailure, owned, if_true, bind, StateT.bind, step, run]
    rfl
  have flags : ¬stopped.vcpu.lastVmResumeFlags = 0 := by
    rw [show stopped.vcpu.lastVmResumeFlags = resumeFlags from
      (haltAtResumeFailure_keeps mid.vcpu).2.trans read.flags]
    exact failed
  have vacant : stopped.vcpu.fatalSnapshotCommitState = .empty :=
    ((haltAtResumeFailure_keeps mid.vcpu).1.trans read.snapshot).trans first
  obtain ⟨qualification, captured⟩ := hvCaptureFatalSnapshotPreVmxoff_captured m owned vacant
  have unknown : foundReason m stopped = none := if_neg fun known => flags known.1
  rw [capturedFields, if_neg flags, unknown] at captured
  obtain ⟨reads, logged, reasonRead, qualificationRead⟩ := captured.reads
  have here : Logged before [] errors stopped := ⟨past.log, past.plain, past.once⟩
  have whole : Logged before [] (errors ++ reads) (hvCaptureFatalSnapshotPreVmxoff m stopped).2 :=
    here.append logged
  have unread {field : VmcsField} (apart : field ≠ .vmInstructionError) :
      ¬ReadOk (errors ++ reads) field := whole.not_readOk apart List.not_mem_nil
  have none_ : qualification = false := by
    by_contra set
    have present := qualificationRead.mpr (by simpa using set)
    exact unread (by decide) (readOk_append.mpr (Or.inr present))
  have all : FatalCaptured before [] false false (hvCaptureFatalSnapshotPreVmxoff m stopped).2 := by
    rw [none_] at captured
    refine ⟨captured.evidence, errors ++ reads, whole, ?_, ?_⟩
    · exact iff_of_false (unread (by decide)) Bool.false_ne_true
    · exact iff_of_false (unread (by decide)) Bool.false_ne_true
  rw [result]
  refine all.fatalEvidence m False ⟨_, event_member, ?_⟩ ⟨_, guest_member m, ?_⟩ False.elim
  · rw [whole.accesses]
    exact unread (by decide)
  · rw [whole.accesses]
    exact unread (by decide)

/-- At the first fatal boundary of a processor the snapshot is honest and complete
exactly where nothing is lost: at an ordinary exit whose reason can be read, only
where the VMREAD of an event field and that of a guest field fail. A failed VM
entry and a failed VMRESUME are never reported with an old RIP or RSP. -/
theorem hvCaptureFatalSnapshotPreVmxoff_honest_iff (before : ExitState) (owned : m.hasVcpu = true)
    (first : before.vcpu.fatalSnapshotCommitState = .empty) :
    (FatalEvidence m (OrdinaryExit before) before (hvCaptureFatalSnapshotPreVmxoff m before).2 ↔
        NothingLost m before (hvCaptureFatalSnapshotPreVmxoff m before).2) ∧
      ∀ resumeFlags ≠ 0,
        FatalEvidence m False before (handleVmResumeFailure m resumeFlags before).2 :=
  ⟨capture_evidence_iff m owned first,
    fun _ failed => handleVmResumeFailure_evidence m owned first failed⟩

end

/-- A triple fault of the guest. -/
def tripleFaultExit : ExitState :=
  { cpuidExit with
    vmcs := fun
      | .vmExitReason => 2
      | .guestRip => 0xFFFFF80000001000
      | .guestRsp => 0xFFFFF80000008000
      | _ => 0 }

/-- Behind the handler, where the fatal path takes its snapshot. -/
def stoppedExit : ExitState := (vmExitHandler quietMachine tripleFaultExit).2

theorem hvCaptureFatalSnapshotPreVmxoff_honest_iff_tripleFault :
    stoppedExit.ctx.haltVm = true ∧ stoppedExit.vcpu.fatalSnapshotCommitState = .empty ∧
      (FatalEvidence quietMachine (OrdinaryExit stoppedExit) stoppedExit
          (hvCaptureFatalSnapshotPreVmxoff quietMachine stoppedExit).2 ↔
        NothingLost quietMachine stoppedExit
          (hvCaptureFatalSnapshotPreVmxoff quietMachine stoppedExit).2) := by
  have stopped : stoppedExit.ctx.haltVm = true := by decide +kernel
  have vacant : stoppedExit.vcpu.fatalSnapshotCommitState = .empty := by decide +kernel
  have honest := hvCaptureFatalSnapshotPreVmxoff_honest_iff quietMachine stoppedExit rfl vacant
  exact ⟨stopped, vacant, honest.1⟩

/-- Every VMREAD succeeds, and the bugcheck shows zeros for RIP and RSP. -/
theorem hvCaptureFatalSnapshotPreVmxoff_drops_guest :
    hvFatalBugCheck quietMachine (hvCaptureFatalSnapshotPreVmxoff quietMachine stoppedExit).2.vcpu =
        ⟨0, 2, 0, 0⟩ ∧
      ¬FatalEvidence quietMachine (OrdinaryExit stoppedExit) stoppedExit
        (hvCaptureFatalSnapshotPreVmxoff quietMachine stoppedExit).2 := by
  have shown : hvFatalBugCheck quietMachine
      (hvCaptureFatalSnapshotPreVmxoff quietMachine stoppedExit).2.vcpu = ⟨0, 2, 0, 0⟩ := by
    decide +kernel
  refine ⟨shown, fun evidence => ?_⟩
  have reported := evidence.reported (by unfold OrdinaryExit; decide +kernel) (by decide +kernel)
  have rip := congrArg BugCheckParameters.rip (shown.symm.trans reported)
  exact absurd rip (by decide +kernel)

end Knhv.Vmx
