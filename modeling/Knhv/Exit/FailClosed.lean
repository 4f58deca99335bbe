import Knhv.Lib.Masks
import Knhv.Exit.Gate

namespace Knhv.Exit

/-- What a record has passed once its class is routed. -/
structure Admitted (record : ExitRecord) (policy : ExitPolicy) : Prop where
  generation : record.generation = policy.generation
  instructionLength : record.instructionLength ≤ policy.maxInstructionLength
  known : classifyExitReason record.reason ≠ .Unknown
  entered : record.flags &&& kExitRecordEntryFailure ≠ 0 →
    classifyExitReason record.reason = .GuestState
  guestOwned : classifyExitReason record.reason = .Memory →
    record.flags &&& kExitRecordHostOwned = 0
  notMisconfiguration : record.reason ≠ kReasonEptMisconfiguration
  notMachineCheck : record.reason ≠ kReasonMachineCheck

def resumes (action : U32) : Prop :=
  action = ExitAction.ResumeGuest.word ∨ action = ExitAction.ReflectToL1.word

def injects (action : U32) : Prop :=
  action = ExitAction.InjectUndefinedInstruction.word ∨
    action = ExitAction.InjectGeneralProtection.word

def Succeeds (result : Bool × Option ExitDecision) : Prop :=
  ∃ decision, result.2 = some decision ∧ decision.status = ExitDecisionStatus.Success.word

/-- The evaluation of an exit fails closed. -/
structure FailsClosed (record : Option ExitRecord) (policy : Option ExitPolicy)
    (physicalAddressBits linearAddressBits : U32) (result : Bool × Option ExitDecision) : Prop where
  refused : result.1 = false ↔
    isExitRecordValid record physicalAddressBits linearAddressBits = false ∨
      isExitPolicyValid policy linearAddressBits = false
  decided : ∃ decision, result.2 = some decision
  resumed : ∀ decision, result.2 = some decision →
    (resumes decision.action ↔ decision.status = ExitDecisionStatus.Success.word)
  admitted : Succeeds result → ∃ r p, record = some r ∧ policy = some p ∧ Admitted r p
  injected : ∀ decision, result.2 = some decision → injects decision.action →
    decision.exceptionVector = 6 ∧
      ∃ r, record = some r ∧ classifyExitReason r.reason = .NestedVmx
  silent : ∀ decision, result.2 = some decision → ¬injects decision.action →
    decision.exceptionVector = 0

/-- A policy that has every flag and class of another. -/
structure Covers (policy wider : ExitPolicy) : Prop where
  flags : policy.flags &&& ~~~wider.flags = 0
  allowedClasses : policy.allowedClasses &&& ~~~wider.allowedClasses = 0

/-- Such a policy, of the same generation, with room for the record's
instruction. -/
structure Widens (record : ExitRecord) (policy wider : ExitPolicy) : Prop
    extends Covers policy wider where
  generation : policy.generation = wider.generation
  instructionLength : record.instructionLength ≤ wider.maxInstructionLength

variable {record : ExitRecord} {policy wider : ExitPolicy} {exitClass : ExitClass}
  {physicalAddressBits linearAddressBits : U32}

theorem vmInstruction_nested {reason : U32} (instruction : isVmInstructionReason reason = true) :
    classifyExitReason reason = .NestedVmx := by
  simp only [isVmInstructionReason, kReasonVmcall, kReasonVmxon, Bool.and_eq_true] at instruction
  have lower : 18 ≤ reason := of_decide_eq_true instruction.1
  have upper : reason ≤ 27 := of_decide_eq_true instruction.2
  have listed : reason = 18 ∨ reason = 19 ∨ reason = 20 ∨ reason = 21 ∨ reason = 22 ∨
      reason = 23 ∨ reason = 24 ∨ reason = 25 ∨ reason = 26 ∨ reason = 27 := by bv_omega
  rcases listed with rfl | rfl | rfl | rfl | rfl | rfl | rfl | rfl | rfl | rfl <;> rfl

/-- What every verdict promises about its action and its vector. -/
structure Sober (exitClass : ExitClass) (verdict : Verdict) : Prop where
  resumed : (verdict.action = .ResumeGuest ∨ verdict.action = .ReflectToL1) ↔
    verdict.status = .Success
  injected : verdict.action = .InjectUndefinedInstruction →
    verdict.exceptionVector = 6 ∧ exitClass = .NestedVmx
  unprotected : verdict.action ≠ .InjectGeneralProtection
  silent : verdict.action ≠ .InjectUndefinedInstruction → verdict.exceptionVector = 0

theorem sober_quarantine (status : ExitDecisionStatus) (failed : status ≠ .Success) :
    Sober exitClass ⟨status, .QuarantineVcpu, 0⟩ :=
  ⟨by simp [failed], nofun, nofun, fun _ => rfl⟩

theorem sober_injection (nested : exitClass = .NestedVmx) :
    Sober exitClass ⟨.UnsupportedReason, .InjectUndefinedInstruction, 6⟩ :=
  ⟨by simp, fun _ => ⟨rfl, nested⟩, nofun, fun other => absurd rfl other⟩

theorem sober_resume : Sober exitClass ⟨.Success, .ResumeGuest, 0⟩ :=
  ⟨by simp, nofun, nofun, fun _ => rfl⟩

theorem sober_reflect : Sober exitClass ⟨.Success, .ReflectToL1, 0⟩ :=
  ⟨by simp, nofun, nofun, fun _ => rfl⟩

theorem routeClass_sober (known : exitClass = classifyExitReason record.reason) :
    Sober exitClass (routeClass record policy exitClass) := by
  fun_cases routeClass record policy exitClass with
  | case1 | case4 | case7 => exact sober_reflect
  | case3 => exact sober_resume
  | case2 nested => exact sober_injection (beq_iff_eq.mp nested)
  | case5 | case9 => exact sober_quarantine _ (by decide)
  | case6 =>
    split
    · exact sober_reflect
    · exact sober_resume
  | case8 notNested _ _ _ _ instruction =>
    exact absurd (known.trans (vmInstruction_nested instruction)) (by simpa using notNested)

theorem routeExit_sober (record : ExitRecord) (policy : ExitPolicy) :
    Sober (classifyExitReason record.reason) (routeExit record policy) := by
  unfold routeExit
  split
  · exact sober_quarantine _ nofun
  split
  · exact sober_quarantine _ nofun
  dsimp only
  split
  · exact sober_quarantine _ nofun
  split
  · exact sober_quarantine _ nofun
  split
  · exact sober_quarantine _ nofun
  split
  · exact ⟨by simp, nofun, nofun, fun _ => rfl⟩
  · exact routeClass_sober rfl

/-- An admitted record is answered by its class. -/
theorem Admitted.routed (admitted : Admitted record policy) :
    routeExit record policy = routeClass record policy (classifyExitReason record.reason) := by
  simp only [routeExit]
  rw [if_neg (by simpa using admitted.generation),
    if_neg (BitVec.not_lt.mpr admitted.instructionLength), if_neg (by simpa using admitted.known),
    if_neg (by simpa using admitted.entered), if_neg (by simpa using admitted.guestOwned),
    if_neg (by simp [admitted.notMisconfiguration, admitted.notMachineCheck])]

theorem admitted_of_success (success : (routeExit record policy).status = .Success) :
    Admitted record policy := by
  unfold routeExit at success
  split at success
  · cases success
  rename_i generation
  split at success
  · cases success
  rename_i short
  dsimp only at success
  split at success
  · cases success
  rename_i known
  split at success
  · cases success
  rename_i entered
  split at success
  · cases success
  rename_i guestOwned
  split at success
  · cases success
  rename_i harmless
  rw [Bool.or_eq_true, not_or] at harmless
  exact ⟨by simpa using generation, BitVec.not_lt.mp short, by simpa using known,
    by simpa using entered, by simpa using guestOwned, by simpa using harmless.1,
    by simpa using harmless.2⟩

theorem Covers.handles (covers : Covers policy wider)
    (handled : policyHandlesClass policy exitClass = true) :
    policyHandlesClass wider exitClass = true := by
  rw [policyHandlesClass, bne_iff_ne] at handled ⊢
  exact Masks.touches_of_inside covers.allowedClasses handled

/-- With more flags and classes no class loses its answer. -/
theorem Covers.routeClass (covers : Covers policy wider)
    (success : (routeClass record policy exitClass).status = .Success) :
    (routeClass record wider exitClass).status = .Success := by
  revert success
  fun_cases Exit.routeClass record policy exitClass with
  | case1 nested reflects =>
    intro _
    rw [Bool.and_eq_true, bne_iff_ne] at reflects
    have reflected := Masks.touches_of_inside covers.flags reflects.1
    simp [Exit.routeClass, nested, reflected, covers.handles reflects.2]
  | case2 =>
    intro success
    cases success
  | case3 notNested interrupt =>
    intro _
    simp [Exit.routeClass, notNested, interrupt]
  | case4 notNested notInterrupt fatal triple =>
    intro _
    rw [Bool.and_eq_true] at triple
    simp [Exit.routeClass, notNested, notInterrupt, fatal, triple.1, covers.handles triple.2]
  | case5 =>
    intro success
    cases success
  | case6 notNested notInterrupt notFatal handled =>
    intro _
    rw [Bool.and_eq_true] at handled
    have allowed := covers.handles handled.2
    rw [Exit.routeClass, if_neg notNested, if_neg notInterrupt, if_neg notFatal, allowed,
      Bool.and_true, if_pos rfl]
    split <;> rfl
  | case7 notNested notInterrupt notFatal _ handled =>
    intro _
    have allowed := covers.handles handled
    rw [Exit.routeClass, if_neg notNested, if_neg notInterrupt, if_neg notFatal, allowed,
      Bool.and_true, if_pos rfl]
    split <;> rfl
  | case8 =>
    intro success
    cases success
  | case9 =>
    intro success
    cases success

theorem Widens.routeExit (widens : Widens record policy wider)
    (success : (routeExit record policy).status = .Success) :
    (routeExit record wider).status = .Success := by
  have admitted := admitted_of_success success
  have admitted' : Admitted record wider :=
    { admitted with
      generation := admitted.generation.trans widens.generation
      instructionLength := widens.instructionLength }
  rw [admitted.routed] at success
  rw [admitted'.routed]
  exact widens.toCovers.routeClass success

theorem resumes_iff {action : ExitAction} :
    resumes action.word ↔ action = .ResumeGuest ∨ action = .ReflectToL1 := by
  unfold resumes
  cases action <;> decide

theorem injects_iff {action : ExitAction} :
    injects action.word ↔ action = .InjectUndefinedInstruction ∨
      action = .InjectGeneralProtection := by
  unfold injects
  cases action <;> decide

/-- An exit is routed, or its record or its policy is refused. -/
theorem evaluateExit_cases (record : Option ExitRecord) (policy : Option ExitPolicy)
    (physicalAddressBits linearAddressBits : U32) :
    (∃ r p, record = some r ∧ policy = some p ∧
      isExitRecordValid record physicalAddressBits linearAddressBits = true ∧
      isExitPolicyValid policy linearAddressBits = true ∧
      evaluateExit record policy physicalAddressBits linearAddressBits true =
        (true, some (setDecision (initializeDecision record) (routeExit r p)))) ∨
    ((isExitRecordValid record physicalAddressBits linearAddressBits = false ∨
        isExitPolicyValid policy linearAddressBits = false) ∧
      evaluateExit record policy physicalAddressBits linearAddressBits true =
        (false, some (setDecision (initializeDecision record)
          ⟨.InvalidParameter, .QuarantineVcpu, 0⟩))) := by
  cases record with
  | none => exact .inr ⟨.inl rfl, rfl⟩
  | some r =>
    cases policy with
    | none => exact .inr ⟨.inr rfl, rfl⟩
    | some p =>
      cases recordValid : isExitRecordValid (some r) physicalAddressBits linearAddressBits with
      | false => exact .inr ⟨.inl rfl, by simp [evaluateExit, recordValid]⟩
      | true =>
        cases policyValid : isExitPolicyValid (some p) linearAddressBits with
        | false => exact .inr ⟨.inr rfl, by simp [evaluateExit, policyValid]⟩
        | true => exact .inl ⟨r, p, rfl, rfl, rfl, rfl, evaluateExit_valid recordValid policyValid⟩

/-- A sober verdict, behind the right checks, fails closed. -/
theorem Sober.failsClosed {record : Option ExitRecord} {policy : Option ExitPolicy} {accepted : Bool}
    {verdict : Verdict} (sober : Sober exitClass verdict)
    (refused : accepted = false ↔
      isExitRecordValid record physicalAddressBits linearAddressBits = false ∨
        isExitPolicyValid policy linearAddressBits = false)
    (admitted : verdict.status = .Success →
      ∃ r p, record = some r ∧ policy = some p ∧ Admitted r p)
    (classified : verdict.action = .InjectUndefinedInstruction →
      ∃ r, record = some r ∧ classifyExitReason r.reason = exitClass) :
    FailsClosed record policy physicalAddressBits linearAddressBits
      (accepted, some (setDecision (initializeDecision record) verdict)) := by
  constructor
  case refused => exact refused
  case decided => exact ⟨_, rfl⟩
  case resumed =>
    rintro decision ⟨⟩
    exact resumes_iff.trans (sober.resumed.trans statusWord_eq_success_iff.symm)
  case admitted =>
    rintro ⟨decision, ⟨⟩, success⟩
    exact admitted (statusWord_eq_success_iff.mp success)
  case injected =>
    rintro decision ⟨⟩ injection
    have undefined := (injects_iff.mp injection).resolve_right sober.unprotected
    obtain ⟨vector, nested⟩ := sober.injected undefined
    obtain ⟨r, there, known⟩ := classified undefined
    exact ⟨vector, r, there, known.trans nested⟩
  case silent =>
    rintro decision ⟨⟩ none
    exact sober.silent fun undefined => none (injects_iff.mpr (.inl undefined))

theorem evaluateExit_failsClosed (record : Option ExitRecord) (policy : Option ExitPolicy)
    (physicalAddressBits linearAddressBits : U32) :
    FailsClosed record policy physicalAddressBits linearAddressBits
      (evaluateExit record policy physicalAddressBits linearAddressBits true) := by
  rcases evaluateExit_cases record policy physicalAddressBits linearAddressBits with
    ⟨r, p, rfl, rfl, recordValid, policyValid, result⟩ | ⟨invalid, result⟩
  · rw [result]
    refine (routeExit_sober r p).failsClosed ?_ (fun success => ?_) fun _ => ⟨r, rfl, rfl⟩
    · simp [recordValid, policyValid]
    · exact ⟨r, p, rfl, rfl, admitted_of_success success⟩
  · rw [result]
    have sober : Sober .Unknown ⟨.InvalidParameter, .QuarantineVcpu, 0⟩ := sober_quarantine _ nofun
    exact sober.failsClosed (iff_of_true rfl invalid) nofun nofun

/-- An answer that succeeds goes on succeeding under a policy that allows more. -/
theorem Widens.succeeds (widens : Widens record policy wider)
    (widerValid : isExitPolicyValid (some wider) linearAddressBits = true)
    (succeeds : Succeeds (evaluateExit (some record) (some policy) physicalAddressBits
      linearAddressBits true)) :
    Succeeds (evaluateExit (some record) (some wider) physicalAddressBits linearAddressBits
      true) := by
  obtain ⟨decision, decided, success⟩ := succeeds
  rcases evaluateExit_cases (some record) (some policy) physicalAddressBits linearAddressBits with
    ⟨r, p, ⟨⟩, ⟨⟩, recordValid, _, result⟩ | ⟨_, result⟩
  · rw [result] at decided
    cases decided
    rw [evaluateExit_valid recordValid widerValid]
    have routed := widens.routeExit (statusWord_eq_success_iff.mp success)
    exact ⟨_, rfl, statusWord_eq_success_iff.mpr routed⟩
  · rw [result] at decided
    cases decided
    cases success

/-- The evaluation of an exit fails closed for every record and policy. A valid
policy with more flags and classes, of the same generation and with room for the
instruction, takes no success back. -/
theorem evaluateExit_closed_and_monotone :
    (∀ record policy physicalAddressBits linearAddressBits,
      FailsClosed record policy physicalAddressBits linearAddressBits
        (evaluateExit record policy physicalAddressBits linearAddressBits true)) ∧
    ∀ record policy wider physicalAddressBits linearAddressBits,
      isExitPolicyValid (some wider) linearAddressBits = true → Widens record policy wider →
      Succeeds (evaluateExit (some record) (some policy) physicalAddressBits linearAddressBits
        true) →
      Succeeds (evaluateExit (some record) (some wider) physicalAddressBits linearAddressBits
        true) :=
  ⟨evaluateExit_failsClosed, fun _ _ _ _ _ widerValid widens => widens.succeeds widerValid⟩

theorem evaluateExit_closed_and_monotone_cpuid :
    Succeeds (evaluateExit (some (plainRecord kReasonCpuid)) (some noInterruptPolicy) 48 48 true) ∧
      Succeeds (evaluateExit (some (plainRecord kReasonCpuid))
        (some { noInterruptPolicy with allowedClasses := kExitKnownClassMask }) 48 48 true) := by
  have succeeds : Succeeds (evaluateExit (some (plainRecord kReasonCpuid)) (some noInterruptPolicy)
    48 48 true) := ⟨_, rfl, by decide⟩
  exact ⟨succeeds, evaluateExit_closed_and_monotone.2 _ noInterruptPolicy _ 48 48 (by decide)
    ⟨⟨by decide, by decide⟩, rfl, by decide⟩ succeeds⟩

/-- A policy that covers another refuses its exits when it is a generation later, and,
in the same generation, when it has no room for the record's instruction. -/
theorem covering_policy_takes_back :
    (¬∀ record policy wider physicalAddressBits linearAddressBits,
      isExitPolicyValid (some policy) linearAddressBits = true →
      isExitPolicyValid (some wider) linearAddressBits = true → Covers policy wider →
      policy.maxInstructionLength = wider.maxInstructionLength →
      Succeeds (evaluateExit (some record) (some policy) physicalAddressBits linearAddressBits
        true) →
      Succeeds (evaluateExit (some record) (some wider) physicalAddressBits linearAddressBits
        true)) ∧
    ¬∀ record policy wider physicalAddressBits linearAddressBits,
      isExitPolicyValid (some policy) linearAddressBits = true →
      isExitPolicyValid (some wider) linearAddressBits = true → Covers policy wider →
      policy.generation = wider.generation →
      Succeeds (evaluateExit (some record) (some policy) physicalAddressBits linearAddressBits
        true) →
      Succeeds (evaluateExit (some record) (some wider) physicalAddressBits linearAddressBits
        true) := by
  constructor
  · intro monotone
    obtain ⟨decision, decided, success⟩ := monotone (plainRecord kReasonCpuid) noInterruptPolicy
      { noInterruptPolicy with generation := 12 } 48 48 (by decide) (by decide)
      ⟨by decide, by decide⟩ rfl ⟨_, rfl, by decide⟩
    cases decided
    revert success
    decide
  · intro monotone
    obtain ⟨decision, decided, success⟩ := monotone (plainRecord kReasonCpuid) noInterruptPolicy
      { noInterruptPolicy with maxInstructionLength := 1 } 48 48 (by decide) (by decide)
      ⟨by decide, by decide⟩ rfl ⟨_, rfl, by decide⟩
    cases decided
    revert success
    decide

end Knhv.Exit
