import Knhv.Exit.Model

namespace Knhv.Exit

/-- A decision that says `Success` answers an exit of a class that the policy
allows. -/
def Gated (record : ExitRecord) (policy : ExitPolicy) (result : Bool × Option ExitDecision) :
    Prop :=
  ∀ decision, result.2 = some decision → decision.status = ExitDecisionStatus.Success.word →
    policyHandlesClass policy (classifyExitReason record.reason) = true

/-- The checks that come before the class of a record is looked at. -/
def passesFirstChecks (record : ExitRecord) (policy : ExitPolicy) : Bool :=
  record.generation == policy.generation &&
  record.instructionLength ≤ policy.maxInstructionLength &&
  record.flags &&& kExitRecordEntryFailure == 0

/-- An interrupt exit that the policy does not allow and that no earlier check
stops. -/
def isUngatedInterrupt (record : ExitRecord) (policy : ExitPolicy) : Bool :=
  classifyExitReason record.reason == .Interrupt && !policyHandlesClass policy .Interrupt &&
  passesFirstChecks record policy

theorem statusWord_eq_success_iff {status : ExitDecisionStatus} :
    status.word = ExitDecisionStatus.Success.word ↔ status = .Success := by
  cases status <;> decide

/-- The routing answers `Success` only to an allowed class, or to an interrupt. -/
theorem routeClass_success {record : ExitRecord} {policy : ExitPolicy} {exitClass : ExitClass}
    (success : (routeClass record policy exitClass).status = .Success) :
    exitClass = .Interrupt ∨ policyHandlesClass policy exitClass = true := by
  revert success
  fun_cases routeClass record policy exitClass with
  | case1 _ reflects =>
    intro _
    rw [Bool.and_eq_true] at reflects
    exact Or.inr reflects.2
  | case3 _ interrupt => exact fun _ => Or.inl (beq_iff_eq.mp interrupt)
  | case4 _ _ _ triple =>
    intro _
    rw [Bool.and_eq_true] at triple
    exact Or.inr triple.2
  | case6 _ _ _ handled =>
    intro _
    rw [Bool.and_eq_true] at handled
    exact Or.inr handled.2
  | case7 _ _ _ _ handled => exact fun _ => Or.inr handled
  | case2 | case8 => nofun
  | case5 | case9 => nofun

/-- A verdict of success has passed the checks before the routing. -/
theorem routeExit_success {record : ExitRecord} {policy : ExitPolicy}
    (success : (routeExit record policy).status = .Success) :
    isUngatedInterrupt record policy = true ∨
      policyHandlesClass policy (classifyExitReason record.reason) = true := by
  unfold routeExit at success
  split at success
  · cases success
  rename_i current
  split at success
  · cases success
  rename_i short
  dsimp only at success
  split at success
  · cases success
  split at success
  · cases success
  rename_i entered
  split at success
  · cases success
  split at success
  · cases success
  rcases routeClass_success success with interrupt | handled
  · cases handled : policyHandlesClass policy (classifyExitReason record.reason) with
    | true => exact Or.inr rfl
    | false =>
      refine Or.inl ?_
      rw [interrupt] at handled entered
      simp only [isUngatedInterrupt, passesFirstChecks, interrupt, handled, Bool.and_eq_true,
        beq_iff_eq, decide_eq_true_eq, Bool.not_false, beq_self_eq_true, true_and]
      refine ⟨⟨by simpa using current, BitVec.not_lt.mp short⟩, ?_⟩
      simpa using entered
  · exact Or.inr handled

/-- An interrupt exit that is not allowed resumes the guest all the same. -/
theorem routeExit_ungated {record : ExitRecord} {policy : ExitPolicy}
    (ungated : isUngatedInterrupt record policy = true) :
    routeExit record policy = ⟨.Success, .ResumeGuest, 0⟩ ∧
      policyHandlesClass policy (classifyExitReason record.reason) = false := by
  simp only [isUngatedInterrupt, passesFirstChecks, Bool.and_eq_true, beq_iff_eq,
    Bool.not_eq_true', decide_eq_true_eq] at ungated
  obtain ⟨⟨interrupt, refused⟩, ⟨current, short⟩, entered⟩ := ungated
  refine ⟨?_, interrupt ▸ refused⟩
  have misconfiguration : record.reason ≠ kReasonEptMisconfiguration := by
    intro same
    rw [same] at interrupt
    revert interrupt
    decide
  have machineCheck : record.reason ≠ kReasonMachineCheck := by
    intro same
    rw [same] at interrupt
    revert interrupt
    decide
  simp only [routeExit, interrupt, current, bne_self_eq_false, BitVec.not_lt.mpr short, entered,
    beq_eq_false_iff_ne.mpr misconfiguration, beq_eq_false_iff_ne.mpr machineCheck]
  rfl

theorem evaluateExit_valid {record : ExitRecord} {policy : ExitPolicy}
    {physicalAddressBits linearAddressBits : U32}
    (recordValid : isExitRecordValid (some record) physicalAddressBits linearAddressBits = true)
    (policyValid : isExitPolicyValid (some policy) linearAddressBits = true) :
    evaluateExit (some record) (some policy) physicalAddressBits linearAddressBits true =
      (true, some (setDecision (initializeDecision (some record)) (routeExit record policy))) := by
  simp only [evaluateExit, recordValid, policyValid, Bool.not_true, Bool.or_self,
    Bool.false_eq_true, if_false]

/-- The gate of the exit policy, for every valid record and policy: it holds
exactly if the record is no interrupt exit that the policy leaves out, as
those are resumed without a look at the allowed classes. -/
theorem evaluateExit_gated_iff {record : ExitRecord} {policy : ExitPolicy}
    {physicalAddressBits linearAddressBits : U32}
    (recordValid : isExitRecordValid (some record) physicalAddressBits linearAddressBits = true)
    (policyValid : isExitPolicyValid (some policy) linearAddressBits = true) :
    Gated record policy
        (evaluateExit (some record) (some policy) physicalAddressBits linearAddressBits true) ↔
      isUngatedInterrupt record policy = false := by
  rw [evaluateExit_valid recordValid policyValid]
  constructor
  · intro gated
    by_contra ungated
    obtain ⟨resumed, refused⟩ := routeExit_ungated (by simpa using ungated)
    have allowed := gated _ rfl (by rw [resumed]; rfl)
    rw [refused] at allowed
    cases allowed
  · intro stopped decision written success
    cases written
    rcases routeExit_success (statusWord_eq_success_iff.mp success) with ungated | handled
    · rw [stopped] at ungated
      cases ungated
    · exact handled

/-- A policy that allows every class but the interrupts. -/
def noInterruptPolicy : ExitPolicy where
  size := sizeofExitPolicy
  version := kExitContractVersion
  level := 1
  flags := kExitKnownPolicyMask
  allowedClasses := kExitKnownClassMask &&& ~~~kExitClassInterrupt
  maxInstructionLength := kExitMaxInstructionLength
  generation := 11
  reserved := 0

def plainRecord (reason : U32) : ExitRecord where
  size := sizeofExitRecord
  version := kExitContractVersion
  reason := reason
  instructionLength := 3
  flags := 0
  reserved := 0
  qualification := 0
  guestLinear := 0x1000
  guestPhysical := 0x2000
  guestRip := 0x400000
  generation := 11

/-- A CPUID exit under that policy. -/
theorem evaluateExit_gated_cpuid :
    Gated (plainRecord kReasonCpuid) noInterruptPolicy
      (evaluateExit (some (plainRecord kReasonCpuid)) (some noInterruptPolicy) 48 48 true) :=
  (evaluateExit_gated_iff (by decide) (by decide)).mpr (by decide)

/-- An external interrupt under that policy resumes the guest. -/
theorem external_interrupt_not_gated :
    ¬∀ record policy physicalAddressBits linearAddressBits,
      isExitRecordValid (some record) physicalAddressBits linearAddressBits = true →
      isExitPolicyValid (some policy) linearAddressBits = true →
      Gated record policy
        (evaluateExit (some record) (some policy) physicalAddressBits linearAddressBits true) := by
  intro gated
  have allowed := gated (plainRecord kReasonExternalInterrupt) noInterruptPolicy 48 48 (by decide)
    (by decide) _ rfl (by decide)
  revert allowed
  decide

end Knhv.Exit
