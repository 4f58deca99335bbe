import Knhv.Lib.Masks
import Knhv.CpuPolicy.Model

namespace Knhv.CpuPolicy

/-- Everything the policy asks of a register that the guest reaches itself. -/
structure MayPass (policy : MsrPolicy) (msr : U32) : Prop where
  allowed : policy.flags &&& kMsrPolicyAllowPassThrough ≠ 0
  tsc : msr = kMsrIa32Tsc → policy.flags &&& kMsrPolicyAllowTsc ≠ 0
  pat : msr = kMsrIa32Pat → policy.flags &&& kMsrPolicyAllowPat ≠ 0
  debugctl : msr = kMsrIa32Debugctl → policy.flags &&& kMsrPolicyAllowDebug ≠ 0
  cet : msr = kMsrIa32Xss ∨ msr = kMsrIa32UCet ∨ msr = kMsrIa32SCet →
    policy.flags &&& kMsrPolicyAllowCet ≠ 0
  efer : msr ≠ kMsrIa32Efer

/-- What a rule makes of the guest's value where it does not pass through. -/
structure Virtualizes (rule : MsrRule) (write : Bool) (result : U64) : Prop where
  allowed : write = true → result &&& ~~~rule.writeAllowedMask = 0
  required : write = true → rule.writeRequiredOne &&& ~~~result = 0
  read : write = false → result &&& ~~~rule.readMask = 0

/-- What a rule answers with success. -/
structure Serves (policy : MsrPolicy) (rule : MsrRule) (msr : U32) (write : Bool) (value : U64)
    (action : U32) (result : U64) : Prop where
  member : rule ∈ policy.activeRules
  own : rule.msr = msr
  acts : action = rule.action write
  answer : action = MsrAction.Virtualized.word ∧ Virtualizes rule write result ∨
    action = MsrAction.PassThrough.word ∧ result = value ∧ MayPass policy msr

/-- A decision succeeds under a rule of a valid policy, or it injects; and a rule of
a valid policy passes nothing that the policy does not let pass. -/
structure Closed (policy : Option MsrPolicy) (msr : U32) (write : Bool) (value : U64)
    (decision : MsrDecision) : Prop where
  success : decision.status = MsrDecisionStatus.Success.word →
    ∃ valid rule, policy = some valid ∧ isMsrPolicyValid valid = true ∧
      Serves valid rule msr write value decision.action decision.value
  otherwise : decision.status ≠ MsrDecisionStatus.Success.word →
    isInjection decision.action = true ∧ decision.value = 0
  passes : ∀ valid rule, policy = some valid → isMsrPolicyValid valid = true →
    findMsrRule valid msr = some rule → rule.action write = MsrAction.PassThrough.word →
    isSpecialPassThroughAllowed valid msr = true

variable {policy : MsrPolicy} {rule : MsrRule} {msr : U32} {write : Bool} {value : U64}

theorem mayPass_of_special (special : isSpecialPassThroughAllowed policy msr = true) :
    MayPass policy msr := by
  unfold isSpecialPassThroughAllowed at special
  split at special
  · cases special
  rename_i allowed
  refine ⟨fun closed => allowed (beq_iff_eq.mpr closed), ?_, ?_, ?_, ?_, ?_⟩
  · rintro rfl
    rw [if_pos (by decide)] at special
    exact bne_iff_ne.mp special
  · rintro rfl
    rw [if_neg (by decide), if_pos (by decide)] at special
    exact bne_iff_ne.mp special
  · rintro rfl
    rw [if_neg (by decide), if_neg (by decide), if_pos (by decide)] at special
    exact bne_iff_ne.mp special
  · rintro (rfl | rfl | rfl)
    all_goals
      rw [if_neg (by decide), if_neg (by decide), if_neg (by decide), if_pos (by decide)] at special
      exact bne_iff_ne.mp special
  · rintro rfl
    rw [if_neg (by decide), if_neg (by decide), if_neg (by decide), if_neg (by decide)] at special
    exact absurd special (by decide)

/-- What the evaluation of an access needs of a rule. -/
structure MsrRuleSound (policy : MsrPolicy) (rule : MsrRule) : Prop where
  action : ∀ write, isMsrActionValid (rule.action write) = true
  required : rule.writeRequiredOne &&& ~~~rule.writeAllowedMask = 0
  passes : ∀ write, rule.action write = MsrAction.PassThrough.word →
    isSpecialPassThroughAllowed policy rule.msr = true

theorem msrRuleSound_of (sound : isMsrRuleSound policy rule = true) : MsrRuleSound policy rule := by
  unfold isMsrRuleSound at sound
  split at sound
  · cases sound
  rename_i words
  split at sound
  · cases sound
  split at sound
  · cases sound
  split at sound
  · cases sound
  rename_i reads
  simp only [Bool.or_eq_true, Bool.not_eq_true', bne_iff_ne, not_or, Bool.not_eq_false,
    not_not] at words
  simp only [Bool.not_eq_true', Bool.and_eq_true, beq_iff_eq, not_and, Bool.not_eq_false] at reads
  simp only [Bool.not_eq_true', Bool.and_eq_false_imp, beq_iff_eq, Bool.not_eq_false'] at sound
  refine ⟨fun write => ?_, words.2, fun write passes => ?_⟩
  · cases write with
    | false => exact words.1.1.1.1
    | true => exact words.1.1.1.2
  · cases write with
    | false => exact reads passes
    | true => exact sound passes

theorem msrRuleSound_of_valid (valid : isMsrPolicyValid policy = true)
    (member : rule ∈ policy.activeRules) : MsrRuleSound policy rule := by
  unfold isMsrPolicyValid at valid
  split at valid
  · cases valid
  split at valid
  · cases valid
  rename_i accepted
  rw [Bool.not_eq_true', Bool.not_eq_false] at accepted
  exact msrRuleSound_of ((Census.accepts_iff.mp accepted).1 rule member)

theorem mem_of_findMsrRule (found : findMsrRule policy msr = some rule) :
    rule ∈ policy.activeRules ∧ rule.msr = msr :=
  ⟨List.mem_of_find?_eq_some found,
    beq_iff_eq.mp (List.find?_some (p := fun rule : MsrRule => rule.msr == msr) found)⟩

/-- The second check of an access never refuses under a valid policy. -/
theorem passes_of_valid (valid : isMsrPolicyValid policy = true)
    (found : findMsrRule policy msr = some rule)
    (passes : rule.action write = MsrAction.PassThrough.word) :
    isSpecialPassThroughAllowed policy msr = true := by
  obtain ⟨member, rfl⟩ := mem_of_findMsrRule found
  exact (msrRuleSound_of_valid valid member).passes write passes

/-- The actions that a valid rule may name, but for the three before it. -/
theorem injects_of_valid {action : U32} (valid : isMsrActionValid action = true)
    (notPass : action ≠ MsrAction.PassThrough.word)
    (notVirtual : action ≠ MsrAction.Virtualized.word)
    (notUndefined : action ≠ MsrAction.InjectUndefinedInstruction.word) :
    action = MsrAction.InjectGeneralProtection.word := by
  rw [isMsrActionValid, decide_eq_true_eq] at valid
  simp only [MsrAction.word] at *
  bv_omega

theorem virtualizes_write (sound : MsrRuleSound policy rule)
    (allowed : value &&& ~~~rule.writeAllowedMask = 0) :
    Virtualizes rule true (value &&& rule.writeAllowedMask ||| rule.writeRequiredOne) where
  allowed _ := by
    rw [Masks.and_eq_self allowed, BitVec.and_or_distrib_right, allowed, sound.required]
    rfl
  required _ := by
    rw [BitVec.not_or, ← BitVec.and_assoc, BitVec.and_comm rule.writeRequiredOne,
      BitVec.and_assoc, BitVec.and_not_self]
    exact BitVec.and_zero
  read reads := by cases reads

theorem virtualizes_read : Virtualizes rule false (value &&& rule.readMask) where
  allowed writes := by cases writes
  required writes := by cases writes
  read _ := by
    rw [BitVec.and_assoc, BitVec.and_not_self]
    exact BitVec.and_zero

/-- A valid policy serves an access by one of its rules, or injects. -/
theorem answerMsr_serves_or_injects (valid : isMsrPolicyValid policy = true) (msr : U32)
    (write : Bool) (value : U64) :
    ((answerMsr policy msr write value).1 = .Success ∧
      ∃ rule, Serves policy rule msr write value (answerMsr policy msr write value).2.1
        (answerMsr policy msr write value).2.2) ∨
    ((answerMsr policy msr write value).1 ≠ .Success ∧
      isInjection (answerMsr policy msr write value).2.1 = true ∧
      (answerMsr policy msr write value).2.2 = 0) := by
  have protects : MsrDecisionStatus.InjectGeneralProtection ≠ .Success ∧
      isInjection MsrAction.InjectGeneralProtection.word = true := by decide
  have undefines : MsrDecisionStatus.InjectUndefinedInstruction ≠ .Success ∧
      isInjection MsrAction.InjectUndefinedInstruction.word = true := by decide
  unfold answerMsr
  cases found : findMsrRule policy msr with
  | none => exact .inr ⟨protects.1, protects.2, rfl⟩
  | some rule =>
    obtain ⟨member, own⟩ := mem_of_findMsrRule found
    have sound := msrRuleSound_of_valid valid member
    dsimp only
    split
    · exact .inr ⟨protects.1, protects.2, rfl⟩
    split
    · rename_i isVirtual
      rw [beq_iff_eq] at isVirtual
      cases write with
      | true =>
        rw [if_pos rfl]
        split
        · exact .inr ⟨protects.1, protects.2, rfl⟩
        · rename_i allowed
          rw [bne_iff_ne, not_not] at allowed
          exact .inl ⟨rfl, rule, member, own, rfl,
            .inl ⟨isVirtual, virtualizes_write sound allowed⟩⟩
      | false =>
        exact .inl ⟨rfl, rule, member, own, rfl, .inl ⟨isVirtual, virtualizes_read⟩⟩
    rename_i notVirtual
    split
    · rename_i isPass
      rw [beq_iff_eq] at isPass
      have special := passes_of_valid valid found isPass
      exact .inl ⟨rfl, rule, member, own, rfl, .inr ⟨isPass, rfl, mayPass_of_special special⟩⟩
    rename_i notPass
    split
    · rename_i isUndefined
      rw [beq_iff_eq] at isUndefined
      exact .inr ⟨undefines.1, isUndefined ▸ undefines.2, rfl⟩
    · rename_i notUndefined
      rw [beq_iff_eq] at notVirtual notPass notUndefined
      have injects := injects_of_valid (sound.action write) notPass notVirtual notUndefined
      exact .inr ⟨protects.1, injects ▸ protects.2, rfl⟩

theorem statusWord_success_iff {status : MsrDecisionStatus} :
    status.word = MsrDecisionStatus.Success.word ↔ status = .Success := by
  cases status <;> decide

/-- Every access is decided, and every decision fails closed. -/
theorem evaluateMsrAccess_closed (policy : Option MsrPolicy) (msr : U32) (write : Bool)
    (value : U64) :
    ∃ decision, (evaluateMsrAccess policy msr write value true).2 = some decision ∧
      Closed policy msr write value decision := by
  have passes : ∀ valid rule, policy = some valid → isMsrPolicyValid valid = true →
      findMsrRule valid msr = some rule → rule.action write = MsrAction.PassThrough.word →
      isSpecialPassThroughAllowed valid msr = true :=
    fun _ _ _ valid found isPass => passes_of_valid valid found isPass
  have fails : MsrDecisionStatus.InvalidParameter.word ≠ MsrDecisionStatus.Success.word ∧
      isInjection MsrAction.InjectGeneralProtection.word = true := by decide
  have refused : ∀ decision : MsrDecision,
      Closed policy msr write value
        (setMsrDecision decision .InvalidParameter MsrAction.InjectGeneralProtection.word 0) :=
    fun _ => ⟨fun success => absurd success fails.1, fun _ => ⟨fails.2, rfl⟩, passes⟩
  cases policy with
  | none => exact ⟨_, rfl, refused _⟩
  | some policy =>
    cases valid : isMsrPolicyValid policy with
    | false =>
      refine ⟨_, ?_, refused (initializeMsrDecision msr write policy.generation)⟩
      simp only [evaluateMsrAccess, valid]
      rfl
    | true =>
      let answer := answerMsr policy msr write value
      refine ⟨setMsrDecision (initializeMsrDecision msr write policy.generation) answer.1
        answer.2.1 answer.2.2, ?_, ?_⟩
      · simp only [evaluateMsrAccess, valid]
        rfl
      · rcases answerMsr_serves_or_injects valid msr write value with
          ⟨success, rule, serves⟩ | ⟨fails, injects⟩
        · exact ⟨fun _ => ⟨policy, rule, rfl, valid, serves⟩,
            fun fails => absurd (statusWord_success_iff.mpr success) fails, passes⟩
        · exact ⟨fun success => absurd (statusWord_success_iff.mp success) fails,
            fun _ => injects, passes⟩

end Knhv.CpuPolicy
