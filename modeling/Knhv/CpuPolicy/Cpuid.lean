import Mathlib.Data.Finset.Card
import Mathlib.Data.Finset.Range
import Knhv.Lib.Masks
import Knhv.CpuPolicy.Model

namespace Knhv.CpuPolicy

/-- The bits of ECX and EDX that the flags of the policy decide. -/
def decidedEcx (leaf : U32) : U32 :=
  if leaf == 1 then kCpuidLeaf1EcxVmx ||| kCpuidLeaf1EcxHypervisor else 0

def decidedEdx (policy : CpuidPolicy) (leaf : U32) : U32 :=
  if leaf == 0x80000007 && policy.flags &&& kCpuidExposeInvariantTsc == 0 then
    kCpuidLeaf80000007EdxInvariantTsc
  else 0

def exposesVmx (policy : CpuidPolicy) (host : CpuidResult) : Bool :=
  policy.flags &&& kCpuidExposeVmx != 0 && host.ecx &&& kCpuidLeaf1EcxVmx != 0

def exposesHypervisor (policy : CpuidPolicy) : Bool := policy.flags &&& kCpuidExposeHypervisor != 0

def leaf1Bits (vmx hypervisor : Bool) : U32 :=
  (if vmx then kCpuidLeaf1EcxVmx else 0) ||| (if hypervisor then kCpuidLeaf1EcxHypervisor else 0)

/-- Only the bits of leaf 1 are ever set by a flag. -/
def givenEcx (policy : CpuidPolicy) (leaf : U32) (host : CpuidResult) : U32 :=
  if leaf == 1 then leaf1Bits (exposesVmx policy host) (exposesHypervisor policy) else 0

/-- The registers of the guest, where nothing hides the leaf. -/
def shown (policy : CpuidPolicy) (leaf : U32) (host guest : CpuidResult) : CpuidResult where
  eax := guest.eax
  ebx := guest.ebx
  ecx := Masks.splice (decidedEcx leaf) (givenEcx policy leaf host) guest.ecx
  edx := Masks.splice (decidedEdx policy leaf) 0 guest.edx

variable {policy : CpuidPolicy} {leaf subleaf : U32} {host guest : CpuidResult} {rule : CpuidRule}

theorem putBit_eq (present : Bool) (bit word : U32) :
    putBit present bit word = Masks.splice bit (if present then bit else 0) word := by
  cases present with
  | true => exact Masks.or_eq_splice
  | false => exact BitVec.or_zero.symm

theorem putBit_leaf1 (vmx hypervisor : Bool) (word : U32) :
    putBit hypervisor kCpuidLeaf1EcxHypervisor (putBit vmx kCpuidLeaf1EcxVmx word) =
      Masks.splice (decidedEcx 1) (leaf1Bits vmx hypervisor) word := by
  have apart : (if vmx then kCpuidLeaf1EcxVmx else 0) &&& ~~~kCpuidLeaf1EcxHypervisor =
      if vmx then kCpuidLeaf1EcxVmx else 0 := by
    cases vmx <;> decide
  rw [putBit_eq, putBit_eq, Masks.splice_splice, apart]
  rfl

theorem givenEcx_inside : givenEcx policy leaf host &&& ~~~decidedEcx leaf = 0 := by
  unfold givenEcx decidedEcx
  split
  · generalize exposesVmx policy host = vmx
    generalize exposesHypervisor policy = hypervisor
    revert vmx hypervisor
    decide
  · exact BitVec.zero_and

theorem hide_expose : hideInvariantTsc policy leaf (exposeLeaf1 policy leaf host guest) =
    shown policy leaf host guest := by
  have plain (word : U32) : Masks.splice 0 0 word = word := Masks.splice_zero
  have ecx : (exposeLeaf1 policy leaf host guest) =
      { guest with ecx := Masks.splice (decidedEcx leaf) (givenEcx policy leaf host) guest.ecx } := by
    unfold exposeLeaf1 givenEcx
    split
    · rename_i first
      rw [beq_iff_eq.mp first, putBit_leaf1]
      rfl
    · rename_i notFirst
      rw [decidedEcx, if_neg notFirst, plain]
  have edx (guest : CpuidResult) : hideInvariantTsc policy leaf guest =
      { guest with edx := Masks.splice (decidedEdx policy leaf) 0 guest.edx } := by
    unfold hideInvariantTsc decidedEdx
    split
    · rw [show Masks.splice kCpuidLeaf80000007EdxInvariantTsc 0 guest.edx =
        guest.edx &&& ~~~kCpuidLeaf80000007EdxInvariantTsc from BitVec.or_zero]
    · rw [plain]
  rw [ecx, edx]
  rfl

/-- The policy says nothing of the leaf, or says it without a rule. -/
def isLeafHidden (policy : CpuidPolicy) (leaf : U32) : Bool :=
  leaf == 0x40000000 || isBeyondMaximum policy leaf || isTopologyHidden policy leaf

theorem filterLeaf_shown (open_ : isLeafHidden policy leaf = false) :
    filterLeaf policy leaf subleaf host =
      shown policy leaf host (maskLeaf policy leaf subleaf (clampLeaf policy leaf host)) := by
  simp only [isLeafHidden, Bool.or_eq_false_iff] at open_
  simp only [filterLeaf, open_, hide_expose, Bool.false_eq_true, if_false]

theorem filterLeaf_hidden (hidden : isLeafHidden policy leaf = true) (other : U32) :
    filterLeaf policy leaf subleaf host = filterLeaf policy leaf other host := by
  simp only [isLeafHidden, Bool.or_eq_true] at hidden
  unfold filterLeaf
  split
  · rfl
  split
  · rfl
  · rename_i notHypervisor inside
    have topology := (hidden.resolve_left fun early => early.elim notHypervisor inside)
    simp only [topology, if_true]

/-- What the filter needs of a valid policy. -/
structure CpuidSound (policy : CpuidPolicy) : Prop where
  positive : policy.maxBasicLeaf ≠ 0
  basic : policy.maxBasicLeaf < 0x80000000
  extended : 0x80000000 ≤ policy.maxExtendedLeaf
  ruleCount : policy.ruleCount ≤ kCpuPolicyMaxCpuidRules
  rules : Census.accepts isCpuidRuleSound isSameCpuidRule [] policy.activeRules = true

theorem cpuidSound_of_valid (valid : isCpuidPolicyValid policy = true) : CpuidSound policy := by
  unfold isCpuidPolicyValid at valid
  split at valid
  · cases valid
  rename_i header
  split at valid
  · cases valid
  split at valid
  · cases valid
  rename_i rules
  simp only [Bool.or_eq_true, not_or, decide_eq_true_eq, beq_iff_eq] at header
  exact ⟨header.1.1.1.1.2, BitVec.not_le.mp header.1.1.1.2, BitVec.not_lt.mp header.1.1.2,
    BitVec.not_lt.mp header.1.1.1.1.1.1.1.2, by simpa using rules⟩

theorem CpuidSound.outside (sound : CpuidSound policy) (member : rule ∈ policy.activeRules) :
    ¬(0x40000000 ≤ rule.leaf ∧ rule.leaf < 0x80000000) := by
  have here := (Census.accepts_iff.mp sound.rules).1 rule member
  rintro ⟨lower, upper⟩
  simp only [isCpuidRuleSound, Bool.not_eq_true', Bool.or_eq_false_iff, Bool.and_eq_false_iff,
    decide_eq_false_iff_not] at here
  exact here.2.elim (absurd lower) (absurd upper)

theorem mem_of_find (found : findCpuidRule policy leaf subleaf = some rule) :
    rule ∈ policy.activeRules ∧ rule.leaf = leaf ∧ rule.subleaf = subleaf := by
  have fits := List.find?_some found
  simp only [Bool.and_eq_true, beq_iff_eq] at fits
  exact ⟨List.mem_of_find?_eq_some found, fits⟩

/-- In a sound policy each rule is the one of its leaf and subleaf. -/
theorem CpuidSound.find_own (sound : CpuidSound policy) (member : rule ∈ policy.activeRules) :
    findCpuidRule policy rule.leaf rule.subleaf = some rule := by
  refine Census.find_unique sound.rules (fun a b => ?_) member (by simp) fun b _ fits => ?_
  · simp only [isSameCpuidRule]
    rw [BEq.comm, BEq.comm (a := b.subleaf)]
  · simpa [isSameCpuidRule] using fits

/-- Beside a policy's few rules every leaf has a subleaf without one. -/
theorem exists_unmasked (policy : CpuidPolicy) (leaf : U32) :
    ∃ subleaf, findCpuidRule policy leaf subleaf = none := by
  have few : policy.activeRules.length ≤ 16 := by
    rw [CpuidPolicy.activeRules, List.length_take]
    exact Nat.le_trans (Nat.min_le_right _ _) (Nat.le_of_eq List.length_ofFn)
  have room : ((policy.activeRules.map (·.subleaf.toNat)).toFinset).card <
      (Finset.range (2 ^ 32)).card := by
    rw [Finset.card_range]
    refine Nat.lt_of_le_of_lt (List.toFinset_card_le _) ?_
    rw [List.length_map]
    omega
  obtain ⟨n, below, fresh⟩ := Finset.exists_mem_notMem_of_card_lt_card room
  refine ⟨BitVec.ofNat 32 n, List.find?_eq_none.mpr fun rule member fits => fresh ?_⟩
  simp only [Bool.and_eq_true, beq_iff_eq] at fits
  refine List.mem_toFinset.mpr (List.mem_map.mpr ⟨rule, member, ?_⟩)
  rw [fits.2, BitVec.toNat_ofNat, Nat.mod_eq_of_lt (Finset.mem_range.mp below)]

/-- The rule takes no bit from the guest that the flags leave to it. -/
def isRuleIdle (policy : CpuidPolicy) (leaf : U32) (host : CpuidResult) (rule : CpuidRule) : Bool :=
  let guest := clampLeaf policy leaf host
  guest.eax &&& ~~~rule.eaxAnd == 0 && guest.ebx &&& ~~~rule.ebxAnd == 0 &&
    guest.ecx &&& ~~~decidedEcx leaf &&& ~~~rule.ecxAnd == 0 &&
    guest.edx &&& ~~~decidedEdx policy leaf &&& ~~~rule.edxAnd == 0

/-- The leaf is hidden, or no rule for it takes anything away. -/
def isSubleafBlind (policy : CpuidPolicy) (leaf : U32) (host : CpuidResult) : Bool :=
  isLeafHidden policy leaf ||
    policy.activeRules.all fun rule => rule.leaf != leaf || isRuleIdle policy leaf host rule

theorem shown_mask_iff :
    shown policy leaf host (rule.mask (clampLeaf policy leaf host)) =
      shown policy leaf host (clampLeaf policy leaf host) ↔
    isRuleIdle policy leaf host rule = true := by
  have noneGiven : (0 : U32) &&& ~~~decidedEdx policy leaf = 0 := BitVec.zero_and
  simp only [shown, CpuidRule.mask, CpuidResult.mk.injEq, isRuleIdle, Bool.and_eq_true, beq_iff_eq,
    and_assoc]
  exact and_congr Masks.and_eq_self_iff (and_congr Masks.and_eq_self_iff
    (and_congr (Masks.splice_mask_eq_iff givenEcx_inside) (Masks.splice_mask_eq_iff noneGiven)))

/-- A leaf looks the same for every subleaf iff it is hidden or its rules are
idle. -/
theorem CpuidSound.blind_iff (sound : CpuidSound policy) :
    (∀ subleaf other, filterLeaf policy leaf subleaf host = filterLeaf policy leaf other host) ↔
      isSubleafBlind policy leaf host = true := by
  cases hidden : isLeafHidden policy leaf with
  | true =>
    refine iff_of_true (fun subleaf other => filterLeaf_hidden hidden other) ?_
    rw [isSubleafBlind, hidden, Bool.true_or]
  | false =>
    rw [isSubleafBlind, hidden, Bool.false_or, List.all_eq_true]
    constructor
    · intro alike rule member
      rw [Bool.or_eq_true, bne_iff_ne]
      by_cases here : rule.leaf = leaf
      · obtain ⟨free, unmasked⟩ := exists_unmasked policy leaf
        have same := alike rule.subleaf free
        have own := sound.find_own member
        rw [here] at own
        rw [filterLeaf_shown hidden, filterLeaf_shown hidden, maskLeaf, own, maskLeaf, unmasked]
          at same
        exact .inr (shown_mask_iff.mp same)
      · exact .inl here
    · intro idle
      have plain (subleaf : U32) : filterLeaf policy leaf subleaf host =
          shown policy leaf host (clampLeaf policy leaf host) := by
        rw [filterLeaf_shown hidden, maskLeaf]
        cases found : findCpuidRule policy leaf subleaf with
        | none => rfl
        | some rule =>
          obtain ⟨member, here, _⟩ := mem_of_find found
          have quiet := idle rule member
          rw [here, bne_self_eq_false, Bool.false_or] at quiet
          exact shown_mask_iff.mpr quiet
      intro subleaf other
      rw [plain subleaf, plain other]

theorem filterCpuid_valid (valid : isCpuidPolicyValid policy = true) :
    filterCpuid (some policy) leaf subleaf (some host) true =
      (true, some (filterLeaf policy leaf subleaf host)) := by
  simp [filterCpuid, valid]

/-- A leaf whose host result does not depend on the subleaf is filtered alike for
all of them iff the leaf is hidden or none of its rules takes a bit away. -/
theorem filterCpuid_subleaf_blind_iff (valid : isCpuidPolicyValid policy = true) (leaf : U32)
    (host : CpuidResult) :
    (∀ subleaf other, filterCpuid (some policy) leaf subleaf (some host) true =
      filterCpuid (some policy) leaf other (some host) true) ↔
    isSubleafBlind policy leaf host = true := by
  simp only [filterCpuid_valid valid, Prod.mk.injEq, Option.some.injEq, true_and]
  exact (cpuidSound_of_valid valid).blind_iff

/-- One rule, which hides the fused multiply-add of leaf 1 from subleaf 0. -/
def maskedPolicy : CpuidPolicy where
  size := sizeofCpuidPolicy
  version := kCpuPolicyContractVersion
  level := 1
  flags := 0
  ruleCount := 1
  reserved := 0
  generation := 1
  maxBasicLeaf := 0x16
  maxExtendedLeaf := 0x80000008
  reserved2 := 0
  reserved3 := 0
  rules i := if i = 0 then ⟨1, 0, 0xFFFFFFFF, 0xFFFFFFFF, 0xFFFFEFFF, 0xFFFFFFFF, 0, 0⟩ else .zero
  hypervisorLeaf := .zero

theorem filterCpuid_subleaf_blind_plain :
    isCpuidPolicyValid maskedPolicy = true ∧
      ∀ subleaf other,
        filterCpuid (some maskedPolicy) 1 subleaf (some ⟨0xA0655, 0, 1, 1⟩) true =
          filterCpuid (some maskedPolicy) 1 other (some ⟨0xA0655, 0, 1, 1⟩) true :=
  ⟨by decide, (filterCpuid_subleaf_blind_iff (by decide) 1 ⟨0xA0655, 0, 1, 1⟩).mpr (by decide)⟩

/-- Subleaf 1 of the masked leaf shows what its rule hides. -/
theorem masked_feature_shows :
    ¬∀ policy leaf host, isCpuidPolicyValid policy = true → ∀ subleaf other,
      filterCpuid (some policy) leaf subleaf (some host) true =
        filterCpuid (some policy) leaf other (some host) true := by
  intro blind
  have same := blind maskedPolicy 1 ⟨0xA0655, 0, 0x1000, 0⟩ (by decide) 0 1
  revert same
  decide

end Knhv.CpuPolicy
