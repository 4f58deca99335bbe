import Knhv.CpuPolicy.Cpuid

namespace Knhv.CpuPolicy

/-- The leaves that hypervisors answer, and no processor. -/
def isHypervisorRange (leaf : U32) : Bool := 0x40000000 ≤ leaf && leaf < 0x80000000

/-- What a guest is to see of the hypervisor's range, whatever the host says. -/
def hypervisorView (policy : CpuidPolicy) (leaf : U32) : CpuidResult :=
  if leaf == 0x40000000 && exposesHypervisor policy then policy.hypervisorLeaf else .zero

variable {policy : CpuidPolicy} {leaf subleaf : U32} {host guest : CpuidResult}

theorem hypervisorRange_iff :
    isHypervisorRange leaf = true ↔ 0x40000000 ≤ leaf ∧ leaf < 0x80000000 := by
  simp only [isHypervisorRange, Bool.and_eq_true, decide_eq_true_eq]

/-- No processor leaf that the filter treats on its own lies in the range. -/
theorem apart_of_hypervisorRange (inside : isHypervisorRange leaf = true) {other : U32}
    (outside : isHypervisorRange other = false) : (leaf == other) = false := by
  rw [beq_eq_false_iff_ne]
  rintro rfl
  rw [inside] at outside
  cases outside

/-- Below the maximum the range passes the host through. -/
theorem CpuidSound.filterLeaf_range (sound : CpuidSound policy)
    (inside : isHypervisorRange leaf = true) (other : leaf ≠ 0x40000000)
    (below : leaf ≤ policy.maxBasicLeaf) : filterLeaf policy leaf subleaf host = host := by
  have apart {special : U32} (outside : isHypervisorRange special = false) :
      (leaf == special) = false := apart_of_hypervisorRange inside outside
  have zero : (leaf == 0) = false := apart (by decide)
  have first : (leaf == 1) = false := apart (by decide)
  have extended : (leaf == 0x80000000) = false := apart (by decide)
  have invariantTsc : (leaf == 0x80000007) = false := apart (by decide)
  have cores : (leaf == 0xB) = false := apart (by decide)
  have dies : (leaf == 0x1F) = false := apart (by decide)
  obtain ⟨_, upper⟩ := hypervisorRange_iff.mp inside
  have visible : isLeafHidden policy leaf = false := by
    simp only [isLeafHidden, isBeyondMaximum, isTopologyHidden, cores, dies, upper,
      beq_eq_false_iff_ne.mpr other, decide_eq_false (BitVec.not_lt.mpr below), if_true,
      Bool.or_self, Bool.false_and]
  have unmasked : findCpuidRule policy leaf subleaf = none := by
    refine List.find?_eq_none.mpr fun rule member fits => sound.outside member ?_
    simp only [Bool.and_eq_true, beq_iff_eq] at fits
    exact fits.1 ▸ hypervisorRange_iff.mp inside
  have unclamped : clampLeaf policy leaf host = host := by
    simp only [clampLeaf, zero, extended, Bool.false_eq_true, Bool.false_and, if_false]
  have plain (word : U32) : Masks.splice 0 0 word = word := Masks.splice_zero
  rw [filterLeaf_shown visible, unclamped, maskLeaf, unmasked]
  simp only [shown, decidedEcx, decidedEdx, givenEcx, first, invariantTsc, plain,
    Bool.false_eq_true, Bool.false_and, if_false]

/-- Above the maximum, and at its first leaf, the range tells what the policy says. -/
theorem filterLeaf_hypervisor (inside : isHypervisorRange leaf = true)
    (closed : leaf = 0x40000000 ∨ policy.maxBasicLeaf < leaf) :
    filterLeaf policy leaf subleaf host = hypervisorView policy leaf := by
  obtain ⟨_, upper⟩ := hypervisorRange_iff.mp inside
  unfold filterLeaf hypervisorView
  by_cases first : leaf = 0x40000000
  · simp only [first, exposesHypervisor, beq_self_eq_true, Bool.true_and, if_true]
  · have beyond : isBeyondMaximum policy leaf = true := by
      simp only [isBeyondMaximum, upper, closed.resolve_left first, if_true, decide_true]
    simp only [beq_eq_false_iff_ne.mpr first, beyond, Bool.false_eq_true, Bool.false_and,
      if_false, if_true]

/-- A leaf of the hypervisor's range hides the host iff it is the first one or
lies above the largest leaf that the policy admits. -/
theorem filterCpuid_range_closed_iff (valid : isCpuidPolicyValid policy = true)
    (inside : isHypervisorRange leaf = true) :
    (∀ subleaf host other,
      filterCpuid (some policy) leaf subleaf (some host) true =
          filterCpuid (some policy) leaf subleaf (some other) true ∧
        filterCpuid (some policy) leaf subleaf (some host) true =
          (true, some (hypervisorView policy leaf))) ↔
    leaf = 0x40000000 ∨ policy.maxBasicLeaf < leaf := by
  simp only [filterCpuid_valid valid, Prod.mk.injEq, Option.some.injEq, true_and]
  constructor
  · intro closed
    by_contra open_
    rw [not_or, BitVec.not_lt] at open_
    have passed (host : CpuidResult) : filterLeaf policy leaf 0 host = host :=
      (cpuidSound_of_valid valid).filterLeaf_range inside open_.1 open_.2
    have leaked := (closed 0 .zero ⟨1, 0, 0, 0⟩).1
    rw [passed, passed] at leaked
    exact absurd leaked (by decide)
  · intro closed subleaf host other
    simp only [filterLeaf_hypervisor inside closed, and_self]

theorem filterCpuid_range_closed_masked :
    isCpuidPolicyValid maskedPolicy = true ∧ isHypervisorRange 0x40000001 = true ∧
      ∀ subleaf host other,
        filterCpuid (some maskedPolicy) 0x40000001 subleaf (some host) true =
            filterCpuid (some maskedPolicy) 0x40000001 subleaf (some other) true ∧
          filterCpuid (some maskedPolicy) 0x40000001 subleaf (some host) true =
            (true, some (hypervisorView maskedPolicy 0x40000001)) :=
  ⟨by decide, by decide,
    (filterCpuid_range_closed_iff (by decide) (by decide)).mpr (Or.inr (by decide))⟩

/-- A largest basic leaf inside the range lets the host through. -/
theorem high_maximum_leaks :
    ¬∀ policy leaf subleaf host other, isCpuidPolicyValid policy = true →
      isHypervisorRange leaf = true →
      filterCpuid (some policy) leaf subleaf (some host) true =
          filterCpuid (some policy) leaf subleaf (some other) true ∧
        filterCpuid (some policy) leaf subleaf (some host) true =
          (true, some (hypervisorView policy leaf)) := by
  intro closed
  have same := (closed { maskedPolicy with maxBasicLeaf := 0x50000000 } 0x40000001 0 .zero
    ⟨1, 0, 0, 0⟩ (by decide) (by decide)).1
  revert same
  decide

/-- What a leaf outside the hypervisor's range keeps of the host's result, beside
the host's result under the rule of the leaf. -/
structure Narrowed (policy : CpuidPolicy) (leaf : U32) (host masked guest : CpuidResult) :
    Prop where
  eax : leaf ≠ 0 → leaf ≠ 0x80000000 → guest.eax &&& ~~~masked.eax = 0
  ebx : guest.ebx &&& ~~~masked.ebx = 0
  ecx : leaf ≠ 1 → guest.ecx &&& ~~~masked.ecx = 0
  edx : guest.edx &&& ~~~masked.edx = 0
  largestBasic : leaf = 0 → guest.eax ≤ host.eax ∧ guest.eax ≤ policy.maxBasicLeaf
  largestExtended : leaf = 0x80000000 →
    guest.eax ≤ host.eax ∧ guest.eax ≤ policy.maxExtendedLeaf
  features : leaf = 1 →
    guest.ecx &&& ~~~(masked.ecx ||| (kCpuidLeaf1EcxVmx ||| kCpuidLeaf1EcxHypervisor)) = 0
  vmx : leaf = 1 → (guest.ecx &&& kCpuidLeaf1EcxVmx ≠ 0 ↔
    host.ecx &&& kCpuidLeaf1EcxVmx ≠ 0 ∧ policy.flags &&& kCpuidExposeVmx ≠ 0)
  hypervisor : leaf = 1 → (guest.ecx &&& kCpuidLeaf1EcxHypervisor ≠ 0 ↔
    policy.flags &&& kCpuidExposeHypervisor ≠ 0)
  beyond : isBeyondMaximum policy leaf = true → guest = .zero
  topology : leaf = 0xB ∨ leaf = 0x1F → policy.flags &&& kCpuidPreserveTopology = 0 →
    guest = .zero

theorem and_le {word mask bound : U32} (le : word ≤ bound) : word &&& mask ≤ bound := by
  refine BitVec.le_trans ?_ le
  rw [BitVec.le_def, BitVec.toNat_and]
  exact Nat.and_le_left

theorem zero_le (word : U32) : 0 ≤ word := Nat.zero_le word.toNat

/-- A rule that lets everything through. -/
def CpuidRule.full (leaf subleaf : U32) : CpuidRule :=
  ⟨leaf, subleaf, BitVec.allOnes 32, BitVec.allOnes 32, BitVec.allOnes 32, BitVec.allOnes 32, 0, 0⟩

theorem CpuidRule.full_mask (guest : CpuidResult) :
    (CpuidRule.full leaf subleaf).mask guest = guest := by
  simp only [CpuidRule.full, CpuidRule.mask, BitVec.and_allOnes]

/-- The lookup does not look at the registers: it masks with one rule. -/
theorem maskLeaf_uniform (policy : CpuidPolicy) (leaf subleaf : U32) :
    ∃ rule : CpuidRule, ∀ guest, maskLeaf policy leaf subleaf guest = rule.mask guest := by
  unfold maskLeaf
  cases findCpuidRule policy leaf subleaf with
  | some rule => exact ⟨rule, fun _ => rfl⟩
  | none => exact ⟨.full leaf subleaf, fun guest => (CpuidRule.full_mask guest).symm⟩

/-- The clamp only ever lowers EAX, in the two leaves that tell a maximum. -/
theorem clampLeaf_eq (policy : CpuidPolicy) (leaf : U32) (host : CpuidResult) :
    ∃ eax, clampLeaf policy leaf host = { host with eax := eax } ∧ eax ≤ host.eax ∧
      (leaf ≠ 0 → leaf ≠ 0x80000000 → eax = host.eax) ∧
      (leaf = 0 → eax ≤ policy.maxBasicLeaf) ∧
      (leaf = 0x80000000 → eax ≤ policy.maxExtendedLeaf) := by
  unfold clampLeaf
  split
  · rename_i isZero
    have notExtended : leaf ≠ 0x80000000 := by
      rw [beq_iff_eq.mp isZero]
      decide
    split
    · rename_i above
      exact ⟨_, rfl, BitVec.le_of_lt above, fun notZero => absurd (beq_iff_eq.mp isZero) notZero,
        fun _ => BitVec.le_refl _, fun isExtended => absurd isExtended notExtended⟩
    · rename_i within
      exact ⟨host.eax, rfl, BitVec.le_refl _, fun _ _ => rfl, fun _ => BitVec.not_lt.mp within,
        fun isExtended => absurd isExtended notExtended⟩
  rename_i notZero
  rw [beq_iff_eq] at notZero
  split
  · rename_i clamps
    rw [Bool.and_eq_true, beq_iff_eq, decide_eq_true_eq] at clamps
    exact ⟨_, rfl, BitVec.le_of_lt clamps.2, fun _ other => absurd clamps.1 other,
      fun isZero => absurd isZero notZero, fun _ => BitVec.le_refl _⟩
  · rename_i kept
    rw [Bool.and_eq_true, beq_iff_eq, decide_eq_true_eq, not_and] at kept
    exact ⟨host.eax, rfl, BitVec.le_refl _, fun _ _ => rfl, fun isZero => absurd isZero notZero,
      fun isExtended => BitVec.not_lt.mp (kept isExtended)⟩

/-- A hidden leaf shows nothing at all. -/
theorem filterLeaf_zero (hidden : isLeafHidden policy leaf = true) (other : leaf ≠ 0x40000000) :
    filterLeaf policy leaf subleaf host = .zero := by
  have notHypervisor := beq_eq_false_iff_ne.mpr other
  simp only [isLeafHidden, notHypervisor, Bool.false_or, Bool.or_eq_true] at hidden
  unfold filterLeaf
  rw [if_neg (by rw [notHypervisor]; exact Bool.false_ne_true)]
  split
  · rfl
  · rename_i inside
    simp only [hidden.resolve_left inside, if_true]

/-- Nothing hides leaf 1 under a sound policy. -/
theorem CpuidSound.leaf1_visible (sound : CpuidSound policy) : isLeafHidden policy 1 = false := by
  have first : ¬policy.maxBasicLeaf < 1 := by
    have positive : policy.maxBasicLeaf.toNat ≠ 0 := fun zero =>
      sound.positive (BitVec.eq_of_toNat_eq zero)
    rw [BitVec.lt_def]
    exact fun below => positive (Nat.lt_one_iff.mp below)
  have inside : isBeyondMaximum policy 1 = false := by
    rw [isBeyondMaximum, if_pos (by decide), decide_eq_false first]
  rw [isLeafHidden, inside]
  rfl

theorem givenEcx_vmx : givenEcx policy 1 host &&& kCpuidLeaf1EcxVmx ≠ 0 ↔
    host.ecx &&& kCpuidLeaf1EcxVmx ≠ 0 ∧ policy.flags &&& kCpuidExposeVmx ≠ 0 := by
  have bit (vmx hypervisor : Bool) :
      leaf1Bits vmx hypervisor &&& kCpuidLeaf1EcxVmx ≠ 0 ↔ vmx = true := by
    cases vmx <;> cases hypervisor <;> decide
  rw [show givenEcx policy 1 host = leaf1Bits _ _ from rfl, bit, exposesVmx, Bool.and_eq_true,
    bne_iff_ne, bne_iff_ne, and_comm]

theorem givenEcx_hypervisor : givenEcx policy 1 host &&& kCpuidLeaf1EcxHypervisor ≠ 0 ↔
    policy.flags &&& kCpuidExposeHypervisor ≠ 0 := by
  have bit (vmx hypervisor : Bool) :
      leaf1Bits vmx hypervisor &&& kCpuidLeaf1EcxHypervisor ≠ 0 ↔ hypervisor = true := by
    cases vmx <;> cases hypervisor <;> decide
  rw [show givenEcx policy 1 host = leaf1Bits _ _ from rfl, bit, exposesHypervisor, bne_iff_ne]

theorem narrowed_zero (other : leaf ≠ 1) (masked : CpuidResult) :
    Narrowed policy leaf host masked .zero where
  eax _ _ := BitVec.zero_and
  ebx := BitVec.zero_and
  ecx _ := BitVec.zero_and
  edx := BitVec.zero_and
  largestBasic _ := ⟨zero_le _, zero_le _⟩
  largestExtended _ := ⟨zero_le _, zero_le _⟩
  features first := absurd first other
  vmx first := absurd first other
  hypervisor first := absurd first other
  beyond _ := rfl
  topology _ _ := rfl

/-- The filter takes capabilities of the host away, but for the two bits of leaf 1
that the flags of the policy decide. -/
theorem CpuidSound.narrowed (sound : CpuidSound policy) (outside : isHypervisorRange leaf = false)
    (subleaf : U32) (host : CpuidResult) :
    Narrowed policy leaf host (maskLeaf policy leaf subleaf host)
      (filterLeaf policy leaf subleaf host) := by
  cases hidden : isLeafHidden policy leaf with
  | true =>
    have notHypervisor : leaf ≠ 0x40000000 := by
      rintro rfl
      exact absurd outside (by decide)
    have other : leaf ≠ 1 := by
      rintro rfl
      rw [sound.leaf1_visible] at hidden
      cases hidden
    rw [filterLeaf_zero hidden notHypervisor]
    exact narrowed_zero other _
  | false =>
    obtain ⟨rule, masks⟩ := maskLeaf_uniform policy leaf subleaf
    obtain ⟨eax, clamped, lower, plain, basic, extended⟩ := clampLeaf_eq policy leaf host
    rw [filterLeaf_shown hidden, masks, masks, clamped]
    simp only [isLeafHidden, Bool.or_eq_false_iff] at hidden
    refine ⟨?_, BitVec.and_not_self _, ?_, Masks.splice_cleared_inside, ?_, ?_, ?_, ?_, ?_, ?_, ?_⟩
    · intro notZero notExtended
      rw [plain notZero notExtended]
      exact BitVec.and_not_self _
    · intro other
      have notFirst := beq_eq_false_iff_ne.mpr other
      simp only [shown, decidedEcx, givenEcx, notFirst, Bool.false_eq_true, if_false]
      exact Masks.splice_cleared_inside
    · exact fun isZero => ⟨and_le lower, and_le (basic isZero)⟩
    · exact fun isExtended => ⟨and_le lower, and_le (extended isExtended)⟩
    · rintro rfl
      exact Masks.splice_inside givenEcx_inside
    · rintro rfl
      rw [shown, Masks.splice_and (by decide)]
      exact givenEcx_vmx
    · rintro rfl
      rw [shown, Masks.splice_and (by decide)]
      exact givenEcx_hypervisor
    · intro beyond
      rw [hidden.1.2] at beyond
      cases beyond
    · intro topology notKept
      have shows := hidden.2
      rw [isTopologyHidden, notKept] at shows
      rcases topology with rfl | rfl <;> exact absurd shows (by decide)

/-- A valid policy narrows every leaf outside the hypervisor's range. -/
theorem filterCpuid_narrows (valid : isCpuidPolicyValid policy = true)
    (outside : isHypervisorRange leaf = false) (subleaf : U32) (host : CpuidResult) :
    ∃ guest, filterCpuid (some policy) leaf subleaf (some host) true = (true, some guest) ∧
      Narrowed policy leaf host (maskLeaf policy leaf subleaf host) guest :=
  ⟨_, filterCpuid_valid valid, (cpuidSound_of_valid valid).narrowed outside subleaf host⟩

theorem filterCpuid_narrows_masked :
    isCpuidPolicyValid maskedPolicy = true ∧ isHypervisorRange 1 = false ∧
      ∃ guest, filterCpuid (some maskedPolicy) 1 0 (some ⟨0xA0655, 0, 0x1021, 0⟩) true =
          (true, some guest) ∧
        Narrowed maskedPolicy 1 ⟨0xA0655, 0, 0x1021, 0⟩
          (maskLeaf maskedPolicy 1 0 ⟨0xA0655, 0, 0x1021, 0⟩) guest :=
  ⟨by decide, by decide, filterCpuid_narrows (by decide) (by decide) 0 ⟨0xA0655, 0, 0x1021, 0⟩⟩

end Knhv.CpuPolicy
