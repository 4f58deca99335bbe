import Mathlib
import Knhv.Vmx.Features
import Knhv.Vmx.Steering
import Knhv.Lib.Bits
import Knhv.Lib.Run

open Std.Do

set_option mvcgen.warning false

namespace Knhv.Vmx

section

variable {m : Machine} {xcr0Mask inner outer : U64}

theorem align_toNat {offset : U64} (small : offset ≤ maxUlong) :
    ((offset + 63) &&& ~~~63).toNat = (offset.toNat + 63) / 64 * 64 := by
  have cleared : (~~~63 : U64) = BitVec.allOnes 64 <<< 6 := by decide
  have bound : offset.toNat ≤ 0xFFFFFFFF := small
  rw [cleared, Bits.toNat_and_not_low, BitVec.toNat_add, Nat.mod_eq_of_lt (by simp; omega)]
  rfl

/-- Where a component starts. -/
def componentStart (m : Machine) (component : Nat) (offset : U64) : U64 :=
  if (m.cpuidex 0xD (BitVec.ofNat 32 component)).ecx &&& 2 ≠ 0 then (offset + 63) &&& ~~~63
  else offset

theorem componentStart_mono {component : Nat} {low high : U64} (ordered : low ≤ high)
    (small : high ≤ maxUlong) :
    (componentStart m component low).toNat ≤ (componentStart m component high).toNat ∧
      low.toNat ≤ (componentStart m component low).toNat ∧
      (componentStart m component high).toNat < 2 ^ 33 := by
  have first : low.toNat ≤ high.toNat := ordered
  have second : high.toNat ≤ 0xFFFFFFFF := small
  simp only [componentStart]
  split
  · rw [align_toNat small, align_toNat (BitVec.le_trans ordered small)]
    omega
  · omega

/-- CPUID sizes the component and puts it in the register that selects it. -/
def isComponentConsistent (m : Machine) (xcr0Mask xssMask : U64) (component : Nat) : Prop :=
  let regs := m.cpuidex 0xD (BitVec.ofNat 32 component)
  regs.eax ≠ 0 ∧ ¬(xcr0Mask &&& bit component ≠ 0 ∧ regs.ecx &&& 1 ≠ 0) ∧
    ¬(xssMask &&& bit component ≠ 0 ∧ regs.ecx &&& 1 = 0)

def componentEnd (m : Machine) (component : Nat) (offset : U64) : U64 :=
  componentStart m component offset + (m.cpuidex 0xD (BitVec.ofNat 32 component)).eax.setWidth 64

theorem compactComponent_unselected {xssMask offset : U64} {component : Nat}
    (unselected : (xcr0Mask ||| xssMask) &&& bit component = 0) :
    compactComponent m xcr0Mask xssMask offset component = some offset :=
  if_pos unselected

theorem compactComponent_selected {xssMask offset next : U64} {component : Nat}
    (selected : (xcr0Mask ||| xssMask) &&& bit component ≠ 0) :
    compactComponent m xcr0Mask xssMask offset component = some next ↔
      isComponentConsistent m xcr0Mask xssMask component ∧
        next = componentEnd m component offset ∧ next ≤ maxUlong := by
  simp only [compactComponent, if_neg selected, isComponentConsistent, componentEnd,
    componentStart]
  generalize m.cpuidex 0xD (BitVec.ofNat 32 component) = regs
  by_cases empty : regs.eax = 0
  · simp [empty]
  by_cases split : (xcr0Mask &&& bit component ≠ 0 ∧ regs.ecx &&& 1 ≠ 0) ∨
      (xssMask &&& bit component ≠ 0 ∧ regs.ecx &&& 1 = 0)
  · grind
  · grind

theorem componentEnd_mono {component : Nat} {low high : U64} (ordered : low ≤ high)
    (small : high ≤ maxUlong) :
    componentEnd m component low ≤ componentEnd m component high ∧
      low ≤ componentEnd m component high := by
  obtain ⟨start, above, bound⟩ := @componentStart_mono m component low high ordered small
  have size : ((m.cpuidex 0xD (BitVec.ofNat 32 component)).eax.setWidth 64).toNat < 2 ^ 32 := by
    rw [BitVec.toNat_setWidth]
    exact lt_of_le_of_lt (Nat.mod_le _ _) (m.cpuidex 0xD (BitVec.ofNat 32 component)).eax.isLt
  have whole {offset : U64} (below : (componentStart m component offset).toNat < 2 ^ 33) :
      (componentEnd m component offset).toNat = (componentStart m component offset).toNat +
        ((m.cpuidex 0xD (BitVec.ofNat 32 component)).eax.setWidth 64).toNat := by
    rw [componentEnd, BitVec.toNat_add, Nat.mod_eq_of_lt (by omega)]
  constructor
  · rw [BitVec.le_def, whole (by omega), whole bound]
    omega
  · rw [BitVec.le_def, whole bound]
    omega

/-- Fewer supervisor components are consistent if more are. -/
theorem isComponentConsistent_inside (inside : inner &&& ~~~outer = 0) {component : Nat}
    (consistent : isComponentConsistent m xcr0Mask outer component) :
    isComponentConsistent m xcr0Mask inner component := by
  obtain ⟨sized, user, supervisor⟩ := consistent
  refine ⟨sized, user, ?_⟩
  rintro ⟨selected, misplaced⟩
  exact supervisor ⟨Masks.touches_of_inside inside selected, misplaced⟩

/-- A smaller selector is placed wherever a larger one is, and no further out. -/
theorem compactComponent_mono (inside : inner &&& ~~~outer = 0) {low high next : U64}
    {component : Nat} (ordered : low ≤ high ∧ high ≤ maxUlong)
    (placed : compactComponent m xcr0Mask outer high component = some next) :
    ∃ next', compactComponent m xcr0Mask inner low component = some next' ∧
      next' ≤ next ∧ next ≤ maxUlong := by
  obtain ⟨below, small⟩ := ordered
  have selectors := Masks.or_inside xcr0Mask inside
  by_cases selected : (xcr0Mask ||| outer) &&& bit component = 0
  · rw [compactComponent_unselected selected] at placed
    cases placed
    have unselected : (xcr0Mask ||| inner) &&& bit component = 0 := by
      by_contra here
      exact Masks.touches_of_inside selectors here selected
    exact ⟨low, compactComponent_unselected unselected, below, small⟩
  · obtain ⟨consistent, rfl, fits⟩ := (compactComponent_selected selected).mp placed
    obtain ⟨ends, above⟩ := @componentEnd_mono m component low high below small
    by_cases here : (xcr0Mask ||| inner) &&& bit component = 0
    · exact ⟨low, compactComponent_unselected here, above, fits⟩
    · refine ⟨_, (compactComponent_selected here).mpr
        ⟨isComponentConsistent_inside inside consistent, rfl, ?_⟩, ends, fits⟩
      exact BitVec.le_trans ends fits

/-- Every selector inside a mask that has a compacted layout has one too, and it
needs no more room. -/
theorem computeXsaveAreaSize_mono (inside : inner &&& ~~~outer = 0) {known : U64} {areaSize : U32}
    (laidOut : computeXsaveAreaSize m xcr0Mask outer = some (known, areaSize)) :
    ∃ innerSize, computeXsaveAreaSize m xcr0Mask inner = some (known, innerSize) ∧
      innerSize ≤ areaSize := by
  simp only [computeXsaveAreaSize] at laidOut ⊢
  split at laidOut
  · cases laidOut
  split at laidOut
  · cases laidOut
  rename_i supported enumerated
  obtain ⟨offset, folded, answer⟩ := Option.map_eq_some_iff.mp laidOut
  cases answer
  obtain ⟨innerOffset, innerFolded, ordered, small⟩ :=
    Run.foldlM_simulated (f := compactComponent m xcr0Mask inner)
      (g := compactComponent m xcr0Mask outer)
      (R := fun low high : U64 => low ≤ high ∧ high ≤ maxUlong)
      (fun _ _ _ _ ordered placed => compactComponent_mono inside ordered placed)
      (s := 576) ⟨BitVec.le_refl _, by decide⟩ folded
  have innerEnumerated : ¬(inner &&& ~~~xssCapabilities m ≠ 0) :=
    not_not.mpr (Masks.inside_trans inside (not_not.mp enumerated))
  refine ⟨innerOffset.setWidth 32, ?_, ?_⟩
  · rw [if_neg supported, if_neg innerEnumerated, innerFolded]
    rfl
  · have bound : offset.toNat ≤ 0xFFFFFFFF := small
    have first : innerOffset.toNat ≤ offset.toNat := ordered
    rw [BitVec.le_def, BitVec.toNat_setWidth, BitVec.toNat_setWidth,
      Nat.mod_eq_of_lt (by omega), Nat.mod_eq_of_lt (by omega)]
    exact first

end

theorem computeXsaveAreaSize_known {m : Machine} {xcr0Mask xssMask known : U64} {areaSize : U32}
    (laidOut : computeXsaveAreaSize m xcr0Mask xssMask = some (known, areaSize)) :
    known = xssCapabilities m := by
  simp only [computeXsaveAreaSize] at laidOut
  split at laidOut
  · cases laidOut
  split at laidOut
  · cases laidOut
  obtain ⟨_, _, answer⟩ := Option.map_eq_some_iff.mp laidOut
  exact (congrArg Prod.fst answer).symm

/-- The save area that the chosen instruction needs, and the masks it goes with. -/
def Layout (load : Machine) (g : FeatureContract) : Prop :=
  match g.xstateMode with
  | .fxsave => g.xsavesEnabled = false ∧ g.xsavesMask = 0 ∧ g.xsaveStateSize = fxsaveAreaSize
  | .xsave =>
    g.xsavesEnabled = false ∧ g.xsavesMask = 0 ∧ g.xsaveStateSize = (load.cpuidex 0xD 0).ebx
  | .xsaves =>
    g.xsavesEnabled = true ∧
      computeXsaveAreaSize load g.hostXcr0Mask g.xsavesMask =
        some (g.enumeratedXssMask, g.xsaveStateSize)

/-- What a load that accepts the processor leaves in the globals. -/
structure Framed (load : Machine) (g : FeatureContract) : Prop where
  initialized : g.initialized = true
  host : g.xsavesMask = g.hostXssMask
  enumerated : g.xsavesMask &&& ~~~g.enumeratedXssMask = 0
  preservable : g.xsavesMask &&& ~~~ia32XssPreservableMask = 0
  nonempty : g.xsaveStateSize ≠ 0
  fits : g.xsaveStateSize ≤ vmexitXsaveMax
  layout : Layout load g

theorem Framed.annotated {load : Machine} {g : FeatureContract} (framed : Framed load g)
    (profile : U32) (cetVmcsEnabled valid : Bool) :
    Framed load { g with
      vmxCapabilityProfile := profile
      cetVmcsEnabled := cetVmcsEnabled
      valid := valid } :=
  ⟨framed.initialized, framed.host, framed.enumerated, framed.preservable, framed.nonempty,
    framed.fits, framed.layout⟩

/-- The globals once the host selectors are recorded. -/
structure Sampled (load : Machine) (hostXcr0 hostXss : U64) (g : FeatureContract) : Prop where
  initialized : g.initialized = true
  hostXcr0 : g.hostXcr0Mask = hostXcr0
  hostXss : g.hostXssMask = hostXss
  enumerated : g.enumeratedXssMask = xssCapabilities load
  undecided : g.xsavesEnabled = false

/-- The globals once the save instruction is chosen. -/
inductive Chosen (load : Machine) (g : FeatureContract) : Prop
  | xsaves (initialized : g.initialized = true) (enabled : g.xsavesEnabled = true)
      (known : g.enumeratedXssMask = xssCapabilities load)
      (enumerated : g.hostXssMask &&& ~~~xssCapabilities load = 0)
      (preservable : g.hostXssMask &&& ~~~ia32XssPreservableMask = 0)
      (laidOut : computeXsaveAreaSize load g.hostXcr0Mask g.hostXssMask =
        some (xssCapabilities load, g.xsaveStateSize))
  | xsave (initialized : g.initialized = true) (disabled : g.xsavesEnabled = false)
      (unselected : g.hostXssMask = 0)

section

variable (load : Machine)

theorem settleFrame_spec :
    ⦃fun g => ⌜Chosen load g⌝⦄ settleFrame load ⦃⇓ done g => ⌜done = true → Framed load g⌝⦄ := by
  refine spec_intro fun g chosen accepted => ?_
  have sized : (settleFrame load g).2.xsaveStateSize ≠ 0 ∧
      (settleFrame load g).2.xsaveStateSize ≤ vmexitXsaveMax := by
    rw [← decide_eq_true_eq (p := _ ≠ _), ← decide_eq_true_eq (p := _ ≤ _), ← Bool.and_eq_true]
    exact accepted
  cases chosen with
  | xsaves initialized enabled known enumerated preservable laidOut =>
    have same : g = { g with xsavesEnabled := true } := by rw [← enabled]
    rw [same] at sized ⊢
    refine ⟨initialized, rfl, ?_, preservable, sized.1, sized.2, rfl, ?_⟩
    · exact known ▸ enumerated
    · exact known ▸ laidOut
  | xsave initialized disabled unselected =>
    have same : g = { g with xsavesEnabled := false } := by rw [← disabled]
    rw [same] at sized ⊢
    exact ⟨initialized, unselected.symm, BitVec.zero_and, BitVec.zero_and, sized.1, sized.2, rfl,
      rfl, rfl⟩

theorem selectFrame_spec (hostXcr0 hostXss : U64) :
    ⦃fun g => ⌜Sampled load hostXcr0 hostXss g⌝⦄ selectFrame load hostXcr0 hostXss
    ⦃⇓ done g => ⌜done = true → Framed load g⌝⦄ := by
  have settle := settleFrame_spec load
  mvcgen [selectFrame, settle]
  case vc1.isTrue.isTrue => exact nofun
  case vc2.isTrue.isFalse.h_1 => exact nofun
  case vc3.isTrue.isFalse.h_2.isTrue => exact nofun
  case vc4.isTrue.isFalse.h_2.isFalse sampled _ inside _ _ laidOut _ _ _ =>
    obtain ⟨initialized, rfl, rfl, known, _⟩ := sampled
    simp only [ne_eq, decide_not, Bool.or_eq_true, Bool.not_eq_true', decide_eq_false_iff_not,
      not_or, not_not] at inside
    obtain rfl := computeXsaveAreaSize_known laidOut
    exact Chosen.xsaves initialized rfl known inside.1 inside.2 laidOut
  case vc5.isFalse.isTrue => exact nofun
  case vc6.isFalse.isFalse sampled _ unselected =>
    obtain ⟨initialized, rfl, rfl, _, undecided⟩ := sampled
    exact Chosen.xsave initialized undecided (not_not.mp unselected)

theorem selectCet_spec (currentCr4 vmxBasic : U64) :
    ⦃fun g => ⌜Framed load g⌝⦄ selectCet load currentCr4 vmxBasic
    ⦃⇓ _ g => ⌜Framed load g⌝⦄ := by
  mvcgen [selectCet]
  case vc2 g framed _ => exact framed.annotated g.vmxCapabilityProfile true g.valid

theorem selectXsave_spec (currentCr4 vmxBasic : U64) :
    ⦃fun g => ⌜g.initialized = true ∧ g.xsavesEnabled = false⌝⦄
    selectXsave load currentCr4 vmxBasic ⦃⇓ done g => ⌜done = true → Framed load g⌝⦄ := by
  have frame := selectFrame_spec load
  have cet := selectCet_spec load
  mvcgen [selectXsave, frame, cet]
  case vc1.h_1 => exact nofun
  case vc2.h_2.h_1 => exact nofun
  case vc3.h_2.h_2.pre fresh _ _ _ _ _ _ _ => exact ⟨fresh.1, rfl, rfl, rfl, fresh.2⟩
  case vc4.h_2.h_2.post.success.isTrue => exact nofun
  case vc5.h_2.h_2.post.success.isFalse.pre accepted _ framed => exact framed (by simpa using accepted)
  case vc6.h_2.h_2.post.success.isFalse.post.success.isTrue => exact nofun
  case vc7.h_2.h_2.post.success.isFalse.post.success.isFalse g framed _ =>
    exact framed.annotated _ g.cetVmcsEnabled true

theorem selectFxsave_spec (currentCr4 vmxBasic : U64) :
    ⦃fun g => ⌜g.initialized = true ∧ g.xsavesEnabled = false⌝⦄
    selectFxsave load currentCr4 vmxBasic ⦃⇓ done g => ⌜done = true → Framed load g⌝⦄ := by
  mvcgen [selectFxsave]
  case vc1.isTrue => exact nofun
  case vc2.isFalse fresh _ =>
    have nonempty : fxsaveAreaSize ≠ 0 := by decide
    have fits : fxsaveAreaSize ≤ vmexitXsaveMax := by decide
    exact ⟨fresh.1, rfl, BitVec.zero_and, BitVec.zero_and, nonempty, fits, rfl, rfl, rfl⟩

/-- The contract is sampled now, not taken over from an earlier call. -/
def IsFresh (load : Machine) (before : FeatureContract) : Prop :=
  load.vcpuData = false ∨ before.initialized = false

theorem initializeVmxFeatureContract_framed {currentCr4 : U64} {before after : FeatureContract}
    (fresh : IsFresh load before)
    (accepted : initializeVmxFeatureContract load currentCr4 before = (true, after)) :
    Framed load after := by
  have spec : ⦃fun g => ⌜IsFresh load g⌝⦄ initializeVmxFeatureContract load currentCr4
      ⦃⇓ done g => ⌜done = true → Framed load g⌝⦄ := by
    have xsave := selectXsave_spec load
    have fxsave := selectFxsave_spec load
    mvcgen [initializeVmxFeatureContract, xsave, fxsave]
    case vc2.isTrue.isFalse.h_1 => exact nofun
    case vc5.isFalse.isTrue allocated _ fresh initialized =>
      rcases fresh with missing | first
      · exact absurd missing (by simpa using allocated)
      · exact absurd initialized (by simp [first])
    case vc6.isFalse.isFalse.h_1 => exact nofun
  exact spec_run spec fresh accepted rfl

/-- While the vCPU array is allocated the recorded answer is given again. -/
theorem initializeVmxFeatureContract_again {currentCr4 : U64} {before : FeatureContract}
    (allocated : load.vcpuData = true) (initialized : before.initialized = true) :
    initializeVmxFeatureContract load currentCr4 before = (before.valid, before) := by
  have spec : ⦃fun g => ⌜g = before⌝⦄ initializeVmxFeatureContract load currentCr4
      ⦃⇓ done g => ⌜(done, g) = (before.valid, before)⌝⦄ := by
    mvcgen [initializeVmxFeatureContract, selectXsave, selectFxsave]
    all_goals grind
  exact spec before rfl

end

end Knhv.Vmx
