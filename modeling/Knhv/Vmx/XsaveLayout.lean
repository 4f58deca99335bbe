import Mathlib.Order.Bounds.Basic
import Knhv.Lib.Packing
import Knhv.Vmx.XstateFrame

namespace Knhv.Vmx

section

variable (m : Machine)

/-- The extended components below a bound that a mask selects, in order. -/
def selectedComponents (mask : U64) (bound : Nat) : List Nat :=
  (List.range' 2 (bound - 2)).filter fun component => mask &&& bit component ≠ 0

/-- What CPUID says of a component in the compacted layout. -/
def componentPart (component : Nat) : Packing.Part :=
  let regs := m.cpuidex 0xD (BitVec.ofNat 32 component)
  ⟨regs.eax.toNat, regs.ecx &&& 2 ≠ 0⟩

/-- The end of the compacted layout of the selected components below a bound. -/
def compactedEnd (mask : U64) (bound : Nat) : Nat :=
  Packing.endOf 64 ((selectedComponents mask bound).map (componentPart m)) 576

/-- The XCR0 bits are enumerated by leaf 0Dh, with x87 and SSE among them. -/
structure Xcr0Enumerated (xcr0Mask : U64) : Prop where
  leaf : 0xD ≤ (m.cpuidex 0 0).eax
  enumerated : xcr0Mask &&& ~~~supportedXcr0 m = 0
  legacy : xcr0Mask &&& 3 = 3

/-- When a compacted area can be laid out. -/
structure Compactable (xcr0Mask xssMask : U64) : Prop where
  xcr0 : Xcr0Enumerated m xcr0Mask
  xss : xssMask &&& ~~~xssCapabilities m = 0
  sized : ∀ component ∈ selectedComponents (xcr0Mask ||| xssMask) 64,
    (m.cpuidex 0xD (BitVec.ofNat 32 component)).eax ≠ 0
  user : ∀ component ∈ selectedComponents xcr0Mask 64,
    (m.cpuidex 0xD (BitVec.ofNat 32 component)).ecx &&& 1 = 0
  supervisor : ∀ component ∈ selectedComponents xssMask 64,
    (m.cpuidex 0xD (BitVec.ofNat 32 component)).ecx &&& 1 ≠ 0
  fits : ∀ bound ≤ 64, compactedEnd m (xcr0Mask ||| xssMask) bound < 2 ^ 32

/-- Where CPUID puts the end of a component in the standard layout. -/
def standardEnd (component : Nat) : Nat :=
  let regs := m.cpuidex 0xD (BitVec.ofNat 32 component)
  regs.ebx.toNat + regs.eax.toNat

/-- The ends of the standard layout: the legacy area with the header, and the
selected components. -/
def standardEnds (xcr0Mask : U64) : Set Nat :=
  insert 576 {reach | ∃ component ∈ selectedComponents xcr0Mask 64, standardEnd m component = reach}

/-- When a standard area can be laid out. -/
structure StandardAccepted (xcr0Mask : U64) : Prop where
  xcr0 : Xcr0Enumerated m xcr0Mask
  sized : ∀ component ∈ selectedComponents xcr0Mask 64,
    (m.cpuidex 0xD (BitVec.ofNat 32 component)).eax ≠ 0
  placed : ∀ component ∈ selectedComponents xcr0Mask 64,
    576 ≤ (m.cpuidex 0xD (BitVec.ofNat 32 component)).ebx
  fits : ∀ component ∈ selectedComponents xcr0Mask 64, standardEnd m component < 2 ^ 32

end

theorem isXcr0MaskSupported_iff {m : Machine} {xcr0Mask : U64} :
    isXcr0MaskSupported m xcr0Mask = true ↔ Xcr0Enumerated m xcr0Mask := by
  simp only [isXcr0MaskSupported, Bool.and_eq_true, decide_eq_true_eq]
  constructor
  · rintro ⟨⟨leaf, enumerated⟩, legacy⟩
    exact ⟨leaf, enumerated, legacy⟩
  · rintro ⟨leaf, enumerated, legacy⟩
    exact ⟨⟨leaf, enumerated⟩, legacy⟩

theorem mem_selectedComponents {mask : U64} {bound component : Nat} :
    component ∈ selectedComponents mask bound ↔
      (2 ≤ component ∧ component < bound) ∧ mask &&& bit component ≠ 0 := by
  simp only [selectedComponents, List.mem_filter, List.mem_range'_1, decide_eq_true_eq]
  have range : (2 ≤ component ∧ component < 2 + (bound - 2)) ↔ 2 ≤ component ∧ component < bound := by
    omega
  rw [range]

theorem selectedComponents_sublist {inner outer : U64} (inside : inner &&& ~~~outer = 0)
    (bound : Nat) : (selectedComponents inner bound).Sublist (selectedComponents outer bound) := by
  apply List.monotone_filter_right
  intro component here
  simp only [decide_eq_true_eq] at here ⊢
  exact Masks.touches_of_inside inside here

section Compacted

variable {m : Machine} {xcr0Mask xssMask : U64}

theorem componentEnd_toNat {component : Nat} {offset : U64} (small : offset ≤ maxUlong) :
    (componentEnd m component offset).toNat =
      Packing.behind 64 (componentPart m component) offset.toNat := by
  have start : (componentStart m component offset).toNat =
      Packing.startOf 64 (componentPart m component) offset.toNat := by
    unfold componentStart Packing.startOf componentPart
    dsimp only
    by_cases aligned : (m.cpuidex 0xD (BitVec.ofNat 32 component)).ecx &&& 2 ≠ 0
    · rw [if_pos aligned, if_pos (decide_eq_true aligned), align_toNat small]
      rfl
    · rw [if_neg aligned, if_neg (by simpa using aligned)]
  obtain ⟨-, -, bound⟩ :=
    @componentStart_mono m component offset offset (BitVec.le_refl offset) small
  have size := (m.cpuidex 0xD (BitVec.ofNat 32 component)).eax.isLt
  have widened : ((m.cpuidex 0xD (BitVec.ofNat 32 component)).eax.setWidth 64).toNat =
      (componentPart m component).size := by
    rw [BitVec.toNat_setWidth, Nat.mod_eq_of_lt (by omega)]
    rfl
  have narrow : (componentPart m component).size < 2 ^ 32 := size
  rw [componentEnd, BitVec.toNat_add, widened, Nat.mod_eq_of_lt (by omega), start]
  rfl

/-- The parts of the selected components among those in a list. -/
def partsOf (m : Machine) (mask : U64) (components : List Nat) : List Packing.Part :=
  (components.filter fun component => mask &&& bit component ≠ 0).map (componentPart m)

/-- The loop goes through exactly when every selected component is consistent and
the layout ends below 4 GiB, and then it holds that end. The ends only grow, so
the last one bounds them all. -/
theorem foldlM_compactComponent (components : List Nat) {offset last : U64}
    (small : offset ≤ maxUlong) :
    components.foldlM (compactComponent m xcr0Mask xssMask) offset = some last ↔
      (∀ component ∈ components, (xcr0Mask ||| xssMask) &&& bit component ≠ 0 →
        isComponentConsistent m xcr0Mask xssMask component) ∧
      Packing.endOf 64 (partsOf m (xcr0Mask ||| xssMask) components) offset.toNat < 2 ^ 32 ∧
      last.toNat = Packing.endOf 64 (partsOf m (xcr0Mask ||| xssMask) components) offset.toNat := by
  induction components generalizing offset with
  | nil =>
    have below : offset.toNat ≤ 0xFFFFFFFF := small
    constructor
    · intro done
      cases done
      exact ⟨by simp, Nat.lt_succ_of_le below, rfl⟩
    · rintro ⟨-, -, same⟩
      exact congrArg some (BitVec.eq_of_toNat_eq same.symm)
  | cons component components ih =>
    rw [List.foldlM_cons, List.forall_mem_cons]
    by_cases selected : (xcr0Mask ||| xssMask) &&& bit component = 0
    · rw [compactComponent_unselected selected]
      have parts : partsOf m (xcr0Mask ||| xssMask) (component :: components) =
          partsOf m (xcr0Mask ||| xssMask) components := by
        simp only [partsOf]
        rw [List.filter_cons_of_neg (by simpa using selected)]
      rw [parts, and_iff_right (fun touched => absurd selected touched)]
      exact ih small
    · have parts : partsOf m (xcr0Mask ||| xssMask) (component :: components) =
          componentPart m component :: partsOf m (xcr0Mask ||| xssMask) components := by
        simp only [partsOf]
        rw [List.filter_cons_of_pos (by simpa using selected), List.map_cons]
      have here := @componentEnd_toNat m component offset small
      rw [parts, Packing.endOf, ← here]
      constructor
      · intro run
        obtain ⟨next, placed, rest⟩ := Option.bind_eq_some_iff.mp run
        obtain ⟨consistent, rfl, fits⟩ := (compactComponent_selected selected).mp placed
        obtain ⟨others, whole, result⟩ := (ih fits).mp rest
        exact ⟨⟨fun _ => consistent, others⟩, whole, result⟩
      · rintro ⟨⟨consistent, others⟩, whole, result⟩
        have grows := Packing.le_endOf (by decide : 0 < 64)
          (partsOf m (xcr0Mask ||| xssMask) components) (componentEnd m component offset).toNat
        have fits : componentEnd m component offset ≤ maxUlong := by
          have below : (componentEnd m component offset).toNat ≤ 0xFFFFFFFF := by omega
          exact below
        refine Option.bind_eq_some_iff.mpr ⟨componentEnd m component offset, ?_, ?_⟩
        · exact (compactComponent_selected selected).mpr ⟨consistent selected, rfl, fits⟩
        · exact (ih fits).mpr ⟨others, whole, result⟩

theorem compactedEnd_mono (m : Machine) (mask : U64) {low high : Nat} (below : low ≤ high) :
    compactedEnd m mask low ≤ compactedEnd m mask high := by
  apply Packing.endOf_sublist (by decide)
  apply List.Sublist.map
  apply List.Sublist.filter
  exact List.range'_sublist_right.mpr (by omega)

theorem selected_or_iff {component : Nat} :
    (xcr0Mask ||| xssMask) &&& bit component ≠ 0 ↔
      xcr0Mask &&& bit component ≠ 0 ∨ xssMask &&& bit component ≠ 0 := by
  have halves : ∀ left right : U64, left ||| right = 0 ↔ left = 0 ∧ right = 0 := by
    intro left right
    exact BitVec.or_eq_zero_iff
  rw [BitVec.and_or_distrib_right, Ne, halves, not_and_or]

theorem consistent_iff :
    (∀ component ∈ List.range' 2 62, (xcr0Mask ||| xssMask) &&& bit component ≠ 0 →
        isComponentConsistent m xcr0Mask xssMask component) ↔
      (∀ component ∈ selectedComponents (xcr0Mask ||| xssMask) 64,
        (m.cpuidex 0xD (BitVec.ofNat 32 component)).eax ≠ 0) ∧
      (∀ component ∈ selectedComponents xcr0Mask 64,
        (m.cpuidex 0xD (BitVec.ofNat 32 component)).ecx &&& 1 = 0) ∧
      ∀ component ∈ selectedComponents xssMask 64,
        (m.cpuidex 0xD (BitVec.ofNat 32 component)).ecx &&& 1 ≠ 0 := by
  constructor
  · intro consistent
    have here {component : Nat} (range : 2 ≤ component ∧ component < 64)
        (selected : (xcr0Mask ||| xssMask) &&& bit component ≠ 0) :=
      consistent component (List.mem_range'_1.mpr range) selected
    refine ⟨fun component member => ?_, fun component member => ?_, fun component member => ?_⟩
    · obtain ⟨range, selected⟩ := mem_selectedComponents.mp member
      exact (here range selected).1
    · obtain ⟨range, selected⟩ := mem_selectedComponents.mp member
      have user := (here range (selected_or_iff.mpr (Or.inl selected))).2.1
      by_contra misplaced
      exact user ⟨selected, misplaced⟩
    · obtain ⟨range, selected⟩ := mem_selectedComponents.mp member
      have supervisor := (here range (selected_or_iff.mpr (Or.inr selected))).2.2
      exact fun misplaced => supervisor ⟨selected, misplaced⟩
  · rintro ⟨sized, user, supervisor⟩ component member selected
    have range : 2 ≤ component ∧ component < 64 := List.mem_range'_1.mp member
    refine ⟨sized component (mem_selectedComponents.mpr ⟨range, selected⟩), ?_, ?_⟩
    · rintro ⟨here, misplaced⟩
      exact misplaced (user component (mem_selectedComponents.mpr ⟨range, here⟩))
    · rintro ⟨here, misplaced⟩
      exact supervisor component (mem_selectedComponents.mpr ⟨range, here⟩) misplaced

theorem computeXsaveAreaSize_eq_some_iff {known : U64} {areaSize : U32} :
    computeXsaveAreaSize m xcr0Mask xssMask = some (known, areaSize) ↔
      Compactable m xcr0Mask xssMask ∧ known = xssCapabilities m ∧
        areaSize.toNat = compactedEnd m (xcr0Mask ||| xssMask) 64 := by
  have folded (last : U64) := @foldlM_compactComponent m xcr0Mask xssMask (List.range' 2 62) 576
    last (by decide)
  have start : (576 : U64).toNat = 576 := rfl
  have whole : Packing.endOf 64 (partsOf m (xcr0Mask ||| xssMask) (List.range' 2 62)) 576 =
      compactedEnd m (xcr0Mask ||| xssMask) 64 := rfl
  simp only [start, whole, consistent_iff] at folded
  constructor
  · intro computed
    simp only [computeXsaveAreaSize] at computed
    split at computed
    · cases computed
    rename_i supported
    split at computed
    · cases computed
    rename_i enumerated
    obtain ⟨last, run, answer⟩ := Option.map_eq_some_iff.mp computed
    cases answer
    obtain ⟨⟨sized, user, supervisor⟩, fits, result⟩ := (folded last).mp run
    have running (bound : Nat) (small : bound ≤ 64) :
        compactedEnd m (xcr0Mask ||| xssMask) bound < 2 ^ 32 :=
      lt_of_le_of_lt (compactedEnd_mono m _ small) fits
    refine ⟨⟨isXcr0MaskSupported_iff.mp (by simpa using supported), not_not.mp enumerated, sized,
      user, supervisor, running⟩, rfl, ?_⟩
    rw [BitVec.toNat_setWidth, result, Nat.mod_eq_of_lt fits]
  · rintro ⟨layout, rfl, size⟩
    have fits := layout.fits 64 le_rfl
    have last : (areaSize.setWidth 64).toNat = compactedEnd m (xcr0Mask ||| xssMask) 64 := by
      rw [BitVec.toNat_setWidth, Nat.mod_eq_of_lt (by omega), size]
    have run := (folded (areaSize.setWidth 64)).mpr
      ⟨⟨layout.sized, layout.user, layout.supervisor⟩, fits, last⟩
    have supported := isXcr0MaskSupported_iff.mpr layout.xcr0
    have narrow : (areaSize.setWidth 64).setWidth 32 = areaSize := by
      rw [BitVec.setWidth_setWidth_of_le _ (by decide), BitVec.setWidth_eq]
    simp only [computeXsaveAreaSize, supported, layout.xss, run, Bool.not_true, Bool.false_eq_true,
      if_false, ne_eq, not_true, Option.map_some, narrow]

end Compacted

section Standard

variable {m : Machine} {xcr0Mask : U64}

theorem standardComponent_unselected {size : U64} {component : Nat}
    (unselected : xcr0Mask &&& bit component = 0) :
    standardComponent m xcr0Mask size component = some size :=
  if_pos unselected

/-- A component that a standard area can hold. -/
structure StandardPlaced (m : Machine) (component : Nat) : Prop where
  sized : (m.cpuidex 0xD (BitVec.ofNat 32 component)).eax ≠ 0
  placed : 576 ≤ (m.cpuidex 0xD (BitVec.ofNat 32 component)).ebx
  fits : standardEnd m component < 2 ^ 32

theorem standardComponent_selected {size next : U64} {component : Nat}
    (selected : xcr0Mask &&& bit component ≠ 0) :
    standardComponent m xcr0Mask size component = some next ↔
      StandardPlaced m component ∧ next.toNat = max size.toNat (standardEnd m component) := by
  have first := (m.cpuidex 0xD (BitVec.ofNat 32 component)).ebx.isLt
  have second := (m.cpuidex 0xD (BitVec.ofNat 32 component)).eax.isLt
  have reach : ((m.cpuidex 0xD (BitVec.ofNat 32 component)).ebx.setWidth 64 +
      (m.cpuidex 0xD (BitVec.ofNat 32 component)).eax.setWidth 64 : U64).toNat =
      standardEnd m component := by
    rw [BitVec.toNat_add, BitVec.toNat_setWidth, BitVec.toNat_setWidth,
      Nat.mod_eq_of_lt (by omega : _ < 2 ^ 64), Nat.mod_eq_of_lt (by omega : _ < 2 ^ 64),
      Nat.mod_eq_of_lt (by omega)]
    rfl
  simp only [standardComponent, if_neg selected]
  generalize ((m.cpuidex 0xD (BitVec.ofNat 32 component)).ebx.setWidth 64 +
    (m.cpuidex 0xD (BitVec.ofNat 32 component)).eax.setWidth 64 : U64) = far at reach
  by_cases refused : (m.cpuidex 0xD (BitVec.ofNat 32 component)).eax = 0 ∨
      (m.cpuidex 0xD (BitVec.ofNat 32 component)).ebx < 576
  · rw [if_pos (by simpa using refused)]
    constructor
    · intro none
      cases none
    · rintro ⟨placed, -⟩
      rcases refused with empty | low
      · exact absurd empty placed.sized
      · exact absurd placed.placed (BitVec.not_le.mpr low)
  · rw [if_neg (by simpa using refused)]
    obtain ⟨sized, high⟩ := not_or.mp refused
    by_cases wide : maxUlong < far
    · rw [if_pos wide]
      constructor
      · intro none
        cases none
      · rintro ⟨placed, -⟩
        have beyond : 0xFFFFFFFF < far.toNat := wide
        have fits := placed.fits
        omega
    · rw [if_neg wide]
      have fits : far.toNat ≤ 0xFFFFFFFF := BitVec.not_lt.mp wide
      have larger : (if size < far then far else size).toNat = max size.toNat far.toNat := by
        by_cases grows : size < far
        · rw [if_pos grows, max_eq_right (le_of_lt grows)]
        · rw [if_neg grows, max_eq_left (BitVec.not_lt.mp grows)]
      rw [Option.some.injEq, ← reach, ← larger]
      constructor
      · rintro rfl
        exact ⟨⟨sized, BitVec.not_lt.mp high, by omega⟩, rfl⟩
      · rintro ⟨-, same⟩
        exact (BitVec.eq_of_toNat_eq same).symm

/-- The furthest of the given ends. -/
def furthest (m : Machine) (xcr0Mask : U64) (components : List Nat) (size : Nat) : Nat :=
  ((components.filter fun component => xcr0Mask &&& bit component ≠ 0).map
    (standardEnd m)).foldl max size

theorem foldlM_standardComponent (components : List Nat) {size last : U64} :
    components.foldlM (standardComponent m xcr0Mask) size = some last ↔
      (∀ component ∈ components, xcr0Mask &&& bit component ≠ 0 → StandardPlaced m component) ∧
        last.toNat = furthest m xcr0Mask components size.toNat := by
  induction components generalizing size with
  | nil =>
    constructor
    · intro done
      cases done
      exact ⟨by simp, rfl⟩
    · rintro ⟨-, same⟩
      exact congrArg some (BitVec.eq_of_toNat_eq same.symm)
  | cons component components ih =>
    rw [List.foldlM_cons, List.forall_mem_cons]
    by_cases selected : xcr0Mask &&& bit component = 0
    · rw [standardComponent_unselected selected]
      have reach : furthest m xcr0Mask (component :: components) size.toNat =
          furthest m xcr0Mask components size.toNat := by
        simp only [furthest]
        rw [List.filter_cons_of_neg (by simpa using selected)]
      rw [reach, and_iff_right (fun touched => absurd selected touched)]
      exact ih
    · have reach : furthest m xcr0Mask (component :: components) size.toNat =
          furthest m xcr0Mask components (max size.toNat (standardEnd m component)) := by
        simp only [furthest]
        rw [List.filter_cons_of_pos (by simpa using selected), List.map_cons, List.foldl_cons]
      rw [reach]
      constructor
      · intro run
        obtain ⟨next, placed, rest⟩ := Option.bind_eq_some_iff.mp run
        obtain ⟨here, grown⟩ := (standardComponent_selected selected).mp placed
        obtain ⟨others, result⟩ := ih.mp rest
        exact ⟨⟨fun _ => here, others⟩, by rw [result, grown]⟩
      · rintro ⟨⟨here, others⟩, result⟩
        have fits := (here selected).fits
        have small := size.isLt
        have next : (BitVec.ofNat 64 (max size.toNat (standardEnd m component))).toNat =
            max size.toNat (standardEnd m component) := by
          rw [BitVec.toNat_ofNat, Nat.mod_eq_of_lt (by omega)]
        refine Option.bind_eq_some_iff.mpr
          ⟨_, (standardComponent_selected selected).mpr ⟨here selected, next⟩, ?_⟩
        exact ih.mpr ⟨others, by rw [result, next]⟩

theorem foldl_max_isGreatest (ends : List Nat) (size : Nat) :
    IsGreatest (insert size {reach | reach ∈ ends}) (ends.foldl max size) := by
  induction ends generalizing size with
  | nil =>
    refine ⟨Or.inl rfl, ?_⟩
    rintro reach (rfl | member)
    · exact le_rfl
    · exact absurd member List.not_mem_nil
  | cons first ends ih =>
    obtain ⟨attained, bounds⟩ := ih (max size first)
    rw [List.foldl_cons]
    constructor
    · rcases attained with start | later
      · rw [start]
        rcases max_choice size first with same | same
        · exact Or.inl same
        · exact Or.inr (by rw [same]; exact List.mem_cons_self)
      · exact Or.inr (List.mem_cons_of_mem first later)
    · have start : max size first ≤ ends.foldl max (max size first) := bounds (Or.inl rfl)
      rintro reach (rfl | member)
      · exact (le_max_left _ _).trans start
      · rcases List.mem_cons.mp member with rfl | later
        · exact (le_max_right _ _).trans start
        · exact bounds (Or.inr later)

theorem furthest_isGreatest :
    IsGreatest (standardEnds m xcr0Mask) (furthest m xcr0Mask (List.range' 2 62) 576) := by
  have greatest := foldl_max_isGreatest
    ((selectedComponents xcr0Mask 64).map (standardEnd m)) 576
  have ends : (insert 576 {reach | reach ∈ (selectedComponents xcr0Mask 64).map (standardEnd m)} :
      Set Nat) = standardEnds m xcr0Mask := by
    simp only [standardEnds, List.mem_map]
  rw [ends] at greatest
  exact greatest

theorem computeStandardXsaveAreaSize_eq_some_iff {areaSize : U32} :
    computeStandardXsaveAreaSize m xcr0Mask = some areaSize ↔
      StandardAccepted m xcr0Mask ∧ IsGreatest (standardEnds m xcr0Mask) areaSize.toNat := by
  have folded (last : U64) := @foldlM_standardComponent m xcr0Mask (List.range' 2 62) 576 last
  have start : (576 : U64).toNat = 576 := rfl
  have greatest := @furthest_isGreatest m xcr0Mask
  simp only [start] at folded
  have placed_iff : (∀ component ∈ List.range' 2 62, xcr0Mask &&& bit component ≠ 0 →
      StandardPlaced m component) ↔
      ∀ component ∈ selectedComponents xcr0Mask 64, StandardPlaced m component := by
    simp only [mem_selectedComponents, List.mem_range'_1, and_imp]
  rw [placed_iff] at folded
  constructor
  · intro computed
    simp only [computeStandardXsaveAreaSize] at computed
    split at computed
    · cases computed
    rename_i supported
    obtain ⟨last, run, rfl⟩ := Option.map_eq_some_iff.mp computed
    obtain ⟨placed, result⟩ := (folded last).mp run
    have accepted : StandardAccepted m xcr0Mask :=
      ⟨isXcr0MaskSupported_iff.mp (by simpa using supported), fun component member =>
        (placed component member).sized, fun component member => (placed component member).placed,
        fun component member => (placed component member).fits⟩
    refine ⟨accepted, ?_⟩
    have fits : last.toNat < 2 ^ 32 := by
      rw [result]
      rcases greatest.1 with legacy | ⟨component, member, here⟩
      · rw [legacy]
        decide
      · rw [← here]
        exact accepted.fits component member
    rw [BitVec.toNat_setWidth, Nat.mod_eq_of_lt fits, result]
    exact greatest
  · rintro ⟨accepted, size⟩
    have last : (areaSize.setWidth 64).toNat = furthest m xcr0Mask (List.range' 2 62) 576 := by
      have narrow := areaSize.isLt
      rw [BitVec.toNat_setWidth, Nat.mod_eq_of_lt (by omega)]
      exact size.unique greatest
    have placed (component : Nat) (member : component ∈ selectedComponents xcr0Mask 64) :
        StandardPlaced m component :=
      ⟨accepted.sized component member, accepted.placed component member,
        accepted.fits component member⟩
    have run := (folded (areaSize.setWidth 64)).mpr ⟨placed, last⟩
    have supported := isXcr0MaskSupported_iff.mpr accepted.xcr0
    have narrow : (areaSize.setWidth 64).setWidth 32 = areaSize := by
      rw [BitVec.setWidth_setWidth_of_le _ (by decide), BitVec.setWidth_eq]
    simp only [computeStandardXsaveAreaSize, supported, run, Bool.not_true, Bool.false_eq_true,
      if_false, Option.map_some, narrow]

end Standard

theorem computeXsaveAreaSize_isSome_iff {m : Machine} {xcr0Mask xssMask : U64} :
    (computeXsaveAreaSize m xcr0Mask xssMask).isSome = true ↔ Compactable m xcr0Mask xssMask := by
  rw [Option.isSome_iff_exists]
  constructor
  · rintro ⟨⟨known, areaSize⟩, computed⟩
    exact (computeXsaveAreaSize_eq_some_iff.mp computed).1
  · intro layout
    have fits := layout.fits 64 le_rfl
    refine ⟨(xssCapabilities m, BitVec.ofNat 32 (compactedEnd m (xcr0Mask ||| xssMask) 64)), ?_⟩
    refine computeXsaveAreaSize_eq_some_iff.mpr ⟨layout, rfl, ?_⟩
    rw [BitVec.toNat_ofNat, Nat.mod_eq_of_lt fits]

theorem computeStandardXsaveAreaSize_isSome_iff {m : Machine} {xcr0Mask : U64} :
    (computeStandardXsaveAreaSize m xcr0Mask).isSome = true ↔ StandardAccepted m xcr0Mask := by
  rw [Option.isSome_iff_exists]
  constructor
  · rintro ⟨areaSize, computed⟩
    exact (computeStandardXsaveAreaSize_eq_some_iff.mp computed).1
  · intro accepted
    obtain ⟨attained, bounds⟩ := @furthest_isGreatest m xcr0Mask
    have fits : furthest m xcr0Mask (List.range' 2 62) 576 < 2 ^ 32 := by
      rcases attained with legacy | ⟨component, member, here⟩
      · rw [legacy]
        decide
      · rw [← here]
        exact accepted.fits component member
    refine ⟨BitVec.ofNat 32 (furthest m xcr0Mask (List.range' 2 62) 576), ?_⟩
    refine computeStandardXsaveAreaSize_eq_some_iff.mpr ⟨accepted, ?_⟩
    rw [BitVec.toNat_ofNat, Nat.mod_eq_of_lt fits]
    exact ⟨attained, bounds⟩

theorem or_inside_or {xcr0 xcr0' xss xss' : U64} (user : xcr0' &&& ~~~xcr0 = 0)
    (supervisor : xss' &&& ~~~xss = 0) : (xcr0' ||| xss') &&& ~~~(xcr0 ||| xss) = 0 := by
  refine Masks.and_not_eq_zero_iff.mpr fun position here => ?_
  rw [BitVec.getLsbD_or, Bool.or_eq_true] at here ⊢
  exact here.imp (Masks.and_not_eq_zero_iff.mp user position)
    (Masks.and_not_eq_zero_iff.mp supervisor position)

/-- The compacted size is the end of the layout of the selected components, the
standard size the furthest of their ends, and both are defined exactly where the
processor enumerates and sizes what is selected. Neither sum wraps: the sizes are
those of the natural numbers. A mask inside another one needs no more room. -/
theorem xsaveAreaSize_exact (m : Machine) (xcr0Mask xssMask : U64) :
    ((computeXsaveAreaSize m xcr0Mask xssMask).isSome = true ↔ Compactable m xcr0Mask xssMask) ∧
      (∀ known areaSize, computeXsaveAreaSize m xcr0Mask xssMask = some (known, areaSize) →
        known = xssCapabilities m ∧
          areaSize.toNat = compactedEnd m (xcr0Mask ||| xssMask) 64) ∧
      ((computeStandardXsaveAreaSize m xcr0Mask).isSome = true ↔ StandardAccepted m xcr0Mask) ∧
      (∀ areaSize, computeStandardXsaveAreaSize m xcr0Mask = some areaSize →
        IsGreatest (standardEnds m xcr0Mask) areaSize.toNat) ∧
      (∀ xcr0 xss known known' areaSize smaller,
        xcr0 &&& ~~~xcr0Mask = 0 → xss &&& ~~~xssMask = 0 →
        computeXsaveAreaSize m xcr0Mask xssMask = some (known, areaSize) →
        computeXsaveAreaSize m xcr0 xss = some (known', smaller) → smaller ≤ areaSize) ∧
      ∀ xcr0 areaSize smaller, xcr0 &&& ~~~xcr0Mask = 0 →
        computeStandardXsaveAreaSize m xcr0Mask = some areaSize →
        computeStandardXsaveAreaSize m xcr0 = some smaller → smaller ≤ areaSize := by
  refine ⟨computeXsaveAreaSize_isSome_iff, ?_, computeStandardXsaveAreaSize_isSome_iff, ?_, ?_, ?_⟩
  · intro known areaSize computed
    exact (computeXsaveAreaSize_eq_some_iff.mp computed).2
  · intro areaSize computed
    exact (computeStandardXsaveAreaSize_eq_some_iff.mp computed).2
  · intro xcr0 xss known known' areaSize smaller user supervisor computed less
    have size := (computeXsaveAreaSize_eq_some_iff.mp computed).2.2
    have lessSize := (computeXsaveAreaSize_eq_some_iff.mp less).2.2
    have sublist := selectedComponents_sublist (or_inside_or user supervisor) 64
    have ends := Packing.endOf_sublist (by decide : 0 < 64) (sublist.map (componentPart m)) 576
    rw [BitVec.le_def, size, lessSize]
    exact ends
  · intro xcr0 areaSize smaller inside computed less
    have size := (computeStandardXsaveAreaSize_eq_some_iff.mp computed).2
    have lessSize := (computeStandardXsaveAreaSize_eq_some_iff.mp less).2
    have fewer : standardEnds m xcr0 ⊆ standardEnds m xcr0Mask := by
      apply Set.insert_subset_insert
      rintro reach ⟨component, member, here⟩
      exact ⟨component, (selectedComponents_sublist inside 64).subset member, here⟩
    exact lessSize.mono size fewer

end Knhv.Vmx
