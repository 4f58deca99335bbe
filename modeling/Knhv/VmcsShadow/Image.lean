import Knhv.Lib.Bits
import Knhv.VmcsShadow.Access

namespace Knhv.VmcsShadow

/-- The dirty bit of a field, read from the words that the write path sets. -/
def dirtyBit (image : VmcsShadowImage) (slot : Fin kVmcsShadowMaxFields) : Bool :=
  (image.dirtyBitmap (bitmapWord slot)).getLsbD (slot.val % 64)

/-- The byte view of the validator shows the bit of the word view. -/
theorem isBitSet_dirtyBytes (image : VmcsShadowImage) (slot : Fin kVmcsShadowMaxFields) :
    isBitSet (dirtyBytes image.dirtyBitmap) (BitVec.ofNat 32 slot.val) = dirtyBit image slot := by
  have bound := slot.isLt
  simp only [kVmcsShadowMaxFields] at bound
  have index : (BitVec.ofNat 32 slot.val).toNat = slot.val := by
    rw [BitVec.toNat_ofNat]
    omega
  have here : fieldSlot (BitVec.ofNat 32 slot.val) = slot := by
    apply Fin.ext
    simp only [fieldSlot, index, kVmcsShadowMaxFields]
    omega
  have small : slot.val % 8 < 8 := Nat.mod_lt _ (by decide)
  have word : (⟨(bitmapByte slot).val / 8, by simp only [bitmapByte]; omega⟩ : Fin 2) =
      bitmapWord slot := by
    apply Fin.ext
    simp only [bitmapByte, bitmapWord]
    omega
  have bit : 8 * ((bitmapByte slot).val % 8) + slot.val % 8 = slot.val % 64 := by
    simp only [bitmapByte]
    omega
  have test := Bits.and_one_shiftLeft_ne_zero (dirtyBytes image.dirtyBitmap (bitmapByte slot)) small
  unfold isBitSet dirtyBit
  rw [index, if_neg (by simp only [kVmcsShadowMaxFields]; omega), here, Bool.eq_iff_iff, bne_iff_ne]
  refine test.trans ?_
  simp only [dirtyBytes, word, BitVec.getLsbD_setWidth, small, decide_true, Bool.true_and,
    BitVec.getLsbD_ushiftRight, bit]

theorem bitmapTailIsClear_dirty {image : VmcsShadowImage} {fieldCount : U32}
    (inside : fieldCount.toNat ≤ kVmcsShadowMaxFields) :
    bitmapTailIsClear (dirtyBytes image.dirtyBitmap) fieldCount = true ↔
      ∀ slot : Fin kVmcsShadowMaxFields, fieldCount.toNat ≤ slot.val →
        dirtyBit image slot = false := by
  rw [bitmapTailIsClear, if_neg (Nat.not_lt.mpr inside), List.all_eq_true]
  constructor
  · intro clear slot beyond
    have member : slot.val ∈ List.range' fieldCount.toNat
        (kVmcsShadowMaxFields - fieldCount.toNat) := by
      have bound := slot.isLt
      rw [List.mem_range'_1]
      omega
    have bit := clear slot.val member
    rw [isBitSet_dirtyBytes] at bit
    simpa using bit
  · intro clear index member
    rw [List.mem_range'_1] at member
    have bit := clear ⟨index, by omega⟩ member.1
    rw [← isBitSet_dirtyBytes] at bit
    simp only [bit, Bool.not_false]

/-- A valid image that is not empty. -/
structure ImageValid (image : VmcsShadowImage) : Prop where
  header : isVersionedSizeValid image.version image.size sizeofVmcsShadowImage = true
  state : isStateValid image.state = true
  bound : image.state ≠ kStateEmpty
  reserved : image.reserved 0 = 0 ∧ image.reserved 1 = 0
  generation : image.generation ≠ 0
  counted : image.fieldCount ≠ 0
  inside : image.fieldCount.toNat ≤ kVmcsShadowMaxFields
  tail : ∀ slot : Fin kVmcsShadowMaxFields, image.fieldCount.toNat ≤ slot.val →
    dirtyBit image slot = false

theorem imageValid_iff {image : VmcsShadowImage} :
    ImageValid image ↔ isVmcsShadowImageValid image = true ∧ image.state ≠ kStateEmpty := by
  unfold isVmcsShadowImageValid
  constructor
  · intro valid
    rw [if_neg (by simp [valid.header, valid.state, valid.reserved]), if_neg valid.bound]
    refine ⟨?_, valid.bound⟩
    simp only [Bool.and_eq_true, bne_iff_ne, ne_eq, decide_eq_true_eq]
    exact ⟨⟨⟨valid.generation, valid.counted⟩, valid.inside⟩,
      (bitmapTailIsClear_dirty valid.inside).mpr valid.tail⟩
  · rintro ⟨accepted, bound⟩
    split at accepted
    · cases accepted
    rename_i checks
    simp only [Bool.or_eq_true, Bool.not_eq_true', not_or, Bool.not_eq_false, bne_iff_ne, ne_eq,
      not_not] at checks
    obtain ⟨⟨⟨header, state⟩, first⟩, second⟩ := checks
    simp only [Bool.and_eq_true, bne_iff_ne, ne_eq, decide_eq_true_eq] at accepted
    obtain ⟨⟨⟨generation, counted⟩, inside⟩, tail⟩ := accepted
    exact ⟨header, state, bound, ⟨first, second⟩, generation, counted, inside,
      (bitmapTailIsClear_dirty inside).mp tail⟩

/-- A change of the state word to another one than `Empty`. -/
theorem ImageValid.setState {image : VmcsShadowImage} (valid : ImageValid image) {state : U32}
    (known : isStateValid state = true) (bound : state ≠ kStateEmpty) :
    ImageValid { image with state := state } :=
  ⟨valid.header, known, bound, valid.reserved, valid.generation, valid.counted, valid.inside,
    valid.tail⟩

theorem dirtyBit_storeField (image : VmcsShadowImage) (slot other : Fin kVmcsShadowMaxFields)
    (value : U64) :
    dirtyBit (storeField image slot value) other =
      (dirtyBit image other || decide (other = slot)) := by
  unfold dirtyBit storeField
  by_cases sameWord : bitmapWord other = bitmapWord slot
  · have words : other.val / 64 = slot.val / 64 := congrArg Fin.val sameWord
    have bits := Bits.getLsbD_or_one_shiftLeft (image.dirtyBitmap (bitmapWord slot))
      (Nat.mod_lt slot.val (by decide : 0 < 64)) (other.val % 64)
    have same : (other.val % 64 = slot.val % 64) = (other = slot) := by
      rw [Fin.ext_iff]
      apply propext
      omega
    simp only [sameWord, Function.update_self, ← same]
    exact bits
  · have different : other ≠ slot := fun same => sameWord (by rw [same])
    simp only [Function.update_of_ne sameWord, different, decide_false, Bool.or_false]

theorem ImageValid.storeField {image : VmcsShadowImage} (valid : ImageValid image)
    {slot : Fin kVmcsShadowMaxFields} (counted : slot.val < image.fieldCount.toNat) (value : U64) :
    ImageValid (storeField image slot value) := by
  refine ⟨valid.header, valid.state, valid.bound, valid.reserved, valid.generation, valid.counted,
    valid.inside, fun other beyond => ?_⟩
  have different : other ≠ slot := by
    rintro rfl
    exact absurd beyond (Nat.not_le.mpr counted)
  rw [dirtyBit_storeField, valid.tail other beyond]
  simp [different]

/-- The image of a successful `BeginVmcsShadow`, and of a failed one. -/
theorem beginVmcsShadow_cases (capabilities : Option VmcsShadowCapabilities)
    (config : Option VmcsShadowConfig) :
    isBindingValid capabilities config = false ∧
        beginVmcsShadow capabilities config = (false, VmcsShadowImage.zero) ∨
      ∃ given settings, capabilities = some given ∧ config = some settings ∧
        beginVmcsShadow capabilities config = (true, boundImage given settings) ∧
        ImageValid (boundImage given settings) := by
  unfold beginVmcsShadow
  split
  · rename_i checks
    rw [Bool.not_eq_true'] at checks
    exact Or.inl ⟨checks, rfl⟩
  rename_i checks
  rw [Bool.not_eq_true', Bool.not_eq_false] at checks
  split
  · rename_i given settings
    right
    simp only [isBindingValid, Bool.and_eq_true] at checks
    obtain ⟨⟨capabilitiesValid, configValid⟩, _⟩ := checks
    simp only [isVmcsShadowCapabilitiesValid, Bool.and_eq_true, bne_iff_ne, ne_eq,
      decide_eq_true_eq] at capabilitiesValid
    simp only [isVmcsShadowConfigValid, Bool.and_eq_true, bne_iff_ne, ne_eq] at configValid
    obtain ⟨⟨⟨⟨⟨⟨_, counted⟩, inside⟩, _⟩, _⟩, _⟩, _⟩ := capabilitiesValid
    obtain ⟨⟨⟨⟨⟨⟨⟨⟨_, generation⟩, _⟩, _⟩, _⟩, _⟩, _⟩, _⟩, _⟩ := configValid
    have header : isVersionedSizeValid kVmcsShadowContractVersion sizeofVmcsShadowImage
        sizeofVmcsShadowImage = true := by decide
    have state : isStateValid kStateActive = true := by decide
    have bound : kStateActive ≠ kStateEmpty := by decide
    have valid : ImageValid (boundImage given settings) := by
      refine ⟨header, state, bound, ⟨rfl, rfl⟩, generation, counted, inside, ?_⟩
      intro slot _
      exact BitVec.getLsbD_zero
    exact ⟨given, settings, rfl, rfl, by rw [(imageValid_iff.mp valid).1], valid⟩
  · rename_i missing
    cases capabilities with
    | none => cases checks
    | some given =>
      cases config with
      | none => cases checks
      | some settings => exact absurd rfl (missing given settings rfl)

end Knhv.VmcsShadow
