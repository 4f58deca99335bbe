import Knhv.Nested.Representation
import Knhv.VmcsShadow.Model

namespace Knhv.VmcsShadow

open Knhv.Nested (FieldRule FieldRulePtr fieldRule findFieldRule)

/-- What is known of an access that is answered `Shadow`, with the rule of the
field it names. -/
structure Shadowed (image : VmcsShadowImage) (access : VmcsShadowAccess) (rule : FieldRulePtr) :
    Prop where
  valid : isVmcsShadowImageValid image = true
  active : image.state = kStateActive
  counted : access.fieldIndex < image.fieldCount
  inRange : access.fieldIndex.toNat < kVmcsShadowMaxFields
  resolved : resolveField access = some rule
  writable : access.operation = kOperationWrite → (fieldRule rule).writable = true

/-- The outcome of such an access. -/
structure ShadowOutcome (image : VmcsShadowImage) (access : VmcsShadowAccess) (rule : FieldRulePtr)
    (outcome : VmcsShadowAccessResult × Option VmcsShadowDecision × VmcsShadowImage) : Prop where
  known : Shadowed image access rule
  write : access.operation = kOperationWrite →
    outcome.2.2 = storeField image (fieldSlot access.fieldIndex)
      (access.value &&& fieldMask (fieldRule rule))
  read : access.operation ≠ kOperationWrite → outcome.2.2 = image ∧
    outcome.2.1.map (·.value) =
      some (image.fields (fieldSlot access.fieldIndex) &&& fieldMask (fieldRule rule))

theorem classifyChecked_shadow {config : VmcsShadowConfig} {image : VmcsShadowImage}
    {access : VmcsShadowAccess} {generation : U64} {decision : VmcsShadowDecision}
    (shadow : (classifyChecked config image access generation decision).1 = .Shadow) :
    image.state = kStateActive ∧ access.fieldIndex < image.fieldCount ∧
      ∃ rule, resolveField access = some rule ∧
        (access.operation = kOperationWrite → (fieldRule rule).writable = true) := by
  unfold classifyChecked at shadow
  split at shadow
  · cases shadow
  split at shadow
  · cases shadow
  split at shadow
  · cases shadow
  rename_i usable
  split at shadow
  · cases shadow
  rename_i rule resolved
  dsimp only at shadow
  split at shadow
  · cases shadow
  rename_i writable
  refine ⟨by_contra fun idle => usable (Or.inl idle), ?_, rule, resolved, fun write => ?_⟩
  · exact BitVec.not_le.mp fun beyond => usable (Or.inr beyond)
  · by_contra fixed
    exact writable (by simp [write, fixed])

theorem classifyVmcsShadowAccess_shadow {capabilities : Option VmcsShadowCapabilities}
    {config : Option VmcsShadowConfig} {image : VmcsShadowImage} {given : Option VmcsShadowAccess}
    {generation : U64} {wanted : Bool}
    (shadow : (classifyVmcsShadowAccess capabilities config image given generation wanted).1 =
      .Shadow) :
    ∃ access rule decision, given = some access ∧ Shadowed image access rule ∧
      classifyVmcsShadowAccess capabilities config image given generation wanted =
        (.Shadow, some decision) := by
  unfold classifyVmcsShadowAccess at shadow ⊢
  split at shadow
  · cases shadow
  rename_i asked
  rw [if_neg asked]
  dsimp only at shadow ⊢
  split at shadow
  · rename_i settings access
    split at shadow
    · cases shadow
    rename_i checks
    rw [if_neg checks]
    simp only [Bool.or_eq_true, Bool.not_eq_true', not_or, Bool.not_eq_false] at checks
    obtain ⟨⟨_, imageValid⟩, accessValid⟩ := checks
    obtain ⟨active, counted, rule, resolved, writable⟩ := classifyChecked_shadow shadow
    have inRange : access.fieldIndex.toNat < kVmcsShadowMaxFields := by
      simp only [isVmcsShadowAccessValid, Bool.and_eq_true, decide_eq_true_eq] at accessValid
      exact accessValid.1.1.1.1.2
    exact ⟨access, rule, (classifyChecked settings image access generation
      (initializeDecision (some access) generation)).2, rfl,
      ⟨imageValid, active, counted, inRange, resolved, writable⟩, Prod.ext shadow rfl⟩
  · cases shadow

/-- The masks of the table are never empty. -/
theorem fieldMask_ne_zero (rule : FieldRulePtr) : fieldMask (fieldRule rule) ≠ 0 := by
  have table : ∀ rule : FieldRulePtr, fieldMask (fieldRule rule) ≠ 0 := by decide +kernel
  exact table rule

theorem applyShadow_shadowed {image : VmcsShadowImage} {access : VmcsShadowAccess}
    {rule : FieldRulePtr} (known : Shadowed image access rule) (decision : VmcsShadowDecision) :
    applyShadow image access decision =
      if access.operation = kOperationWrite then
        (.Shadow, { decision with value := access.value &&& fieldMask (fieldRule rule) },
          storeField image (fieldSlot access.fieldIndex)
            (access.value &&& fieldMask (fieldRule rule)))
      else
        (.Shadow, { decision with
          value := image.fields (fieldSlot access.fieldIndex) &&& fieldMask (fieldRule rule) },
          image) := by
  have inside : ¬(fieldMask (fieldRule rule) = 0 ∨ image.fieldCount ≤ access.fieldIndex) := by
    rintro (empty | beyond)
    · exact fieldMask_ne_zero rule empty
    · exact BitVec.not_le.mpr known.counted beyond
  simp only [applyShadow, known.resolved, if_neg inside]

/-- Every `Shadow` answer of `ApplyVmcsShadowAccess` comes from an access of a
known field of an active image. -/
theorem applyVmcsShadowAccess_shadow {capabilities : Option VmcsShadowCapabilities}
    {config : Option VmcsShadowConfig} {image : VmcsShadowImage} {given : Option VmcsShadowAccess}
    {generation : U64} {wanted : Bool}
    (shadow : (applyVmcsShadowAccess capabilities config image given generation wanted).1 =
      .Shadow) :
    ∃ access rule, given = some access ∧ ShadowOutcome image access rule
      (applyVmcsShadowAccess capabilities config image given generation wanted) := by
  have classified : (classifyVmcsShadowAccess capabilities config image given generation wanted).1 =
      .Shadow := by
    unfold applyVmcsShadowAccess at shadow
    split at shadow
    · rename_i same
      rw [same]
    · cases shadow
    · rename_i result _ _ _ _ same
      rw [same]
      exact shadow
  obtain ⟨access, rule, decision, rfl, known, answer⟩ := classifyVmcsShadowAccess_shadow classified
  refine ⟨access, rule, rfl, known, ?_, ?_⟩
  · intro write
    simp only [applyVmcsShadowAccess, answer, applyShadow_shadowed known, if_pos write]
  · intro read
    simp only [applyVmcsShadowAccess, answer, applyShadow_shadowed known, if_neg read,
      Option.map_some, and_self]

/-- An access that is not answered `Shadow` does not touch the image. -/
theorem applyVmcsShadowAccess_unchanged {capabilities : Option VmcsShadowCapabilities}
    {config : Option VmcsShadowConfig} {image : VmcsShadowImage} {given : Option VmcsShadowAccess}
    {generation : U64} {wanted : Bool}
    (other : (applyVmcsShadowAccess capabilities config image given generation wanted).1 ≠
      .Shadow) :
    (applyVmcsShadowAccess capabilities config image given generation wanted).2.2 = image := by
  by_cases classified :
      (classifyVmcsShadowAccess capabilities config image given generation wanted).1 = .Shadow
  · obtain ⟨access, rule, decision, rfl, known, answer⟩ :=
      classifyVmcsShadowAccess_shadow classified
    refine absurd ?_ other
    simp only [applyVmcsShadowAccess, answer, applyShadow_shadowed known]
    split <;> rfl
  · unfold applyVmcsShadowAccess
    split
    · rename_i same
      rw [same] at classified
      exact absurd rfl classified
    · rfl
    · rfl

end Knhv.VmcsShadow

namespace Knhv.VmcsShadow

open Knhv.Nested

variable {σ : Type}

/-- The two mask functions agree on the widths of the table. -/
theorem fieldMask_eq (rule : FieldRulePtr) :
    fieldMask (fieldRule rule) = Nested.fieldMask (fieldRule rule).width := by
  have table : ∀ rule : FieldRulePtr,
      fieldMask (fieldRule rule) = Nested.fieldMask (fieldRule rule).width := by decide +kernel
  exact table rule

/-- The access resolves to the rule of its encoding. -/
theorem findFieldRule_of_resolved {access : VmcsShadowAccess} {rule : FieldRulePtr}
    (resolved : resolveField access = some rule) :
    findFieldRule access.encoding = some rule ∧ rule.val = access.fieldIndex.toNat := by
  unfold resolveField at resolved
  split at resolved
  · cases resolved
  · rename_i other found
    split at resolved
    · rename_i same
      cases resolved
      exact ⟨found, same⟩
    · cases resolved

/-- What `WriteNestedVmcsField` does with the same encoding and value. -/
theorem writeNestedVmcsField_eq {vcpu : NestedVcpu σ} {slot : Fin kNestedVmcsSlots}
    {encoding : U32} {rule : FieldRulePtr} {value : U64} (current : currentVmcs vcpu = some slot)
    (found : findFieldRule encoding = some rule) (writable : (fieldRule rule).writable = true) :
    writeNestedVmcsField vcpu encoding value =
      if validateControlValue vcpu (fieldRule rule) value then
        (true, vcpu.setVmcs slot (writeStoredField (vcpu.vmcs slot) rule value))
      else (false, vcpu) := by
  simp only [writeNestedVmcsField, current, found, writable]
  by_cases accepted : validateControlValue vcpu (fieldRule rule) value = true
  · have masks : ¬(value &&& (fieldRule rule).reservedZeroMask ≠ 0 ∨
        value &&& (fieldRule rule).reservedOneMask ≠ (fieldRule rule).reservedOneMask) := by
      intro reserved
      rw [validateControlValue, if_pos reserved] at accepted
      cases accepted
    rw [not_or, not_not, not_not] at masks
    simp [accepted, masks.1, masks.2]
  · simp [accepted]

/-- A value that the slow path takes for a field: no reserved bit is set, and a
control word stays within its allowed-0 and allowed-1 bounds. -/
def Writable (capabilities : NestedCapabilities) (rule : FieldRule) (value : U64) : Prop :=
  value &&& rule.reservedZeroMask = 0 ∧
    ∀ allowed0 allowed1, controlBounds capabilities rule.controlKind = some (allowed0, allowed1) →
      (value.setWidth 32 ||| allowed0) &&& allowed1 = value.setWidth 32

theorem validateControlValue_iff {vcpu : NestedVcpu σ} {rule : FieldRulePtr} {value : U64} :
    validateControlValue vcpu (fieldRule rule) value = true ↔
      Writable vcpu.capabilities (fieldRule rule) value := by
  have one : value &&& (fieldRule rule).reservedOneMask = (fieldRule rule).reservedOneMask := by
    rw [fieldRule_reservedOneMask]
    exact BitVec.and_zero
  unfold validateControlValue Writable
  by_cases zero : value &&& (fieldRule rule).reservedZeroMask = 0
  · rw [if_neg (by simp [zero, one])]
    cases bounds : controlBounds vcpu.capabilities (fieldRule rule).controlKind with
    | none => simp [zero]
    | some words =>
      obtain ⟨allowed0, allowed1⟩ := words
      simp only [zero, beq_iff_eq, true_and, Option.some.injEq, Prod.mk.injEq]
      exact ⟨fun same _ _ equal => equal.1 ▸ equal.2 ▸ same, fun all => all _ _ ⟨rfl, rfl⟩⟩
  · rw [if_pos (Or.inl zero)]
    exact ⟨nofun, fun writable => absurd writable.1 zero⟩

/-- The slow path takes the write of the access, and stores for its field what
the shadow image holds after it. -/
def SlowPathAgrees (vcpu : NestedVcpu σ) (slot : Fin kNestedVmcsSlots) (access : VmcsShadowAccess)
    (after : VmcsShadowImage) : Prop :=
  (writeNestedVmcsField vcpu access.encoding access.value).1 = true ∧
    ∃ rule, findFieldRule access.encoding = some rule ∧
      ((writeNestedVmcsField vcpu access.encoding access.value).2.vmcs slot).fields
        (fieldIndex rule) = after.fields (fieldSlot access.fieldIndex)

/-- A shadowed write is one that the slow path would have made as well exactly
if its value is writable for the field. -/
theorem shadow_write_agrees_iff {vcpu : NestedVcpu σ} {slot : Fin kNestedVmcsSlots}
    {capabilities : Option VmcsShadowCapabilities} {config : Option VmcsShadowConfig}
    {image : VmcsShadowImage} {access : VmcsShadowAccess} {generation : U64} {wanted : Bool}
    (current : currentVmcs vcpu = some slot) (write : access.operation = kOperationWrite)
    (shadow : (applyVmcsShadowAccess capabilities config image (some access) generation
      wanted).1 = .Shadow) :
    SlowPathAgrees vcpu slot access
        (applyVmcsShadowAccess capabilities config image (some access) generation wanted).2.2 ↔
      ∃ rule, findFieldRule access.encoding = some rule ∧
        Writable vcpu.capabilities (fieldRule rule) access.value := by
  obtain ⟨_, rule, same, outcome⟩ := applyVmcsShadowAccess_shadow shadow
  cases same
  obtain ⟨found, _⟩ := findFieldRule_of_resolved outcome.known.resolved
  have slow := @writeNestedVmcsField_eq _ vcpu slot access.encoding rule access.value current found
    (outcome.known.writable write)
  unfold SlowPathAgrees
  rw [slow, outcome.write write]
  constructor
  · rintro ⟨accepted, _⟩
    refine ⟨rule, found, validateControlValue_iff.mp ?_⟩
    by_contra refused
    rw [if_neg refused] at accepted
    cases accepted
  · rintro ⟨other, foundOther, writable⟩
    cases found.symm.trans foundOther
    rw [if_pos (validateControlValue_iff.mpr writable)]
    refine ⟨rfl, rule, found, ?_⟩
    simp only [NestedVcpu.setVmcs, Function.update_self, writeStoredField, storeField, fieldMask_eq]

/-- Capabilities and a configuration that shadow every write. -/
def writeCapabilities : VmcsShadowCapabilities where
  size := sizeofVmcsShadowCapabilities
  version := kVmcsShadowContractVersion
  featureFlags := kVmcsShadowCapSupported ||| kVmcsShadowCapWriteBitmap
  maxFields := 64
  physicalAddressBits := 48
  generation := 1
  reserved := 0

def writeConfig : VmcsShadowConfig where
  size := sizeofVmcsShadowConfig
  version := kVmcsShadowContractVersion
  linkPointer := kVmcsShadowNoLinkPointer
  readBitmapPhysical := kVmcsShadowNoLinkPointer
  writeBitmapPhysical := 0x1000
  flags := kVmcsShadowEnableWriteBitmap
  reserved := 0
  generation := 1
  readBitmap := fun _ => 0
  writeBitmap := fun _ => 0

/-- A shadowed write of the VPID field. -/
def vpidWrite (value : U64) : VmcsShadowAccess where
  size := sizeofVmcsShadowAccess
  version := kVmcsShadowContractVersion
  fieldIndex := 0
  encoding := kVmcsFieldVpid
  operation := kOperationWrite
  reserved := 0
  value := value
  generation := 1

def loadedGuest : NestedVcpu Unit :=
  Run.after nestedStep flatVcpu [vmxInstruction .Vmxon 8, vmxInstruction .Vmptrld 16]

theorem shadow_write_agrees_vpid :
    SlowPathAgrees loadedGuest ⟨0, by decide⟩ (vpidWrite 5)
      (applyVmcsShadowAccess (some writeCapabilities) (some writeConfig)
        (boundImage writeCapabilities writeConfig) (some (vpidWrite 5)) 1 true).2.2 :=
  (shadow_write_agrees_iff (by decide +kernel) rfl (by decide +kernel)).mpr
    ⟨⟨0, by decide⟩, by decide +kernel, by decide +kernel, nofun⟩

/-- A VPID with a bit beyond the field: the fast path stores zero, the slow path
refuses the write. -/
theorem shadow_write_beyond_vpid :
    currentVmcs loadedGuest = some ⟨0, by decide⟩ ∧
      (applyVmcsShadowAccess (some writeCapabilities) (some writeConfig)
        (boundImage writeCapabilities writeConfig) (some (vpidWrite 0x10000)) 1 true).1 = .Shadow ∧
      ¬SlowPathAgrees loadedGuest ⟨0, by decide⟩ (vpidWrite 0x10000)
        (applyVmcsShadowAccess (some writeCapabilities) (some writeConfig)
          (boundImage writeCapabilities writeConfig) (some (vpidWrite 0x10000)) 1 true).2.2 := by
  refine ⟨by decide +kernel, by decide +kernel, fun agrees => ?_⟩
  have accepted := agrees.1
  revert accepted
  decide +kernel

end Knhv.VmcsShadow
