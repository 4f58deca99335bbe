import Knhv.Nested.Control

namespace Knhv.Nested

variable {σ : Type}

/-- The value that a VMCS12 holds for an encoding of the rule table. -/
def storedField (vmcs : NestedVmcs12) (encoding : U32) : Option U64 :=
  (findFieldRule encoding).map (readStoredField vmcs)

theorem storedField_setVmcsReadOnly_self {vmcs : NestedVmcs12} {encoding : U32}
    {rule : FieldRulePtr} (found : findFieldRule encoding = some rule) (value : U64) :
    storedField (setVmcsReadOnly vmcs encoding value) encoding =
      some (value &&& fieldMask (fieldRule rule).width) := by
  simp only [storedField, setVmcsReadOnly, found, Option.map_some, readStoredField,
    Function.update_self]

theorem storedField_setVmcsReadOnly_of_ne {vmcs : NestedVmcs12} {encoding other : U32}
    (different : other ≠ encoding) (value : U64) :
    storedField (setVmcsReadOnly vmcs encoding value) other = storedField vmcs other := by
  unfold setVmcsReadOnly
  split
  · rfl
  next rule found =>
    unfold storedField
    cases at_ : findFieldRule other with
    | none => rfl
    | some otherRule =>
      have elsewhere : fieldIndex otherRule ≠ fieldIndex rule := by
        intro same
        rw [fieldIndex_injective same] at at_
        exact different ((findFieldRule_eq_some.mp at_).symm.trans (findFieldRule_eq_some.mp found))
      simp only [Option.map_some, readStoredField, Function.update_of_ne elsewhere]

/-- A 32-bit value fits the fields of width 4. -/
theorem setWidth_and_fieldMask (value : U32) :
    value.setWidth 64 &&& fieldMask 4 = value.setWidth 64 := by
  have mask : fieldMask 4 = BitVec.ofNat 64 (2 ^ 32 - 1) := by decide
  apply BitVec.eq_of_toNat_eq
  rw [mask, BitVec.toNat_and, BitVec.toNat_setWidth, BitVec.toNat_ofNat,
    Nat.mod_eq_of_lt (by decide : 2 ^ 32 - 1 < 2 ^ 64), Nat.and_two_pow_sub_one_eq_mod]
  have bound := value.isLt
  omega

theorem and_fieldMask_eight (value : U64) : value &&& fieldMask 8 = value :=
  BitVec.and_allOnes

theorem findFieldRule_instructionError :
    ∃ rule, findFieldRule kVmcsFieldInstructionError = some rule ∧ (fieldRule rule).width = 4 :=
  ⟨⟨13, by decide⟩, findFieldRule_eq_some.mpr rfl, rfl⟩

theorem findFieldRule_exitReason :
    ∃ rule, findFieldRule kVmcsFieldExitReason = some rule ∧ (fieldRule rule).width = 4 :=
  ⟨⟨14, by decide⟩, findFieldRule_eq_some.mpr rfl, rfl⟩

theorem findFieldRule_exitQualification :
    ∃ rule, findFieldRule kVmcsFieldExitQualification = some rule ∧ (fieldRule rule).width = 8 :=
  ⟨⟨15, by decide⟩, findFieldRule_eq_some.mpr rfl, rfl⟩

theorem findFieldRule_exitInstructionLength :
    ∃ rule, findFieldRule 0x440C = some rule ∧ (fieldRule rule).width = 4 :=
  ⟨⟨44, by decide⟩, findFieldRule_eq_some.mpr rfl, rfl⟩

/-- What an exit leaves in the VMCS it is recorded in. -/
structure ExitRecorded (vmcs : NestedVmcs12) (exitRecord : NestedExitRecord) : Prop where
  reason : storedField vmcs kVmcsFieldExitReason = some (exitRecord.reason.setWidth 64)
  qualification : storedField vmcs kVmcsFieldExitQualification = some exitRecord.qualification
  length : storedField vmcs 0x440C = some (exitRecord.instructionLength.setWidth 64)

theorem recordNestedExit_recorded (vmcs : NestedVmcs12) (exitRecord : NestedExitRecord) :
    ExitRecorded (recordNestedExit vmcs exitRecord) exitRecord := by
  obtain ⟨reasonRule, reasonFound, reasonWidth⟩ := findFieldRule_exitReason
  obtain ⟨qualificationRule, qualificationFound, qualificationWidth⟩ :=
    findFieldRule_exitQualification
  obtain ⟨lengthRule, lengthFound, lengthWidth⟩ := findFieldRule_exitInstructionLength
  unfold recordNestedExit
  dsimp only
  constructor
  · rw [storedField_setVmcsReadOnly_of_ne (by decide), storedField_setVmcsReadOnly_of_ne (by decide),
      storedField_setVmcsReadOnly_self reasonFound, reasonWidth, setWidth_and_fieldMask]
  · rw [storedField_setVmcsReadOnly_of_ne (by decide),
      storedField_setVmcsReadOnly_self qualificationFound, qualificationWidth, and_fieldMask_eight]
  · rw [storedField_setVmcsReadOnly_self lengthFound, lengthWidth, setWidth_and_fieldMask]

/-- A reflected exit is recorded in the current VMCS and nowhere else. -/
theorem reflectNestedExit_success {vcpu : NestedVcpu σ} {exitRecord : NestedExitRecord}
    (success : (reflectNestedExit vcpu (some exitRecord)).1.status = .Success) :
    ∃ slot, currentVmcs vcpu = some slot ∧
      ExitRecorded ((reflectNestedExit vcpu (some exitRecord)).2.vmcs slot) exitRecord ∧
      ∀ other ≠ slot, (reflectNestedExit vcpu (some exitRecord)).2.vmcs other = vcpu.vmcs other := by
  unfold reflectNestedExit at success ⊢
  dsimp only at success ⊢
  split at success
  · simp [makeResult] at success
  rename_i checks
  rw [if_neg checks]
  split at success
  · simp [makeResult] at success
  rename_i slot current
  refine ⟨slot, current, ?_, fun other different => ?_⟩
  · simp only [NestedVcpu.setVmcs, Function.update_self]
    exact recordNestedExit_recorded _ exitRecord
  · simp only [NestedVcpu.setVmcs, Function.update_of_ne different]

@[simp] theorem recordVmInstructionError_memory (vcpu : NestedVcpu σ) (instructionError : U32) :
    (recordVmInstructionError vcpu instructionError).memory = vcpu.memory := by
  unfold recordVmInstructionError
  dsimp only
  split <;> rfl

/-- The error word goes to the current VMCS; the other slots stay as they are. -/
theorem recordVmInstructionError_vmcs (vcpu : NestedVcpu σ) (instructionError : U32)
    (slot : Fin kNestedVmcsSlots) :
    (recordVmInstructionError vcpu instructionError).vmcs slot =
      if currentVmcs vcpu = some slot then
        setVmcsReadOnly (vcpu.vmcs slot) kVmcsFieldInstructionError (instructionError.setWidth 64)
      else vcpu.vmcs slot := by
  have here : currentVmcs { vcpu with instructionError := instructionError } = currentVmcs vcpu := rfl
  unfold recordVmInstructionError
  dsimp only
  rw [here]
  split
  next none => rw [if_neg (by simp [none])]
  next current found =>
    by_cases same : slot = current
    · subst same
      simp only [NestedVcpu.setVmcs, Function.update_self, found, if_true]
    · rw [if_neg (by simp [found, Ne.symm same])]
      simp only [NestedVcpu.setVmcs, Function.update_of_ne same]

theorem currentVmcs_congr {vcpu other : NestedVcpu σ} (same : other.control = vcpu.control) :
    currentVmcs other = currentVmcs vcpu := by
  have gpa : other.currentVmcsGpa = vcpu.currentVmcsGpa :=
    congrArg NestedControl.currentVmcsGpa same
  unfold currentVmcs
  rw [findVmcs_eq_find, findVmcs_eq_find, same, gpa]

theorem readNestedVmcsField_eq (vcpu : NestedVcpu σ) (encoding : U32) :
    readNestedVmcsField vcpu encoding =
      (currentVmcs vcpu).bind fun slot => (findFieldRule encoding).map fun rule =>
        readStoredField (vcpu.vmcs slot) rule &&& fieldMask (fieldRule rule).width := by
  unfold readNestedVmcsField
  cases currentVmcs vcpu with
  | none => rfl
  | some slot =>
    cases findFieldRule encoding with
    | none => rfl
    | some rule => rfl

/-- A field is read as before if the same VMCS is current and stores the same
value. -/
theorem readNestedVmcsField_congr {vcpu other : NestedVcpu σ} {encoding : U32}
    (current : currentVmcs other = currentVmcs vcpu)
    (stored : ∀ slot, currentVmcs vcpu = some slot →
      storedField (other.vmcs slot) encoding = storedField (vcpu.vmcs slot) encoding) :
    readNestedVmcsField other encoding = readNestedVmcsField vcpu encoding := by
  rw [readNestedVmcsField_eq, readNestedVmcsField_eq, current]
  cases here : currentVmcs vcpu with
  | none => rfl
  | some slot =>
    have same := stored slot here
    unfold storedField at same
    cases found : findFieldRule encoding with
    | none => rfl
    | some rule =>
      rw [found, Option.map_some, Option.map_some, Option.some.injEq] at same
      simp only [Option.bind_some, Option.map_some, same]

/-- The error that was recorded is the one that the current VMCS shows. -/
theorem readNestedVmcsField_recorded {vcpu : NestedVcpu σ} {slot : Fin kNestedVmcsSlots}
    (current : currentVmcs vcpu = some slot) (instructionError : U32) :
    readNestedVmcsField (recordVmInstructionError vcpu instructionError)
      kVmcsFieldInstructionError = some (instructionError.setWidth 64) := by
  obtain ⟨rule, found, width⟩ := findFieldRule_instructionError
  have kept : currentVmcs (recordVmInstructionError vcpu instructionError) = some slot :=
    (currentVmcs_congr (control_recordVmInstructionError vcpu instructionError)).trans current
  have stored := @storedField_setVmcsReadOnly_self (vcpu.vmcs slot) _ _ found
    (instructionError.setWidth 64)
  rw [storedField, found, Option.map_some, Option.some.injEq] at stored
  rw [readNestedVmcsField_eq, kept, found, Option.bind_some, Option.map_some,
    recordVmInstructionError_vmcs, if_pos current, stored, width, setWidth_and_fieldMask,
    setWidth_and_fieldMask]

/-- The error word touches no other field. -/
theorem readNestedVmcsField_recorded_of_ne (vcpu : NestedVcpu σ) (instructionError : U32)
    {encoding : U32} (different : encoding ≠ kVmcsFieldInstructionError) :
    readNestedVmcsField (recordVmInstructionError vcpu instructionError) encoding =
      readNestedVmcsField vcpu encoding := by
  refine readNestedVmcsField_congr
    (currentVmcs_congr (control_recordVmInstructionError vcpu instructionError)) ?_
  intro slot current
  rw [recordVmInstructionError_vmcs, if_pos current]
  exact storedField_setVmcsReadOnly_of_ne different _

theorem readStoredField_writeStoredField_self (vmcs : NestedVmcs12) (rule : FieldRulePtr)
    (value : U64) :
    readStoredField (writeStoredField vmcs rule value) rule =
      value &&& fieldMask (fieldRule rule).width := by
  simp only [readStoredField, writeStoredField, Function.update_self]

theorem storedField_writeStoredField_of_ne {vmcs : NestedVmcs12} {rule : FieldRulePtr}
    {encoding : U32} (different : encoding ≠ (fieldRule rule).encoding) (value : U64) :
    storedField (writeStoredField vmcs rule value) encoding = storedField vmcs encoding := by
  unfold storedField
  cases found : findFieldRule encoding with
  | none => rfl
  | some other =>
    have elsewhere : fieldIndex other ≠ fieldIndex rule := by
      intro same
      rw [fieldIndex_injective same] at found
      exact different (findFieldRule_eq_some.mp found).symm
    simp only [Option.map_some, readStoredField, writeStoredField,
      Function.update_of_ne elsewhere]

/-- What a field write that is made has been checked for, and where it goes. -/
structure Written (vcpu after : NestedVcpu σ) (encoding : U32) (value : U64)
    (slot : Fin kNestedVmcsSlots) (rule : FieldRulePtr) : Prop where
  current : currentVmcs vcpu = some slot
  found : findFieldRule encoding = some rule
  writable : (fieldRule rule).writable = true
  reserved : value &&& (fieldRule rule).reservedZeroMask = 0
  after : after = vcpu.setVmcs slot (writeStoredField (vcpu.vmcs slot) rule value)

theorem writeNestedVmcsField_true {vcpu after : NestedVcpu σ} {encoding : U32} {value : U64}
    (run : writeNestedVmcsField vcpu encoding value = (true, after)) :
    ∃ slot rule, Written vcpu after encoding value slot rule := by
  unfold writeNestedVmcsField at run
  split at run
  · rename_i slot rule current found
    dsimp only at run
    split at run
    · cases run
    · rename_i passed
      simp only [Bool.or_eq_true, Bool.not_eq_true', bne_iff_ne, not_or, Bool.not_eq_false,
        not_not] at passed
      exact ⟨slot, rule, current, found, passed.1.1.1, passed.1.1.2, (Prod.mk.inj run).2.symm⟩
  · cases run

/-- The error field is read-only, so it is never the one that was written. -/
theorem Written.encoding_ne {vcpu after : NestedVcpu σ} {encoding : U32} {value : U64}
    {slot : Fin kNestedVmcsSlots} {rule : FieldRulePtr}
    (written : Written vcpu after encoding value slot rule) :
    encoding ≠ kVmcsFieldInstructionError := by
  intro error
  have readOnly : ∀ rule : FieldRulePtr, (fieldRule rule).encoding = kVmcsFieldInstructionError →
      (fieldRule rule).writable = false := by decide +kernel
  have writable := written.writable
  rw [readOnly rule ((findFieldRule_eq_some.mp written.found).trans error)] at writable
  cases writable

end Knhv.Nested
