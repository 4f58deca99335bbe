import Knhv.Nested.Step

namespace Knhv.Nested

variable {σ : Type}

/-- Every stored field has only bits of its rule's width. -/
def NestedVmcs12.FieldsFit (vmcs : NestedVmcs12) : Prop :=
  ∀ rule : FieldRulePtr, vmcs.fields (fieldIndex rule) &&& fieldMask (fieldRule rule).width =
    vmcs.fields (fieldIndex rule)

def FieldsFit (vcpu : NestedVcpu σ) : Prop := ∀ slot, (vcpu.vmcs slot).FieldsFit

theorem NestedVmcs12.FieldsFit.update {vmcs : NestedVmcs12} (fits : vmcs.FieldsFit)
    (rule : FieldRulePtr) (value : U64) (dirtyGroups : U64) :
    ({ vmcs with
      fields := Function.update vmcs.fields (fieldIndex rule)
        (value &&& fieldMask (fieldRule rule).width)
      dirtyGroups := dirtyGroups } : NestedVmcs12).FieldsFit := by
  intro other
  by_cases same : fieldIndex other = fieldIndex rule
  · have ruleSame := fieldIndex_injective same
    subst ruleSame
    simp only [Function.update_self, BitVec.and_assoc, BitVec.and_self]
  · simp only [Function.update_of_ne same]
    exact fits other

theorem NestedVmcs12.FieldsFit.setVmcsReadOnly {vmcs : NestedVmcs12} (fits : vmcs.FieldsFit)
    (encoding : U32) (value : U64) : (setVmcsReadOnly vmcs encoding value).FieldsFit := by
  unfold Nested.setVmcsReadOnly
  split
  · exact fits
  · exact fits.update _ value vmcs.dirtyGroups

theorem NestedVmcs12.fieldsFit_of_zero {vmcs : NestedVmcs12} (zero : vmcs.fields = fun _ => 0) :
    vmcs.FieldsFit := by
  intro rule
  rw [zero]
  exact BitVec.zero_and

theorem FieldsFit.setVmcs {vcpu : NestedVcpu σ} {slot : Fin kNestedVmcsSlots} {vmcs : NestedVmcs12}
    (fits : FieldsFit vcpu) (stored : vmcs.FieldsFit) : FieldsFit (vcpu.setVmcs slot vmcs) := by
  intro other
  by_cases same : other = slot
  · subst same
    simp only [NestedVcpu.setVmcs, Function.update_self]
    exact stored
  · simp only [NestedVcpu.setVmcs, Function.update_of_ne same]
    exact fits other

theorem FieldsFit.recordVmInstructionError {vcpu : NestedVcpu σ} (fits : FieldsFit vcpu)
    (instructionError : U32) : FieldsFit (recordVmInstructionError vcpu instructionError) := by
  unfold Nested.recordVmInstructionError
  dsimp only
  split
  · exact fits
  · exact FieldsFit.setVmcs fits ((fits _).setVmcsReadOnly _ _)

theorem FieldsFit.clearVmInstructionError {vcpu : NestedVcpu σ} (fits : FieldsFit vcpu) :
    FieldsFit (clearVmInstructionError vcpu) :=
  fits.recordVmInstructionError 0

theorem FieldsFit.makeVmfail {vcpu : NestedVcpu σ} (fits : FieldsFit vcpu) (status : HvStatus)
    (instructionError instructionLength : U32) :
    FieldsFit (makeVmfail vcpu status instructionError instructionLength).2 := by
  unfold Nested.makeVmfail
  split
  · exact fits.recordVmInstructionError instructionError
  · exact fits

theorem FieldsFit.writeNestedVmcsField {vcpu : NestedVcpu σ} (fits : FieldsFit vcpu)
    (encoding : U32) (value : U64) : FieldsFit (writeNestedVmcsField vcpu encoding value).2 := by
  unfold Nested.writeNestedVmcsField
  split
  · dsimp only
    split
    · exact fits
    · exact fits.setVmcs ((fits _).update _ value _)
  · exact fits

theorem FieldsFit.allocateVmcs {vcpu : NestedVcpu σ} (fits : FieldsFit vcpu) (region : U64) :
    FieldsFit (allocateVmcs vcpu region).2 := by
  unfold Nested.allocateVmcs
  split
  · exact fits
  · split
    · exact fits
    · exact fits.setVmcs (NestedVmcs12.fieldsFit_of_zero rfl)

theorem NestedVmcs12.FieldsFit.recordNestedExit {vmcs : NestedVmcs12} (fits : vmcs.FieldsFit)
    (exitRecord : NestedExitRecord) : (recordNestedExit vmcs exitRecord).FieldsFit := by
  have reason := fits.setVmcsReadOnly kVmcsFieldExitReason (exitRecord.reason.setWidth 64)
  have qualification :=
    reason.setVmcsReadOnly kVmcsFieldExitQualification exitRecord.qualification
  exact qualification.setVmcsReadOnly 0x440C (exitRecord.instructionLength.setWidth 64)

/-- The outcomes that refuse an instruction. Guest memory may have been
touched while the operands were read; of the vCPU only the error word can
change, and that only for a `VmfailValid`. -/
inductive IsRefused (vcpu : NestedVcpu σ) : NestedResult × NestedVcpu σ → Prop
  | plain {result : NestedResult} : result.status ≠ .Success → IsRefused vcpu (result, vcpu)
  | vmfail (context : σ) {status : HvStatus} {error length : U32} : status ≠ .Success →
      IsRefused vcpu (makeVmfail (vcpu.withContext context) status error length)

/-- The outcomes that carry an instruction out, with the event it shows. -/
structure Shows (event : VmxEvent) (vcpu : NestedVcpu σ) (outcome : NestedResult × NestedVcpu σ) :
    Prop where
  success : outcome.1.status = .Success
  effect : NestedEffect event vcpu.control outcome.2.control
  fields : FieldsFit vcpu → FieldsFit outcome.2

theorem IsRefused.report (vcpu : NestedVcpu σ) {status : HvStatus} {action : NestedAction}
    {error length : U32} {rflags value : U64} (failed : status ≠ .Success) :
    IsRefused vcpu (makeResult status action error length rflags value, vcpu) :=
  .plain failed

/-- A refusal before any operand was read. -/
theorem IsRefused.vmfailHere (vcpu : NestedVcpu σ) {status : HvStatus} {error length : U32}
    (failed : status ≠ .Success) : IsRefused vcpu (makeVmfail vcpu status error length) :=
  .vmfail vcpu.memory.context failed

theorem IsRefused.status_ne {vcpu : NestedVcpu σ} {outcome : NestedResult × NestedVcpu σ}
    (refused : IsRefused vcpu outcome) : outcome.1.status ≠ .Success := by
  cases refused with
  | plain failed => exact failed
  | vmfail context failed =>
    rw [status_makeVmfail]
    exact failed

theorem IsRefused.control_eq {vcpu : NestedVcpu σ} {outcome : NestedResult × NestedVcpu σ}
    (refused : IsRefused vcpu outcome) : outcome.2.control = vcpu.control := by
  cases refused with
  | plain => rfl
  | vmfail => rw [control_makeVmfail, control_withContext]

theorem IsRefused.fieldsFit {vcpu : NestedVcpu σ} {outcome : NestedResult × NestedVcpu σ}
    (refused : IsRefused vcpu outcome) (fits : FieldsFit vcpu) : FieldsFit outcome.2 := by
  cases refused with
  | plain => exact fits
  | vmfail context =>
    have kept : FieldsFit (vcpu.withContext context) := fits
    exact kept.makeVmfail _ _ _

/-- An instruction outside the lifecycle that succeeds: whatever it wrote, the
control state is the one it found. -/
theorem shows_quiet {vcpu after : NestedVcpu σ} {result : NestedResult}
    (success : result.status = .Success) (same : after.control = vcpu.control)
    (fits : FieldsFit vcpu → FieldsFit after) :
    Shows .quiet vcpu (result, clearVmInstructionError after) := by
  refine ⟨success, ?_, fun before => (fits before).clearVmInstructionError⟩
  rw [control_clearVmInstructionError, same]
  exact .quiet

theorem NestedEffect.of_eq {event : VmxEvent} {control after after' : NestedControl}
    (effect : NestedEffect event control after) (same : after' = after) :
    NestedEffect event control after' := by
  rw [same]
  exact effect

theorem emulateVmxon_effect (vcpu : NestedVcpu σ) (instruction : VmxInstruction) :
    IsRefused vcpu (emulateVmxon vcpu instruction) ∨
      ∃ region, (validateVmxRegion vcpu instruction.linearOperand).1 = some region ∧
        Shows (.vmxon region) vcpu (emulateVmxon vcpu instruction) := by
  unfold emulateVmxon
  dsimp only
  split
  · exact Or.inl (.vmfailHere vcpu (by decide))
  rename_i off
  split
  · exact Or.inl (.report vcpu (by decide))
  split
  · exact Or.inl (.vmfail _ (by decide))
  rename_i region context valid
  obtain ⟨aligned, physical⟩ := validateVmxRegion_region valid
  refine Or.inr ⟨region, by rw [valid], rfl, ?_, fun fits => ?_⟩
  · rw [control_clearVmInstructionError]
    exact .vmxon (Bool.eq_false_iff.mpr off) ⟨aligned, physical⟩
  · dsimp only
    exact FieldsFit.clearVmInstructionError fits

theorem emulateVmxoff_effect (vcpu : NestedVcpu σ) (instruction : VmxInstruction) :
    IsRefused vcpu (emulateVmxoff vcpu instruction) ∨
      Shows .vmxoff vcpu (emulateVmxoff vcpu instruction) := by
  unfold emulateVmxoff
  dsimp only
  split
  · exact Or.inl (.vmfailHere vcpu (by decide))
  rename_i on
  split
  · exact Or.inl (.report vcpu (by decide))
  rename_i idle
  exact Or.inr ⟨rfl, .vmxoff (Bool.eq_true_of_not_eq_false on) (Bool.eq_false_iff.mpr idle), id⟩

theorem emulateVmclear_effect (vcpu : NestedVcpu σ) (instruction : VmxInstruction)
    (on : vcpu.vmxonActive = true) :
    IsRefused vcpu (emulateVmclear vcpu instruction) ∨
      ∃ region, (validateVmxRegion vcpu instruction.linearOperand).1 = some region ∧
        Shows (.clear region) vcpu (emulateVmclear vcpu instruction) := by
  unfold emulateVmclear
  dsimp only
  split
  · exact Or.inl (.report vcpu (by decide))
  rename_i idle
  split
  · exact Or.inl (.vmfail _ (by decide))
  rename_i region context valid
  obtain ⟨aligned, physical⟩ := validateVmxRegion_region valid
  split
  · exact Or.inl (.vmfail _ (by decide))
  rename_i other
  split
  · rename_i after run
    rw [allocateVmcs_none run]
    exact Or.inl (.vmfail _ (by decide))
  rename_i slot after run
  obtain ⟨alloc, current⟩ := allocateVmcs_some run
  have kept : FieldsFit vcpu → FieldsFit after := by
    intro fits
    have grown := @FieldsFit.allocateVmcs σ (vcpu.withContext context) fits region
    rw [run] at grown
    exact grown
  refine Or.inr ⟨region, by rw [valid], rfl, ?_, fun fits => FieldsFit.clearVmInstructionError
    ((kept fits).setVmcs (NestedVmcs12.fieldsFit_of_zero rfl))⟩
  rw [control_clearVmInstructionError]
  rw [control_withContext] at alloc
  have used := alloc.allocated.1
  have slotSame : ({ NestedVmcs12.zero with
      allocated := true
      regionGpa := (after.vmcs slot).regionGpa
      revision := (after.vmcs slot).revision
      state := .Clear } : NestedVmcs12).control =
      { after.control.vmcs slot with state := .Clear } := by
    simp only [NestedVmcs12.control, used]
    rfl
  refine NestedEffect.of_eq (.clear on (Bool.eq_false_iff.mpr idle) ⟨aligned, physical⟩ other alloc)
    (NestedControl.ext rfl rfl rfl rfl rfl rfl ?_ rfl ?_)
  · exact congrArg (fun gpa => if gpa = region then kNoCurrentVmcs else gpa) current
  · exact (setVmcs_vmcs_control ..).trans (congrArg _ slotSame)

theorem emulateVmptrld_effect (vcpu : NestedVcpu σ) (instruction : VmxInstruction)
    (on : vcpu.vmxonActive = true) :
    IsRefused vcpu (emulateVmptrld vcpu instruction) ∨
      ∃ region, (validateVmxRegion vcpu instruction.linearOperand).1 = some region ∧
        Shows (.load region) vcpu (emulateVmptrld vcpu instruction) := by
  unfold emulateVmptrld
  dsimp only
  split
  · exact Or.inl (.vmfail _ (by decide))
  rename_i region context valid
  obtain ⟨aligned, physical⟩ := validateVmxRegion_region valid
  split
  · exact Or.inl (.vmfail _ (by decide))
  rename_i other
  split
  · rename_i after run
    rw [allocateVmcs_none run]
    exact Or.inl (.vmfail _ (by decide))
  rename_i slot after run
  obtain ⟨alloc, current⟩ := allocateVmcs_some run
  rw [control_withContext] at alloc
  split
  · rename_i busy
    rw [allocateVmcs_active run busy.1]
    exact Or.inl (.vmfail _ (by decide))
  rename_i usable
  have kept : FieldsFit vcpu → FieldsFit after := by
    intro fits
    have grown := @FieldsFit.allocateVmcs σ (vcpu.withContext context) fits region
    rw [run] at grown
    exact grown
  refine Or.inr ⟨region, by rw [valid], rfl, ?_, fun fits => FieldsFit.clearVmInstructionError
    ((kept fits).setVmcs (kept fits slot))⟩
  rw [control_clearVmInstructionError]
  have free : ¬((after.control.vmcs slot).state = .Active ∧
      vcpu.control.currentVmcsGpa ≠ region) := by
    rintro ⟨active, elsewhere⟩
    refine usable ⟨active, ?_⟩
    rw [current]
    exact elsewhere
  exact NestedEffect.of_eq (.load on ⟨aligned, physical⟩ other alloc free)
    (NestedControl.ext rfl rfl rfl rfl rfl rfl rfl rfl (setVmcs_vmcs_control ..))

theorem emulateVmEntry_effect (vcpu : NestedVcpu σ) (instruction : VmxInstruction) (launch : Bool)
    (on : vcpu.vmxonActive = true) :
    IsRefused vcpu (emulateVmEntry vcpu instruction launch) ∨
      Shows (if launch then .launch vcpu.currentVmcsGpa else .resume vcpu.currentVmcsGpa) vcpu
        (emulateVmEntry vcpu instruction launch) := by
  unfold emulateVmEntry
  dsimp only
  split
  · exact Or.inl (.vmfailHere vcpu (by decide))
  rename_i slot at_
  obtain ⟨current, found⟩ := currentVmcs_eq_some_iff.mp at_
  split
  · exact Or.inl (.vmfailHere vcpu (by decide))
  rename_i launchable
  split
  · exact Or.inl (.vmfailHere vcpu (by decide))
  rename_i resumable
  split
  · exact Or.inl (.vmfailHere vcpu (by decide))
  rename_i enterable
  refine Or.inr ⟨rfl, ?_, fun fits => FieldsFit.clearVmInstructionError
    (FieldsFit.setVmcs fits (fits slot))⟩
  have idle : vcpu.l2Running = false := by
    cases running : vcpu.l2Running with
    | false => rfl
    | true => exact absurd (Or.inl running) enterable
  rw [control_clearVmInstructionError]
  have same : ({ vcpu.setVmcs slot { vcpu.vmcs slot with state := .Launched } with
      l2Running := true } : NestedVcpu σ).control =
      { vcpu.control.setVmcs slot { vcpu.control.vmcs slot with state := .Launched } with
        l2Running := true } :=
    NestedControl.ext rfl rfl rfl rfl rfl rfl rfl rfl (setVmcs_vmcs_control ..)
  rw [same]
  cases launch with
  | true =>
    have active : (vcpu.vmcs slot).state = .Active := by
      by_contra other
      exact launchable ⟨rfl, other⟩
    exact .launch on idle current found active
  | false =>
    have launched : (vcpu.vmcs slot).state = .Launched := by
      by_contra other
      exact resumable ⟨by decide, other⟩
    exact .resume on idle current found launched

theorem reflectNestedExit_effect (vcpu : NestedVcpu σ) (exitRecord : Option NestedExitRecord) :
    IsRefused vcpu (reflectNestedExit vcpu exitRecord) ∨
      Shows (.exit vcpu.currentVmcsGpa) vcpu (reflectNestedExit vcpu exitRecord) := by
  unfold reflectNestedExit
  dsimp only
  split
  · exact Or.inl (.report vcpu (by decide))
  split
  · exact Or.inl (.report vcpu (by decide))
  rename_i record checks
  split
  · exact Or.inl (.report vcpu (by decide))
  rename_i slot at_
  have stored (fits : FieldsFit vcpu) : (recordNestedExit (vcpu.vmcs slot) record).FieldsFit :=
    (fits slot).recordNestedExit record
  refine Or.inr ⟨rfl, ?_, fun fits => FieldsFit.setVmcs fits (stored fits)⟩
  have running : vcpu.l2Running = true := by
    by_contra idle
    exact checks (by simp [idle])
  have current := (currentVmcs_eq_some_iff.mp at_).1
  have slots : (vcpu.setVmcs slot (recordNestedExit (vcpu.vmcs slot) record)).control.vmcs =
      vcpu.control.vmcs := by
    rw [control_setVmcs_same (control_recordNestedExit (vcpu.vmcs slot) record)]
  exact NestedEffect.of_eq (@NestedEffect.exit vcpu.control running current)
    (NestedControl.ext rfl rfl rfl rfl rfl rfl rfl rfl slots)

/-! The other instructions touch fields, the error word and memory only. -/

theorem emulateVmptrst_effect (vcpu : NestedVcpu σ) (instruction : VmxInstruction) :
    IsRefused vcpu (emulateVmptrst vcpu instruction) ∨
      Shows .quiet vcpu (emulateVmptrst vcpu instruction) := by
  unfold emulateVmptrst
  dsimp only
  split
  · exact Or.inr ⟨rfl, .quiet, id⟩
  split
  · exact Or.inl (.vmfailHere vcpu (by decide))
  split
  · exact Or.inl (.vmfail _ (by decide))
  · exact Or.inr (shows_quiet rfl rfl id)

theorem emulateVmread_effect (vcpu : NestedVcpu σ) (instruction : VmxInstruction) :
    IsRefused vcpu (emulateVmread vcpu instruction) ∨
      Shows .quiet vcpu (emulateVmread vcpu instruction) := by
  unfold emulateVmread
  dsimp only
  split
  · exact Or.inl (.vmfailHere vcpu (by decide))
  split
  · exact Or.inr (shows_quiet rfl rfl id)
  split
  · exact Or.inl (.vmfailHere vcpu (by decide))
  split
  · exact Or.inl (.vmfail _ (by decide))
  · exact Or.inr (shows_quiet rfl rfl id)

/-- A field write that is refused changes nothing. -/
theorem writeNestedVmcsField_false {vcpu after : NestedVcpu σ} {encoding : U32} {value : U64}
    (run : writeNestedVmcsField vcpu encoding value = (false, after)) : after = vcpu := by
  unfold writeNestedVmcsField at run
  split at run
  · dsimp only at run
    split at run <;> simp at run
    exact run.symm
  · simp only [Prod.mk.injEq, true_and] at run
    exact run.symm

theorem emulateVmwrite_effect (vcpu : NestedVcpu σ) (instruction : VmxInstruction) :
    IsRefused vcpu (emulateVmwrite vcpu instruction) ∨
      Shows .quiet vcpu (emulateVmwrite vcpu instruction) := by
  have control := control_writeNestedVmcsField vcpu instruction.encoding instruction.source
  unfold emulateVmwrite
  dsimp only
  split
  · split
    · exact Or.inl (.vmfailHere vcpu (by decide))
    split
    · rename_i after run
      rw [writeNestedVmcsField_false run]
      exact Or.inl (.vmfailHere vcpu (by decide))
    · rename_i after run
      rw [run] at control
      refine Or.inr (shows_quiet rfl control fun fits => ?_)
      have written := fits.writeNestedVmcsField instruction.encoding instruction.source
      rw [run] at written
      exact written
  · exact Or.inl (.vmfailHere vcpu (by decide))

theorem emulateInvept_effect (vcpu : NestedVcpu σ) (instruction : VmxInstruction) :
    IsRefused vcpu (emulateInvept vcpu instruction) ∨
      Shows .quiet vcpu (emulateInvept vcpu instruction) := by
  unfold emulateInvept
  dsimp only
  split
  · exact Or.inl (.report vcpu (by decide))
  split
  · exact Or.inl (.vmfail _ (by decide))
  split
  · exact Or.inl (.vmfail _ (by decide))
  · exact Or.inr (shows_quiet rfl rfl id)

theorem emulateInvvpid_effect (vcpu : NestedVcpu σ) (instruction : VmxInstruction) :
    IsRefused vcpu (emulateInvvpid vcpu instruction) ∨
      Shows .quiet vcpu (emulateInvvpid vcpu instruction) := by
  unfold emulateInvvpid
  dsimp only
  split
  · exact Or.inl (.report vcpu (by decide))
  split
  · exact Or.inl (.vmfail _ (by decide))
  split
  · exact Or.inl (.vmfail _ (by decide))
  · exact Or.inr (shows_quiet rfl rfl id)

theorem emulateVmfunc_effect (vcpu : NestedVcpu σ) (instruction : VmxInstruction) :
    IsRefused vcpu (emulateVmfunc vcpu instruction) ∨
      Shows .quiet vcpu (emulateVmfunc vcpu instruction) := by
  unfold emulateVmfunc
  dsimp only
  split
  · exact Or.inl (.report vcpu (by decide))
  split
  · exact Or.inl (.report vcpu (by decide))
  split
  · exact Or.inl (.vmfailHere vcpu (by decide))
  · exact Or.inr (shows_quiet rfl rfl id)

/-- Every dispatched instruction is refused or shows the event its opcode and
its operands name. -/
theorem dispatchNestedInstruction_outcome (vcpu : NestedVcpu σ) (instruction : VmxInstruction) :
    IsRefused vcpu (dispatchNestedInstruction vcpu (some instruction)) ∨
      Shows (nestedEvent vcpu (.dispatch (some instruction))) vcpu
        (dispatchNestedInstruction vcpu (some instruction)) := by
  simp only [nestedEvent, dispatchNestedInstruction]
  split
  · exact Or.inl (.report vcpu (by decide))
  split
  · rename_i vmxon
    refine (emulateVmxon_effect vcpu instruction).imp_right ?_
    rintro ⟨region, operand, shown⟩
    simpa only [outcomeEvent, shown.success, vmxon, operand, if_true] using shown
  split
  · rename_i vmxoff
    split
    · exact Or.inl (.vmfailHere vcpu (by decide))
    refine (emulateVmxoff_effect vcpu instruction).imp_right fun shown => ?_
    simpa only [outcomeEvent, shown.success, vmxoff, if_true] using shown
  split
  · exact Or.inl (.vmfailHere vcpu (by decide))
  rename_i inOperation
  have on : vcpu.vmxonActive = true := Bool.eq_true_of_not_eq_false inOperation
  split
  case _ opcode =>
    refine (emulateVmclear_effect vcpu instruction on).imp_right ?_
    rintro ⟨region, operand, shown⟩
    simpa only [outcomeEvent, shown.success, opcode, operand, if_true] using shown
  case _ opcode =>
    refine (emulateVmptrld_effect vcpu instruction on).imp_right ?_
    rintro ⟨region, operand, shown⟩
    simpa only [outcomeEvent, shown.success, opcode, operand, if_true] using shown
  case _ opcode =>
    refine (emulateVmptrst_effect vcpu instruction).imp_right fun shown => ?_
    simpa only [outcomeEvent, shown.success, opcode, if_true] using shown
  case _ opcode =>
    refine (emulateVmread_effect vcpu instruction).imp_right fun shown => ?_
    simpa only [outcomeEvent, shown.success, opcode, if_true] using shown
  case _ opcode =>
    refine (emulateVmwrite_effect vcpu instruction).imp_right fun shown => ?_
    simpa only [outcomeEvent, shown.success, opcode, if_true] using shown
  case _ opcode =>
    refine (emulateVmEntry_effect vcpu instruction true on).imp_right fun shown => ?_
    simpa only [outcomeEvent, shown.success, opcode, if_true] using shown
  case _ opcode =>
    refine (emulateVmEntry_effect vcpu instruction false on).imp_right fun shown => ?_
    simpa only [outcomeEvent, shown.success, opcode, if_true, Bool.false_eq_true, if_false] using shown
  case _ opcode =>
    refine (emulateInvept_effect vcpu instruction).imp_right fun shown => ?_
    simpa only [outcomeEvent, shown.success, opcode, if_true] using shown
  case _ opcode =>
    refine (emulateInvvpid_effect vcpu instruction).imp_right fun shown => ?_
    simpa only [outcomeEvent, shown.success, opcode, if_true] using shown
  case _ opcode =>
    refine (emulateVmfunc_effect vcpu instruction).imp_right fun shown => ?_
    simpa only [outcomeEvent, shown.success, opcode, if_true] using shown
  case _ opcode =>
    right
    have shown := @shows_quiet σ vcpu vcpu
      (makeSuccess .ReflectVmexit (instructionLength instruction) instruction.source) rfl rfl id
    simpa only [outcomeEvent, opcode, ite_self] using shown
  · exact Or.inl (.report vcpu (by decide))

/-- The one place that says what a step does: every invariant and every
history argument below is read off this effect. -/
theorem nestedStep_effect (vcpu : NestedVcpu σ) (input : NestedInput σ) :
    NestedEffect (nestedEvent vcpu input) vcpu.control (nestedStep vcpu input).control := by
  cases input with
  | dispatch instruction =>
    cases instruction with
    | none => exact .quiet
    | some instruction =>
      rcases dispatchNestedInstruction_outcome vcpu instruction with refused | shown
      · simp only [nestedEvent, outcomeEvent, if_neg refused.status_ne, nestedStep,
          refused.control_eq]
        exact .quiet
      · exact shown.effect
  | reflect exitRecord =>
    rcases reflectNestedExit_effect vcpu exitRecord with refused | shown
    · simp only [nestedEvent, if_neg refused.status_ne, nestedStep, refused.control_eq]
      exact .quiet
    · simp only [nestedEvent, if_pos shown.success]
      exact shown.effect
  | writeField encoding value =>
    simp only [nestedEvent, nestedStep, control_writeNestedVmcsField]
    exact .quiet
  | guest context => exact .quiet

theorem FieldsFit.step {vcpu : NestedVcpu σ} (fits : FieldsFit vcpu) (input : NestedInput σ) :
    FieldsFit (nestedStep vcpu input) := by
  cases input with
  | dispatch instruction =>
    cases instruction with
    | none => exact fits
    | some instruction =>
      rcases dispatchNestedInstruction_outcome vcpu instruction with refused | shown
      · exact refused.fieldsFit fits
      · exact shown.fields fits
  | reflect exitRecord =>
    rcases reflectNestedExit_effect vcpu exitRecord with refused | shown
    · exact refused.fieldsFit fits
    · exact shown.fields fits
  | writeField encoding value => exact fits.writeNestedVmcsField encoding value
  | guest context => exact fits

end Knhv.Nested
