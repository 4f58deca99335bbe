import Mathlib
import Knhv.Vmx.AccessFrame

open Std.Do

set_option mvcgen.warning false

namespace Knhv.Vmx

/-- The fields that deliver an event at the next VM entry. -/
def IsEventField (field : VmcsField) : Prop :=
  field = .controlVmEntryIntrInfoField ∨ field = .controlVmEntryExceptionErrorCode ∨
    field = .controlVmEntryInstructionLength

instance (field : VmcsField) : Decidable (IsEventField field) :=
  inferInstanceAs (Decidable (_ ∨ _))

/-- What an instruction that is not carried out may change: the stop flags, the
event of the next entry and the diagnostics. -/
structure Unchanged (before now : ExitState) : Prop where
  ctx : now.ctx = { before.ctx with abortVm := now.ctx.abortVm, haltVm := now.ctx.haltVm }
  vmcs : ∀ field, ¬IsEventField field → now.vmcs field = before.vmcs field

section

variable {first second third : ExitState}

theorem Unchanged.refl (s : ExitState) : Unchanged s s := ⟨rfl, fun _ _ => rfl⟩

theorem Unchanged.trans (before : Unchanged first second) (after : Unchanged second third) :
    Unchanged first third where
  ctx := by
    have step := after.ctx
    rw [before.ctx] at step
    exact step
  vmcs := fun field other => (after.vmcs field other).trans (before.vmcs field other)

theorem Touched.unchanged {writable : VmcsField → Prop} (touched : Touched writable first second)
    (event : ∀ field, writable field → IsEventField field) : Unchanged first second where
  ctx := by rw [touched.ctx]
  vmcs := fun field other => touched.vmcs field fun allowed => other (event field allowed)

end

section

variable (m : Machine) (before : ExitState)

theorem requestFatalStop_unchanged :
    ⦃fun s => ⌜Unchanged before s⌝⦄ requestFatalStop ⦃⇓ _ s => ⌜Unchanged before s⌝⦄ :=
  spec_intro fun _ unchanged => unchanged.trans ⟨rfl, fun _ _ => rfl⟩

theorem haltVm_unchanged :
    ⦃fun s => ⌜Unchanged before s⌝⦄ haltVm ⦃⇓ _ s => ⌜Unchanged before s⌝⦄ :=
  spec_intro fun _ unchanged => unchanged.trans ⟨rfl, fun _ _ => rfl⟩

theorem modifyVcpu_unchanged (f : VcpuContext → VcpuContext) :
    ⦃fun s => ⌜Unchanged before s⌝⦄ modifyVcpu f ⦃⇓ _ s => ⌜Unchanged before s⌝⦄ :=
  spec_intro fun _ unchanged => unchanged.trans ⟨rfl, fun _ _ => rfl⟩

theorem recordVcpu_unchanged (f : VcpuContext → VcpuContext) :
    ⦃fun s => ⌜Unchanged before s⌝⦄ recordVcpu m f ⦃⇓ _ s => ⌜Unchanged before s⌝⦄ := by
  have record := modifyVcpu_unchanged before
  mvcgen [recordVcpu, record]

theorem vmReadChecked_unchanged (field : VmcsField) :
    ⦃fun s => ⌜Unchanged before s⌝⦄ vmReadChecked m field ⦃⇓ _ s => ⌜Unchanged before s⌝⦄ := by
  refine spec_intro fun s unchanged => unchanged.trans ?_
  have touched := vmReadChecked_touched m (fun _ => False) s field s (Touched.refl s)
  exact Touched.unchanged touched fun _ => False.elim

theorem writeEvent_unchanged (vector : U8) (hasErrorCode : Bool) (errorCode : U32) :
    ⦃fun s => ⌜Unchanged before s⌝⦄ writeAll m (exceptionFields vector hasErrorCode errorCode)
    ⦃⇓ _ s => ⌜Unchanged before s⌝⦄ := by
  refine spec_intro fun s unchanged => unchanged.trans ?_
  have touched := writeAll_touched m IsEventField s (exceptionFields vector hasErrorCode errorCode)
    (by simp [exceptionFields, IsEventField]) s (Touched.refl s)
  exact Touched.unchanged touched fun _ => id

theorem injectGuestException_unchanged (vector : U8) (hasErrorCode : Bool) (errorCode : U32) :
    ⦃fun s => ⌜Unchanged before s⌝⦄ injectGuestException m vector hasErrorCode errorCode
    ⦃⇓ _ s => ⌜Unchanged before s⌝⦄ := by
  have stop := requestFatalStop_unchanged before
  have halt := haltVm_unchanged before
  have event := writeEvent_unchanged m before
  mvcgen [injectGuestException, stop, halt, event]

theorem refuse_unchanged :
    ⦃fun s => ⌜Unchanged before s⌝⦄ refuse m
    ⦃⇓ done s => ⌜done = false ∧ Unchanged before s⌝⦄ := by
  have inject := injectGuestException_unchanged m before
  mvcgen [refuse, inject]

theorem refuseUndefined_unchanged :
    ⦃fun s => ⌜Unchanged before s⌝⦄ refuseUndefined m
    ⦃⇓ done s => ⌜done = false ∧ Unchanged before s⌝⦄ := by
  have inject := injectGuestException_unchanged m before
  mvcgen [refuseUndefined, inject]

theorem giveUp_unchanged :
    ⦃fun s => ⌜Unchanged before s⌝⦄ giveUp ⦃⇓ done s => ⌜done = false ∧ Unchanged before s⌝⦄ :=
  spec_intro fun _ unchanged => ⟨rfl, unchanged.trans ⟨rfl, fun _ _ => rfl⟩⟩

theorem stopVm_unchanged :
    ⦃fun s => ⌜Unchanged before s⌝⦄ stopVm ⦃⇓ done s => ⌜done = false ∧ Unchanged before s⌝⦄ :=
  spec_intro fun _ unchanged => ⟨rfl, unchanged.trans ⟨rfl, fun _ _ => rfl⟩⟩

end

/-- A VMWRITE that failed has written nothing. -/
theorem vmWriteChecked_failed (m : Machine) (field : VmcsField) (value : U64) (before : ExitState) :
    ⦃fun s => ⌜s = before⌝⦄ vmWriteChecked m field value
    ⦃⇓ ok s => ⌜ok = false → Touched (fun _ => False) before s⌝⦄ := by
  have write : ⦃fun s => ⌜s = before⌝⦄ hvVmWrite m field value
      ⦃⇓ flags s => ⌜¬vmxOk flags = true → Touched (fun _ => False) before s⌝⦄ := by
    refine spec_intro fun s same failed => ?_
    subst same
    have flags : ¬vmxOk (m.vmxFlags s.log.length) = true := failed
    refine ⟨rfl, rfl, rfl, rfl, fun other _ => ?_⟩
    simp only [hvVmWrite, flags]
    rfl
  have error := readInstructionError_touched m (fun _ => False) before
  have diagnose := modifyVcpu_touched (fun _ => False) before
  mvcgen [vmWriteChecked, write, error, diagnose]
  case vc1.isTrue s same _ =>
    subst same
    exact Touched.refl s
  case vc3.isFalse.post.success.isTrue =>
    exact fun impossible => absurd impossible (by simp)
  case vc4.isFalse.post.success.isFalse.isTrue.pre failed _ kept _ _ => exact kept failed
  case vc5.diagnoses =>
    refine fun vcpu => Diagnosed.published ?_ _ _ _
    rfl
  case vc7.isFalse.post.success.isFalse.isTrue.post.success.post.success touched =>
    exact touched
  case vc8.isFalse.post.success.isFalse.isFalse failed _ kept _ _ => exact kept failed

/-- A VMWRITE either stores its value and nothing else, or stores nothing. -/
theorem vmWriteChecked_stores (m : Machine) (field : VmcsField) (value : U64)
    (before : ExitState) :
    ⦃fun s => ⌜s = before⌝⦄ vmWriteChecked m field value
    ⦃⇓ ok s => ⌜(ok = true ∧ s.ctx = before.ctx ∧ s.vcpu = before.vcpu ∧
        s.vmcs = Function.update before.vmcs field value) ∨
      (ok = false ∧ Touched (fun _ => False) before s)⌝⦄ := by
  rintro s rfl
  rcases vmWriteChecked_spec m field value s s rfl with ⟨done, flags, _, now⟩ | ⟨failed, _⟩
  · refine Or.inl ⟨done, ?_, ?_, ?_⟩
    all_goals
      rw [now]
      rfl
  · exact Or.inr ⟨failed, vmWriteChecked_failed m field value s s rfl failed⟩

end Knhv.Vmx
