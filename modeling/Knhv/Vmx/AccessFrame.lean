import Mathlib
import Knhv.Vmx.Steering

open Std.Do

set_option mvcgen.warning false

namespace Knhv.Vmx

/-- Only the access diagnostics differ. -/
def Diagnosed (before now : VcpuContext) : Prop :=
  now = { before with
    vmcsWrite := now.vmcsWrite
    vmcsRead := now.vmcsRead
    vmcsFailureCommitState := now.vmcsFailureCommitState
    vmcsFailureReason := now.vmcsFailureReason
    vmcsFailureArg0 := now.vmcsFailureArg0
    vmcsFailureArg1 := now.vmcsFailureArg1
    vmcsDiagnosticValidity := now.vmcsDiagnosticValidity }

/-- What VMREADs and VMWRITEs may leave behind: the record of the accesses, the
diagnostics of those that failed, and other contents of the `writable` fields. -/
structure Touched (writable : VmcsField → Prop) (before now : ExitState) : Prop where
  ctx : now.ctx = before.ctx
  vcpu : Diagnosed before.vcpu now.vcpu
  guestStarted : now.launchGuestStarted = before.launchGuestStarted
  firstVmExitEntered : now.launchFirstVmExitEntered = before.launchFirstVmExitEntered
  vmcs : ∀ field, ¬writable field → now.vmcs field = before.vmcs field

theorem Diagnosed.trans {first second third : VcpuContext} (before : Diagnosed first second)
    (after : Diagnosed second third) : Diagnosed first third := by
  rw [Diagnosed] at before after ⊢
  rw [before] at after
  exact after

theorem Diagnosed.published {before now : VcpuContext} (diagnosed : Diagnosed before now)
    (reason : VmcsFailureReason) (arg0 arg1 : U64) :
    Diagnosed before (publishVmcsFailure reason arg0 arg1 now) := by
  by_cases vacant : now.vmcsFailureCommitState = .empty
  · simp only [publishVmcsFailure, vacant, if_true]
    exact diagnosed.trans rfl
  · simp only [publishVmcsFailure, vacant, if_false]
    exact diagnosed

section

variable {writable : VmcsField → Prop} {first second third : ExitState}

theorem Touched.refl (s : ExitState) : Touched writable s s :=
  ⟨rfl, rfl, rfl, rfl, fun _ _ => rfl⟩

theorem Touched.trans (before : Touched writable first second)
    (after : Touched writable second third) : Touched writable first third where
  ctx := after.ctx.trans before.ctx
  vcpu := before.vcpu.trans after.vcpu
  guestStarted := after.guestStarted.trans before.guestStarted
  firstVmExitEntered := after.firstVmExitEntered.trans before.firstVmExitEntered
  vmcs := fun field fixed => (after.vmcs field fixed).trans (before.vmcs field fixed)

/-- Reads alone leave every field as it is. -/
theorem Touched.vmcs_same (touched : Touched (fun _ => False) first second) :
    second.vmcs = first.vmcs :=
  funext fun field => touched.vmcs field id

end

section

variable (m : Machine) (writable : VmcsField → Prop) (before : ExitState)

theorem modifyVcpu_touched (f : VcpuContext → VcpuContext)
    (diagnoses : ∀ vcpu, Diagnosed vcpu (f vcpu)) :
    ⦃fun s => ⌜Touched writable before s⌝⦄ modifyVcpu f ⦃⇓ _ s => ⌜Touched writable before s⌝⦄ :=
  spec_intro fun s touched => touched.trans ⟨rfl, diagnoses s.vcpu, rfl, rfl, fun _ _ => rfl⟩

theorem hvVmReadChecked_touched (field : VmcsField) :
    ⦃fun s => ⌜Touched writable before s⌝⦄ hvVmReadChecked m field
    ⦃⇓ _ s => ⌜Touched writable before s⌝⦄ :=
  spec_intro fun _ touched => touched.trans ⟨rfl, rfl, rfl, rfl, fun _ _ => rfl⟩

theorem hvVmWrite_touched (field : VmcsField) (value : U64) (allowed : writable field) :
    ⦃fun s => ⌜Touched writable before s⌝⦄ hvVmWrite m field value
    ⦃⇓ _ s => ⌜Touched writable before s⌝⦄ := by
  refine spec_intro fun s touched => touched.trans ⟨rfl, rfl, rfl, rfl, fun other fixed => ?_⟩
  by_cases ok : vmxOk (m.vmxFlags s.log.length) = true
  · have apart : other ≠ field := fun same => fixed (same ▸ allowed)
    simp only [hvVmWrite, ok, if_true]
    exact Function.update_of_ne apart _ _
  · simp only [hvVmWrite, ok]
    rfl

theorem readInstructionError_touched (defined : Bool) :
    ⦃fun s => ⌜Touched writable before s⌝⦄ readInstructionError m defined
    ⦃⇓ _ s => ⌜Touched writable before s⌝⦄ := by
  have read := hvVmReadChecked_touched m writable before
  mvcgen [readInstructionError, read]

theorem vmReadChecked_touched (field : VmcsField) :
    ⦃fun s => ⌜Touched writable before s⌝⦄ vmReadChecked m field
    ⦃⇓ _ s => ⌜Touched writable before s⌝⦄ := by
  have read := hvVmReadChecked_touched m writable before
  have error := readInstructionError_touched m writable before
  have diagnose := modifyVcpu_touched writable before
  mvcgen [vmReadChecked, read, error, diagnose]
  case vc3.diagnoses => exact fun _ => rfl
  case vc6.diagnoses =>
    refine fun vcpu => Diagnosed.published ?_ _ _ _
    rfl
  case vc8.diagnoses => exact fun _ => rfl

theorem vmWriteChecked_touched (field : VmcsField) (value : U64) (allowed : writable field) :
    ⦃fun s => ⌜Touched writable before s⌝⦄ vmWriteChecked m field value
    ⦃⇓ _ s => ⌜Touched writable before s⌝⦄ := by
  have write := hvVmWrite_touched m writable before
  have error := readInstructionError_touched m writable before
  have diagnose := modifyVcpu_touched writable before
  mvcgen [vmWriteChecked, write, error, diagnose]
  case vc6.diagnoses =>
    refine fun vcpu => Diagnosed.published ?_ _ _ _
    rfl

theorem writeAll_touched (writes : List (VmcsField × U64))
    (allowed : ∀ write ∈ writes, writable write.1) :
    ⦃fun s => ⌜Touched writable before s⌝⦄ writeAll m writes
    ⦃⇓ _ s => ⌜Touched writable before s⌝⦄ := by
  induction writes with
  | nil => exact fun s touched => touched
  | cons write rest ih =>
    have later := ih fun other member => allowed other (List.mem_cons_of_mem _ member)
    have first := vmWriteChecked_touched m writable before
    mvcgen [writeAll, first, later]
    case vc1.allowed => exact allowed write List.mem_cons_self

theorem readLocals_touched (fields : List VmcsField) :
    ⦃fun s => ⌜Touched writable before s⌝⦄ readLocals m fields
    ⦃⇓ _ s => ⌜Touched writable before s⌝⦄ := by
  induction fields with
  | nil => exact fun s touched => touched
  | cons field rest ih =>
    have first := vmReadChecked_touched m writable before
    mvcgen [readLocals, first, ih]

theorem readEach_touched (fields : List VmcsField) :
    ⦃fun s => ⌜Touched writable before s⌝⦄ readEach m fields
    ⦃⇓ _ s => ⌜Touched writable before s⌝⦄ := by
  induction fields with
  | nil => exact fun s touched => touched
  | cons field rest ih =>
    have first := vmReadChecked_touched m writable before
    mvcgen [readEach, first, ih]

end

section

variable (m : Machine)

/-- The next access succeeds. -/
def NextOk (s : ExitState) : Prop := vmxOk (m.vmxFlags s.log.length) = true

instance (s : ExitState) : Decidable (NextOk m s) := inferInstanceAs (Decidable (_ = _))

/-- So do the next `count` ones. -/
def AllOk (count : Nat) (s : ExitState) : Prop :=
  ∀ k < count, vmxOk (m.vmxFlags (s.log.length + k)) = true

instance (count : Nat) (s : ExitState) : Decidable (AllOk m count s) :=
  inferInstanceAs (Decidable (∀ k < count, _))

theorem allOk_succ {count : Nat} {s : ExitState} (access : VmcsAccess) :
    AllOk m (count + 1) s ↔ NextOk m s ∧ AllOk m count { s with log := s.log ++ [access] } := by
  constructor
  · intro all
    refine ⟨all 0 (by omega), fun k inside => ?_⟩
    have here := all (k + 1) (by omega)
    simp only [List.length_append, List.length_singleton]
    rwa [show s.log.length + 1 + k = s.log.length + (k + 1) by omega]
  · rintro ⟨first, later⟩ k inside
    cases k with
    | zero => exact first
    | succ k =>
      have here := later k (by omega)
      simp only [List.length_append, List.length_singleton] at here
      rwa [show s.log.length + 1 + k = s.log.length + (k + 1) by omega] at here

theorem vmReadChecked_succeeded {s : ExitState} (ok : NextOk m s) (field : VmcsField) :
    vmReadChecked m field s =
      (some (s.vmcs field), { s with log := s.log ++ [⟨field, none, m.vmxFlags s.log.length⟩] }) := by
  have flags : vmxOk (m.vmxFlags s.log.length) = true := ok
  simp only [vmReadChecked, hvVmReadChecked, bind, StateT.bind, flags, if_true]
  rfl

theorem vmReadChecked_failed {s : ExitState} (failed : ¬NextOk m s) (field : VmcsField) :
    (vmReadChecked m field s).1 = none := by
  have flags : ¬vmxOk (m.vmxFlags s.log.length) = true := failed
  have read : ⦃fun now => ⌜now = s⌝⦄ hvVmReadChecked m field
      ⦃⇓ result _ => ⌜¬vmxOk result.1 = true⌝⦄ := by
    rintro now rfl
    exact flags
  have answer : ⦃fun now => ⌜now = s⌝⦄ vmReadChecked m field ⦃⇓ value _ => ⌜value = none⌝⦄ := by
    have error (defined : Bool) :
        ⦃fun _ => ⌜True⌝⦄ readInstructionError m defined ⦃⇓ _ _ => ⌜True⌝⦄ := fun _ _ => trivial
    mvcgen [vmReadChecked, read, error, modifyVcpu]
  exact answer s rfl

/-- A chain of reads into locals answers the contents of its fields if all its
accesses succeed, and nothing otherwise. -/
theorem readLocals_succeeded {fields : List VmcsField} {s : ExitState}
    (all : AllOk m fields.length s) :
    ∃ values log, readLocals m fields s = (some values, { s with log := log }) ∧
      ∀ field ∈ fields, values field = s.vmcs field := by
  induction fields generalizing s with
  | nil => exact ⟨fun _ => 0, s.log, rfl, fun _ member => absurd member List.not_mem_nil⟩
  | cons field rest ih =>
    obtain ⟨first, later⟩ := (allOk_succ m ⟨field, none, m.vmxFlags s.log.length⟩).mp all
    obtain ⟨values, log, run, contents⟩ := ih later
    refine ⟨Function.update values field (s.vmcs field), log, ?_, fun other member => ?_⟩
    · simp only [readLocals, bind, StateT.bind, vmReadChecked_succeeded m first field, run]
      rfl
    · by_cases here : other = field
      · rw [here, Function.update_self]
      · rw [Function.update_of_ne here]
        exact contents other ((List.mem_cons.mp member).resolve_left here)

theorem readLocals_failed {fields : List VmcsField} {s : ExitState}
    (failed : ¬AllOk m fields.length s) : (readLocals m fields s).1 = none := by
  induction fields generalizing s with
  | nil => exact absurd (fun k inside => absurd inside (Nat.not_lt_zero k)) failed
  | cons field rest ih =>
    by_cases first : NextOk m s
    · have later := ih fun all => failed
        ((allOk_succ m ⟨field, none, m.vmxFlags s.log.length⟩).mpr ⟨first, all⟩)
      simp only [readLocals, bind, StateT.bind, vmReadChecked_succeeded m first field]
      exact congrArg (Option.map _) later
    · rcases answer : vmReadChecked m field s with ⟨value, now⟩
      obtain rfl : value = none := by
        have failed := vmReadChecked_failed m first field
        rwa [answer] at failed
      simp only [readLocals, bind, StateT.bind, answer]
      rfl

end

end Knhv.Vmx
