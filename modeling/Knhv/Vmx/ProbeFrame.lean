import Mathlib
import Knhv.Vmx.AccessFrame
import Knhv.Vmx.Fatal

open Std.Do

set_option mvcgen.warning false

namespace Knhv.Vmx

/-- An update of the record that leaves the probe alone. -/
def Still (f : VcpuContext → VcpuContext) : Prop :=
  ∀ vcpu, (f vcpu).firstExitProbe = vcpu.firstExitProbe

theorem Touched.probe {writable : VmcsField → Prop} {before now : ExitState}
    (touched : Touched writable before now) :
    now.vcpu.firstExitProbe = before.vcpu.firstExitProbe := by
  have vcpu := touched.vcpu
  rw [Diagnosed] at vcpu
  rw [vcpu]

section

variable (m : Machine) (P : FirstExitProbe → Prop)

theorem modifyCtx_probe (f : GuestContext → GuestContext) :
    ⦃fun s => ⌜P s.vcpu.firstExitProbe⌝⦄ modifyCtx f ⦃⇓ _ s => ⌜P s.vcpu.firstExitProbe⌝⦄ :=
  spec_intro fun _ holds => holds

theorem modifyVcpu_probe (f : VcpuContext → VcpuContext) (still : Still f) :
    ⦃fun s => ⌜P s.vcpu.firstExitProbe⌝⦄ modifyVcpu f ⦃⇓ _ s => ⌜P s.vcpu.firstExitProbe⌝⦄ :=
  spec_intro fun s holds => (congrArg P (still s.vcpu)).mpr holds

theorem recordVcpu_probe (f : VcpuContext → VcpuContext) (still : Still f) :
    ⦃fun s => ⌜P s.vcpu.firstExitProbe⌝⦄ recordVcpu m f ⦃⇓ _ s => ⌜P s.vcpu.firstExitProbe⌝⦄ := by
  have record := modifyVcpu_probe P f still
  mvcgen [recordVcpu, record]

theorem haltVm_probe :
    ⦃fun s => ⌜P s.vcpu.firstExitProbe⌝⦄ haltVm ⦃⇓ _ s => ⌜P s.vcpu.firstExitProbe⌝⦄ :=
  modifyCtx_probe P _

theorem requestFatalStop_probe :
    ⦃fun s => ⌜P s.vcpu.firstExitProbe⌝⦄ requestFatalStop
    ⦃⇓ _ s => ⌜P s.vcpu.firstExitProbe⌝⦄ :=
  modifyCtx_probe P _

theorem giveUp_probe :
    ⦃fun s => ⌜P s.vcpu.firstExitProbe⌝⦄ giveUp ⦃⇓ _ s => ⌜P s.vcpu.firstExitProbe⌝⦄ :=
  spec_intro fun _ holds => holds

theorem stopVm_probe :
    ⦃fun s => ⌜P s.vcpu.firstExitProbe⌝⦄ stopVm ⦃⇓ _ s => ⌜P s.vcpu.firstExitProbe⌝⦄ :=
  spec_intro fun _ holds => holds

/-- What only accesses the VMCS leaves the probe alone. -/
theorem probe_of_touched {α : Type} {x : StateM ExitState α} {writable : VmcsField → Prop}
    (touched : ∀ before, ⦃fun s => ⌜Touched writable before s⌝⦄ x
      ⦃⇓ _ s => ⌜Touched writable before s⌝⦄) :
    ⦃fun s => ⌜P s.vcpu.firstExitProbe⌝⦄ x ⦃⇓ _ s => ⌜P s.vcpu.firstExitProbe⌝⦄ := by
  refine spec_intro fun s holds => ?_
  have after : Touched writable s (x s).2 := touched s s (Touched.refl s)
  rwa [after.probe]

theorem vmReadChecked_probe (field : VmcsField) :
    ⦃fun s => ⌜P s.vcpu.firstExitProbe⌝⦄ vmReadChecked m field
    ⦃⇓ _ s => ⌜P s.vcpu.firstExitProbe⌝⦄ :=
  probe_of_touched P fun before => vmReadChecked_touched m (fun _ => True) before field

theorem vmWriteChecked_probe (field : VmcsField) (value : U64) :
    ⦃fun s => ⌜P s.vcpu.firstExitProbe⌝⦄ vmWriteChecked m field value
    ⦃⇓ _ s => ⌜P s.vcpu.firstExitProbe⌝⦄ :=
  probe_of_touched P fun before =>
    vmWriteChecked_touched m (fun _ => True) before field value trivial

theorem writeAll_probe (writes : List (VmcsField × U64)) :
    ⦃fun s => ⌜P s.vcpu.firstExitProbe⌝⦄ writeAll m writes
    ⦃⇓ _ s => ⌜P s.vcpu.firstExitProbe⌝⦄ :=
  probe_of_touched P fun before =>
    writeAll_touched m (fun _ => True) before writes fun _ _ => trivial

theorem readLocals_probe (fields : List VmcsField) :
    ⦃fun s => ⌜P s.vcpu.firstExitProbe⌝⦄ readLocals m fields
    ⦃⇓ _ s => ⌜P s.vcpu.firstExitProbe⌝⦄ :=
  probe_of_touched P fun before => readLocals_touched m (fun _ => True) before fields

theorem injectGuestException_probe (vector : U8) (hasErrorCode : Bool) (errorCode : U32) :
    ⦃fun s => ⌜P s.vcpu.firstExitProbe⌝⦄ injectGuestException m vector hasErrorCode errorCode
    ⦃⇓ _ s => ⌜P s.vcpu.firstExitProbe⌝⦄ := by
  have stop := requestFatalStop_probe P
  have halt := haltVm_probe P
  have event := writeAll_probe m P
  mvcgen [injectGuestException, stop, halt, event]

theorem refuse_probe :
    ⦃fun s => ⌜P s.vcpu.firstExitProbe⌝⦄ refuse m ⦃⇓ _ s => ⌜P s.vcpu.firstExitProbe⌝⦄ := by
  have inject := injectGuestException_probe m P
  mvcgen [refuse, inject]

theorem refuseUndefined_probe :
    ⦃fun s => ⌜P s.vcpu.firstExitProbe⌝⦄ refuseUndefined m
    ⦃⇓ _ s => ⌜P s.vcpu.firstExitProbe⌝⦄ := by
  have inject := injectGuestException_probe m P
  mvcgen [refuseUndefined, inject]

theorem commit_probe (writes : List (VmcsField × U64)) (store : GuestContext → GuestContext) :
    ⦃fun s => ⌜P s.vcpu.firstExitProbe⌝⦄ commit m writes store
    ⦃⇓ _ s => ⌜P s.vcpu.firstExitProbe⌝⦄ := by
  have write := writeAll_probe m P
  have halt := giveUp_probe P
  have set := modifyCtx_probe P
  mvcgen [commit, write, halt, set]

theorem writeGuestMsr_probe (valid : Bool) (field : Option VmcsField) (value : U64)
    (store : GuestContext → GuestContext) :
    ⦃fun s => ⌜P s.vcpu.firstExitProbe⌝⦄ writeGuestMsr m valid field value store
    ⦃⇓ _ s => ⌜P s.vcpu.firstExitProbe⌝⦄ := by
  have inject := refuse_probe m P
  have done := commit_probe m P
  mvcgen [writeGuestMsr, inject, done]

theorem handleMsrRead_probe :
    ⦃fun s => ⌜P s.vcpu.firstExitProbe⌝⦄ handleMsrRead m
    ⦃⇓ _ s => ⌜P s.vcpu.firstExitProbe⌝⦄ := by
  have inject := refuse_probe m P
  have set := modifyCtx_probe P
  mvcgen [handleMsrRead, inject, set]

theorem handleXssWrite_probe (value : U64) :
    ⦃fun s => ⌜P s.vcpu.firstExitProbe⌝⦄ handleXssWrite m value
    ⦃⇓ _ s => ⌜P s.vcpu.firstExitProbe⌝⦄ := by
  have inject := refuse_probe m P
  have stop := stopVm_probe P
  have set := modifyCtx_probe P
  have record := recordVcpu_probe m P
  have count := modifyVcpu_probe P
  mvcgen [handleXssWrite, rejectXssWrite, inject, stop, set, record, count]
  all_goals exact fun _ => rfl

theorem handleMsrWrite_probe :
    ⦃fun s => ⌜P s.vcpu.firstExitProbe⌝⦄ handleMsrWrite m
    ⦃⇓ _ s => ⌜P s.vcpu.firstExitProbe⌝⦄ := by
  have inject := refuse_probe m P
  have row := writeGuestMsr_probe m P
  have selector := handleXssWrite_probe m P
  mvcgen [handleMsrWrite, inject, row, selector]

theorem setGpr_probe (reg : Nat) (v : U64) :
    ⦃fun s => ⌜P s.vcpu.firstExitProbe⌝⦄ setGpr m reg v
    ⦃⇓ _ s => ⌜P s.vcpu.firstExitProbe⌝⦄ := by
  have set := modifyCtx_probe P
  have write := vmWriteChecked_probe m P
  mvcgen [setGpr, set, write]

theorem storeGpr_probe (gpr : Nat) (value : U64) :
    ⦃fun s => ⌜P s.vcpu.firstExitProbe⌝⦄ storeGpr m gpr value
    ⦃⇓ _ s => ⌜P s.vcpu.firstExitProbe⌝⦄ := by
  have set := setGpr_probe m P
  have halt := haltVm_probe P
  mvcgen [storeGpr, set, halt]

theorem accessCr_probe (qual : U64) :
    ⦃fun s => ⌜P s.vcpu.firstExitProbe⌝⦄ accessCr m qual
    ⦃⇓ _ s => ⌜P s.vcpu.firstExitProbe⌝⦄ := by
  have inject := refuse_probe m P
  have undefined := refuseUndefined_probe m P
  have halt := giveUp_probe P
  have done := commit_probe m P
  have read := vmReadChecked_probe m P
  have locals := readLocals_probe m P
  have store := storeGpr_probe m P
  mvcgen [accessCr, movToCr0, movToCr4, movToCr3, movFromCr, movFromCr4, inject, undefined, halt,
    done, read, locals, store]

theorem handleCrAccess_probe :
    ⦃fun s => ⌜P s.vcpu.firstExitProbe⌝⦄ handleCrAccess m
    ⦃⇓ _ s => ⌜P s.vcpu.firstExitProbe⌝⦄ := by
  have inject := refuse_probe m P
  have halt := giveUp_probe P
  have read := vmReadChecked_probe m P
  have access := accessCr_probe m P
  mvcgen [handleCrAccess, inject, halt, read, access]

theorem handleXsetbv_probe :
    ⦃fun s => ⌜P s.vcpu.firstExitProbe⌝⦄ handleXsetbv m
    ⦃⇓ _ s => ⌜P s.vcpu.firstExitProbe⌝⦄ := by
  have inject := refuse_probe m P
  have undefined := refuseUndefined_probe m P
  have halt := giveUp_probe P
  have stop := stopVm_probe P
  have set := modifyCtx_probe P
  have record := modifyVcpu_probe P
  mvcgen [handleXsetbv, inject, undefined, halt, stop, set, record]
  all_goals exact fun _ => rfl

theorem answerUnload_probe (authenticated : Bool) (exitReason : U32) (s : ExitState) :
    (answerUnload m authenticated exitReason s).vcpu.firstExitProbe = s.vcpu.firstExitProbe := by
  simp only [answerUnload]
  split <;> rfl

theorem handleVmCall_probe :
    ⦃fun s => ⌜P s.vcpu.firstExitProbe⌝⦄ handleVmCall m
    ⦃⇓ _ s => ⌜P s.vcpu.firstExitProbe⌝⦄ := by
  have inject := refuse_probe m P
  have locals := readLocals_probe m P
  have record := modifyVcpu_probe P
  have answered {authenticated : Bool} {exitReason : U32} {s : ExitState}
      (holds : P s.vcpu.firstExitProbe) :
      P (answerUnload m authenticated exitReason s).vcpu.firstExitProbe := by
    rwa [answerUnload_probe]
  mvcgen [handleVmCall, requestAuthenticatedUnload, updateNativeTeardownContract, inject, locals,
    record]
  case vc3.still => exact fun _ => rfl
  case vc6.still => exact fun _ => rfl
  all_goals exact answered ‹P _›

theorem readAvailable_probe (fields : List (VmcsField × (U64 → VcpuContext → VcpuContext)))
    (still : ∀ read ∈ fields, ∀ value, Still (read.2 value)) :
    ⦃fun s => ⌜P s.vcpu.firstExitProbe⌝⦄ readAvailable m fields
    ⦃⇓ _ s => ⌜P s.vcpu.firstExitProbe⌝⦄ := by
  induction fields with
  | nil => exact spec_intro fun _ holds => holds
  | cons read rest ih =>
    obtain ⟨field, store⟩ := read
    have later := ih fun read member => still read (List.mem_cons_of_mem _ member)
    refine spec_intro fun s holds => ?_
    rcases run : vmReadChecked m field s with ⟨value, mid⟩
    have fetched := spec_run (vmReadChecked_probe m P field) holds run
    simp only [readAvailable, bind, StateT.bind, run]
    cases value with
    | none => exact spec_run later fetched rfl
    | some value =>
      refine spec_run later (s := { mid with vcpu := store value mid.vcpu }) ?_ rfl
      rw [still (field, store) List.mem_cons_self value]
      exact fetched

theorem fatalFields_still : ∀ read ∈ fatalFields m, ∀ value, Still (read.2 value) := by
  have all : ∀ read ∈ fatalRegisters ++ fatalEvents ++ fatalMsrs ++ fatalCet,
      ∀ value, Still (read.2 value) := by
    intro read member value vcpu
    fin_cases member <;> rfl
  intro read member
  refine all read ?_
  rw [fatalFields] at member
  cases enabled : m.cetVmcsEnabled
  · rw [enabled] at member
    exact List.mem_append_left _ (by simpa using member)
  · rwa [enabled] at member

theorem recordFatalReason_still (rawReason : U32) (c : GuestContext) :
    Still (recordFatalReason rawReason c) := by
  intro vcpu
  by_cases entry : isEntryFailureReason rawReason = true
  · simp only [recordFatalReason, entry, if_true, setVmcsDiagnosticValidity]
  · simp only [recordFatalReason, entry, setVmcsDiagnosticValidity]
    rfl

theorem captureFatalReason_probe (resumeFailureBoundary : Bool) :
    ⦃fun s => ⌜P s.vcpu.firstExitProbe⌝⦄ captureFatalReason m resumeFailureBoundary
    ⦃⇓ _ s => ⌜P s.vcpu.firstExitProbe⌝⦄ := by
  have read := vmReadChecked_probe m P
  have record (rawReason : U32) (c : GuestContext) :=
    modifyVcpu_probe P (recordFatalReason rawReason c) (recordFatalReason_still rawReason c)
  have forget := modifyVcpu_probe P forgetFatalReason fun _ => rfl
  mvcgen [captureFatalReason, read, record, forget]

theorem captureFatalQualification_probe (reason : Option U32) :
    ⦃fun s => ⌜P s.vcpu.firstExitProbe⌝⦄ captureFatalQualification m reason
    ⦃⇓ _ s => ⌜P s.vcpu.firstExitProbe⌝⦄ := by
  have read := vmReadChecked_probe m P
  have record (value : U64) := modifyVcpu_probe P (recordFatalQualification value) fun _ => rfl
  have clear (bits : U64) := modifyVcpu_probe P (clearVmcsDiagnosticValidity bits) fun _ => rfl
  mvcgen [captureFatalQualification, read, record, clear]

theorem captureFatalGuest_probe (reason : Option U32) :
    ⦃fun s => ⌜P s.vcpu.firstExitProbe⌝⦄ captureFatalGuest m reason
    ⦃⇓ _ s => ⌜P s.vcpu.firstExitProbe⌝⦄ := by
  have gather := readAvailable_probe m P (fatalFields m) (fatalFields_still m)
  have record := modifyVcpu_probe P
  mvcgen [captureFatalGuest, gather, record]
  case vc2 => exact fun _ _ _ => rfl

theorem hvCaptureFatalSnapshotPreVmxoff_probe :
    ⦃fun s => ⌜P s.vcpu.firstExitProbe⌝⦄ hvCaptureFatalSnapshotPreVmxoff m
    ⦃⇓ _ s => ⌜P s.vcpu.firstExitProbe⌝⦄ := by
  have record := modifyVcpu_probe P
  have reason := captureFatalReason_probe m P
  have qualification := captureFatalQualification_probe m P
  have guest := captureFatalGuest_probe m P
  mvcgen [hvCaptureFatalSnapshotPreVmxoff, record, reason, qualification, guest]
  all_goals exact fun _ => rfl

end

end Knhv.Vmx
