import Knhv.Nested.Representation
import Knhv.Nested.Returns

namespace Knhv.Nested

variable {σ : Type}

/-- The current VMCS, if there is one, shows this error. -/
def ShowsError (vcpu : NestedVcpu σ) (instructionError : U32) : Prop :=
  ∀ slot, currentVmcs vcpu = some slot →
    readNestedVmcsField vcpu kVmcsFieldInstructionError = some (instructionError.setWidth 64)

/-- The result of an instruction agrees with the error that the vCPU and its
current VMCS keep. -/
structure ErrorAgrees (outcome : NestedResult × NestedVcpu σ) : Prop where
  success : outcome.1.status = .Success →
    outcome.2.instructionError = 0 ∧ ShowsError outcome.2 0
  valid : outcome.1.status = .VmfailValid →
    outcome.1.rflags = kRflagsZero ∧ outcome.1.instructionError ≠ 0 ∧
      outcome.2.instructionError = outcome.1.instructionError ∧
      ShowsError outcome.2 outcome.1.instructionError
  invalid : outcome.1.status = .VmfailInvalid ∨ outcome.1.status = .CapabilityMismatch →
    outcome.1.rflags = kRflagsCarry ∧ outcome.1.instructionError = 0

/-- The error of the vCPU is the one of its current VMCS. -/
def InSync (vcpu : NestedVcpu σ) : Prop := ShowsError vcpu vcpu.instructionError

theorem recordVmInstructionError_error (vcpu : NestedVcpu σ) (instructionError : U32) :
    (recordVmInstructionError vcpu instructionError).instructionError = instructionError := by
  unfold recordVmInstructionError
  dsimp only
  split <;> rfl

theorem recorded_shows (vcpu : NestedVcpu σ) (instructionError : U32) :
    ShowsError (recordVmInstructionError vcpu instructionError) instructionError := by
  intro slot current
  rw [currentVmcs_congr (control_recordVmInstructionError vcpu instructionError)] at current
  exact readNestedVmcsField_recorded current instructionError

theorem inSync_recorded (vcpu : NestedVcpu σ) (instructionError : U32) :
    InSync (recordVmInstructionError vcpu instructionError) := by
  rw [InSync, recordVmInstructionError_error]
  exact recorded_shows vcpu instructionError

theorem inSync_of_no_current {vcpu : NestedVcpu σ} (null : vcpu.currentVmcsGpa = kNoCurrentVmcs) :
    InSync vcpu := by
  intro slot current
  exact absurd null (currentVmcs_eq_some_iff.mp current).1

theorem InSync.makeVmfail {vcpu : NestedVcpu σ} (sync : InSync vcpu) (status : HvStatus)
    (instructionError instructionLength : U32) :
    InSync (makeVmfail vcpu status instructionError instructionLength).2 := by
  unfold Nested.makeVmfail
  split
  · exact inSync_recorded vcpu instructionError
  · exact sync

theorem Returns.inSync {vcpu : NestedVcpu σ} {instruction : VmxInstruction}
    {outcome : NestedResult × NestedVcpu σ} (returns : Returns vcpu instruction outcome)
    (sync : InSync vcpu) : InSync outcome.2 := by
  cases returns with
  | report plain => exact sync
  | @vmfail context _ _ read fails =>
    have kept : InSync (vcpu.withContext context) := sync
    exact kept.makeVmfail _ _ _
  | @unstored context _ stores refused =>
    have kept : InSync (vcpu.withContext context) := sync
    exact kept.makeVmfail _ _ _
  | done callbacks => exact inSync_recorded _ 0
  | kept uncleared stays => exact sync
  | left uncleared leaves => exact inSync_of_no_current rfl

/-- A change of fields keeps the errors in step if it leaves the error field
alone. -/
theorem InSync.of_fields {vcpu after : NestedVcpu σ} (sync : InSync vcpu)
    (current : currentVmcs after = currentVmcs vcpu)
    (error : after.instructionError = vcpu.instructionError)
    (stored : ∀ slot, storedField (after.vmcs slot) kVmcsFieldInstructionError =
      storedField (vcpu.vmcs slot) kVmcsFieldInstructionError) : InSync after := by
  intro slot here
  rw [current] at here
  rw [readNestedVmcsField_congr current fun slot _ => stored slot, error]
  exact sync slot here

theorem InSync.setVmcs {vcpu : NestedVcpu σ} {slot : Fin kNestedVmcsSlots} {vmcs : NestedVmcs12}
    (sync : InSync vcpu) (control : vmcs.control = (vcpu.vmcs slot).control)
    (stored : storedField vmcs kVmcsFieldInstructionError =
      storedField (vcpu.vmcs slot) kVmcsFieldInstructionError) :
    InSync (vcpu.setVmcs slot vmcs) := by
  refine sync.of_fields (currentVmcs_congr (control_setVmcs_same control)) rfl ?_
  intro other
  by_cases same : other = slot
  · subst same
    simp only [NestedVcpu.setVmcs, Function.update_self]
    exact stored
  · simp only [NestedVcpu.setVmcs, Function.update_of_ne same]

theorem InSync.writeNestedVmcsField {vcpu : NestedVcpu σ} (sync : InSync vcpu) (encoding : U32)
    (value : U64) : InSync (writeNestedVmcsField vcpu encoding value).2 := by
  rcases run : Nested.writeNestedVmcsField vcpu encoding value with ⟨made, after⟩
  cases made with
  | false =>
    rw [writeNestedVmcsField_false run]
    exact sync
  | true =>
    obtain ⟨slot, rule, written⟩ := writeNestedVmcsField_true run
    rw [written.after]
    refine sync.setVmcs (control_writeStoredField _ _ _) ?_
    refine storedField_writeStoredField_of_ne ?_ value
    rw [findFieldRule_eq_some.mp written.found]
    exact written.encoding_ne.symm

theorem InSync.reflectNestedExit {vcpu : NestedVcpu σ} (sync : InSync vcpu)
    (exitRecord : Option NestedExitRecord) : InSync (reflectNestedExit vcpu exitRecord).2 := by
  unfold Nested.reflectNestedExit
  dsimp only
  split
  · exact sync
  rename_i record
  split
  · exact sync
  split
  · exact sync
  rename_i slot _
  have recorded : InSync (vcpu.setVmcs slot (recordNestedExit (vcpu.vmcs slot) record)) := by
    refine sync.setVmcs (control_recordNestedExit _ _) ?_
    unfold recordNestedExit
    dsimp only
    rw [storedField_setVmcsReadOnly_of_ne (by decide),
      storedField_setVmcsReadOnly_of_ne (by decide), storedField_setVmcsReadOnly_of_ne (by decide)]
  exact recorded

theorem Reachable.inSync {vcpu : NestedVcpu σ} (reached : Reachable vcpu) : InSync vcpu := by
  induction reached with
  | start => exact inSync_of_no_current rfl
  | @next before _ input ih =>
    cases input with
    | dispatch instruction =>
      cases instruction with
      | none => exact ih
      | some instruction => exact (dispatchNestedInstruction_returns before instruction).inSync ih
    | reflect exitRecord => exact ih.reflectNestedExit exitRecord
    | writeField encoding value => exact ih.writeNestedVmcsField encoding value
    | guest context => exact ih

theorem errorAgrees_vmfail (vcpu : NestedVcpu σ) {status : HvStatus} {error length : U32}
    (fails : Fails status error) : ErrorAgrees (makeVmfail vcpu status error length) := by
  rcases fails with ⟨rfl, named⟩ | rfl | rfl
  · rw [makeVmfail, if_pos rfl]
    refine ⟨nofun, fun _ => ⟨rfl, named, recordVmInstructionError_error vcpu error,
      recorded_shows vcpu error⟩, ?_⟩
    rintro (other | other) <;> cases other
  · rw [makeVmfail, if_neg (by decide)]
    exact ⟨nofun, nofun, fun _ => ⟨rfl, rfl⟩⟩
  · rw [makeVmfail, if_neg (by decide)]
    exact ⟨nofun, nofun, fun _ => ⟨rfl, rfl⟩⟩

theorem errorAgrees_success {result : NestedResult} {vcpu : NestedVcpu σ}
    (success : result.status = .Success) :
    ErrorAgrees (result, vcpu) ↔ vcpu.instructionError = 0 ∧ ShowsError vcpu 0 := by
  constructor
  · exact fun agrees => agrees.success success
  · intro cleared
    refine ⟨fun _ => cleared, fun valid => ?_, fun invalid => ?_⟩
    · cases success.symm.trans valid
    · rcases invalid with invalid | invalid
      · cases success.symm.trans invalid
      · cases success.symm.trans invalid

/-- The error is stale: it was left by an earlier instruction, and this one
succeeds without clearing it. -/
def LeavesStale (vcpu : NestedVcpu σ) (instruction : VmxInstruction) : Prop :=
  Uncleared vcpu instruction ∧ vcpu.instructionError ≠ 0

theorem dispatch_of_uncleared {vcpu : NestedVcpu σ} {instruction : VmxInstruction}
    (uncleared : Uncleared vcpu instruction) :
    (dispatchNestedInstruction vcpu (some instruction)).1.status = .Success ∧
      (dispatchNestedInstruction vcpu (some instruction)).2.instructionError =
        vcpu.instructionError := by
  cases uncleared with
  | register handled opcode registerForm =>
    have run : dispatchNestedInstruction vcpu (some instruction) =
        emulateVmptrst vcpu instruction := by
      simp [dispatchNestedInstruction, handled.valid, handled.on, opcode]
    rw [run, emulateVmptrst, if_pos registerForm]
    exact ⟨rfl, rfl⟩
  | off handled opcode idle =>
    have run : dispatchNestedInstruction vcpu (some instruction) =
        emulateVmxoff vcpu instruction := by
      simp [dispatchNestedInstruction, handled.valid, handled.on, opcode]
    rw [run, emulateVmxoff]
    simp [handled.on, idle, makeSuccess, makeResult]

theorem Returns.errorAgrees {vcpu : NestedVcpu σ} {instruction : VmxInstruction}
    {outcome : NestedResult × NestedVcpu σ} (returns : Returns vcpu instruction outcome)
    (sync : InSync vcpu) (fresh : Uncleared vcpu instruction → vcpu.instructionError = 0) :
    ErrorAgrees outcome := by
  cases returns with
  | report plain =>
    refine ⟨fun success => absurd success plain.1, fun valid => absurd valid plain.2.1, ?_⟩
    rintro (invalid | mismatch)
    · exact absurd invalid plain.2.2.1
    · exact absurd mismatch plain.2.2.2
  | vmfail read fails => exact errorAgrees_vmfail _ fails
  | unstored stores refused => exact errorAgrees_vmfail _ (by decide)
  | done callbacks =>
    exact (errorAgrees_success rfl).mpr ⟨recordVmInstructionError_error _ 0, recorded_shows _ 0⟩
  | kept uncleared stays =>
    have cleared := fresh uncleared
    rw [InSync, cleared] at sync
    exact (errorAgrees_success rfl).mpr ⟨cleared, sync⟩
  | left uncleared leaves =>
    refine (errorAgrees_success rfl).mpr ⟨fresh uncleared, fun slot current => ?_⟩
    exact absurd rfl (currentVmcs_eq_some_iff.mp current).1

/-- Every instruction leaves an error state that agrees with its result, but for
a register VMPTRST and a VMXOFF that meet an error: they succeed and leave it. -/
theorem dispatchNestedInstruction_errorAgrees_iff {vcpu : NestedVcpu σ} (reached : Reachable vcpu)
    (instruction : VmxInstruction) :
    ErrorAgrees (dispatchNestedInstruction vcpu (some instruction)) ↔
      ¬LeavesStale vcpu instruction := by
  constructor
  · rintro agrees ⟨uncleared, stale⟩
    obtain ⟨success, error⟩ := dispatch_of_uncleared uncleared
    exact stale (error.symm.trans (agrees.success success).1)
  · intro fresh
    refine (dispatchNestedInstruction_returns vcpu instruction).errorAgrees reached.inSync ?_
    intro uncleared
    by_contra stale
    exact fresh ⟨uncleared, stale⟩

/-- VMXON on page 1 and a second VMXON, which fails with error 15. -/
def staleTrace : List (NestedInput Unit) := [vmxInstruction .Vmxon 8, vmxInstruction .Vmxon 8]

/-- The failed VMXON itself agrees with its result. -/
theorem errorAgrees_second_vmxon :
    ErrorAgrees (dispatchNestedInstruction (Run.after nestedStep flatVcpu [vmxInstruction .Vmxon 8])
      (some (vmxOperands .Vmxon 8))) := by
  refine (dispatchNestedInstruction_errorAgrees_iff
    ((Reachable.start none flatMemory true).after _) _).mpr ?_
  rintro ⟨uncleared, _⟩
  cases uncleared with
  | register _ opcode _ => exact absurd opcode (by decide)
  | off _ opcode _ => exact absurd opcode (by decide)

/-- The VMXOFF after it succeeds and leaves error 15 on the vCPU. -/
theorem errorAgrees_fails_vmxoff :
    (dispatchNestedInstruction (Run.after nestedStep flatVcpu staleTrace)
        (some (vmxOperands .Vmxoff 0))).1.status = .Success ∧
      (dispatchNestedInstruction (Run.after nestedStep flatVcpu staleTrace)
        (some (vmxOperands .Vmxoff 0))).2.instructionError = 15 ∧
      ¬ErrorAgrees (dispatchNestedInstruction (Run.after nestedStep flatVcpu staleTrace)
        (some (vmxOperands .Vmxoff 0))) := by
  have success : (dispatchNestedInstruction (Run.after nestedStep flatVcpu staleTrace)
      (some (vmxOperands .Vmxoff 0))).1.status = .Success := by decide +kernel
  have error : (dispatchNestedInstruction (Run.after nestedStep flatVcpu staleTrace)
      (some (vmxOperands .Vmxoff 0))).2.instructionError = 15 := by decide +kernel
  refine ⟨success, error, fun agrees => ?_⟩
  have cleared := (agrees.success success).1
  rw [error] at cleared
  exact absurd cleared (by decide)

end Knhv.Nested
