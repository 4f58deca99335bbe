import Knhv.Lib.Run
import Knhv.Nested.GuestBytes
import Knhv.Nested.StoredFields

namespace Knhv.Nested

variable {σ : Type}

/-- A status that is reported without touching the flags. -/
def PlainStatus (status : HvStatus) : Prop :=
  status ≠ .Success ∧ status ≠ .VmfailValid ∧ status ≠ .VmfailInvalid ∧
    status ≠ .CapabilityMismatch

instance (status : HvStatus) : Decidable (PlainStatus status) :=
  inferInstanceAs (Decidable (_ ∧ _))

/-- A VMfail as the handlers make it: one that is valid names an error. -/
def Fails (status : HvStatus) (error : U32) : Prop :=
  status = .VmfailValid ∧ error ≠ 0 ∨ status = .VmfailInvalid ∨ status = .CapabilityMismatch

instance (status : HvStatus) (error : U32) : Decidable (Fails status error) :=
  inferInstanceAs (Decidable (_ ∨ _))

/-- The instruction gets as far as its handler. -/
structure Handled (vcpu : NestedVcpu σ) (instruction : VmxInstruction) : Prop where
  valid : instructionIsValid instruction = true
  on : vcpu.vmxonActive = true

/-- The instruction comes to store a word in guest memory. -/
structure Stores (vcpu : NestedVcpu σ) (instruction : VmxInstruction) (value : U64) : Prop where
  handled : Handled vcpu instruction
  memoryForm : instruction.flags &&& kInstructionOperandIsRegister = 0
  word : instruction.opcode = .Vmptrst ∧ value = vcpu.currentVmcsGpa ∨
    instruction.opcode = .Vmread ∧ readNestedVmcsField vcpu instruction.encoding = some value
  canonical : isLinearRangeCanonical vcpu instruction.destination 8 = true

/-- The two instructions that succeed without clearing the error. -/
inductive Uncleared (vcpu : NestedVcpu σ) (instruction : VmxInstruction) : Prop
  | register (handled : Handled vcpu instruction) (opcode : instruction.opcode = .Vmptrst)
      (registerForm : instruction.flags &&& kInstructionOperandIsRegister ≠ 0)
  | off (handled : Handled vcpu instruction) (opcode : instruction.opcode = .Vmxoff)
      (idle : vcpu.l2Running = false)

/-- The memory callbacks are the ones the vCPU was set up with. -/
def SameCallbacks (vcpu after : NestedVcpu σ) : Prop :=
  after.memory = { vcpu.memory with context := after.memory.context }

/-- Everything that a dispatched instruction can return. -/
inductive Returns (vcpu : NestedVcpu σ) (instruction : VmxInstruction) :
    NestedResult × NestedVcpu σ → Prop
  | report {status action} (plain : PlainStatus status) :
      Returns vcpu instruction
        (makeResult status action 0 (instructionLength instruction) 0 0, vcpu)
  | vmfail {context status error} (read : Unwritten vcpu.memory context)
      (fails : Fails status error) :
      Returns vcpu instruction
        (makeVmfail (vcpu.withContext context) status error (instructionLength instruction))
  | unstored {context value} (stores : Stores vcpu instruction value)
      (refused : writeLinear vcpu.memory instruction.destination (storeWord value) 8 =
        (false, context)) :
      Returns vcpu instruction
        (makeVmfail (vcpu.withContext context) .VmfailInvalid kErrorInvalidOperand
          (instructionLength instruction))
  | done {after action value} (callbacks : SameCallbacks vcpu after) :
      Returns vcpu instruction
        (makeSuccess action (instructionLength instruction) value, clearVmInstructionError after)
  | kept {value} (uncleared : Uncleared vcpu instruction) (stays : instruction.opcode = .Vmptrst) :
      Returns vcpu instruction
        (makeSuccess .ResumeL1 (instructionLength instruction) value, vcpu)
  | left (uncleared : Uncleared vcpu instruction) (leaves : instruction.opcode = .Vmxoff) :
      Returns vcpu instruction
        (makeSuccess .ResumeL1 (instructionLength instruction),
          { vcpu with
            vmxonActive := false
            l2Running := false
            currentVmcsGpa := kNoCurrentVmcs
            generation := vcpu.generation + 1 })

theorem Returns.vmfailHere {vcpu : NestedVcpu σ} {instruction : VmxInstruction} {status : HvStatus}
    {error : U32} (fails : Fails status error) :
    Returns vcpu instruction (makeVmfail vcpu status error (instructionLength instruction)) :=
  .vmfail (Unwritten.here _) fails

theorem validated_unwritten {vcpu : NestedVcpu σ} {operandLinear : U64} {region : Option U64}
    {context : σ} (run : validateVmxRegion vcpu operandLinear = (region, context)) :
    Unwritten vcpu.memory context := by
  have read := validateVmxRegion_unwritten vcpu operandLinear
  rw [run] at read
  exact read

theorem described_unwritten {vcpu : NestedVcpu σ} {instruction : VmxInstruction}
    {descriptor : Option (U64 × U64)} {context : σ}
    (run : readDescriptor vcpu instruction = (descriptor, context)) :
    Unwritten vcpu.memory context := by
  have read := readDescriptor_unwritten vcpu instruction
  rw [run] at read
  exact read

theorem allocateVmcs_memory {vcpu after : NestedVcpu σ} {region : U64}
    {slot : Option (Fin kNestedVmcsSlots)} (run : allocateVmcs vcpu region = (slot, after)) :
    after.memory = vcpu.memory := by
  unfold allocateVmcs at run
  split at run
  · cases run
    rfl
  split at run
  · cases run
    rfl
  · cases run
    rfl

theorem writeNestedVmcsField_memory {vcpu after : NestedVcpu σ} {encoding : U32} {value : U64}
    {made : Bool} (run : writeNestedVmcsField vcpu encoding value = (made, after)) :
    after.memory = vcpu.memory := by
  unfold writeNestedVmcsField at run
  split at run
  · dsimp only at run
    split at run
    · cases run
      rfl
    · cases run
      rfl
  · cases run
    rfl

theorem SameCallbacks.of_context {vcpu after : NestedVcpu σ} {context : σ}
    (same : after.memory = (vcpu.withContext context).memory) : SameCallbacks vcpu after := by
  rw [SameCallbacks, same]
  rfl

theorem emulateVmxon_returns (vcpu : NestedVcpu σ) (instruction : VmxInstruction) :
    Returns vcpu instruction (emulateVmxon vcpu instruction) := by
  unfold emulateVmxon
  dsimp only
  split
  · exact .vmfailHere (by decide)
  split
  · exact .report (by decide)
  split
  · rename_i context run
    exact .vmfail (validated_unwritten run) (by decide)
  · exact .done rfl

theorem emulateVmxoff_returns {vcpu : NestedVcpu σ} {instruction : VmxInstruction}
    (handled : Handled vcpu instruction) (opcode : instruction.opcode = .Vmxoff) :
    Returns vcpu instruction (emulateVmxoff vcpu instruction) := by
  unfold emulateVmxoff
  dsimp only
  split
  · exact .vmfailHere (by decide)
  split
  · exact .report (by decide)
  rename_i idle
  exact .left (.off handled opcode (Bool.eq_false_iff.mpr idle)) opcode

theorem emulateVmclear_returns (vcpu : NestedVcpu σ) (instruction : VmxInstruction) :
    Returns vcpu instruction (emulateVmclear vcpu instruction) := by
  unfold emulateVmclear
  dsimp only
  split
  · exact .report (by decide)
  split
  · rename_i context run
    exact .vmfail (validated_unwritten run) (by decide)
  rename_i region context run
  split
  · exact .vmfail (validated_unwritten run) (by decide)
  split
  · rename_i after full
    rw [allocateVmcs_none full]
    exact .vmfail (validated_unwritten run) (by decide)
  rename_i slot after found
  have memory := allocateVmcs_memory found
  exact .done (SameCallbacks.of_context memory)

theorem emulateVmptrld_returns (vcpu : NestedVcpu σ) (instruction : VmxInstruction) :
    Returns vcpu instruction (emulateVmptrld vcpu instruction) := by
  unfold emulateVmptrld
  dsimp only
  split
  · rename_i context run
    exact .vmfail (validated_unwritten run) (by decide)
  rename_i region context run
  split
  · exact .vmfail (validated_unwritten run) (by decide)
  split
  · rename_i after full
    rw [allocateVmcs_none full]
    exact .vmfail (validated_unwritten run) (by decide)
  rename_i slot after found
  split
  · -- a slot that is active was there before: a new one starts clear
    rename_i busy
    rw [allocateVmcs_active found busy.1]
    exact .vmfail (validated_unwritten run) (by decide)
  · have memory := allocateVmcs_memory found
    exact .done (SameCallbacks.of_context memory)

/-- The end that the two stores share. -/
theorem store_returns {vcpu : NestedVcpu σ} {instruction : VmxInstruction} {value : U64}
    (handled : Handled vcpu instruction)
    (memoryForm : instruction.flags &&& kInstructionOperandIsRegister = 0)
    (word : instruction.opcode = .Vmptrst ∧ value = vcpu.currentVmcsGpa ∨
      instruction.opcode = .Vmread ∧ readNestedVmcsField vcpu instruction.encoding = some value) :
    Returns vcpu instruction
      (if !isLinearRangeCanonical vcpu instruction.destination 8 then
        makeVmfail vcpu .VmfailInvalid kErrorInvalidOperand (instructionLength instruction)
      else
        match writeLinear vcpu.memory instruction.destination (storeWord value) 8 with
        | (false, context) =>
          makeVmfail (vcpu.withContext context) .VmfailInvalid kErrorInvalidOperand
            (instructionLength instruction)
        | (true, context) =>
          (makeSuccess .ResumeL1 (instructionLength instruction),
            clearVmInstructionError (vcpu.withContext context))) := by
  split
  · exact .vmfailHere (by decide)
  rename_i canonical
  rw [Bool.not_eq_true', Bool.not_eq_false] at canonical
  split
  · rename_i context run
    exact .unstored ⟨handled, memoryForm, word, canonical⟩ run
  · exact .done rfl

theorem emulateVmptrst_returns {vcpu : NestedVcpu σ} {instruction : VmxInstruction}
    (handled : Handled vcpu instruction) (opcode : instruction.opcode = .Vmptrst) :
    Returns vcpu instruction (emulateVmptrst vcpu instruction) := by
  unfold emulateVmptrst
  dsimp only
  split
  · rename_i registerForm
    exact .kept (.register handled opcode registerForm) opcode
  · rename_i memoryForm
    exact store_returns handled (not_not.mp memoryForm) (Or.inl ⟨opcode, rfl⟩)

theorem emulateVmread_returns {vcpu : NestedVcpu σ} {instruction : VmxInstruction}
    (handled : Handled vcpu instruction) (opcode : instruction.opcode = .Vmread) :
    Returns vcpu instruction (emulateVmread vcpu instruction) := by
  unfold emulateVmread
  dsimp only
  split
  · exact .vmfailHere (by decide)
  rename_i value here
  split
  · exact .done rfl
  · rename_i memoryForm
    exact store_returns handled (not_not.mp memoryForm) (Or.inr ⟨opcode, here⟩)

theorem emulateVmwrite_returns (vcpu : NestedVcpu σ) (instruction : VmxInstruction) :
    Returns vcpu instruction (emulateVmwrite vcpu instruction) := by
  unfold emulateVmwrite
  dsimp only
  split
  · split
    · exact .vmfailHere (by decide)
    split
    · rename_i after run
      rw [writeNestedVmcsField_false run]
      exact .vmfailHere (by decide)
    · rename_i after run
      have memory := writeNestedVmcsField_memory run
      exact .done (SameCallbacks.of_context memory)
  · exact .vmfailHere (by decide)

theorem emulateVmEntry_returns (vcpu : NestedVcpu σ) (instruction : VmxInstruction)
    (launch : Bool) : Returns vcpu instruction (emulateVmEntry vcpu instruction launch) := by
  unfold emulateVmEntry
  dsimp only
  split
  · exact .vmfailHere (Or.inr (Or.inl rfl))
  split
  · exact .vmfailHere (by decide)
  split
  · exact .vmfailHere (by decide)
  split
  · exact .vmfailHere (by decide)
  · exact .done rfl

theorem emulateInvept_returns (vcpu : NestedVcpu σ) (instruction : VmxInstruction) :
    Returns vcpu instruction (emulateInvept vcpu instruction) := by
  unfold emulateInvept
  dsimp only
  split
  · exact .report (by decide)
  split
  · rename_i context run
    exact .vmfail (described_unwritten run) (by decide)
  rename_i run
  split
  · exact .vmfail (described_unwritten run) (by decide)
  · exact .done rfl

theorem emulateInvvpid_returns (vcpu : NestedVcpu σ) (instruction : VmxInstruction) :
    Returns vcpu instruction (emulateInvvpid vcpu instruction) := by
  unfold emulateInvvpid
  dsimp only
  split
  · exact .report (by decide)
  split
  · rename_i context run
    exact .vmfail (described_unwritten run) (by decide)
  rename_i run
  split
  · exact .vmfail (described_unwritten run) (by decide)
  · exact .done rfl

theorem emulateVmfunc_returns (vcpu : NestedVcpu σ) (instruction : VmxInstruction) :
    Returns vcpu instruction (emulateVmfunc vcpu instruction) := by
  unfold emulateVmfunc
  dsimp only
  split
  · exact .report (by decide)
  split
  · exact .report (by decide)
  split
  · exact .vmfailHere (by decide)
  · exact .done rfl

/-- Every return of the dispatcher is one of the six kinds. -/
theorem dispatchNestedInstruction_returns (vcpu : NestedVcpu σ) (instruction : VmxInstruction) :
    Returns vcpu instruction (dispatchNestedInstruction vcpu (some instruction)) := by
  simp only [dispatchNestedInstruction]
  split
  · exact .report (by decide)
  rename_i checked
  have valid : instructionIsValid instruction = true := by simpa using checked
  split
  · exact emulateVmxon_returns vcpu instruction
  split
  · rename_i opcode
    split
    · exact .vmfailHere (by decide)
    rename_i on
    exact emulateVmxoff_returns ⟨valid, Bool.eq_true_of_not_eq_false on⟩ opcode
  split
  · exact .vmfailHere (by decide)
  rename_i on
  have handled : Handled vcpu instruction := ⟨valid, Bool.eq_true_of_not_eq_false on⟩
  split
  · exact emulateVmclear_returns vcpu instruction
  · exact emulateVmptrld_returns vcpu instruction
  · rename_i opcode
    exact emulateVmptrst_returns handled opcode
  · rename_i opcode
    exact emulateVmread_returns handled opcode
  · exact emulateVmwrite_returns vcpu instruction
  · exact emulateVmEntry_returns vcpu instruction true
  · exact emulateVmEntry_returns vcpu instruction false
  · exact emulateInvept_returns vcpu instruction
  · exact emulateInvvpid_returns vcpu instruction
  · exact emulateVmfunc_returns vcpu instruction
  · exact .done rfl
  · exact .report (by decide)

theorem SameCallbacks.makeVmfail {vcpu after : NestedVcpu σ} (same : SameCallbacks vcpu after)
    (status : HvStatus) (error length : U32) :
    SameCallbacks vcpu (makeVmfail after status error length).2 := by
  unfold Nested.makeVmfail
  split
  · rw [SameCallbacks, recordVmInstructionError_memory]
    exact same
  · exact same

theorem Returns.callbacks {vcpu : NestedVcpu σ} {instruction : VmxInstruction}
    {outcome : NestedResult × NestedVcpu σ} (returns : Returns vcpu instruction outcome) :
    SameCallbacks vcpu outcome.2 := by
  cases returns with
  | report plain => exact rfl
  | @vmfail context _ _ read fails =>
    have same : SameCallbacks vcpu (vcpu.withContext context) := rfl
    exact same.makeVmfail _ _ _
  | @unstored context _ stores refused =>
    have same : SameCallbacks vcpu (vcpu.withContext context) := rfl
    exact same.makeVmfail _ _ _
  | done callbacks =>
    rw [SameCallbacks, clearVmInstructionError, recordVmInstructionError_memory]
    exact callbacks
  | kept uncleared stays => exact rfl
  | left uncleared leaves => exact rfl

theorem nestedStep_callbacks (vcpu : NestedVcpu σ) (input : NestedInput σ) :
    SameCallbacks vcpu (nestedStep vcpu input) := by
  cases input with
  | dispatch instruction =>
    cases instruction with
    | none => exact rfl
    | some instruction => exact (dispatchNestedInstruction_returns vcpu instruction).callbacks
  | reflect exitRecord =>
    simp only [nestedStep, reflectNestedExit]
    split
    · exact rfl
    split
    · exact rfl
    split
    · exact rfl
    · exact rfl
  | writeField encoding value =>
    rcases run : writeNestedVmcsField vcpu encoding value with ⟨made, after⟩
    have memory := writeNestedVmcsField_memory run
    simp only [nestedStep, run]
    exact SameCallbacks.of_context memory
  | guest context => exact rfl

/-- What backs the callbacks of a vCPU does so through every run. -/
theorem Backs.after {vcpu : NestedVcpu σ} {bytes : σ → U64 → U8} (backs : Backs vcpu.memory bytes)
    (inputs : List (NestedInput σ)) : Backs (Run.after nestedStep vcpu inputs).memory bytes := by
  refine Run.invariant_always (P := fun reached : NestedVcpu σ => Backs reached.memory bytes) ?_ backs inputs
  intro before input backed
  rw [nestedStep_callbacks before input]
  exact ⟨backed.translate, backed.read, backed.refused, backed.written⟩

end Knhv.Nested
