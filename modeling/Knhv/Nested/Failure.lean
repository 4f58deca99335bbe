import Knhv.Nested.Representation
import Knhv.Nested.TornStore

namespace Knhv.Nested

variable {σ : Type}

/-- Nothing that can be observed has changed, but for the error that a
`VmfailValid` leaves on the vCPU and in its current VMCS. -/
structure Unchanged (bytes : σ → U64 → U8) (vcpu : NestedVcpu σ)
    (outcome : NestedResult × NestedVcpu σ) : Prop where
  guest : bytes outcome.2.memory.context = bytes vcpu.memory.context
  callbacks : outcome.2.memory = { vcpu.memory with context := outcome.2.memory.context }
  registers : { outcome.2 with
    memory := vcpu.memory, instructionError := vcpu.instructionError, vmcs := vcpu.vmcs } = vcpu
  slots : ∀ slot, { outcome.2.vmcs slot with fields := (vcpu.vmcs slot).fields } = vcpu.vmcs slot
  fields : ∀ slot index,
    (outcome.2.vmcs slot).fields index = (vcpu.vmcs slot).fields index ∨
      currentVmcs vcpu = some slot ∧
        ∃ rule, findFieldRule kVmcsFieldInstructionError = some rule ∧ index = fieldIndex rule
  error : outcome.1.status ≠ .VmfailValid →
    outcome.2.instructionError = vcpu.instructionError ∧ outcome.2.vmcs = vcpu.vmcs

/-- The store that goes wrong: it crosses a page, its first part is written and
changes a byte, and its second part is refused. -/
structure TornStore (bytes : σ → U64 → U8) (vcpu : NestedVcpu σ) (instruction : VmxInstruction)
    (value : U64) : Prop where
  stores : Stores vcpu instruction value
  crosses : pageChunk instruction.destination 8 ≠ 8
  first : (storePart vcpu.memory instruction.destination
    ((storeWord value).take (pageChunk instruction.destination 8).toNat)
    vcpu.memory.context).1 = true
  changes : ∃ guestPhysical,
    (translateLinear vcpu.memory instruction.destination .Write).1 = some guestPhysical ∧
      overwrite (bytes vcpu.memory.context) guestPhysical
        ((storeWord value).take (pageChunk instruction.destination 8).toNat) ≠
          bytes vcpu.memory.context
  second : (storePart vcpu.memory
    (instruction.destination + (pageChunk instruction.destination 8).setWidth 64)
    ((storeWord value).drop (pageChunk instruction.destination 8).toNat)
    (storePart vcpu.memory instruction.destination
      ((storeWord value).take (pageChunk instruction.destination 8).toNat)
      vcpu.memory.context).2).1 = false

theorem setVmcsReadOnly_fields (vmcs : NestedVmcs12) (encoding : U32) (value : U64) :
    { setVmcsReadOnly vmcs encoding value with fields := vmcs.fields } = vmcs := by
  unfold setVmcsReadOnly
  split <;> rfl

theorem setVmcsReadOnly_index (vmcs : NestedVmcs12) (encoding : U32) (value : U64)
    (index : Fin kNestedVmcsFields) :
    (setVmcsReadOnly vmcs encoding value).fields index = vmcs.fields index ∨
      ∃ rule, findFieldRule encoding = some rule ∧ index = fieldIndex rule := by
  unfold setVmcsReadOnly
  split
  · exact Or.inl rfl
  · rename_i rule found
    by_cases same : index = fieldIndex rule
    · exact Or.inr ⟨rule, found, same⟩
    · exact Or.inl (Function.update_of_ne same _ _)

theorem recordVmInstructionError_registers (vcpu : NestedVcpu σ) (instructionError : U32) :
    { recordVmInstructionError vcpu instructionError with
      memory := vcpu.memory, instructionError := vcpu.instructionError, vmcs := vcpu.vmcs } =
      vcpu := by
  unfold recordVmInstructionError
  dsimp only
  split <;> rfl

/-- A VMfail keeps everything but the error, if it comes to memory with the
bytes it found. -/
theorem unchanged_makeVmfail {bytes : σ → U64 → U8} {vcpu : NestedVcpu σ} {context : σ}
    (same : bytes context = bytes vcpu.memory.context) (status : HvStatus) (error length : U32) :
    Unchanged bytes vcpu (makeVmfail (vcpu.withContext context) status error length) := by
  unfold makeVmfail
  split
  · have memory := recordVmInstructionError_memory (vcpu.withContext context) error
    refine ⟨?_, ?_, ?_, fun slot => ?_, fun slot index => ?_, fun invalid => absurd ‹_› invalid⟩
    · dsimp only
      rw [memory]
      exact same
    · dsimp only
      rw [memory]
      rfl
    · have kept := recordVmInstructionError_registers (vcpu.withContext context) error
      exact congrArg (fun vcpu' : NestedVcpu σ => { vcpu' with memory := vcpu.memory }) kept
    · dsimp only
      rw [recordVmInstructionError_vmcs]
      split
      · exact setVmcsReadOnly_fields _ _ _
      · rfl
    · dsimp only
      rw [recordVmInstructionError_vmcs]
      split
      · rename_i current
        rcases setVmcsReadOnly_index (vcpu.vmcs slot) kVmcsFieldInstructionError
          (error.setWidth 64) index with kept | field
        · exact Or.inl kept
        · exact Or.inr ⟨current, field⟩
      · exact Or.inl rfl
  · exact ⟨same, rfl, rfl, fun _ => rfl, fun _ _ => Or.inl rfl, fun _ => ⟨rfl, rfl⟩⟩

/-- What a part of a store does to the bytes. -/
theorem storePart_bytes {memory : NestedMemory σ} {bytes : σ → U64 → U8}
    (backs : Backs memory bytes) (linear : U64) (part : List U8) (context : σ) :
    (storePart memory linear part context).1 = false ∧
        bytes (storePart memory linear part context).2 = bytes context ∨
      (storePart memory linear part context).1 = true ∧ ∃ guestPhysical,
        (translateLinear { memory with context } linear .Write).1 = some guestPhysical ∧
        bytes (storePart memory linear part context).2 =
          overwrite (bytes context) guestPhysical part := by
  have looked := backs.translateLinear context linear .Write
  unfold storePart
  split
  · rename_i after run
    rw [run] at looked
    exact Or.inl ⟨rfl, looked⟩
  rename_i guestPhysical after run
  rw [run] at looked
  split
  · exact Or.inl ⟨rfl, looked⟩
  rename_i write here
  cases made : (write after guestPhysical part).1 with
  | false => exact Or.inl ⟨rfl, (backs.refused here after guestPhysical part made).trans looked⟩
  | true =>
    refine Or.inr ⟨rfl, guestPhysical, by rw [run], ?_⟩
    rw [backs.written here after guestPhysical part made]
    exact congrArg (overwrite · guestPhysical part) looked

theorem storeWord_length (value : U64) : (storeWord value).length = 8 := by
  simp [storeWord]

theorem room_of_canonical {vcpu : NestedVcpu σ} {linear : U64}
    (canonical : isLinearRangeCanonical vcpu linear 8 = true) : ¬~~~0 - 7 < linear := by
  intro wraps
  have last : ((8 : U32) - 1).setWidth 64 = (7 : U64) := by decide
  rw [isLinearRangeCanonical, if_neg (by decide), last, if_pos wraps] at canonical
  cases canonical

/-- A store that fails has changed memory exactly if it is torn. -/
theorem writeLinear_refused {bytes : σ → U64 → U8} {vcpu : NestedVcpu σ}
    {instruction : VmxInstruction} {value : U64} {context : σ}
    (backs : Backs vcpu.memory bytes) (stores : Stores vcpu instruction value)
    (refused : writeLinear vcpu.memory instruction.destination (storeWord value) 8 =
      (false, context)) :
    bytes context = bytes vcpu.memory.context ∨ TornStore bytes vcpu instruction value := by
  cases writes : vcpu.memory.write with
  | none =>
    rw [writeLinear, writes] at refused
    cases refused
    exact Or.inl rfl
  | some write =>
    cases translates : vcpu.memory.translate with
    | none =>
      rw [writeLinear, writes, translates] at refused
      cases refused
      exact Or.inl rfl
    | some translate =>
      rw [writeLinear_eight translates writes (room_of_canonical stores.canonical)
        (storeWord_length value)] at refused
      split at refused
      · rcases storePart_bytes backs instruction.destination (storeWord value)
          vcpu.memory.context with ⟨_, same⟩ | ⟨made, _⟩
        · rw [refused] at same
          exact Or.inl same
        · rw [refused] at made
          cases made
      · rename_i crosses
        rcases storePart_bytes backs instruction.destination
          ((storeWord value).take (pageChunk instruction.destination 8).toNat)
          vcpu.memory.context with ⟨stopped, same⟩ | ⟨made, guestPhysical, address, written⟩
        · split at refused
          · rename_i landed run
            cases refused
            rw [run] at same
            exact Or.inl same
          · rename_i landed run
            rw [run] at stopped
            cases stopped
        · by_cases present : overwrite (bytes vcpu.memory.context) guestPhysical
              ((storeWord value).take (pageChunk instruction.destination 8).toNat) =
                bytes vcpu.memory.context
          · left
            split at refused
            · rename_i landed run
              rw [run] at made
              cases made
            · rename_i landed run
              rw [run] at written
              rcases storePart_bytes backs _ _ landed with ⟨_, same⟩ | ⟨made', _⟩
              · rw [refused] at same
                exact same.trans (written.trans present)
              · rw [refused] at made'
                cases made'
          · right
            refine ⟨stores, crosses, made, ⟨guestPhysical, address, present⟩, ?_⟩
            split at refused
            · rename_i landed run
              rw [run] at made
              cases made
            · rename_i landed run
              rw [run, refused]

theorem storePart_callbacks {memory : NestedMemory σ} {linear : U64} {part : List U8} {context : σ}
    (made : (storePart memory linear part context).1 = true) :
    (∃ translate, memory.translate = some translate) ∧ ∃ write, memory.write = some write := by
  unfold storePart translateLinear at made
  cases translates : memory.translate with
  | none =>
    rw [translates] at made
    cases made
  | some translate =>
    refine ⟨⟨translate, rfl⟩, ?_⟩
    cases writes : memory.write with
    | none =>
      rw [writes] at made
      split at made
      · cases made
      · cases made
    | some write => exact ⟨write, rfl⟩

theorem TornStore.refused {bytes : σ → U64 → U8} {vcpu : NestedVcpu σ}
    {instruction : VmxInstruction} {value : U64} (torn : TornStore bytes vcpu instruction value)
    (backs : Backs vcpu.memory bytes) :
    ∃ context, writeLinear vcpu.memory instruction.destination (storeWord value) 8 =
      (false, context) ∧ bytes context ≠ bytes vcpu.memory.context := by
  obtain ⟨⟨translate, translates⟩, write, writes⟩ := storePart_callbacks torn.first
  obtain ⟨guestPhysical, address, changes⟩ := torn.changes
  have made := torn.first
  have second := torn.second
  rw [writeLinear_eight translates writes (room_of_canonical torn.stores.canonical)
    (storeWord_length value), if_neg torn.crosses]
  rcases storePart_bytes backs instruction.destination
    ((storeWord value).take (pageChunk instruction.destination 8).toNat)
    vcpu.memory.context with ⟨stopped, _⟩ | ⟨_, place, here, written⟩
  · rw [stopped] at made
    cases made
  rw [Option.some.inj (here.symm.trans address)] at written
  rcases run : storePart vcpu.memory instruction.destination
    ((storeWord value).take (pageChunk instruction.destination 8).toNat)
    vcpu.memory.context with ⟨done, landed⟩
  rw [run] at made second written
  obtain rfl : done = true := made
  rcases storePart_bytes backs
    (instruction.destination + (pageChunk instruction.destination 8).setWidth 64)
    ((storeWord value).drop (pageChunk instruction.destination 8).toNat) landed with
    ⟨_, same⟩ | ⟨made', _⟩
  · refine ⟨_, Prod.ext second rfl, ?_⟩
    rw [same, written]
    exact changes
  · rw [made'] at second
    cases second

/-- The instruction that stores returns what its store returns. -/
theorem Stores.dispatch {vcpu : NestedVcpu σ} {instruction : VmxInstruction} {value : U64}
    {context : σ} (stores : Stores vcpu instruction value)
    (refused : writeLinear vcpu.memory instruction.destination (storeWord value) 8 =
      (false, context)) :
    dispatchNestedInstruction vcpu (some instruction) =
      makeVmfail (vcpu.withContext context) .VmfailInvalid kErrorInvalidOperand
        (instructionLength instruction) := by
  obtain ⟨valid, on⟩ := stores.handled
  have memoryForm : ¬instruction.flags &&& kInstructionOperandIsRegister ≠ 0 :=
    not_not.mpr stores.memoryForm
  have canonical : ¬(!isLinearRangeCanonical vcpu instruction.destination 8) = true := by
    rw [stores.canonical]
    decide
  rcases stores.word with ⟨opcode, rfl⟩ | ⟨opcode, read⟩
  · have run : dispatchNestedInstruction vcpu (some instruction) =
        emulateVmptrst vcpu instruction := by
      simp [dispatchNestedInstruction, valid, on, opcode]
    rw [run, emulateVmptrst, if_neg memoryForm, if_neg canonical, refused]
  · have run : dispatchNestedInstruction vcpu (some instruction) =
        emulateVmread vcpu instruction := by
      simp [dispatchNestedInstruction, valid, on, opcode]
    rw [run, emulateVmread, read]
    dsimp only
    rw [if_neg memoryForm, if_neg canonical, refused]

theorem Returns.unchanged {bytes : σ → U64 → U8} {vcpu : NestedVcpu σ}
    {instruction : VmxInstruction} {outcome : NestedResult × NestedVcpu σ}
    (returns : Returns vcpu instruction outcome) (backs : Backs vcpu.memory bytes)
    (whole : ∀ value, ¬TornStore bytes vcpu instruction value)
    (failed : outcome.1.status ≠ .Success) : Unchanged bytes vcpu outcome := by
  cases returns with
  | report plain =>
    exact ⟨rfl, rfl, rfl, fun _ => rfl, fun _ _ => Or.inl rfl, fun _ => ⟨rfl, rfl⟩⟩
  | vmfail read fails => exact unchanged_makeVmfail (read bytes backs) _ _ _
  | unstored stores refused =>
    rcases writeLinear_refused backs stores refused with same | torn
    · exact unchanged_makeVmfail same _ _ _
    · exact absurd torn (whole _)
  | done callbacks => exact absurd rfl failed
  | kept uncleared stays => exact absurd rfl failed
  | left uncleared leaves => exact absurd rfl failed

/-- An instruction that does not succeed changes nothing, exactly if it is not a
store that is torn at a page boundary. -/
theorem dispatchNestedInstruction_unchanged_iff {bytes : σ → U64 → U8} {vcpu : NestedVcpu σ}
    (backs : Backs vcpu.memory bytes) (instruction : VmxInstruction) :
    ((dispatchNestedInstruction vcpu (some instruction)).1.status ≠ .Success →
      Unchanged bytes vcpu (dispatchNestedInstruction vcpu (some instruction))) ↔
      ∀ value, ¬TornStore bytes vcpu instruction value := by
  constructor
  · intro unchanged value torn
    obtain ⟨context, refused, changes⟩ := torn.refused backs
    rw [torn.stores.dispatch refused] at unchanged
    have failed : (makeVmfail (vcpu.withContext context) .VmfailInvalid kErrorInvalidOperand
        (instructionLength instruction)).1.status ≠ .Success := by
      rw [status_makeVmfail]
      decide
    exact changes (unchanged failed).guest
  · intro whole failed
    exact (dispatchNestedInstruction_returns vcpu instruction).unchanged backs whole failed

/-! The memory that the control device gives to a session. -/

def kNestedGuestMemoryBytes : U32 := 64 * 1024

def guestTranslate (context : U64 → U8) (linear : U64) (_access : NestedMemoryAccess) :
    Option U64 × (U64 → U8) :=
  if kNestedGuestMemoryBytes.setWidth 64 ≤ linear then (none, context) else (some linear, context)

/-- A span of guest memory that the device refuses. -/
def guestSpanRefused (guestPhysical : U64) (length : U32) : Bool :=
  length == 0 || kNestedGuestMemoryBytes.setWidth 64 ≤ guestPhysical ||
    kNestedGuestMemoryBytes - guestPhysical.setWidth 32 < length

def guestRead (context : U64 → U8) (guestPhysical : U64) (length : U32) :
    Option (Nat → U8) × (U64 → U8) :=
  if guestSpanRefused guestPhysical length then (none, context)
  else (some fun index => context (guestPhysical + BitVec.ofNat 64 index), context)

def guestWrite (context : U64 → U8) (guestPhysical : U64) (source : List U8) :
    Bool × (U64 → U8) :=
  if guestSpanRefused guestPhysical (BitVec.ofNat 32 source.length) then (false, context)
  else (true, overwrite context guestPhysical source)

def sessionMemory (context : U64 → U8) : NestedMemory (U64 → U8) where
  context := context
  translate := some guestTranslate
  read := some guestRead
  write := some guestWrite

theorem sessionMemory_backs (context : U64 → U8) : Backs (sessionMemory context) id := by
  refine ⟨?_, ?_, ?_, ?_⟩
  · rintro _ ⟨⟩ context linear access
    unfold guestTranslate
    split <;> rfl
  · rintro _ ⟨⟩ context address length
    unfold guestRead
    split <;> rfl
  · rintro _ ⟨⟩ context address buffer
    unfold guestWrite
    split
    · exact fun _ => rfl
    · exact nofun
  · rintro _ ⟨⟩ context address buffer
    unfold guestWrite
    split
    · exact nofun
    · exact fun _ => rfl

/-- The two operands and the two regions that a session starts with. -/
def sessionBytes : U64 → U8 :=
  overwrite (overwrite (overwrite (overwrite (fun _ => 0) 0 (storeWord 0x1000)) 8
    (storeWord 0x2000)) 0x1000 [1, 0, 0, 0]) 0x2000 [1, 0, 0, 0]

/-- A session whose guest has executed VMXON and VMPTRLD. -/
def sessionVcpu : NestedVcpu (U64 → U8) :=
  Run.after nestedStep (nestedStart none (sessionMemory sessionBytes) true)
    [.dispatch (some (vmxOperands .Vmxon 0)), .dispatch (some (vmxOperands .Vmptrld 8))]

/-- A VMPTRST to a linear address. -/
def vmptrstTo (destination : U64) : VmxInstruction := { vmxOperands .Vmptrst 0 with destination }

theorem sessionVcpu_backs : Backs sessionVcpu.memory id := by
  have backs : Backs (nestedStart none (sessionMemory sessionBytes) true).memory id :=
    sessionMemory_backs sessionBytes
  exact backs.after _

/-- A VMPTRST that lies wholly outside guest memory fails and changes nothing. -/
theorem vmptrst_outside_unchanged :
    Unchanged id sessionVcpu
      (dispatchNestedInstruction sessionVcpu (some (vmptrstTo 0x20000))) := by
  refine (dispatchNestedInstruction_unchanged_iff sessionVcpu_backs _).mpr ?_ (by decide +kernel)
  intro value torn
  exact torn.crosses (by decide)

/-- A VMPTRST over the end of guest memory fails, and leaves its first part
there: byte 0xFFFD was zero. -/
theorem vmptrst_over_end_torn :
    (dispatchNestedInstruction sessionVcpu (some (vmptrstTo 0xFFFC))).1.status =
        .VmfailInvalid ∧
      sessionVcpu.memory.context 0xFFFD = 0 ∧
      (dispatchNestedInstruction sessionVcpu (some (vmptrstTo 0xFFFC))).2.memory.context 0xFFFD =
        0x20 ∧
      Backs sessionVcpu.memory id ∧
      ¬Unchanged id sessionVcpu
        (dispatchNestedInstruction sessionVcpu (some (vmptrstTo 0xFFFC))) := by
  have before : sessionVcpu.memory.context 0xFFFD = 0 := by decide +kernel
  have after : (dispatchNestedInstruction sessionVcpu
      (some (vmptrstTo 0xFFFC))).2.memory.context 0xFFFD = 0x20 := by decide +kernel
  refine ⟨by decide +kernel, before, after, sessionVcpu_backs, fun unchanged => ?_⟩
  have same := congrFun unchanged.guest 0xFFFD
  rw [id, id, before, after] at same
  exact absurd same (by decide)

end Knhv.Nested
