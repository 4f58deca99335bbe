import Knhv.Nested.Effect

namespace Knhv.Nested

variable {σ : Type}

/-- Memory after a store of some bytes. -/
def overwrite (bytes : U64 → U8) (address : U64) (buffer : List U8) : U64 → U8 :=
  fun place => (buffer[(place - address).toNat]?).getD (bytes place)

/-- The bytes of guest memory behind the callbacks. A look at memory does not
change it, a store that is refused does not either, and a store that is made
puts its bytes where it was told to. -/
structure Backs (memory : NestedMemory σ) (bytes : σ → U64 → U8) : Prop where
  translate : ∀ {translate}, memory.translate = some translate →
    ∀ context linear access, bytes (translate context linear access).2 = bytes context
  read : ∀ {read}, memory.read = some read →
    ∀ context address length, bytes (read context address length).2 = bytes context
  refused : ∀ {write}, memory.write = some write → ∀ context address buffer,
    (write context address buffer).1 = false →
    bytes (write context address buffer).2 = bytes context
  written : ∀ {write}, memory.write = some write → ∀ context address buffer,
    (write context address buffer).1 = true →
    bytes (write context address buffer).2 = overwrite (bytes context) address buffer

/-- The contexts that hold the bytes of the vCPU's own. -/
def Unwritten (memory : NestedMemory σ) (context : σ) : Prop :=
  ∀ bytes, Backs memory bytes → bytes context = bytes memory.context

theorem Unwritten.here (memory : NestedMemory σ) : Unwritten memory memory.context :=
  fun _ _ => rfl

theorem Backs.translateLinear {memory : NestedMemory σ} {bytes : σ → U64 → U8}
    (backs : Backs memory bytes) (context : σ) (linear : U64) (access : NestedMemoryAccess) :
    bytes (translateLinear { memory with context } linear access).2 = bytes context := by
  unfold Nested.translateLinear
  split
  · rfl
  · rename_i translate here
    exact backs.translate here context linear access

/-- A page-splitting loop whose transfers leave the bytes alone leaves them
alone. -/
theorem Backs.transferLoop {memory : NestedMemory σ} {bytes : σ → U64 → U8}
    (backs : Backs memory bytes) {access : NestedMemoryAccess}
    {transfer : Nat → U32 → U64 → σ → Option (List U8) × σ}
    (keeps : ∀ done chunk address context,
      bytes (transfer done chunk address context).2 = bytes context)
    (fuel done : Nat) (remaining : U32) (current : U64) (context : σ) :
    bytes (transferLoop memory access transfer fuel done remaining current context).2 =
      bytes context := by
  induction fuel generalizing done remaining current context with
  | zero =>
    unfold Nested.transferLoop
    split <;> rfl
  | succ fuel ih =>
    unfold Nested.transferLoop
    split
    · rfl
    have looked := backs.translateLinear context current access
    dsimp only
    split
    · rename_i after run
      rw [run] at looked
      exact looked
    rename_i guestPhysical after run
    rw [run] at looked
    split
    · exact looked
    have moved := keeps done (pageChunk current remaining) guestPhysical after
    split
    · rename_i landed transferred
      rw [transferred] at moved
      exact moved.trans looked
    rename_i part landed transferred
    rw [transferred] at moved
    split
    · exact moved.trans looked
    have rest := ih (done + (pageChunk current remaining).toNat)
      (remaining - pageChunk current remaining)
      (current + (pageChunk current remaining).setWidth 64) landed
    split
    · rename_i last run'
      rw [run'] at rest
      exact rest.trans (moved.trans looked)
    · rename_i others last run'
      rw [run'] at rest
      exact rest.trans (moved.trans looked)

theorem readLinear_unwritten (memory : NestedMemory σ) (linear : U64) (length : U32)
    (access : NestedMemoryAccess) : Unwritten memory (readLinear memory linear length access).2 := by
  intro bytes backs
  unfold readLinear
  split
  · rfl
  rename_i read here
  split
  · rfl
  refine backs.transferLoop (fun done chunk address context => ?_) _ _ _ _ _
  have kept := backs.read here context address chunk
  split
  · rename_i after run
    rw [run] at kept
    exact kept
  · rename_i filled after run
    rw [run] at kept
    exact kept

theorem probeRegionLoop_unwritten {memory : NestedMemory σ} {bytes : σ → U64 → U8}
    {read : σ → U64 → U32 → Option (Nat → U8) × σ} (backs : Backs memory bytes)
    (here : memory.read = some read) (region : U64) (fuel : Nat) (offset : U32) (context : σ) :
    bytes (probeRegionLoop read region fuel offset context).2 = bytes context := by
  induction fuel generalizing offset context with
  | zero =>
    unfold probeRegionLoop
    split <;> rfl
  | succ fuel ih =>
    unfold probeRegionLoop
    split
    · dsimp only
      generalize (if kNestedPageSize - offset < 64 then kNestedPageSize - offset else 64) = chunk
      have kept := backs.read here context (region + offset.setWidth 64) chunk
      split
      · rename_i after run
        rw [run] at kept
        exact kept
      · rename_i filled after run
        rw [run] at kept
        exact (ih (offset + chunk) after).trans kept
    · rfl

theorem validateVmxRegion_unwritten (vcpu : NestedVcpu σ) (operandLinear : U64) :
    Unwritten vcpu.memory (validateVmxRegion vcpu operandLinear).2 := by
  intro bytes backs
  have operand := readLinear_unwritten vcpu.memory operandLinear 8 .Read bytes backs
  unfold validateVmxRegion
  split
  · rfl
  split
  · rename_i after run
    rw [run] at operand
    exact operand
  rename_i word after run
  rw [run] at operand
  dsimp only
  split
  · exact operand
  rename_i read here
  split
  · exact operand
  have kept := backs.read here after (loadWord 64 word) 4
  split
  · rename_i later run'
    rw [run'] at kept
    exact kept.trans operand
  rename_i revision later run'
  rw [run'] at kept
  have probed := probeRegionLoop_unwritten backs here (loadWord 64 word) kNestedPageSize.toNat 4 later
  split
  · rename_i last run''
    rw [run''] at probed
    exact probed.trans (kept.trans operand)
  rename_i last run''
  rw [run''] at probed
  split
  · exact probed.trans (kept.trans operand)
  · exact probed.trans (kept.trans operand)

theorem readDescriptor_unwritten (vcpu : NestedVcpu σ) (instruction : VmxInstruction) :
    Unwritten vcpu.memory (readDescriptor vcpu instruction).2 := by
  have operand := readLinear_unwritten vcpu.memory instruction.linearOperand 16 .Read
  unfold readDescriptor
  split
  · exact Unwritten.here _
  split
  · exact Unwritten.here _
  split
  · rename_i after run
    rw [run] at operand
    exact operand
  · rename_i word after run
    rw [run] at operand
    exact operand

end Knhv.Nested
