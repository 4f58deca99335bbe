import Knhv.Lib.Checked
import Knhv.Nested.PageTransfer
import Knhv.Nested.Returns

namespace Knhv.Nested

variable {σ : Type}

/-- One part of a store: it is translated and written. -/
def storePart (memory : NestedMemory σ) (linear : U64) (part : List U8) (context : σ) : Bool × σ :=
  match translateLinear { memory with context } linear .Write with
  | (none, context) => (false, context)
  | (some guestPhysical, context) =>
    match memory.write with
    | none => (false, context)
    | some write => write context guestPhysical part

/-- One round of the store: a part, and then the rest. -/
theorem transferLoop_write {memory : NestedMemory σ} {write : σ → U64 → List U8 → Bool × σ}
    (here : memory.write = some write) (buffer : List U8) (fuel done : Nat) {remaining : U32}
    {current : U64} (context : σ) (more : remaining ≠ 0) (some_ : pageChunk current remaining ≠ 0)
    (inside : ¬(remaining - pageChunk current remaining ≠ 0 ∧
      ~~~0 - (pageChunk current remaining).setWidth 64 < current)) :
    settled (transferLoop memory .Write (writeTransfer write buffer) (fuel + 1) done remaining
      current context) =
      match storePart memory current
          ((buffer.drop done).take (pageChunk current remaining).toNat) context with
      | (false, context) => (false, context)
      | (true, context) =>
        settled (transferLoop memory .Write (writeTransfer write buffer) fuel
          (done + (pageChunk current remaining).toNat) (remaining - pageChunk current remaining)
          (current + (pageChunk current remaining).setWidth 64) context) := by
  obtain ⟨own, translate, read, store⟩ := memory
  obtain rfl : store = some write := here
  rw [transferLoop, if_neg more, storePart]
  dsimp only
  rcases translateLinear ⟨context, translate, read, some write⟩ current .Write with
    ⟨_ | guestPhysical, after⟩
  · rfl
  dsimp only
  rw [if_neg some_, writeTransfer]
  rcases write after guestPhysical
    ((buffer.drop done).take (pageChunk current remaining).toNat) with ⟨_ | _, landed⟩
  · rfl
  dsimp only
  rw [if_neg inside]
  rcases transferLoop ⟨own, translate, read, some write⟩ .Write (writeTransfer write buffer) fuel
    (done + (pageChunk current remaining).toNat) (remaining - pageChunk current remaining)
    (current + (pageChunk current remaining).setWidth 64) landed with ⟨_ | rest, last⟩
  · rfl
  · rfl

theorem writeLinear_eq_settled {memory : NestedMemory σ} {translate} {write}
    (translates : memory.translate = some translate) (writes : memory.write = some write)
    (linear : U64) (buffer : List U8) :
    writeLinear memory linear buffer 8 =
      settled (transferLoop memory .Write (writeTransfer write buffer) 8 0 8 linear
        memory.context) := by
  unfold writeLinear
  rw [writes, translates]
  dsimp only
  rw [if_neg (by rintro (empty | missing) <;> contradiction)]
  split
  · rename_i last stopped
    have stored : transferLoop memory .Write (writeTransfer write buffer) 8 0 8 linear
        memory.context = (none, last) := stopped
    rw [stored]
    rfl
  · rename_i rest last finished
    have stored : transferLoop memory .Write (writeTransfer write buffer) 8 0 8 linear
        memory.context = (some rest, last) := finished
    rw [stored]
    rfl

/-- A part that is the last one ends the store. -/
theorem storePart_last (outcome : Bool × σ) :
    (match outcome with
      | (false, context) => (false, context)
      | (true, context) => (true, context)) = outcome := by
  rcases outcome with ⟨_ | _, last⟩
  · rfl
  · rfl

theorem pageChunk_ne_zero (current : U64) {remaining : U32} (more : remaining ≠ 0) :
    pageChunk current remaining ≠ 0 := by
  intro none
  have size := toNat_pageChunk current remaining
  rw [none] at size
  have inside : current.toNat % 4096 < 4096 := Nat.mod_lt _ (by decide)
  have positive : remaining.toNat ≠ 0 := fun zero => more (BitVec.eq_of_toNat_eq zero)
  have zero : (0 : U32).toNat = 0 := rfl
  omega

/-- After a part that ends at its page the rest lies on the next one. -/
theorem pageChunk_next {linear : U64} (room : ¬~~~0 - 7 < linear) (crosses : pageChunk linear 8 ≠ 8) :
    (8 - pageChunk linear 8).toNat = 8 - (pageChunk linear 8).toNat ∧
      ¬~~~0 - (pageChunk linear 8).setWidth 64 < linear ∧
      pageChunk (linear + (pageChunk linear 8).setWidth 64) (8 - pageChunk linear 8) =
        8 - pageChunk linear 8 := by
  have size := toNat_pageChunk linear 8
  have eight : (8 : U32).toNat = 8 := rfl
  have short : (pageChunk linear 8).toNat ≠ 8 := fun same => crosses (BitVec.eq_of_toNat_eq same)
  have inside : linear.toNat % 4096 < 4096 := Nat.mod_lt _ (by decide)
  have wide : ((pageChunk linear 8).setWidth 64).toNat = (pageChunk linear 8).toNat :=
    BitVec.toNat_setWidth_of_le (by decide)
  have bound : linear.toNat ≤ 2 ^ 64 - 1 - 7 := by
    have top : (~~~0 - 7 : U64).toNat = 2 ^ 64 - 1 - 7 := rfl
    rw [BitVec.lt_def, top] at room
    omega
  have rest : (8 - pageChunk linear 8).toNat = 8 - (pageChunk linear 8).toNat := by
    rw [BitVec.toNat_sub_of_le, eight]
    rw [BitVec.le_def, eight]
    omega
  have sum : (linear + (pageChunk linear 8).setWidth 64).toNat =
      linear.toNat + (pageChunk linear 8).toNat := by
    rw [BitVec.toNat_add, wide]
    exact Nat.mod_eq_of_lt (by omega)
  refine ⟨rest, ?_, ?_⟩
  · have above := Checked.toNat_not_zero_sub ((pageChunk linear 8).setWidth 64)
    rw [wide] at above
    intro wraps
    have less : (~~~0#64 - (pageChunk linear 8).setWidth 64).toNat < linear.toNat := wraps
    rw [above] at less
    omega
  · apply BitVec.eq_of_toNat_eq
    rw [toNat_pageChunk, rest, sum]
    omega

/-- A store of eight bytes is one part, or two where it crosses a page. -/
theorem writeLinear_eight {memory : NestedMemory σ} {translate} {write}
    (translates : memory.translate = some translate) (writes : memory.write = some write)
    {linear : U64} (room : ¬~~~0 - 7 < linear) {buffer : List U8} (length : buffer.length = 8) :
    writeLinear memory linear buffer 8 =
      if pageChunk linear 8 = 8 then storePart memory linear buffer memory.context
      else
        match storePart memory linear (buffer.take (pageChunk linear 8).toNat) memory.context with
        | (false, context) => (false, context)
        | (true, context) =>
          storePart memory (linear + (pageChunk linear 8).setWidth 64)
            (buffer.drop (pageChunk linear 8).toNat) context := by
  rw [writeLinear_eq_settled translates writes]
  by_cases whole : pageChunk linear 8 = 8
  · have round := @transferLoop_write σ memory write writes buffer 7 0 8 linear memory.context
      (by decide) (pageChunk_ne_zero linear (by decide)) (by rw [whole]; exact fun wraps => wraps.1 rfl)
    rw [round, if_pos whole, whole]
    have all : (buffer.drop 0).take (8 : U32).toNat = buffer := by
      rw [List.drop_zero]
      exact List.take_of_length_le (Nat.le_of_eq length)
    rw [all]
    exact storePart_last _
  · obtain ⟨restSize, inside, restChunk⟩ := pageChunk_next room whole
    have round := @transferLoop_write σ memory write writes buffer 7 0 8 linear memory.context
      (by decide) (pageChunk_ne_zero linear (by decide)) (fun wraps => inside wraps.2)
    rw [round, if_neg whole, List.drop_zero, Nat.zero_add]
    rcases storePart memory linear (buffer.take (pageChunk linear 8).toNat) memory.context with
      ⟨_ | _, landed⟩
    · rfl
    dsimp only
    have more : 8 - pageChunk linear 8 ≠ 0 := by
      intro none
      have size := toNat_pageChunk linear 8
      have eight : (8 : U32).toNat = 8 := rfl
      have zero : (0 : U32).toNat = 0 := rfl
      have short : (pageChunk linear 8).toNat ≠ 8 :=
        fun same => whole (BitVec.eq_of_toNat_eq same)
      rw [none] at restSize
      omega
    have second := @transferLoop_write σ memory write writes buffer 6 (pageChunk linear 8).toNat
      (8 - pageChunk linear 8) (linear + (pageChunk linear 8).setWidth 64) landed more
      (by rw [restChunk]; exact more) (by rw [restChunk]; simp)
    rw [second, restChunk, restSize]
    have all : (buffer.drop (pageChunk linear 8).toNat).take (8 - (pageChunk linear 8).toNat) =
        buffer.drop (pageChunk linear 8).toNat := by
      refine List.take_of_length_le ?_
      rw [List.length_drop, length]
    rw [all, BitVec.sub_self]
    exact storePart_last _

end Knhv.Nested
