import Knhv.Lib.Bits
import Knhv.Lib.Pages
import Knhv.Nested.Memory

namespace Knhv.Nested

variable {σ ω : Type}

/-- One call of a guest-memory callback, with its answer. -/
inductive MemoryCall
  | translate (linear : U64) (access : NestedMemoryAccess) (answer : Option U64)
  | read (guestPhysical : U64) (length : U32) (answer : Option (Nat → U8))
  | write (guestPhysical : U64) (bytes : List U8) (answer : Bool)

/-- A callback that also puts each call on a record behind the context. -/
def recordedTranslate (translate : σ → U64 → NestedMemoryAccess → Option U64 × σ)
    (s : σ × List MemoryCall) (linear : U64) (access : NestedMemoryAccess) :
    Option U64 × (σ × List MemoryCall) :=
  let run := translate s.1 linear access
  (run.1, (run.2, s.2 ++ [.translate linear access run.1]))

def recordedRead (read : σ → U64 → U32 → Option (Nat → U8) × σ) (s : σ × List MemoryCall)
    (guestPhysical : U64) (length : U32) : Option (Nat → U8) × (σ × List MemoryCall) :=
  let run := read s.1 guestPhysical length
  (run.1, (run.2, s.2 ++ [.read guestPhysical length run.1]))

def recordedWrite (write : σ → U64 → List U8 → Bool × σ) (s : σ × List MemoryCall)
    (guestPhysical : U64) (bytes : List U8) : Bool × (σ × List MemoryCall) :=
  let run := write s.1 guestPhysical bytes
  (run.1, (run.2, s.2 ++ [.write guestPhysical bytes run.1]))

/-- The callbacks of a memory, with a record of all their calls. -/
def recording (memory : NestedMemory σ) : NestedMemory (σ × List MemoryCall) where
  context := (memory.context, [])
  translate := memory.translate.map recordedTranslate
  read := memory.read.map recordedRead
  write := memory.write.map recordedWrite

abbrev nestedPage : Nat := kNestedPageSize.toNat

theorem nestedPage_eq : nestedPage = 4096 := rfl

/-- The offset of a linear address in its page. -/
theorem toNat_pageOffset (linear : U64) :
    ((linear &&& (kNestedPageSize.setWidth 64 - 1)).setWidth 32).toNat = linear.toNat % 4096 := by
  have mask : kNestedPageSize.setWidth 64 - 1 = BitVec.ofNat 64 (2 ^ 12 - 1) := by decide
  have cut : linear.toNat &&& (2 ^ 12 - 1) = linear.toNat % 4096 :=
    Nat.and_two_pow_sub_one_eq_mod _ 12
  have low : linear.toNat % 4096 < 2 ^ 32 := Nat.lt_trans (Nat.mod_lt _ (by decide)) (by decide)
  rw [mask, BitVec.toNat_setWidth, BitVec.toNat_and, BitVec.toNat_ofNat,
    Nat.mod_eq_of_lt (by decide : 2 ^ 12 - 1 < 2 ^ 64), cut, Nat.mod_eq_of_lt low]

theorem toNat_pageChunk (current : U64) (remaining : U32) :
    (pageChunk current remaining).toNat = min remaining.toNat (4096 - current.toNat % 4096) := by
  have offset := toNat_pageOffset current
  have inside : current.toNat % 4096 < 4096 := Nat.mod_lt _ (by decide)
  have page : kNestedPageSize.toNat = 4096 := by decide
  have rest : (kNestedPageSize - (current &&& (kNestedPageSize.setWidth 64 - 1)).setWidth 32).toNat =
      4096 - current.toNat % 4096 := by
    rw [BitVec.toNat_sub_of_le, offset, page]
    rw [BitVec.le_def, offset, page]
    omega
  unfold pageChunk
  dsimp only
  split
  · rename_i short
    rw [BitVec.lt_def, rest] at short
    omega
  · rename_i long
    rw [BitVec.lt_def, rest] at long
    rw [rest]
    omega

/-- The transfer of `ReadLinear`. -/
def readTransfer (read : σ → U64 → U32 → Option (Nat → U8) × σ) (_ : Nat) (chunk : U32)
    (guestPhysical : U64) (context : σ) : Option (List U8) × σ :=
  match read context guestPhysical chunk with
  | (none, context) => (none, context)
  | (some bytes, context) => (some ((List.range chunk.toNat).map bytes), context)

/-- The transfer of `WriteLinear`. -/
def writeTransfer (write : σ → U64 → List U8 → Bool × σ) (buffer : List U8) (done : Nat)
    (chunk : U32) (guestPhysical : U64) (context : σ) : Option (List U8) × σ :=
  match write context guestPhysical ((buffer.drop done).take chunk.toNat) with
  | (false, context) => (none, context)
  | (true, context) => (some [], context)

/-- What a store has come to. -/
def settled (outcome : Option (List U8) × σ) : Bool × σ := (outcome.1.isSome, outcome.2)

section Walk

variable (linear : U64) (length : U32)

/-- The first address of the range on the page number `k` that it touches. -/
def firstAddress (k : Nat) : U64 :=
  BitVec.ofNat 64 (Pages.firstOf nestedPage linear.toNat k)

def pageBytes (k : Nat) : Nat := Pages.countOf nestedPage linear.toNat length.toNat k

def pageCount : Nat := Pages.touched nestedPage linear.toNat length.toNat

/-- What a loop does on a page: it translates the first address, and moves the
bytes at the translated one. `move` is that second call, `passes` says whether
its answer is a success. -/
def visitedCalls (access : NestedMemoryAccess) (move : Nat → U64 → ω → MemoryCall) :
    Nat → List (U64 × ω) → List MemoryCall
  | _, [] => []
  | k, (guestPhysical, answer) :: visits =>
    .translate (firstAddress linear k) access (some guestPhysical) :: move k guestPhysical answer ::
      visitedCalls access move (k + 1) visits

/-- How a loop ends that has moved the pages before `k`, and the calls it makes
in ending. -/
inductive WalkStop (access : NestedMemoryAccess) (move : Nat → U64 → ω → MemoryCall)
    (passes : ω → Bool) (k : Nat) : Bool → List MemoryCall → Prop
  | done : k = pageCount linear length → linear.toNat + length.toNat ≤ 2 ^ 64 →
      WalkStop access move passes k true []
  | untranslated : k < pageCount linear length →
      Pages.firstOf nestedPage linear.toNat k < 2 ^ 64 →
      WalkStop access move passes k false [.translate (firstAddress linear k) access none]
  | refused (guestPhysical : U64) (answer : ω) : k < pageCount linear length →
      Pages.firstOf nestedPage linear.toNat k < 2 ^ 64 → passes answer = false →
      WalkStop access move passes k false
        [.translate (firstAddress linear k) access (some guestPhysical),
          move k guestPhysical answer]
  | wraps : 0 < k → k < pageCount linear length →
      Pages.firstOf nestedPage linear.toNat k = 2 ^ 64 → WalkStop access move passes k false []

/-- The bytes that the visits bring back, page after page. -/
def visitedBytes (piece : Nat → ω → List U8) : Nat → List (U64 × ω) → List U8
  | _, [] => []
  | k, (_, answer) :: visits => piece k answer ++ visitedBytes piece (k + 1) visits

variable {linear length}

/-- The state of a loop before it visits a page, and what a round makes of it. -/
structure Round (linear : U64) (length : U32) (k : Nat) : Prop where
  current : (firstAddress linear k).toNat = Pages.firstOf nestedPage linear.toNat k
  remaining : (BitVec.ofNat 32 (linear.toNat + length.toNat -
    Pages.firstOf nestedPage linear.toNat k) : U32).toNat =
      linear.toNat + length.toNat - Pages.firstOf nestedPage linear.toNat k
  more : 0 < linear.toNat + length.toNat - Pages.firstOf nestedPage linear.toNat k
  chunk : pageChunk (firstAddress linear k) (BitVec.ofNat 32 (linear.toNat + length.toNat -
    Pages.firstOf nestedPage linear.toNat k)) = BitVec.ofNat 32 (pageBytes linear length k)
  chunkSize : (BitVec.ofNat 32 (pageBytes linear length k) : U32).toNat =
    pageBytes linear length k
  positive : 0 < pageBytes linear length k
  inPage : Pages.firstOf nestedPage linear.toNat k + pageBytes linear length k ≤ 2 ^ 64

theorem round_of_lt {k : Nat} (nonempty : 0 < length.toNat) (here : k < pageCount linear length)
    (below : Pages.firstOf nestedPage linear.toNat k < 2 ^ 64) : Round linear length k := by
  have page : 0 < nestedPage := by decide
  have entered := (Pages.lt_touched_iff page nonempty).mp here
  have start := @Pages.le_firstOf nestedPage linear.toNat page k
  have whole := length.isLt
  have positive := (Pages.countOf_step page nonempty here).1
  have current : (firstAddress linear k).toNat = Pages.firstOf nestedPage linear.toNat k := by
    rw [firstAddress, BitVec.toNat_ofNat, Nat.mod_eq_of_lt below]
  have remaining : (BitVec.ofNat 32 (linear.toNat + length.toNat -
      Pages.firstOf nestedPage linear.toNat k) : U32).toNat =
        linear.toNat + length.toNat - Pages.firstOf nestedPage linear.toNat k := by
    rw [BitVec.toNat_ofNat, Nat.mod_eq_of_lt (by omega)]
  have count : pageBytes linear length k =
      min (linear.toNat + length.toNat - Pages.firstOf nestedPage linear.toNat k)
        (nestedPage - Pages.firstOf nestedPage linear.toNat k % nestedPage) := rfl
  have left := Nat.mod_lt (Pages.firstOf nestedPage linear.toNat k) page
  have chunkSize : (BitVec.ofNat 32 (pageBytes linear length k) : U32).toNat =
      pageBytes linear length k := by
    rw [BitVec.toNat_ofNat, Nat.mod_eq_of_lt (by omega)]
  refine ⟨current, remaining, by omega, ?_, chunkSize, positive, ?_⟩
  · apply BitVec.eq_of_toNat_eq
    rw [toNat_pageChunk, current, remaining, chunkSize, count, nestedPage_eq]
  · rw [nestedPage_eq] at count below ⊢
    omega

/-- Before a round there is something left, and the round moves some of it. -/
theorem Round.nonzero {k : Nat} (round : Round linear length k) :
    (BitVec.ofNat 32 (linear.toNat + length.toNat -
      Pages.firstOf nestedPage linear.toNat k) : U32) ≠ 0 ∧
      (BitVec.ofNat 32 (pageBytes linear length k) : U32) ≠ 0 := by
  have more := round.more
  have positive := round.positive
  have remaining := round.remaining
  have size := round.chunkSize
  constructor
  · intro zero
    rw [zero] at remaining
    exact absurd remaining (by simp; omega)
  · intro zero
    rw [zero] at size
    exact absurd size (by simp; omega)

/-- What a round that does not reach the end makes of the counters of the loop,
and when its address leaves the address space. -/
structure Advance (linear : U64) (length : U32) (k : Nat) : Prop where
  remaining : (BitVec.ofNat 32 (linear.toNat + length.toNat -
    Pages.firstOf nestedPage linear.toNat k) - BitVec.ofNat 32 (pageBytes linear length k) : U32) =
      BitVec.ofNat 32 (linear.toNat + length.toNat - Pages.firstOf nestedPage linear.toNat (k + 1))
  more : (BitVec.ofNat 32 (linear.toNat + length.toNat -
    Pages.firstOf nestedPage linear.toNat (k + 1)) : U32) ≠ 0
  address : firstAddress linear k + (BitVec.ofNat 32 (pageBytes linear length k) : U32).setWidth 64 =
    firstAddress linear (k + 1)
  wraps : ~~~0 - (BitVec.ofNat 32 (pageBytes linear length k) : U32).setWidth 64 <
    firstAddress linear k ↔ Pages.firstOf nestedPage linear.toNat (k + 1) = 2 ^ 64
  done : Pages.firstOf nestedPage linear.toNat k - linear.toNat +
    (BitVec.ofNat 32 (pageBytes linear length k) : U32).toNat =
      Pages.firstOf nestedPage linear.toNat (k + 1) - linear.toNat

theorem Round.advance {k : Nat} (round : Round linear length k)
    (next : Pages.firstOf nestedPage linear.toNat k + pageBytes linear length k =
      Pages.firstOf nestedPage linear.toNat (k + 1))
    (short : pageBytes linear length k <
      linear.toNat + length.toNat - Pages.firstOf nestedPage linear.toNat k) :
    Advance linear length k := by
  have page : 0 < nestedPage := by decide
  have whole := length.isLt
  have inPage := round.inPage
  have size := round.chunkSize
  have remaining := round.remaining
  have current := round.current
  have start := @Pages.le_firstOf nestedPage linear.toNat page k
  have below : (BitVec.ofNat 32 (pageBytes linear length k) : U32) ≤
      BitVec.ofNat 32 (linear.toNat + length.toNat - Pages.firstOf nestedPage linear.toNat k) := by
    rw [BitVec.le_def]
    omega
  have left : (BitVec.ofNat 32 (linear.toNat + length.toNat -
      Pages.firstOf nestedPage linear.toNat k) - BitVec.ofNat 32 (pageBytes linear length k) :
        U32) = BitVec.ofNat 32 (linear.toNat + length.toNat -
          Pages.firstOf nestedPage linear.toNat (k + 1)) := by
    apply BitVec.eq_of_toNat_eq
    rw [BitVec.toNat_sub_of_le below, size, remaining, BitVec.toNat_ofNat,
      Nat.mod_eq_of_lt (by omega), ← next]
    exact Nat.sub_sub _ _ _
  have wide : ((BitVec.ofNat 32 (pageBytes linear length k) : U32).setWidth 64).toNat =
      pageBytes linear length k := by
    rw [BitVec.toNat_setWidth, size, Nat.mod_eq_of_lt (by omega)]
  have limit : (~~~0 - (BitVec.ofNat 32 (pageBytes linear length k) : U32).setWidth 64 :
      U64).toNat = 2 ^ 64 - 1 - pageBytes linear length k := by
    rw [BitVec.toNat_sub_of_le (by rw [BitVec.le_def, wide]; simp; omega), wide]
    rfl
  refine ⟨left, fun zero => ?_, ?_, ?_, ?_⟩
  · rw [← left] at zero
    have difference := congrArg BitVec.toNat zero
    rw [BitVec.toNat_sub_of_le below, size, remaining] at difference
    exact absurd difference (by simp; omega)
  · apply BitVec.eq_of_toNat_eq
    rw [BitVec.toNat_add, current, wide, next, firstAddress, BitVec.toNat_ofNat]
  · rw [BitVec.lt_def, limit, current]
    omega
  · rw [size]
    omega

theorem transferLoop_zero (memory : NestedMemory σ) (access : NestedMemoryAccess)
    (transfer : Nat → U32 → U64 → σ → Option (List U8) × σ) (fuel done : Nat) (current : U64)
    (context : σ) : transferLoop memory access transfer fuel done 0#32 current context =
      (some [], context) := by
  unfold transferLoop
  exact if_pos rfl

/-- A loop whose rounds have reached page `k` visits the pages from there on, in
order, until one of them fails, the address space ends or nothing is left. -/
theorem transferLoop_walks {memory : NestedMemory σ}
    {translate : σ → U64 → NestedMemoryAccess → Option U64 × σ}
    (present : memory.translate = some translate) {access : NestedMemoryAccess}
    {transfer : Nat → U32 → U64 → σ × List MemoryCall →
      Option (List U8) × (σ × List MemoryCall)}
    {move : Nat → U64 → ω → MemoryCall} {passes : ω → Bool} {piece : Nat → ω → List U8}
    (moves : ∀ k < pageCount linear length, ∀ guestPhysical s, ∃ answer context,
      transfer (Pages.firstOf nestedPage linear.toNat k - linear.toNat)
          (BitVec.ofNat 32 (pageBytes linear length k)) guestPhysical s =
        (if passes answer then some (piece k answer) else none,
          (context, s.2 ++ [move k guestPhysical answer])))
    (nonempty : 0 < length.toNat) (fuel k : Nat) (here : k < pageCount linear length)
    (below : Pages.firstOf nestedPage linear.toNat k < 2 ^ 64)
    (enough : linear.toNat + length.toNat - Pages.firstOf nestedPage linear.toNat k ≤ fuel)
    (s : σ × List MemoryCall) :
    ∃ visits last succeeded context,
      transferLoop (recording memory) access transfer fuel
          (Pages.firstOf nestedPage linear.toNat k - linear.toNat)
          (BitVec.ofNat 32 (linear.toNat + length.toNat -
            Pages.firstOf nestedPage linear.toNat k)) (firstAddress linear k) s =
        (if succeeded then some (visitedBytes piece k visits) else none,
          (context, s.2 ++ visitedCalls linear access move k visits ++ last)) ∧
      (∀ visit ∈ visits, passes visit.2 = true) ∧
      WalkStop linear length access move passes (k + visits.length) succeeded last := by
  have page : 0 < nestedPage := by decide
  induction fuel generalizing k s with
  | zero =>
    have round := round_of_lt nonempty here below
    exact absurd round.more (by omega)
  | succ fuel ih =>
    have round := round_of_lt nonempty here below
    obtain ⟨some_left, some_moved⟩ := round.nonzero
    rw [transferLoop, if_neg some_left]
    have lookup : translateLinear { recording memory with context := s } (firstAddress linear k)
        access = ((translate s.1 (firstAddress linear k) access).1,
          ((translate s.1 (firstAddress linear k) access).2,
            s.2 ++ [.translate (firstAddress linear k) access
              (translate s.1 (firstAddress linear k) access).1])) := by
      simp only [translateLinear, recording, present, Option.map_some, recordedTranslate]
    rw [lookup]
    rcases translate s.1 (firstAddress linear k) access with ⟨guestPhysical, context⟩
    cases guestPhysical with
    | none =>
      refine ⟨[], [.translate (firstAddress linear k) access none], false, context, ?_, ?_,
        .untranslated here below⟩
      · simp [visitedCalls]
      · simp
    | some guestPhysical =>
      obtain ⟨answer, moved, run⟩ := moves k here guestPhysical
        (context, s.2 ++ [.translate (firstAddress linear k) access (some guestPhysical)])
      dsimp only
      rw [round.chunk, if_neg some_moved, run]
      by_cases passed : passes answer = true
      · rw [if_pos passed]
        dsimp only
        obtain ⟨-, finished, continued⟩ := Pages.countOf_step page nonempty here
        have whole := length.isLt
        have inPage := round.inPage
        by_cases rest : pageBytes linear length k =
            linear.toNat + length.toNat - Pages.firstOf nestedPage linear.toNat k
        · -- the page holds the rest of the range
          have end_here : k + 1 = pageCount linear length := (finished rest).symm
          rw [rest, BitVec.sub_self, if_neg (by simp), transferLoop_zero]
          refine ⟨[(guestPhysical, answer)], [], true, moved, ?_, ?_, .done end_here (by omega)⟩
          · simp [visitedCalls, visitedBytes]
          · simpa using passed
        · have short : pageBytes linear length k <
              linear.toNat + length.toNat - Pages.firstOf nestedPage linear.toNat k :=
            lt_of_le_of_ne (Nat.min_le_left _ _) rest
          obtain ⟨follows, here'⟩ := continued short
          have next : Pages.firstOf nestedPage linear.toNat k + pageBytes linear length k =
              Pages.firstOf nestedPage linear.toNat (k + 1) := follows
          have advance := round.advance next short
          rw [advance.remaining]
          by_cases top : Pages.firstOf nestedPage linear.toNat (k + 1) = 2 ^ 64
          · -- the range goes on behind the last page of the address space
            rw [if_pos ⟨advance.more, advance.wraps.mpr top⟩]
            refine ⟨[(guestPhysical, answer)], [], false, moved, ?_, ?_,
              .wraps (Nat.succ_pos k) here' top⟩
            · simp [visitedCalls]
            · simpa using passed
          · rw [if_neg fun both => top (advance.wraps.mp both.2), advance.address, advance.done]
            have positive := round.positive
            obtain ⟨visits, last, succeeded, context, run', all, stop⟩ :=
              ih (k + 1) here' (by omega) (by omega) (moved,
                s.2 ++ [.translate (firstAddress linear k) access (some guestPhysical)] ++
                  [move k guestPhysical answer])
            rw [run']
            have length_eq : k + ((guestPhysical, answer) :: visits).length =
                k + 1 + visits.length := by
              rw [List.length_cons]
              omega
            refine ⟨(guestPhysical, answer) :: visits, last, succeeded, context, ?_, ?_, ?_⟩
            · cases succeeded with
              | false => simp [visitedCalls]
              | true => simp [visitedCalls, visitedBytes]
            · exact List.forall_mem_cons.mpr ⟨passed, all⟩
            · rw [length_eq]
              exact stop
      · refine ⟨[], [.translate (firstAddress linear k) access (some guestPhysical),
          move k guestPhysical answer], false, moved, ?_, ?_, .refused guestPhysical answer here
            below (Bool.eq_false_iff.mpr passed)⟩
        · simp [visitedCalls, passed]
        · simp

end Walk

/-- What the record leaves out of account. -/
def unrecorded {α : Type} (run : α × (σ × List MemoryCall)) : α × σ := (run.1, run.2.1)

theorem translateLinear_recording (memory : NestedMemory σ) (access : NestedMemoryAccess)
    (linear : U64) (s : σ × List MemoryCall) :
    unrecorded (translateLinear { recording memory with context := s } linear access) =
      translateLinear { memory with context := s.1 } linear access := by
  simp only [translateLinear, recording]
  cases memory.translate <;> rfl

/-- A loop over the recorded callbacks does what the loop over the callbacks
does. -/
theorem transferLoop_recording {memory : NestedMemory σ} {access : NestedMemoryAccess}
    {transfer : Nat → U32 → U64 → σ → Option (List U8) × σ}
    {recorded : Nat → U32 → U64 → σ × List MemoryCall →
      Option (List U8) × (σ × List MemoryCall)}
    (same : ∀ done chunk guestPhysical s,
      unrecorded (recorded done chunk guestPhysical s) = transfer done chunk guestPhysical s.1)
    (fuel done : Nat) (remaining : U32) (current : U64) (s : σ × List MemoryCall) :
    unrecorded (transferLoop (recording memory) access recorded fuel done remaining current s) =
      transferLoop memory access transfer fuel done remaining current s.1 := by
  induction fuel generalizing done remaining current s with
  | zero =>
    unfold transferLoop
    split <;> rfl
  | succ fuel ih =>
    unfold transferLoop
    split
    · rfl
    have looked := translateLinear_recording memory access current s
    dsimp only at looked ⊢
    rw [← looked]
    generalize translateLinear ⟨s, (recording memory).translate, (recording memory).read,
      (recording memory).write⟩ current access = run
    obtain ⟨guestPhysical, context⟩ := run
    cases guestPhysical with
    | none => rfl
    | some guestPhysical =>
      dsimp only [unrecorded]
      split
      · rfl
      rw [← same done (pageChunk current remaining) guestPhysical context]
      generalize recorded done (pageChunk current remaining) guestPhysical context = run
      obtain ⟨bytes, after⟩ := run
      cases bytes with
      | none => rfl
      | some bytes =>
        dsimp only [unrecorded]
        split
        · rfl
        rw [← ih (done + (pageChunk current remaining).toNat)
          (remaining - pageChunk current remaining)
          (current + (pageChunk current remaining).setWidth 64) after]
        generalize transferLoop (recording memory) access recorded fuel
          (done + (pageChunk current remaining).toNat) (remaining - pageChunk current remaining)
          (current + (pageChunk current remaining).setWidth 64) after = run
        obtain ⟨rest, last⟩ := run
        cases rest <;> rfl

theorem readLinear_eq {memory : NestedMemory σ} {translate} {read}
    (translates : memory.translate = some translate) (reads : memory.read = some read)
    {length : U32} (nonempty : length ≠ 0) (linear : U64) (access : NestedMemoryAccess) :
    readLinear memory linear length access =
      transferLoop memory access (readTransfer read) length.toNat 0 length linear
        memory.context := by
  unfold readLinear
  rw [reads, translates]
  exact if_neg (by rintro (empty | missing) <;> contradiction)

theorem writeLinear_eq {memory : NestedMemory σ} {translate} {write}
    (translates : memory.translate = some translate) (writes : memory.write = some write)
    {length : U32} (nonempty : length ≠ 0) (linear : U64) (buffer : List U8) :
    writeLinear memory linear buffer length =
      settled (transferLoop memory .Write (writeTransfer write buffer) length.toNat 0 length linear
        memory.context) := by
  unfold writeLinear
  rw [writes, translates]
  dsimp only
  rw [if_neg (by rintro (empty | missing) <;> contradiction)]
  split
  · rename_i last stopped
    have stored : transferLoop memory .Write (writeTransfer write buffer) length.toNat 0 length
        linear memory.context = (none, last) := stopped
    rw [stored]
    rfl
  · rename_i rest last finished
    have stored : transferLoop memory .Write (writeTransfer write buffer) length.toNat 0 length
        linear memory.context = (some rest, last) := finished
    rw [stored]
    rfl

/-- A helper refuses at once when the length is zero or one of its two callbacks
is missing. -/
def Refusable (memory : NestedMemory σ) (length : U32) (absent : Bool) : Prop :=
  length = 0 ∨ memory.translate = none ∨ absent = true

theorem readLinear_refuses {memory : NestedMemory σ} {length : U32}
    (refused : Refusable memory length memory.read.isNone) (linear : U64)
    (access : NestedMemoryAccess) :
    readLinear memory linear length access = (none, memory.context) := by
  unfold readLinear
  cases reads : memory.read with
  | none => rfl
  | some read =>
    refine if_pos ?_
    rcases refused with empty | missing | absent
    · exact .inl empty
    · exact .inr (by rw [missing]; rfl)
    · rw [reads] at absent
      contradiction

theorem writeLinear_refuses {memory : NestedMemory σ} {length : U32}
    (refused : Refusable memory length memory.write.isNone) (linear : U64) (buffer : List U8) :
    writeLinear memory linear buffer length = (false, memory.context) := by
  unfold writeLinear
  cases writes : memory.write with
  | none => rfl
  | some write =>
    refine if_pos ?_
    rcases refused with empty | missing | absent
    · exact .inl empty
    · exact .inr (by rw [missing]; rfl)
    · rw [writes] at absent
      contradiction

/-- What the callbacks of a helper are that does not refuse at once. -/
theorem present_of_not_refusable {memory : NestedMemory σ} {length : U32} {callback : Type}
    {move : Option callback} (accepted : ¬Refusable memory length move.isNone) :
    length ≠ 0 ∧ (∃ translate, memory.translate = some translate) ∧
      ∃ present, move = some present := by
  simp only [Refusable, not_or] at accepted
  obtain ⟨nonempty, mapped, present⟩ := accepted
  exact ⟨nonempty, Option.ne_none_iff_exists'.mp mapped,
    Option.ne_none_iff_exists'.mp fun missing => present (by rw [missing]; rfl)⟩

theorem readLinear_recording (memory : NestedMemory σ) (linear : U64) (length : U32)
    (access : NestedMemoryAccess) :
    unrecorded (readLinear (recording memory) linear length access) =
      readLinear memory linear length access := by
  by_cases refused : Refusable memory length memory.read.isNone
  · have recorded : Refusable (recording memory) length (recording memory).read.isNone := by
      simpa [Refusable, recording] using refused
    rw [readLinear_refuses refused, readLinear_refuses recorded]
    rfl
  · obtain ⟨nonempty, ⟨translate, translates⟩, read, reads⟩ := present_of_not_refusable refused
    have recordedTranslates : (recording memory).translate = some (recordedTranslate translate) := by
      simp only [recording, translates, Option.map_some]
    have recordedReads : (recording memory).read = some (recordedRead read) := by
      simp only [recording, reads, Option.map_some]
    rw [readLinear_eq translates reads nonempty,
      readLinear_eq recordedTranslates recordedReads nonempty]
    refine transferLoop_recording (fun done chunk guestPhysical s => ?_) _ _ _ _ _
    unfold readTransfer recordedRead
    rcases read s.1 guestPhysical chunk with ⟨bytes, context⟩
    cases bytes <;> rfl

theorem writeLinear_recording (memory : NestedMemory σ) (linear : U64) (buffer : List U8)
    (length : U32) :
    unrecorded (writeLinear (recording memory) linear buffer length) =
      writeLinear memory linear buffer length := by
  by_cases refused : Refusable memory length memory.write.isNone
  · have recorded : Refusable (recording memory) length (recording memory).write.isNone := by
      simpa [Refusable, recording] using refused
    rw [writeLinear_refuses refused, writeLinear_refuses recorded]
    rfl
  · obtain ⟨nonempty, ⟨translate, translates⟩, write, writes⟩ := present_of_not_refusable refused
    have recordedTranslates : (recording memory).translate = some (recordedTranslate translate) := by
      simp only [recording, translates, Option.map_some]
    have recordedWrites : (recording memory).write = some (recordedWrite write) := by
      simp only [recording, writes, Option.map_some]
    have loops := @transferLoop_recording σ memory .Write (writeTransfer write buffer)
      (writeTransfer (recordedWrite write) buffer) (fun done chunk guestPhysical s => by
        unfold writeTransfer recordedWrite
        dsimp only
        rcases write s.1 guestPhysical ((buffer.drop done).take chunk.toNat) with ⟨written, context⟩
        cases written <;> rfl) length.toNat 0 length linear (memory.context, [])
    rw [writeLinear_eq translates writes nonempty,
      writeLinear_eq recordedTranslates recordedWrites nonempty, ← loops]
    rfl

section Bytes

variable {linear : U64} {length : U32}

/-- The page of the range that an address lies on, counted from its first. -/
def pageOf (linear : U64) (address : Nat) : Nat :=
  Pages.indexOf nestedPage linear.toNat address

theorem WalkStop.below {access : NestedMemoryAccess} {move : Nat → U64 → ω → MemoryCall}
    {passes : ω → Bool} {k : Nat} {succeeded : Bool} {last : List MemoryCall}
    (stop : WalkStop linear length access move passes k succeeded last)
    (nonempty : 0 < length.toNat) {j : Nat} (earlier : j < k) :
    Pages.firstOf nestedPage linear.toNat j < 2 ^ 64 := by
  have page : 0 < nestedPage := by decide
  have order := @Pages.firstOf_lt_succ nestedPage linear.toNat page j
  have mono := @Pages.firstOf_mono nestedPage linear.toNat page (j + 1) k earlier
  cases stop with
  | done all fits =>
    have entered := (Pages.lt_touched_iff page nonempty).mp (by rwa [all] at earlier)
    omega
  | untranslated _ below => omega
  | refused _ _ _ below => omega
  | wraps _ _ top => omega

/-- The read of a page's bytes, as `ReadLinear` makes it. -/
def readMove (linear : U64) (length : U32) (k : Nat) (guestPhysical : U64)
    (answer : Option (Nat → U8)) : MemoryCall :=
  .read guestPhysical (BitVec.ofNat 32 (pageBytes linear length k)) answer

def readPiece (linear : U64) (length : U32) (k : Nat) (answer : Option (Nat → U8)) : List U8 :=
  match answer with
  | none => []
  | some bytes => (List.range (pageBytes linear length k)).map bytes

/-- The part of the buffer that `WriteLinear` writes to a page. -/
def writeMove (linear : U64) (length : U32) (buffer : List U8) (k : Nat) (guestPhysical : U64)
    (answer : Bool) : MemoryCall :=
  .write guestPhysical ((buffer.drop (Pages.firstOf nestedPage linear.toNat k - linear.toNat)).take
    (pageBytes linear length k)) answer

/-- Visits that reach the last page bring back every byte of the range. -/
theorem visitedBytes_length {k : Nat} {visits : List (U64 × Option (Nat → U8))}
    (nonempty : 0 < length.toNat) (passed : ∀ visit ∈ visits, visit.2.isSome = true)
    (complete : k + visits.length = pageCount linear length) :
    (visitedBytes (readPiece linear length) k visits).length =
      linear.toNat + length.toNat - Pages.firstOf nestedPage linear.toNat k := by
  have page : 0 < nestedPage := by decide
  induction visits generalizing k with
  | nil =>
    have behind : ¬k < pageCount linear length := by simp at complete; omega
    have left := mt (@Pages.lt_touched_iff nestedPage linear.toNat length.toNat page nonempty k).mpr
      behind
    simp only [visitedBytes, List.length_nil]
    omega
  | cons visit visits ih =>
    obtain ⟨guestPhysical, answer⟩ := visit
    obtain ⟨bytes, rfl⟩ := Option.isSome_iff_exists.mp (passed _ List.mem_cons_self)
    rw [List.length_cons] at complete
    have here : k < pageCount linear length := by omega
    have entered := (Pages.lt_touched_iff page nonempty).mp here
    have count := Pages.firstOf_add_countOf page entered
    have rest := ih (fun visit member => passed visit (List.mem_cons_of_mem _ member))
      (by omega : k + 1 + visits.length = _)
    have piece : (readPiece linear length k (some bytes)).length =
        Pages.countOf nestedPage linear.toNat length.toNat k := by
      simp [readPiece, pageBytes]
    rw [visitedBytes, List.length_append, rest, piece]
    omega

/-- Each byte of the range comes from the visit of its page. -/
theorem visitedBytes_get {k : Nat} {visits : List (U64 × Option (Nat → U8))}
    (nonempty : 0 < length.toNat) (passed : ∀ visit ∈ visits, visit.2.isSome = true)
    (complete : k + visits.length = pageCount linear length) {address : Nat}
    (entered : Pages.firstOf nestedPage linear.toNat k ≤ address)
    (inside : address < linear.toNat + length.toNat) :
    k ≤ pageOf linear address ∧ ∃ guestPhysical bytes,
      visits[pageOf linear address - k]? = some (guestPhysical, some bytes) ∧
      (visitedBytes (readPiece linear length) k visits)[address -
        Pages.firstOf nestedPage linear.toNat k]? =
          some (bytes (address - Pages.firstOf nestedPage linear.toNat (pageOf linear address))) := by
  have page : 0 < nestedPage := by decide
  have start := @Pages.le_firstOf nestedPage linear.toNat page k
  induction visits generalizing k with
  | nil =>
    have behind : ¬k < pageCount linear length := by simp at complete; omega
    exact absurd ((Pages.lt_touched_iff page nonempty).mpr (by omega)) behind
  | cons visit visits ih =>
    obtain ⟨guestPhysical, answer⟩ := visit
    obtain ⟨bytes, rfl⟩ := Option.isSome_iff_exists.mp (passed _ List.mem_cons_self)
    rw [List.length_cons] at complete
    have count := @Pages.firstOf_add_countOf nestedPage linear.toNat length.toNat page k (by omega)
    have order := @Pages.firstOf_lt_succ nestedPage linear.toNat page k
    have piece : (readPiece linear length k (some bytes)).length =
        Pages.countOf nestedPage linear.toNat length.toNat k := by
      simp [readPiece, pageBytes]
    rw [visitedBytes]
    by_cases first : address < Pages.firstOf nestedPage linear.toNat (k + 1)
    · have index : pageOf linear address = k :=
        (Pages.indexOf_eq_iff page (by omega)).mpr ⟨entered, first⟩
      rw [index, Nat.sub_self]
      have within : address - Pages.firstOf nestedPage linear.toNat k < pageBytes linear length k := by
        unfold pageBytes
        omega
      refine ⟨le_rfl, guestPhysical, bytes, rfl, ?_⟩
      rw [List.getElem?_append_left (by rw [piece]; exact within)]
      simp [readPiece, within]
    · obtain ⟨later, found, bytes', visit, byte⟩ :=
        ih (fun visit member => passed visit (List.mem_cons_of_mem _ member))
          (by omega : k + 1 + visits.length = _) (by omega)
          (@Pages.le_firstOf nestedPage linear.toNat page (k + 1))
      have behind : pageOf linear address - k = pageOf linear address - (k + 1) + 1 := by omega
      have offset : address - Pages.firstOf nestedPage linear.toNat k -
          Pages.countOf nestedPage linear.toNat length.toNat k =
            address - Pages.firstOf nestedPage linear.toNat (k + 1) := by
        omega
      refine ⟨by omega, found, bytes', ?_, ?_⟩
      · rw [behind, List.getElem?_cons_succ]
        exact visit
      · rw [List.getElem?_append_right (by rw [piece]; omega), piece, offset]
        exact byte

theorem pageBytes_toNat (linear : U64) (length : U32) (k : Nat) :
    (BitVec.ofNat 32 (pageBytes linear length k) : U32).toNat = pageBytes linear length k := by
  have page : 0 < nestedPage := by decide
  have start := @Pages.le_firstOf nestedPage linear.toNat page k
  have whole := length.isLt
  have part : pageBytes linear length k ≤
      linear.toNat + length.toNat - Pages.firstOf nestedPage linear.toNat k := Nat.min_le_left _ _
  rw [BitVec.toNat_ofNat, Nat.mod_eq_of_lt (by omega)]

/-- How `ReadLinear` goes over its range: the pages it moved, and how it ended. -/
structure ReadWalk (linear : U64) (length : U32) (access : NestedMemoryAccess)
    (result : Option (List U8)) (calls : List MemoryCall)
    (visits : List (U64 × Option (Nat → U8))) (last : List MemoryCall) : Prop where
  inOrder : calls = visitedCalls linear access (readMove linear length) 0 visits ++ last
  passed : ∀ visit ∈ visits, visit.2.isSome = true
  below : ∀ k < visits.length, Pages.firstOf nestedPage linear.toNat k < 2 ^ 64
  stop : WalkStop linear length access (readMove linear length) Option.isSome visits.length
    result.isSome last
  size : ∀ buffer, result = some buffer → buffer.length = length.toNat
  moved : ∀ buffer, result = some buffer → ∀ i < length.toNat, ∃ guestPhysical bytes,
    visits[pageOf linear (linear.toNat + i)]? = some (guestPhysical, some bytes) ∧
    buffer[i]? = some (bytes (linear.toNat + i -
      Pages.firstOf nestedPage linear.toNat (pageOf linear (linear.toNat + i))))

/-- How `WriteLinear` goes over its range. -/
structure WriteWalk (linear : U64) (buffer : List U8) (length : U32) (result : Bool)
    (calls : List MemoryCall) (visits : List (U64 × Bool)) (last : List MemoryCall) : Prop where
  inOrder : calls = visitedCalls linear .Write (writeMove linear length buffer) 0 visits ++ last
  passed : ∀ visit ∈ visits, visit.2 = true
  below : ∀ k < visits.length, Pages.firstOf nestedPage linear.toNat k < 2 ^ 64
  stop : WalkStop linear length .Write (writeMove linear length buffer) id visits.length result last
  moved : result = true → ∀ i < length.toNat, ∃ guestPhysical,
    visits[pageOf linear (linear.toNat + i)]? = some (guestPhysical, true) ∧
    ((buffer.drop (Pages.firstOf nestedPage linear.toNat (pageOf linear (linear.toNat + i)) -
        linear.toNat)).take (pageBytes linear length (pageOf linear (linear.toNat + i))))[
      linear.toNat + i -
        Pages.firstOf nestedPage linear.toNat (pageOf linear (linear.toNat + i))]? = buffer[i]?

theorem firstAddress_zero (linear : U64) : firstAddress linear 0 = linear := by
  apply BitVec.eq_of_toNat_eq
  rw [firstAddress, Pages.firstOf_zero, BitVec.toNat_ofNat, Nat.mod_eq_of_lt linear.isLt]

theorem length_pos {length : U32} (nonempty : length ≠ 0) : 0 < length.toNat :=
  Nat.pos_of_ne_zero fun zero => nonempty (BitVec.eq_of_toNat_eq (by rw [zero]; rfl))

theorem remaining_zero (linear : U64) (length : U32) :
    (BitVec.ofNat 32 (linear.toNat + length.toNat - Pages.firstOf nestedPage linear.toNat 0) : U32) =
      length := by
  apply BitVec.eq_of_toNat_eq
  have whole := length.isLt
  rw [Pages.firstOf_zero, BitVec.toNat_ofNat, Nat.mod_eq_of_lt (by omega)]
  omega

theorem pageOf_spec {linear : U64} {length : U32} {i : Nat} (inside : i < length.toNat) :
    pageOf linear (linear.toNat + i) < pageCount linear length ∧
      Pages.firstOf nestedPage linear.toNat (pageOf linear (linear.toNat + i)) ≤ linear.toNat + i ∧
      linear.toNat + i < Pages.firstOf nestedPage linear.toNat (pageOf linear (linear.toNat + i)) +
        pageBytes linear length (pageOf linear (linear.toNat + i)) := by
  have page : 0 < nestedPage := by decide
  have counted := (Pages.counted_iff (k := pageOf linear (linear.toNat + i)) page
    (Nat.le_add_right _ i) (by omega : linear.toNat + i < linear.toNat + length.toNat)).mpr rfl
  exact ⟨Pages.indexOf_lt_touched page (Nat.le_add_right _ i) (by omega), counted⟩

/-- A whole loop, from the first byte of its range. -/
theorem transferLoop_visits {memory : NestedMemory σ}
    {translate : σ → U64 → NestedMemoryAccess → Option U64 × σ}
    (present : memory.translate = some translate) (access : NestedMemoryAccess)
    {transfer : Nat → U32 → U64 → σ × List MemoryCall →
      Option (List U8) × (σ × List MemoryCall)}
    {linear : U64} {length : U32} {move : Nat → U64 → ω → MemoryCall} {passes : ω → Bool}
    {piece : Nat → ω → List U8}
    (moves : ∀ k < pageCount linear length, ∀ guestPhysical s, ∃ answer context,
      transfer (Pages.firstOf nestedPage linear.toNat k - linear.toNat)
          (BitVec.ofNat 32 (pageBytes linear length k)) guestPhysical s =
        (if passes answer then some (piece k answer) else none,
          (context, s.2 ++ [move k guestPhysical answer])))
    (nonempty : length ≠ 0) :
    ∃ visits last succeeded context,
      transferLoop (recording memory) access transfer length.toNat 0 length linear
          (recording memory).context =
        (if succeeded then some (visitedBytes piece 0 visits) else none,
          (context, visitedCalls linear access move 0 visits ++ last)) ∧
      (∀ visit ∈ visits, passes visit.2 = true) ∧
      WalkStop linear length access move passes visits.length succeeded last := by
  have enough : linear.toNat + length.toNat - Pages.firstOf nestedPage linear.toNat 0 ≤
      length.toNat := by
    rw [Pages.firstOf_zero]
    omega
  have walks := @transferLoop_walks σ ω linear length memory translate present access transfer move
    passes piece moves (length_pos nonempty) length.toNat 0
  obtain ⟨visits, last, succeeded, context, run, passed, stop⟩ :=
    walks (Nat.succ_pos _) linear.isLt enough (recording memory).context
  rw [remaining_zero, firstAddress_zero, Pages.firstOf_zero, Nat.sub_self] at run
  rw [Nat.zero_add] at stop
  exact ⟨visits, last, succeeded, context, run, passed, stop⟩

theorem readTransfer_moves (read : σ → U64 → U32 → Option (Nat → U8) × σ) (linear : U64)
    (length : U32) (k done : Nat) (guestPhysical : U64) (s : σ × List MemoryCall) :
    ∃ answer context, readTransfer (recordedRead read) done
        (BitVec.ofNat 32 (pageBytes linear length k)) guestPhysical s =
      (if answer.isSome then some (readPiece linear length k answer) else none,
        (context, s.2 ++ [readMove linear length k guestPhysical answer])) := by
  refine ⟨(read s.1 guestPhysical (BitVec.ofNat 32 (pageBytes linear length k))).1,
    (read s.1 guestPhysical (BitVec.ofNat 32 (pageBytes linear length k))).2, ?_⟩
  have size := pageBytes_toNat linear length k
  unfold readTransfer recordedRead readMove
  rcases read s.1 guestPhysical (BitVec.ofNat 32 (pageBytes linear length k)) with ⟨bytes, context⟩
  cases bytes with
  | none => rfl
  | some bytes => simp [readPiece, size]

theorem writeTransfer_moves (write : σ → U64 → List U8 → Bool × σ) (buffer : List U8)
    (linear : U64) (length : U32) (k : Nat) (guestPhysical : U64) (s : σ × List MemoryCall) :
    ∃ answer context, writeTransfer (recordedWrite write) buffer
        (Pages.firstOf nestedPage linear.toNat k - linear.toNat)
        (BitVec.ofNat 32 (pageBytes linear length k)) guestPhysical s =
      (if id answer then some [] else none,
        (context, s.2 ++ [writeMove linear length buffer k guestPhysical answer])) := by
  have size := pageBytes_toNat linear length k
  unfold writeTransfer recordedWrite writeMove
  rw [size]
  dsimp only
  rcases write s.1 guestPhysical ((buffer.drop (Pages.firstOf nestedPage linear.toNat k -
    linear.toNat)).take (pageBytes linear length k)) with ⟨written, context⟩
  refine ⟨written, context, ?_⟩
  cases written <;> rfl

theorem readLinear_walk {memory : NestedMemory σ} {length : U32}
    (accepted : ¬Refusable memory length memory.read.isNone) (linear : U64)
    (access : NestedMemoryAccess) :
    ∃ visits last, ReadWalk linear length access
      (readLinear (recording memory) linear length access).1
      (readLinear (recording memory) linear length access).2.2 visits last := by
  obtain ⟨nonempty, ⟨translate, translates⟩, read, reads⟩ := present_of_not_refusable accepted
  have recordedTranslates : (recording memory).translate = some (recordedTranslate translate) := by
    simp only [recording, translates, Option.map_some]
  have recordedReads : (recording memory).read = some (recordedRead read) := by
    simp only [recording, reads, Option.map_some]
  have positive := length_pos nonempty
  obtain ⟨visits, last, succeeded, context, run, passed, stop⟩ :=
    transferLoop_visits translates access (fun k _ guestPhysical s =>
      readTransfer_moves read linear length k _ guestPhysical s) nonempty
  refine ⟨visits, last, ?_⟩
  rw [readLinear_eq recordedTranslates recordedReads nonempty, run]
  refine ⟨rfl, passed, fun k earlier => stop.below positive earlier, ?_, ?_, ?_⟩
  · cases succeeded <;> exact stop
  · rintro buffer returned
    cases stop with
    | done complete fits =>
      cases returned
      rw [visitedBytes_length positive passed (by rwa [Nat.zero_add]), Pages.firstOf_zero]
      omega
    | _ => contradiction
  · rintro buffer returned i inside
    cases stop with
    | done complete fits =>
      cases returned
      obtain ⟨-, guestPhysical, bytes, visit, byte⟩ :=
        visitedBytes_get positive passed (k := 0) (by rwa [Nat.zero_add])
          (Nat.le_add_right linear.toNat i) (by omega)
      rw [Pages.firstOf_zero, Nat.add_sub_cancel_left] at byte
      exact ⟨guestPhysical, bytes, visit, byte⟩
    | _ => contradiction

theorem writeLinear_walk {memory : NestedMemory σ} {length : U32}
    (accepted : ¬Refusable memory length memory.write.isNone) (linear : U64) (buffer : List U8) :
    ∃ visits last, WriteWalk linear buffer length
      (writeLinear (recording memory) linear buffer length).1
      (writeLinear (recording memory) linear buffer length).2.2 visits last := by
  obtain ⟨nonempty, ⟨translate, translates⟩, write, writes⟩ := present_of_not_refusable accepted
  have recordedTranslates : (recording memory).translate = some (recordedTranslate translate) := by
    simp only [recording, translates, Option.map_some]
  have recordedWrites : (recording memory).write = some (recordedWrite write) := by
    simp only [recording, writes, Option.map_some]
  obtain ⟨visits, last, succeeded, context, run, passed, stop⟩ :=
    transferLoop_visits translates .Write (fun k _ guestPhysical s =>
      writeTransfer_moves write buffer linear length k guestPhysical s) nonempty
  have result : (writeLinear (recording memory) linear buffer length).1 = succeeded := by
    rw [writeLinear_eq recordedTranslates recordedWrites nonempty, run]
    cases succeeded <;> rfl
  have calls : (writeLinear (recording memory) linear buffer length).2.2 =
      visitedCalls linear .Write (writeMove linear length buffer) 0 visits ++ last := by
    rw [writeLinear_eq recordedTranslates recordedWrites nonempty, run]
    rfl
  rw [result]
  refine ⟨visits, last, calls, passed, fun k earlier => stop.below (length_pos nonempty) earlier,
    stop, ?_⟩
  rintro rfl i inside
  cases stop with
  | done complete fits =>
    obtain ⟨here, entered, within⟩ := @pageOf_spec linear length i inside
    have start := @Pages.le_firstOf nestedPage linear.toNat (by decide)
      (pageOf linear (linear.toNat + i))
    have visited : pageOf linear (linear.toNat + i) < visits.length := by omega
    rcases visit : visits[pageOf linear (linear.toNat + i)] with ⟨guestPhysical, written⟩
    have success : written = true := passed (guestPhysical, written)
      (visit ▸ List.getElem_mem visited)
    refine ⟨guestPhysical, ?_, ?_⟩
    · rw [List.getElem?_eq_getElem visited, visit, success]
    · have offset : Pages.firstOf nestedPage linear.toNat (pageOf linear (linear.toNat + i)) -
          linear.toNat + (linear.toNat + i -
            Pages.firstOf nestedPage linear.toNat (pageOf linear (linear.toNat + i))) = i := by
        omega
      rw [List.getElem?_take_of_lt (by omega), List.getElem?_drop, offset]

/-- The pages of a range are cut at the 4 KiB boundaries of linear addresses: each
byte is counted for the page it lies on, and a page is entered at the least
address that the range has on it. -/
theorem pages_of_range (linear : U64) (length : U32) :
    (∀ address, linear.toNat ≤ address → address < linear.toNat + length.toNat →
      ∀ k, Pages.firstOf nestedPage linear.toNat k ≤ address ∧
          address < Pages.firstOf nestedPage linear.toNat k + pageBytes linear length k ↔
        k < pageCount linear length ∧ address / 4096 = linear.toNat / 4096 + k) ∧
    (length ≠ 0 → ∀ k < pageCount linear length,
      IsLeast {address | linear.toNat ≤ address ∧ address < linear.toNat + length.toNat ∧
        address / 4096 = linear.toNat / 4096 + k} (Pages.firstOf nestedPage linear.toNat k)) := by
  have page : 0 < nestedPage := by decide
  have quotient (address k : Nat) (inside : linear.toNat ≤ address) :
      Pages.indexOf nestedPage linear.toNat address = k ↔
        address / 4096 = linear.toNat / 4096 + k := by
    have order := Nat.div_le_div_right (c := 4096) inside
    unfold Pages.indexOf
    rw [nestedPage_eq]
    omega
  refine ⟨fun address inside before k => ?_, fun nonempty k here => ?_⟩
  · rw [← quotient address k inside]
    refine (Pages.counted_iff page inside before).trans ⟨fun index => ⟨?_, index⟩, And.right⟩
    rw [← index]
    exact Pages.indexOf_lt_touched page inside before
  · have least := Pages.isLeast_firstOf page (length_pos nonempty) here
    have same : {address | linear.toNat ≤ address ∧ address < linear.toNat + length.toNat ∧
        address / 4096 = linear.toNat / 4096 + k} =
        {address | linear.toNat ≤ address ∧ address < linear.toNat + length.toNat ∧
          Pages.indexOf nestedPage linear.toNat address = k} := by
      ext address
      exact and_congr_right fun inside => and_congr_right fun _ => (quotient address k inside).symm
    rw [same]
    exact least

/-- `ReadLinear` and `WriteLinear` go over the pages of their range in order, and
move each byte with the page it lies on. The record of the calls shows it, and
changes nothing of what they do. -/
theorem linearAccess_by_pages (memory : NestedMemory σ) (linear : U64) (length : U32) :
    (∀ access,
      unrecorded (readLinear (recording memory) linear length access) =
        readLinear memory linear length access ∧
      (Refusable memory length memory.read.isNone →
        readLinear (recording memory) linear length access = (none, (memory.context, []))) ∧
      (¬Refusable memory length memory.read.isNone → ∃ visits last,
        ReadWalk linear length access (readLinear (recording memory) linear length access).1
          (readLinear (recording memory) linear length access).2.2 visits last)) ∧
    (∀ buffer,
      unrecorded (writeLinear (recording memory) linear buffer length) =
        writeLinear memory linear buffer length ∧
      (Refusable memory length memory.write.isNone →
        writeLinear (recording memory) linear buffer length = (false, (memory.context, []))) ∧
      (¬Refusable memory length memory.write.isNone → ∃ visits last,
        WriteWalk linear buffer length (writeLinear (recording memory) linear buffer length).1
          (writeLinear (recording memory) linear buffer length).2.2 visits last)) ∧
    (∀ address, linear.toNat ≤ address → address < linear.toNat + length.toNat →
      ∀ k, Pages.firstOf nestedPage linear.toNat k ≤ address ∧
          address < Pages.firstOf nestedPage linear.toNat k + pageBytes linear length k ↔
        k < pageCount linear length ∧ address / 4096 = linear.toNat / 4096 + k) ∧
    (length ≠ 0 → ∀ k < pageCount linear length,
      IsLeast {address | linear.toNat ≤ address ∧ address < linear.toNat + length.toNat ∧
        address / 4096 = linear.toNat / 4096 + k} (Pages.firstOf nestedPage linear.toNat k)) := by
  refine ⟨fun access => ⟨readLinear_recording memory linear length access, fun refused => ?_,
    fun accepted => readLinear_walk accepted linear access⟩,
    fun buffer => ⟨writeLinear_recording memory linear buffer length, fun refused => ?_,
      fun accepted => writeLinear_walk accepted linear buffer⟩, pages_of_range linear length⟩
  · have recorded : Refusable (recording memory) length (recording memory).read.isNone := by
      simpa [Refusable, recording] using refused
    exact readLinear_refuses recorded linear access
  · have recorded : Refusable (recording memory) length (recording memory).write.isNone := by
      simpa [Refusable, recording] using refused
    exact writeLinear_refuses recorded linear buffer

end Bytes

end Knhv.Nested
