import Mathlib.Logic.Function.Basic
import Knhv.Lib.Bits
import Knhv.Lib.Run
import Knhv.Vmx.Checks

namespace Knhv.Vmx

/-- The bytes from the start of an MSR bitmap on. -/
abbrev MsrBitmap := Nat → U8

def msrBitmapPage : Nat := 4096

def orByte (bytes : MsrBitmap) (offset : Nat) (bit : U8) : MsrBitmap :=
  Function.update bytes offset (bytes offset ||| bit)

/-- The bit of an MSR, with the offsets of its read and of its write bitmap. -/
def msrBitmapPlace (msr : U32) : Option (U32 × Nat × Nat) :=
  if msr ≤ 0x1FFF then some (msr, 0, 0x800)
  else if 0xC0000000 ≤ msr && msr ≤ 0xC0001FFF then some (msr - 0xC0000000, 0x400, 0xC00)
  else none

def setMsrBitmapIntercept (bytes : MsrBitmap) (msr : U32) (interceptRead interceptWrite : Bool) :
    Bool × MsrBitmap :=
  match msrBitmapPlace msr with
  | none => (false, bytes)
  | some (bitIndex, readBase, writeBase) =>
    let byteIndex := (bitIndex >>> 3).toNat
    let bit : U8 := 1 <<< (bitIndex &&& 7).toNat
    let bytes := if interceptRead then orByte bytes (readBase + byteIndex) bit else bytes
    (true, if interceptWrite then orByte bytes (writeBase + byteIndex) bit else bytes)

/-- Nothing is configured for a vCPU without a bitmap. -/
def configureMsrBitmap (bitmap : Option MsrBitmap) : Bool × Option MsrBitmap :=
  match bitmap with
  | none => (false, none)
  | some bytes =>
    let zeroed : MsrBitmap := fun offset => if offset < msrBitmapPage then 0 else bytes offset
    let (done, bytes) := setMsrBitmapIntercept zeroed msrIa32Xss true true
    (done, some bytes)

/-! How the processor reads the page. -/

/-- The number of an MSR in one half of the page; there is none outside the two
ranges. -/
def msrNumber (msr : U32) : Option Nat :=
  if msr.toNat < 0x2000 then some msr.toNat
  else if 0xC0000000 ≤ msr.toNat ∧ msr.toNat < 0xC0002000 then
    some (0x2000 + (msr.toNat - 0xC0000000))
  else none

def halfOffset (write : Bool) : Nat := if write then 0x800 else 0

/-- An access exits if its bit is set, and always where it has none. -/
def msrExits (bytes : MsrBitmap) (write : Bool) (msr : U32) : Bool :=
  match msrNumber msr with
  | none => true
  | some number => (bytes (halfOffset write + number / 8)).getLsbD (number % 8)

theorem msrNumber_some {msr : U32} {number : Nat} (found : msrNumber msr = some number) :
    (number < 0x2000 ∧ msr.toNat = number) ∨
      (0x2000 ≤ number ∧ number < 0x4000 ∧ msr.toNat = 0xC0000000 + (number - 0x2000)) := by
  unfold msrNumber at found
  split at found
  · have same := Option.some.inj found
    omega
  · split at found
    · have same := Option.some.inj found
      omega
    · cases found

theorem msrNumber_lt {msr : U32} {number : Nat} (found : msrNumber msr = some number) :
    number < 0x4000 := by
  have := msrNumber_some found
  omega

theorem msrNumber_injective {msr other : U32} {number : Nat}
    (found : msrNumber msr = some number) (again : msrNumber other = some number) :
    msr = other := by
  have first := msrNumber_some found
  have second := msrNumber_some again
  exact BitVec.eq_of_toNat_eq (by omega)

/-! What the calls do to the page. -/

/-- The place that the call computes is the place that the processor reads. -/
theorem msrBitmapPlace_eq (msr : U32) :
    (msrNumber msr = none ∧ msrBitmapPlace msr = none) ∨
      ∃ number bitIndex readBase, msrNumber msr = some number ∧
        msrBitmapPlace msr = some (bitIndex, readBase, readBase + 0x800) ∧
        readBase + bitIndex.toNat / 8 = number / 8 ∧ bitIndex.toNat % 8 = number % 8 := by
  have low : msr ≤ 0x1FFF ↔ msr.toNat < 0x2000 := by
    rw [BitVec.le_def]
    exact Nat.lt_succ_iff.symm
  have high : (0xC0000000 : U32) ≤ msr ↔ 0xC0000000 ≤ msr.toNat := BitVec.le_def
  have top : msr ≤ (0xC0001FFF : U32) ↔ msr.toNat < 0xC0002000 := by
    rw [BitVec.le_def]
    exact Nat.lt_succ_iff.symm
  unfold msrNumber msrBitmapPlace
  simp only [low, high, top, Bool.and_eq_true, decide_eq_true_eq]
  split
  · exact .inr ⟨_, _, _, rfl, rfl, by omega, rfl⟩
  · split
    · rename_i inside
      have moved : (msr - 0xC0000000).toNat = msr.toNat - 0xC0000000 :=
        BitVec.toNat_sub_of_le (high.mpr inside.1)
      refine .inr ⟨_, _, _, rfl, rfl, ?_, ?_⟩
      · rw [moved]
        omega
      · rw [moved]
        omega
    · exact .inl ⟨rfl, rfl⟩

theorem getLsbD_orByte (bytes : MsrBitmap) (offset other : Nat) {bit : Nat} (inside : bit < 8)
    (tested : Nat) :
    (orByte bytes offset (1 <<< bit) other).getLsbD tested =
      ((bytes other).getLsbD tested || (decide (other = offset) && decide (tested = bit))) := by
  unfold orByte
  by_cases same : other = offset
  · subst same
    rw [Function.update_self, decide_eq_true rfl, Bool.true_and]
    exact Bits.getLsbD_or_one_shiftLeft (bytes other) inside tested
  · rw [Function.update_of_ne same, decide_eq_false same, Bool.false_and, Bool.or_false]

/-- A request for exits. -/
structure InterceptCall where
  msr : U32
  interceptRead : Bool
  interceptWrite : Bool

def InterceptCall.asks (call : InterceptCall) (write : Bool) (msr : U32) : Bool :=
  decide (call.msr = msr) && if write then call.interceptWrite else call.interceptRead

def interceptStep (bytes : MsrBitmap) (call : InterceptCall) : MsrBitmap :=
  (setMsrBitmapIntercept bytes call.msr call.interceptRead call.interceptWrite).2

/-- A call sets the bits it asks for and no other bit of memory. -/
theorem interceptStep_covered {call : InterceptCall} {number : Nat}
    (found : msrNumber call.msr = some number) (bytes : MsrBitmap) (offset tested : Nat) :
    (interceptStep bytes call offset).getLsbD tested = ((bytes offset).getLsbD tested ||
      (decide (tested = number % 8) &&
        ((call.interceptRead && decide (offset = number / 8)) ||
          (call.interceptWrite && decide (offset = 0x800 + number / 8))))) := by
  rcases msrBitmapPlace_eq call.msr with ⟨nowhere, -⟩ |
    ⟨_, bitIndex, readBase, here, place, byte, bit⟩
  · rw [nowhere] at found
    cases found
  rw [here] at found
  cases found
  have byteIndex : (bitIndex >>> 3).toNat = bitIndex.toNat / 8 := by
    rw [BitVec.toNat_ushiftRight, Nat.shiftRight_eq_div_pow]
  have bitNumber : (bitIndex &&& 7).toNat = number % 8 := by
    rw [BitVec.toNat_and]
    exact (Nat.and_two_pow_sub_one_eq_mod bitIndex.toNat 3).trans bit
  have writeByte : readBase + 0x800 + bitIndex.toNat / 8 = 0x800 + number / 8 := by omega
  have inside : number % 8 < 8 := Nat.mod_lt _ (by decide)
  simp only [interceptStep, setMsrBitmapIntercept, place, byteIndex, bitNumber, byte, writeByte]
  cases call.interceptRead <;> cases call.interceptWrite <;>
    simp only [reduceIte, Bool.false_eq_true, getLsbD_orByte _ _ _ inside] <;> grind

theorem interceptStep_uncovered {call : InterceptCall} (nowhere : msrNumber call.msr = none)
    (bytes : MsrBitmap) : interceptStep bytes call = bytes := by
  rcases msrBitmapPlace_eq call.msr with ⟨-, place⟩ | ⟨_, _, _, here, -⟩
  · simp only [interceptStep, setMsrBitmapIntercept, place]
  · rw [nowhere] at here
    cases here

/-- The accesses that exit after a call. -/
theorem interceptStep_msrExits (bytes : MsrBitmap) (call : InterceptCall) (write : Bool)
    (msr : U32) :
    msrExits (interceptStep bytes call) write msr =
      (msrExits bytes write msr || call.asks write msr) := by
  cases reached : msrNumber msr with
  | none => simp only [msrExits, reached, Bool.true_or]
  | some number =>
    cases found : msrNumber call.msr with
    | none =>
      have other : call.msr ≠ msr := by
        rintro rfl
        rw [found] at reached
        cases reached
      rw [interceptStep_uncovered found, InterceptCall.asks, decide_eq_false other, Bool.false_and,
        Bool.or_false]
    | some own =>
      have inside := msrNumber_lt reached
      have within := msrNumber_lt found
      have same : call.msr = msr ↔ own = number := by
        constructor
        · intro equal
          rw [equal, reached] at found
          exact (Option.some.inj found).symm
        · intro equal
          rw [equal] at found
          exact msrNumber_injective found reached
      simp only [msrExits, reached, interceptStep_covered found]
      congr 1
      rw [Bool.eq_iff_iff]
      simp only [InterceptCall.asks, Bool.and_eq_true, Bool.or_eq_true, decide_eq_true_eq, same]
      -- the byte tells the read half from the write half
      cases write with
      | false =>
        simp only [halfOffset, reduceIte, Bool.false_eq_true]
        constructor
        · rintro ⟨bit, ⟨asked, byte⟩ | ⟨asked, byte⟩⟩
          · exact ⟨by omega, asked⟩
          · omega
        · rintro ⟨rfl, asked⟩
          exact ⟨rfl, .inl ⟨asked, Nat.zero_add _⟩⟩
      | true =>
        simp only [halfOffset, reduceIte]
        constructor
        · rintro ⟨bit, ⟨asked, byte⟩ | ⟨asked, byte⟩⟩
          · omega
          · exact ⟨by omega, asked⟩
        · rintro ⟨rfl, asked⟩
          exact ⟨rfl, .inr ⟨asked, rfl⟩⟩

/-- A call stays inside the page. -/
theorem interceptStep_outside (bytes : MsrBitmap) (call : InterceptCall) {offset : Nat}
    (outside : msrBitmapPage ≤ offset) : interceptStep bytes call offset = bytes offset := by
  cases found : msrNumber call.msr with
  | none => rw [interceptStep_uncovered found]
  | some number =>
    have inside := msrNumber_lt found
    unfold msrBitmapPage at outside
    refine BitVec.eq_of_getLsbD_eq fun tested _ => ?_
    have low : offset ≠ number / 8 := by omega
    have high : offset ≠ 0x800 + number / 8 := by omega
    rw [interceptStep_covered found, decide_eq_false low, decide_eq_false high, Bool.and_false,
      Bool.and_false, Bool.or_false, Bool.and_false, Bool.or_false]

/-- The accesses that exit after any number of calls. -/
theorem interceptRun_msrExits (bytes : MsrBitmap) (calls : List InterceptCall) (write : Bool)
    (msr : U32) :
    msrExits (Run.after interceptStep bytes calls) write msr =
      (msrExits bytes write msr || calls.any (·.asks write msr)) := by
  induction calls generalizing bytes with
  | nil => exact (Bool.or_false _).symm
  | cons call rest ih =>
    rw [Run.after_cons, ih, interceptStep_msrExits, List.any_cons, Bool.or_assoc]

theorem interceptRun_outside (bytes : MsrBitmap) (calls : List InterceptCall) {offset : Nat}
    (outside : msrBitmapPage ≤ offset) :
    Run.after interceptStep bytes calls offset = bytes offset := by
  induction calls generalizing bytes with
  | nil => rfl
  | cons call rest ih => rw [Run.after_cons, ih, interceptStep_outside bytes call outside]

/-- The guarded selector of the extended state, in both directions. -/
def xssCall : InterceptCall := ⟨msrIa32Xss, true, true⟩

theorem configureMsrBitmap_some (bytes : MsrBitmap) :
    ∃ page, configureMsrBitmap (some bytes) = (true, some page) ∧
      page = interceptStep (fun offset => if offset < msrBitmapPage then 0 else bytes offset)
        xssCall :=
  ⟨_, rfl, rfl⟩

theorem msrExits_zeroed (bytes : MsrBitmap) (write : Bool) (msr : U32) :
    msrExits (fun offset => if offset < msrBitmapPage then 0 else bytes offset) write msr =
      (msrNumber msr).isNone := by
  unfold msrExits
  cases found : msrNumber msr with
  | none => rfl
  | some number =>
    have inside := msrNumber_lt found
    have half : halfOffset write ≤ 0x800 := by unfold halfOffset; split <;> omega
    have low : halfOffset write + number / 8 < msrBitmapPage := by
      unfold msrBitmapPage
      omega
    simp [low]

/-- From the configuration of a vCPU on, exactly these accesses exit: to
IA32_XSS, to an MSR outside both ranges, and what later calls ask for. The
memory behind the page is left alone. -/
theorem msrBitmap_exact (bytes : MsrBitmap) (calls : List InterceptCall) :
    ∃ page, configureMsrBitmap (some bytes) = (true, some page) ∧
      (∀ write msr, msrExits (Run.after interceptStep page calls) write msr = true ↔
        msr = msrIa32Xss ∨ msrNumber msr = none ∨ ∃ call ∈ calls, call.asks write msr = true) ∧
      ∀ offset, msrBitmapPage ≤ offset →
        Run.after interceptStep page calls offset = bytes offset := by
  obtain ⟨page, configured, shape⟩ := configureMsrBitmap_some bytes
  refine ⟨page, configured, fun write msr => ?_, fun offset outside => ?_⟩
  · have asks : xssCall.asks write msr = decide (msr = msrIa32Xss) := by
      cases write <;> simp [InterceptCall.asks, xssCall, eq_comm]
    rw [interceptRun_msrExits, shape, interceptStep_msrExits, msrExits_zeroed, asks]
    simp only [Bool.or_eq_true, decide_eq_true_eq, Option.isNone_iff_eq_none, List.any_eq_true]
    constructor
    · rintro ((none | xss) | asked)
      · exact .inr (.inl none)
      · exact .inl xss
      · exact .inr (.inr asked)
    · rintro (xss | none | asked)
      · exact .inl (.inr xss)
      · exact .inl (.inl none)
      · exact .inr asked
  · have behind : ¬offset < msrBitmapPage := Nat.not_lt.mpr outside
    rw [interceptRun_outside page calls outside, shape, interceptStep_outside _ _ outside,
      if_neg behind]

end Knhv.Vmx
