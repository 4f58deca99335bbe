import Mathlib.Algebra.Group.Nat.Defs
import Knhv.Abi

namespace Knhv.Time

/-- The signed words of the source; they are read through `toInt`. -/
abbrev I64 := BitVec 64

def kTimeContractVersion : U32 := 1
def kTimeMaxStructSize : U32 := 4096
def kTimeFlagInvariantTsc : U32 := 1 <<< 0
def kTimeFlagMonotonicClamp : U32 := 1 <<< 1
def kTimeFlagPaused : U32 := 1 <<< 2
def kTimeKnownFlagMask : U32 :=
  kTimeFlagInvariantTsc ||| kTimeFlagMonotonicClamp ||| kTimeFlagPaused

def kI64Maximum : I64 := 9223372036854775807
def kI64Minimum : I64 := -9223372036854775807 - 1

inductive TimeResultCode
  | Success | Invalid | Overflow | NonMonotonic | DriftExceeded | GenerationMismatch | Paused
  deriving DecidableEq, Repr

/-- The code as the word that an observation stores. -/
def TimeResultCode.word : TimeResultCode → U32
  | .Success => 0
  | .Invalid => 1
  | .Overflow => 2
  | .NonMonotonic => 3
  | .DriftExceeded => 4
  | .GenerationMismatch => 5
  | .Paused => 6

def sizeofTscTransform : U32 := 72
def sizeofTimeObservation : U32 := 48

structure TscTransform where
  size : U32
  version : U32
  baseTsc : U64
  baseVirtualTsc : U64
  scaleQ32_32 : U64
  offsetTicks : I64
  generation : U64
  lastVirtualTsc : U64
  maxDriftTicks : U64
  flags : U32
  reserved : U32
  deriving DecidableEq

structure TscQpcSample where
  sourceTsc : U64
  referenceTicks : U64
  deriving DecidableEq

structure TimeObservation where
  size : U32
  version : U32
  virtualTsc : U64
  referenceTicks : U64
  driftTicks : I64
  generation : U64
  status : U32
  reserved : U32
  deriving DecidableEq

def isVersionedSizeValid (version size required : U32) : Bool :=
  version == kTimeContractVersion && required ≤ size && size ≤ kTimeMaxStructSize

/-! The arithmetic helpers return nothing where the source returns `false`. -/

def addUnsigned (left right : U64) : Option U64 :=
  if ~~~0 - right < left then none else some (left + right)

def addSigned (value : U64) (offset : I64) : Option U64 :=
  if 0 ≤ offset.toInt then addUnsigned value offset
  else
    let magnitude := -(offset + 1) + 1
    if value < magnitude then none else some (value - magnitude)

/-- The high and the low word of the product, as `_umul128` returns them. -/
def umul128 (left right : U64) : U64 × U64 :=
  let product := left.toNat * right.toNat
  (BitVec.ofNat 64 (product >>> 64), BitVec.ofNat 64 product)

def multiplyShift32 (left right : U64) : Option U64 :=
  let (high, low) := umul128 left right
  if 0xFFFFFFFF < high then none else some ((high <<< 32) ||| (low >>> 32))

/-- The quotient of a word pair, as `_udiv128` returns it; nothing where the
processor raises its divide fault. -/
def udiv128 (high low divisor : U64) : Option U64 :=
  if divisor ≤ high then none
  else some (BitVec.ofNat 64 ((high.toNat * 2 ^ 64 + low.toNat) / divisor.toNat))

-- The comparison with the largest positive value is one of unsigned words.
def differenceToSigned (value reference : U64) : Option I64 :=
  if reference ≤ value then
    let difference := value - reference
    if kI64Maximum < difference then none else some difference
  else
    let difference := reference - value
    let negativeLimit := kI64Maximum + 1
    if negativeLimit < difference then none
    else if difference == negativeLimit then some kI64Minimum
    else some (-difference)

/-- The projection without its check of the source time; every step of it that
fails is an overflow. -/
def projectTicks (transform : TscTransform) (sourceTsc : U64) : Option U64 :=
  (multiplyShift32 (sourceTsc - transform.baseTsc) transform.scaleQ32_32).bind fun scaled =>
    (addUnsigned transform.baseVirtualTsc scaled).bind fun candidate =>
      addSigned candidate transform.offsetTicks

/-- The value, or the code of the failure. -/
def projectTscTransform (transform : TscTransform) (sourceTsc : U64) :
    Except TimeResultCode U64 :=
  if sourceTsc < transform.baseTsc then .error .NonMonotonic
  else
    match projectTicks transform sourceTsc with
    | none => .error .Overflow
    | some candidate => .ok candidate

def isTscTransformValid (transform : TscTransform) : Bool :=
  isVersionedSizeValid transform.version transform.size sizeofTscTransform &&
  transform.scaleQ32_32 != 0 && transform.generation != 0 &&
  transform.flags &&& ~~~kTimeKnownFlagMask == 0 && transform.reserved == 0

/-- The value is returned only if the caller passes a place for it. -/
def applyTscTransform (transform : TscTransform) (sourceTsc : U64) (wanted : Bool) :
    Except TimeResultCode U64 :=
  if !wanted || !isTscTransformValid transform then .error .Invalid
  else if transform.flags &&& kTimeFlagPaused != 0 then .error .Paused
  else
    match projectTscTransform transform sourceTsc with
    | .error status => .error status
    | .ok candidate =>
      if transform.lastVirtualTsc != 0 && candidate < transform.lastVirtualTsc then
        if transform.flags &&& kTimeFlagMonotonicClamp == 0 then .error .NonMonotonic
        else .ok transform.lastVirtualTsc
      else .ok candidate

/-- The observation before anything has been observed. -/
def emptyObservation : TimeObservation where
  size := sizeofTimeObservation
  version := kTimeContractVersion
  virtualTsc := 0
  referenceTicks := 0
  driftTicks := 0
  generation := 0
  status := 0
  reserved := 0

/-- The size of a drift as an unsigned word. -/
def absoluteDrift (drift : I64) : U64 := if drift.toInt < 0 then -(drift + 1) + 1 else drift

/-- The observation is written only if the caller passes a place for it. -/
def observeTimeSample (transform : Option TscTransform) (sourceTsc referenceTicks : U64)
    (wanted : Bool) : TimeResultCode × Option TimeObservation :=
  if !wanted then (.Invalid, none)
  else
    match transform with
    | none => (.Invalid, some { emptyObservation with status := TimeResultCode.Invalid.word })
    | some transform =>
      if !isTscTransformValid transform then
        (.Invalid, some { emptyObservation with status := TimeResultCode.Invalid.word })
      else
        let observation :=
          { emptyObservation with
            generation := transform.generation
            referenceTicks := referenceTicks }
        match applyTscTransform transform sourceTsc true with
        | .error status => (status, some { observation with status := status.word })
        | .ok virtualTsc =>
          let observation := { observation with virtualTsc := virtualTsc }
          match differenceToSigned virtualTsc referenceTicks with
          | none => (.Overflow, some { observation with status := TimeResultCode.Overflow.word })
          | some drift =>
            let observation := { observation with driftTicks := drift }
            if transform.maxDriftTicks < absoluteDrift drift then
              (.DriftExceeded, some
                { observation with status := TimeResultCode.DriftExceeded.word })
            else (.Success, some { observation with status := TimeResultCode.Success.word })

/-- How a calibration ends: `Fault` is the divide fault of the processor. -/
inductive Calibration
  | Fault
  | Failed
  | Calibrated (transform : TscTransform)
  deriving DecidableEq

def calibrateTscTransform (first second : Option TscQpcSample) (generation maxDriftTicks : U64)
    (wanted : Bool) : Calibration :=
  match first, second with
  | some first, some second =>
    if !wanted || generation == 0 || second.sourceTsc ≤ first.sourceTsc ||
        second.referenceTicks ≤ first.referenceTicks then
      .Failed
    else
      let sourceDelta := second.sourceTsc - first.sourceTsc
      let referenceDelta := second.referenceTicks - first.referenceTicks
      let high := referenceDelta >>> 32
      let low := referenceDelta <<< 32
      if sourceDelta ≤ high then .Failed
      else
        match udiv128 high low sourceDelta with
        | none => .Fault
        | some scale =>
          if scale == 0 then .Failed
          else
            .Calibrated
              { size := sizeofTscTransform
                version := kTimeContractVersion
                baseTsc := first.sourceTsc
                baseVirtualTsc := first.referenceTicks
                scaleQ32_32 := scale
                offsetTicks := 0
                generation := generation
                lastVirtualTsc := first.referenceTicks
                maxDriftTicks := maxDriftTicks
                flags := kTimeFlagMonotonicClamp
                reserved := 0 }
  | _, _ => .Failed

def rebaseTscTransform (transform : TscTransform) (sourceTsc minimumVirtualTsc : U64) :
    Bool × TscTransform :=
  if !isTscTransformValid transform || transform.flags &&& kTimeFlagPaused != 0 then
    (false, transform)
  else
    match projectTscTransform transform sourceTsc with
    | .error _ => (false, transform)
    | .ok projected =>
      let target :=
        if minimumVirtualTsc < transform.lastVirtualTsc then transform.lastVirtualTsc
        else minimumVirtualTsc
      if projected < target then
        let delta := target - projected
        if kI64Maximum < delta then (false, transform)
        else if (kI64Maximum - delta).toInt < transform.offsetTicks.toInt then (false, transform)
        else
          (true,
            { transform with
              offsetTicks := transform.offsetTicks + delta
              lastVirtualTsc := target })
      else (true, { transform with lastVirtualTsc := target })

theorem addUnsigned_eq_some_iff {left right sum : U64} :
    addUnsigned left right = some sum ↔ sum.toNat = left.toNat + right.toNat := by
  have leftBound := left.isLt
  have rightBound := right.isLt
  have largest : (~~~0 : U64).toNat = 2 ^ 64 - 1 := rfl
  have limit : (~~~0 - right : U64).toNat = 2 ^ 64 - 1 - right.toNat := by
    rw [BitVec.toNat_sub, largest]
    omega
  unfold addUnsigned
  split
  · rename_i above
    rw [BitVec.lt_def, limit] at above
    have := sum.isLt
    simp only [reduceCtorEq, false_iff]
    omega
  · rename_i within
    rw [BitVec.lt_def, limit] at within
    rw [Option.some.injEq, BitVec.toNat_eq, BitVec.toNat_add]
    omega

theorem addSigned_eq_some_iff {value : U64} {offset : I64} {sum : U64} :
    addSigned value offset = some sum ↔ (sum.toNat : Int) = value.toNat + offset.toInt := by
  have bound := offset.isLt
  have signed := BitVec.toInt_eq_toNat_cond offset
  unfold addSigned
  split
  · rename_i positive
    rw [addUnsigned_eq_some_iff]
    split at signed
    · omega
    · omega
  · rename_i negative
    have one : (1 : I64).toNat = 1 := rfl
    have magnitude : (-(offset + 1) + 1 : I64).toNat = 2 ^ 64 - offset.toNat := by
      simp only [BitVec.toNat_add, BitVec.toNat_neg, one]
      split at signed
      · omega
      · omega
    have large : 2 ^ 63 ≤ offset.toNat := by
      split at signed
      · omega
      · omega
    have offsetValue : offset.toInt = offset.toNat - 2 ^ 64 := by
      split at signed
      · omega
      · omega
    have valueBound := value.isLt
    dsimp only
    split
    · rename_i below
      rw [BitVec.lt_def, magnitude] at below
      simp only [reduceCtorEq, false_iff]
      omega
    · rename_i within
      rw [BitVec.lt_def, magnitude] at within
      rw [Option.some.injEq, BitVec.toNat_eq, BitVec.toNat_sub, magnitude]
      omega

theorem combined_words {high low : U64} (small : high.toNat < 2 ^ 32) :
    ((high <<< 32) ||| (low >>> 32)).toNat = high.toNat * 2 ^ 32 + low.toNat / 2 ^ 32 := by
  have upper : high.toNat <<< 32 % 2 ^ 64 = high.toNat <<< 32 := by
    rw [Nat.shiftLeft_eq]
    omega
  have lower : low.toNat >>> 32 < 2 ^ 32 := by
    have := low.isLt
    rw [Nat.shiftRight_eq_div_pow]
    omega
  rw [BitVec.toNat_or, BitVec.toNat_shiftLeft, BitVec.toNat_ushiftRight, upper,
    ← Nat.shiftLeft_add_eq_or_of_lt lower, Nat.shiftLeft_eq, Nat.shiftRight_eq_div_pow]

theorem umul128_words (left right : U64) :
    (umul128 left right).1.toNat = left.toNat * right.toNat / 2 ^ 64 ∧
      (umul128 left right).2.toNat = left.toNat * right.toNat % 2 ^ 64 := by
  have product : left.toNat * right.toNat < 2 ^ 64 * 2 ^ 64 :=
    Nat.mul_lt_mul'' left.isLt right.isLt
  refine ⟨?_, BitVec.toNat_ofNat _ 64⟩
  rw [umul128, BitVec.toNat_ofNat, Nat.shiftRight_eq_div_pow]
  exact Nat.mod_eq_of_lt (Nat.div_lt_of_lt_mul product)

/-- The scaled product, cut to its integral part. -/
theorem multiplyShift32_eq_some_iff {left right scaled : U64} :
    multiplyShift32 left right = some scaled ↔
      scaled.toNat = left.toNat * right.toNat / 2 ^ 32 := by
  obtain ⟨high, low⟩ := umul128_words left right
  have limit : (0xFFFFFFFF : U64).toNat = 2 ^ 32 - 1 := rfl
  have scaledBound := scaled.isLt
  unfold multiplyShift32
  split
  rename_i highWord lowWord words
  rw [words] at high low
  generalize left.toNat * right.toNat = p at high low ⊢
  dsimp only at high low
  split
  · rename_i above
    rw [BitVec.lt_def, high, limit] at above
    simp only [reduceCtorEq, false_iff]
    omega
  · rename_i within
    rw [BitVec.lt_def, high, limit] at within
    rw [Option.some.injEq, BitVec.toNat_eq, combined_words (by omega), high, low]
    omega

end Knhv.Time
