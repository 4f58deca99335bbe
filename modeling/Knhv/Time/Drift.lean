import Knhv.Time.Monotonic

namespace Knhv.Time

/-- The integers that a signed word holds. -/
def Representable (drift : Int) : Prop := -2 ^ 63 ≤ drift ∧ drift ≤ 2 ^ 63 - 1

/-- How far a virtual time is ahead of a reference. -/
def driftOf (value reference : U64) : Int := (value.toNat : Int) - reference.toNat

theorem toInt_representable (word : I64) : Representable word.toInt := by
  have signed := BitVec.toInt_eq_toNat_cond word
  have bound := word.isLt
  unfold Representable
  split at signed
  · omega
  · omega

/-- The difference is exact, and refused only where no signed word holds it. -/
theorem differenceToSigned_eq_some_iff {value reference : U64} {drift : I64} :
    differenceToSigned value reference = some drift ↔ drift.toInt = driftOf value reference := by
  have valueBound := value.isLt
  have referenceBound := reference.isLt
  have driftBound := drift.isLt
  have signed := BitVec.toInt_eq_toNat_cond drift
  have maximum : kI64Maximum.toNat = 2 ^ 63 - 1 := rfl
  have limit : (kI64Maximum + 1).toNat = 2 ^ 63 := rfl
  have minimum : kI64Minimum.toNat = 2 ^ 63 := rfl
  unfold differenceToSigned driftOf
  split
  · rename_i ahead
    have difference : (value - reference).toNat = value.toNat - reference.toNat :=
      BitVec.toNat_sub_of_le ahead
    rw [BitVec.le_def] at ahead
    dsimp only
    split
    · rename_i large
      rw [BitVec.lt_def, maximum, difference] at large
      simp only [reduceCtorEq, false_iff]
      split at signed
      · omega
      · omega
    · rename_i small
      rw [BitVec.lt_def, maximum, difference] at small
      rw [Option.some.injEq, BitVec.toNat_eq, difference]
      split at signed
      · omega
      · omega
  · rename_i behind
    rw [BitVec.le_def] at behind
    have difference : (reference - value).toNat = reference.toNat - value.toNat :=
      BitVec.toNat_sub_of_le (by rw [BitVec.le_def]; omega)
    dsimp only
    split
    · rename_i large
      rw [BitVec.lt_def, limit, difference] at large
      simp only [reduceCtorEq, false_iff]
      split at signed
      · omega
      · omega
    · rename_i inside
      rw [BitVec.lt_def, limit, difference] at inside
      split
      · rename_i corner
        rw [beq_iff_eq, BitVec.toNat_eq, difference, limit] at corner
        rw [Option.some.injEq, BitVec.toNat_eq, minimum]
        split at signed
        · omega
        · omega
      · rename_i other
        rw [beq_iff_eq, BitVec.toNat_eq, difference, limit] at other
        rw [Option.some.injEq, BitVec.toNat_eq, BitVec.toNat_neg, difference]
        split at signed
        · omega
        · omega

theorem differenceToSigned_eq_none_iff {value reference : U64} :
    differenceToSigned value reference = none ↔ ¬Representable (driftOf value reference) := by
  constructor
  · intro refused held
    have exact : (BitVec.ofInt 64 (driftOf value reference)).toInt = driftOf value reference := by
      rw [BitVec.toInt_ofInt]
      unfold Representable at held
      exact Int.bmod_eq_of_le (by omega) (by omega)
    rw [differenceToSigned_eq_some_iff.mpr exact] at refused
    cases refused
  · intro outside
    cases difference : differenceToSigned value reference with
    | none => rfl
    | some drift =>
      refine absurd ?_ outside
      rw [← differenceToSigned_eq_some_iff.mp difference]
      exact toInt_representable drift

/-- The absolute value is right at the smallest signed word too. -/
theorem toNat_absoluteDrift (drift : I64) : (absoluteDrift drift).toNat = drift.toInt.natAbs := by
  have signed := BitVec.toInt_eq_toNat_cond drift
  have bound := drift.isLt
  have one : (1 : I64).toNat = 1 := rfl
  unfold absoluteDrift
  split
  · rename_i negative
    simp only [BitVec.toNat_add, BitVec.toNat_neg, one]
    split at signed
    · omega
    · omega
  · rename_i positive
    split at signed
    · omega
    · omega

/-- How a sample is classified, from the drift as an integer. -/
structure Classified (transform : TscTransform) (drift : Int) (code : TimeResultCode)
    (observation : TimeObservation) : Prop where
  success : code = .Success ↔ Representable drift ∧ drift.natAbs ≤ transform.maxDriftTicks.toNat
  exceeded : code = .DriftExceeded ↔
    Representable drift ∧ transform.maxDriftTicks.toNat < drift.natAbs
  overflow : code = .Overflow ↔ ¬Representable drift
  ticks : Representable drift → observation.driftTicks.toInt = drift

theorem observeTimeSample_status {transform : Option TscTransform} {sourceTsc reference : U64}
    {wanted : Bool} {observation : TimeObservation}
    (written : (observeTimeSample transform sourceTsc reference wanted).2 = some observation) :
    observation.status = (observeTimeSample transform sourceTsc reference wanted).1.word := by
  revert written
  fun_cases observeTimeSample transform sourceTsc reference wanted with
  | case1 => nofun
  | case2 | case3 | case4 | case5 | case6 | case7 =>
    intro written
    cases written
    rfl

theorem valid_of_applied {transform : TscTransform} {sourceTsc value : U64}
    (applied : applyTscTransform transform sourceTsc true = .ok value) :
    isTscTransformValid transform = true := by
  by_contra invalid
  rw [applyTscTransform, if_pos (by simpa using invalid)] at applied
  cases applied

theorem observeTimeSample_classified {transform : TscTransform} {sourceTsc reference value : U64}
    (applied : applyTscTransform transform sourceTsc true = .ok value) :
    ∃ observation,
      (observeTimeSample (some transform) sourceTsc reference true).2 = some observation ∧
      Classified transform (driftOf value reference)
        (observeTimeSample (some transform) sourceTsc reference true).1 observation := by
  have valid := valid_of_applied applied
  simp only [observeTimeSample, valid, applied, Bool.not_true, Bool.false_eq_true, if_false]
  cases difference : differenceToSigned value reference with
  | none =>
    have outside := differenceToSigned_eq_none_iff.mp difference
    refine ⟨_, rfl, ⟨?_, ?_, ?_, fun held => absurd held outside⟩⟩
    · exact iff_of_false nofun fun held => outside held.1
    · exact iff_of_false nofun fun held => outside held.1
    · exact iff_of_true rfl outside
  | some drift =>
    have exact := differenceToSigned_eq_some_iff.mp difference
    have held : Representable (driftOf value reference) := exact ▸ toInt_representable drift
    dsimp only
    split
    · rename_i exceeded
      rw [BitVec.lt_def, toNat_absoluteDrift, exact] at exceeded
      refine ⟨_, rfl, ⟨?_, ?_, ?_, fun _ => exact⟩⟩
      · exact iff_of_false nofun fun within => absurd exceeded (Nat.not_lt.mpr within.2)
      · exact iff_of_true rfl ⟨held, exceeded⟩
      · exact iff_of_false nofun fun outside => outside held
    · rename_i within
      rw [BitVec.lt_def, toNat_absoluteDrift, exact, Nat.not_lt] at within
      refine ⟨_, rfl, ⟨?_, ?_, ?_, fun _ => exact⟩⟩
      · exact iff_of_true rfl ⟨held, within⟩
      · exact iff_of_false nofun fun beyond => absurd beyond.2 (Nat.not_lt.mpr within)
      · exact iff_of_false nofun fun outside => outside held

/-- The observation of a sample: the stored status is the returned code on
every path, and a value that the transform yields is classified by its exact
distance to the reference. -/
theorem observeTimeSample_exact :
    (∀ transform sourceTsc reference wanted observation,
      (observeTimeSample transform sourceTsc reference wanted).2 = some observation →
      observation.status = (observeTimeSample transform sourceTsc reference wanted).1.word) ∧
    ∀ transform sourceTsc reference value,
      applyTscTransform transform sourceTsc true = .ok value →
      ∃ observation,
        (observeTimeSample (some transform) sourceTsc reference true).2 = some observation ∧
        Classified transform (driftOf value reference)
          (observeTimeSample (some transform) sourceTsc reference true).1 observation :=
  ⟨fun _ _ _ _ _ written => observeTimeSample_status written,
    fun _ _ _ _ applied => observeTimeSample_classified applied⟩

/-- A transform that passes the source time on. -/
def identityTransform : TscTransform where
  size := sizeofTscTransform
  version := kTimeContractVersion
  baseTsc := 0
  baseVirtualTsc := 0
  scaleQ32_32 := 1 <<< 32
  offsetTicks := 0
  generation := 1
  lastVirtualTsc := 0
  maxDriftTicks := 4
  flags := 0
  reserved := 0

/-- The drift of -2 ^ 63 is still one that is told. -/
theorem observeTimeSample_exact_corner :
    ∃ observation,
      (observeTimeSample (some identityTransform) 0 0x8000000000000000 true).2 =
        some observation ∧
      Classified identityTransform (driftOf 0 0x8000000000000000)
        (observeTimeSample (some identityTransform) 0 0x8000000000000000 true).1 observation :=
  observeTimeSample_exact.2 identityTransform 0 0x8000000000000000 0 (by decide +kernel)

end Knhv.Time
