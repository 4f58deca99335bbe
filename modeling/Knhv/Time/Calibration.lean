import Knhv.Lib.Truncation
import Knhv.Time.Monotonic

namespace Knhv.Time

/-- The second sample is later on both clocks. -/
structure Ordered (first second : TscQpcSample) : Prop where
  source : first.sourceTsc < second.sourceTsc
  reference : first.referenceTicks < second.referenceTicks

def sourceDelta (first second : TscQpcSample) : Nat :=
  second.sourceTsc.toNat - first.sourceTsc.toNat

def referenceDelta (first second : TscQpcSample) : Nat :=
  second.referenceTicks.toNat - first.referenceTicks.toNat

/-- The exact scale in parts of `2 ^ -32`, cut to a whole number. -/
def exactScale (first second : TscQpcSample) : Nat :=
  referenceDelta first second * 2 ^ 32 / sourceDelta first second

/-- The line through the two samples. -/
def sampleLine (first second : TscQpcSample) (sourceTsc : U64) : ℚ :=
  (first.referenceTicks.toNat : ℚ) +
    ((sourceTsc.toNat - first.sourceTsc.toNat : Nat) : ℚ) *
      (referenceDelta first second / sourceDelta first second)

/-- The transform that a calibration makes of its scale. -/
def calibratedTransform (first : TscQpcSample) (scale generation maxDriftTicks : U64) :
    TscTransform where
  size := sizeofTscTransform
  version := kTimeContractVersion
  baseTsc := first.sourceTsc
  baseVirtualTsc := first.referenceTicks
  scaleQ32_32 := scale
  offsetTicks := 0
  generation := generation
  lastVirtualTsc := first.referenceTicks
  maxDriftTicks := maxDriftTicks
  flags := kTimeFlagMonotonicClamp
  reserved := 0

theorem Ordered.runs {first second : TscQpcSample} (ordered : Ordered first second) :
    0 < sourceDelta first second := by
  have later := ordered.source
  rw [BitVec.lt_def] at later
  rw [sourceDelta]
  omega

theorem Ordered.toNat_source {first second : TscQpcSample} (ordered : Ordered first second) :
    (second.sourceTsc - first.sourceTsc).toNat = sourceDelta first second :=
  BitVec.toNat_sub_of_le (BitVec.le_of_lt ordered.source)

theorem Ordered.toNat_reference {first second : TscQpcSample} (ordered : Ordered first second) :
    (second.referenceTicks - first.referenceTicks).toNat = referenceDelta first second :=
  BitVec.toNat_sub_of_le (BitVec.le_of_lt ordered.reference)

/-- The two words that are divided are the widened difference. -/
theorem widened_words (delta : U64) :
    (delta >>> 32).toNat * 2 ^ 64 + (delta <<< 32).toNat = delta.toNat * 2 ^ 32 := by
  have bound := delta.isLt
  rw [BitVec.toNat_ushiftRight, BitVec.toNat_shiftLeft, Nat.shiftRight_eq_div_pow, Nat.shiftLeft_eq]
  omega

/-- The guard before the division asks exactly that the quotient fits. -/
theorem quotient_fits_iff (delta : U64) {divisor : U64} (positive : 0 < divisor.toNat) :
    delta >>> 32 < divisor ↔ delta.toNat * 2 ^ 32 / divisor.toNat < 2 ^ 64 := by
  have bound := delta.isLt
  rw [BitVec.lt_def, BitVec.toNat_ushiftRight, Nat.shiftRight_eq_div_pow,
    Nat.div_lt_iff_lt_mul positive]
  omega

theorem udiv128_widened {delta divisor : U64} (guarded : delta >>> 32 < divisor) :
    ∃ scale, udiv128 (delta >>> 32) (delta <<< 32) divisor = some scale ∧
      scale.toNat = delta.toNat * 2 ^ 32 / divisor.toNat := by
  have positive : 0 < divisor.toNat := by
    rw [BitVec.lt_def] at guarded
    omega
  have fits := (quotient_fits_iff delta positive).mp guarded
  refine ⟨_, if_neg (BitVec.not_le.mpr guarded), ?_⟩
  rw [widened_words, BitVec.toNat_ofNat, Nat.mod_eq_of_lt fits]

/-- How a calibration of two ordered samples ends. -/
theorem calibrateTscTransform_ordered {first second : TscQpcSample}
    (ordered : Ordered first second) {generation : U64} (named : generation ≠ 0)
    (maxDriftTicks : U64) :
    (∃ scale, calibrateTscTransform (some first) (some second) generation maxDriftTicks true =
          .Calibrated (calibratedTransform first scale generation maxDriftTicks) ∧
        scale.toNat = exactScale first second ∧ exactScale first second ≠ 0 ∧
        exactScale first second < 2 ^ 64) ∨
      (calibrateTscTransform (some first) (some second) generation maxDriftTicks true = .Failed ∧
        (exactScale first second = 0 ∨ 2 ^ 64 ≤ exactScale first second)) := by
  have accepted : ¬(!true || generation == 0 || decide (second.sourceTsc ≤ first.sourceTsc) ||
      decide (second.referenceTicks ≤ first.referenceTicks)) = true := by
    rw [beq_eq_false_iff_ne.mpr named, decide_eq_false (BitVec.not_le.mpr ordered.source),
      decide_eq_false (BitVec.not_le.mpr ordered.reference)]
    decide
  have positive : 0 < (second.sourceTsc - first.sourceTsc).toNat := by
    rw [ordered.toNat_source]
    exact ordered.runs
  have fits := quotient_fits_iff (second.referenceTicks - first.referenceTicks) positive
  rw [ordered.toNat_source, ordered.toNat_reference] at fits
  simp only [calibrateTscTransform, if_neg accepted]
  split
  · rename_i large
    refine Or.inr ⟨rfl, Or.inr ?_⟩
    by_contra small
    exact BitVec.not_lt.mpr large (fits.mpr (Nat.lt_of_not_le small))
  · rename_i guarded
    rw [BitVec.not_le] at guarded
    obtain ⟨scale, quotient, value⟩ := udiv128_widened guarded
    rw [ordered.toNat_source, ordered.toNat_reference] at value
    rw [quotient]
    dsimp only
    split
    · rename_i zero
      refine Or.inr ⟨rfl, Or.inl ?_⟩
      rw [exactScale, ← value, beq_iff_eq.mp zero]
      rfl
    · rename_i nonzero
      refine Or.inl ⟨scale, rfl, value, fun zero => nonzero ?_, fits.mp guarded⟩
      rw [beq_iff_eq]
      exact BitVec.eq_of_toNat_eq (value.trans zero)

theorem calibrateTscTransform_unnamed (first second : Option TscQpcSample)
    (maxDriftTicks : U64) (wanted : Bool) :
    calibrateTscTransform first second 0 maxDriftTicks wanted = .Failed := by
  cases first with
  | none => rfl
  | some first =>
    cases second with
    | none => rfl
    | some second =>
      rw [calibrateTscTransform, if_pos]
      simp

theorem ticks_calibrated {first second : TscQpcSample} {scale : U64}
    (generation maxDriftTicks : U64) (value : scale.toNat = exactScale first second) (sourceTsc : U64) :
    ticks (calibratedTransform first scale generation maxDriftTicks) sourceTsc =
      first.referenceTicks.toNat +
        Truncation.advance (2 ^ 32) (referenceDelta first second) (sourceDelta first second)
          (sourceTsc.toNat - first.sourceTsc.toNat) := by
  rw [ticks, Truncation.advance, Truncation.scale]
  simp only [calibratedTransform, value, exactScale]

/-- A calibrated transform between its samples. -/
theorem applyTscTransform_calibrated {first second : TscQpcSample} (ordered : Ordered first second)
    {scale generation : U64} (maxDriftTicks : U64) (named : generation ≠ 0)
    (value : scale.toNat = exactScale first second) (nonzero : exactScale first second ≠ 0)
    {sourceTsc : U64} (after : first.sourceTsc ≤ sourceTsc) (before : sourceTsc ≤ second.sourceTsc) :
    ∃ virtual : U64,
      applyTscTransform (calibratedTransform first scale generation maxDriftTicks) sourceTsc true =
        .ok virtual ∧
      virtual.toNat = first.referenceTicks.toNat +
        Truncation.advance (2 ^ 32) (referenceDelta first second) (sourceDelta first second)
          (sourceTsc.toNat - first.sourceTsc.toNat) := by
  have within : sourceTsc.toNat - first.sourceTsc.toNat ≤ sourceDelta first second := by
    rw [BitVec.le_def] at before
    rw [sourceDelta]
    omega
  have below := Truncation.advance_le (referenceDelta first second)
    (by decide : 0 < 2 ^ 32) ordered.runs within
  have counted := ticks_calibrated generation maxDriftTicks value sourceTsc
  have later := ordered.reference
  have inside := second.referenceTicks.isLt
  rw [BitVec.lt_def] at later
  have fits : ticks (calibratedTransform first scale generation maxDriftTicks) sourceTsc <
      2 ^ 64 := by
    rw [counted]
    rw [referenceDelta] at below ⊢
    omega
  have word : (BitVec.ofNat 64
      (ticks (calibratedTransform first scale generation maxDriftTicks) sourceTsc)).toNat =
        ticks (calibratedTransform first scale generation maxDriftTicks) sourceTsc := by
    rw [BitVec.toNat_ofNat]
    exact Nat.mod_eq_of_lt fits
  refine ⟨_, applyTscTransform_of_projects ?_ ?_ ⟨after, fits, ?_⟩ ?_, word.trans counted⟩
  · have scaled : scale ≠ 0 := by
      intro zero
      rw [zero] at value
      exact nonzero value.symm
    simp only [isTscTransformValid, calibratedTransform, bne_iff_ne.mpr scaled,
      bne_iff_ne.mpr named]
    decide
  · simp only [calibratedTransform]
    decide
  · rw [word, line]
    simp only [calibratedTransform]
    exact (Int.add_zero _).symm
  · rw [BitVec.le_def, word, counted]
    exact Nat.le_add_right _ _

/-- What a calibration from two samples is worth: its scale is exact, and
between the samples it follows their line from below, closer than one tick and
one part of the distance. -/
structure Accurate (first second : TscQpcSample) (transform : TscTransform) : Prop where
  scale : transform.scaleQ32_32.toNat = exactScale first second
  follows : ∀ sourceTsc : U64, first.sourceTsc ≤ sourceTsc → sourceTsc ≤ second.sourceTsc →
    ∃ virtual, applyTscTransform transform sourceTsc true = .ok virtual ∧
      first.referenceTicks ≤ virtual ∧
      (virtual.toNat : ℚ) ≤ sampleLine first second sourceTsc ∧
      sampleLine first second sourceTsc - virtual.toNat <
        ((sourceTsc.toNat - first.sourceTsc.toNat : Nat) : ℚ) / 2 ^ 32 + 1

theorem accurate_calibrated {first second : TscQpcSample} (ordered : Ordered first second)
    {scale generation maxDriftTicks : U64} (named : generation ≠ 0)
    (value : scale.toNat = exactScale first second) (nonzero : exactScale first second ≠ 0) :
    Accurate first second (calibratedTransform first scale generation maxDriftTicks) := by
  refine ⟨value, fun sourceTsc after before => ?_⟩
  obtain ⟨virtual, applied, reached⟩ := applyTscTransform_calibrated ordered
    maxDriftTicks named value nonzero after before
  refine ⟨virtual, applied, ?_, ?_, ?_⟩
  · rw [BitVec.le_def, reached]
    exact Nat.le_add_right _ _
  · rw [reached, sampleLine, Nat.cast_add]
    exact add_le_add_right (Truncation.advance_le_exact (by decide) ordered.runs) _
  · have close := Truncation.exact_sub_advance_lt (referenceDelta first second)
      (sourceTsc.toNat - first.sourceTsc.toNat) (by decide : 0 < 2 ^ 32) ordered.runs
    rw [reached, sampleLine, Nat.cast_add, add_sub_add_left_eq_sub]
    exact_mod_cast close

/-- The calibration, for all ordered samples: the division never faults, and
it fails only where no scale fits. -/
theorem calibrateTscTransform_accurate {first second : TscQpcSample}
    (ordered : Ordered first second) (generation maxDriftTicks : U64) :
    calibrateTscTransform (some first) (some second) generation maxDriftTicks true ≠ .Fault ∧
      (∀ transform,
        calibrateTscTransform (some first) (some second) generation maxDriftTicks true =
          .Calibrated transform → Accurate first second transform) ∧
      (generation ≠ 0 →
        (calibrateTscTransform (some first) (some second) generation maxDriftTicks true =
            .Failed ↔
          exactScale first second = 0 ∨ 2 ^ 64 ≤ exactScale first second)) := by
  by_cases named : generation = 0
  · rw [named, calibrateTscTransform_unnamed]
    exact ⟨nofun, nofun, fun other => absurd rfl other⟩
  rcases calibrateTscTransform_ordered ordered named maxDriftTicks with
    ⟨scale, made, value, nonzero, fits⟩ | ⟨failed, degenerate⟩
  · rw [made]
    refine ⟨nofun, fun transform same => ?_, fun _ => iff_of_false nofun ?_⟩
    · cases same
      exact accurate_calibrated ordered named value nonzero
    · rintro (zero | large)
      · exact nonzero zero
      · exact absurd fits (Nat.not_lt.mpr large)
  · rw [failed]
    exact ⟨nofun, nofun, fun _ => iff_of_true rfl degenerate⟩

/-- Two samples whose reference runs at a third of the source. -/
theorem calibrateTscTransform_accurate_third :
    Accurate ⟨1000, 2000⟩ ⟨4000, 3000⟩ (calibratedTransform ⟨1000, 2000⟩ 1431655765 3 4) :=
  (calibrateTscTransform_accurate ⟨by decide, by decide⟩ 3 4).2.1 _ (by rfl)

end Knhv.Time
