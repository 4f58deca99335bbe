import Knhv.Ept.Hook

namespace Knhv.Ept

/-- The limit of a lease over a window, without rounding: the exits of the
window scaled to a second. -/
def RateWithin (lease : EptHookLease) (exitCount windowTsc tscHz : U64) : Prop :=
  exitCount.toNat * tscHz.toNat ≤ lease.maxExitsPerSecond.toNat * windowTsc.toNat

theorem toNat_limit (lease : EptHookLease) :
    (lease.maxExitsPerSecond.setWidth 64).toNat = lease.maxExitsPerSecond.toNat :=
  BitVec.toNat_setWidth_of_le (by decide)

/-- The exits that the whole seconds of a window allow. -/
def wholeSeconds (windowTsc tscHz : U64) : Nat := windowTsc.toNat / tscHz.toNat

/-- The products that an accepting check computes fit their words. -/
def NoWrap (lease : EptHookLease) (exitCount windowTsc tscHz : U64) : Prop :=
  if tscHz ≤ windowTsc then
    lease.maxExitsPerSecond.toNat * wholeSeconds windowTsc tscHz < 2 ^ 64
  else exitCount.toNat * tscHz.toNat < 2 ^ 64 ∧
    lease.maxExitsPerSecond.toNat * windowTsc.toNat < 2 ^ 64

/-- The two tests before the products of a window under a second. -/
def GuardsPass (lease : EptHookLease) (exitCount windowTsc tscHz : U64) : Prop :=
  ¬~~~0 / tscHz < exitCount ∧ ¬~~~0 / windowTsc < lease.maxExitsPerSecond.setWidth 64

theorem guardsPass_iff {lease : EptHookLease} {exitCount windowTsc tscHz : U64}
    (ticking : tscHz ≠ 0) (elapsed : windowTsc ≠ 0) :
    GuardsPass lease exitCount windowTsc tscHz ↔
      exitCount.toNat * tscHz.toNat < 2 ^ 64 ∧
        lease.maxExitsPerSecond.toNat * windowTsc.toNat < 2 ^ 64 := by
  have second : ¬~~~0 / windowTsc < lease.maxExitsPerSecond.setWidth 64 ↔
      (lease.maxExitsPerSecond.setWidth 64).toNat * windowTsc.toNat < 2 ^ 64 :=
    Checked.not_quotient_lt_iff elapsed
  rw [toNat_limit] at second
  exact and_congr (Checked.not_quotient_lt_iff ticking) second

theorem inputs_pass {lease : EptHookLease} {windowTsc tscHz : U64}
    (valid : isEptHookLeaseValid lease = true) (ticking : tscHz ≠ 0) (elapsed : windowTsc ≠ 0) :
    ¬(!isEptHookLeaseValid lease || tscHz == 0 || windowTsc == 0) = true := by
  rw [valid, Bool.or_eq_true, Bool.or_eq_true, beq_iff_eq, beq_iff_eq]
  rintro ((invalid | stopped) | empty)
  · cases invalid
  · exact ticking stopped
  · exact elapsed empty

/-- A window of whole seconds is checked against the exits of its seconds. -/
theorem isEptHookRateWithin_whole {lease : EptHookLease} {exitCount windowTsc tscHz : U64}
    (valid : isEptHookLeaseValid lease = true) (ticking : tscHz ≠ 0) (elapsed : windowTsc ≠ 0)
    (whole : tscHz ≤ windowTsc) :
    isEptHookRateWithin lease exitCount windowTsc tscHz = true ↔
      lease.maxExitsPerSecond.toNat * wholeSeconds windowTsc tscHz < 2 ^ 64 ∧
        exitCount.toNat ≤ lease.maxExitsPerSecond.toNat * wholeSeconds windowTsc tscHz := by
  have product : ∀ allowed,
      addMulOverflow (lease.maxExitsPerSecond.setWidth 64) (windowTsc / tscHz) = some allowed ↔
        allowed.toNat = lease.maxExitsPerSecond.toNat * wholeSeconds windowTsc tscHz := by
    intro allowed
    rw [addMulOverflow, Checked.mul_eq_some_iff, toNat_limit, BitVec.toNat_udiv, wholeSeconds]
  rw [isEptHookRateWithin, if_neg (inputs_pass valid ticking elapsed), if_pos whole]
  dsimp only
  split
  · rename_i overflow
    simp only [Bool.false_eq_true, false_iff, not_and]
    intro fits
    have := (product (BitVec.ofNat 64 _)).mpr (Nat.mod_eq_of_lt fits)
    rw [overflow] at this
    cases this
  · rename_i allowed fits
    have value := (product allowed).mp fits
    rw [decide_eq_true_eq, BitVec.le_def, ← value]
    exact ⟨fun within => ⟨allowed.isLt, within⟩, fun both => both.2⟩

/-- A window under a second is checked by its products. -/
theorem isEptHookRateWithin_partialSecond {lease : EptHookLease} {exitCount windowTsc tscHz : U64}
    (valid : isEptHookLeaseValid lease = true) (ticking : tscHz ≠ 0) (elapsed : windowTsc ≠ 0)
    (short : windowTsc < tscHz) :
    isEptHookRateWithin lease exitCount windowTsc tscHz = true ↔
      GuardsPass lease exitCount windowTsc tscHz ∧ RateWithin lease exitCount windowTsc tscHz := by
  rw [isEptHookRateWithin, if_neg (inputs_pass valid ticking elapsed),
    if_neg (BitVec.not_le.mpr short)]
  split
  · rename_i fires
    simp only [Bool.false_eq_true, false_iff, not_and]
    intro passes
    exact absurd fires (not_or.mpr passes)
  · rename_i passes
    have guards : GuardsPass lease exitCount windowTsc tscHz := not_or.mp passes
    obtain ⟨exits, limit⟩ := (guardsPass_iff ticking elapsed).mp guards
    have limitProduct : (lease.maxExitsPerSecond.setWidth 64 * windowTsc).toNat =
        lease.maxExitsPerSecond.toNat * windowTsc.toNat := by
      rw [Checked.toNat_mul_of_lt (by rw [toNat_limit]; exact limit), toNat_limit]
    rw [decide_eq_true_eq, BitVec.le_def, Checked.toNat_mul_of_lt exits, limitProduct]
    exact ⟨fun within => ⟨guards, within⟩, fun both => both.2⟩

/-- What an accepted rate has been tested for. -/
theorem isEptHookRateWithin_inputs {lease : EptHookLease} {exitCount windowTsc tscHz : U64}
    (within : isEptHookRateWithin lease exitCount windowTsc tscHz = true) :
    tscHz ≠ 0 ∧ windowTsc ≠ 0 := by
  unfold isEptHookRateWithin at within
  split at within
  · cases within
  · rename_i passed
    simp only [Bool.or_eq_true, beq_iff_eq, not_or] at passed
    exact ⟨passed.1.2, passed.2⟩

/-- Whole seconds round the limit down. -/
theorem rateWithin_of_whole {lease : EptHookLease} {exitCount windowTsc tscHz : U64}
    (within : exitCount.toNat ≤ lease.maxExitsPerSecond.toNat * wholeSeconds windowTsc tscHz) :
    RateWithin lease exitCount windowTsc tscHz := by
  calc
    exitCount.toNat * tscHz.toNat
      ≤ lease.maxExitsPerSecond.toNat * wholeSeconds windowTsc tscHz * tscHz.toNat :=
        Nat.mul_le_mul_right _ within
    _ = lease.maxExitsPerSecond.toNat * (windowTsc.toNat / tscHz.toNat * tscHz.toNat) := by
        rw [Nat.mul_assoc, wholeSeconds]
    _ ≤ lease.maxExitsPerSecond.toNat * windowTsc.toNat :=
        Nat.mul_le_mul_left _ (Nat.div_mul_le_self _ _)

theorem isEptHookRateWithin_limit {lease : EptHookLease} {exitCount windowTsc tscHz : U64}
    (valid : isEptHookLeaseValid lease = true)
    (accepts : isEptHookRateWithin lease exitCount windowTsc tscHz = true) :
    RateWithin lease exitCount windowTsc tscHz ∧ NoWrap lease exitCount windowTsc tscHz := by
  obtain ⟨ticking, elapsed⟩ := isEptHookRateWithin_inputs accepts
  unfold NoWrap
  split
  · rename_i whole
    obtain ⟨fits, within⟩ := (isEptHookRateWithin_whole valid ticking elapsed whole).mp accepts
    exact ⟨rateWithin_of_whole within, fits⟩
  · rename_i short
    obtain ⟨guards, within⟩ :=
      (isEptHookRateWithin_partialSecond valid ticking elapsed (BitVec.not_le.mp short)).mp accepts
    exact ⟨within, (guardsPass_iff ticking elapsed).mp guards⟩

theorem isEptHookRateWithin_antitone {lease : EptHookLease}
    {exitCount fewer windowTsc tscHz : U64} (valid : isEptHookLeaseValid lease = true)
    (less : fewer ≤ exitCount)
    (accepts : isEptHookRateWithin lease exitCount windowTsc tscHz = true) :
    isEptHookRateWithin lease fewer windowTsc tscHz = true := by
  obtain ⟨ticking, elapsed⟩ := isEptHookRateWithin_inputs accepts
  have scaled : fewer.toNat * tscHz.toNat ≤ exitCount.toNat * tscHz.toNat :=
    Nat.mul_le_mul_right _ less
  by_cases whole : tscHz ≤ windowTsc
  · rw [isEptHookRateWithin_whole valid ticking elapsed whole] at accepts ⊢
    exact ⟨accepts.1, Nat.le_trans less accepts.2⟩
  · have short := BitVec.not_le.mp whole
    rw [isEptHookRateWithin_partialSecond valid ticking elapsed short,
      guardsPass_iff ticking elapsed] at accepts ⊢
    obtain ⟨⟨exits, limit⟩, within⟩ := accepts
    exact ⟨⟨Nat.lt_of_le_of_lt scaled exits, limit⟩, Nat.le_trans scaled within⟩

/-- The check of the exit rate is sound: what it accepts is within the limit of
the lease over the natural numbers, fewer exits are accepted too, and a nonempty
window under a second is accepted exactly within the limit. -/
theorem isEptHookRateWithin_sound (lease : EptHookLease)
    (valid : isEptHookLeaseValid lease = true) (exitCount windowTsc tscHz : U64) :
    (isEptHookRateWithin lease exitCount windowTsc tscHz = true →
      RateWithin lease exitCount windowTsc tscHz ∧ NoWrap lease exitCount windowTsc tscHz) ∧
    (∀ fewer, fewer ≤ exitCount → isEptHookRateWithin lease exitCount windowTsc tscHz = true →
      isEptHookRateWithin lease fewer windowTsc tscHz = true) ∧
    (windowTsc ≠ 0 → windowTsc < tscHz → GuardsPass lease exitCount windowTsc tscHz →
      (isEptHookRateWithin lease exitCount windowTsc tscHz = true ↔
        RateWithin lease exitCount windowTsc tscHz)) := by
  refine ⟨isEptHookRateWithin_limit valid,
    fun fewer less => isEptHookRateWithin_antitone valid less, ?_⟩
  intro elapsed short guards
  have ticking : tscHz ≠ 0 := by
    rintro rfl
    exact Nat.not_lt_zero _ short
  rw [isEptHookRateWithin_partialSecond valid ticking elapsed short]
  exact ⟨fun both => both.2, fun within => ⟨guards, within⟩⟩

theorem isEptHookRateWithin_sound_debugLease :
    isEptHookLeaseValid debugLease = true ∧
      (isEptHookRateWithin debugLease 50 500 1000 = true ↔
        RateWithin debugLease 50 500 1000) :=
  ⟨by decide, (isEptHookRateWithin_sound debugLease (by decide) 50 500 1000).2.2 (by decide)
    (by decide) ⟨by decide, by decide⟩⟩

/-- An empty window is refused, although no exit is within its limit and neither
product leaves its word. -/
theorem isEptHookRateWithin_empty_window :
    isEptHookLeaseValid debugLease = true ∧ (0 : U64) < 1000 ∧
      (0 : U64).toNat * (1000 : U64).toNat < 2 ^ 64 ∧
      debugLease.maxExitsPerSecond.toNat * (0 : U64).toNat < 2 ^ 64 ∧
      RateWithin debugLease 0 0 1000 ∧ isEptHookRateWithin debugLease 0 0 1000 = false := by
  refine ⟨by decide, by decide, by decide, by decide, ?_, by decide⟩
  unfold RateWithin
  decide

end Knhv.Ept
