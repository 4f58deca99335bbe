import Knhv.Time.Calibration

namespace Knhv.Time

/-- The inner transform is applied to the time that the outer one returns. -/
def composeTscTransforms (outer inner : Option TscTransform) (sourceTsc : U64) (wanted : Bool) :
    Except TimeResultCode U64 :=
  match outer, inner with
  | some outer, some inner =>
    if outer.generation ≠ inner.generation then .error .GenerationMismatch
    else
      match applyTscTransform outer sourceTsc true with
      | .error status => .error status
      | .ok intermediate => applyTscTransform inner intermediate wanted
  | _, _ => .error .GenerationMismatch

theorem composeTscTransforms_ok {outer inner : TscTransform} {sourceTsc value : U64} {wanted : Bool}
    (done : composeTscTransforms (some outer) (some inner) sourceTsc wanted = .ok value) :
    outer.generation = inner.generation ∧ ∃ intermediate,
      applyTscTransform outer sourceTsc true = .ok intermediate ∧
      applyTscTransform inner intermediate wanted = .ok value := by
  unfold composeTscTransforms at done
  dsimp only at done
  split at done
  · cases done
  rename_i same
  cases applied : applyTscTransform outer sourceTsc true with
  | error status =>
    rw [applied] at done
    cases done
  | ok intermediate =>
    rw [applied] at done
    exact ⟨not_not.mp same, intermediate, rfl, done⟩

/-- The line of a transform without its cut, through any time. -/
def exactLine (transform : TscTransform) (time : ℚ) : ℚ :=
  transform.baseVirtualTsc.toNat +
    (time - transform.baseTsc.toNat) * (transform.scaleQ32_32.toNat / 2 ^ 32) +
    transform.offsetTicks.toInt

/-- The line above the last virtual time. -/
def clampedLine (transform : TscTransform) (time : ℚ) : ℚ :=
  max (exactLine transform time) transform.lastVirtualTsc.toNat

/-- What the two levels would return if they did not cut. -/
def composedLine (outer inner : TscTransform) (sourceTsc : U64) : ℚ :=
  clampedLine inner (clampedLine outer sourceTsc.toNat)

/-- The cut loses less than one tick. -/
theorem line_close {transform : TscTransform} {sourceTsc : U64}
    (started : transform.baseTsc ≤ sourceTsc) :
    (line transform sourceTsc : ℚ) ≤ exactLine transform sourceTsc.toNat ∧
      exactLine transform sourceTsc.toNat < line transform sourceTsc + 1 := by
  rw [BitVec.le_def] at started
  have distance : ((sourceTsc.toNat - transform.baseTsc.toNat : Nat) : ℚ) =
      sourceTsc.toNat - transform.baseTsc.toNat := Nat.cast_sub started
  have value : (line transform sourceTsc : ℚ) = transform.baseVirtualTsc.toNat +
      ((sourceTsc.toNat - transform.baseTsc.toNat) * transform.scaleQ32_32.toNat / 2 ^ 32 : Nat) +
      transform.offsetTicks.toInt := by
    rw [line, ticks]
    push_cast
    rfl
  have below := Nat.div_mul_le_self
    ((sourceTsc.toNat - transform.baseTsc.toNat) * transform.scaleQ32_32.toNat) (2 ^ 32)
  have above := Nat.lt_div_mul_add
    (a := (sourceTsc.toNat - transform.baseTsc.toNat) * transform.scaleQ32_32.toNat)
    (by decide : 0 < 2 ^ 32)
  rw [value, exactLine]
  generalize (sourceTsc.toNat - transform.baseTsc.toNat) * transform.scaleQ32_32.toNat / 2 ^ 32 = cut
    at below above
  have belowQ : (cut : ℚ) * 2 ^ 32 ≤
      (sourceTsc.toNat - transform.baseTsc.toNat) * transform.scaleQ32_32.toNat := by
    rw [← distance]
    exact_mod_cast below
  have aboveQ : ((sourceTsc.toNat : ℚ) - transform.baseTsc.toNat) * transform.scaleQ32_32.toNat <
      cut * 2 ^ 32 + 2 ^ 32 := by
    rw [← distance]
    exact_mod_cast above
  constructor <;> linarith

/-- A virtual time that is returned is the clamped line, cut. -/
theorem applyTscTransform_close {transform : TscTransform} {sourceTsc value : U64} {wanted : Bool}
    (done : applyTscTransform transform sourceTsc wanted = .ok value) :
    (value.toNat : ℚ) ≤ clampedLine transform sourceTsc.toNat ∧
      clampedLine transform sourceTsc.toNat < value.toNat + 1 := by
  obtain ⟨returned, started⟩ := applyTscTransform_ok done
  obtain ⟨below, above⟩ := line_close started
  have returnedQ : (value.toNat : ℚ) =
      max (line transform sourceTsc : ℚ) transform.lastVirtualTsc.toNat := by
    exact_mod_cast congrArg (Int.cast : Int → ℚ) returned
  rw [returnedQ, clampedLine]
  refine ⟨max_le_max below (le_refl _), max_lt ?_ ?_⟩
  · exact lt_of_lt_of_le above (add_le_add_left (le_max_left _ _) 1)
  · exact lt_of_le_of_lt (le_max_right _ _) (lt_add_one _)

theorem clampedLine_le (transform : TscTransform) {first second : ℚ} (order : first ≤ second) :
    clampedLine transform first ≤ clampedLine transform second := by
  refine max_le_max ?_ (le_refl _)
  have slope : (0 : ℚ) ≤ transform.scaleQ32_32.toNat / 2 ^ 32 := by positivity
  have moved := mul_le_mul_of_nonneg_right (sub_le_sub_right order transform.baseTsc.toNat) slope
  rw [exactLine, exactLine]
  linarith

/-- A time that is off by less than one tick is off by less than the scale. -/
theorem clampedLine_lt {transform : TscTransform} (scaled : transform.scaleQ32_32 ≠ 0)
    {first second : ℚ} (close : second < first + 1) :
    clampedLine transform second <
      clampedLine transform first + transform.scaleQ32_32.toNat / 2 ^ 32 := by
  have nonzero : transform.scaleQ32_32.toNat ≠ 0 := fun zero => scaled (BitVec.eq_of_toNat_eq zero)
  have slope : (0 : ℚ) < transform.scaleQ32_32.toNat / 2 ^ 32 := by positivity
  have moved := mul_lt_mul_of_pos_right (sub_lt_sub_right close transform.baseTsc.toNat) slope
  have lines : exactLine transform second <
      exactLine transform first + transform.scaleQ32_32.toNat / 2 ^ 32 := by
    rw [exactLine, exactLine]
    linarith
  refine max_lt ?_ ?_
  · exact lt_of_lt_of_le lines (add_le_add_left (le_max_left _ _) _)
  · exact lt_of_le_of_lt (le_max_right _ _) (lt_add_of_pos_right _ slope)

theorem scale_ne_zero {transform : TscTransform} {sourceTsc value : U64} {wanted : Bool}
    (done : applyTscTransform transform sourceTsc wanted = .ok value) :
    transform.scaleQ32_32 ≠ 0 := by
  unfold applyTscTransform at done
  split at done
  · cases done
  rename_i accepted
  simp only [Bool.or_eq_true, Bool.not_eq_true', not_or, Bool.not_eq_false, isTscTransformValid,
    Bool.and_eq_true, bne_iff_ne, ne_eq] at accepted
  exact accepted.2.1.1.1.2

/-- Both cuts together lose less than one tick and one outer tick of the inner
scale. -/
theorem composeTscTransforms_close {outer inner : TscTransform} {sourceTsc value : U64}
    {wanted : Bool}
    (done : composeTscTransforms (some outer) (some inner) sourceTsc wanted = .ok value) :
    (value.toNat : ℚ) ≤ composedLine outer inner sourceTsc ∧
      composedLine outer inner sourceTsc <
        value.toNat + 1 + inner.scaleQ32_32.toNat / 2 ^ 32 := by
  obtain ⟨-, intermediate, outerDone, innerDone⟩ := composeTscTransforms_ok done
  obtain ⟨outerBelow, outerAbove⟩ := applyTscTransform_close outerDone
  obtain ⟨innerBelow, innerAbove⟩ := applyTscTransform_close innerDone
  refine ⟨innerBelow.trans (clampedLine_le inner outerBelow), ?_⟩
  calc composedLine outer inner sourceTsc
      < clampedLine inner intermediate.toNat + inner.scaleQ32_32.toNat / 2 ^ 32 :=
        clampedLine_lt (scale_ne_zero innerDone) outerAbove
    _ < value.toNat + 1 + inner.scaleQ32_32.toNat / 2 ^ 32 := add_lt_add_left innerAbove _

/-- The transforms of a guest and of the guest's guest. -/
structure TimeLevels where
  outer : TscTransform
  inner : TscTransform

inductive LevelCall
  | read (sourceTsc : U64) (wanted : Bool)
  | rebaseOuter (sourceTsc minimumVirtualTsc : U64)
  | rebaseInner (sourceTsc minimumVirtualTsc : U64)

def LevelCall.readTsc : LevelCall → Option U64
  | .read sourceTsc _ => some sourceTsc
  | .rebaseOuter _ _ | .rebaseInner _ _ => none

def levelStep (levels : TimeLevels) : LevelCall → TimeLevels
  | .read _ _ => levels
  | .rebaseOuter sourceTsc minimumVirtualTsc =>
    { levels with outer := (rebaseTscTransform levels.outer sourceTsc minimumVirtualTsc).2 }
  | .rebaseInner sourceTsc minimumVirtualTsc =>
    { levels with inner := (rebaseTscTransform levels.inner sourceTsc minimumVirtualTsc).2 }

def levelValue (levels : TimeLevels) : LevelCall → Option U64
  | .read sourceTsc wanted =>
    (composeTscTransforms (some levels.outer) (some levels.inner) sourceTsc wanted).toOption
  | .rebaseOuter _ _ | .rebaseInner _ _ => none

/-- The times that the reads of a run return, in order. -/
def composedValues (levels : TimeLevels) (calls : List LevelCall) : List U64 :=
  (Run.trace levelStep levelValue levels calls).reduceOption

/-- What a run does to the two transforms. -/
structure TimeLevels.Later (levels after : TimeLevels) : Prop where
  outer : Time.Later levels.outer after.outer
  inner : Time.Later levels.inner after.inner
  outerGeneration : after.outer.generation = levels.outer.generation
  innerGeneration : after.inner.generation = levels.inner.generation

theorem TimeLevels.Later.refl (levels : TimeLevels) : levels.Later levels :=
  ⟨Time.Later.refl _, Time.Later.refl _, rfl, rfl⟩

theorem TimeLevels.Later.trans {first second third : TimeLevels} (earlier : first.Later second)
    (later : second.Later third) : first.Later third where
  outer := earlier.outer.trans later.outer
  inner := earlier.inner.trans later.inner
  outerGeneration := later.outerGeneration.trans earlier.outerGeneration
  innerGeneration := later.innerGeneration.trans earlier.innerGeneration

theorem rebaseTscTransform_generation (transform : TscTransform)
    (sourceTsc minimumVirtualTsc : U64) :
    (rebaseTscTransform transform sourceTsc minimumVirtualTsc).2.generation =
      transform.generation := by
  rcases rebaseTscTransform_cases transform sourceTsc minimumVirtualTsc with same |
    ⟨_, _, _, _, done, _⟩
  · rw [same]
  · rw [done]
    rfl

theorem levelStep_later (levels : TimeLevels) (call : LevelCall) :
    levels.Later (levelStep levels call) := by
  cases call with
  | read sourceTsc wanted => exact TimeLevels.Later.refl levels
  | rebaseOuter sourceTsc minimumVirtualTsc =>
    exact ⟨timeStep_later levels.outer (.rebase sourceTsc minimumVirtualTsc), Time.Later.refl _,
      rebaseTscTransform_generation _ _ _, rfl⟩
  | rebaseInner sourceTsc minimumVirtualTsc =>
    exact ⟨Time.Later.refl _, timeStep_later levels.inner (.rebase sourceTsc minimumVirtualTsc),
      rfl, rebaseTscTransform_generation _ _ _⟩

theorem levelRun_later (levels : TimeLevels) (calls : List LevelCall) :
    levels.Later (Run.after levelStep levels calls) :=
  Run.invariant_always (P := levels.Later)
    (fun between call earlier => earlier.trans (levelStep_later between call))
    (TimeLevels.Later.refl levels) calls

/-- The outer level carries the order of the sources to the inner one. -/
theorem TimeLevels.Later.composed_le {levels after : TimeLevels} (later : levels.Later after)
    {sourceTsc laterTsc value laterValue : U64} {wanted laterWanted : Bool}
    (order : sourceTsc ≤ laterTsc)
    (first : composeTscTransforms (some levels.outer) (some levels.inner) sourceTsc wanted =
      .ok value)
    (second : composeTscTransforms (some after.outer) (some after.inner) laterTsc laterWanted =
      .ok laterValue) : value ≤ laterValue := by
  obtain ⟨-, intermediate, outerFirst, innerFirst⟩ := composeTscTransforms_ok first
  obtain ⟨-, laterIntermediate, outerSecond, innerSecond⟩ := composeTscTransforms_ok second
  have carried := later.outer.applied_le order outerFirst outerSecond
  exact later.inner.applied_le carried innerFirst innerSecond

theorem levelValue_eq_some {levels : TimeLevels} {call : LevelCall} {value : U64}
    (shown : levelValue levels call = some value) :
    ∃ sourceTsc wanted, call.readTsc = some sourceTsc ∧
      composeTscTransforms (some levels.outer) (some levels.inner) sourceTsc wanted =
        .ok value := by
  cases call with
  | rebaseOuter sourceTsc minimumVirtualTsc => cases shown
  | rebaseInner sourceTsc minimumVirtualTsc => cases shown
  | read sourceTsc wanted =>
    refine ⟨sourceTsc, wanted, rfl, ?_⟩
    cases composed :
        composeTscTransforms (some levels.outer) (some levels.inner) sourceTsc wanted with
    | error status =>
      simp only [levelValue, composed, Except.toOption] at shown
      cases shown
    | ok found =>
      simp only [levelValue, composed, Except.toOption, Option.some.injEq] at shown
      rw [← shown]

/-- Every time of a run was read from the levels as they stood at its read. -/
theorem mem_composedValues {levels : TimeLevels} {calls : List LevelCall} {value : U64}
    (member : value ∈ composedValues levels calls) :
    ∃ sourceTsc ∈ calls.filterMap LevelCall.readTsc, ∃ after wanted, levels.Later after ∧
      composeTscTransforms (some after.outer) (some after.inner) sourceTsc wanted = .ok value := by
  induction calls generalizing levels with
  | nil => cases member
  | cons call rest ih =>
    rw [composedValues, List.reduceOption_mem_iff, Run.trace, List.mem_cons] at member
    rcases member with here | there
    · obtain ⟨sourceTsc, wanted, read, composed⟩ := levelValue_eq_some here.symm
      refine ⟨sourceTsc, ?_, levels, wanted, TimeLevels.Later.refl levels, composed⟩
      exact List.mem_filterMap.mpr ⟨call, List.mem_cons_self, read⟩
    · obtain ⟨sourceTsc, among, after, wanted, later, composed⟩ :=
        ih (List.reduceOption_mem_iff.mpr there)
      obtain ⟨other, inRest, read⟩ := List.mem_filterMap.mp among
      exact ⟨sourceTsc, List.mem_filterMap.mpr ⟨other, List.mem_cons_of_mem _ inRest, read⟩, after,
        wanted, (levelStep_later levels call).trans later, composed⟩

theorem composedValues_sorted {levels : TimeLevels} {calls : List LevelCall}
    (forward : (calls.filterMap LevelCall.readTsc).Pairwise (· ≤ ·)) :
    (composedValues levels calls).Pairwise (· ≤ ·) := by
  induction calls generalizing levels with
  | nil => exact List.Pairwise.nil
  | cons call rest ih =>
    have restForward : (rest.filterMap LevelCall.readTsc).Pairwise (· ≤ ·) :=
      forward.sublist ((List.sublist_cons_self call rest).filterMap _)
    have sorted : (composedValues (levelStep levels call) rest).Pairwise (· ≤ ·) := ih restForward
    cases shown : levelValue levels call with
    | none =>
      rw [composedValues, Run.trace, shown, List.reduceOption_cons_of_none]
      exact sorted
    | some value =>
      obtain ⟨sourceTsc, wanted, read, composed⟩ := levelValue_eq_some shown
      rw [List.filterMap_cons_some read, List.pairwise_cons] at forward
      rw [composedValues, Run.trace, shown, List.reduceOption_cons_of_some, List.pairwise_cons]
      refine ⟨fun other member => ?_, sorted⟩
      obtain ⟨laterTsc, among, after, laterWanted, later, laterComposed⟩ :=
        mem_composedValues member
      exact ((levelStep_later levels call).trans later).composed_le (forward.1 laterTsc among)
        composed laterComposed

/-- What every run of the two levels promises: the times that were read, and
the next read. -/
structure LevelsHold (levels : TimeLevels) (calls : List LevelCall) : Prop where
  forward : (composedValues levels calls).Pairwise (· ≤ ·)
  floor : ∀ value ∈ composedValues levels calls, levels.inner.lastVirtualTsc ≤ value
  shared : composedValues levels calls ≠ [] → levels.outer.generation = levels.inner.generation
  close : ∀ sourceTsc wanted value,
    levelValue (Run.after levelStep levels calls) (.read sourceTsc wanted) = some value →
    (value.toNat : ℚ) ≤ composedLine (Run.after levelStep levels calls).outer
        (Run.after levelStep levels calls).inner sourceTsc ∧
      composedLine (Run.after levelStep levels calls).outer
          (Run.after levelStep levels calls).inner sourceTsc <
        value.toNat + 1 + levels.inner.scaleQ32_32.toNat / 2 ^ 32

/-- Composed time never runs backwards, however the two levels are rebased
between the reads, and stays within its two cuts of the exact lines. -/
theorem composed_time_monotonic {levels : TimeLevels} {calls : List LevelCall}
    (forward : (calls.filterMap LevelCall.readTsc).Pairwise (· ≤ ·)) : LevelsHold levels calls where
  forward := composedValues_sorted forward
  floor := fun value member => by
    obtain ⟨sourceTsc, -, after, wanted, later, composed⟩ := mem_composedValues member
    obtain ⟨-, intermediate, -, innerDone⟩ := composeTscTransforms_ok composed
    have returned := (applyTscTransform_ok innerDone).1
    have last := later.inner.last
    rw [BitVec.le_def] at last ⊢
    omega
  shared := fun some => by
    obtain ⟨value, member⟩ := List.exists_mem_of_ne_nil _ some
    obtain ⟨sourceTsc, -, after, wanted, later, composed⟩ := mem_composedValues member
    have same := (composeTscTransforms_ok composed).1
    rw [later.outerGeneration, later.innerGeneration] at same
    exact same
  close := fun sourceTsc wanted value shown => by
    obtain ⟨_, _, read, composed⟩ := levelValue_eq_some shown
    cases read
    have near := composeTscTransforms_close composed
    rw [(levelRun_later levels calls).inner.scale] at near
    exact near

/-- A guest's guest whose time runs at half of the guest's. -/
def halvedLevels : TimeLevels where
  outer := doublingTransform
  inner := { doublingTransform with
    baseTsc := 4000
    baseVirtualTsc := 100
    scaleQ32_32 := 0x80000000
    offsetTicks := 0
    lastVirtualTsc := 0 }

/-- A read, a rebase of either level, and a read. -/
theorem composed_time_monotonic_halved :
    LevelsHold halvedLevels
      [.read 1011 true, .rebaseInner 5000 700, .rebaseOuter 1100 9000, .read 1101 true] :=
  composed_time_monotonic (by decide)

example : composedValues halvedLevels
    [.read 1011 true, .rebaseInner 5000 700, .rebaseOuter 1100 9000, .read 1101 true] =
      [600, 2701] := by decide +kernel

end Knhv.Time
