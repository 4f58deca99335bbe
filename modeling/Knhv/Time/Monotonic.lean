import Mathlib.Data.Int.Order.Basic
import Mathlib.Data.List.ReduceOption
import Mathlib.Tactic.Linarith
import Mathlib.Tactic.Ring
import Knhv.Lib.Run
import Knhv.Time.Model

namespace Knhv.Time

/-- The ticks that a transform counts up to a source time, before its offset. -/
@[irreducible] def ticks (transform : TscTransform) (sourceTsc : U64) : Nat :=
  transform.baseVirtualTsc.toNat +
    (sourceTsc.toNat - transform.baseTsc.toNat) * transform.scaleQ32_32.toNat / 2 ^ 32

/-- The line that a transform describes, over the integers. -/
def line (transform : TscTransform) (sourceTsc : U64) : Int :=
  ticks transform sourceTsc + transform.offsetTicks.toInt

/-- The line goes through a value at a source time, inside the words of the
source. -/
structure Projects (transform : TscTransform) (sourceTsc value : U64) : Prop where
  started : transform.baseTsc ≤ sourceTsc
  counted : ticks transform sourceTsc < 2 ^ 64
  value : (value.toNat : Int) = line transform sourceTsc

theorem projectTicks_eq_some_iff {transform : TscTransform} {sourceTsc value : U64}
    (started : transform.baseTsc ≤ sourceTsc) :
    projectTicks transform sourceTsc = some value ↔
      ticks transform sourceTsc < 2 ^ 64 ∧ (value.toNat : Int) = line transform sourceTsc := by
  have delta : (sourceTsc - transform.baseTsc).toNat =
      sourceTsc.toNat - transform.baseTsc.toNat := BitVec.toNat_sub_of_le started
  simp only [projectTicks, Option.bind_eq_some_iff, multiplyShift32_eq_some_iff,
    addUnsigned_eq_some_iff, addSigned_eq_some_iff, delta]
  constructor
  · rintro ⟨scaled, scaledValue, candidate, candidateValue, moved⟩
    have counted : ticks transform sourceTsc = candidate.toNat := by
      rw [candidateValue, scaledValue, ticks]
    refine ⟨?_, ?_⟩
    · rw [counted]
      exact candidate.isLt
    · rw [moved, line, counted]
  · rintro ⟨counted, onLine⟩
    have total : (BitVec.ofNat 64 (ticks transform sourceTsc)).toNat =
        ticks transform sourceTsc := by
      rw [BitVec.toNat_ofNat]
      exact Nat.mod_eq_of_lt counted
    rw [ticks] at counted
    have part : (BitVec.ofNat 64 ((sourceTsc.toNat - transform.baseTsc.toNat) *
        transform.scaleQ32_32.toNat / 2 ^ 32)).toNat =
          (sourceTsc.toNat - transform.baseTsc.toNat) * transform.scaleQ32_32.toNat / 2 ^ 32 := by
      rw [BitVec.toNat_ofNat]
      exact Nat.mod_eq_of_lt (Nat.lt_of_le_of_lt (Nat.le_add_left _ _) counted)
    refine ⟨_, part, BitVec.ofNat 64 (ticks transform sourceTsc), ?_, ?_⟩
    · rw [total, ticks, part]
    · rw [total, onLine, line]

theorem projectTscTransform_ok_iff {transform : TscTransform} {sourceTsc value : U64} :
    projectTscTransform transform sourceTsc = .ok value ↔ Projects transform sourceTsc value := by
  unfold projectTscTransform
  split
  · rename_i early
    refine ⟨nofun, fun projects => ?_⟩
    have started := projects.started
    rw [BitVec.lt_def] at early
    rw [BitVec.le_def] at started
    omega
  · rename_i late
    rw [BitVec.lt_def, Nat.not_lt] at late
    have ticking : projectTicks transform sourceTsc = some value ↔
        ticks transform sourceTsc < 2 ^ 64 ∧ (value.toNat : Int) = line transform sourceTsc :=
      projectTicks_eq_some_iff late
    cases projecting : projectTicks transform sourceTsc with
    | none =>
      rw [projecting] at ticking
      refine ⟨nofun, fun projects => ?_⟩
      cases ticking.mpr ⟨projects.counted, projects.value⟩
    | some candidate =>
      rw [projecting, Option.some.injEq] at ticking
      rw [Except.ok.injEq, ticking]
      exact ⟨fun inside => ⟨late, inside.1, inside.2⟩,
        fun projects => ⟨projects.counted, projects.value⟩⟩

/-- A value that is returned is the higher one of the line and of the last
virtual time. -/
theorem applyTscTransform_ok {transform : TscTransform} {sourceTsc value : U64} {wanted : Bool}
    (done : applyTscTransform transform sourceTsc wanted = .ok value) :
    (value.toNat : Int) = max (line transform sourceTsc) transform.lastVirtualTsc.toNat ∧
      transform.baseTsc ≤ sourceTsc := by
  unfold applyTscTransform at done
  split at done
  · cases done
  split at done
  · cases done
  cases projecting : projectTscTransform transform sourceTsc with
  | error status =>
    rw [projecting] at done
    cases done
  | ok candidate =>
    rw [projecting] at done
    have projects := projectTscTransform_ok_iff.mp projecting
    have candidateValue := projects.value
    refine ⟨?_, projects.started⟩
    dsimp only at done
    split at done
    · rename_i behind
      simp only [Bool.and_eq_true, bne_iff_ne, ne_eq, decide_eq_true_eq, BitVec.lt_def] at behind
      split at done
      · cases done
      · cases done
        omega
    · rename_i ahead
      cases done
      have ordered : transform.lastVirtualTsc.toNat ≤ value.toNat := by
        by_contra below
        refine ahead ?_
        simp only [Bool.and_eq_true, bne_iff_ne, ne_eq, decide_eq_true_eq, BitVec.lt_def]
        refine ⟨fun zero => ?_, by omega⟩
        rw [zero] at below
        exact below (Nat.zero_le _)
      omega

theorem applyTscTransform_of_projects {transform : TscTransform} {sourceTsc value : U64}
    (valid : isTscTransformValid transform = true)
    (running : transform.flags &&& kTimeFlagPaused = 0)
    (projects : Projects transform sourceTsc value)
    (ahead : transform.lastVirtualTsc ≤ value) :
    applyTscTransform transform sourceTsc true = .ok value := by
  have notBehind : ¬(transform.lastVirtualTsc != 0 && value < transform.lastVirtualTsc) = true := by
    rw [BitVec.le_def] at ahead
    simp only [Bool.and_eq_true, decide_eq_true_eq, BitVec.lt_def]
    omega
  simp only [applyTscTransform, valid, running, Bool.not_true, Bool.or_self, Bool.false_eq_true,
    if_false, bne_self_eq_false, projectTscTransform_ok_iff.mpr projects, notBehind]

/-- What the calls of a run do to a transform: its line and its last virtual
time only move up. -/
structure Later (transform after : TscTransform) : Prop where
  base : after.baseTsc = transform.baseTsc
  baseVirtual : after.baseVirtualTsc = transform.baseVirtualTsc
  scale : after.scaleQ32_32 = transform.scaleQ32_32
  offset : transform.offsetTicks.toInt ≤ after.offsetTicks.toInt
  last : transform.lastVirtualTsc ≤ after.lastVirtualTsc
  flags : after.flags = transform.flags
  valid : isTscTransformValid after = isTscTransformValid transform

theorem Later.refl (transform : TscTransform) : Later transform transform :=
  ⟨rfl, rfl, rfl, Int.le_refl _, BitVec.le_refl _, rfl, rfl⟩

theorem Later.trans {first second third : TscTransform} (earlier : Later first second)
    (later : Later second third) : Later first third where
  base := later.base.trans earlier.base
  baseVirtual := later.baseVirtual.trans earlier.baseVirtual
  scale := later.scale.trans earlier.scale
  offset := Int.le_trans earlier.offset later.offset
  last := BitVec.le_trans earlier.last later.last
  flags := later.flags.trans earlier.flags
  valid := later.valid.trans earlier.valid

theorem Later.line_le {transform after : TscTransform} (later : Later transform after)
    {sourceTsc laterTsc : U64} (order : sourceTsc ≤ laterTsc) :
    line transform sourceTsc ≤ line after laterTsc := by
  have counted : ticks transform sourceTsc ≤ ticks after laterTsc := by
    unfold ticks
    rw [later.base, later.baseVirtual, later.scale]
    rw [BitVec.le_def] at order
    have delta : sourceTsc.toNat - transform.baseTsc.toNat ≤
        laterTsc.toNat - transform.baseTsc.toNat := by omega
    have scaled := Nat.mul_le_mul_right transform.scaleQ32_32.toNat delta
    have cut := Nat.div_le_div_right (c := 2 ^ 32) scaled
    omega
  have offset := later.offset
  unfold line
  omega

/-- Time does not run backwards between two calls that succeed. -/
theorem Later.applied_le {transform after : TscTransform} (later : Later transform after)
    {sourceTsc laterTsc value laterValue : U64} {wanted laterWanted : Bool}
    (order : sourceTsc ≤ laterTsc)
    (first : applyTscTransform transform sourceTsc wanted = .ok value)
    (second : applyTscTransform after laterTsc laterWanted = .ok laterValue) :
    value ≤ laterValue := by
  have firstValue := (applyTscTransform_ok first).1
  have secondValue := (applyTscTransform_ok second).1
  have lines := later.line_le order
  have last := later.last
  rw [BitVec.le_def] at last ⊢
  have lasts : (transform.lastVirtualTsc.toNat : Int) ≤ after.lastVirtualTsc.toNat :=
    Int.ofNat_le.mpr last
  have values : (value.toNat : Int) ≤ laterValue.toNat := by
    rw [firstValue, secondValue]
    exact max_le_max lines lasts
  exact Int.ofNat_le.mp values

/-- Where a rebase aims. -/
def target (transform : TscTransform) (minimumVirtualTsc : U64) : U64 :=
  if minimumVirtualTsc < transform.lastVirtualTsc then transform.lastVirtualTsc
  else minimumVirtualTsc

theorem le_target (transform : TscTransform) (minimumVirtualTsc : U64) :
    transform.lastVirtualTsc ≤ target transform minimumVirtualTsc ∧
      minimumVirtualTsc ≤ target transform minimumVirtualTsc := by
  unfold target
  simp only [BitVec.lt_def, BitVec.le_def]
  split
  · omega
  · omega

/-- The transform that a rebase leaves. -/
def rebased (transform : TscTransform) (offset : I64) (lastVirtualTsc : U64) : TscTransform :=
  { transform with
    offsetTicks := offset
    lastVirtualTsc := lastVirtualTsc }

theorem ticks_rebased (transform : TscTransform) (offset : I64) (lastVirtualTsc sourceTsc : U64) :
    ticks (rebased transform offset lastVirtualTsc) sourceTsc = ticks transform sourceTsc := by
  simp only [ticks, rebased]

theorem line_rebased (transform : TscTransform) (offset : I64) (lastVirtualTsc sourceTsc : U64) :
    line (rebased transform offset lastVirtualTsc) sourceTsc =
      line transform sourceTsc - transform.offsetTicks.toInt + offset.toInt := by
  have moved : (rebased transform offset lastVirtualTsc).offsetTicks = offset := rfl
  rw [line, line, ticks_rebased, moved, Int.add_sub_cancel]

theorem Projects.rebase {transform : TscTransform} {sourceTsc projected value : U64}
    (projects : Projects transform sourceTsc projected) {offset : I64} (lastVirtualTsc : U64)
    (moved : (value.toNat : Int) =
      projected.toNat - transform.offsetTicks.toInt + offset.toInt) :
    Projects (rebased transform offset lastVirtualTsc) sourceTsc value := by
  refine ⟨projects.started, ?_, ?_⟩
  · rw [ticks_rebased]
    exact projects.counted
  · rw [line_rebased, moved, projects.value]

theorem toInt_add_of_room {offset delta : I64} (small : ¬kI64Maximum < delta)
    (room : ¬(kI64Maximum - delta).toInt < offset.toInt) :
    (offset + delta).toInt = offset.toInt + delta.toNat := by
  have limit : kI64Maximum.toNat = 2 ^ 63 - 1 := rfl
  have offsetLower := BitVec.le_toInt offset
  rw [BitVec.lt_def, limit] at small
  have deltaSigned : delta.toInt = delta.toNat := by
    rw [BitVec.toInt_eq_toNat_cond]
    exact if_pos (by omega)
  have rest : (kI64Maximum - delta).toNat = 2 ^ 63 - 1 - delta.toNat := by
    rw [BitVec.toNat_sub_of_le (by rw [BitVec.le_def, limit]; omega), limit]
  have restSigned : (kI64Maximum - delta).toInt = (2 ^ 63 - 1 - delta.toNat : Nat) := by
    rw [BitVec.toInt_eq_toNat_cond, rest]
    exact if_pos (by omega)
  rw [restSigned] at room
  rw [BitVec.toInt_add, deltaSigned]
  exact Int.bmod_eq_of_le (by omega) (by omega)

/-- A rebase changes nothing, or it keeps the line above the target, raising it
if it must. -/
theorem rebaseTscTransform_cases (transform : TscTransform) (sourceTsc minimumVirtualTsc : U64) :
    rebaseTscTransform transform sourceTsc minimumVirtualTsc = (false, transform) ∨
      ∃ offset value, isTscTransformValid transform = true ∧
        transform.flags &&& kTimeFlagPaused = 0 ∧
        rebaseTscTransform transform sourceTsc minimumVirtualTsc =
          (true, rebased transform offset (target transform minimumVirtualTsc)) ∧
        transform.offsetTicks.toInt ≤ offset.toInt ∧
        Projects (rebased transform offset (target transform minimumVirtualTsc)) sourceTsc value ∧
        target transform minimumVirtualTsc ≤ value := by
  unfold rebaseTscTransform
  split
  · exact Or.inl rfl
  rename_i accepted
  simp only [Bool.or_eq_true, Bool.not_eq_true', bne_iff_ne, ne_eq, not_or, Bool.not_eq_false,
    Decidable.not_not] at accepted
  cases projecting : projectTscTransform transform sourceTsc with
  | error status => exact Or.inl rfl
  | ok projected =>
    have projects := projectTscTransform_ok_iff.mp projecting
    have sameTarget : (if minimumVirtualTsc < transform.lastVirtualTsc then
        transform.lastVirtualTsc else minimumVirtualTsc) = target transform minimumVirtualTsc := rfl
    dsimp only
    rw [sameTarget]
    split
    · rename_i below
      split
      · exact Or.inl rfl
      rename_i small
      split
      · exact Or.inl rfl
      rename_i room
      have raised := toInt_add_of_room small room
      rw [BitVec.lt_def] at below
      have delta : (target transform minimumVirtualTsc - projected).toNat =
          (target transform minimumVirtualTsc).toNat - projected.toNat :=
        BitVec.toNat_sub_of_le (by rw [BitVec.le_def]; exact Nat.le_of_lt below)
      rw [delta, Int.ofNat_sub (Nat.le_of_lt below)] at raised
      refine Or.inr ⟨_, target transform minimumVirtualTsc, accepted.1, accepted.2, rfl, ?_, ?_,
        BitVec.le_refl _⟩
      · rw [raised]
        have order := Int.ofNat_le.mpr (Nat.le_of_lt below)
        linarith
      · refine projects.rebase _ ?_
        rw [raised]
        ring
    · rename_i above
      refine Or.inr ⟨transform.offsetTicks, projected, accepted.1, accepted.2, rfl, Int.le_refl _,
        projects.rebase _ (by ring), ?_⟩
      rw [BitVec.lt_def, Nat.not_lt] at above
      exact above

theorem rebaseTscTransform_failed {transform : TscTransform} {sourceTsc minimumVirtualTsc : U64}
    (failed : (rebaseTscTransform transform sourceTsc minimumVirtualTsc).1 = false) :
    (rebaseTscTransform transform sourceTsc minimumVirtualTsc).2 = transform := by
  rcases rebaseTscTransform_cases transform sourceTsc minimumVirtualTsc with same |
    ⟨_, _, _, _, done, _⟩
  · rw [same]
  · rw [done] at failed
    cases failed

theorem later_rebased {transform : TscTransform} {offset : I64} (minimumVirtualTsc : U64)
    (raised : transform.offsetTicks.toInt ≤ offset.toInt) :
    Later transform (rebased transform offset (target transform minimumVirtualTsc)) :=
  ⟨rfl, rfl, rfl, raised, (le_target transform minimumVirtualTsc).1, rfl, rfl⟩

/-- Right after a rebase the transform can be applied at the same source time. -/
theorem applyTscTransform_after_rebase {transform : TscTransform}
    {sourceTsc minimumVirtualTsc : U64}
    (success : (rebaseTscTransform transform sourceTsc minimumVirtualTsc).1 = true) :
    ∃ value, applyTscTransform (rebaseTscTransform transform sourceTsc minimumVirtualTsc).2
        sourceTsc true = .ok value ∧
      minimumVirtualTsc ≤ value ∧ transform.lastVirtualTsc ≤ value := by
  rcases rebaseTscTransform_cases transform sourceTsc minimumVirtualTsc with same |
    ⟨offset, value, valid, running, done, raised, projects, above⟩
  · rw [same] at success
    cases success
  have bounds := le_target transform minimumVirtualTsc
  refine ⟨value, ?_, BitVec.le_trans bounds.2 above, BitVec.le_trans bounds.1 above⟩
  rw [done]
  exact applyTscTransform_of_projects valid running projects above

/-- The calls of a run. -/
inductive TimeCall
  | apply (sourceTsc : U64) (wanted : Bool)
  | rebase (sourceTsc minimumVirtualTsc : U64)

def TimeCall.sourceTsc : TimeCall → U64
  | .apply sourceTsc _ => sourceTsc
  | .rebase sourceTsc _ => sourceTsc

def timeStep (transform : TscTransform) : TimeCall → TscTransform
  | .apply _ _ => transform
  | .rebase sourceTsc minimumVirtualTsc =>
    (rebaseTscTransform transform sourceTsc minimumVirtualTsc).2

/-- The virtual time that a call returns. -/
def timeValue (transform : TscTransform) : TimeCall → Option U64
  | .apply sourceTsc wanted => (applyTscTransform transform sourceTsc wanted).toOption
  | .rebase _ _ => none

/-- The virtual times that the successful calls of a run return, in order. -/
def appliedValues (transform : TscTransform) (calls : List TimeCall) : List U64 :=
  (Run.trace timeStep timeValue transform calls).reduceOption

theorem timeStep_later (transform : TscTransform) (call : TimeCall) :
    Later transform (timeStep transform call) := by
  cases call with
  | apply sourceTsc wanted => exact Later.refl transform
  | rebase sourceTsc minimumVirtualTsc =>
    rcases rebaseTscTransform_cases transform sourceTsc minimumVirtualTsc with same |
      ⟨offset, _, _, _, done, raised, _, _⟩
    · rw [timeStep, same]
      exact Later.refl transform
    · rw [timeStep, done]
      exact later_rebased minimumVirtualTsc raised

theorem after_later (transform : TscTransform) (calls : List TimeCall) :
    Later transform (Run.after timeStep transform calls) :=
  Run.invariant_always (P := Later transform)
    (fun between call earlier => earlier.trans (timeStep_later between call))
    (Later.refl transform) calls

theorem timeValue_eq_some {transform : TscTransform} {call : TimeCall} {value : U64}
    (shown : timeValue transform call = some value) :
    ∃ wanted, applyTscTransform transform call.sourceTsc wanted = .ok value := by
  cases call with
  | rebase sourceTsc minimumVirtualTsc => cases shown
  | apply sourceTsc wanted =>
    refine ⟨wanted, ?_⟩
    cases applied : applyTscTransform transform sourceTsc wanted with
    | error status =>
      simp only [timeValue, applied, Except.toOption] at shown
      cases shown
    | ok found =>
      simp only [timeValue, applied, Except.toOption, Option.some.injEq] at shown
      rw [← shown]
      exact applied

/-- Every value of a run was returned by the line as it stood at some source
time of the run. -/
theorem mem_appliedValues {transform : TscTransform} {calls : List TimeCall} {value : U64}
    (member : value ∈ appliedValues transform calls) :
    ∃ call ∈ calls, ∃ later wanted, Later transform later ∧
      applyTscTransform later call.sourceTsc wanted = .ok value := by
  induction calls generalizing transform with
  | nil => cases member
  | cons call rest ih =>
    rw [appliedValues, List.reduceOption_mem_iff, Run.trace, List.mem_cons] at member
    rcases member with here | there
    · obtain ⟨wanted, applied⟩ := timeValue_eq_some here.symm
      exact ⟨call, List.mem_cons_self, transform, wanted, Later.refl transform, applied⟩
    · obtain ⟨other, inRest, later, wanted, order, applied⟩ :=
        ih (List.reduceOption_mem_iff.mpr there)
      exact ⟨other, List.mem_cons_of_mem _ inRest, later, wanted,
        (timeStep_later transform call).trans order, applied⟩

theorem appliedValues_sorted {transform : TscTransform} {calls : List TimeCall}
    (forward : (calls.map TimeCall.sourceTsc).Pairwise (· ≤ ·)) :
    (appliedValues transform calls).Pairwise (· ≤ ·) := by
  induction calls generalizing transform with
  | nil => exact List.Pairwise.nil
  | cons call rest ih =>
    rw [List.map_cons, List.pairwise_cons] at forward
    have sorted : (appliedValues (timeStep transform call) rest).Pairwise (· ≤ ·) :=
      ih forward.2
    cases shown : timeValue transform call with
    | none =>
      rw [appliedValues, Run.trace, shown, List.reduceOption_cons_of_none]
      exact sorted
    | some value =>
      rw [appliedValues, Run.trace, shown, List.reduceOption_cons_of_some, List.pairwise_cons]
      refine ⟨fun other member => ?_, sorted⟩
      obtain ⟨wanted, applied⟩ := timeValue_eq_some shown
      obtain ⟨next, inRest, later, otherWanted, order, otherApplied⟩ := mem_appliedValues member
      have sources := forward.1 next.sourceTsc (List.mem_map.mpr ⟨next, inRest, rfl⟩)
      exact ((timeStep_later transform call).trans order).applied_le sources applied otherApplied

/-- What every run promises: the values it returned, and its next rebase. -/
structure TimeHolds (transform : TscTransform) (calls : List TimeCall) : Prop where
  forward : (appliedValues transform calls).Pairwise (· ≤ ·)
  valid : isTscTransformValid (Run.after timeStep transform calls) = true
  running : (Run.after timeStep transform calls).flags &&& kTimeFlagPaused = 0
  rebaseFailed : ∀ sourceTsc minimumVirtualTsc,
    (rebaseTscTransform (Run.after timeStep transform calls) sourceTsc minimumVirtualTsc).1 =
      false →
    (rebaseTscTransform (Run.after timeStep transform calls) sourceTsc minimumVirtualTsc).2 =
      Run.after timeStep transform calls
  rebased : ∀ sourceTsc minimumVirtualTsc,
    (rebaseTscTransform (Run.after timeStep transform calls) sourceTsc minimumVirtualTsc).1 =
      true →
    ∃ value, applyTscTransform (rebaseTscTransform (Run.after timeStep transform calls) sourceTsc
        minimumVirtualTsc).2 sourceTsc true = .ok value ∧
      minimumVirtualTsc ≤ value ∧ (Run.after timeStep transform calls).lastVirtualTsc ≤ value

/-- Virtual time never runs backwards, over every run whose source time does
not. -/
theorem virtual_time_monotonic {transform : TscTransform} {calls : List TimeCall}
    (valid : isTscTransformValid transform = true)
    (running : transform.flags &&& kTimeFlagPaused = 0)
    (forward : (calls.map TimeCall.sourceTsc).Pairwise (· ≤ ·)) : TimeHolds transform calls where
  forward := appliedValues_sorted forward
  valid := (after_later transform calls).valid.trans valid
  running := by
    rw [(after_later transform calls).flags]
    exact running
  rebaseFailed := fun _ _ failed => rebaseTscTransform_failed failed
  rebased := fun _ _ success => applyTscTransform_after_rebase success

/-- A transform that counts two ticks for each one of its source. -/
def doublingTransform : TscTransform where
  size := sizeofTscTransform
  version := kTimeContractVersion
  baseTsc := 1000
  baseVirtualTsc := 5000
  scaleQ32_32 := 0x200000000
  offsetTicks := -40
  generation := 1
  lastVirtualTsc := 5000
  maxDriftTicks := 0
  flags := kTimeFlagMonotonicClamp
  reserved := 0

/-- An application, a rebase that raises the line, and an application. -/
theorem virtual_time_monotonic_doubling :
    TimeHolds doublingTransform [.apply 1010 true, .rebase 1100 9000, .apply 1100 true] :=
  virtual_time_monotonic (by decide) (by decide) (by decide)

example : appliedValues doublingTransform
    [.apply 1010 true, .rebase 1100 9000, .apply 1100 true] = [5000, 9000] := by decide +kernel

end Knhv.Time
