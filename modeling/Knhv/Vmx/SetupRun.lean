import Mathlib
import Knhv.Vmx.Setup
import Knhv.Vmx.Steering

open Std.Do

set_option mvcgen.warning false

namespace Knhv.Vmx.Setup

/-- A failure has been committed, with a reason. -/
def Recorded (s : SetupState) : Prop :=
  s.failure.commitState = .committed ∧ s.failure.reason ≠ .none

/-- The record is open, or holds a failure already. -/
def Recordable (s : SetupState) : Prop := s.failure.commitState = .empty ∨ Recorded s

theorem publishVmcsFailure_recorded {reason : SetupFailure} (named : reason ≠ .none)
    (arg0 arg1 : U64) {s : SetupState} (recordable : Recordable s) :
    Recorded (publishVmcsFailure reason arg0 arg1 s) := by
  unfold publishVmcsFailure
  rcases recordable with empty | recorded
  · rw [if_pos (by simp [named, empty])]
    exact ⟨rfl, named⟩
  · rw [if_neg (by simp [recorded.1])]
    exact recorded

/-- What a publication leaves alone. -/
theorem publishVmcsFailure_eq (reason : SetupFailure) (arg0 arg1 : U64) (s : SetupState) :
    publishVmcsFailure reason arg0 arg1 s =
      { s with failure := (publishVmcsFailure reason arg0 arg1 s).failure } := by
  unfold publishVmcsFailure
  split <;> rfl

/-- What VMREADs, and the diagnostics of any failure, may leave behind. -/
structure Reads (before now : SetupState) : Prop where
  vmcs : now.vmcs = before.vmcs
  vmcsWrite : now.vmcsWrite = before.vmcsWrite
  log : ∃ reads, now.log = before.log ++ reads ∧ ∀ access ∈ reads, access.written = none
  recordable : Recordable before → Recordable now
  recorded : Recorded before → Recorded now

theorem Reads.refl (s : SetupState) : Reads s s :=
  ⟨rfl, rfl, ⟨[], (List.append_nil _).symm, by simp⟩, id, id⟩

theorem Reads.trans {first second third : SetupState} (before : Reads first second)
    (after : Reads second third) : Reads first third where
  vmcs := after.vmcs.trans before.vmcs
  vmcsWrite := after.vmcsWrite.trans before.vmcsWrite
  log := by
    obtain ⟨reads, log, unwritten⟩ := before.log
    obtain ⟨reads', log', unwritten'⟩ := after.log
    refine ⟨reads ++ reads', by rw [log', log, List.append_assoc], fun access member => ?_⟩
    rcases List.mem_append.mp member with early | late
    · exact unwritten access early
    · exact unwritten' access late
  recordable := fun open_ => after.recordable (before.recordable open_)
  recorded := fun done => after.recorded (before.recorded done)

/-- Nothing but diagnostics differ. -/
theorem Reads.of_eq {before now : SetupState} (vmcs : now.vmcs = before.vmcs)
    (vmcsWrite : now.vmcsWrite = before.vmcsWrite) (log : now.log = before.log)
    (failure : now.failure = before.failure) : Reads before now where
  vmcs := vmcs
  vmcsWrite := vmcsWrite
  log := ⟨[], by rw [log, List.append_nil], by simp⟩
  recordable := by
    unfold Recordable Recorded
    rw [failure]
    exact id
  recorded := by
    unfold Recorded
    rw [failure]
    exact id

theorem Reads.publish {reason : SetupFailure} (named : reason ≠ .none) (arg0 arg1 : U64)
    {before now : SetupState} (reads : Reads before now) :
    Reads before (publishVmcsFailure reason arg0 arg1 now) := by
  refine reads.trans ⟨?_, ?_, ⟨[], ?_, by simp⟩, ?_, ?_⟩
  · rw [publishVmcsFailure_eq]
  · rw [publishVmcsFailure_eq]
  · rw [publishVmcsFailure_eq, List.append_nil]
  · exact fun recordable => .inr (publishVmcsFailure_recorded named arg0 arg1 recordable)
  · exact fun recorded => publishVmcsFailure_recorded named arg0 arg1 (.inr recorded)

section

variable (e : SetupEnvironment) (before : SetupState)

theorem hvVmReadChecked_reads (field : SetupField) :
    ⦃fun s => ⌜Reads before s⌝⦄ hvVmReadChecked e field ⦃⇓ _ s => ⌜Reads before s⌝⦄ :=
  spec_intro fun s reads => reads.trans ⟨rfl, rfl, ⟨[⟨field, none, e.machine.vmxFlags s.log.length⟩],
    rfl, by simp⟩, id, id⟩

theorem readInstructionError_reads (defined : Bool) :
    ⦃fun s => ⌜Reads before s⌝⦄ readInstructionError e defined ⦃⇓ _ s => ⌜Reads before s⌝⦄ := by
  have read := hvVmReadChecked_reads e before
  mvcgen [readInstructionError, read]

theorem vmReadChecked_reads (field : SetupField) :
    ⦃fun s => ⌜Reads before s⌝⦄ vmReadChecked e field ⦃⇓ _ s => ⌜Reads before s⌝⦄ := by
  have read := hvVmReadChecked_reads e before
  have error := readInstructionError_reads e before
  mvcgen [vmReadChecked, read, error]
  case vc3.post.success.isFalse.isTrue.isTrue.pre =>
    rename_i reads _ _
    exact reads.trans (.of_eq rfl rfl rfl rfl)
  case vc4.post.success.isFalse.isTrue.isTrue.post.success =>
    rename_i reads _
    refine Reads.publish ?_ _ _ (reads.trans (.of_eq rfl rfl rfl rfl))
    exact SetupFailure.noConfusion
  case vc5.post.success.isFalse.isTrue.isFalse =>
    rename_i reads _ _ _
    exact reads.trans (.of_eq rfl rfl rfl rfl)

theorem readLocals_reads (fields : List SetupField) :
    ⦃fun s => ⌜Reads before s⌝⦄ readLocals e fields ⦃⇓ _ s => ⌜Reads before s⌝⦄ := by
  have read := vmReadChecked_reads e before
  induction fields with
  | nil => mvcgen [readLocals]
  | cons field rest ih => mvcgen [readLocals, read, ih]

theorem vmcsValueMatches_reads (field : SetupField) (actual expected mask : U64) :
    ⦃fun s => ⌜Reads before s⌝⦄ vmcsValueMatches field actual expected mask
    ⦃⇓ _ s => ⌜Reads before s⌝⦄ := by
  mvcgen [vmcsValueMatches]
  rename_i reads _ _ _
  refine Reads.publish ?_ _ _ (reads.trans (.of_eq rfl rfl rfl rfl))
  exact SetupFailure.noConfusion

theorem compareAll_reads (values : SetupField → U64) (expected : List (SetupField × U64 × U64)) :
    ⦃fun s => ⌜Reads before s⌝⦄ compareAll values expected ⦃⇓ _ s => ⌜Reads before s⌝⦄ := by
  have compare := vmcsValueMatches_reads before
  induction expected with
  | nil => mvcgen [compareAll]
  | cons entry rest ih => mvcgen [compareAll, compare, ih]

/-- The write latch, the record and the log agree. -/
structure Latched (s : SetupState) : Prop where
  recordable : Recordable s
  failed : s.vmcsWrite.failed = true → Recorded s
  fresh : s.vmcsWrite.failed = false → s.vmcsWrite.state = 0
  succeeded : s.vmcsWrite.failed = false →
    ∀ access ∈ s.log, access.written.isSome = true → vmxOk access.flags = true

/-- A VMWRITE is carried out unless it, or one before it, has failed. -/
structure Wrote (before : SetupState) (field : SetupField) (value : U64) (ok : Bool)
    (now : SetupState) : Prop where
  latched : Latched now
  answer : ok = !now.vmcsWrite.failed
  carried : now.vmcsWrite.failed = false →
    before.vmcsWrite.failed = false ∧ now.vmcs = Function.update before.vmcs field value

theorem hvVmWrite_runs (field : SetupField) (value : U64) :
    ⦃fun s => ⌜s = before⌝⦄ hvVmWrite e field value
    ⦃⇓ flags s => ⌜flags = e.machine.vmxFlags before.log.length ∧
      s = { before with
        vmcs := if vmxOk flags then Function.update before.vmcs field value else before.vmcs
        log := before.log ++ [⟨field, some value, flags⟩] }⌝⦄ :=
  spec_intro fun s same => by
    subst same
    exact ⟨rfl, rfl⟩

theorem vmWriteChecked_wrote (owned : e.machine.hasVcpu = true) (latched : Latched before)
    (field : SetupField) (value : U64) :
    ⦃fun s => ⌜s = before⌝⦄ vmWriteChecked e field value
    ⦃⇓ ok s => ⌜Wrote before field value ok s⌝⦄ := by
  have write := hvVmWrite_runs e before
  have error := fun s => readInstructionError_reads e s
  mvcgen [vmWriteChecked, write, error]
  case vc1.isTrue =>
    rename_i s same stopped
    subst same
    rw [owned, Bool.true_and] at stopped
    exact ⟨latched, by rw [stopped]; rfl, fun clear => absurd (stopped.symm.trans clear) (by simp)⟩
  case vc3.isFalse.post.success.isTrue =>
    rename_i s same going flags ok now run
    subst same
    obtain ⟨image, rfl⟩ := run
    rw [owned, Bool.true_and, Bool.not_eq_true] at going
    refine ⟨⟨latched.recordable, latched.failed, latched.fresh, fun _ access member written => ?_⟩,
      by simp [going], fun _ => ⟨going, if_pos ok⟩⟩
    rcases List.mem_append.mp member with earlier | last
    · exact latched.succeeded going access earlier written
    · rw [List.mem_singleton.mp last]
      exact ok
  case vc4.isFalse.post.success.isFalse.isTrue.pre => exact Reads.refl _
  case vc5.isFalse.post.success.isFalse.isTrue.post.success =>
    rename_i s same going flags refused now run _ _ error' after reads t
    subst same
    obtain ⟨image, rfl⟩ := run
    have recorded : Recorded t.2 :=
      publishVmcsFailure_recorded SetupFailure.noConfusion _ _ (reads.recordable latched.recordable)
    have stopped : t.2.vmcsWrite.failed = true := by
      simp only [t]
      rw [publishVmcsFailure_eq]
    refine ⟨⟨.inr recorded, fun _ => recorded, ?_, ?_⟩, by rw [stopped]; rfl, ?_⟩
    · exact fun clear => absurd (stopped.symm.trans clear) (by simp)
    · exact fun clear => absurd (stopped.symm.trans clear) (by simp)
    · exact fun clear => absurd (stopped.symm.trans clear) (by simp)
  case vc6.isFalse.post.success.isFalse.isFalse =>
    rename_i s same going flags refused now run _ other
    subst same
    obtain ⟨image, rfl⟩ := run
    rw [owned, Bool.true_and, Bool.not_eq_true] at going
    rw [owned, Bool.true_and] at other
    exact absurd (decide_eq_true (latched.fresh going)) other

/-- A statement that neither raises nor refuses. -/
def SetupStep.Passes : SetupStep → Prop
  | .operation raises => raises = false
  | .check refuses _ _ _ => refuses = false
  | .write _ _ | .writeUnchecked _ _ | .latch | .note _ => True

/-- A check gives a reason. -/
def SetupStep.named : SetupStep → Bool
  | .check _ reason _ _ => reason ≠ .none
  | .operation _ | .write _ _ | .writeUnchecked _ _ | .latch | .note _ => true

def SetupStep.assigned : SetupStep → List (SetupField × U64)
  | .write field value | .writeUnchecked field value => [(field, value)]
  | .operation _ | .check _ _ _ _ | .latch | .note _ => []

/-- The assignments of a list of statements, in order. -/
def assignments (steps : List SetupStep) : List (SetupField × U64) :=
  steps.flatMap SetupStep.assigned

theorem assignments_append (first second : List SetupStep) :
    assignments (first ++ second) = assignments first ++ assignments second :=
  List.flatMap_append

/-- The VMCS behind assignments that are all carried out. -/
def store (vmcs : SetupField → U64) (entries : List (SetupField × U64)) : SetupField → U64 :=
  entries.foldl (fun vmcs entry => Function.update vmcs entry.1 entry.2) vmcs

theorem store_append (vmcs : SetupField → U64) (first second : List (SetupField × U64)) :
    store vmcs (first ++ second) = store (store vmcs first) second :=
  List.foldl_append

/-- What statements do from a latched state. -/
structure Ran (before : SetupState) (steps : List SetupStep) (outcome : Option SetupOutcome)
    (now : SetupState) : Prop where
  latched : Latched now
  passes : outcome = none → ∀ step ∈ steps, step.Passes
  stored : outcome = none → now.vmcsWrite.failed = false →
    before.vmcsWrite.failed = false ∧ now.vmcs = store before.vmcs (assignments steps)
  refused : outcome = some (.returned false) → Recorded now
  unfinished : outcome ≠ some (.returned true)

theorem Latched.note {before : SetupState} (latched : Latched before)
    (notes : SetupNotes → SetupNotes) : Latched { before with notes := notes before.notes } :=
  ⟨latched.recordable, latched.failed, latched.fresh, latched.succeeded⟩

theorem Latched.published {before : SetupState} (latched : Latched before) {reason : SetupFailure}
    (named : reason ≠ .none) (arg0 arg1 : U64) :
    Latched (publishVmcsFailure reason arg0 arg1 before) := by
  have recorded := publishVmcsFailure_recorded named arg0 arg1 latched.recordable
  refine ⟨.inr recorded, fun _ => recorded, ?_, ?_⟩
  · rw [publishVmcsFailure_eq]
    exact latched.fresh
  · rw [publishVmcsFailure_eq]
    exact latched.succeeded

variable {before}

theorem Ran.of_passed {now : SetupState} {step : SetupStep} (latched : Latched now)
    (passes : step.Passes) (stored : now.vmcsWrite.failed = false →
      before.vmcsWrite.failed = false ∧ now.vmcs = store before.vmcs step.assigned) :
    Ran before [step] none now where
  latched := latched
  passes := fun _ other member => by
    rw [List.mem_singleton.mp member]
    exact passes
  stored := fun _ clear => by
    obtain ⟨going, vmcs⟩ := stored clear
    refine ⟨going, ?_⟩
    rw [assignments, List.flatMap_singleton]
    exact vmcs
  refused := nofun
  unfinished := nofun

theorem Ran.of_refused {now : SetupState} {steps : List SetupStep} (latched : Latched now)
    (recorded : Recorded now) : Ran before steps (some (.returned false)) now where
  latched := latched
  passes := nofun
  stored := nofun
  refused := fun _ => recorded
  unfinished := nofun

theorem runStep_ran (owned : e.machine.hasVcpu = true) (latched : Latched before)
    {step : SetupStep} (named : step.named = true) :
    ⦃fun s => ⌜s = before⌝⦄ runStep e step ⦃⇓ outcome s => ⌜Ran before [step] outcome s⌝⦄ := by
  have wrote := vmWriteChecked_wrote e before owned latched
  cases step with
  | operation raises =>
    mvcgen [runStep]
    rename_i s same
    subst same
    cases raises with
    | false => exact .of_passed latched rfl fun going => ⟨going, rfl⟩
    | true => exact ⟨latched, nofun, nofun, nofun, nofun⟩
  | check refuses reason arg0 arg1 =>
    mvcgen [runStep]
    case vc1.check.isTrue =>
      rename_i s same t
      subst same
      have reasoned : reason ≠ .none := of_decide_eq_true named
      exact .of_refused (latched.published reasoned arg0 arg1)
        (publishVmcsFailure_recorded reasoned arg0 arg1 latched.recordable)
    case vc2.check.isFalse =>
      rename_i accepted s same
      subst same
      exact .of_passed latched (Bool.eq_false_iff.mpr accepted) fun going => ⟨going, rfl⟩
  | write field value =>
    mvcgen [runStep, wrote]
    case vc2.write.post.success.isTrue =>
      rename_i wrote
      exact .of_passed wrote.latched trivial wrote.carried
    case vc3.write.post.success.isFalse =>
      rename_i refused now wrote
      have stopped : now.vmcsWrite.failed = true := by
        rw [wrote.answer, Bool.not_eq_true, Bool.not_eq_false'] at refused
        exact refused
      exact .of_refused wrote.latched (wrote.latched.failed stopped)
  | writeUnchecked field value =>
    mvcgen [runStep, wrote]
    rename_i wrote
    exact .of_passed wrote.latched trivial wrote.carried
  | latch =>
    mvcgen [runStep]
    case vc1.latch.isTrue =>
      rename_i s same stopped
      subst same
      exact .of_refused latched (latched.failed stopped)
    case vc2.latch.isFalse =>
      rename_i s same _
      subst same
      exact .of_passed latched trivial fun going => ⟨going, rfl⟩
  | note store =>
    mvcgen [runStep]
    rename_i s same t
    subst same
    exact .of_passed (latched.note store) trivial fun going => ⟨going, rfl⟩

theorem runSteps_cons (step : SetupStep) (rest : List SetupStep) (s : SetupState) :
    runSteps e (step :: rest) s =
      match runStep e step s with
      | (some outcome, s) => (some outcome, s)
      | (none, s) => runSteps e rest s := by
  rw [runSteps]
  simp only [bind, StateT.bind]
  rcases runStep e step s with ⟨outcome, s⟩
  cases outcome <;> rfl

/-- A run that ends without an outcome has passed every check, and has made
every assignment unless the latch is set. -/
theorem runSteps_ran (owned : e.machine.hasVcpu = true) {steps : List SetupStep}
    (named : ∀ step ∈ steps, step.named = true) (latched : Latched before) :
    Ran before steps (runSteps e steps before).1 (runSteps e steps before).2 := by
  induction steps generalizing before with
  | nil => exact ⟨latched, fun _ _ => nofun, fun _ going => ⟨going, rfl⟩, nofun, nofun⟩
  | cons step rest ih =>
    have first : Ran before [step] (runStep e step before).1 (runStep e step before).2 :=
      runStep_ran e owned latched (named step List.mem_cons_self) before rfl
    rw [runSteps_cons]
    generalize runStep e step before = run at first ⊢
    obtain ⟨outcome, s⟩ := run
    cases outcome with
    | some outcome =>
      exact ⟨first.latched, nofun, nofun, first.refused, first.unfinished⟩
    | none =>
      have others := ih (fun step member => named step (List.mem_cons_of_mem _ member)) first.latched
      refine ⟨others.latched, fun done => ?_, fun done clear => ?_, others.refused,
        others.unfinished⟩
      · exact List.forall_mem_cons.mpr ⟨first.passes rfl step List.mem_cons_self, others.passes done⟩
      · obtain ⟨going, vmcs⟩ := others.stored done clear
        obtain ⟨going', vmcs'⟩ := first.stored rfl going
        refine ⟨going', ?_⟩
        rw [vmcs, vmcs', ← store_append, ← assignments_append]
        rfl

theorem compareReadback_reads (values : SetupField → U64) :
    ⦃fun s => ⌜Reads before s⌝⦄ compareReadback e values ⦃⇓ _ s => ⌜Reads before s⌝⦄ := by
  have compare := compareAll_reads before
  have read := readLocals_reads e before
  mvcgen [compareReadback, compare, read]

/-- The readback looks at the latch first, and writes nothing. -/
theorem readBack_reads :
    ⦃fun s => ⌜s = before⌝⦄ readBack e
    ⦃⇓ answer s => ⌜Reads before s ∧ (answer.2 = true → before.vmcsWrite.failed = false)⌝⦄ := by
  have compare := @compareReadback_reads e before
  have read := readLocals_reads e before
  unfold readBack
  generalize readbackFields e = fields
  mvcgen [compare, read]
  case vc1.isTrue =>
    rename_i s same _
    subst same
    exact ⟨.refl s, nofun⟩
  case vc2.isFalse.pre =>
    rename_i s same _
    subst same
    exact .refl s
  case vc3.isFalse.post.success.h_1 =>
    rename_i reads
    exact ⟨reads, nofun⟩
  case vc5.isFalse.post.success.h_2.post.success =>
    rename_i first same clear _ _ _ _ _ _ _ reads
    subst same
    exact ⟨reads, fun _ => Bool.eq_false_iff.mpr clear⟩

/-- A failure that is not published at the end has been recorded before. -/
theorem Reads.recorded_of_kept {now : SetupState} (reads : Reads before now)
    (recordable : Recordable before) {success : Bool}
    (kept : ¬(!success && decide (now.failure.commitState ≠ .committed)) = true)
    (failed : success = false) : Recorded now := by
  rw [failed, Bool.not_false, Bool.true_and, decide_eq_true_iff, not_not] at kept
  rcases reads.recordable recordable with empty | recorded
  · rw [empty] at kept
    cases kept
  · exact recorded

theorem finishSetup_reads (recordable : Recordable before) :
    ⦃fun s => ⌜s = before⌝⦄ finishSetup e
    ⦃⇓ success s => ⌜Reads before s ∧ (success = true → before.vmcsWrite.failed = false) ∧
      (success = false → Recorded s)⌝⦄ := by
  have readBack := @readBack_reads e before
  have named : SetupFailure.readback ≠ .none := SetupFailure.noConfusion
  mvcgen [finishSetup, readBack]
  case vc2.post.success.isTrue.isTrue =>
    rename_i read t _ _ t'
    have reads : Reads before t.2 := read.1.trans (.of_eq rfl rfl rfl rfl)
    exact ⟨reads.publish named _ _, read.2,
      fun _ => publishVmcsFailure_recorded named _ _ (reads.recordable recordable)⟩
  case vc3.post.success.isTrue.isFalse =>
    rename_i read t _ kept
    have reads : Reads before t.2 := read.1.trans (.of_eq rfl rfl rfl rfl)
    exact ⟨reads, read.2, reads.recorded_of_kept recordable kept⟩
  case vc4.post.success.isFalse.isTrue =>
    rename_i read _ _ t
    exact ⟨read.1.publish named _ _, read.2,
      fun _ => publishVmcsFailure_recorded named _ _ (read.1.recordable recordable)⟩
  case vc5.post.success.isFalse.isFalse =>
    rename_i read _ kept
    exact ⟨read.1, read.2, read.1.recorded_of_kept recordable kept⟩

theorem setupVmcs_eq (before : SetupState) :
    setupVmcs e before =
      match runSteps e (setupSteps e) (resetSetup before) with
      | (some outcome, s) => (outcome, s)
      | (none, s) => (.returned (finishSetup e s).1, (finishSetup e s).2) := by
  unfold setupVmcs
  simp only [bind, StateT.bind, modify, modifyGet, MonadStateOf.modifyGet, StateT.modifyGet, pure]
  rcases runSteps e (setupSteps e) (resetSetup before) with ⟨outcome, s⟩
  cases outcome <;> rfl

/-- The whole setup: with true, every check is passed and every assignment is
carried out; with false, a failure is on record. -/
theorem setupVmcs_ran (owned : e.machine.hasVcpu = true) (recordable : Recordable before)
    (named : ∀ step ∈ setupSteps e, step.named = true) :
    ((setupVmcs e before).1 = .returned true →
      (∀ step ∈ setupSteps e, step.Passes) ∧
      (setupVmcs e before).2.vmcs = store before.vmcs (assignments (setupSteps e)) ∧
      ∀ access ∈ (setupVmcs e before).2.log, access.written.isSome = true →
        vmxOk access.flags = true) ∧
    ((setupVmcs e before).1 = .returned false → Recorded (setupVmcs e before).2) := by
  have latched : Latched (resetSetup before) :=
    ⟨recordable, nofun, fun _ => rfl, fun _ _ => nofun⟩
  have ran := runSteps_ran e owned named latched
  rw [setupVmcs_eq]
  generalize runSteps e (setupSteps e) (resetSetup before) = run at ran ⊢
  obtain ⟨outcome, s⟩ := run
  cases outcome with
  | some outcome =>
    refine ⟨fun done => absurd (congrArg some done) ran.unfinished, fun refused => ?_⟩
    exact ran.refused (congrArg some refused)
  | none =>
    have finished := @finishSetup_reads e s ran.latched.recordable s rfl
    obtain ⟨reads, clear, recorded⟩ := finished
    refine ⟨fun done => ?_, fun refused => recorded (SetupOutcome.returned.inj refused)⟩
    have going := clear (SetupOutcome.returned.inj done)
    obtain ⟨-, vmcs⟩ := ran.stored rfl going
    refine ⟨ran.passes rfl, reads.vmcs.trans vmcs, fun access member written => ?_⟩
    obtain ⟨accesses, log, unwritten⟩ := reads.log
    have among : access ∈ s.log ++ accesses := log ▸ member
    rcases List.mem_append.mp among with own | other
    · exact ran.latched.succeeded going access own written
    · rw [unwritten access other] at written
      cases written

/-- A statement that goes on has passed, and none ends the setup with true. -/
theorem runStep_goes (step : SetupStep) (s : SetupState) :
    ((runStep e step s).1 = none → step.Passes) ∧
      (runStep e step s).1 ≠ some (.returned true) := by
  cases step with
  | operation raises => cases raises <;> exact ⟨fun _ => by trivial, nofun⟩
  | check refuses => cases refuses <;> exact ⟨fun _ => by trivial, nofun⟩
  | write field value =>
    have answer : (runStep e (.write field value) s).1 =
        if (vmWriteChecked e field value s).1 then none else some (.returned false) := by
      simp only [runStep, bind, StateT.bind]
      rcases vmWriteChecked e field value s with ⟨ok, after⟩
      cases ok <;> rfl
    rw [answer]
    refine ⟨fun _ => trivial, ?_⟩
    split <;> exact nofun
  | writeUnchecked field value => exact ⟨fun _ => trivial, nofun⟩
  | latch =>
    have answer : (runStep e .latch s).1 =
        if s.vmcsWrite.failed then some (.returned false) else none := by
      simp only [runStep, bind, StateT.bind, get, getThe, MonadStateOf.get, StateT.get, pure]
      split <;> rfl
    rw [answer]
    refine ⟨fun _ => trivial, ?_⟩
    split <;> exact nofun
  | note store => exact ⟨fun _ => trivial, nofun⟩

theorem runSteps_goes (steps : List SetupStep) (s : SetupState) :
    ((runSteps e steps s).1 = none → ∀ step ∈ steps, step.Passes) ∧
      (runSteps e steps s).1 ≠ some (.returned true) := by
  induction steps generalizing s with
  | nil => exact ⟨fun _ _ => nofun, nofun⟩
  | cons step rest ih =>
    have first := runStep_goes e step s
    rw [runSteps_cons]
    generalize runStep e step s = run at first ⊢
    obtain ⟨outcome, after⟩ := run
    cases outcome with
    | some outcome => exact ⟨nofun, first.2⟩
    | none =>
      refine ⟨fun done => ?_, (ih after).2⟩
      exact List.forall_mem_cons.mpr ⟨first.1 rfl, (ih after).1 done⟩

/-- A setup that returns true has passed every check. -/
theorem setupVmcs_passes {before : SetupState} (done : (setupVmcs e before).1 = .returned true) :
    ∀ step ∈ setupSteps e, step.Passes := by
  have goes := runSteps_goes e (setupSteps e) (resetSetup before)
  rw [setupVmcs_eq] at done
  generalize runSteps e (setupSteps e) (resetSetup before) = run at goes done
  obtain ⟨outcome, s⟩ := run
  cases outcome with
  | some outcome => exact absurd (congrArg some done) goes.2
  | none => exact goes.1 rfl

end

end Knhv.Vmx.Setup
