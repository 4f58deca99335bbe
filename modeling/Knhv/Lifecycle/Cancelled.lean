import Knhv.Lifecycle.Cancellation
import Knhv.Lifecycle.Safety

namespace Knhv.Lifecycle

open Teardown Driver Interleaving

variable {i : Nat} {r : Race} {input : RaceInput}

namespace Race

/-- What one step does to the worker and to the state of its work. -/
inductive Moved (i : Nat) (r : Race) (input : RaceInput) (r' : Race) : Prop
  | rests : r'.entry = r.entry → r'.worker i = r.worker i → r'.workState i = r.workState i →
      Moved i r input r'
  | enters (k : Nat) (turn : Turn) : input = .processor i (.worker k turn) → r.entry ≠ .passed →
      r'.system.processors i =
        ((r.system.processors i).entryAccess (valid i r.system) turn r.entry).1 →
      r'.entry = ((r.system.processors i).entryAccess (valid i r.system) turn r.entry).2 →
      Moved i r input r'
  | works (k : Nat) (turn : Turn) : input = .processor i (.worker k turn) → r.entry = .passed → r'.entry = .passed →
      r'.worker i = ((r.system.processors i).workerAccess k turn (r.worker i)).2 →
      r'.workState i = ((r.system.processors i).workerAccess k turn (r.worker i)).1.work.state →
      Moved i r input r'
  | waits : r'.entry = r.entry → Waits i r.system r'.system → Moved i r input r'

/-- The call that waits is always at one of its own accesses. -/
def Waiting (i : Nat) (r : Race) : Prop :=
  r.waiter.Keeps (fun _ _ => True) (Waits i) (fun _ _ => True) r.system

theorem Waiting.step (waiting : r.Waiting i) (input : RaceInput) :
    (r.step i input).Waiting i := by
  cases input with
  | processor j a =>
    have same : (r.step i (.processor j a)).waiter = r.waiter := by
      simp only [Race.step, processorStep]
      split
      · split <;> rfl
      · rfl
    rw [Waiting, same]
    exact waiting.rely trivial
  | waiter reply => exact (waiting.advance reply).2
  | again =>
    simp only [Race.step]
    split
    · exact waitTargetOperation_waits i r.system trivial
    · exact waiting

theorem workerStep_moved (k : Nat) (turn : Turn) (passed : r.entry = .passed) :
    Moved i r (.processor i (.worker k turn)) { r with system := r.system.move (i, .worker k turn) } := by
  by_cases free : (!(r.system.processors i).worker.onTarget || (r.system.processors i).isFree) = true
  · refine Moved.works k turn rfl passed passed ?_ ?_
    · simp only [worker, System.move, System.put_self, Processor.step, if_pos free]
    · simp only [worker, workState, System.move, System.put_self, Processor.step, if_pos free]
  · refine Moved.rests rfl ?_ ?_
    · simp only [worker, System.move, System.put_self, Processor.step, if_neg free]
    · simp only [workState, System.move, System.put_self, Processor.step, if_neg free]

theorem otherStep_moved {j : Nat} {a : ProcessorAction}
    (other : j = i → ∀ k turn, a ≠ .worker k turn) :
    Moved i r input { r with system := r.system.move (j, a) } := by
  by_cases mine : j = i
  · subst mine
    obtain ⟨sameWorker, sameWork⟩ := step_frame (r.system.processors j) a (other rfl)
    refine Moved.rests rfl ?_ ?_
    · simp only [worker, System.move, System.put_self, sameWorker]
    · simp only [workState, System.move, System.put_self, sameWork]
  · have apart : (r.system.move (j, a)).processors i = r.system.processors i :=
      System.put_of_ne (Ne.symm mine) ..
    refine Moved.rests rfl ?_ ?_
    · rw [worker, worker, apart]
    · rw [workState, workState, apart]

theorem step_moved (waiting : r.Waiting i) (input : RaceInput) : Moved i r input (r.step i input) := by
  cases input with
  | processor j a =>
    by_cases byWorker : j = i ∧ ∃ k turn, a = .worker k turn
    · obtain ⟨rfl, k, turn, rfl⟩ := byWorker
      simp only [Race.step, processorStep]
      by_cases passed : r.entry = .passed
      · rw [if_neg (fun both => both.2 passed)]
        exact workerStep_moved k turn passed
      · rw [if_pos ⟨trivial, passed⟩]
        exact Moved.enters k turn rfl passed (System.put_self ..) rfl
    · have other : j = i → ∀ k turn, a ≠ .worker k turn := by
        intro mine k turn same
        exact byWorker ⟨mine, k, turn, same⟩
      have plain : r.step i (.processor j a) = { r with system := r.system.move (j, a) } := by
        simp only [Race.step, processorStep]
        split
        · rw [if_neg]
          intro both
          exact other both.1 _ _ rfl
        · rfl
      rw [plain]
      exact otherStep_moved other
  | waiter reply =>
    rcases (waiting.advance reply).1 with same | promise
    · refine Moved.rests rfl ?_ ?_
      · simp only [worker, Race.step, same]
      · simp only [workState, Race.step, same]
    · exact Moved.waits rfl promise
  | again =>
    simp only [Race.step]
    split
    · exact Moved.rests rfl rfl rfl
    · exact Moved.rests rfl rfl rfl

/-- Which states of the work go with a point of its worker. -/
def Fits (entry : EntryPoint) (worker : WorkerPoint) (state : TargetWorkState) : Prop :=
  match entry with
  | .check | .reject | .claim => worker.onTarget = false ∧ (state = .queued ∨ state = .cancelled)
  | .reread => worker.onTarget = false ∧ state = .cancelled
  | .refuse => False
  | .bind | .execute | .recheck =>
    worker.onTarget = false ∧ (state = .entered ∨ state = .cancelled)
  | .passed =>
    match worker with
    | .claim | .reread | .bind | .execute => False
    | .operate | .stopping _ | .readStopped => state = .executing
    | _ => True

/-- The worker has lost its work, or has stored over a cancellation. -/
def Spent (entry : EntryPoint) (worker : WorkerPoint) (state : TargetWorkState) : Prop :=
  worker.onTarget = false ∧ (entry ≠ .passed → state = .cancelled)

theorem entryAccess_fits (valid : Bool) (turn : Turn) (q : Processor) (entry : EntryPoint)
    (fits : Fits entry q.worker q.work.state) :
    Fits (q.entryAccess valid turn entry).2 (q.entryAccess valid turn entry).1.worker
      (q.entryAccess valid turn entry).1.work.state := by
  revert fits
  fun_cases Processor.entryAccess valid turn q entry <;>
    simp_all [Fits, Processor.setWorkState, Processor.refuseWork, isTargetWorkTerminal]

theorem workerAccess_fits (k : Nat) (turn : Turn) (q : Processor) (p : WorkerPoint)
    (fits : Fits .passed p q.work.state) :
    Fits .passed (q.workerAccess k turn p).2 (q.workerAccess k turn p).1.work.state := by
  revert fits
  fun_cases Processor.workerAccess k turn q p <;> simp_all [Fits]

theorem entryAccess_spent (valid : Bool) (turn : Turn) (q : Processor) (entry : EntryPoint)
    (spent : Spent entry q.worker q.work.state) (inside : entry ≠ .passed) :
    Spent (q.entryAccess valid turn entry).2 (q.entryAccess valid turn entry).1.worker
      (q.entryAccess valid turn entry).1.work.state := by
  revert spent inside
  fun_cases Processor.entryAccess valid turn q entry <;>
    simp_all [Spent, Processor.setWorkState, Processor.refuseWork, isTargetWorkTerminal,
      WorkerPoint.onTarget]

theorem workerAccess_spent (k : Nat) (turn : Turn) (q : Processor) (p : WorkerPoint)
    (fits : Fits .passed p q.work.state) (spent : Spent .passed p q.work.state) :
    Spent .passed (q.workerAccess k turn p).2 (q.workerAccess k turn p).1.work.state := by
  revert fits spent
  fun_cases Processor.workerAccess k turn q p <;> simp_all [Fits, Spent, WorkerPoint.onTarget]

theorem entryAccess_terminal (valid : Bool) (turn : Turn) (q : Processor) (entry : EntryPoint)
    (terminal : isTargetWorkTerminal q.work.state = true) :
    isTargetWorkTerminal (q.entryAccess valid turn entry).1.work.state = true := by
  revert terminal
  fun_cases Processor.entryAccess valid turn q entry <;>
    simp_all [Processor.setWorkState, Processor.refuseWork, isTargetWorkTerminal]

theorem workerAccess_terminal (k : Nat) (turn : Turn) (q : Processor) (p : WorkerPoint)
    (terminal : isTargetWorkTerminal q.work.state = true) :
    isTargetWorkTerminal (q.workerAccess k turn p).1.work.state = true := by
  revert terminal
  fun_cases Processor.workerAccess k turn q p <;> simp_all [isTargetWorkTerminal]

/-- A worker that is not storing keeps a cancellation, unless it finds the
globals gone. -/
theorem entryAccess_cancelled (turn : Turn) (q : Processor) (entry : EntryPoint) {valid : Bool}
    (cancelled : q.work.state = .cancelled) (inside : entry ≠ .passed)
    (unstored : ¬Storing entry q.worker) (found : entry = .check → valid = true) :
    (q.entryAccess valid turn entry).1.work.state = .cancelled ∧
      ¬Storing (q.entryAccess valid turn entry).2 (q.entryAccess valid turn entry).1.worker := by
  revert cancelled inside unstored found
  fun_cases Processor.entryAccess valid turn q entry <;>
    simp_all [Storing, Processor.setWorkState]

theorem workerAccess_cancelled (k : Nat) (turn : Turn) (q : Processor) (p : WorkerPoint)
    (fits : Fits .passed p q.work.state) (cancelled : q.work.state = .cancelled)
    (unstored : ¬Storing .passed p) :
    (q.workerAccess k turn p).1.work.state = .cancelled ∧
      ¬Storing .passed (q.workerAccess k turn p).2 := by
  revert fits cancelled unstored
  fun_cases Processor.workerAccess k turn q p <;> simp_all [Fits, Storing]

/-- What is known of the worker at every point of the race. -/
structure Sound (i : Nat) (r : Race) : Prop where
  waiting : r.Waiting i
  fits : Fits r.entry (r.worker i) (r.workState i)

theorem Fits.waits {entry : EntryPoint} {s s' : System} (waits : Waits i s s')
    (fits : Fits entry (s.processors i).worker (s.processors i).work.state) :
    Fits entry (s'.processors i).worker (s'.processors i).work.state := by
  have state := waits.state
  have point := waits.worker
  generalize (s'.processors i).worker = worker' at *
  generalize (s'.processors i).work.state = state' at *
  generalize (s.processors i).worker = worker at *
  generalize (s.processors i).work.state = before at *
  rcases point with rfl | rfl <;> rcases state with rfl | ⟨early, rfl⟩ <;> cases entry <;>
    simp_all [Fits, WorkerPoint.onTarget]
  cases worker' <;> simp_all

theorem Sound.step (sound : Sound i r) (input : RaceInput) : Sound i (r.step i input) := by
  refine ⟨sound.waiting.step input, ?_⟩
  have fits := sound.fits
  cases step_moved sound.waiting input with
  | rests entry worker state => rwa [entry, worker, state]
  | enters k turn _ _ processor entry =>
    rw [entry, worker, workState, processor]
    exact entryAccess_fits _ turn _ _ fits
  | works k turn _ passed after worker state =>
    rw [after, worker, state]
    rw [passed] at fits
    exact workerAccess_fits k turn _ _ fits
  | waits entry waits =>
    rw [entry]
    exact fits.waits waits

theorem sound_queued (i : Nat) (operation : TargetOperation) (s : System) :
    Sound i (queued i operation s) := by
  constructor
  · exact waitTargetOperation_waits i _ trivial
  · simp [queued, Fits, worker, workState, WorkerPoint.onTarget]

theorem Spent.waits {entry : EntryPoint} {s s' : System} (waits : Waits i s s')
    (spent : Spent entry (s.processors i).worker (s.processors i).work.state) :
    Spent entry (s'.processors i).worker (s'.processors i).work.state := by
  constructor
  · rcases waits.worker with same | absent
    · rw [same]
      exact spent.1
    · rw [absent]
      rfl
  · intro inside
    rcases waits.state with same | ⟨_, cancelled⟩
    · rw [same]
      exact spent.2 inside
    · exact cancelled

theorem spent_step (sound : Sound i r) (spent : Spent r.entry (r.worker i) (r.workState i))
    (input : RaceInput) :
    Spent (r.step i input).entry ((r.step i input).worker i) ((r.step i input).workState i) := by
  cases step_moved sound.waiting input with
  | rests entry worker state => rwa [entry, worker, state]
  | enters k turn _ inside processor entry =>
    rw [entry, worker, workState, processor]
    exact entryAccess_spent _ turn _ _ spent inside
  | works k turn _ passed after worker state =>
    have fits := sound.fits
    rw [passed] at fits spent
    rw [after, worker, state]
    exact workerAccess_spent k turn _ _ fits spent
  | waits entry waits =>
    rw [entry]
    exact spent.waits waits

/-- No step takes the work back from a final state. -/
theorem terminal_step (sound : Sound i r) (input : RaceInput)
    (terminal : isTargetWorkTerminal (r.workState i) = true) :
    isTargetWorkTerminal ((r.step i input).workState i) = true := by
  cases step_moved sound.waiting input with
  | rests entry worker state => rwa [state]
  | enters k turn _ _ processor entry =>
    rw [workState, processor]
    exact entryAccess_terminal _ turn _ _ terminal
  | works k turn _ passed after worker state =>
    rw [state]
    exact workerAccess_terminal k turn _ _ terminal
  | waits entry waits =>
    rcases waits.state with same | ⟨_, cancelled⟩
    · rwa [workState, same]
    · rw [workState, cancelled]
      rfl

/-- The work is cancelled, and its worker is not about to store over it. -/
def Held (i : Nat) (r : Race) : Prop :=
  r.workState i = .cancelled ∧ ¬Storing r.entry (r.worker i)

theorem not_storing_of_waits {s s' : System} {entry : EntryPoint} (waits : Waits i s s')
    (unstored : ¬Storing entry (s.processors i).worker) : ¬Storing entry (s'.processors i).worker := by
  rcases waits.worker with same | absent
  · rwa [same]
  · rw [absent]
    rintro (reject | refuse | ⟨_, result, report⟩)
    · exact unstored (Or.inl reject)
    · exact unstored (Or.inr (Or.inl refuse))
    · cases report

theorem held_step (sound : Sound i r) (held : Held i r) (undisturbed : r.Undisturbed i input) :
    Held i (r.step i input) := by
  obtain ⟨cancelled, unstored⟩ := held
  cases step_moved sound.waiting input with
  | rests entry worker state =>
    refine ⟨by rwa [state], ?_⟩
    rwa [entry, worker]
  | enters k turn own inside processor entry =>
    have found : r.entry = .check → valid i r.system = true := by
      intro check
      by_contra gone
      rw [Bool.not_eq_true] at gone
      exact undisturbed.2 ⟨⟨k, turn, own⟩, check, gone⟩ cancelled
    have kept := entryAccess_cancelled turn _ _ cancelled inside unstored found
    rw [Held, Race.worker, workState, entry, processor]
    exact kept
  | works k turn _ passed after worker state =>
    have fits := sound.fits
    rw [passed] at fits
    rw [passed] at unstored
    have kept := workerAccess_cancelled k turn _ _ fits cancelled unstored
    refine ⟨by rw [state]; exact kept.1, ?_⟩
    rw [after, worker]
    exact kept.2
  | waits entry waits =>
    constructor
    · rcases waits.state with same | ⟨_, now⟩
      · rwa [workState, same]
      · exact now
    · rw [entry]
      exact not_storing_of_waits waits unstored

/-- A cancellation that succeeds finds work that has not started. -/
theorem cancels_moved (sound : Sound i r) (cancels : r.Cancels i input) :
    (r.step i input).entry = r.entry ∧ Waits i r.system (r.step i input).system ∧
      (r.workState i = .queued ∨ r.workState i = .entered) := by
  obtain ⟨⟨reply, rfl⟩, before, after⟩ := cancels
  cases step_moved sound.waiting (.waiter reply) with
  | rests entry worker state => exact absurd (state.symm.trans after) before
  | enters k turn own => cases own
  | works k turn own => cases own
  | waits entry waits =>
    refine ⟨entry, waits, ?_⟩
    rcases waits.state with same | ⟨early, _⟩
    · exact absurd (same.symm.trans after) before
    · exact early

theorem cancels_spent (sound : Sound i r) (cancels : r.Cancels i input) :
    Spent (r.step i input).entry ((r.step i input).worker i) ((r.step i input).workState i) := by
  obtain ⟨entry, waits, early⟩ := cancels_moved sound cancels
  refine ⟨?_, fun _ => cancels.2.2⟩
  have idle : (r.worker i).onTarget = false := by
    have fits := sound.fits
    generalize r.worker i = worker at *
    generalize r.workState i = state at *
    cases worker <;> cases entry : r.entry <;> simp_all [Fits, WorkerPoint.onTarget]
  rcases waits.worker with same | absent
  · rw [worker, same]
    exact idle
  · rw [worker, absent]
    rfl

theorem cancels_held (sound : Sound i r) (cancels : r.Cancels i input)
    (undisturbed : r.Undisturbed i input) : Held i (r.step i input) := by
  obtain ⟨entry, waits, _⟩ := cancels_moved sound cancels
  refine ⟨cancels.2.2, ?_⟩
  rw [entry]
  exact not_storing_of_waits waits (undisturbed.1 cancels)

/-- The condition is needed: a worker that is storing does so with its next step,
over a cancellation too. -/
theorem storing_overwrites (storing : Storing r.entry (r.worker i)) (k : Nat) (turn : Turn) :
    (r.step i (.processor i (.worker k turn))).workState i ≠ .cancelled := by
  rcases storing with reject | refuse | ⟨passed, result, report⟩
  · simp [Race.step, processorStep, workState, reject, Processor.entryAccess,
      Processor.refuseWork]
  · simp [Race.step, processorStep, workState, refuse, Processor.entryAccess,
      Processor.refuseWork]
  · have away : ((r.system.processors i).worker).onTarget = false := by
      rw [show (r.system.processors i).worker = _ from report]
      rfl
    simp only [Race.step, processorStep, workState, passed, ne_eq, not_true, and_false, if_false,
      System.move, System.put_self, Processor.step, away, Bool.not_false, Bool.true_or, if_true]
    rw [show (r.system.processors i).worker = _ from report]
    simp only [Processor.workerAccess]
    split <;> simp

/-- In every race between a worker and the call that waits for it, final states
stay final and no operation starts after its cancellation; where no store of the
worker is disturbed, the cancellation also stays. -/
theorem targetWork_cancellation (i : Nat) (operation : TargetOperation) (s : System)
    (pre post : List RaceInput) (input : RaceInput) :
    let before := Run.after (step i) (queued i operation s) pre
    (isTargetWorkTerminal (before.workState i) = true →
      isTargetWorkTerminal ((before.step i input).workState i) = true) ∧
    (before.Cancels i input →
      Run.Always (step i) (fun r => r.inBody i = false) (before.step i input) post ∧
      (Run.Every (step i) (Undisturbed i) (queued i operation s)
          (pre ++ input :: post) →
        Run.Always (step i) (fun r => r.workState i = .cancelled) (before.step i input) post)) := by
  intro before
  have sound : Sound i before :=
    Run.invariant_always (P := Sound i) (fun _ next holds => holds.step next)
      (sound_queued i operation s) pre
  refine ⟨terminal_step sound input, fun cancels => ⟨?_, fun along => ?_⟩⟩
  · have both : ∀ pre' post', post = pre' ++ post' →
        Sound i (Run.after (step i) (before.step i input) pre') ∧
        Spent (Run.after (step i) (before.step i input) pre').entry
          ((Run.after (step i) (before.step i input) pre').worker i)
          ((Run.after (step i) (before.step i input) pre').workState i) := by
      intro pre' post' _
      exact Run.invariant_always
        (P := fun r => Sound i r ∧ Spent r.entry (r.worker i) (r.workState i))
        (fun _ next holds => ⟨holds.1.step next, spent_step holds.1 holds.2 next⟩)
        ⟨sound.step input, cancels_spent sound cancels⟩ pre'
    intro pre' post' shape
    exact (both pre' post' shape).2.1
  · rw [Run.every_append, Run.every_cons] at along
    obtain ⟨_, here, later⟩ := along
    exact Run.always_of_every (J := fun r => Sound i r ∧ Held i r) (G := Undisturbed i)
      (fun _ next holds guard => ⟨holds.1.step next, held_step holds.1 holds.2 guard⟩)
      (fun _ holds => holds.2.1) ⟨sound.step input, cancels_held sound cancels here⟩ later

theorem undisturbed_of_entry
    (early : r.entry ≠ .reject ∧ r.entry ≠ .refuse ∧ r.entry ≠ .passed)
    (found : valid i r.system = true) : r.Undisturbed i input := by
  constructor
  · rintro _ (reject | refuse | ⟨passed, _⟩)
    · exact early.1 reject
    · exact early.2.1 refuse
    · exact early.2.2 passed
  · rintro ⟨_, _, gone⟩
    rw [found] at gone
    cases gone

/-- One processor with the array of its work. -/
def raceSystem : System :=
  { loadedSystem with vcpuData := true, targetCpuWork := true, processorCount := 1 }

def workerStep (onTarget : Bool) : RaceInput :=
  .processor 0 (.worker 0
    { exit := { verdict := .resume, leavesVmx := true }, clears := true,
      succeeds := onTarget, injects := false, flags := 0, result := statusSuccess })

def waiterStep : RaceInput := .waiter { holds := true, status := statusTimeout, number := 0 }

/-- The wait times out before the worker has run, and the worker finds its work
cancelled. -/
theorem targetWork_cancellation_early :
    Run.Always (step 0) (fun r => r.workState 0 = .cancelled)
      ((Run.after (step 0) (queued 0 .probe raceSystem) [waiterStep, waiterStep, waiterStep]).step 0
        waiterStep)
      [workerStep true, workerStep true] := by
  have cancelled := targetWork_cancellation 0 .probe raceSystem
    [waiterStep, waiterStep, waiterStep] [workerStep true, workerStep true] waiterStep
  refine (cancelled.2 ⟨⟨_, rfl⟩, by decide, by decide⟩).2 ?_
  simp only [List.cons_append, List.nil_append, Run.every_cons]
  refine ⟨?_, ?_, ?_, ?_, ?_, ?_, Run.every_nil _⟩ <;>
    exact undisturbed_of_entry (by decide) (by decide)

/-- The worker is not on its target. It has looked at the state for the last
time when the wait cancels the work, and stores its failure over that. -/
theorem targetWork_cancellation_lost :
    ∃ pre post input,
      (Run.after (step 0) (queued 0 .probe raceSystem) pre).Cancels 0 input ∧
        ¬Run.Always (step 0) (fun r => r.workState 0 = .cancelled)
          ((Run.after (step 0) (queued 0 .probe raceSystem) pre).step 0 input) post := by
  refine ⟨[workerStep false, workerStep false, workerStep false, workerStep false, workerStep false,
      workerStep false, waiterStep, waiterStep, waiterStep, waiterStep], [workerStep false],
    waiterStep, ⟨⟨_, rfl⟩, by decide, by decide⟩, ?_⟩
  intro always
  have last := always [workerStep false] [] rfl
  exact absurd last (by decide)

end Race

end Knhv.Lifecycle
