import Knhv.Lifecycle.Coordinator
import Knhv.Lifecycle.Custody

namespace Knhv.Lifecycle

open Teardown Driver Interleaving

/-- The next access of `TargetCpuWorker` before it has its operation or gives it
up, one interlocked operation each. Behind `passed` the worker is where its
processor says. -/
inductive EntryPoint
  | check
  | reject
  | claim
  | reread
  | refuse
  | bind
  | execute
  | recheck
  | passed
  deriving DecidableEq, Repr

namespace Processor

def setWorkState (q : Processor) (state : TargetWorkState) : Processor :=
  { q with work := { q.work with state := state } }

/-- The worker has stored a result without having run, and its thread returns. -/
def refuseWork (q : Processor) (result : U32) : Processor :=
  { q with worker := .exited, work := { q.work with state := .failed, result := result } }

/-- One access of the worker's entry: `valid` is the outcome of its check of the
globals, `turn` says whether it runs on its target. -/
def entryAccess (valid : Bool) (turn : Turn) (q : Processor) : EntryPoint → Processor × EntryPoint
  | .check => if valid then (q, .claim) else (q, .reject)
  | .reject => (q.refuseWork statusInvalidDeviceState, .passed)
  | .claim => if q.work.state = .queued then (q.setWorkState .entered, .bind) else (q, .reread)
  | .reread =>
    if q.work.state ≠ .cancelled && !isTargetWorkTerminal q.work.state then (q, .refuse)
    else ({ q with worker := .exited }, .passed)
  | .refuse => (q.refuseWork statusCancelled, .passed)
  | .bind => if turn.succeeds then (q, .execute) else (q, .recheck)
  | .execute =>
    if q.work.state = .entered then
      ({ q.setWorkState .executing with worker := .operate }, .passed)
    else (q, .recheck)
  | .recheck =>
    if q.work.state = .cancelled then ({ q with worker := .finish statusCancelled }, .passed)
    else ({ q with worker := .finish statusInvalidDeviceState }, .passed)
  | .passed => (q, .passed)

end Processor

/-- A worker of one processor and the call that waits for it. -/
structure Race where
  system : System
  entry : EntryPoint
  waiter : LifecycleM (U32 × Bool)

/-- Who takes the next step: a processor, the call that waits, or the caller of a
call that has returned, which waits once more. -/
inductive RaceInput
  | processor (i : Nat) (a : ProcessorAction)
  | waiter (reply : Reply)
  | again

namespace Race

/-- The check at the head of the worker. -/
def valid (i : Nat) (s : System) : Bool := s.vcpuData && decide (i < s.processorCount)

/-- The worker on processor `i`, and everything else, takes a step. -/
def processorStep (i j : Nat) (a : ProcessorAction) (r : Race) : Race :=
  match a with
  | .worker _ turn =>
    if j = i ∧ r.entry ≠ .passed then
      let next := (r.system.processors i).entryAccess (valid i r.system) turn r.entry
      { r with system := r.system.put i next.1, entry := next.2 }
    else { r with system := r.system.move (j, a) }
  | _ => { r with system := r.system.move (j, a) }

def step (i : Nat) (r : Race) : RaceInput → Race
  | .processor j a => r.processorStep i j a
  | .waiter reply =>
    { r with
      system := (r.waiter.advance reply r.system).1
      waiter := (r.waiter.advance reply r.system).2 }
  | .again => if r.waiter.isDone then { r with waiter := waitTargetOperation i } else r

/-- `QueueTargetOperation` has started the worker, and the wait begins. -/
def queued (i : Nat) (operation : TargetOperation) (s : System) : Race :=
  { system := s.put i { s.processors i with
      worker := .claim, work := ⟨operation, .queued, statusPending, true⟩ }
    entry := .check
    waiter := waitTargetOperation i }

def workState (i : Nat) (r : Race) : TargetWorkState := (r.system.processors i).work.state

def worker (i : Nat) (r : Race) : WorkerPoint := (r.system.processors i).worker

/-- The worker is in its operation. -/
def inBody (i : Nat) (r : Race) : Bool := (r.worker i).onTarget

/-- The compare-exchange of the waiter to `Cancelled` succeeds. -/
def Cancels (i : Nat) (r : Race) (input : RaceInput) : Prop :=
  (∃ reply, input = .waiter reply) ∧ r.workState i ≠ .cancelled ∧
    (r.step i input).workState i = .cancelled

/-- The next access of the worker stores a final state whatever it finds. -/
def Storing (entry : EntryPoint) (worker : WorkerPoint) : Prop :=
  entry = .reject ∨ entry = .refuse ∨ entry = .passed ∧ ∃ result, worker = .report result

/-- The worker finds the globals gone. -/
def Rejects (i : Nat) (r : Race) (input : RaceInput) : Prop :=
  (∃ k turn, input = .processor i (.worker k turn)) ∧ r.entry = .check ∧
    valid i r.system = false

/-- No cancellation falls between the worker's last look at the state and its
store, and no worker finds the globals gone after a cancellation. -/
def Undisturbed (i : Nat) (r : Race) (input : RaceInput) : Prop :=
  (r.Cancels i input → ¬Storing r.entry (r.worker i)) ∧ (r.Rejects i input → r.workState i ≠ .cancelled)

end Race

variable {i : Nat} {α : Type}

/-- What the call that waits changes on the processor: it cancels work that is
not executing, or it closes the handle. -/
structure Waits (i : Nat) (s s' : System) : Prop where
  state : (s'.processors i).work.state = (s.processors i).work.state ∨
    ((s.processors i).work.state = .queued ∨ (s.processors i).work.state = .entered) ∧
      (s'.processors i).work.state = .cancelled
  worker : (s'.processors i).worker = (s.processors i).worker ∨
    (s'.processors i).worker = .absent

theorem Waits.refl (i : Nat) (s : System) : Waits i s s := ⟨Or.inl rfl, Or.inl rfl⟩

/-- Every access of a script is one of those, whatever the others do. -/
abbrev OnlyWaits (i : Nat) (script : LifecycleM α) : Prop :=
  Triple (fun _ _ => True) (Waits i) (fun _ => True) script fun _ _ => True

theorem stable_anything {R : System → System → Prop} : Stable R fun _ => True :=
  fun _ _ holds _ => holds

theorem onlyWaits_read {f : Reply → System → α} : OnlyWaits i (Script.read f) :=
  Triple.read stable_anything (fun _ => stable_anything) (fun s _ => .refl i s)
    fun _ _ _ => trivial

theorem onlyWaits_return {value : α} : OnlyWaits i (pure value) :=
  Triple.ret stable_anything fun _ _ => trivial

theorem onlyWaits_exchange {f : Reply → Processor → Processor} {g : Reply → Processor → α}
    (waits : ∀ o s, Waits i s (s.put i (f o (s.processors i)))) :
    OnlyWaits i (exchangeVcpu i f g) :=
  Triple.exchange stable_anything (fun _ => stable_anything)
    fun o s _ => ⟨waits o s, trivial⟩

theorem cancelWork_waits {expected : TargetWorkState}
    (early : expected = .queued ∨ expected = .entered) : OnlyWaits i (cancelWork i expected) := by
  refine onlyWaits_exchange fun _ s => ?_
  by_cases found : (s.processors i).work.state = expected
  · rw [if_pos found]
    constructor
    · refine Or.inr ⟨?_, by rw [System.put_self]⟩
      rwa [found]
    · exact Or.inl (by rw [System.put_self])
  · rw [if_neg found]
    constructor
    · exact Or.inl (by rw [System.put_self])
    · exact Or.inl (by rw [System.put_self])

theorem cancelTargetWork_waits : OnlyWaits i (cancelTargetWork i) := by
  refine .bind (cancelWork_waits (Or.inl rfl)) fun cancelled => ?_
  exact .ite (fun _ => onlyWaits_return) fun _ => cancelWork_waits (Or.inr rfl)

theorem closeCompletedTargetWork_waits : OnlyWaits i (closeCompletedTargetWork i) := by
  refine .bind onlyWaits_read fun result => .bind ?_ fun _ => onlyWaits_return
  refine onlyWaits_exchange fun _ s => ?_
  constructor
  · exact Or.inl (by rw [System.put_self]; rfl)
  · exact Or.inr (by rw [System.put_self]; rfl)

theorem waitTargetOperation_waits (i : Nat) : OnlyWaits i (waitTargetOperation i) := by
  unfold waitTargetOperation
  refine .bind onlyWaits_read fun checked => .ite (fun _ => onlyWaits_return) fun _ => ?_
  refine .bind onlyWaits_read fun handle => .ite (fun _ => ?_) fun _ => ?_
  · exact .bind onlyWaits_read fun result => onlyWaits_return
  · refine .bind onlyWaits_read fun waited => .ite (fun _ => ?_) fun _ => .ite (fun _ => ?_) fun _ => ?_
    · exact .bind closeCompletedTargetWork_waits fun result => onlyWaits_return
    · refine .bind cancelTargetWork_waits fun cancelled => ?_
      refine .bind onlyWaits_read fun state => .ite (fun _ => ?_) fun _ => onlyWaits_return
      refine .bind onlyWaits_read fun again => .ite (fun _ => ?_) fun _ => onlyWaits_return
      exact .bind closeCompletedTargetWork_waits fun _ => onlyWaits_return
    · exact onlyWaits_return

/-- What runs on the processors besides the worker leaves its work alone. -/
theorem step_frame (q : Processor) (a : ProcessorAction) (other : ∀ k turn, a ≠ .worker k turn) :
    (q.step a).worker = q.worker ∧ (q.step a).work = q.work := by
  cases a with
  | vmcall k =>
    simp only [Processor.step]
    split <;> exact ⟨rfl, rfl⟩
  | caller k turn =>
    simp only [Processor.step]
    have call := callerAccess_call k turn q (q.points k)
    obtain ⟨_, _, _, worker, work, _⟩ := call.frame
    split
    · exact ⟨worker, work⟩
    · exact ⟨rfl, rfl⟩
  | launch turn =>
    simp only [Processor.step]
    obtain ⟨_, _, worker, work, _⟩ := launchAccess_frame turn q q.launch
    split
    · exact ⟨worker, work⟩
    · exact ⟨rfl, rfl⟩
  | worker k turn => exact absurd rfl (other k turn)
  | parked turn =>
    simp only [Processor.step, Processor.parkedAccess]
    split
    · split <;> exact ⟨rfl, rfl⟩
    · exact ⟨rfl, rfl⟩

end Knhv.Lifecycle
