import Knhv.Lifecycle.Starting

namespace Knhv.Lifecycle

open Teardown Driver Interleaving

/-- A processor that the driver has not touched. -/
def nativeProcessor : Processor where
  words :=
    { state := .uninitialized
      launchStage := .none
      teardownRequest := false
      teardownQuiesced := false
      vmxe := false
      root := none
      halted := false
      requestOwner := none
      log := [] }
  points := fun _ => .idle
  vmcsCurrent := .none
  vmxOperation := false
  guest := false
  launch := .absent
  dpc := ⟨.idle, statusSuccess, false⟩
  worker := .absent
  work := ⟨.none, .idle, statusSuccess, false⟩
  memory := false

/-- The driver as `DriverEntry` hands it to the lifecycle calls. -/
def loadedSystem : System where
  lifecycle := .idle
  imagePinned := false
  driverObject := true
  vcpuData := false
  targetCpuWork := false
  targetLaunchDpcWork := false
  processorCount := 0
  processors := fun _ => nativeProcessor
  owner := none

/-- Any number of calls on the loaded driver, none of which has begun. -/
def lifecyclePool (calls : Nat → LifecycleCall) : Pool System Reply Unit Nat where
  state := loadedSystem
  scripts := fun t => (calls t).script t

abbrev LifecycleChoice := Choice (Nat × ProcessorAction) Reply Nat

def poolAfter (calls : Nat → LifecycleCall) (run : List LifecycleChoice) :
    Pool System Reply Unit Nat :=
  Run.after (Pool.step System.move) (lifecyclePool calls) run

def stateAfter (calls : Nat → LifecycleCall) (run : List LifecycleChoice) : System :=
  (poolAfter calls run).state

variable {calls : Nat → LifecycleCall} {run : List LifecycleChoice}

theorem blank_nativeProcessor : Blank nativeProcessor :=
  ⟨rfl, rfl, rfl, rfl, rfl, rfl⟩

theorem sound_nativeProcessor : Sound nativeProcessor where
  operation := nofun
  owned := nofun
  guest := nofun
  root := nofun
  native := nofun
  halted := nofun
  fresh := fun _ => rfl
  untouched := fun _ => ⟨nofun, rfl, fun _ => rfl⟩
  prepared := .of_released nofun nofun
  callers := fun _ => .inl rfl
  handle := fun there => absurd rfl there
  queued := fun there => absurd rfl there
  memory := fun needed => needed.elim (fun there => absurd rfl there) nofun

theorem systemInv_loadedSystem : SystemInv loadedSystem where
  sound := fun _ => sound_nativeProcessor
  blank := fun _ _ => blank_nativeProcessor
  driver := rfl
  owned := iff_of_true rfl ⟨nofun, nofun⟩
  idle := fun _ => rfl
  running := nofun
  pinned := nofun
  cpuWork := fun _ _ => rfl
  dpcWork := fun _ _ => rfl

/-- Throughout a run every call keeps what it promises the others. -/
theorem pool_keeps (calls : Nat → LifecycleCall) (run : List LifecycleChoice) (t : Nat) :
    ((poolAfter calls run).scripts t).Keeps (Rely t) (Guarantee t) (fun _ => Apart t)
      (stateAfter calls run) :=
  Pool.run_keeps (R := Rely) (G := Guarantee) (Q := fun t _ => Apart t)
    (fun t a s => rely_move t a s) (fun _ _ other s s' => guarantee_rely other s s')
    (fun t => (calls t).script_held loadedSystem ⟨systemInv_loadedSystem, nofun⟩) run t

theorem poolAfter_snoc (choice : LifecycleChoice) :
    poolAfter calls (run ++ [choice]) = (poolAfter calls run).step System.move choice := by
  rw [poolAfter, Run.after_append]
  rfl

/-- One step keeps the driver's invariant and is safe. -/
theorem step_safe (inv : SystemInv (stateAfter calls run)) (choice : LifecycleChoice) :
    SystemInv (stateAfter calls (run ++ [choice])) ∧
      Safe (stateAfter calls run) (stateAfter calls (run ++ [choice])) := by
  rw [stateAfter, stateAfter, poolAfter_snoc]
  rcases Pool.step_state System.move (pool_keeps calls run) choice
    with same | ⟨a, moved⟩ | ⟨u, promise⟩
  · rw [same]
    exact ⟨inv, .refl _⟩
  · rw [moved]
    exact ⟨inv.move a, inv.safe_move a⟩
  · exact ⟨(promise inv).1, (promise inv).2.1⟩

theorem systemInv_stateAfter (calls : Nat → LifecycleCall) (run : List LifecycleChoice) :
    SystemInv (stateAfter calls run) := by
  induction run using List.reverseRecOn with
  | nil => exact systemInv_loadedSystem
  | append_singleton run choice inv => exact (step_safe inv choice).1

/-- While the driver is stopping, the call that stops it has not returned. -/
theorem stopping_unfinished (stopping : (stateAfter calls run).lifecycle = .stopping) :
    ∃ t, (stateAfter calls run).owner = some t ∧
      ((poolAfter calls run).scripts t).isDone = false := by
  have inv := systemInv_stateAfter calls run
  obtain ⟨t, owner⟩ := Option.ne_none_iff_exists'.mp fun none => (inv.owned.mp none).2 stopping
  refine ⟨t, owner, Bool.eq_false_iff.mpr fun done => ?_⟩
  obtain ⟨_, gone⟩ := (pool_keeps calls run t).result done
  exact gone.apart owner

/-- VMX memory outlives VMX operation in every interleaving of lifecycle calls with
what they have started on the processors. A stop frees it only under processors on
which nothing is left, and otherwise ends in quarantine, for good and with the image
pinned. A call that goes on being scheduled returns. -/
theorem vmx_memory_outlives_operation (calls : Nat → LifecycleCall) :
    (∀ (run : List LifecycleChoice) (choice : LifecycleChoice),
      (∀ i, ((stateAfter calls run).processors i).vmxOperation = true →
        ((stateAfter calls run).processors i).memory = true) ∧
      Safe (stateAfter calls run) (stateAfter calls (run ++ [choice])) ∧
      ((stateAfter calls run).lifecycle = .quarantined →
        (stateAfter calls run).imagePinned = true) ∧
      ((stateAfter calls run).lifecycle = .stopping →
        ∃ t, (stateAfter calls run).owner = some t ∧
          ((poolAfter calls run).scripts t).isDone = false)) ∧
    ∀ (schedule : Nat → LifecycleChoice) (t : Nat),
      (∀ n, ∃ m o, n ≤ m ∧ schedule m = .script t o) →
      ∃ n, (((lifecyclePool calls).reached System.move schedule n).scripts t).isDone = true := by
  refine ⟨fun run choice => ?_, fun schedule t fair => Pool.ends fair⟩
  have inv := systemInv_stateAfter calls run
  exact ⟨fun i on => (inv.sound i).memory (.inr on), (step_safe inv choice).2, inv.pinned,
    stopping_unfinished⟩

end Knhv.Lifecycle
