import Mathlib.Data.List.Induction
import Knhv.Iommu.Model
import Knhv.Lib.Guarded
import Knhv.Lib.Run

namespace Knhv.Iommu

/-- The calls on an assignment, with any arguments. -/
inductive AssignmentCall
  | activate (generation : U64) (readiness : U32)
  | beginDetach (generation : U64) (readiness : U32)
  | completeDetach (generation : U64) (readiness : U32)
  | quarantine (fault : Option IommuFaultRecord)

def assignmentCall (assignment : IommuAssignment) : AssignmentCall → Bool × IommuAssignment
  | .activate generation readiness => activateIommuAssignment assignment generation readiness
  | .beginDetach generation readiness => beginIommuDetach assignment generation readiness
  | .completeDetach generation readiness => completeIommuDetach assignment generation readiness
  | .quarantine fault => quarantineIommuAssignment assignment fault

def assignmentStep (assignment : IommuAssignment) (call : AssignmentCall) : IommuAssignment :=
  (assignmentCall assignment call).2

/-- The moves of an assignment: everything that a call can do. -/
inductive Moves (assignment : IommuAssignment) : AssignmentCall → IommuAssignment → Prop
  | activate {generation : U64} {readiness : U32}
      (prepared : assignment.state = kStatePrepared)
      (ready : readiness &&& kIommuActivateReadyMask = kIommuActivateReadyMask) :
      Moves assignment (.activate generation readiness) { assignment with state := kStateActive }
  | beginDetach {generation : U64} {readiness : U32}
      (active : assignment.state = kStateActive)
      (ready : readiness &&& kIommuDetachReadyMask = kIommuDetachReadyMask) :
      Moves assignment (.beginDetach generation readiness)
        { assignment with state := kStateDraining }
  | completeDetach {generation : U64} {readiness : U32}
      (draining : assignment.state = kStateDraining)
      (ready : readiness &&& kIommuCompleteDetachReadyMask = kIommuCompleteDetachReadyMask) :
      Moves assignment (.completeDetach generation readiness)
        { assignment with state := kStateRetired }
  | quarantine {fault : Option IommuFaultRecord}
      (notRetired : assignment.state ≠ kStateRetired)
      (notQuarantined : assignment.state ≠ kStateQuarantined) :
      Moves assignment (.quarantine fault)
        { assignment with
          faultCount := assignment.faultCount + 1
          flags := assignment.flags ||| kIommuAssignmentQuarantined
          state := kStateQuarantined
          status := IommuAssignmentStatus.FaultQuarantined.word }

theorem advanceAssignment_guarded (source target readyMask : U32) (assignment : IommuAssignment)
    (generation : U64) (readiness : U32) :
    Guarded assignment
      (fun after => assignment.state = source ∧ readiness &&& readyMask = readyMask ∧
        after = { assignment with state := target })
      (advanceAssignment source target readyMask assignment generation readiness) := by
  unfold advanceAssignment
  split
  · exact Or.inl rfl
  · rename_i accepted
    simp only [Bool.or_eq_true, Bool.not_eq_true', bne_iff_ne, ne_eq, not_or, Decidable.not_not,
      Bool.not_eq_false, isReadinessValid, Bool.and_eq_true, beq_iff_eq] at accepted
    exact Or.inr ⟨_, ⟨accepted.1.1.2, accepted.2.2, rfl⟩, rfl⟩

theorem assignmentCall_guarded (assignment : IommuAssignment) (call : AssignmentCall) :
    Guarded assignment (Moves assignment call) (assignmentCall assignment call) := by
  cases call with
  | activate generation readiness =>
    refine (advanceAssignment_guarded _ _ _ assignment generation readiness).imp ?_
    rintro after ⟨prepared, ready, rfl⟩
    exact .activate prepared ready
  | beginDetach generation readiness =>
    refine (advanceAssignment_guarded _ _ _ assignment generation readiness).imp ?_
    rintro after ⟨active, ready, rfl⟩
    exact .beginDetach active ready
  | completeDetach generation readiness =>
    refine (advanceAssignment_guarded _ _ _ assignment generation readiness).imp ?_
    rintro after ⟨draining, ready, rfl⟩
    exact .completeDetach draining ready
  | quarantine fault =>
    cases fault with
    | none => exact Or.inl rfl
    | some fault =>
      simp only [assignmentCall, quarantineIommuAssignment]
      split
      · exact Or.inl rfl
      · rename_i accepted
        simp only [Bool.or_eq_true, Bool.not_eq_true', beq_iff_eq, bne_iff_ne, ne_eq, not_or,
          Decidable.not_not] at accepted
        exact Or.inr ⟨_, .quarantine accepted.1.1.1.1.2 accepted.1.1.1.2, rfl⟩

/-- A step is a move or changes nothing. -/
theorem assignmentStep_cases (assignment : IommuAssignment) (call : AssignmentCall) :
    assignmentStep assignment call = assignment ∨
      Moves assignment call (assignmentStep assignment call) :=
  (assignmentCall_guarded assignment call).elim
    (P := fun after => after = assignment ∨ Moves assignment call after) (Or.inl rfl)
    (fun _ _ moved => Or.inr moved)

/-- What an assignment is bound to. -/
structure SameBinding (first second : IommuAssignment) : Prop where
  bdf : second.bdf = first.bdf
  ownerId : second.ownerId = first.ownerId
  domainId : second.domainId = first.domainId
  resetMethod : second.resetMethod = first.resetMethod
  generation : second.generation = first.generation

theorem Moves.binding {assignment after : IommuAssignment} {call : AssignmentCall}
    (moves : Moves assignment call after) : SameBinding assignment after := by
  cases moves with
  | activate | beginDetach | completeDetach | quarantine => exact ⟨rfl, rfl, rfl, rfl, rfl⟩

theorem SameBinding.trans {first second third : IommuAssignment}
    (earlier : SameBinding first second) (later : SameBinding second third) :
    SameBinding first third where
  bdf := later.bdf.trans earlier.bdf
  ownerId := later.ownerId.trans earlier.ownerId
  domainId := later.domainId.trans earlier.domainId
  resetMethod := later.resetMethod.trans earlier.resetMethod
  generation := later.generation.trans earlier.generation

/-- One fault is counted, and exactly in quarantine. -/
def faultsOf (state : U32) : U64 := if state = kStateQuarantined then 1 else 0

theorem Moves.faults {assignment after : IommuAssignment} {call : AssignmentCall}
    (moves : Moves assignment call after)
    (counted : assignment.faultCount = faultsOf assignment.state) :
    after.faultCount = faultsOf after.state := by
  cases moves with
  | activate prepared _ =>
    rw [prepared] at counted
    exact counted
  | beginDetach active _ =>
    rw [active] at counted
    exact counted
  | completeDetach draining _ =>
    rw [draining] at counted
    exact counted
  | quarantine _ notQuarantined =>
    rw [faultsOf, if_neg notQuarantined] at counted
    simp only [counted, faultsOf, if_true]
    rfl

/-- Nothing moves an assignment that is in quarantine or retired. -/
theorem Moves.not_final {assignment after : IommuAssignment} {call : AssignmentCall}
    (moves : Moves assignment call after) :
    assignment.state ≠ kStateQuarantined ∧ assignment.state ≠ kStateRetired := by
  cases moves with
  | activate prepared _ =>
    rw [prepared]
    decide
  | beginDetach active _ =>
    rw [active]
    decide
  | completeDetach draining _ =>
    rw [draining]
    decide
  | quarantine notRetired notQuarantined => exact ⟨notQuarantined, notRetired⟩

/-- The calls that make an assignment active, draining and retired: they
succeed, from the state before, with all the readiness bits. -/
def Activates (assignment : IommuAssignment) : AssignmentCall → Prop
  | .activate generation readiness =>
    (activateIommuAssignment assignment generation readiness).1 = true ∧
      assignment.state = kStatePrepared ∧
      readiness &&& kIommuActivateReadyMask = kIommuActivateReadyMask
  | _ => False

def Detaches (assignment : IommuAssignment) : AssignmentCall → Prop
  | .beginDetach generation readiness =>
    (beginIommuDetach assignment generation readiness).1 = true ∧
      assignment.state = kStateActive ∧
      readiness &&& kIommuDetachReadyMask = kIommuDetachReadyMask
  | _ => False

def Retires (assignment : IommuAssignment) : AssignmentCall → Prop
  | .completeDetach generation readiness =>
    (completeIommuDetach assignment generation readiness).1 = true ∧
      assignment.state = kStateDraining ∧
      readiness &&& kIommuCompleteDetachReadyMask = kIommuCompleteDetachReadyMask
  | _ => False

theorem activates_of_active {assignment : IommuAssignment} {call : AssignmentCall}
    (active : (assignmentStep assignment call).state = kStateActive) :
    assignment.state = kStateActive ∨ Activates assignment call := by
  rcases assignmentCall_guarded assignment call with same | ⟨after, moved, done⟩
  · rw [assignmentStep, same] at active
    exact Or.inl active
  · rw [assignmentStep, done] at active
    cases moved with
    | activate prepared ready => exact Or.inr ⟨congrArg Prod.fst done, prepared, ready⟩
    | beginDetach => exact absurd (show kStateDraining = kStateActive from active) (by decide)
    | completeDetach => exact absurd (show kStateRetired = kStateActive from active) (by decide)
    | quarantine => exact absurd (show kStateQuarantined = kStateActive from active) (by decide)

theorem detaches_of_draining {assignment : IommuAssignment} {call : AssignmentCall}
    (draining : (assignmentStep assignment call).state = kStateDraining) :
    assignment.state = kStateDraining ∨ Detaches assignment call := by
  rcases assignmentCall_guarded assignment call with same | ⟨after, moved, done⟩
  · rw [assignmentStep, same] at draining
    exact Or.inl draining
  · rw [assignmentStep, done] at draining
    cases moved with
    | beginDetach active ready => exact Or.inr ⟨congrArg Prod.fst done, active, ready⟩
    | activate => exact absurd (show kStateActive = kStateDraining from draining) (by decide)
    | completeDetach => exact absurd (show kStateRetired = kStateDraining from draining) (by decide)
    | quarantine => exact absurd (show kStateQuarantined = kStateDraining from draining) (by decide)

theorem retires_of_retired {assignment : IommuAssignment} {call : AssignmentCall}
    (retired : (assignmentStep assignment call).state = kStateRetired) :
    assignment.state = kStateRetired ∨ Retires assignment call := by
  rcases assignmentCall_guarded assignment call with same | ⟨after, moved, done⟩
  · rw [assignmentStep, same] at retired
    exact Or.inl retired
  · rw [assignmentStep, done] at retired
    cases moved with
    | completeDetach draining ready => exact Or.inr ⟨congrArg Prod.fst done, draining, ready⟩
    | activate => exact absurd (show kStateActive = kStateRetired from retired) (by decide)
    | beginDetach => exact absurd (show kStateDraining = kStateRetired from retired) (by decide)
    | quarantine => exact absurd (show kStateQuarantined = kStateRetired from retired) (by decide)

/-- The assignment has been activated. -/
def Activated (start : IommuAssignment) (calls : List AssignmentCall) : Prop :=
  Run.Occurs assignmentStep Activates start calls

/-- A detach has begun, after the activation. -/
def Detached (start : IommuAssignment) (calls : List AssignmentCall) : Prop :=
  Run.Follows assignmentStep Detaches (Activated start) start calls

/-- A detach has been completed, after it had begun. -/
def Retired (start : IommuAssignment) (calls : List AssignmentCall) : Prop :=
  Run.Follows assignmentStep Retires (Detached start) start calls

/-- What is true of an assignment after every run, and of the calls that come
next. -/
structure AssignmentHolds (start : IommuAssignment) (calls : List AssignmentCall) : Prop where
  binding : SameBinding start (Run.after assignmentStep start calls)
  activation : Run.Every assignmentStep (fun assignment call =>
    assignment.state ≠ kStateActive → (assignmentStep assignment call).state = kStateActive →
      Activates assignment call) start calls
  active : (Run.after assignmentStep start calls).state = kStateActive → Activated start calls
  retired : (Run.after assignmentStep start calls).state = kStateRetired → Retired start calls
  oneFault : (Run.after assignmentStep start calls).faultCount ≤ 1
  faulted : (Run.after assignmentStep start calls).faultCount = 1 ↔
    (Run.after assignmentStep start calls).state = kStateQuarantined
  absorbing : (Run.after assignmentStep start calls).state = kStateQuarantined ∨
      (Run.after assignmentStep start calls).state = kStateRetired →
    ∀ call, assignmentStep (Run.after assignmentStep start calls) call =
      Run.after assignmentStep start calls
  failed : ∀ call, (assignmentCall (Run.after assignmentStep start calls) call).1 = false →
    (assignmentCall (Run.after assignmentStep start calls) call).2 =
      Run.after assignmentStep start calls

theorem faultsOf_facts (state : U32) :
    faultsOf state ≤ 1 ∧ (faultsOf state = 1 ↔ state = kStateQuarantined) := by
  unfold faultsOf
  split
  · rename_i quarantined
    exact ⟨by decide, iff_of_true rfl quarantined⟩
  · rename_i other
    exact ⟨by decide, iff_of_false (by decide) other⟩

section Lifecycle

variable {start : IommuAssignment}

theorem after_binding (calls : List AssignmentCall) :
    SameBinding start (Run.after assignmentStep start calls) := by
  refine Run.invariant_always (P := SameBinding start) (fun assignment call held => ?_)
    ⟨rfl, rfl, rfl, rfl, rfl⟩ calls
  rcases assignmentStep_cases assignment call with same | moves
  · rw [same]
    exact held
  · exact held.trans moves.binding

theorem after_faults (counted : start.faultCount = faultsOf start.state)
    (calls : List AssignmentCall) :
    (Run.after assignmentStep start calls).faultCount =
      faultsOf (Run.after assignmentStep start calls).state := by
  refine Run.invariant_always
    (P := fun assignment : IommuAssignment => assignment.faultCount = faultsOf assignment.state)
    (fun assignment call held => ?_) counted calls
  rcases assignmentStep_cases assignment call with same | moves
  · rw [same]
    exact held
  · exact moves.faults held

variable (prepared : start.state = kStatePrepared)
include prepared

theorem activated_of_active {calls : List AssignmentCall}
    (active : (Run.after assignmentStep start calls).state = kStateActive) :
    Activated start calls := by
  have outside : ¬start.state = kStateActive := by
    rw [prepared]
    decide
  obtain ⟨pre, call, post, split, activates, _⟩ := Run.follows_of_entered
    (F := fun assignment : IommuAssignment => assignment.state = kStateActive)
    (Q := fun _ => True) (fun _ _ => activates_of_active) (fun _ _ _ => trivial) outside active
  exact ⟨pre, call, post, split, activates⟩

theorem detached_of_draining {calls : List AssignmentCall}
    (draining : (Run.after assignmentStep start calls).state = kStateDraining) :
    Detached start calls := by
  have outside : ¬start.state = kStateDraining := by
    rw [prepared]
    decide
  refine Run.follows_of_entered
    (F := fun assignment : IommuAssignment => assignment.state = kStateDraining)
    (fun _ _ => detaches_of_draining) (fun pre call detaches => ?_) outside draining
  cases call with
  | beginDetach generation readiness => exact activated_of_active prepared detaches.2.1
  | activate | completeDetach | quarantine => exact detaches.elim

theorem retired_of_retired {calls : List AssignmentCall}
    (retired : (Run.after assignmentStep start calls).state = kStateRetired) :
    Retired start calls := by
  have outside : ¬start.state = kStateRetired := by
    rw [prepared]
    decide
  refine Run.follows_of_entered
    (F := fun assignment : IommuAssignment => assignment.state = kStateRetired)
    (fun _ _ => retires_of_retired) (fun pre call retires => ?_) outside retired
  cases call with
  | completeDetach generation readiness => exact detached_of_draining prepared retires.2.1
  | activate | beginDetach | quarantine => exact retires.elim

end Lifecycle

theorem prepareIommuAssignment_success {capabilities : Option IommuCapabilities}
    {profile : Option IommuDeviceProfile} {domain : Option IommuDomain} {ownerId generation : U64}
    {wanted : Bool} {assignment : IommuAssignment}
    (success : prepareIommuAssignment capabilities profile domain ownerId generation wanted =
      (.Success, some assignment)) :
    ∃ profile domain, assignment = preparedAssignment profile domain ownerId generation := by
  unfold prepareIommuAssignment at success
  split at success
  · cases success
  split at success
  · rename_i capabilities profile domain
    split at success
    · cases success
      exact ⟨profile, domain, rfl⟩
    · rename_i failed
      exact (failed (Prod.mk.inj success).1).elim
  · cases (Prod.mk.inj success).1

/-- The lifecycle of an assignment, over every run of its calls from a
preparation that succeeded. -/
theorem assignment_lifecycle {capabilities : Option IommuCapabilities}
    {profile : Option IommuDeviceProfile} {domain : Option IommuDomain} {ownerId generation : U64}
    {wanted : Bool} {assignment : IommuAssignment}
    (success : prepareIommuAssignment capabilities profile domain ownerId generation wanted =
      (.Success, some assignment)) (calls : List AssignmentCall) :
    AssignmentHolds assignment calls := by
  obtain ⟨given, target, rfl⟩ := prepareIommuAssignment_success success
  have counted : (preparedAssignment given target ownerId generation).faultCount =
      faultsOf (preparedAssignment given target ownerId generation).state := rfl
  have faults := after_faults counted calls
  have facts := faultsOf_facts (Run.after assignmentStep
    (preparedAssignment given target ownerId generation) calls).state
  refine ⟨after_binding calls, ?_, activated_of_active rfl, retired_of_retired rfl, ?_, ?_, ?_, ?_⟩
  · intro pre call post _ inactive active
    exact (activates_of_active active).resolve_left inactive
  · rw [faults]
    exact facts.1
  · rw [faults]
    exact facts.2
  · intro final call
    rcases assignmentStep_cases _ call with same | moves
    · exact same
    · exact absurd final (not_or.mpr moves.not_final)
  · exact fun call failed => (assignmentCall_guarded _ call).unchanged failed

/-- A device that can be passed through. -/
def sampleCapabilities : IommuCapabilities where
  size := sizeofIommuCapabilities
  version := kIommuContractVersion
  featureFlags := requiredCaps
  maxPhysicalAddressBits := 48
  maxDomainAddressBits := 48
  maxDomains := 16
  maxMsixVectors := 32
  maxReservedRanges := 4
  reserved := 0
  generation := 1

def sampleProfile : IommuDeviceProfile where
  size := sizeofIommuDeviceProfile
  version := kIommuContractVersion
  bdf := ⟨0, 1, 2, 3, fun _ => 0⟩
  isolationGroup := 1
  flags := kIommuDeviceIsolationComplete ||| kIommuDeviceResetReliable ||| kIommuDeviceAllowL1
  resetMethod := kResetFlr
  dmaAddressBits := 32
  maxMsixVectors := 0
  rmrrCount := 0
  profileGeneration := 1
  rmrr := fun _ => ⟨0, 0, 0, 0⟩
  dmaMask := 0xFFFFFFFF
  reserved := 0
  reserved2 := 0

def sampleDomain : IommuDomain where
  size := sizeofIommuDomain
  version := kIommuContractVersion
  domainId := 2
  ownerId := 7
  parentDomainId := 0
  generation := 1
  kind := kKindL1
  state := kStateActive
  flags := kIommuDomainInterruptRemap
  addressBits := 32
  guestBase := 0
  guestLimit := 0xFFFFF000
  mappedPages := 0
  reserved := 0
  reserved2 := 0

/-- An assignment that is activated, detached and retired. -/
theorem assignment_lifecycle_detach :
    AssignmentHolds (preparedAssignment sampleProfile sampleDomain 7 1)
      [.activate 1 15, .beginDetach 1 7, .completeDetach 1 15] :=
  assignment_lifecycle
    (by decide +kernel : prepareIommuAssignment (some sampleCapabilities) (some sampleProfile)
      (some sampleDomain) 7 1 true =
        (.Success, some (preparedAssignment sampleProfile sampleDomain 7 1))) _

end Knhv.Iommu
