import Knhv.Nested.StoredFields
import Knhv.Nested.Vmptrld

namespace Knhv.Nested

variable {σ : Type}

/-- The operand check reads the capabilities and the memory, nothing else. -/
theorem validateVmxRegion_congr {vcpu other : NestedVcpu σ}
    (capabilities : other.capabilities = vcpu.capabilities) (memory : other.memory = vcpu.memory)
    (operandLinear : U64) :
    validateVmxRegion other operandLinear = validateVmxRegion vcpu operandLinear := by
  unfold validateVmxRegion isLinearRangeCanonical
  rw [capabilities, memory]

/-- The vCPU with a slot made `Active` and current, as VMPTRLD makes it. -/
def activateVmcs (vcpu : NestedVcpu σ) (slot : Fin kNestedVmcsSlots) (region : U64) :
    NestedVcpu σ :=
  { vcpu.setVmcs slot { vcpu.vmcs slot with state := .Active } with currentVmcsGpa := region }

theorem activateVmcs_control (vcpu : NestedVcpu σ) (slot : Fin kNestedVmcsSlots) (region : U64) :
    (activateVmcs vcpu slot region).control =
      { vcpu.control.setVmcs slot { vcpu.control.vmcs slot with state := .Active } with
        currentVmcsGpa := region } :=
  NestedControl.ext rfl rfl rfl rfl rfl rfl rfl rfl (setVmcs_vmcs_control ..)

theorem activateVmcs_find (vcpu : NestedVcpu σ) (slot : Fin kNestedVmcsSlots) (region other : U64) :
    findVmcs (clearVmInstructionError (activateVmcs vcpu slot region)) other =
      findVmcs vcpu other := by
  rw [findVmcs_eq_find, control_clearVmInstructionError, activateVmcs_control]
  exact NestedControl.find_congr (setVmcs_state_slots vcpu.control slot .Active) other

theorem activateVmcs_current {vcpu : NestedVcpu σ} {slot : Fin kNestedVmcsSlots} {region : U64}
    (notNull : region ≠ kNoCurrentVmcs) (found : findVmcs vcpu region = some slot) :
    currentVmcs (activateVmcs vcpu slot region) = some slot := by
  refine currentVmcs_eq_some_iff.mpr ⟨notNull, ?_⟩
  rw [activateVmcs_control]
  exact (NestedControl.find_congr (setVmcs_state_slots vcpu.control slot .Active) region).trans found

/-- The loaded slot loses its error word, the other slots lose nothing. -/
theorem activateVmcs_vmcs {vcpu : NestedVcpu σ} {slot : Fin kNestedVmcsSlots} {region : U64}
    (notNull : region ≠ kNoCurrentVmcs) (found : findVmcs vcpu region = some slot) :
    (clearVmInstructionError (activateVmcs vcpu slot region)).vmcs slot =
        setVmcsReadOnly { vcpu.vmcs slot with state := .Active } kVmcsFieldInstructionError 0 ∧
      ∀ other ≠ slot,
        (clearVmInstructionError (activateVmcs vcpu slot region)).vmcs other = vcpu.vmcs other := by
  have current := activateVmcs_current notNull found
  unfold clearVmInstructionError
  refine ⟨?_, fun other different => ?_⟩
  · rw [recordVmInstructionError_vmcs, if_pos current]
    simp only [activateVmcs, NestedVcpu.setVmcs, Function.update_self]
    rfl
  · rw [recordVmInstructionError_vmcs, if_neg (by simp [current, Ne.symm different])]
    simp only [activateVmcs, NestedVcpu.setVmcs, Function.update_of_ne different]

/-- VMPTRLD of a tracked region, with the state it leaves named. -/
theorem dispatch_vmptrld_tracked {vcpu : NestedVcpu σ} {instruction : VmxInstruction} {region : U64}
    {slot : Fin kNestedVmcsSlots} {context : σ}
    (valid : instructionIsValid instruction = true) (opcode : instruction.opcode = .Vmptrld)
    (on : vcpu.vmxonActive = true)
    (operand : validateVmxRegion vcpu instruction.linearOperand = (some region, context))
    (other : region ≠ vcpu.vmxonGpa) (found : findVmcs vcpu region = some slot) :
    dispatchNestedInstruction vcpu (some instruction) =
      if (vcpu.vmcs slot).state = .Active ∧ vcpu.currentVmcsGpa ≠ region then
        makeVmfail (vcpu.withContext context) .VmfailValid kErrorInvalidOperand
          (instructionLength instruction)
      else
        (makeSuccess .ResumeL1 (instructionLength instruction),
          clearVmInstructionError (activateVmcs (vcpu.withContext context) slot region)) := by
  rw [dispatch_vmptrld valid opcode on]
  exact emulateVmptrld_tracked operand other found

/-- A vCPU in VMX operation with no L2, two tracked regions of which the first
is current, and a VMPTRLD for each whose operand is valid when it runs. -/
structure SwitchSetup (vcpu : NestedVcpu σ) (home away : U64)
    (homeSlot awaySlot : Fin kNestedVmcsSlots) (toAway toHome : VmxInstruction) : Prop where
  reached : Reachable vcpu
  on : vcpu.vmxonActive = true
  idle : vcpu.l2Running = false
  current : vcpu.currentVmcsGpa = home
  different : home ≠ away
  homeFound : findVmcs vcpu home = some homeSlot
  awayFound : findVmcs vcpu away = some awaySlot
  awayOther : away ≠ vcpu.vmxonGpa
  awayValid : instructionIsValid toAway = true
  homeValid : instructionIsValid toHome = true
  awayOpcode : toAway.opcode = .Vmptrld
  homeOpcode : toHome.opcode = .Vmptrld
  awayOperand : (validateVmxRegion vcpu toAway.linearOperand).1 = some away
  homeOperand : (validateVmxRegion
    (vcpu.withContext (validateVmxRegion vcpu toAway.linearOperand).2) toHome.linearOperand).1 =
      some home

/-- The way back is barred: VMPTRLD reports error 1, the other VMCS stays
current, and the slot left behind is untouched. -/
structure SwitchBarred (vcpu : NestedVcpu σ) (away : U64) (homeSlot : Fin kNestedVmcsSlots)
    (outcome : NestedResult × NestedVcpu σ) : Prop where
  status : outcome.1.status = .VmfailValid
  error : outcome.1.instructionError = kErrorInvalidOperand
  current : outcome.2.currentVmcsGpa = away
  slot : outcome.2.vmcs homeSlot = vcpu.vmcs homeSlot

/-- The way back is open: the region is current again, in its slot, with every
field as it was; the error word alone is cleared, as after any success. -/
structure SwitchedBack (vcpu : NestedVcpu σ) (home : U64) (homeSlot : Fin kNestedVmcsSlots)
    (outcome : NestedResult × NestedVcpu σ) : Prop where
  status : outcome.1.status = .Success
  current : outcome.2.currentVmcsGpa = home
  found : findVmcs outcome.2 home = some homeSlot
  error : storedField (outcome.2.vmcs homeSlot) kVmcsFieldInstructionError = some 0
  fields : ∀ encoding ≠ kVmcsFieldInstructionError,
    storedField (outcome.2.vmcs homeSlot) encoding = storedField (vcpu.vmcs homeSlot) encoding

section

variable {vcpu : NestedVcpu σ} {home away : U64} {homeSlot awaySlot : Fin kNestedVmcsSlots}
  {toAway toHome : VmxInstruction}

theorem SwitchSetup.home_ne_null
    (setup : SwitchSetup vcpu home away homeSlot awaySlot toAway toHome) :
    home ≠ kNoCurrentVmcs := by
  obtain ⟨used, same⟩ := findVmcs_tracks setup.homeFound
  rw [← same]
  exact ne_kNoCurrentVmcs_of_aligned (setup.reached.tableInv.region homeSlot used).aligned

theorem SwitchSetup.away_ne_null
    (setup : SwitchSetup vcpu home away homeSlot awaySlot toAway toHome) :
    away ≠ kNoCurrentVmcs := by
  obtain ⟨used, same⟩ := findVmcs_tracks setup.awayFound
  rw [← same]
  exact ne_kNoCurrentVmcs_of_aligned (setup.reached.tableInv.region awaySlot used).aligned

theorem SwitchSetup.slots_ne
    (setup : SwitchSetup vcpu home away homeSlot awaySlot toAway toHome) :
    homeSlot ≠ awaySlot := by
  rintro rfl
  obtain ⟨_, atHome⟩ := findVmcs_tracks setup.homeFound
  obtain ⟨_, atAway⟩ := findVmcs_tracks setup.awayFound
  exact setup.different (atHome.symm.trans atAway)

/-- A current VMCS has been loaded, and perhaps launched since. -/
theorem SwitchSetup.home_state
    (setup : SwitchSetup vcpu home away homeSlot awaySlot toAway toHome) :
    (vcpu.vmcs homeSlot).state = .Active ∨ (vcpu.vmcs homeSlot).state = .Launched := by
  obtain ⟨used, same⟩ := findVmcs_tracks setup.homeFound
  have loaded : (vcpu.vmcs homeSlot).state ≠ .Clear :=
    setup.reached.pointerInv.loaded homeSlot used (same.trans setup.current.symm)
  cases state : (vcpu.vmcs homeSlot).state with
  | Clear => exact absurd state loaded
  | Active => exact Or.inl rfl
  | Launched => exact Or.inr rfl

/-- The way out, decided by the state of the slot it goes to. -/
theorem SwitchSetup.first
    (setup : SwitchSetup vcpu home away homeSlot awaySlot toAway toHome) :
    dispatchNestedInstruction vcpu (some toAway) =
      if (vcpu.vmcs awaySlot).state = .Active then
        makeVmfail (vcpu.withContext (validateVmxRegion vcpu toAway.linearOperand).2) .VmfailValid
          kErrorInvalidOperand (instructionLength toAway)
      else
        (makeSuccess .ResumeL1 (instructionLength toAway),
          clearVmInstructionError (activateVmcs
            (vcpu.withContext (validateVmxRegion vcpu toAway.linearOperand).2) awaySlot away)) := by
  have elsewhere : vcpu.currentVmcsGpa ≠ away := by
    rw [setup.current]
    exact setup.different
  rw [dispatch_vmptrld_tracked setup.awayValid setup.awayOpcode setup.on
    (Prod.ext setup.awayOperand rfl) setup.awayOther setup.awayFound]
  simp only [elsewhere, ne_eq, not_false_eq_true, and_true]

/-- What the way out leaves behind. -/
structure SwitchedAway (vcpu between : NestedVcpu σ) (context : σ) (home away : U64)
    (homeSlot awaySlot : Fin kNestedVmcsSlots) : Prop where
  on : between.vmxonActive = vcpu.vmxonActive
  vmxonGpa : between.vmxonGpa = vcpu.vmxonGpa
  capabilities : between.capabilities = vcpu.capabilities
  memory : between.memory = (vcpu.withContext context).memory
  current : between.currentVmcsGpa = away
  currentSlot : currentVmcs between = some awaySlot
  found : findVmcs between home = some homeSlot
  slot : between.vmcs homeSlot = vcpu.vmcs homeSlot

theorem SwitchSetup.switchedAway
    (setup : SwitchSetup vcpu home away homeSlot awaySlot toAway toHome) (context : σ) :
    SwitchedAway vcpu
      (clearVmInstructionError (activateVmcs (vcpu.withContext context) awaySlot away)) context
      home away homeSlot awaySlot := by
  have awayFound : findVmcs (vcpu.withContext context) away = some awaySlot := setup.awayFound
  have control := control_clearVmInstructionError
    (activateVmcs (vcpu.withContext context) awaySlot away)
  rw [activateVmcs_control, control_withContext] at control
  refine ⟨congrArg NestedControl.vmxonActive control, congrArg NestedControl.vmxonGpa control,
    congrArg NestedControl.capabilities control, recordVmInstructionError_memory _ 0,
    congrArg NestedControl.currentVmcsGpa control, ?_, ?_, ?_⟩
  · refine currentVmcs_eq_some_iff.mpr ?_
    rw [show (clearVmInstructionError (activateVmcs (vcpu.withContext context) awaySlot
      away)).currentVmcsGpa = away from congrArg NestedControl.currentVmcsGpa control]
    exact ⟨setup.away_ne_null, (activateVmcs_find _ _ _ _).trans awayFound⟩
  · exact (activateVmcs_find _ _ _ _).trans setup.homeFound
  · exact (activateVmcs_vmcs setup.away_ne_null awayFound).2 homeSlot setup.slots_ne

/-- The way back, decided by the state in which the slot was left. -/
theorem SwitchSetup.second
    (setup : SwitchSetup vcpu home away homeSlot awaySlot toAway toHome) {between : NestedVcpu σ}
    (left : SwitchedAway vcpu between (validateVmxRegion vcpu toAway.linearOperand).2 home away
      homeSlot awaySlot) :
    ∃ context, dispatchNestedInstruction between (some toHome) =
      if (vcpu.vmcs homeSlot).state = .Active then
        makeVmfail (between.withContext context) .VmfailValid kErrorInvalidOperand
          (instructionLength toHome)
      else
        (makeSuccess .ResumeL1 (instructionLength toHome),
          clearVmInstructionError
            (activateVmcs (between.withContext context) homeSlot home)) := by
  have other : home ≠ between.vmxonGpa := by
    rw [left.vmxonGpa, ← setup.current]
    exact setup.reached.pointerInv.vmxon setup.on
  have capabilities : between.capabilities =
      (vcpu.withContext (validateVmxRegion vcpu toAway.linearOperand).2).capabilities :=
    left.capabilities
  have operand : (validateVmxRegion between toHome.linearOperand).1 = some home := by
    rw [validateVmxRegion_congr capabilities left.memory]
    exact setup.homeOperand
  refine ⟨(validateVmxRegion between toHome.linearOperand).2, ?_⟩
  rw [dispatch_vmptrld_tracked setup.homeValid setup.homeOpcode (left.on.trans setup.on)
    (Prod.ext operand rfl) other left.found, left.slot, left.current]
  simp only [setup.different.symm, ne_eq, not_false_eq_true, and_true]

theorem SwitchSetup.barred
    (setup : SwitchSetup vcpu home away homeSlot awaySlot toAway toHome) {between : NestedVcpu σ}
    (left : SwitchedAway vcpu between (validateVmxRegion vcpu toAway.linearOperand).2 home away
      homeSlot awaySlot) (active : (vcpu.vmcs homeSlot).state = .Active) :
    SwitchBarred vcpu away homeSlot (dispatchNestedInstruction between (some toHome)) := by
  obtain ⟨context, second⟩ := setup.second left
  rw [if_pos active] at second
  have control := control_makeVmfail (between.withContext context) .VmfailValid
    kErrorInvalidOperand (instructionLength toHome)
  have elsewhere : ¬currentVmcs (between.withContext context) = some homeSlot := by
    intro atHome
    exact setup.slots_ne (Option.some.inj (atHome.symm.trans left.currentSlot))
  rw [second]
  refine ⟨status_makeVmfail _ _ _ _, rfl, ?_, ?_⟩
  · exact (congrArg NestedControl.currentVmcsGpa control).trans left.current
  · simp only [makeVmfail, if_true]
    rw [recordVmInstructionError_vmcs, if_neg elsewhere]
    exact left.slot

theorem SwitchSetup.back
    (setup : SwitchSetup vcpu home away homeSlot awaySlot toAway toHome) {between : NestedVcpu σ}
    (left : SwitchedAway vcpu between (validateVmxRegion vcpu toAway.linearOperand).2 home away
      homeSlot awaySlot) (launched : (vcpu.vmcs homeSlot).state = .Launched) :
    SwitchedBack vcpu home homeSlot (dispatchNestedInstruction between (some toHome)) := by
  obtain ⟨context, second⟩ := setup.second left
  rw [if_neg (by simp [launched])] at second
  have found : findVmcs (between.withContext context) home = some homeSlot := left.found
  have control := control_clearVmInstructionError
    (activateVmcs (between.withContext context) homeSlot home)
  rw [activateVmcs_control] at control
  have contents := (activateVmcs_vmcs setup.home_ne_null found).1
  obtain ⟨rule, errorFound, _⟩ := findFieldRule_instructionError
  rw [second]
  refine ⟨rfl, congrArg NestedControl.currentVmcsGpa control,
    (activateVmcs_find _ _ _ _).trans found, ?_, fun encoding different => ?_⟩
  · dsimp only
    rw [contents, storedField_setVmcsReadOnly_self errorFound]
    exact congrArg some BitVec.zero_and
  · dsimp only
    rw [contents, storedField_setVmcsReadOnly_of_ne different, ← left.slot]
    rfl

/-- Switching away and back. The way out is open unless the other VMCS is held
`Active`. The way back is then barred for a VMCS that was left `Active`; one
that was left `Launched` comes back with its contents. -/
theorem switch_back (setup : SwitchSetup vcpu home away homeSlot awaySlot toAway toHome) :
    let first := dispatchNestedInstruction vcpu (some toAway)
    let second := dispatchNestedInstruction first.2 (some toHome)
    (first.1.status = .Success ↔ (vcpu.vmcs awaySlot).state ≠ .Active) ∧
      ((vcpu.vmcs homeSlot).state = .Active ∨ (vcpu.vmcs homeSlot).state = .Launched) ∧
      (first.1.status = .Success → (vcpu.vmcs homeSlot).state = .Active →
        SwitchBarred vcpu away homeSlot second) ∧
      (first.1.status = .Success → (vcpu.vmcs homeSlot).state = .Launched →
        SwitchedBack vcpu home homeSlot second) := by
  dsimp only
  have first := setup.first
  by_cases held : (vcpu.vmcs awaySlot).state = .Active
  · have refused : (dispatchNestedInstruction vcpu (some toAway)).1.status ≠ .Success := by
      rw [first, if_pos held, status_makeVmfail]
      decide
    exact ⟨by simp [refused, held], setup.home_state, fun success => absurd success refused,
      fun success => absurd success refused⟩
  · rw [if_neg held] at first
    have left := setup.switchedAway (validateVmxRegion vcpu toAway.linearOperand).2
    rw [first]
    exact ⟨by simp [makeSuccess, makeResult, held], setup.home_state,
      fun _ active => setup.barred left active, fun _ launched => setup.back left launched⟩

end

/-- Page 3 is cleared, page 2 is loaded. -/
def twoRegionTrace : List (NestedInput Unit) :=
  [vmxInstruction .Vmxon 8, vmxInstruction .Vmclear 24, vmxInstruction .Vmptrld 16]

theorem flatVcpu_reached (inputs : List (NestedInput Unit)) :
    Reachable (Run.after nestedStep flatVcpu inputs) :=
  (Reachable.start none flatMemory true).after inputs

/-- A VMCS that is loaded, left for another one and loaded again: the second
VMPTRLD fails although both regions are valid and tracked. -/
theorem switch_back_refused :
    SwitchSetup (Run.after nestedStep flatVcpu twoRegionTrace) 0x2000 0x3000 ⟨1, by decide⟩
        ⟨0, by decide⟩ (vmxOperands .Vmptrld 24) (vmxOperands .Vmptrld 16) ∧
      (dispatchNestedInstruction (Run.after nestedStep flatVcpu twoRegionTrace)
        (some (vmxOperands .Vmptrld 24))).1.status = .Success ∧
      (dispatchNestedInstruction (dispatchNestedInstruction
        (Run.after nestedStep flatVcpu twoRegionTrace) (some (vmxOperands .Vmptrld 24))).2
        (some (vmxOperands .Vmptrld 16))).1.status = .VmfailValid := by
  refine ⟨⟨flatVcpu_reached _, ?_, ?_, ?_, ?_, ?_, ?_, ?_, ?_, ?_, ?_, ?_, ?_, ?_⟩, ?_, ?_⟩
  all_goals decide +kernel

/-- A VMCS that has been launched comes back. -/
theorem switch_back_launched :
    SwitchedBack (Run.after nestedStep flatVcpu (twoRegionTrace ++ enterAndExit)) 0x2000
      ⟨1, by decide⟩
      (dispatchNestedInstruction (dispatchNestedInstruction
        (Run.after nestedStep flatVcpu (twoRegionTrace ++ enterAndExit))
        (some (vmxOperands .Vmptrld 24))).2 (some (vmxOperands .Vmptrld 16))) := by
  have setup : SwitchSetup (Run.after nestedStep flatVcpu (twoRegionTrace ++ enterAndExit))
      0x2000 0x3000 ⟨1, by decide⟩ ⟨0, by decide⟩ (vmxOperands .Vmptrld 24) (vmxOperands .Vmptrld 16) := by
    refine ⟨flatVcpu_reached _, ?_, ?_, ?_, ?_, ?_, ?_, ?_, ?_, ?_, ?_, ?_, ?_, ?_⟩
    all_goals decide +kernel
  exact (switch_back setup).2.2.2 (by decide +kernel) (by decide +kernel)

end Knhv.Nested
