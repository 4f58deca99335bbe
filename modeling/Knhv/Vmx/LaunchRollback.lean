import Knhv.Vmx.LaunchPhases

open Std.Do

set_option mvcgen.warning false

namespace Knhv.Vmx

open Teardown

section

variable (e : LaunchEnvironment) (entry : LaunchState)

theorem check_of_firstStop {gates : List Gate} {refuses : Bool} (passed : firstStop gates = none)
    (member : .check refuses ∈ gates) : refuses = false := by
  have gate := List.findSome?_eq_none_iff.mp passed _ member
  cases refuses with
  | false => rfl
  | true => cases gate

theorem fixedBits_of_firstStop (passed : firstStop (gatesBeforeCapture e entry) = none) :
    FixedBits e entry := by
  have member : Gate.check
      (!isFixedCrValueValid e.machine entry.cr0 msrIa32VmxCr0Fixed0 msrIa32VmxCr0Fixed1 ||
        !isFixedCrValueValid e.machine (entry.cr4 ||| cr4Vmxe) msrIa32VmxCr4Fixed0
          msrIa32VmxCr4Fixed1) ∈ gatesBeforeCapture e entry := by
    simp [gatesBeforeCapture, xstateGates]
  have accepted := check_of_firstStop passed member
  rw [Bool.or_eq_false_iff, Bool.not_eq_false', Bool.not_eq_false'] at accepted
  exact ⟨accepted.1, accepted.2⟩

theorem claimed_rolledBack {xss : U64} (same : xss = entry.xss) :
    RolledBack entry { claimed entry with xss, state := .failed } where
  state := rfl
  vmxOperation := id
  vmcsCurrent := rfl
  cr0 := rfl
  cr4 := rfl
  xss := same

theorem guardedRegion_spec (steady : firstStop (gatesBeforeCapture e entry) ≠ some .raised) :
    ⦃fun s => ⌜s = claimed entry⌝⦄ guardedRegion e
    ⦃post⟨fun value s => ⌜value = 1 ∧ Ready e s⌝, fun exit s => ⌜Leaves e entry exit s⌝⟩⦄ := by
  have capture := launchFromCapture_spec e entry
  mvcgen [guardedRegion, passGates, failLaunch, capture]
  case vc1.fixed atEntry passed =>
    subst atEntry
    exact fixedBits_of_firstStop e entry passed
  case vc3.h_2 atEntry _ _ =>
    subst atEntry
    exact ⟨rfl, claimed_rolledBack entry rfl⟩
  case vc4.h_3 atEntry raised =>
    subst atEntry
    exact absurd raised steady

theorem launchOnce_spec (steady : firstStop (gatesBeforeCapture e entry) ≠ some .raised) :
    ⦃fun s => ⌜s = claimed entry⌝⦄ launchOnce e
    ⦃post⟨fun value s => ⌜value = 1 ∧ Ready e s⌝, fun exit s => ⌜Undoes entry exit s⌝⟩⦄ := by
  have region := guardedRegion_spec e entry steady
  have undo := undoLaunch_spec e entry
  mvcgen [launchOnce, region, undo]
  case vc2.post.success => exact And.intro
  case vc4.post.except.handle.h_1.post.success => exact False.elim
  case vc5.post.except.handle.h_2 leaves => exact leaves.undoes

theorem run_bind {α β : Type} (x : Launch α) (next : α → Launch β) (s : LaunchState) :
    (x >>= next).run s =
      match x.run s with
      | (.ok value, after) => (next value).run after
      | (.error exit, after) => (.error exit, after) := by
  have bound : (x >>= next).run s = (ExceptT.bindCont next (x.run s).1) (x.run s).2 := rfl
  rw [bound]
  rcases x.run s with ⟨outcome, after⟩
  cases outcome with
  | error exit => rfl
  | ok value => rfl

theorem run_tryCatch {α : Type} (x : Launch α) (handler : LaunchExit → Launch α) (s : LaunchState) :
    (tryCatch x handler).run s =
      match x.run s with
      | (.ok value, after) => (.ok value, after)
      | (.error exit, after) => (handler exit).run after := by
  have bound : (tryCatch x handler).run s = ExceptT.tryCatch x handler s := rfl
  rw [bound]
  simp only [ExceptT.tryCatch, ExceptT.run, ExceptT.mk, bind, StateT.bind]
  rcases x s with ⟨outcome, after⟩
  cases outcome with
  | error exit => rfl
  | ok value => rfl

theorem run_passGates (gates : LaunchState → List Gate) (s : LaunchState) :
    (passGates gates).run s =
      match firstStop (gates s) with
      | none => (.ok (), s)
      | some .refused => (.error (.returned 0), { s with state := .failed })
      | some .raised => (.error .raised, s) := by
  have got : (get : Launch LaunchState).run s = (.ok s, s) := rfl
  rw [passGates, run_bind, got]
  simp only []
  cases firstStop (gates s) with
  | none => rfl
  | some stop =>
    cases stop with
    | refused => rfl
    | raised => rfl

theorem guardedRegion_raised (raised : firstStop (gatesBeforeCapture e entry) = some .raised) :
    (guardedRegion e).run (claimed entry) = (.error .raised, claimed entry) := by
  have stop : firstStop (gatesBeforeCapture e (claimed entry)) = some .raised := raised
  rw [guardedRegion, run_bind, run_passGates, stop]

/-- What the handler leaves where nothing was captured. -/
def undoneEntry : LaunchState :=
  { claimed entry with
    xss := if e.machine.xsavesEnabled && e.acceptsXss .exception then entry.hostXss else entry.xss
    state := .failed }

theorem undoXss_run (s : LaunchState) :
    (undoXss e).run s = (.ok (), { s with
      xss := if e.machine.xsavesEnabled && e.acceptsXss .exception then s.hostXss else s.xss }) := by
  unfold undoXss writeXssSafe
  cases e.machine.xsavesEnabled with
  | false => rfl
  | true =>
    cases e.acceptsXss .exception with
    | false => rfl
    | true => rfl

theorem undoLaunch_claimed :
    (undoLaunch e).run (claimed entry) = (.error (.returned 0), undoneEntry e entry) := by
  have vmx : (undoVmx e).run (claimed entry) = (.ok (), claimed entry) := rfl
  rw [undoLaunch, run_bind, vmx]
  simp only []
  rw [run_bind, undoXss_run]
  rfl

theorem launchOnce_raised (raised : firstStop (gatesBeforeCapture e entry) = some .raised) :
    (launchOnce e).run (claimed entry) = (.error (.returned 0), undoneEntry e entry) := by
  rw [launchOnce, run_tryCatch, guardedRegion_raised e entry raised]
  exact undoLaunch_claimed e entry

end

section

variable {e : LaunchEnvironment} {before : LaunchState}

/-- A triple read at the one run it speaks of. -/
theorem launch_returns {α : Type} {x : Launch α} {P : LaunchState → Prop}
    {Q : α → LaunchState → Prop} {R : LaunchExit → LaunchState → Prop}
    (spec : ⦃fun s => ⌜P s⌝⦄ x ⦃post⟨fun value s => ⌜Q value s⌝, fun exit s => ⌜R exit s⌝⟩⦄)
    {s after : LaunchState} {value : α} (holds : P s) (run : x.run s = (.ok value, after)) :
    Q value after := by
  have result := spec s holds
  have ran : x s = (.ok value, after) := run
  simpa [WP.wp, ExceptT.run, StateT.run, ran, Id.run] using result

theorem launch_exits {α : Type} {x : Launch α} {P : LaunchState → Prop}
    {Q : α → LaunchState → Prop} {R : LaunchExit → LaunchState → Prop}
    (spec : ⦃fun s => ⌜P s⌝⦄ x ⦃post⟨fun value s => ⌜Q value s⌝, fun exit s => ⌜R exit s⌝⟩⦄)
    {s after : LaunchState} {exit : LaunchExit} (holds : P s)
    (run : x.run s = (.error exit, after)) : R exit after := by
  have result := spec s holds
  have ran : x s = (.error exit, after) := run
  simpa [WP.wp, ExceptT.run, StateT.run, ran, Id.run] using result

/-- What a launch that claimed the vCPU promises of its return value. -/
def Transactional (e : LaunchEnvironment) (before : LaunchState) : Prop :=
  claims e before = true →
    ((prepareHvCallback e before).1 = .returned 0 →
      RolledBack before (prepareHvCallback e before).2) ∧
    ((prepareHvCallback e before).1 = .returned 1 → Ready e (prepareHvCallback e before).2)

/-- An exception comes before `HostXss` is captured, and the handler writes back the
`HostXss` of before. -/
structure StaleRollback (e : LaunchEnvironment) (before : LaunchState) : Prop where
  claims : claims e before = true
  raised : firstStop (gatesBeforeCapture e before) = some .raised
  xsavesEnabled : e.machine.xsavesEnabled = true
  accepted : e.acceptsXss .exception = true
  stale : before.hostXss ≠ before.xss

theorem prepareHvCallback_raised (claim : claims e before = true)
    (raised : firstStop (gatesBeforeCapture e before) = some .raised) :
    prepareHvCallback e before = (.returned 0, undoneEntry e before) := by
  rw [prepareHvCallback, if_pos claim, launchOnce_raised e before raised]

theorem transactional_of_not_raised
    (steady : firstStop (gatesBeforeCapture e before) ≠ some .raised) :
    Transactional e before := by
  intro claim
  have spec := launchOnce_spec e before steady
  rw [prepareHvCallback, if_pos claim]
  rcases run : (launchOnce e).run (claimed before) with ⟨outcome, after⟩
  cases outcome with
  | ok value =>
    obtain ⟨rfl, ready⟩ := launch_returns spec rfl run
    exact ⟨fun zero => absurd (LaunchExit.returned.inj zero) (by decide), fun _ => ready⟩
  | error exit =>
    have undoes := launch_exits spec rfl run
    refine ⟨fun zero => (undoes 0 zero).2, fun one => ?_⟩
    exact absurd (undoes 1 one).1 (by decide)

/-- The callback is transactional, but for a stale `HostXss`. -/
theorem prepareHvCallback_transactional_iff :
    Transactional e before ↔ ¬StaleRollback e before := by
  constructor
  · intro transactional stale
    have ends := prepareHvCallback_raised stale.claims stale.raised
    have rolledBack := (transactional stale.claims).1 (by rw [ends])
    have kept := rolledBack.xss
    rw [ends, undoneEntry, stale.xsavesEnabled, stale.accepted] at kept
    exact stale.stale kept
  · intro fresh
    by_cases raised : firstStop (gatesBeforeCapture e before) = some .raised
    · intro claim
      have same : (undoneEntry e before).xss = before.xss := by
        rw [undoneEntry]
        split
        · rename_i written
          rw [Bool.and_eq_true] at written
          by_contra stale
          exact fresh ⟨claim, raised, written.1, written.2, stale⟩
        · rfl
      rw [prepareHvCallback_raised claim raised]
      refine ⟨fun _ => claimed_rolledBack before same, fun one => ?_⟩
      exact absurd (LaunchExit.returned.inj one) (by decide)
    · exact transactional_of_not_raised raised

end

/-- A processor with user CET in IA32_XSS, on which every check passes. -/
def launchMachine : Machine where
  cpuId := 0
  vcpuData := true
  processorCount := 1
  vmxFlags := fun _ => 2
  cpuidex := fun leaf subleaf =>
    if leaf = 0 then ⟨0xD, 0x756E6547, 0x6C65746E, 0x49656E69⟩
    else if leaf = 1 then
      ⟨0x600, 0, cpuid1EcxVmx ||| cpuid1EcxXsave ||| cpuid1EcxOsxsave, cpuid1EdxFxsr⟩
    else if leaf = 7 ∧ subleaf = 0 then ⟨0, 0, cpuid7EcxCetShstk, 0⟩
    else if leaf = 0xD ∧ subleaf = 0 then ⟨7, 832, 832, 0⟩
    else if leaf = 0xD ∧ subleaf = 1 then ⟨cpuidD1Xsaves, 848, ia32XssCetU.setWidth 32, 0⟩
    else if leaf = 0xD ∧ subleaf = 2 then ⟨256, 576, 0, 0⟩
    else if leaf = 0xD ∧ subleaf = 11 then ⟨16, 0, 1, 0⟩
    else ⟨0, 0, 0, 0⟩
  readMsr := fun msr =>
    if msr = msrIa32FeatureControl then some 5
    else if msr = msrIa32VmxBasic then some 0x18100000000001
    else if msr = msrIa32VmxCr0Fixed0 then some 0x80000021
    else if msr = msrIa32VmxCr0Fixed1 then some 0xFFFFFFFF
    else if msr = msrIa32VmxCr4Fixed0 then some 0x2000
    else if msr = msrIa32VmxCr4Fixed1 then some 0x7FFFFF
    else if msr = msrIa32VmxProcbasedCtls ∨ msr = msrIa32VmxProcbasedCtls2 then
      some (BitVec.allOnes 64)
    else if msr = msrIa32Xss then some ia32XssCetU
    else if msr = msrIa32UCet ∨ msr = msrIa32Pl3Ssp ∨ msr = msrIa32Debugctl ∨
        msr = msrIa32KernelGsBase ∨ msr = msrGsBase then
      some 0
    else none
  xgetbv := some 7
  readCr2 := 0
  memory := fun _ => 0
  getSegmentLimit := fun _ => 0
  getSegmentAr := fun _ => 0
  linearAddressBits := 48
  debugctlMask := kDebugctlArchitecturalMask &&& ~~~ia32DebugctlBusLockDetect
  cetVmcsEnabled := false
  xsavesEnabled := true
  xstateMode := .xsaves
  xsavesMask := ia32XssCetU
  enumeratedXssMask := ia32XssCetU
  guestXssWriteMask := ia32XssCetU
  hostXcr0Mask := 7
  testFault := none

/-- Everything goes well, but for the operations that raise. -/
def launchRaising (raises : LaunchOperation → Bool) : LaunchEnvironment where
  machine := launchMachine
  guestSp := 0x2000
  guestIp := 0x3000
  shouldLaunchOnThisProcessor := true
  hostXssMask := ia32XssCetU
  xsaveStateSize := 848
  vmxCapabilityProfile := vmxProfileXsaves
  hostCr3 := 0x1000
  vmxOnPhys := 0x10000
  vmcsPhys := 0x11000
  msrBitmapPhys := 0x12000
  msrBitmapVirt := 0x13000
  hostStackTop := 0x20000
  dr7 := 0x400
  vmxonFlags := 2
  vmclearFlags := 2
  vmptrldFlags := 2
  diagnosticVmptrst := (2, 0x11000)
  setupVmcs := true
  clearVmptrst := (2, 0x11000)
  clearFlags := 2
  acceptsXss := fun _ => true
  raises := raises

/-- The vCPU as `RtlZeroMemory` leaves it. -/
def freshLaunchState : LaunchState where
  cr0 := 0x80000033
  cr4 := 0x406F8
  xss := ia32XssCetU
  vmxOperation := false
  currentVmcs := none
  state := .uninitialized
  launchStage := .none
  vmcsCurrent := .none
  hostXss := 0
  guestXss := 0
  originalCr0 := 0
  originalCr4 := 0
  vmxActive := false
  cr4Prepared := false

/-- The launch succeeds where nothing raises. -/
example :
    (prepareHvCallback (launchRaising fun _ => false) freshLaunchState).1 = .returned 1 := by
  decide +kernel

def launchWithoutKernelGs : LaunchEnvironment :=
  launchRaising fun operation => operation = .readMsr msrIa32KernelGsBase

/-- User CET is gone from IA32_XSS after the read of IA32_KERNEL_GS_BASE raised. -/
theorem prepareHvCallback_stale :
    claims launchWithoutKernelGs freshLaunchState = true ∧
      (prepareHvCallback launchWithoutKernelGs freshLaunchState).1 = .returned 0 ∧
      freshLaunchState.xss = ia32XssCetU ∧
      (prepareHvCallback launchWithoutKernelGs freshLaunchState).2.xss = 0 ∧
      ¬Transactional launchWithoutKernelGs freshLaunchState := by
  have claim : claims launchWithoutKernelGs freshLaunchState = true := by decide +kernel
  have ending : (prepareHvCallback launchWithoutKernelGs freshLaunchState).1 = .returned 0 := by
    decide +kernel
  have lost : (prepareHvCallback launchWithoutKernelGs freshLaunchState).2.xss = 0 := by
    decide +kernel
  refine ⟨claim, ending, rfl, lost, fun transactional => ?_⟩
  have kept := ((transactional claim).1 ending).xss
  rw [lost] at kept
  exact absurd kept (by decide)

end Knhv.Vmx
