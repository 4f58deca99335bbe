import Knhv.Vmx.SetupSound
import Knhv.Vmx.XstateRun

open Std.Do

set_option mvcgen.warning false

namespace Knhv.Vmx

/-- The save instruction that a load settles on. -/
def choosesXsaves (load : Machine) (currentCr4 : U64) : Bool :=
  isXsaveActive load currentCr4 &&
    isXsavesUsable load
      (buildVmxCapabilityProfile load ((load.readMsr msrIa32VmxBasic).getD 0) false false)

section

variable (load : Machine)

theorem choosesXsaves_of_active {currentCr4 vmxBasic : U64}
    (read : load.readMsr msrIa32VmxBasic = some vmxBasic)
    (active : isXsaveActive load currentCr4 = true) :
    choosesXsaves load currentCr4 =
      isXsavesUsable load (buildVmxCapabilityProfile load vmxBasic false false) := by
  rw [choosesXsaves, active, read, Bool.true_and]
  rfl

theorem choosesXsaves_of_inactive {currentCr4 : U64}
    (inactive : ¬isXsaveActive load currentCr4 = true) : choosesXsaves load currentCr4 = false := by
  rw [choosesXsaves, Bool.eq_false_iff.mpr inactive, Bool.false_and]

theorem settleFrame_keeps (enabled : Bool) :
    ⦃fun g => ⌜g.xsavesEnabled = enabled⌝⦄ settleFrame load
    ⦃⇓ _ g => ⌜g.xsavesEnabled = enabled⌝⦄ := by
  refine spec_intro fun g same => ?_
  change (if g.xsavesEnabled then { g with xstateMode := .xsaves } else _ : FeatureContract).xsavesEnabled = _
  split <;> exact same

theorem selectFrame_chooses (profile : U32) (hostXcr0 hostXss : U64) :
    ⦃fun g => ⌜g.vmxCapabilityProfile = profile ∧ g.xsavesEnabled = false⌝⦄
    selectFrame load hostXcr0 hostXss
    ⦃⇓ done g => ⌜done = true → g.xsavesEnabled = isXsavesUsable load profile⌝⦄ := by
  have settle := fun enabled => settleFrame_keeps load enabled
  mvcgen [selectFrame, settle]
  case vc1.isTrue.isTrue => exact fun impossible => absurd impossible Bool.false_ne_true
  case vc2.isTrue.isFalse.h_1 => exact fun impossible => absurd impossible Bool.false_ne_true
  case vc3.isTrue.isFalse.h_2.isTrue => exact fun impossible => absurd impossible Bool.false_ne_true
  case vc4.isTrue.isFalse.h_2.isFalse.post.success known usable _ _ _ _ _ _ _ _ _ =>
    rw [known.1] at usable
    exact fun kept _ => kept.trans usable.symm
  case vc5.isFalse.isTrue => exact fun impossible => absurd impossible Bool.false_ne_true
  case vc6.isFalse.isFalse.post.success known unusable _ _ _ =>
    rw [known.1, Bool.not_eq_true] at unusable
    exact fun kept _ => (kept.trans known.2).trans unusable.symm

theorem selectCet_keeps (currentCr4 vmxBasic : U64) (enabled : Bool) :
    ⦃fun g => ⌜g.xsavesEnabled = enabled⌝⦄ selectCet load currentCr4 vmxBasic
    ⦃⇓ _ g => ⌜g.xsavesEnabled = enabled⌝⦄ := by
  mvcgen [selectCet]

theorem selectXsave_chooses (currentCr4 vmxBasic : U64) :
    ⦃fun g => ⌜g.xsavesEnabled = false⌝⦄ selectXsave load currentCr4 vmxBasic
    ⦃⇓ done g => ⌜done = true → g.xsavesEnabled =
      isXsavesUsable load (buildVmxCapabilityProfile load vmxBasic false false)⌝⦄ := by
  have frame := selectFrame_chooses load (buildVmxCapabilityProfile load vmxBasic false false)
  have cet := fun enabled => selectCet_keeps load currentCr4 vmxBasic enabled
  mvcgen [selectXsave, frame, cet]
  case vc1.h_1 => exact fun impossible => absurd impossible Bool.false_ne_true
  case vc2.h_2.h_1 => exact fun impossible => absurd impossible Bool.false_ne_true
  case vc4.h_2.h_2.post.success.isTrue => exact fun impossible => absurd impossible Bool.false_ne_true
  case vc5.h_2.h_2.post.success.isFalse.post.success.isTrue => exact fun impossible => absurd impossible Bool.false_ne_true
  case vc6.h_2.h_2.post.success.isFalse.post.success.isFalse framed _ chosen _ _ _ kept _ =>
    rw [Bool.not_eq_true, Bool.not_eq_false'] at framed
    exact kept.trans (chosen framed)

/-- A load that samples the processor chooses XSAVES exactly where it can. -/
theorem initializeVmxFeatureContract_chooses {currentCr4 : U64} {before after : FeatureContract}
    (fresh : IsFresh load before)
    (accepted : initializeVmxFeatureContract load currentCr4 before = (true, after)) :
    after.xsavesEnabled = choosesXsaves load currentCr4 := by
  have spec : ⦃fun g => ⌜IsFresh load g⌝⦄ initializeVmxFeatureContract load currentCr4
      ⦃⇓ done g => ⌜done = true → g.xsavesEnabled = choosesXsaves load currentCr4⌝⦄ := by
    have xsave := selectXsave_chooses load
    mvcgen [initializeVmxFeatureContract, selectFxsave, xsave]
    case vc2.isTrue.isFalse.h_1 => exact fun impossible => absurd impossible Bool.false_ne_true
    case vc4.isTrue.isFalse.h_2.isTrue.post.success read active _ _ =>
      exact fun chosen done => (chosen done).trans (choosesXsaves_of_active load read active).symm
    case vc5.isTrue.isFalse.h_2.isFalse.isTrue => exact fun impossible => absurd impossible Bool.false_ne_true
    case vc6.isTrue.isFalse.h_2.isFalse.isFalse inactive _ _ =>
      exact (choosesXsaves_of_inactive load inactive).symm
    case vc7.isFalse.isTrue allocated _ fresh initialized =>
      rcases fresh with missing | first
      · exact absurd missing (by simpa using allocated)
      · exact absurd initialized (by simp [first])
    case vc8.isFalse.isFalse.h_1 => exact fun impossible => absurd impossible Bool.false_ne_true
    case vc10.isFalse.isFalse.h_2.isTrue.post.success read active _ _ =>
      exact fun chosen done => (chosen done).trans (choosesXsaves_of_active load read active).symm
    case vc11.isFalse.isFalse.h_2.isFalse.isTrue => exact fun impossible => absurd impossible Bool.false_ne_true
    case vc12.isFalse.isFalse.h_2.isFalse.isFalse inactive _ _ =>
      exact (choosesXsaves_of_inactive load inactive).symm
  exact spec_run spec fresh accepted rfl

end

/-- The instructions that raise #UD in VMX non-root mode unless a secondary
control enables them. -/
inductive GuardedInstruction
  | rdtscp | invpcid | xsaves | waitpkg
  deriving DecidableEq, Repr

def GuardedInstruction.control : GuardedInstruction → U32
  | rdtscp => secondaryEnableRdtscp
  | invpcid => secondaryEnableInvpcid
  | xsaves => secondaryEnableXsaves
  | waitpkg => secondaryEnableUserWaitPause

/-- The native CPUID reports the instruction. -/
def enumerates (m : Machine) : GuardedInstruction → Bool
  | .rdtscp =>
    0x80000001 ≤ (m.cpuidex 0x80000000 0).eax && (m.cpuidex 0x80000001 0).edx &&& (1#32 <<< 27) ≠ 0
  | .invpcid => 7 ≤ (m.cpuidex 0 0).eax && (m.cpuidex 7 0).ebx &&& (1#32 <<< 10) ≠ 0
  | .xsaves => 0xD ≤ (m.cpuidex 0 0).eax && (m.cpuidex 0xD 1).eax &&& cpuidD1Xsaves ≠ 0
  | .waitpkg => 7 ≤ (m.cpuidex 0 0).eax && (m.cpuidex 7 0).ecx &&& cpuid7EcxWaitpkg ≠ 0

/-- Outside the probe leaf the guest reads CPUID as the processor has it. -/
theorem handleCpuid_native (m : Machine) {s : ExitState}
    (ordinary : s.ctx.rax.setWidth 32 ≠ kUserProbeLeaf) :
    handleCpuid m s = (true,
      (setCpuidResult (m.cpuidex (s.ctx.rax.setWidth 32) (s.ctx.rcx.setWidth 32)) s).2) := by
  have user : (decide ((s.ctx.rax.setWidth 32 : U32) = kUserProbeLeaf) &&
      decide ((s.ctx.rcx.setWidth 32 : U32) = kUserProbeSubleaf)) = false := by
    rw [decide_eq_false ordinary, Bool.false_and]
  have request : (decide ((s.ctx.rax.setWidth 32 : U32) = kFirstExitProbeLeaf) &&
      decide ((s.ctx.rcx.setWidth 32 : U32) = 0)) = false := by
    rw [decide_eq_false (show (s.ctx.rax.setWidth 32 : U32) ≠ kFirstExitProbeLeaf from ordinary),
      Bool.false_and]
  simp only [handleCpuid, bind, StateT.bind, get, getThe, MonadStateOf.get, StateT.get, pure, user,
    request, Bool.false_and, Bool.false_eq_true, if_false]
  rfl

/-- What each instruction needs besides: for RDTSCP and INVPCID that this
processor has their control, for XSAVES that the load has chosen it. A missing
WAITPKG control ends the setup. -/
def permits (load : Machine) (currentCr4 : U64) (m : Machine) : GuardedInstruction → Bool
  | .rdtscp => secondaryAllows m ((m.readMsr msrIa32VmxBasic).getD 0) secondaryEnableRdtscp
  | .invpcid => secondaryAllows m ((m.readMsr msrIa32VmxBasic).getD 0) secondaryEnableInvpcid
  | .xsaves => choosesXsaves load currentCr4
  | .waitpkg => true

/-- A load has fixed the contract, and on this processor the launch has passed
its checks and its setup. -/
structure LaunchedWith (load : Machine) (currentCr4 : U64) (before contract : FeatureContract)
    (launch : LaunchEnvironment) (entry : LaunchState) (setup : Setup.SetupEnvironment)
    (start : Setup.SetupState) : Prop where
  fresh : IsFresh load before
  accepted : initializeVmxFeatureContract load currentCr4 before = (true, contract)
  carried : launch.machine = launch.machine.carrying contract
  hostXssMask : launch.hostXssMask = contract.hostXssMask
  xsaveStateSize : launch.xsaveStateSize = contract.xsaveStateSize
  vmxCapabilityProfile : launch.vmxCapabilityProfile = contract.vmxCapabilityProfile
  checked : firstStop (gatesBeforeCapture launch entry) = none
  machine : setup.machine = launch.machine
  profile : setup.vmxProfile = localProfile launch
  owned : setup.machine.hasVcpu = true
  recordable : start.failure.commitState = .empty
  done : (Setup.setupVmcs setup start).1 = .returned true

/-- The secondary controls that the processor goes by. -/
def secondaryInEffect (s : Setup.SetupState) : U64 :=
  if s.vmcs .controlPrimaryProcessorBasedVmExecutionControls &&&
      cpuBasedActivateSecondaryControls.setWidth 64 ≠ 0 then
    s.vmcs .controlSecondaryProcessorBasedVmExecutionControls
  else 0

theorem setWidth_and_ne_zero {left right : U32} :
    left.setWidth 64 &&& right.setWidth 64 ≠ 0 ↔ left &&& right ≠ 0 := by
  rw [← BitVec.setWidth_and, ne_eq, ne_eq, not_iff_not]
  constructor
  · intro wide
    have narrow := congrArg (BitVec.setWidth 32) wide
    rw [BitVec.setWidth_setWidth_of_le _ (by decide), BitVec.setWidth_eq] at narrow
    exact narrow
  · intro narrow
    rw [narrow]
    rfl

/-- What the setup asks of the secondary controls for an instruction. -/
def asks (e : Setup.SetupEnvironment) : GuardedInstruction → Bool
  | .rdtscp => Setup.hasProfile e vmxProfileSecondaryControls && Setup.hasProfile e vmxProfileRdtscp
  | .invpcid =>
    Setup.hasProfile e vmxProfileSecondaryControls && Setup.hasProfile e vmxProfileInvpcid
  | .xsaves => e.machine.xsavesEnabled
  | .waitpkg => Setup.guestWaitpkg e

theorem secondaryRequested_control (e : Setup.SetupEnvironment) (instruction : GuardedInstruction) :
    Setup.secondaryRequested e &&& instruction.control ≠ 0 ↔ asks e instruction = true := by
  have single (invpcid rdtscp waitpkg xsaves : Bool) : ∀ instruction : GuardedInstruction,
      (Masks.gather [(invpcid, secondaryEnableInvpcid), (rdtscp, secondaryEnableRdtscp),
        (waitpkg, secondaryEnableUserWaitPause)] |||
        if xsaves then secondaryEnableXsaves else 0) &&& instruction.control ≠ 0 ↔
      (match instruction with
        | .rdtscp => rdtscp
        | .invpcid => invpcid
        | .xsaves => xsaves
        | .waitpkg => waitpkg) = true := by
    intro instruction
    cases invpcid <;> cases rdtscp <;> cases waitpkg <;> cases xsaves <;> cases instruction <;>
      decide
  refine (single _ _ _ _ instruction).trans ?_
  cases instruction <;> rfl

section

variable (m : Machine) (vmxBasic : U64) (xsaves cetVmcs : Bool)

/-- Apart from the control generation, a bit of the profile is its part. -/
theorem buildVmxCapabilityProfile_bit {mask : U32}
    (apart : vmxProfileTrueControls &&& mask = 0 ∧ vmxProfileLegacyControls &&& mask = 0) :
    buildVmxCapabilityProfile m vmxBasic xsaves cetVmcs &&& mask ≠ 0 ↔
      ∃ part ∈ [((secondaryControls m vmxBasic).isSome, vmxProfileSecondaryControls),
        (xsaves && secondaryAllows m vmxBasic secondaryEnableXsaves, vmxProfileXsaves),
        (cetVmcs, vmxProfileCetVmcs),
        (enumerates m .invpcid && secondaryAllows m vmxBasic secondaryEnableInvpcid,
          vmxProfileInvpcid),
        (enumerates m .rdtscp && secondaryAllows m vmxBasic secondaryEnableRdtscp,
          vmxProfileRdtscp),
        (hasTertiaryControls m vmxBasic, vmxProfileTertiaryControls)],
        part.1 = true ∧ part.2 &&& mask ≠ 0 := by
  have generation : (if vmxBasic &&& vmxBasicTrueControls ≠ 0 then vmxProfileTrueControls
      else vmxProfileLegacyControls) &&& mask = 0#32 := by
    split
    · exact apart.1
    · exact apart.2
  rw [buildVmxCapabilityProfile, BitVec.and_or_distrib_right, generation, BitVec.zero_or]
  exact Masks.touches_gather_iff

/-- The bits of the profile that the secondary controls are asked by. -/
theorem buildVmxCapabilityProfile_asks :
    (buildVmxCapabilityProfile m vmxBasic xsaves cetVmcs &&& vmxProfileSecondaryControls ≠ 0 ↔
      (secondaryControls m vmxBasic).isSome = true) ∧
    (buildVmxCapabilityProfile m vmxBasic xsaves cetVmcs &&& vmxProfileRdtscp ≠ 0 ↔
      enumerates m .rdtscp = true ∧ secondaryAllows m vmxBasic secondaryEnableRdtscp = true) ∧
    (buildVmxCapabilityProfile m vmxBasic xsaves cetVmcs &&& vmxProfileInvpcid ≠ 0 ↔
      enumerates m .invpcid = true ∧ secondaryAllows m vmxBasic secondaryEnableInvpcid = true) := by
  refine ⟨?_, ?_, ?_⟩
  all_goals
    rw [buildVmxCapabilityProfile_bit _ _ _ _ (by decide)]
    simp [vmxProfileSecondaryControls, vmxProfileXsaves, vmxProfileCetVmcs, vmxProfileInvpcid,
      vmxProfileRdtscp, vmxProfileTertiaryControls]

theorem secondaryControls_of_allows {m : Machine} {vmxBasic : U64} {mask : U32}
    (allows : secondaryAllows m vmxBasic mask = true) :
    (secondaryControls m vmxBasic).isSome = true := by
  unfold secondaryAllows at allows
  split at allows
  case h_1 => cases allows
  case h_2 controls read => rw [read]; rfl

end

/-- After a setup that returned true, the processor goes by what was asked. -/
theorem secondaryInEffect_setup {e : Setup.SetupEnvironment} {start : Setup.SetupState}
    (owned : e.machine.hasVcpu = true) (recordable : Setup.Recordable start)
    (done : (Setup.setupVmcs e start).1 = .returned true) :
    secondaryInEffect (Setup.setupVmcs e start).2 = (Setup.secondaryRequested e).setWidth 64 := by
  obtain ⟨ran, -⟩ := Setup.setupVmcs_ran e owned recordable (Setup.setupSteps_named e)
  obtain ⟨passes, vmcs, -⟩ := ran done
  have checked := Setup.Checked.of_passes passes
  have primary : (Setup.setupVmcs e start).2.vmcs .controlPrimaryProcessorBasedVmExecutionControls =
      (Setup.procCtl e).setWidth 64 := by
    rw [vmcs]
    exact Setup.setupSteps_store e rfl
  rw [secondaryInEffect, primary, ← checked.secCtl_eq]
  cases active : Setup.activatesSecondary e with
  | true =>
    rw [if_pos (setWidth_and_ne_zero.mpr (of_decide_eq_true active)), vmcs]
    exact Setup.setupSteps_store e (if_pos active)
  | false =>
    have clear : ¬Setup.procCtl e &&& cpuBasedActivateSecondaryControls ≠ 0 :=
      of_decide_eq_false active
    rw [if_neg (fun on => clear (setWidth_and_ne_zero.mp on)), Setup.secCtl, active]
    rfl

section

variable {load : Machine} {currentCr4 : U64} {before contract : FeatureContract}
  {launch : LaunchEnvironment} {entry : LaunchState} {setup : Setup.SetupEnvironment}
  {start : Setup.SetupState}

theorem LaunchedWith.xsavesEnabled
    (launched : LaunchedWith load currentCr4 before contract launch entry setup start) :
    setup.machine.xsavesEnabled = choosesXsaves load currentCr4 := by
  rw [launched.machine, launched.carried]
  exact initializeVmxFeatureContract_chooses load launched.fresh launched.accepted

theorem LaunchedWith.hasProfile_iff
    (launched : LaunchedWith load currentCr4 before contract launch entry setup start)
    (mask : U32) : Setup.hasProfile setup mask = true ↔ localProfile launch &&& mask ≠ 0 := by
  rw [Setup.hasProfile, launched.profile, decide_eq_true_iff]

/-- The setup asks for an enumerated instruction exactly where it is permitted. -/
theorem LaunchedWith.asks_iff
    (launched : LaunchedWith load currentCr4 before contract launch entry setup start)
    {instruction : GuardedInstruction}
    (enumerated : enumerates launch.machine instruction = true) :
    asks setup instruction = true ↔ permits load currentCr4 launch.machine instruction = true := by
  obtain ⟨secondary, rdtscp, invpcid⟩ := buildVmxCapabilityProfile_asks launch.machine
    (localVmxBasic launch) launch.machine.xsavesEnabled launch.machine.cetVmcsEnabled
  cases instruction with
  | rdtscp =>
    rw [asks, Bool.and_eq_true, launched.hasProfile_iff, launched.hasProfile_iff]
    constructor
    · rintro ⟨-, asked⟩
      exact (rdtscp.mp asked).2
    · intro allows
      exact ⟨secondary.mpr (secondaryControls_of_allows allows), rdtscp.mpr ⟨enumerated, allows⟩⟩
  | invpcid =>
    rw [asks, Bool.and_eq_true, launched.hasProfile_iff, launched.hasProfile_iff]
    constructor
    · rintro ⟨-, asked⟩
      exact (invpcid.mp asked).2
    · intro allows
      exact ⟨secondary.mpr (secondaryControls_of_allows allows), invpcid.mpr ⟨enumerated, allows⟩⟩
  | xsaves =>
    rw [asks, launched.xsavesEnabled]
    rfl
  | waitpkg =>
    rw [enumerates, Bool.and_eq_true] at enumerated
    have asked : Setup.guestWaitpkg setup = true := by
      rw [Setup.guestWaitpkg, launched.machine]
      exact enumerated.2
    exact iff_of_true asked rfl

/-- What the guest reads in CPUID it can execute exactly where this processor
has the controls of RDTSCP and INVPCID, and the load has chosen XSAVES. -/
theorem instructionsEnabled_iff
    (launched : LaunchedWith load currentCr4 before contract launch entry setup start) :
    (∀ instruction, enumerates launch.machine instruction = true →
        secondaryInEffect (Setup.setupVmcs setup start).2 &&& instruction.control.setWidth 64 ≠ 0) ↔
      ∀ instruction, enumerates launch.machine instruction = true →
        permits load currentCr4 launch.machine instruction = true := by
  have word := secondaryInEffect_setup launched.owned (.inl launched.recordable) launched.done
  have each (instruction : GuardedInstruction)
      (enumerated : enumerates launch.machine instruction = true) :
      secondaryInEffect (Setup.setupVmcs setup start).2 &&& instruction.control.setWidth 64 ≠ 0 ↔
        permits load currentCr4 launch.machine instruction = true := by
    rw [word, setWidth_and_ne_zero, secondaryRequested_control]
    exact launched.asks_iff enumerated
  constructor
  · intro enabled instruction enumerated
    exact (each instruction enumerated).mp (enabled instruction enumerated)
  · intro permitted instruction enumerated
    exact (each instruction enumerated).mpr (permitted instruction enumerated)

end

/-- The load on a processor with RDTSCP and without secondary controls. -/
def sampleContract : FeatureContract :=
  (initializeVmxFeatureContract { Setup.sampleMachine with vcpuData := false } 0x6F8
    (clearedContract false 0)).2

def sampleLaunch : LaunchEnvironment where
  machine := Setup.sampleMachine.carrying sampleContract
  guestSp := 0xFFFFF80000004000
  guestIp := 0xFFFFF80000005000
  shouldLaunchOnThisProcessor := true
  hostXssMask := sampleContract.hostXssMask
  xsaveStateSize := sampleContract.xsaveStateSize
  vmxCapabilityProfile := sampleContract.vmxCapabilityProfile
  hostCr3 := 0x1000
  vmxOnPhys := 0x10000
  vmcsPhys := 0x11000
  msrBitmapPhys := 0x12000
  msrBitmapVirt := 0x13000
  hostStackTop := 0xFFFFF80000020000
  dr7 := 0x400
  vmxonFlags := 2
  vmclearFlags := 2
  vmptrldFlags := 2
  diagnosticVmptrst := (2, 0x11000)
  setupVmcs := true
  clearVmptrst := (2, 0x11000)
  clearFlags := 2
  acceptsXss := fun _ => true
  raises := fun _ => false

def sampleEntry : LaunchState where
  cr0 := 0x80050033
  cr4 := 0x6F8
  xss := 0
  vmxOperation := false
  currentVmcs := none
  state := .uninitialized
  launchStage := .none
  vmcsCurrent := .none
  hostXss := 0
  guestXss := 0
  originalCr0 := 0
  originalCr4 := 0
  vmxActive := false
  cr4Prepared := false

def launchedSetup : Setup.SetupEnvironment :=
  { Setup.sampleSetup with machine := sampleLaunch.machine }

theorem sample_launched :
    LaunchedWith { Setup.sampleMachine with vcpuData := false } 0x6F8 (clearedContract false 0)
      sampleContract sampleLaunch sampleEntry launchedSetup Setup.openSetup where
  fresh := .inl rfl
  accepted := Prod.ext (by decide +kernel) rfl
  carried := rfl
  hostXssMask := rfl
  xsaveStateSize := rfl
  vmxCapabilityProfile := rfl
  checked := by decide +kernel
  machine := rfl
  profile := by decide +kernel
  owned := rfl
  recordable := rfl
  done := by decide +kernel

theorem instructionsEnabled_iff_sample :
    (∀ instruction, enumerates sampleLaunch.machine instruction = true →
        secondaryInEffect (Setup.setupVmcs launchedSetup Setup.openSetup).2 &&&
          instruction.control.setWidth 64 ≠ 0) ↔
      ∀ instruction, enumerates sampleLaunch.machine instruction = true →
        permits { Setup.sampleMachine with vcpuData := false } 0x6F8 sampleLaunch.machine
          instruction = true :=
  instructionsEnabled_iff sample_launched

/-- The launch goes through, CPUID reports RDTSCP, and nothing enables it. -/
theorem rdtscp_dropped :
    LaunchedWith { Setup.sampleMachine with vcpuData := false } 0x6F8 (clearedContract false 0)
        sampleContract sampleLaunch sampleEntry launchedSetup Setup.openSetup ∧
      enumerates sampleLaunch.machine .rdtscp = true ∧
      secondaryInEffect (Setup.setupVmcs launchedSetup Setup.openSetup).2 &&&
        GuardedInstruction.rdtscp.control.setWidth 64 = 0 :=
  ⟨sample_launched, by decide +kernel, by decide +kernel⟩

end Knhv.Vmx
