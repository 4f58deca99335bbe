import Knhv.Vmx.SetupImage

namespace Knhv.Vmx.Setup

/-- The reasons that the exit handler carries out or answers with #UD. -/
def handledReasons : List U32 :=
  [vmExitReasonCpuid, vmExitReasonVmcall, vmExitReasonRdmsr, vmExitReasonWrmsr,
    vmExitReasonCrAccess, vmExitReasonXsetbv] ++ unsupportedInstructions

/-- The exits of each pin-based control: external interrupts, NMIs, the
preemption timer, posted interrupts. -/
def pinExits : List (U32 × List U32) :=
  [(1#32 <<< 0, [1]), (1#32 <<< 3, [0]), (1#32 <<< 5, [0]), (1#32 <<< 6, [52]), (1#32 <<< 7, [1])]

/-- The exits of each primary control, with those of the instructions that the
secondary controls enable. -/
def primaryExits : List (U32 × List U32) :=
  [(1#32 <<< 2, [7]), (1#32 <<< 7, [12]), (1#32 <<< 9, [14, 58]), (1#32 <<< 10, [36]),
    (1#32 <<< 11, [15]), (1#32 <<< 12, [16, 51, 67, 68]), (1#32 <<< 15, [vmExitReasonCrAccess]),
    (1#32 <<< 16, [vmExitReasonCrAccess]), (1#32 <<< 19, [vmExitReasonCrAccess]),
    (1#32 <<< 20, [vmExitReasonCrAccess]), (1#32 <<< 21, [43]), (1#32 <<< 22, [8]),
    (1#32 <<< 23, [29]), (1#32 <<< 24, [30]), (1#32 <<< 25, [30]), (1#32 <<< 27, [37]),
    (1#32 <<< 28, [vmExitReasonRdmsr, vmExitReasonWrmsr]), (1#32 <<< 29, [39]),
    (1#32 <<< 30, [40])]

/-- Every other reason stops the machine. -/
theorem dispatchExit_unhandled (m : Machine) {reason : U32} (unhandled : reason ∉ handledReasons) :
    dispatchExit m reason = stopVm := by
  unfold handledReasons at unhandled
  simp only [List.cons_append, List.nil_append, List.mem_cons, not_or] at unhandled
  obtain ⟨cpuid, vmcall, rdmsr, wrmsr, crAccess, xsetbv, unsupported⟩ := unhandled
  unfold dispatchExit
  rw [if_neg cpuid, if_neg vmcall, if_neg rdmsr, if_neg wrmsr, if_neg crAccess, if_neg, if_neg xsetbv]
  rw [List.contains_iff_mem]
  exact unsupported

def controlAllowedOn (m : Machine) (msr : U32) : U32 :=
  ((m.readMsr msr).getD 0 >>> 32).setWidth 32

/-- A control word meets its capability MSR and the request. -/
structure ControlWord (m : Machine) (msr requested word : U32) : Prop where
  mandatory : controlMandatoryOn m msr &&& ~~~word = 0
  requested : requested &&& ~~~word = 0
  allowed : word &&& ~~~controlAllowedOn m msr = 0

theorem adjustControls_eq (m : Machine) (ctl msr : U32) :
    adjustControls m ctl msr = ctl &&& controlAllowedOn m msr ||| controlMandatoryOn m msr := rfl

theorem adjustControls_word {m : Machine} {ctl msr : U32}
    (capable : controlMandatoryOn m msr &&& ~~~controlAllowedOn m msr = 0)
    (granted : ctl &&& ~~~adjustControls m ctl msr = 0) :
    ControlWord m msr ctl (adjustControls m ctl msr) where
  mandatory := by
    rw [adjustControls_eq, BitVec.or_comm]
    exact MaskMerge.inside_or_left _ _
  requested := granted
  allowed := MaskMerge.adjusted_inside ctl capable

/-- A control register that meets the fixed bits is kept as it is. -/
theorem adjustCr_fixed {m : Machine} {value : U64} {fixed0Msr fixed1Msr : U32}
    (valid : isFixedCrValueValid m value fixed0Msr fixed1Msr = true) :
    adjustCr m value fixed0Msr fixed1Msr = value := by
  unfold isFixedCrValueValid at valid
  unfold adjustCr
  split at valid
  case h_1 fixed0 fixed1 read0 read1 =>
    rw [Bool.and_eq_true, decide_eq_true_iff, decide_eq_true_iff] at valid
    rw [read0, read1]
    simp only [Option.getD_some]
    rw [Masks.and_eq_self valid.2, Masks.or_eq_self valid.1]
  case h_2 => cases valid

theorem adjustCr_valid {m : Machine} {value : U64} {fixed0Msr fixed1Msr : U32}
    (read0 : (m.readMsr fixed0Msr).isSome = true) (read1 : (m.readMsr fixed1Msr).isSome = true)
    (capable : (m.readMsr fixed0Msr).getD 0 &&& ~~~(m.readMsr fixed1Msr).getD 0 = 0) :
    isFixedCrValueValid m (adjustCr m value fixed0Msr fixed1Msr) fixed0Msr fixed1Msr = true := by
  obtain ⟨fixed0, read0⟩ := Option.isSome_iff_exists.mp read0
  obtain ⟨fixed1, read1⟩ := Option.isSome_iff_exists.mp read1
  unfold isFixedCrValueValid adjustCr
  rw [read0, read1] at capable ⊢
  simp only [Option.getD_some, Bool.and_eq_true, decide_eq_true_iff] at capable ⊢
  refine ⟨?_, ?_⟩
  · rw [BitVec.and_comm, Masks.and_eq_self_iff, BitVec.or_comm]
    exact MaskMerge.inside_or_left _ _
  · exact MaskMerge.adjusted_inside value capable

section

variable (e : SetupEnvironment)

/-- The mandatory ones of every capability MSR are allowed. -/
structure Capable : Prop where
  controls : ∀ msr ∈ [pinCtlMsr e, procCtlMsr e, msrIa32VmxProcbasedCtls2, exitCtlMsr e,
    entryCtlMsr e], controlMandatoryOn e.machine msr &&& ~~~controlAllowedOn e.machine msr = 0
  cr0 : (e.machine.readMsr msrIa32VmxCr0Fixed0).getD 0 &&&
    ~~~(e.machine.readMsr msrIa32VmxCr0Fixed1).getD 0 = 0
  cr4 : (e.machine.readMsr msrIa32VmxCr4Fixed0).getD 0 &&&
    ~~~(e.machine.readMsr msrIa32VmxCr4Fixed1).getD 0 = 0

/-- What VM entry asks of the state that the setup gives. -/
structure EntryContract : Prop where
  guestCr0 : isFixedCrValueValid e.machine (guestCr0 e) msrIa32VmxCr0Fixed0 msrIa32VmxCr0Fixed1
  guestCr4 : isFixedCrValueValid e.machine (guestCr4 e) msrIa32VmxCr4Fixed0 msrIa32VmxCr4Fixed1
  keptCr0 : isFixedCrValueValid e.machine e.cr0 msrIa32VmxCr0Fixed0 msrIa32VmxCr0Fixed1 →
    Setup.guestCr0 e = e.cr0
  keptCr4 : isFixedCrValueValid e.machine e.cr4 msrIa32VmxCr4Fixed0 msrIa32VmxCr4Fixed1 →
    Setup.guestCr4 e = e.cr4
  hostProtected : isCetWriteProtected e.cr0 e.cr4
  guestProtected : isCetWriteProtected (Setup.guestCr0 e) (Setup.guestCr4 e)
  hostCr3 : isValidArchitecturalCr3 e.machine (hostCr3 e) e.cr4
  guestCr3 : isValidArchitecturalCr3 e.machine (guestCr3 e) (Setup.guestCr4 e)
  sampled : ∀ msr ∈ snapshotMsrs, e.machine.readMsr msr = some (snapshotMsr e msr)
  efer : isValidIa32eEfer (snapshotMsr e msrIa32Efer) e.cr0
  pat : isValidPatValue (snapshotMsr e msrIa32Pat)
  canonical : ∀ address ∈ [snapshotMsr e msrFsBase, snapshotMsr e msrGsBase, tssBase e, e.gdtBase,
    e.idtBase, hostIdtBase e, e.guestIp, e.guestSp], isCanonical e.machine address
  hostIdt : hostIdtBase e = e.vmxHostIdt
  cs : isSelectorUsable e e.csSelector false false true true false
  ss : isSelectorUsable e e.ssSelector true false false true true
  data : ∀ selector ∈ [e.dsSelector, e.esSelector, e.fsSelector, e.gsSelector],
    isSelectorUsable e selector true false false false false
  ldtr : e.ldtrSelector = 0
  busyTss : isGuestTrSelectorUsable e.machine e.gdtBase e.gdtLimit e.trSelector
  privileged : ∀ selector ∈ [e.csSelector, e.ssSelector, e.trSelector],
    hostSelector selector = selector.setWidth 64

/-- What a setup that returns true leaves. -/
structure SetupSound (before now : SetupState) : Prop where
  written : ∀ access ∈ now.log, access.written.isSome = true → vmxOk access.flags = true
  programmed : ∀ field value, programmedValue e field = some value → now.vmcs field = value
  pin : ControlWord e.machine (pinCtlMsr e) 0 (pinCtl e)
  primary : ControlWord e.machine (procCtlMsr e) (requestedPrimary e) (procCtl e)
  exit : ControlWord e.machine (exitCtlMsr e) (requestedExit e) (exitCtl e)
  entry : ControlWord e.machine (entryCtlMsr e) (requestedEntry e) (entryCtl e)
  pinHandled : ∀ control ∈ pinExits, pinCtl e &&& control.1 ≠ 0 →
    ∀ reason ∈ control.2, reason ∈ handledReasons
  primaryHandled : ∀ control ∈ primaryExits, procCtl e &&& control.1 ≠ 0 →
    ∀ reason ∈ control.2, reason ∈ handledReasons
  secondary : activatesSecondary e = true → secCtl e = secondaryRequested e ∧
    ControlWord e.machine msrIa32VmxProcbasedCtls2 (secondaryRequested e) (secCtl e)
  inactive : activatesSecondary e = false → secondaryRequested e = 0 ∧
    now.vmcs .controlSecondaryProcessorBasedVmExecutionControls =
      before.vmcs .controlSecondaryProcessorBasedVmExecutionControls
  tertiary : activatesTertiary e = false
  contract : EntryContract e

theorem cetSteps_named (supervisor ssp table : SetupField) :
    ∀ step ∈ cetSteps e supervisor ssp table, step.named = true := by
  unfold cetSteps
  split <;> simp [SetupStep.named]

/-- Every check of the setup names its reason. -/
theorem setupSteps_named : ∀ step ∈ setupSteps e, step.named = true := by
  unfold setupSteps hostSteps guestEntrySteps secondarySteps exitEntrySteps
  simp only [List.forall_mem_append]
  refine ⟨⟨⟨⟨⟨⟨⟨⟨?_, ⟨?_, cetSteps_named e _ _ _⟩, ?_⟩, ?_⟩, cetSteps_named e _ _ _, ?_⟩, ?_⟩, ?_⟩,
    ?_, ?_⟩, ?_⟩, ⟨⟨⟨?_, ?_⟩, ?_⟩, ?_⟩, ?_⟩
  · simp [samplingSteps, processorSteps, fixedCrMsrs, readUnguarded, SetupStep.named]
  · simp [hostStateSteps, setVmcsSetupPhase, SetupStep.named]
  · simp [inject, SetupStep.named]
  · simp [guestStateSteps, setVmcsSetupPhase, SetupStep.named]
  · simp [guestActivitySteps, inject, SetupStep.named]
  · simp [pinSteps, readUnguarded, setVmcsSetupPhase, SetupStep.named]
  · simp [primarySteps, readUnguarded, SetupStep.named]
  · unfold secondaryControlSteps
    split <;> simp [readUnguarded, SetupStep.named]
  · simp [secondaryDoneSteps, inject, SetupStep.named]
  · unfold tertiarySteps
    split <;> simp [setVmcsSetupPhase, SetupStep.named]
  · simp [bitmapSteps, setVmcsSetupPhase, SetupStep.named]
  · unfold xssBitmapSteps
    split <;> simp [SetupStep.named]
  · simp [transitionSteps, readUnguarded, SetupStep.named]
  · simp [transitionSteps, readUnguarded, SetupStep.named]
  · simp [guestHostMaskSteps, setVmcsSetupPhase, SetupStep.named]

/-- The checks that a setup has passed, by their section. -/
structure Checked : Prop where
  sampling : ∀ step ∈ samplingSteps e, step.Passes
  activity : ∀ step ∈ guestActivitySteps e, step.Passes
  pin : ∀ step ∈ pinSteps e, step.Passes
  primary : ∀ step ∈ primarySteps e, step.Passes
  secondary : ∀ step ∈ secondaryControlSteps e, step.Passes
  exit : ∀ step ∈ transitionSteps e .controlVmExitControls (exitCtl e) (requestedExit e)
    vmxExitMandatoryOn (exitCtlMsr e), step.Passes
  entry : ∀ step ∈ transitionSteps e .controlVmEntryControls (entryCtl e) (requestedEntry e)
    vmxEntryMandatoryOn (entryCtlMsr e), step.Passes

variable {e}

theorem Checked.of_passes (passes : ∀ step ∈ setupSteps e, step.Passes) : Checked e := by
  unfold setupSteps guestEntrySteps secondarySteps exitEntrySteps at passes
  simp only [List.forall_mem_append] at passes
  obtain ⟨⟨⟨⟨⟨⟨⟨⟨sampling, -⟩, -⟩, -, activity⟩, pin⟩, primary⟩, secondary, -⟩, -⟩,
    ⟨⟨-, exit⟩, entry⟩, -⟩ := passes
  exact ⟨sampling, activity, pin, primary, secondary, exit, entry⟩

theorem Checked.transition {field : SetupField} {requested mandatoryOn msr : U32}
    (capable : controlMandatoryOn e.machine msr &&& ~~~controlAllowedOn e.machine msr = 0)
    (passes : ∀ step ∈ transitionSteps e field (adjustControls e.machine requested msr) requested
      mandatoryOn msr, step.Passes) :
    ControlWord e.machine msr requested (adjustControls e.machine requested msr) := by
  simp only [transitionSteps, List.forall_mem_cons, SetupStep.Passes, decide_eq_false_iff_not,
    not_not] at passes
  have granted := passes.2.1
  rw [BitVec.and_comm] at granted
  exact adjustControls_word capable (Masks.and_eq_self_iff.mp granted)

/-- No pin-based control with an exit is on. -/
theorem Checked.pinClear (checked : Checked e) : pinCtl e &&& pinExitControls = 0 := by
  have passes := checked.pin
  simp only [pinSteps, List.forall_mem_cons, SetupStep.Passes] at passes
  obtain ⟨-, -, -, -, -, -, -, -, -, -, -, accepted, -⟩ := passes
  simp only [Bool.or_eq_false_iff, decide_eq_false_iff_not, not_not] at accepted
  exact accepted.1.2

theorem Checked.pinHandled (checked : Checked e) : ∀ control ∈ pinExits,
    pinCtl e &&& control.1 ≠ 0 → ∀ reason ∈ control.2, reason ∈ handledReasons := by
  have among : ∀ control ∈ pinExits, pinExitControls &&& control.1 = control.1 := by decide
  intro control member on
  exact absurd (Masks.and_eq_zero_of_inside checked.pinClear (among control member)) on

/-- What the primary controls have been checked for. -/
structure PrimaryChecked (e : SetupEnvironment) : Prop where
  bitmaps : procCtl e &&& cpuBasedUseMsrBitmaps ≠ 0
  activated : secondaryRequested e ≠ 0 → activatesSecondary e = true
  known : controlMandatoryOn e.machine (procCtlMsr e) &&& ~~~knownPrimaryMandatoryOn = 0
  supported : procCtl e &&& unsupportedPrimary = 0

theorem Checked.primaryChecked (checked : Checked e) : PrimaryChecked e := by
  have passes := checked.primary
  simp only [primarySteps, List.forall_mem_cons, SetupStep.Passes] at passes
  obtain ⟨-, -, -, bitmaps, activated, known, supported, -⟩ := passes
  simp only [Bool.or_eq_false_iff, Bool.and_eq_false_imp, decide_eq_false_iff_not, not_not,
    decide_eq_true_iff, Bool.not_eq_false'] at bitmaps activated known supported
  exact ⟨bitmaps, activated, known.1, supported⟩

theorem PrimaryChecked.handled (checked : PrimaryChecked e) : ∀ control ∈ primaryExits,
    procCtl e &&& control.1 ≠ 0 → ∀ reason ∈ control.2, reason ∈ handledReasons := by
  have known : ∀ control ∈ primaryExits, unsupportedPrimary &&& control.1 = control.1 ∨
      control.2 = [vmExitReasonCrAccess] ∨
      control.2 = [vmExitReasonRdmsr, vmExitReasonWrmsr] := by decide
  have crAccess : vmExitReasonCrAccess ∈ handledReasons := by decide
  have rdmsr : vmExitReasonRdmsr ∈ handledReasons := by decide
  have wrmsr : vmExitReasonWrmsr ∈ handledReasons := by decide
  intro control member on
  rcases known control member with unsupported | access | msr
  · exact absurd (Masks.and_eq_zero_of_inside checked.supported unsupported) on
  · rw [access]
    exact List.forall_mem_singleton.mpr crAccess
  · rw [msr]
    exact List.forall_mem_cons.mpr ⟨rdmsr, List.forall_mem_singleton.mpr wrmsr⟩

/-- Neither the request nor the mandatory bits activate tertiary controls. -/
theorem PrimaryChecked.tertiary (checked : PrimaryChecked e) : activatesTertiary e = false := by
  have requested : requestedPrimary e &&& cpuBasedActivateTertiaryControls = 0 := by
    unfold requestedPrimary
    split <;> decide
  have mandatory : controlMandatoryOn e.machine (procCtlMsr e) &&&
      cpuBasedActivateTertiaryControls = 0 := by
    by_contra on
    exact Masks.touches_of_inside checked.known on (by decide)
  have word : procCtl e &&& cpuBasedActivateTertiaryControls = 0 := by
    rw [procCtl, adjustControls_eq, BitVec.and_or_distrib_right, mandatory, BitVec.and_assoc,
      BitVec.and_comm (controlAllowedOn _ _), ← BitVec.and_assoc, requested]
    simp
  rw [activatesTertiary, decide_eq_false_iff_not, not_not]
  exact word

theorem PrimaryChecked.word (checked : PrimaryChecked e)
    (capable : controlMandatoryOn e.machine (procCtlMsr e) &&&
      ~~~controlAllowedOn e.machine (procCtlMsr e) = 0) :
    ControlWord e.machine (procCtlMsr e) (requestedPrimary e) (procCtl e) := by
  have bitmaps : cpuBasedUseMsrBitmaps &&& ~~~procCtl e = 0 :=
    @Masks.twoPow_inside _ (procCtl e) 28 checked.bitmaps
  refine adjustControls_word capable ?_
  change requestedPrimary e &&& ~~~procCtl e = 0
  unfold requestedPrimary
  rw [BitVec.and_or_distrib_right, bitmaps]
  split
  case isTrue requested =>
    have activated := of_decide_eq_true (checked.activated requested)
    have inside : cpuBasedActivateSecondaryControls &&& ~~~procCtl e = 0 :=
      @Masks.twoPow_inside _ (procCtl e) 31 activated
    rw [inside]
    rfl
  case isFalse => simp

/-- The secondary controls, where they are on, are those asked for. -/
theorem Checked.secCtl_of_active (checked : Checked e) (active : activatesSecondary e = true) :
    secCtl e = secondaryRequested e := by
  have passes := checked.secondary
  rw [secondaryControlSteps, if_pos active] at passes
  simp only [List.forall_mem_cons, SetupStep.Passes, decide_eq_false_iff_not, not_not] at passes
  obtain ⟨-, granted, inside, -⟩ := passes
  rw [← Masks.and_eq_self inside]
  exact granted

theorem Checked.secondaryWord (checked : Checked e) (active : activatesSecondary e = true)
    (capable : controlMandatoryOn e.machine msrIa32VmxProcbasedCtls2 &&&
      ~~~controlAllowedOn e.machine msrIa32VmxProcbasedCtls2 = 0) :
    ControlWord e.machine msrIa32VmxProcbasedCtls2 (secondaryRequested e) (secCtl e) := by
  have word : secCtl e = adjustControls e.machine (secondaryRequested e)
      msrIa32VmxProcbasedCtls2 := if_pos active
  have exact_ := checked.secCtl_of_active active
  rw [word] at exact_ ⊢
  refine adjustControls_word capable ?_
  rw [exact_]
  exact BitVec.and_not_self _

/-- Where the secondary controls stay off, nothing has been asked of them. -/
theorem PrimaryChecked.unrequested (checked : PrimaryChecked e)
    (inactive : activatesSecondary e = false) : secondaryRequested e = 0 := by
  by_contra requested
  rw [checked.activated requested] at inactive
  cases inactive

/-- Whether they are on or off, the secondary controls are those asked for. -/
theorem Checked.secCtl_eq (checked : Checked e) : secCtl e = secondaryRequested e := by
  cases active : activatesSecondary e with
  | true => exact checked.secCtl_of_active active
  | false =>
    rw [checked.primaryChecked.unrequested active, secCtl, active]
    rfl

theorem pinCtl_word (capable : controlMandatoryOn e.machine (pinCtlMsr e) &&&
      ~~~controlAllowedOn e.machine (pinCtlMsr e) = 0) :
    ControlWord e.machine (pinCtlMsr e) 0 (pinCtl e) :=
  adjustControls_word capable BitVec.zero_and

theorem chainedMsr_of_chainRead {m : Machine} {chain : List U32} (read : chainRead m chain = true)
    {msr : U32} (member : msr ∈ chain) : m.readMsr msr = some (chainedMsr m chain msr) := by
  have every : ∀ other ∈ chain, (m.readMsr other).isSome = true := List.all_eq_true.mp read
  obtain ⟨value, here⟩ := Option.isSome_iff_exists.mp (every msr member)
  have earlier : ((chain.takeWhile (· ≠ msr)).all fun other => (m.readMsr other).isSome) = true :=
    List.all_eq_true.mpr fun other before => every other (List.takeWhile_subset _ before)
  rw [chainedMsr, if_pos earlier, here]
  rfl

/-- A present TSS descriptor has a canonical base. -/
theorem getTssBase_canonical {m : Machine} {gdtBase : U64} {gdtLimit selector : U16}
    (present : getTssBase m gdtBase gdtLimit selector ≠ 0) :
    isCanonical m (getTssBase m gdtBase gdtLimit selector) = true := by
  unfold getTssBase at present ⊢
  simp only at present ⊢
  split at present
  case isTrue => exact absurd rfl present
  case isFalse outside =>
    rw [if_neg outside]
    split at present
    case isTrue => exact absurd rfl present
    case isFalse typed =>
      rw [if_neg typed]
      split at present
      case isTrue canonical =>
        rw [if_pos canonical]
        exact canonical
      case isFalse => exact absurd rfl present

/-- A selector that has to be privileged names a GDT entry with RPL 0. -/
theorem hostSelector_of_privileged {m : Machine} {gdtBase : U64} {gdtLimit selector : U16}
    {allowNull requireSystem requireCode requireWritableData : Bool}
    (usable : isGdtSelectorUsable m gdtBase gdtLimit selector allowNull requireSystem requireCode
      true requireWritableData = true) : hostSelector selector = selector.setWidth 64 := by
  by_cases null : selector = 0
  · rw [null]
    rfl
  · unfold isGdtSelectorUsable at usable
    rw [if_neg null] at usable
    simp only at usable
    split at usable
    case isTrue => cases usable
    case isFalse placed =>
      split at usable
      case isTrue => cases usable
      case isFalse =>
        split at usable
        case isTrue => cases usable
        case isFalse unprivileged =>
          simp only [Bool.or_eq_true, not_or, decide_eq_true_iff, not_not, Bool.true_and]
            at placed unprivileged
          have global : selector &&& 4 = 0 := placed.1.1.1.1
          have privilege : selector &&& 3 = 0 := unprivileged.1
          have split : selector &&& ~~~0xFFF8 = selector &&& 4 ||| selector &&& 3 :=
            (BitVec.and_or_distrib_left (x := selector) (y := 4) (z := 3)).symm ▸ rfl
          have low : selector &&& ~~~0xFFF8 = 0 := by
            rw [split, global, privilege]
            rfl
          rw [hostSelector, Masks.and_eq_self low]

/-- What the processor has been checked for. -/
structure ProcessorChecked (e : SetupEnvironment) : Prop where
  fixed : ∀ msr ∈ fixedCrMsrs, (e.machine.readMsr msr).isSome = true
  hostProtected : isCetWriteProtected e.cr0 e.cr4 = true
  guestProtected : isCetWriteProtected (guestCr0 e) (guestCr4 e) = true
  snapshot : isMsrSnapshotUsable e = true
  busyTss : isGuestTrSelectorUsable e.machine e.gdtBase e.gdtLimit e.trSelector = true
  descriptors : launchDescriptorRejectMask e = 0
  ldtr : e.ldtrSelector = 0
  hostIdt : prepareVmxHostIdt e = true

theorem Checked.processor (checked : Checked e) : ProcessorChecked e := by
  have passes := checked.sampling
  simp only [samplingSteps, List.forall_mem_append, List.forall_mem_map] at passes
  obtain ⟨readable, passes⟩ := passes
  simp only [processorSteps, List.forall_mem_cons, SetupStep.Passes] at passes
  obtain ⟨-, protected_, snapshot, -, busy, -, descriptors, ldtr, -, -, hostIdt, -⟩ := passes
  simp only [Bool.or_eq_false_iff, decide_eq_false_iff_not, not_not, Bool.not_eq_false'] at *
  refine ⟨fun msr member => ?_, protected_.1, protected_.2, snapshot, busy, descriptors, ldtr, hostIdt⟩
  exact Option.isSome_iff_ne_none.mpr fun missing => by
    have read := readable msr member
    simp [readUnguarded, SetupStep.Passes, missing] at read

theorem Checked.entryPoint (checked : Checked e) :
    isCanonical e.machine e.guestIp = true ∧ isCanonical e.machine e.guestSp = true := by
  have passes := checked.activity
  simp only [guestActivitySteps, List.forall_mem_cons, SetupStep.Passes] at passes
  obtain ⟨-, -, -, -, -, -, accepted, -⟩ := passes
  simp only [Bool.or_eq_false_iff, decide_eq_false_iff_not, Bool.not_eq_false'] at accepted
  exact ⟨accepted.1.2, accepted.2⟩

/-- No part of the reject mask is there. -/
theorem ProcessorChecked.accepted (checked : ProcessorChecked e) :
    isCanonical e.machine e.gdtBase = true ∧ isCanonical e.machine e.idtBase = true ∧
      isSelectorUsable e e.csSelector false false true true false = true ∧
      isSelectorUsable e e.ssSelector true false false true true = true ∧
      (∀ selector ∈ [e.dsSelector, e.esSelector, e.fsSelector, e.gsSelector],
        isSelectorUsable e selector true false false false false = true) ∧
      isValidArchitecturalCr3 e.machine (hostCr3 e) e.cr4 = true ∧
      isValidArchitecturalCr3 e.machine (guestCr3 e) (guestCr4 e) = true ∧ tssBase e ≠ 0 := by
  have clear := Masks.gather_eq_zero_iff.mp checked.descriptors
  simp only [List.forall_mem_cons] at clear
  obtain ⟨gdt, idt, cs, ss, ds, es, fs, gs, -, host, guest, tss, -⟩ := clear
  have passed {refuses : Bool} {k : Nat} (small : k < 32)
      (clear : refuses = true → 1#32 <<< k = 0#32) : refuses = false := by
    rw [Bool.eq_false_iff]
    intro refused
    have here := congrArg (·.getLsbD k) (clear refused)
    simp [small] at here
  have usable {good : Bool} {k : Nat} (small : k < 32)
      (clear : (!good) = true → 1#32 <<< k = 0#32) : good = true := by
    rw [← Bool.not_not good, passed small clear]
    rfl
  have data : ∀ selector ∈ [e.dsSelector, e.esSelector, e.fsSelector, e.gsSelector],
      isSelectorUsable e selector true false false false false = true := by
    simp only [List.forall_mem_cons]
    exact ⟨usable (by decide) ds, usable (by decide) es, usable (by decide) fs,
      usable (by decide) gs, nofun⟩
  exact ⟨usable (by decide) gdt, usable (by decide) idt, usable (by decide) cs,
    usable (by decide) ss, data, usable (by decide) host, usable (by decide) guest,
    of_decide_eq_false (passed (by decide) tss)⟩

/-- The state that the checks have let through meets what VM entry asks. -/
theorem Checked.entryContract (checked : Checked e) (capable : Capable e) : EntryContract e := by
  have processor := checked.processor
  have snapshot := processor.snapshot
  obtain ⟨gdt, idt, cs, ss, data, hostCr3, guestCr3, present⟩ := processor.accepted
  obtain ⟨ip, sp⟩ := checked.entryPoint
  simp only [isMsrSnapshotUsable, Bool.and_eq_true] at snapshot
  obtain ⟨⟨⟨⟨⟨⟨⟨read, fs⟩, gs⟩, -⟩, -⟩, -⟩, efer⟩, pat⟩ := snapshot
  have hostIdt := processor.hostIdt
  rw [prepareVmxHostIdt, Bool.and_eq_true] at hostIdt
  have ownIdt : hostIdtBase e = e.vmxHostIdt := if_pos hostIdt.1
  have tss := getTssBase_canonical present
  have busy := processor.busyTss
  rw [isGuestTrSelectorUsable, Bool.and_eq_true] at busy
  exact {
    guestCr0 := adjustCr_valid (processor.fixed _ (by decide)) (processor.fixed _ (by decide))
      capable.cr0
    guestCr4 := adjustCr_valid (processor.fixed _ (by decide)) (processor.fixed _ (by decide))
      capable.cr4
    keptCr0 := adjustCr_fixed
    keptCr4 := adjustCr_fixed
    hostProtected := processor.hostProtected
    guestProtected := processor.guestProtected
    hostCr3
    guestCr3
    sampled := fun msr member => chainedMsr_of_chainRead read member
    efer
    pat
    canonical := by
      rw [ownIdt]
      simp only [List.forall_mem_cons]
      exact ⟨fs, gs, tss, gdt, idt, hostIdt.2, ip, sp, nofun⟩
    hostIdt := ownIdt
    cs
    ss
    data
    ldtr := processor.ldtr
    busyTss := processor.busyTss
    privileged := by
      simp only [List.forall_mem_cons]
      exact ⟨hostSelector_of_privileged cs, hostSelector_of_privileged ss,
        hostSelector_of_privileged busy.1, nofun⟩ }

variable (e)

/-- A setup that returns true has programmed the VMCS soundly; one that returns
false has left a reason. -/
theorem setupVmcs_sound {before : SetupState} (owned : e.machine.hasVcpu = true)
    (capable : Capable e) (recordable : Recordable before) :
    ((setupVmcs e before).1 = .returned true → SetupSound e before (setupVmcs e before).2) ∧
      ((setupVmcs e before).1 = .returned false → Recorded (setupVmcs e before).2) := by
  obtain ⟨ran, refused⟩ := setupVmcs_ran e owned recordable (setupSteps_named e)
  refine ⟨fun done => ?_, refused⟩
  obtain ⟨passes, vmcs, written⟩ := ran done
  have checked := Checked.of_passes passes
  have primary := checked.primaryChecked
  have controls := capable.controls
  simp only [List.forall_mem_cons] at controls
  obtain ⟨pin, proc, secondary, exit, entry, -⟩ := controls
  exact {
    written
    programmed := fun field value programmed => by
      rw [vmcs]
      exact setupSteps_store e programmed
    pin := pinCtl_word pin
    primary := primary.word proc
    exit := Checked.transition exit checked.exit
    entry := Checked.transition entry checked.entry
    pinHandled := checked.pinHandled
    primaryHandled := primary.handled
    secondary := fun active =>
      ⟨checked.secCtl_of_active active, checked.secondaryWord active secondary⟩
    inactive := fun inactive => ⟨primary.unrequested inactive, by
      rw [vmcs]
      exact setupSteps_secondary e inactive⟩
    tertiary := primary.tertiary
    contract := checked.entryContract capable }

end

def sampleGdtBase : U64 := 0xFFFFF80000001000

/-- A GDT with kernel code and stack, user data and a busy TSS. -/
def sampleGdt (address : U64) : U8 :=
  match (address - sampleGdtBase).toNat with
  | 0x15 => 0x9B
  | 0x1D => 0x93
  | 0x2D => 0xF3
  | 0x43 => 0x20
  | 0x45 => 0x8B
  | 0x49 => 0xF8
  | 0x4A | 0x4B => 0xFF
  | _ => 0

/-- A processor with RDTSCP, whose controls have no secondary word. -/
def sampleMachine : Machine where
  cpuId := 0
  vcpuData := true
  processorCount := 1
  vmxFlags := fun _ => 2
  cpuidex := fun leaf _ =>
    if leaf = 0 then ⟨7, 0x756E6547, 0x6C65746E, 0x49656E69⟩
    else if leaf = 1 then ⟨0x600, 0, cpuid1EcxVmx, cpuid1EdxFxsr⟩
    else if leaf = 0x80000000 then ⟨0x80000008, 0, 0, 0⟩
    else if leaf = 0x80000001 then ⟨0, 0, 0, 1#32 <<< 27⟩
    else if leaf = 0x80000008 then ⟨39, 0, 0, 0⟩
    else ⟨0, 0, 0, 0⟩
  readMsr := fun msr =>
    if msr = msrIa32FeatureControl then some 5
    else if msr = msrIa32VmxBasic then some 0x18100000000001
    else if msr = msrIa32VmxCr0Fixed0 then some 0x80000021
    else if msr = msrIa32VmxCr0Fixed1 then some 0xFFFFFFFF
    else if msr = msrIa32VmxCr4Fixed0 then some 0x2000
    else if msr = msrIa32VmxCr4Fixed1 then some 0x7FFFFF
    else if msr = msrIa32VmxPinbasedCtls then some 0x0000001600000016
    else if msr = msrIa32VmxProcbasedCtls then some 0x1401E1720401E172
    else if msr = msrIa32VmxExitCtls then some 0x003F6FFF00036DFF
    else if msr = msrIa32VmxEntryCtls then some 0x0000D3FF000011FF
    else if msr = msrIa32Efer then some 0xD01
    else if msr = msrIa32Pat then some 0x0007040600070406
    else if msr = msrFsBase ∨ msr = msrGsBase ∨ msr = msrIa32SysenterCs ∨
        msr = msrIa32SysenterEsp ∨ msr = msrIa32SysenterEip ∨ msr = msrIa32Debugctl ∨
        msr = msrIa32KernelGsBase then
      some 0
    else none
  xgetbv := none
  readCr2 := 0
  memory := sampleGdt
  getSegmentLimit := fun _ => 0x67
  getSegmentAr := fun _ => 0x8B
  linearAddressBits := 48
  debugctlMask := kDebugctlArchitecturalMask &&& ~~~ia32DebugctlBusLockDetect
  cetVmcsEnabled := false
  xsavesEnabled := false
  xstateMode := .fxsave
  xsavesMask := 0
  enumeratedXssMask := 0
  guestXssWriteMask := 0
  hostXcr0Mask := 0
  testFault := none

/-- A setup on it, with the selectors of a running system. -/
def sampleSetup : SetupEnvironment where
  machine := sampleMachine
  vmread := fun _ value => value
  irql := 0
  guestSp := 0xFFFFF80000004000
  guestIp := 0xFFFFF80000005000
  hostCr3 := 0x1000
  hostStackTop := 0xFFFFF80000020000
  msrBitmapPhys := 0x12000
  guestDr7 := 0x400
  guestDebugctl := 0
  vmxProfile := vmxProfileLegacyControls
  vmxHostIdt := 0xFFFFF80000006000
  vmxHostIdtBase := 0
  hvVmExitEntryPoint := 0xFFFFF80000007000
  gdtBase := sampleGdtBase
  gdtLimit := 0x57
  idtBase := 0xFFFFF80000000000
  idtLimit := 0xFFF
  trSelector := 0x40
  ldtrSelector := 0
  csSelector := 0x10
  ssSelector := 0x18
  dsSelector := 0x2B
  esSelector := 0x2B
  fsSelector := 0x2B
  gsSelector := 0x2B
  cr0 := 0x80050033
  cr3 := 0x1000
  cr4 := 0x26F8
  rflags := 2

/-- The record of a vCPU before its first setup. -/
def openSetup : SetupState where
  vmcs := fun _ => 0
  vmcsWrite := ⟨false, 0, 0, 0, 0⟩
  vmcsRead := ⟨false, 0, 0, 0, 0⟩
  vmcsMismatch := ⟨false, 0, 0, 0, 0, 0⟩
  vmcsDiagnosticValidity := 0
  failure := ⟨.empty, .none, 0, 0⟩
  notes :=
    { setupPhase := .none
      launchCr3 := ⟨0, 0, 0, 0, 0⟩
      launchDescriptors := ⟨0, 0, 0, 0, 0, 0⟩
      primaryControlsCapability := 0
      tertiaryControlsAllowed := 0
      vmxHostIdtBase := 0
      host := ⟨0, 0, 0, 0, 0, 0, 0, 0, 0, 0, 0, 0⟩
      hostSsLimit := 0
      hostSsAr := 0
      nativeTeardownSafe := false
      nativeTeardownRejectMask := 0
      teardownRequest := 0
      fatalSnapshotCommitState := .empty
      lastEventSnapshotValid := false
      waitpkgVmcsEnabled := false }
  log := []

/-- The registers before VMXON, and a CR3 with its no-flush bit. -/
def unadjustedSetup : SetupEnvironment :=
  { sampleSetup with cr0 := 0x80050013, cr3 := 0x8000000000001000, cr4 := 0x226F8 }

theorem sampleSetup_capable : Capable sampleSetup where
  controls := by
    simp only [List.forall_mem_cons]
    exact ⟨by decide +kernel, by decide +kernel, by decide +kernel, by decide +kernel,
      by decide +kernel, nofun⟩
  cr0 := by decide +kernel
  cr4 := by decide +kernel

/-- The setup of a running system goes through. -/
theorem setupVmcs_sound_sample :
    SetupSound sampleSetup openSetup (setupVmcs sampleSetup openSetup).2 := by
  have done : (setupVmcs sampleSetup openSetup).1 = .returned true := by decide +kernel
  exact (setupVmcs_sound sampleSetup rfl sampleSetup_capable (.inl rfl)).1 done

/-- A setup that returns true and gives HOST_DS_SELECTOR, HOST_IDTR_BASE,
GUEST_CR0 and GUEST_CR3 other values than the sampled ones, and a HOST_CR0
without a fixed bit. -/
theorem setupVmcs_unadjusted :
    unadjustedSetup.machine.hasVcpu = true ∧ Capable unadjustedSetup ∧ Recordable openSetup ∧
      (setupVmcs unadjustedSetup openSetup).1 = .returned true ∧
      (setupVmcs unadjustedSetup openSetup).2.vmcs .hostDsSelector = 0x28 ∧
      unadjustedSetup.dsSelector = 0x2B ∧
      (setupVmcs unadjustedSetup openSetup).2.vmcs .hostIdtrBase ≠ unadjustedSetup.idtBase ∧
      (setupVmcs unadjustedSetup openSetup).2.vmcs .guestCr0 ≠ unadjustedSetup.cr0 ∧
      (setupVmcs unadjustedSetup openSetup).2.vmcs .guestCr3 ≠ unadjustedSetup.cr3 ∧
      isFixedCrValueValid unadjustedSetup.machine
        ((setupVmcs unadjustedSetup openSetup).2.vmcs .hostCr0) msrIa32VmxCr0Fixed0
        msrIa32VmxCr0Fixed1 = false := by
  have capable : Capable unadjustedSetup :=
    ⟨sampleSetup_capable.controls, sampleSetup_capable.cr0, sampleSetup_capable.cr4⟩
  exact ⟨rfl, capable, .inl rfl, by decide +kernel, by decide +kernel, rfl, by decide +kernel,
    by decide +kernel, by decide +kernel, by decide +kernel⟩

end Knhv.Vmx.Setup
