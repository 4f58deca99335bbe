import Mathlib
import Knhv.Vmx.Handler
import Knhv.Vmx.XstateFrame

open Std.Do

set_option mvcgen.warning false

namespace Knhv.Vmx

/-- The extended-state selectors, which no VMCS field carries. -/
structure Selectors where
  guestXcr0 : U64
  guestXss : U64
  hostXcr0 : U64
  deriving DecidableEq

def ExitState.selectors (s : ExitState) : Selectors :=
  ⟨s.ctx.guestXcr0, s.ctx.guestXss, s.vcpu.host.xcr0⟩

theorem publishVmcsFailure_host (reason : VmcsFailureReason) (arg0 arg1 : U64)
    (vcpu : VcpuContext) : (publishVmcsFailure reason arg0 arg1 vcpu).host = vcpu.host := by
  unfold publishVmcsFailure
  split <;> rfl

section

variable (before : Selectors) (m : Machine)

theorem hvVmWrite_selectors (field : VmcsField) (value : U64) :
    ⦃fun s => ⌜s.selectors = before⌝⦄ hvVmWrite m field value
    ⦃⇓ _ s => ⌜s.selectors = before⌝⦄ :=
  fun _ same => same

theorem readInstructionError_selectors (defined : Bool) :
    ⦃fun s => ⌜s.selectors = before⌝⦄ readInstructionError m defined
    ⦃⇓ _ s => ⌜s.selectors = before⌝⦄ := by
  intro s same
  cases defined with
  | true => exact same
  | false => exact same

theorem modifyVcpu_selectors (f : VcpuContext → VcpuContext)
    (steady : ∀ vcpu, (f vcpu).host = vcpu.host) :
    ⦃fun s => ⌜s.selectors = before⌝⦄ modifyVcpu f ⦃⇓ _ s => ⌜s.selectors = before⌝⦄ := by
  refine spec_intro fun s same => ?_
  rw [← same]
  exact congrArg (fun host : HostState => Selectors.mk s.ctx.guestXcr0 s.ctx.guestXss host.xcr0)
    (steady s.vcpu)

theorem recordVcpu_selectors (f : VcpuContext → VcpuContext)
    (steady : ∀ vcpu, (f vcpu).host = vcpu.host) :
    ⦃fun s => ⌜s.selectors = before⌝⦄ recordVcpu m f ⦃⇓ _ s => ⌜s.selectors = before⌝⦄ := by
  have record := modifyVcpu_selectors before f steady
  mvcgen [recordVcpu, record]

theorem vmWriteChecked_selectors (field : VmcsField) (value : U64) :
    ⦃fun s => ⌜s.selectors = before⌝⦄ vmWriteChecked m field value
    ⦃⇓ _ s => ⌜s.selectors = before⌝⦄ := by
  have write := hvVmWrite_selectors before m
  have error := readInstructionError_selectors before m
  have record := modifyVcpu_selectors before
  mvcgen [vmWriteChecked, write, error, record]
  case vc5.steady => exact fun vcpu => publishVmcsFailure_host _ _ _ _

theorem writeAll_selectors (writes : List (VmcsField × U64)) :
    ⦃fun s => ⌜s.selectors = before⌝⦄ writeAll m writes ⦃⇓ _ s => ⌜s.selectors = before⌝⦄ := by
  induction writes with
  | nil => exact fun _ same => same
  | cons write rest ih =>
    have first := vmWriteChecked_selectors before m
    mvcgen [writeAll, first, ih]

theorem injectGuestException_selectors (vector : U8) (hasErrorCode : Bool) (errorCode : U32) :
    ⦃fun s => ⌜s.selectors = before⌝⦄ injectGuestException m vector hasErrorCode errorCode
    ⦃⇓ _ s => ⌜s.selectors = before⌝⦄ := by
  have writes := writeAll_selectors before m
  mvcgen [injectGuestException, requestFatalStop, haltVm, modifyCtx, writes]

/-- The exit is refused and changes no selector. -/
def Declined (done : Bool) (s : ExitState) : Prop := done = false ∧ s.selectors = before

theorem refuse_selectors :
    ⦃fun s => ⌜s.selectors = before⌝⦄ refuse m ⦃⇓ done s => ⌜Declined before done s⌝⦄ := by
  have inject := injectGuestException_selectors before m
  mvcgen [refuse, inject]

theorem refuseUndefined_selectors :
    ⦃fun s => ⌜s.selectors = before⌝⦄ refuseUndefined m
    ⦃⇓ done s => ⌜Declined before done s⌝⦄ := by
  have inject := injectGuestException_selectors before m
  mvcgen [refuseUndefined, inject]

theorem giveUp_selectors :
    ⦃fun s => ⌜s.selectors = before⌝⦄ giveUp ⦃⇓ done s => ⌜Declined before done s⌝⦄ :=
  fun _ same => ⟨rfl, same⟩

theorem stopVm_selectors :
    ⦃fun s => ⌜s.selectors = before⌝⦄ stopVm ⦃⇓ done s => ⌜Declined before done s⌝⦄ :=
  fun _ same => ⟨rfl, same⟩

/-- What IA32_XSS accepts. -/
def isXssAccepted (value : U64) : Bool :=
  if m.xsavesEnabled then isXssWriteInside m value else value = 0

/-- An IA32_XSS write either declines or moves the one selector to an accepted
value. -/
def XssWritten (value : U64) (done : Bool) (s : ExitState) : Prop :=
  Declined before done s ∨
    (done = true ∧ isXssAccepted m value = true ∧ s.selectors = { before with guestXss := value })

theorem handleXssWrite_selectors (value : U64) :
    ⦃fun s => ⌜s.selectors = before⌝⦄ handleXssWrite m value
    ⦃⇓ done s => ⌜XssWritten before m value done s⌝⦄ := by
  have inject := refuse_selectors before m
  have stop := stopVm_selectors before
  have record := recordVcpu_selectors
  have count := modifyVcpu_selectors before
  mvcgen [handleXssWrite, rejectXssWrite, modifyCtx, record, count, stop, inject]
  case vc1.steady => exact fun _ => trivial
  case vc2.steady => exact fun _ => trivial
  case vc3.post.success.isTrue.post.success same _ _ accepted _ recorded _ _ _ written =>
    refine Or.inr ⟨rfl, accepted, ?_⟩
    rw [written, ← same, ← recorded]
    rfl
  case vc4.steady => exact fun _ => trivial
  case vc5.post.success.isFalse.isTrue.pre same _ _ _ _ _ counted => exact counted.trans same
  case vc7.post.success.isFalse.isTrue.post.success.post.success => exact Or.inl
  case vc8.post.success.isFalse.isFalse.pre same _ _ _ _ _ recorded => exact recorded.trans same
  case vc9.post.success.isFalse.isFalse.post.success => exact Or.inl

/-- The value in EDX:EAX. -/
def requestedValue (c : GuestContext) : U64 :=
  joinHalves (c.rax.setWidth 32) (c.rdx.setWidth 32)

/-- XSETBV either declines or keeps the host's XCR0, whose area was measured and
fits. -/
def XcrKept (start : ExitState) (done : Bool) (s : ExitState) : Prop :=
  Declined start.selectors done s ∨
    (done = true ∧ s.selectors = { start.selectors with guestXcr0 := start.vcpu.host.xcr0 } ∧
      m.xstateMode ≠ .fxsave ∧ requestedValue start.ctx = start.vcpu.host.xcr0 ∧
      ∃ areaSize, requestedAreaSize m start.vcpu.host.xcr0 = some areaSize ∧
        areaSize ≤ vmexitXsaveMax)

theorem handleXsetbv_selectors (start : ExitState) :
    ⦃fun s => ⌜s = start⌝⦄ handleXsetbv m ⦃⇓ done s => ⌜XcrKept m start done s⌝⦄ := by
  have inject := refuse_selectors start.selectors m
  have undefined := refuseUndefined_selectors start.selectors m
  have halt := giveUp_selectors start.selectors
  have stop := stopVm_selectors start.selectors
  have record := modifyVcpu_selectors
  mvcgen [handleXsetbv, modifyCtx, record, inject, undefined, halt, stop]
  case vc7.steady => exact fun _ => trivial
  case vc18.steady => exact fun _ => trivial
  case vc19.isFalse.isFalse.isFalse.post.success.isFalse.isFalse.h_2.isFalse.isFalse.post.success
      arrival same _ mode _ _ _ _ _ areaSize area fits kept s recorded _ _ _ written =>
    subst same
    have requested : requestedValue arrival.ctx = arrival.vcpu.host.xcr0 := not_not.mp kept
    refine Or.inr ⟨rfl, ?_, mode, requested, areaSize, requested ▸ area, BitVec.not_lt.mp fits⟩
    rw [written, ← requested, ← recorded]
    rfl
  -- every other way out declines
  all_goals first
    | exact Or.inl
    | simp_all only

end

/-- The globals, where the exit path reads them. -/
def Machine.carrying (m : Machine) (g : FeatureContract) : Machine :=
  { m with
    cetVmcsEnabled := g.cetVmcsEnabled
    xsavesEnabled := g.xsavesEnabled
    xstateMode := g.xstateMode
    xsavesMask := g.xsavesMask
    enumeratedXssMask := g.enumeratedXssMask
    guestXssWriteMask := g.guestXssWriteMask
    hostXcr0Mask := g.hostXcr0Mask
    debugctlMask := g.debugctlMask }

/-- The guest starts on the selectors of its host. -/
def Arranged (g : FeatureContract) (s : ExitState) : Prop :=
  s.selectors = ⟨g.hostXcr0Mask, g.hostXssMask, g.hostXcr0Mask⟩

/-- A run of one vCPU from a load on, as far as the extended state goes: between
two exits everything but the selectors may change, and the stub hands the live
ones to the handler. -/
inductive XstateRun (load : Machine) : FeatureContract → ExitState → Prop
  | launched {currentCr4 : U64} {before g : FeatureContract} {s : ExitState}
      (fresh : IsFresh load before)
      (accepted : initializeVmxFeatureContract load currentCr4 before = (true, g))
      (arranged : Arranged g s) : XstateRun load g s
  | recheck {later : Machine} {currentCr4 : U64} {done : Bool} {g g' : FeatureContract}
      {s : ExitState} (run : XstateRun load g s) (allocated : later.vcpuData = true)
      (handled : initializeVmxFeatureContract later currentCr4 g = (done, g')) :
      XstateRun load g' s
  | wrmsr {m : Machine} {done : Bool} {g : FeatureContract} {s arrival after : ExitState}
      (run : XstateRun load g s) (resumed : arrival.selectors = s.selectors)
      (selected : arrival.ctx.rcx.setWidth 32 = msrIa32Xss)
      (handled : handleMsrWrite (m.carrying g) arrival = (done, after)) : XstateRun load g after
  | xsetbv {m : Machine} {done : Bool} {g : FeatureContract} {s arrival after : ExitState}
      (run : XstateRun load g s) (resumed : arrival.selectors = s.selectors)
      (handled : handleXsetbv (m.carrying g) arrival = (done, after)) : XstateRun load g after

/-- WRMSR to IA32_XSS is the row of that register. -/
theorem handleMsrWrite_xss {m : Machine} {start : ExitState}
    (selected : start.ctx.rcx.setWidth 32 = msrIa32Xss) :
    handleMsrWrite m start =
      if isUserMode start.ctx then refuse m start
      else handleXssWrite m (requestedValue start.ctx) start := by
  change (if isUserMode start.ctx = true then refuse m else _ : StateM ExitState Bool) start = _
  by_cases user : isUserMode start.ctx = true
  · rw [if_pos user, if_pos user]
  · rw [if_neg user, if_neg user, selected]
    rfl

/-- The area that saving the guest's selectors takes up. CPUID.(D,0).EBX answers
for the XCR0 that is live at the load. -/
def savedAreaSize (load : Machine) (g : FeatureContract) (s : ExitState) : Option U32 :=
  match g.xstateMode with
  | .fxsave => some fxsaveAreaSize
  | .xsave => some (load.cpuidex 0xD 0).ebx
  | .xsaves => (computeXsaveAreaSize load s.ctx.guestXcr0 s.ctx.guestXss).map Prod.snd

/-- The save area and the selectors of one vCPU fit together. -/
structure FrameSafe (load : Machine) (g : FeatureContract) (s : ExitState) : Prop where
  guestXss : s.ctx.guestXss &&& ~~~g.xsavesMask = 0
  enumerated : g.xsavesMask &&& ~~~g.enumeratedXssMask = 0
  preservable : g.xsavesMask &&& ~~~ia32XssPreservableMask = 0
  guestXcr0 : s.ctx.guestXcr0 = s.vcpu.host.xcr0
  hostXcr0 : s.vcpu.host.xcr0 = g.hostXcr0Mask
  nonempty : g.xsaveStateSize ≠ 0
  fits : g.xsaveStateSize ≤ vmexitXsaveMax
  xsavesSize : g.xsavesEnabled = true →
    computeXsaveAreaSize load s.vcpu.host.xcr0 g.xsavesMask =
      some (g.enumeratedXssMask, g.xsaveStateSize)
  saved : ∃ areaSize, savedAreaSize load g s = some areaSize ∧ areaSize ≤ g.xsaveStateSize ∧
    areaSize ≤ guestRegistersOffset
  requested : ∀ (m : Machine) (arrival after : ExitState), m.cpuidex 0xD = load.cpuidex 0xD →
    arrival.selectors = s.selectors → handleXsetbv (m.carrying g) arrival = (true, after) →
    ∃ areaSize, requestedAreaSize (m.carrying g) (requestedValue arrival.ctx) = some areaSize ∧
      areaSize ≤ guestRegistersOffset ∧ (g.xsavesEnabled = true → areaSize = g.xsaveStateSize)

/-- The compacted layout is read off leaf 0Dh alone, once that leaf exists. -/
theorem computeXsaveAreaSize_congr {m load : Machine} (leaf : m.cpuidex 0xD = load.cpuidex 0xD)
    {xcr0Mask xssMask : U64} {answer answer' : U64 × U32}
    (here : computeXsaveAreaSize m xcr0Mask xssMask = some answer)
    (there : computeXsaveAreaSize load xcr0Mask xssMask = some answer') : answer = answer' := by
  have component : compactComponent m xcr0Mask xssMask =
      compactComponent load xcr0Mask xssMask := by
    funext offset component
    simp only [compactComponent, leaf]
  have known : xssCapabilities m = xssCapabilities load := by
    simp only [xssCapabilities, leaf]
  simp only [computeXsaveAreaSize, component, known] at here there
  split at here
  · cases here
  split at there
  · cases there
  exact Option.some.inj (here.symm.trans there)

/-- What a run keeps of the selectors. -/
structure Aligned (g : FeatureContract) (now : Selectors) : Prop where
  guestXss : now.guestXss &&& ~~~g.xsavesMask = 0
  guestXcr0 : now.guestXcr0 = now.hostXcr0
  hostXcr0 : now.hostXcr0 = g.hostXcr0Mask

theorem isXssAccepted_inside {m : Machine} {g : FeatureContract} {value : U64}
    (accepted : isXssAccepted (m.carrying g) value = true) : value &&& ~~~g.xsavesMask = 0 := by
  unfold isXssAccepted at accepted
  split at accepted
  · simp only [isXssWriteInside, Bool.and_eq_true, decide_eq_true_eq] at accepted
    exact accepted.1.2
  · rw [of_decide_eq_true accepted]
    exact BitVec.zero_and

theorem Declined.aligned {g : FeatureContract} {before : Selectors} {done : Bool} {s : ExitState}
    (aligned : Aligned g before) (declined : Declined before done s) : Aligned g s.selectors :=
  declined.2 ▸ aligned

theorem XssWritten.aligned {m : Machine} {g : FeatureContract} {before : Selectors} {value : U64}
    {done : Bool} {s : ExitState} (aligned : Aligned g before)
    (written : XssWritten before (m.carrying g) value done s) : Aligned g s.selectors := by
  rcases written with declined | ⟨_, accepted, now⟩
  · exact declined.aligned aligned
  · rw [now]
    exact ⟨isXssAccepted_inside accepted, aligned.guestXcr0, aligned.hostXcr0⟩

theorem XcrKept.aligned {m : Machine} {g : FeatureContract} {start s : ExitState} {done : Bool}
    (aligned : Aligned g start.selectors) (kept : XcrKept m start done s) :
    Aligned g s.selectors := by
  rcases kept with declined | ⟨_, now, _⟩
  · exact declined.aligned aligned
  · rw [now]
    exact ⟨aligned.guestXss, rfl, aligned.hostXcr0⟩

theorem XstateRun.aligned {load : Machine} {g : FeatureContract} {s : ExitState}
    (run : XstateRun load g s) : Framed load g ∧ Aligned g s.selectors := by
  induction run with
  | launched fresh accepted arranged =>
    have framed := initializeVmxFeatureContract_framed load fresh accepted
    refine ⟨framed, ?_⟩
    rw [arranged]
    refine ⟨?_, rfl, rfl⟩
    rw [← framed.host]
    exact BitVec.and_not_self _
  | recheck _ allocated handled ih =>
    rw [initializeVmxFeatureContract_again _ allocated ih.1.initialized] at handled
    cases handled
    exact ih
  | wrmsr _ resumed selected handled ih =>
    rw [handleMsrWrite_xss selected] at handled
    refine ⟨ih.1, ?_⟩
    rw [← resumed] at ih
    split at handled
    · exact (spec_run (refuse_selectors _ _) rfl handled).aligned ih.2
    · exact (spec_run (handleXssWrite_selectors _ _ _) rfl handled).aligned ih.2
  | xsetbv _ resumed handled ih =>
    refine ⟨ih.1, ?_⟩
    rw [← resumed] at ih
    exact (spec_run (handleXsetbv_selectors _ _) rfl handled).aligned ih.2

theorem vmexitXsaveMax_below_registers : vmexitXsaveMax ≤ guestRegistersOffset := by decide

/-- The compacted area of any selector inside the mask fits the recorded size. -/
theorem Framed.saved {load : Machine} {g : FeatureContract} {s : ExitState}
    (framed : Framed load g) (aligned : Aligned g s.selectors) :
    ∃ areaSize, savedAreaSize load g s = some areaSize ∧ areaSize ≤ g.xsaveStateSize := by
  have layout := framed.layout
  cases mode : g.xstateMode with
  | fxsave =>
    simp only [Layout, mode] at layout
    simp only [savedAreaSize, mode]
    exact ⟨_, rfl, BitVec.le_of_eq layout.2.2.symm⟩
  | xsave =>
    simp only [Layout, mode] at layout
    simp only [savedAreaSize, mode]
    exact ⟨_, rfl, BitVec.le_of_eq layout.2.2.symm⟩
  | xsaves =>
    simp only [Layout, mode] at layout
    simp only [savedAreaSize, mode]
    obtain ⟨areaSize, laidOut, smaller⟩ := computeXsaveAreaSize_mono aligned.guestXss layout.2
    have selector : s.ctx.guestXcr0 = g.hostXcr0Mask := aligned.guestXcr0.trans aligned.hostXcr0
    refine ⟨areaSize, ?_, smaller⟩
    rw [selector]
    exact congrArg (Option.map Prod.snd) laidOut

theorem Framed.xsaves {load : Machine} {g : FeatureContract} (framed : Framed load g)
    (enabled : g.xsavesEnabled = true) :
    computeXsaveAreaSize load g.hostXcr0Mask g.xsavesMask =
      some (g.enumeratedXssMask, g.xsaveStateSize) := by
  have layout := framed.layout
  unfold Layout at layout
  split at layout
  case h_1 => exact absurd enabled (by simp [layout.1])
  case h_2 => exact absurd enabled (by simp [layout.1])
  case h_3 => exact layout.2

/-- An XSETBV that goes through measured an area that ends before the saved
registers. -/
theorem Framed.requested {load m : Machine} {g : FeatureContract} {arrival after : ExitState}
    (framed : Framed load g) (aligned : Aligned g arrival.selectors)
    (leaf : m.cpuidex 0xD = load.cpuidex 0xD)
    (accepted : handleXsetbv (m.carrying g) arrival = (true, after)) :
    ∃ areaSize, requestedAreaSize (m.carrying g) (requestedValue arrival.ctx) = some areaSize ∧
      areaSize ≤ guestRegistersOffset ∧
      (g.xsavesEnabled = true → areaSize = g.xsaveStateSize) := by
  rcases spec_run (handleXsetbv_selectors (m.carrying g) arrival) rfl accepted with
    ⟨impossible, _⟩ | ⟨_, _, _, requested, areaSize, measured, fits⟩
  · cases impossible
  · rw [requested]
    refine ⟨areaSize, measured, BitVec.le_trans fits vmexitXsaveMax_below_registers, ?_⟩
    intro enabled
    have host : arrival.vcpu.host.xcr0 = g.hostXcr0Mask := aligned.hostXcr0
    have carried : (m.carrying g).xsavesEnabled = true := enabled
    rw [host, requestedAreaSize, if_pos carried] at measured
    obtain ⟨answer, here, rfl⟩ := Option.map_eq_some_iff.mp measured
    exact congrArg Prod.snd (computeXsaveAreaSize_congr leaf here (framed.xsaves enabled))

/-- Whatever selectors the guest gets accepted, they stay inside the masks of the
load, and what they save ends before the saved registers. -/
theorem xstateRun_frameSafe {load : Machine} {g : FeatureContract} {s : ExitState}
    (run : XstateRun load g s) : FrameSafe load g s := by
  obtain ⟨framed, aligned⟩ := run.aligned
  obtain ⟨areaSize, saved, smaller⟩ := framed.saved aligned
  have host : s.vcpu.host.xcr0 = g.hostXcr0Mask := aligned.hostXcr0
  refine ⟨aligned.guestXss, framed.enumerated, framed.preservable, aligned.guestXcr0, host,
    framed.nonempty, framed.fits, ?_, ?_, ?_⟩
  · rw [host]
    exact framed.xsaves
  · refine ⟨areaSize, saved, smaller, ?_⟩
    exact BitVec.le_trans (BitVec.le_trans smaller framed.fits) vmexitXsaveMax_below_registers
  · intro m arrival after leaf resumed accepted
    exact framed.requested (resumed ▸ aligned) leaf accepted

/-- A processor with AVX and user CET, both on. -/
def xsavesMachine : Machine :=
  { quietMachine with
    vcpuData := false
    cpuidex := fun leaf subleaf =>
      if leaf = 0 then ⟨0xD, 0, 0, 0⟩
      else if leaf = 1 then ⟨0, 0, cpuid1EcxXsave ||| cpuid1EcxOsxsave, cpuid1EdxFxsr⟩
      else if leaf = 0xD ∧ subleaf = 0 then ⟨7, 832, 832, 0⟩
      else if leaf = 0xD ∧ subleaf = 1 then ⟨cpuidD1Xsaves, 848, ia32XssCetU.setWidth 32, 0⟩
      else if leaf = 0xD ∧ subleaf = 2 then ⟨256, 576, 0, 0⟩
      else if leaf = 0xD ∧ subleaf = 11 then ⟨16, 0, 1, 0⟩
      else ⟨0, 0, 0, 0⟩
    readMsr := fun msr =>
      if msr = msrIa32VmxBasic then some 0
      else if msr = msrIa32Xss then some ia32XssCetU
      else if msr = msrIa32VmxProcbasedCtls ∨ msr = msrIa32VmxProcbasedCtls2 then
        some (BitVec.allOnes 64)
      else none }

def xsavesContract : FeatureContract :=
  (initializeVmxFeatureContract xsavesMachine cr4Osxsave (clearedContract false 0)).2

def xstateExit (guestXss rax rcx : U64) : ExitState where
  ctx := { zeroContext with guestXcr0 := 7, guestXss := guestXss, rax := rax, rcx := rcx }
  vcpu := { zeroVcpu with host := { zeroVcpu.host with xcr0 := 7 } }
  vmcs := fun _ => 0
  launchGuestStarted := 0
  launchFirstVmExitEntered := 0
  log := []

def deselectCet : Bool × ExitState :=
  handleMsrWrite (xsavesMachine.carrying xsavesContract)
    (xstateExit ia32XssCetU 0 (msrIa32Xss.setWidth 64))

def keepXcr0 : Bool × ExitState :=
  handleXsetbv (xsavesMachine.carrying xsavesContract) (xstateExit 0 7 0)

/-- The guest deselects CET and then sets its XCR0 again. -/
theorem xstateRun_frameSafe_deselect :
    FrameSafe xsavesMachine xsavesContract keepXcr0.2 ∧ xsavesContract.xsavesMask = ia32XssCetU ∧
      deselectCet.1 = true ∧ keepXcr0.1 = true := by
  have sampled : initializeVmxFeatureContract xsavesMachine cr4Osxsave (clearedContract false 0) =
      (true, xsavesContract) := Prod.ext (by decide +kernel) rfl
  have host : xsavesContract.hostXcr0Mask = 7 := by decide +kernel
  have selected : xsavesContract.hostXssMask = ia32XssCetU := by decide +kernel
  have arranged : Arranged xsavesContract (xstateExit ia32XssCetU 0 (msrIa32Xss.setWidth 64)) := by
    rw [Arranged, host, selected]
    rfl
  have start := XstateRun.launched (Or.inl rfl) sampled arranged
  have first : handleMsrWrite (xsavesMachine.carrying xsavesContract)
      (xstateExit ia32XssCetU 0 (msrIa32Xss.setWidth 64)) = (deselectCet.1, deselectCet.2) := rfl
  have deselected := start.wrmsr rfl (by decide) first
  have resumed : (xstateExit 0 7 0).selectors = deselectCet.2.selectors := by decide +kernel
  have second : handleXsetbv (xsavesMachine.carrying xsavesContract) (xstateExit 0 7 0) =
      (keepXcr0.1, keepXcr0.2) := rfl
  have again := deselected.xsetbv resumed second
  exact ⟨xstateRun_frameSafe again, by decide +kernel, by decide +kernel, by decide +kernel⟩

end Knhv.Vmx
