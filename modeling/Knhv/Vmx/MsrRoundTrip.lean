import Mathlib
import Knhv.Vmx.Refusal
import Knhv.Vmx.XstateRun

open Std.Do

set_option mvcgen.warning false

namespace Knhv.Vmx

/-- The guest has put the number of an MSR into ECX. -/
def ExitState.selecting (s : ExitState) (msr : U32) : ExitState :=
  { s with ctx := { s.ctx with rcx := msr.setWidth 64 } }

/-- What RDMSR of an MSR answers in EDX:EAX; `none` where it is not carried
out. -/
def rdmsrAnswer (m : Machine) (s : ExitState) (msr : U32) : Option U64 :=
  let (done, now) := handleMsrRead m (s.selecting msr)
  if done then some (joinHalves (now.ctx.rax.setWidth 32) (now.ctx.rdx.setWidth 32)) else none

theorem joinHalves_low32 (value : U64) :
    joinHalves ((low32 value).setWidth 32) ((low32 (value >>> 32)).setWidth 32) = value := by
  refine BitVec.eq_of_getLsbD_eq fun bit inside => ?_
  simp only [joinHalves, low32, BitVec.getLsbD_or, BitVec.getLsbD_setWidth,
    BitVec.getLsbD_shiftLeft, BitVec.getLsbD_ushiftRight, inside, decide_true, Bool.true_and]
  by_cases low : bit < 32
  · simp [low, inside]
  · simp [low, show bit - 32 < 32 by omega, show bit - 32 < 64 by omega,
      show 32 + (bit - 32) = bit by omega]

section

variable {m : Machine} {s : ExitState}

theorem handleMsrRead_answers {value : U64} (kernel : isUserMode s.ctx = false)
    (answer : guestMsrValue m s.ctx (s.ctx.rcx.setWidth 32) = some value) :
    handleMsrRead m s =
      (true, { s with ctx := { s.ctx with
        rax := low32 value
        rdx := low32 (value >>> 32) } }) := by
  simp only [handleMsrRead, bind, StateT.bind, get, getThe, MonadStateOf.get, StateT.get, pure,
    kernel, Bool.false_eq_true, if_false, answer]
  rfl

theorem handleMsrRead_refuses (kernel : isUserMode s.ctx = false)
    (answer : guestMsrValue m s.ctx (s.ctx.rcx.setWidth 32) = none) :
    handleMsrRead m s = refuse m s := by
  simp only [handleMsrRead, bind, StateT.bind, get, getThe, MonadStateOf.get, StateT.get, pure,
    kernel, Bool.false_eq_true, if_false, answer]

/-- At CPL 0 RDMSR answers with the guest's copies. -/
theorem rdmsrAnswer_eq (kernel : isUserMode s.ctx = false) (msr : U32) :
    rdmsrAnswer m s msr = guestMsrValue m s.ctx msr := by
  have index : (s.selecting msr).ctx.rcx.setWidth 32 = msr :=
    BitVec.setWidth_setWidth_of_le msr (by omega)
  have copies : guestMsrValue m (s.selecting msr).ctx msr = guestMsrValue m s.ctx msr := rfl
  have ring0 : isUserMode (s.selecting msr).ctx = false := kernel
  cases answer : guestMsrValue m s.ctx msr with
  | some value =>
    rw [rdmsrAnswer, handleMsrRead_answers ring0 (by rw [index, copies, answer])]
    exact congrArg some (joinHalves_low32 value)
  | none =>
    rw [rdmsrAnswer, handleMsrRead_refuses ring0 (by rw [index, copies, answer])]
    rcases run : refuse m (s.selecting msr) with ⟨done, now⟩
    obtain ⟨rfl, -⟩ := spec_run (refuse_unchanged m (s.selecting msr)) (Unchanged.refl _) run
    rfl

end

/-- What the guest-state check asks of the value of an MSR. -/
def MsrValueValid (m : Machine) (c : GuestContext) (msr : U32) (value : U64) : Prop :=
  if msr = msrFsBase || msr = msrGsBase || msr = msrIa32KernelGsBase ||
      msr = msrIa32SysenterEsp || msr = msrIa32SysenterEip then isCanonical m value = true
  else if msr = msrIa32Pat then isValidPatValue value = true
  else if msr = msrIa32Debugctl then isValidDebugctl m value = true
  else if msr = msrIa32SysenterCs then value ≤ 0xFFFF
  else if msr = msrIa32Efer then
    value &&& ~~~kGuestEferBits = c.guestEfer &&& ~~~kGuestEferBits ∧
      value &&& (eferLme ||| eferLma) = c.guestEfer &&& (eferLme ||| eferLma)
  else if msr = msrIa32Xss then
    if m.xsavesEnabled then value &&& ~~~m.xsavesMask = 0 else value = 0
  else True

/-- The part of the guest-state check that looks at MSRs. -/
structure MsrStateValid (m : Machine) (c : GuestContext) : Prop where
  eferBits : c.guestEfer &&& ~~~kGuestEferBits = 0
  longMode : c.guestEfer &&& (eferLme ||| eferLma) = eferLme ||| eferLma
  fsBase : isCanonical m c.guestFsBase = true
  gsBase : isCanonical m c.guestGsBase = true
  kernelGsBase : isCanonical m c.guestKernelGsBase = true
  sysenterCs : c.guestSysenterCs ≤ 0xFFFF
  sysenterEsp : isCanonical m c.guestSysenterEsp = true
  sysenterEip : isCanonical m c.guestSysenterEip = true
  pat : isValidPatValue c.guestPat = true
  debugctl : isValidDebugctl m c.guestDebugctl = true
  xstate : isXstateContractValid m c = true

/-- The part that does not. -/
structure CoreStateValid (m : Machine) (c : GuestContext) : Prop where
  rip : isCanonical m c.guestRip = true ∧ 0x10000 ≤ c.guestRip
  rsp : isCanonical m c.guestRsp = true ∧ 0x200 ≤ c.guestRsp
  cr3 : isValidArchitecturalCr3 m c.guestCr3 c.guestCr4 = true
  selectors : c.guestCs ≠ 0 ∧ c.guestCs &&& 3 = c.guestSs &&& 3 ∧ c.guestCs &&& 3 = 0 ∧
    c.guestSs &&& 3 = 0
  cr0 : isFixedCrValueValid m c.guestCr0 msrIa32VmxCr0Fixed0 msrIa32VmxCr0Fixed1 = true ∧
    c.guestCr0 &&& kRequiredCr0Bits = kRequiredCr0Bits
  cr4 : isFixedCrValueValid m c.guestCr4 msrIa32VmxCr4Fixed0 msrIa32VmxCr4Fixed1 = true ∧
    c.guestCr4 &&& kRequiredCr4Bits = kRequiredCr4Bits
  dr7 : isValidGuestDr7 c.guestDr7 = true
  rflags : isRflagsValid c.rflags = true

theorem isValidGuestState_iff {m : Machine} {c : GuestContext} :
    isValidGuestState m c = true ↔ CoreStateValid m c ∧ MsrStateValid m c := by
  simp only [isValidGuestState, Bool.and_eq_true, decide_eq_true_eq]
  constructor
  · rintro ⟨⟨⟨⟨⟨⟨⟨⟨⟨⟨⟨⟨⟨⟨⟨⟨⟨⟨⟨⟨⟨⟨⟨⟨⟨rip, rsp⟩, rspLow⟩, ripLow⟩, cr3⟩, cs⟩, rpl⟩, cs0⟩, ss0⟩, cr0⟩, cr4⟩,
      cr0Bits⟩, cr4Bits⟩, eferBits⟩, longMode⟩, fsBase⟩, gsBase⟩, kernelGsBase⟩, sysenterCs⟩,
      sysenterEsp⟩, sysenterEip⟩, pat⟩, debugctl⟩, dr7⟩, xstate⟩, rflags⟩
    exact ⟨⟨⟨rip, ripLow⟩, ⟨rsp, rspLow⟩, cr3, ⟨cs, rpl, cs0, ss0⟩, ⟨cr0, cr0Bits⟩, ⟨cr4, cr4Bits⟩,
      dr7, rflags⟩, eferBits, longMode, fsBase, gsBase, kernelGsBase, sysenterCs, sysenterEsp,
      sysenterEip, pat, debugctl, xstate⟩
  · rintro ⟨core, msrs⟩
    exact ⟨⟨⟨⟨⟨⟨⟨⟨⟨⟨⟨⟨⟨⟨⟨⟨⟨⟨⟨⟨⟨⟨⟨⟨⟨core.rip.1, core.rsp.1⟩, core.rsp.2⟩, core.rip.2⟩, core.cr3⟩,
      core.selectors.1⟩, core.selectors.2.1⟩, core.selectors.2.2.1⟩, core.selectors.2.2.2⟩,
      core.cr0.1⟩, core.cr4.1⟩, core.cr0.2⟩, core.cr4.2⟩, msrs.eferBits⟩, msrs.longMode⟩,
      msrs.fsBase⟩, msrs.gsBase⟩, msrs.kernelGsBase⟩, msrs.sysenterCs⟩, msrs.sysenterEsp⟩,
      msrs.sysenterEip⟩, msrs.pat⟩, msrs.debugctl⟩, core.dr7⟩, msrs.xstate⟩, core.rflags⟩

/-- A write that was carried out: the copy of the MSR and its VMCS field have
the value, and nothing else of the guest has changed. -/
structure MsrWritten (before : ExitState) (valid : Prop) (field : Option VmcsField) (value : U64)
    (store : GuestContext → GuestContext) (now : ExitState) : Prop where
  valid : valid
  ctx : now.ctx = store before.ctx
  vmcs : ∀ other, now.vmcs other = if field = some other then value else before.vmcs other

theorem commit_single (m : Machine) (field : VmcsField) (value : U64)
    (store : GuestContext → GuestContext) (s : ExitState) :
    commit m [(field, value)] store s =
      match vmWriteChecked m field value s with
      | (true, now) => (true, { now with ctx := store now.ctx })
      | (false, now) => giveUp now := by
  simp only [commit, writeAll, bind, StateT.bind]
  rcases vmWriteChecked m field value s with ⟨ok, now⟩
  cases ok with
  | false => rfl
  | true => rfl

theorem writeGuestMsr_outcome (m : Machine) (valid : Bool) (field : Option VmcsField) (value : U64)
    (store : GuestContext → GuestContext) (before : ExitState) :
    ⦃fun s => ⌜s = before⌝⦄ writeGuestMsr m valid field value store
    ⦃⇓ done s => ⌜(done = true ∧ MsrWritten before (valid = true) field value store s) ∨
      (done = false ∧ Unchanged before s)⌝⦄ := by
  refine spec_intro fun s same => ?_
  subst same
  cases valid with
  | false => exact Or.inr (refuse_unchanged m s s (Unchanged.refl s))
  | true =>
    cases field with
    | none => exact Or.inl ⟨rfl, rfl, rfl, fun _ => rfl⟩
    | some field =>
      have row : writeGuestMsr m true (some field) value store s =
        commit m [(field, value)] store s := rfl
      rcases run : vmWriteChecked m field value s with ⟨ok, now⟩
      have outcome := spec_run (vmWriteChecked_stores m field value s) rfl run
      rcases outcome with ⟨rfl, ctx, vcpu, vmcs⟩ | ⟨rfl, touched⟩
      · rw [row, commit_single, run]
        refine Or.inl ⟨rfl, rfl, congrArg store ctx, fun other => ?_⟩
        by_cases here : other = field
        · simp [here, vmcs]
        · simp [Ne.symm here, vmcs, Function.update_of_ne here]
      · rw [row, commit_single, run]
        have same : Unchanged s now := touched.unchanged fun _ => False.elim
        exact Or.inr (giveUp_unchanged s now same)

/-- A record in the vCPU entry leaves the guest alone. -/
theorem recordVcpu_guest (m : Machine) (f : VcpuContext → VcpuContext) (before : ExitState) :
    ⦃fun s => ⌜s = before⌝⦄ recordVcpu m f
    ⦃⇓ _ s => ⌜s.ctx = before.ctx ∧ s.vmcs = before.vmcs⌝⦄ := by
  rintro s rfl
  by_cases present : m.hasVcpu = true
  · simp only [recordVcpu, present, if_true]
    exact ⟨rfl, rfl⟩
  · simp only [recordVcpu, present]
    exact ⟨rfl, rfl⟩

/-- The row of IA32_XSS has no VMCS field. -/
theorem handleXssWrite_outcome (m : Machine) (value : U64) (before : ExitState) :
    ⦃fun s => ⌜s = before⌝⦄ handleXssWrite m value
    ⦃⇓ done s => ⌜(done = true ∧ MsrWritten before (isXssAccepted m value = true) none value
        (fun c => { c with guestXss := value }) s) ∨
      (done = false ∧ Unchanged before s)⌝⦄ := by
  have inject := refuse_unchanged m before
  have stop := stopVm_unchanged before
  have count := modifyVcpu_unchanged before
  have record := recordVcpu_guest m
  mvcgen [handleXssWrite, rejectXssWrite, modifyCtx, record, count, stop, inject]
  case vc1.post.success.isTrue.post.success same _ _ accepted _ recorded _ _ _ written =>
    subst same
    refine Or.inl ⟨trivial, accepted, ?_, fun other => ?_⟩
    · rw [written.1]
      exact congrArg (fun c => { c with guestXss := value }) recorded.1
    · rw [written.2]
      exact congrFun recorded.2 other
  case vc2.post.success.isFalse.isTrue.pre same _ _ _ _ _ counted =>
    subst same
    exact ⟨by rw [counted.1], fun other _ => congrFun counted.2 other⟩
  case vc4.post.success.isFalse.isTrue.post.success.post.success =>
    exact fun failed unchanged => Or.inr ⟨failed, unchanged⟩
  case vc5.post.success.isFalse.isFalse.pre same _ _ _ _ _ counted =>
    subst same
    exact ⟨by rw [counted.1], fun other _ => congrFun counted.2 other⟩
  case vc6.post.success.isFalse.isFalse.post.success =>
    exact fun failed unchanged => Or.inr ⟨failed, unchanged⟩

/-- The VMCS field that the guest's value of an MSR is loaded from. -/
def msrField (msr : U32) : Option VmcsField :=
  if msr = msrFsBase then some .guestFsBase
  else if msr = msrGsBase then some .guestGsBase
  else if msr = msrIa32Efer then some .guestEfer
  else if msr = msrIa32Pat then some .guestPat
  else if msr = msrIa32Debugctl then some .guestDebugctl
  else if msr = msrIa32SysenterCs then some .guestSysenterCs
  else if msr = msrIa32SysenterEsp then some .guestSysenterEsp
  else if msr = msrIa32SysenterEip then some .guestSysenterEip
  else if msr = msrIa32SCet then some .guestSCet
  else if msr = msrIa32InterruptSspTable then some .guestIntrSspTable
  else if msr = msrIa32Pl0Ssp then some .guestSsp
  else none

/-- The copies behind a write that was carried out: the MSR reads back, every
other one reads as before, the value is one the guest-state check takes, and a
context that passed that check still does. -/
structure Stored (m : Machine) (c : GuestContext) (msr : U32) (value : U64)
    (now : GuestContext) : Prop where
  same : guestMsrValue m now msr = some value
  frame : ∀ other, other ≠ msr → guestMsrValue m now other = guestMsrValue m c other
  valid : MsrValueValid m c msr value
  ring : isUserMode now = isUserMode c
  core : CoreStateValid m c → CoreStateValid m now
  msrs : MsrStateValid m c → MsrStateValid m now

section Rows

variable {m : Machine} {c : GuestContext} {value : U64}

theorem stored_fsBase (valid : isCanonical m value = true) :
    Stored m c msrFsBase value { c with guestFsBase := value } where
  same := rfl
  frame := fun other apart => by simp [guestMsrValue, apart]
  valid := valid
  ring := rfl
  core := fun core => { core with }
  msrs := fun msrs => { msrs with fsBase := valid }

theorem stored_gsBase (valid : isCanonical m value = true) :
    Stored m c msrGsBase value { c with guestGsBase := value } where
  same := rfl
  frame := fun other apart => by simp [guestMsrValue, apart]
  valid := valid
  ring := rfl
  core := fun core => { core with }
  msrs := fun msrs => { msrs with gsBase := valid }

theorem stored_kernelGsBase (valid : isCanonical m value = true) :
    Stored m c msrIa32KernelGsBase value { c with guestKernelGsBase := value } where
  same := rfl
  frame := fun other apart => by simp [guestMsrValue, apart]
  valid := valid
  ring := rfl
  core := fun core => { core with }
  msrs := fun msrs => { msrs with kernelGsBase := valid }

theorem stored_efer (valid : isEferWriteValid m c.guestEfer value = true) :
    Stored m c msrIa32Efer value { c with guestEfer := value } := by
  simp only [isEferWriteValid, Bool.and_eq_true, decide_eq_true_eq] at valid
  have reserved : value &&& ~~~kGuestEferBits = c.guestEfer &&& ~~~kGuestEferBits :=
    Masks.agree_of_xor valid.1.1 (by decide)
  have mode : value &&& (eferLme ||| eferLma) = c.guestEfer &&& (eferLme ||| eferLma) :=
    Masks.agree_of_xor valid.1.1 (by decide)
  exact
    { same := rfl
      frame := fun other apart => by simp [guestMsrValue, apart]
      valid := ⟨reserved, mode⟩
      ring := rfl
      core := fun core => { core with }
      msrs := fun msrs => { msrs with
        eferBits := reserved.trans msrs.eferBits
        longMode := mode.trans msrs.longMode } }

theorem stored_pat (valid : isValidPatValue value = true) :
    Stored m c msrIa32Pat value { c with guestPat := value } where
  same := rfl
  frame := fun other apart => by simp [guestMsrValue, apart]
  valid := valid
  ring := rfl
  core := fun core => { core with }
  msrs := fun msrs => { msrs with pat := valid }

theorem stored_debugctl (valid : isValidDebugctl m value = true) :
    Stored m c msrIa32Debugctl value { c with guestDebugctl := value } where
  same := rfl
  frame := fun other apart => by simp [guestMsrValue, apart]
  valid := valid
  ring := rfl
  core := fun core => { core with }
  msrs := fun msrs => { msrs with debugctl := valid }

theorem stored_sysenterCs (valid : value &&& ~~~0xFFFF = 0) :
    Stored m c msrIa32SysenterCs value { c with guestSysenterCs := value } := by
  have short : value ≤ 0xFFFF := by
    rw [← Masks.and_eq_self valid, BitVec.le_def, BitVec.toNat_and]
    exact Nat.and_le_right
  exact
    { same := rfl
      frame := fun other apart => by simp [guestMsrValue, apart]
      valid := short
      ring := rfl
      core := fun core => { core with }
      msrs := fun msrs => { msrs with sysenterCs := short } }

theorem stored_sysenterEsp (valid : isCanonical m value = true) :
    Stored m c msrIa32SysenterEsp value { c with guestSysenterEsp := value } where
  same := rfl
  frame := fun other apart => by simp [guestMsrValue, apart]
  valid := valid
  ring := rfl
  core := fun core => { core with }
  msrs := fun msrs => { msrs with sysenterEsp := valid }

theorem stored_sysenterEip (valid : isCanonical m value = true) :
    Stored m c msrIa32SysenterEip value { c with guestSysenterEip := value } where
  same := rfl
  frame := fun other apart => by simp [guestMsrValue, apart]
  valid := valid
  ring := rfl
  core := fun core => { core with }
  msrs := fun msrs => { msrs with sysenterEip := valid }

theorem stored_xss (valid : isXssAccepted m value = true)
    (contract : m.xsavesEnabled = true → m.xstateMode ≠ .fxsave) :
    Stored m c msrIa32Xss value { c with guestXss := value } := by
  have inside : if m.xsavesEnabled then value &&& ~~~m.xsavesMask = 0 else value = 0 := by
    by_cases enabled : m.xsavesEnabled = true
    · simp only [isXssAccepted, enabled, if_true, isXssWriteInside, Bool.and_eq_true,
        decide_eq_true_eq] at valid ⊢
      exact valid.1.2
    · simpa [isXssAccepted, enabled] using valid
  have answer : guestMsrValue m { c with guestXss := value } msrIa32Xss =
      if m.xsavesEnabled then some value else some 0 := rfl
  have layout (old : isXstateContractValid m c = true) :
      isXstateContractValid m { c with guestXss := value } = true := by
    by_cases enabled : m.xsavesEnabled = true
    · rw [if_pos enabled] at inside
      simp only [isXstateContractValid, contract enabled, if_false, enabled, if_true,
        Bool.and_eq_true, decide_eq_true_eq] at old ⊢
      exact ⟨old.1, inside⟩
    · rw [if_neg enabled] at inside
      simp only [isXstateContractValid, enabled, inside] at old ⊢
      by_cases legacy : m.xstateMode = .fxsave
      · simp [legacy] at old ⊢
        exact old.1
      · simp [legacy] at old ⊢
        exact old.1
  exact
    { same := by
        rw [answer]
        by_cases enabled : m.xsavesEnabled = true
        · exact if_pos enabled
        · rw [if_neg enabled] at inside ⊢
          rw [inside]
      frame := fun other apart => by simp [guestMsrValue, apart]
      valid := inside
      ring := rfl
      core := fun core => { core with }
      msrs := fun msrs => { msrs with xstate := layout msrs.xstate } }

section

variable (enabled : m.cetVmcsEnabled = true)

include enabled

theorem stored_sCet : Stored m c msrIa32SCet value { c with guestSCet := value } where
  same := by
    simp [guestMsrValue, enabled]
    rfl
  frame := fun other apart => by simp [guestMsrValue, apart]
  valid := trivial
  ring := rfl
  core := fun core => { core with }
  msrs := fun msrs => { msrs with }

theorem stored_interruptSspTable :
    Stored m c msrIa32InterruptSspTable value { c with guestInterruptSspTable := value } where
  same := by
    simp [guestMsrValue, enabled]
    rfl
  frame := fun other apart => by simp [guestMsrValue, apart]
  valid := trivial
  ring := rfl
  core := fun core => { core with }
  msrs := fun msrs => { msrs with }

theorem stored_pl0Ssp : Stored m c msrIa32Pl0Ssp value { c with guestSsp := value } where
  same := by
    simp [guestMsrValue, enabled]
    rfl
  frame := fun other apart => by simp [guestMsrValue, apart]
  valid := trivial
  ring := rfl
  core := fun core => { core with }
  msrs := fun msrs => { msrs with }

/-- The shadow stacks of rings 1 and 2 are always zero. -/
theorem stored_plSsp {msr : U32} (row : msr = msrIa32Pl1Ssp ∨ msr = msrIa32Pl2Ssp) :
    Stored m c msr 0 c where
  same := by
    simp only [guestMsrValue, enabled]
    rcases row with rfl | rfl
    · rfl
    · rfl
  frame := fun _ _ => rfl
  valid := by
    rcases row with rfl | rfl
    · exact trivial
    · exact trivial
  ring := rfl
  core := id
  msrs := id

end

end Rows

/-- How a WRMSR ends: the value is stored, in the copy and in the field of the
MSR, or the guest is left as it was. -/
def MsrOutcome (m : Machine) (before : ExitState) (msr : U32) (value : U64)
    (result : Bool × ExitState) : Prop :=
  (result.1 = true ∧ Stored m before.ctx msr value result.2.ctx ∧
      ∀ field, result.2.vmcs field = if msrField msr = some field then value else before.vmcs field) ∨
    (result.1 = false ∧ Unchanged before result.2)

section

variable {m : Machine} {s : ExitState}

theorem refuse_msrOutcome (msr : U32) (value : U64) : MsrOutcome m s msr value (refuse m s) :=
  Or.inr (refuse_unchanged m s s (Unchanged.refl s))

theorem msrOutcome_ite {msr : U32} {value : U64} {row : Prop} [Decidable row]
    {here later : StateM ExitState Bool} (hit : row → MsrOutcome m s msr value (here s))
    (miss : MsrOutcome m s msr value (later s)) :
    MsrOutcome m s msr value ((if row then here else later) s) := by
  by_cases same : row
  · rw [if_pos same]
    exact hit same
  · rw [if_neg same]
    exact miss

/-- One row of the table. -/
theorem writeGuestMsr_msrOutcome {msr : U32} {value : U64} {valid : Bool}
    {field : Option VmcsField} {store : GuestContext → GuestContext}
    (stored : valid = true → Stored m s.ctx msr value (store s.ctx)) (place : msrField msr = field) :
    MsrOutcome m s msr value (writeGuestMsr m valid field value store s) := by
  rcases run : writeGuestMsr m valid field value store s with ⟨done, now⟩
  rcases spec_run (writeGuestMsr_outcome m valid field value store s) rfl run with
    ⟨done, written⟩ | refused
  · refine Or.inl ⟨done, ?_, fun other => ?_⟩
    · rw [written.ctx]
      exact stored written.valid
    · rw [place]
      exact written.vmcs other
  · exact Or.inr refused

theorem handleXssWrite_msrOutcome {value : U64}
    (contract : m.xsavesEnabled = true → m.xstateMode ≠ .fxsave) :
    MsrOutcome m s msrIa32Xss value (handleXssWrite m value s) := by
  rcases run : handleXssWrite m value s with ⟨done, now⟩
  rcases spec_run (handleXssWrite_outcome m value s) rfl run with ⟨done, written⟩ | refused
  · refine Or.inl ⟨done, ?_, written.vmcs⟩
    rw [written.ctx]
    exact stored_xss written.valid contract
  · exact Or.inr refused

/-- WRMSR at CPL 0, row by row. -/
theorem handleMsrWrite_outcome (kernel : isUserMode s.ctx = false)
    (contract : m.xsavesEnabled = true → m.xstateMode ≠ .fxsave) :
    MsrOutcome m s (s.ctx.rcx.setWidth 32) (requestedValue s.ctx) (handleMsrWrite m s) := by
  simp only [handleMsrWrite, bind, StateT.bind, get, getThe, MonadStateOf.get, StateT.get, pure,
    kernel, Bool.false_eq_true, if_false]
  rw [← requestedValue]
  generalize requestedValue s.ctx = value
  generalize s.ctx.rcx.setWidth 32 = msr
  refine msrOutcome_ite (fun fsBase => ?_) ?_
  · subst fsBase
    exact writeGuestMsr_msrOutcome stored_fsBase rfl
  refine msrOutcome_ite (fun gsBase => ?_) ?_
  · subst gsBase
    exact writeGuestMsr_msrOutcome stored_gsBase rfl
  refine msrOutcome_ite (fun kernelGsBase => ?_) ?_
  · subst kernelGsBase
    exact writeGuestMsr_msrOutcome stored_kernelGsBase rfl
  refine msrOutcome_ite (fun efer => ?_) ?_
  · subst efer
    exact writeGuestMsr_msrOutcome stored_efer rfl
  refine msrOutcome_ite (fun pat => ?_) ?_
  · subst pat
    exact writeGuestMsr_msrOutcome stored_pat rfl
  refine msrOutcome_ite (fun debugctl => ?_) ?_
  · subst debugctl
    exact writeGuestMsr_msrOutcome stored_debugctl rfl
  refine msrOutcome_ite (fun sysenterCs => ?_) ?_
  · subst sysenterCs
    refine writeGuestMsr_msrOutcome (fun valid => ?_) rfl
    exact stored_sysenterCs (of_decide_eq_true valid)
  refine msrOutcome_ite (fun sysenterEsp => ?_) ?_
  · subst sysenterEsp
    exact writeGuestMsr_msrOutcome stored_sysenterEsp rfl
  refine msrOutcome_ite (fun sysenterEip => ?_) ?_
  · subst sysenterEip
    exact writeGuestMsr_msrOutcome stored_sysenterEip rfl
  refine msrOutcome_ite (fun xss => ?_) ?_
  · subst xss
    exact handleXssWrite_msrOutcome contract
  refine msrOutcome_ite (fun _ => ?_) ?_
  · exact refuse_msrOutcome msr value
  refine msrOutcome_ite (fun sCet => ?_) ?_
  · simp only [Bool.and_eq_true, decide_eq_true_eq] at sCet
    obtain ⟨enabled, rfl⟩ := sCet
    exact writeGuestMsr_msrOutcome (fun _ => stored_sCet enabled) rfl
  refine msrOutcome_ite (fun interruptSspTable => ?_) ?_
  · simp only [Bool.and_eq_true, decide_eq_true_eq] at interruptSspTable
    obtain ⟨enabled, rfl⟩ := interruptSspTable
    exact writeGuestMsr_msrOutcome (fun _ => stored_interruptSspTable enabled) rfl
  refine msrOutcome_ite (fun pl0Ssp => ?_) ?_
  · simp only [Bool.and_eq_true, decide_eq_true_eq] at pl0Ssp
    obtain ⟨enabled, rfl⟩ := pl0Ssp
    exact writeGuestMsr_msrOutcome (fun _ => stored_pl0Ssp enabled) rfl
  refine msrOutcome_ite (fun plSsp => ?_) ?_
  · simp only [Bool.and_eq_true, Bool.or_eq_true, decide_eq_true_eq] at plSsp
    obtain ⟨enabled, row⟩ := plSsp
    refine writeGuestMsr_msrOutcome (fun zero => ?_) ?_
    · rw [of_decide_eq_true zero]
      exact stored_plSsp enabled row
    · rcases row with rfl | rfl
      · rfl
      · rfl
  refine msrOutcome_ite (fun _ => refuse_msrOutcome msr value) ?_
  refine msrOutcome_ite (fun _ => refuse_msrOutcome msr value) ?_
  exact refuse_msrOutcome msr value

end

/-- IA32_XSS is virtualised with the XSAVES frame only. -/
theorem carrying_xsaves {load m : Machine} {g : FeatureContract} (framed : Framed load g) :
    (m.carrying g).xsavesEnabled = true → (m.carrying g).xstateMode ≠ .fxsave := by
  intro enabled legacy
  have layout := framed.layout
  have mode : g.xstateMode = .fxsave := legacy
  have chosen : g.xsavesEnabled = true := enabled
  simp only [Layout, mode, chosen] at layout
  exact absurd layout.1 (by decide)

/-- WRMSR of the guest under a contract that the load has accepted. A write that
is carried out reads back, through RDMSR and in the VMCS, changes the answer for
no other MSR, and keeps the guest acceptable to the native teardown; one that is
not carried out leaves the guest as it was. -/
theorem handleMsrWrite_round_trip {load : Machine} {currentCr4 : U64} {before g : FeatureContract}
    (fresh : IsFresh load before)
    (accepted : initializeVmxFeatureContract load currentCr4 before = (true, g)) (m : Machine)
    (s : ExitState) (kernel : isUserMode s.ctx = false) :
    let (done, now) := handleMsrWrite (m.carrying g) s
    let msr : U32 := s.ctx.rcx.setWidth 32
    let value := requestedValue s.ctx
    (done = true →
      rdmsrAnswer (m.carrying g) now msr = some value ∧
        (∀ other, other ≠ msr →
          rdmsrAnswer (m.carrying g) now other = rdmsrAnswer (m.carrying g) s other) ∧
        (∀ field, now.vmcs field = if msrField msr = some field then value else s.vmcs field) ∧
        MsrValueValid (m.carrying g) s.ctx msr value ∧
        (isValidGuestState (m.carrying g) s.ctx = true →
          isValidGuestState (m.carrying g) now.ctx = true)) ∧
      (done = false → Unchanged s now) := by
  have contract := carrying_xsaves (m := m) (initializeVmxFeatureContract_framed load fresh accepted)
  have outcome := handleMsrWrite_outcome kernel contract
  rcases run : handleMsrWrite (m.carrying g) s with ⟨done, now⟩
  rw [run] at outcome
  rcases outcome with ⟨rfl, stored, vmcs⟩ | ⟨rfl, unchanged⟩
  · refine ⟨fun _ => ⟨?_, fun other apart => ?_, vmcs, stored.valid, fun valid => ?_⟩, nofun⟩
    · rw [rdmsrAnswer_eq (stored.ring.trans kernel)]
      exact stored.same
    · rw [rdmsrAnswer_eq (stored.ring.trans kernel), rdmsrAnswer_eq kernel]
      exact stored.frame other apart
    · obtain ⟨core, msrs⟩ := isValidGuestState_iff.mp valid
      exact isValidGuestState_iff.mpr ⟨stored.core core, stored.msrs msrs⟩
  · exact ⟨nofun, fun _ => unchanged⟩

/-- The guest deselects CET in IA32_XSS. -/
theorem handleMsrWrite_round_trip_deselect :
    deselectCet.1 = true ∧
      rdmsrAnswer (xsavesMachine.carrying xsavesContract) deselectCet.2 msrIa32Xss = some 0 := by
  have sampled : initializeVmxFeatureContract xsavesMachine cr4Osxsave (clearedContract false 0) =
      (true, xsavesContract) := Prod.ext (by decide +kernel) rfl
  have done : deselectCet.1 = true := by decide +kernel
  have written := handleMsrWrite_round_trip (Or.inl rfl) sampled xsavesMachine
    (xstateExit ia32XssCetU 0 (msrIa32Xss.setWidth 64)) rfl
  exact ⟨done, (written.1 done).1⟩

end Knhv.Vmx
