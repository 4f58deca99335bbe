import Mathlib
import Knhv.Vmx.Refusal
import Knhv.Vmx.Handler

open Std.Do

set_option mvcgen.warning false

namespace Knhv.Vmx

def kCr0WriteProtect : U64 := bit 16

/-- The control registers that a VM entry checks against each other. -/
structure ControlRegisters where
  cr0 : U64
  cr3 : U64
  cr4 : U64

def GuestContext.controls (c : GuestContext) : ControlRegisters := ⟨c.guestCr0, c.guestCr3, c.guestCr4⟩

def vmcsControls (vmcs : VmcsField → U64) : ControlRegisters :=
  ⟨vmcs .guestCr0, vmcs .guestCr3, vmcs .guestCr4⟩

/-- What the launch has established of the guest's control registers. -/
structure CrContract (m : Machine) (regs : ControlRegisters) : Prop where
  cr0Fixed : isFixedCrValueValid m regs.cr0 msrIa32VmxCr0Fixed0 msrIa32VmxCr0Fixed1 = true
  cr4Fixed : isFixedCrValueValid m regs.cr4 msrIa32VmxCr4Fixed0 msrIa32VmxCr4Fixed1 = true
  paging : regs.cr0 &&& kRequiredCr0Bits = kRequiredCr0Bits
  pae : regs.cr4 &&& kRequiredCr4Bits = kRequiredCr4Bits
  writeProtect : regs.cr4 &&& cr4Cet ≠ 0 → regs.cr0 &&& kCr0WriteProtect ≠ 0
  cr3 : isValidArchitecturalCr3 m regs.cr3 regs.cr4 = true

/-- The exit qualification of the access. -/
def crQualification (s : ExitState) : U64 := s.vmcs .exitQualification

/-- The register that MOV to CR writes. -/
def movTarget (s : ExitState) : Option Nat :=
  if ((crQualification s >>> 4) &&& 3).toNat = 0 then some (crQualification s &&& 0xF).toNat
  else none

def movOperand (s : ExitState) : U64 :=
  getGpr s.ctx ((crQualification s >>> 8) &&& 0xF).toNat

def isCr4MoveValid (m : Machine) (s : ExitState) (value : U64) : Bool :=
  isCr4WriteValid m s.ctx s.vcpu.host.xcr0 value &&
    isValidArchitecturalCr3 m (s.vmcs .guestCr3) (value ||| cr4Vmxe)

/-- What an access to a control register that is carried out makes of the
registers. -/
inductive CrUpdate (m : Machine) (s : ExitState) : (ControlRegisters → ControlRegisters) → Prop
  | cr0 (target : movTarget s = some 0) (valid : isCr0WriteValid m s.ctx (movOperand s) = true) :
      CrUpdate m s fun regs => { regs with cr0 := movOperand s }
  | cr4 (target : movTarget s = some 4) (valid : isCr4MoveValid m s (movOperand s) = true) :
      CrUpdate m s fun regs => { regs with cr4 := movOperand s ||| cr4Vmxe }
  | cr3 (target : movTarget s = some 3)
      (valid : isValidCr3 m (movOperand s) (s.vmcs .guestCr4) = true) :
      CrUpdate m s fun regs => { regs with cr3 := normalizeCr3 (movOperand s) (s.vmcs .guestCr4) }
  | read (target : movTarget s = none) : CrUpdate m s id

/-- The MOV breaks the coupling of CR4.CET and CR0.WP and passes every check
that the handler makes. -/
def DropsWriteProtect (m : Machine) (s : ExitState) : Prop :=
  isUserMode s.ctx = false ∧
    ((movTarget s = some 0 ∧ isCr0WriteValid m s.ctx (movOperand s) = true ∧
        s.ctx.guestCr4 &&& cr4Cet ≠ 0 ∧ movOperand s &&& kCr0WriteProtect = 0) ∨
      (movTarget s = some 4 ∧ isCr4MoveValid m s (movOperand s) = true ∧
        movOperand s &&& cr4Cet ≠ 0 ∧ s.ctx.guestCr0 &&& kCr0WriteProtect = 0))

/-- An accepted access leaves the contract and the two copies in step; one that
is not accepted changes no control register. -/
def CrKept (m : Machine) (s : ExitState) : Prop :=
  let (done, now) := handleCrAccess m s
  (done = true → CrContract m now.ctx.controls ∧ vmcsControls now.vmcs = now.ctx.controls) ∧
    (done = false → now.ctx.controls = s.ctx.controls ∧
      (now.ctx.haltVm = false → vmcsControls now.vmcs = vmcsControls s.vmcs))

section Cr3

variable {m : Machine} {value cr4 : U64}

theorem physicalBits_le : physicalBits m ≤ 52 := by
  simp only [physicalBits]
  split
  · next bounds =>
    simp only [Bool.and_eq_true, decide_eq_true_eq] at bounds
    omega
  · omega

/-- No base of a page table reaches bit 63. -/
theorem baseMask_noFlush : (bit (physicalBits m) - 1 &&& ~~~0xFFF) &&& bit 63 = (0 : U64) := by
  have low : ∀ bits ≤ 52, (bit bits - 1 &&& ~~~0xFFF) &&& bit 63 = (0 : U64) := by decide
  exact low _ physicalBits_le

/-- CR3 is stored without the no-flush bit, which only PCID gives a meaning. -/
theorem isValidArchitecturalCr3_normalizeCr3 (valid : isValidCr3 m value cr4 = true) :
    isValidArchitecturalCr3 m (normalizeCr3 value cr4) cr4 = true := by
  have apart := baseMask_noFlush (m := m)
  rw [isValidArchitecturalCr3, normalizeCr3]
  simp only [isValidCr3, Bool.and_eq_true, decide_eq_true_eq] at valid ⊢
  generalize bit (physicalBits m) - 1 &&& ~~~0xFFF = base at valid apart ⊢
  obtain ⟨inside, based⟩ := valid
  by_cases pcide : cr4 &&& cr4Pcide ≠ 0
  · simp only [if_pos pcide] at inside ⊢
    refine ⟨?_, ?_, ?_⟩
    · rw [BitVec.and_assoc, BitVec.and_comm (~~~bit 63), BitVec.and_not_self]
      exact BitVec.and_zero
    · rw [BitVec.and_assoc, BitVec.and_comm (~~~bit 63), ← BitVec.and_assoc, inside]
      exact BitVec.zero_and
    · have kept : value &&& ~~~bit 63 &&& base = value &&& base := by
        have clear : base &&& ~~~(~~~bit 63) = 0 := by rwa [BitVec.not_not]
        rw [BitVec.and_assoc, BitVec.and_comm (~~~bit 63), Masks.and_eq_self clear]
      rwa [kept]
  · simp only [if_neg pcide] at inside ⊢
    have clear : (base ||| 24 ||| 0) &&& bit 63 = (0 : U64) := by
      rw [BitVec.and_or_distrib_right, BitVec.and_or_distrib_right, apart]
      rfl
    refine ⟨?_, inside, based⟩
    rw [← Masks.and_eq_self inside, BitVec.and_assoc, clear]
    exact BitVec.and_zero

end Cr3

/-- The guest and the VMCS are as they were. -/
structure Same (s now : ExitState) : Prop where
  ctx : now.ctx = s.ctx
  vcpu : now.vcpu = s.vcpu
  vmcs : now.vmcs = s.vmcs

/-- The access is not carried out. A vCPU that is parked over it may have one of
its fields written. -/
structure CrRefused (s : ExitState) (done : Bool) (now : ExitState) : Prop where
  done : done = false
  controls : now.ctx.controls = s.ctx.controls
  vmcs : now.ctx.haltVm = false → vmcsControls now.vmcs = vmcsControls s.vmcs

/-- The access is carried out, on both copies alike. -/
structure CrDone (s : ExitState) (update : ControlRegisters → ControlRegisters) (done : Bool)
    (now : ExitState) : Prop where
  done : done = true
  controls : now.ctx.controls = update s.ctx.controls
  vmcs : vmcsControls now.vmcs = update (vmcsControls s.vmcs)

theorem Unchanged.controls {s now : ExitState} (unchanged : Unchanged s now) :
    now.ctx.controls = s.ctx.controls ∧ vmcsControls now.vmcs = vmcsControls s.vmcs := by
  constructor
  · rw [unchanged.ctx]
    rfl
  · simp only [vmcsControls, unchanged.vmcs .guestCr0 (by decide),
      unchanged.vmcs .guestCr3 (by decide), unchanged.vmcs .guestCr4 (by decide)]

theorem Same.unchanged {s now : ExitState} (same : Same s now) : Unchanged s now where
  ctx := by rw [same.ctx]
  vmcs := fun field _ => congrFun same.vmcs field

theorem Unchanged.refused {s now : ExitState} (unchanged : Unchanged s now) :
    CrRefused s false now :=
  ⟨rfl, unchanged.controls.1, fun _ => unchanged.controls.2⟩

def storeAll (writes : List (VmcsField × U64)) (vmcs : VmcsField → U64) : VmcsField → U64 :=
  writes.foldl (fun vmcs write => Function.update vmcs write.1 write.2) vmcs

section

variable (m : Machine) (s : ExitState)

theorem vmReadChecked_same (field : VmcsField) :
    ⦃fun now => ⌜Same s now⌝⦄ vmReadChecked m field
    ⦃⇓ value now => ⌜Unchanged s now ∧
      ∀ v, value = some v → v = s.vmcs field ∧ Same s now⌝⦄ := by
  refine spec_intro fun start same => ?_
  have unchanged := vmReadChecked_unchanged m s field start same.unchanged
  refine ⟨unchanged, fun v answer => ?_⟩
  by_cases ok : NextOk m start
  · rw [vmReadChecked_succeeded m ok field] at answer ⊢
    have contents : v = start.vmcs field := (Option.some.inj answer).symm
    exact ⟨contents.trans (congrFun same.vmcs field), same.ctx, same.vcpu, same.vmcs⟩
  · rw [vmReadChecked_failed m ok field] at answer
    cases answer

theorem writeAll_stores (writes : List (VmcsField × U64)) (before : ExitState) :
    ⦃fun now => ⌜now = before⌝⦄ writeAll m writes
    ⦃⇓ ok now => ⌜now.ctx = before.ctx ∧
      (ok = true → now.vmcs = storeAll writes before.vmcs)⌝⦄ := by
  induction writes generalizing before with
  | nil =>
    refine spec_intro fun now same => ?_
    subst same
    exact ⟨rfl, fun _ => rfl⟩
  | cons write rest ih =>
    refine spec_intro fun start same => ?_
    subst same
    rcases first : vmWriteChecked m write.1 write.2 start with ⟨ok, middle⟩
    rcases spec_run (vmWriteChecked_stores m write.1 write.2 start) rfl first with
      ⟨rfl, ctx, -, vmcs⟩ | ⟨rfl, touched⟩
    · have run : writeAll m (write :: rest) start = writeAll m rest middle := by
        simp only [writeAll, bind, StateT.bind, first, if_true]
      rw [run]
      obtain ⟨laterCtx, laterVmcs⟩ := ih middle middle rfl
      refine ⟨laterCtx.trans ctx, fun ok => ?_⟩
      rw [laterVmcs ok, vmcs]
      rfl
    · have run : writeAll m (write :: rest) start = (false, middle) := by
        simp only [writeAll, bind, StateT.bind, first]
        rfl
      rw [run]
      exact ⟨touched.ctx, fun impossible => absurd impossible Bool.false_ne_true⟩

theorem commit_outcome (writes : List (VmcsField × U64)) (store : GuestContext → GuestContext) :
    ⦃fun now => ⌜Same s now⌝⦄ commit m writes store
    ⦃⇓ done now => ⌜(done = true ∧ now.ctx = store s.ctx ∧ now.vmcs = storeAll writes s.vmcs) ∨
      CrRefused s done now⌝⦄ := by
  have write := writeAll_stores m writes
  mvcgen [commit, write, giveUp, haltVm, modifyCtx]
  case vc1.post.success.isTrue same _ _ _ written _ =>
    have controls := congrArg GuestContext.controls (written.1.trans same.ctx)
    exact Or.inr ⟨rfl, controls, fun running => absurd running.symm Bool.false_ne_true⟩
  case vc2.post.success.isFalse same ok passed _ written _ =>
    have done : ok = true := by simpa using passed
    refine Or.inl ⟨trivial, congrArg store (written.1.trans same.ctx), ?_⟩
    exact (written.2 done).trans (congrArg _ same.vmcs)

theorem refuse_refused :
    ⦃fun now => ⌜Same s now⌝⦄ refuse m ⦃⇓ done now => ⌜CrRefused s done now⌝⦄ := by
  refine spec_intro fun start same => ?_
  obtain ⟨failed, unchanged⟩ := refuse_unchanged m s start same.unchanged
  exact ⟨failed, unchanged.controls.1, fun _ => unchanged.controls.2⟩

theorem refuseUndefined_refused :
    ⦃fun now => ⌜Same s now⌝⦄ refuseUndefined m ⦃⇓ done now => ⌜CrRefused s done now⌝⦄ := by
  refine spec_intro fun start same => ?_
  obtain ⟨failed, unchanged⟩ := refuseUndefined_unchanged m s start same.unchanged
  exact ⟨failed, unchanged.controls.1, fun _ => unchanged.controls.2⟩

theorem giveUp_refused :
    ⦃fun now => ⌜Unchanged s now⌝⦄ giveUp ⦃⇓ done now => ⌜CrRefused s done now⌝⦄ := by
  refine spec_intro fun start same => ?_
  obtain ⟨failed, unchanged⟩ := giveUp_unchanged s start same
  exact ⟨failed, unchanged.controls.1, fun _ => unchanged.controls.2⟩

theorem movToCr0_outcome (value : U64) :
    ⦃fun now => ⌜Same s now⌝⦄ movToCr0 m value
    ⦃⇓ done now => ⌜(isCr0WriteValid m s.ctx value = true ∧
        CrDone s (fun regs => { regs with cr0 := value }) done now) ∨ CrRefused s done now⌝⦄ := by
  have inject := refuse_refused m s
  have done := commit_outcome m s
  mvcgen [movToCr0, inject, done]
  case vc2.isTrue.post.success => exact Or.inr
  case vc4.isFalse.post.success same valid _ _ =>
    have passed : isCr0WriteValid m s.ctx value = true := by simpa [same.ctx] using valid
    refine Or.imp (fun written => ⟨passed, written.1, ?_, ?_⟩) id
    · rw [written.2.1]
      rfl
    · rw [written.2.2]
      rfl

theorem movToCr4_outcome (value : U64) :
    ⦃fun now => ⌜Same s now⌝⦄ movToCr4 m value
    ⦃⇓ done now => ⌜(isCr4MoveValid m s value = true ∧
        CrDone s (fun regs => { regs with cr4 := value ||| cr4Vmxe }) done now) ∨
      CrRefused s done now⌝⦄ := by
  have inject := refuse_refused m s
  have done := commit_outcome m s
  have halt := giveUp_refused s
  have read := vmReadChecked_same m s
  mvcgen [movToCr4, inject, done, halt, read]
  case vc2.isTrue.post.success => exact Or.inr
  case vc4.isFalse.post.success.h_1.pre answer => exact answer.1
  case vc5.isFalse.post.success.h_1.post.success => exact Or.inr
  case vc6.isFalse.post.success.h_2.isTrue.pre answer => exact (answer.2 _ rfl).2
  case vc7.isFalse.post.success.h_2.isTrue.post.success => exact Or.inr
  case vc8.isFalse.post.success.h_2.isFalse.pre answer => exact (answer.2 _ rfl).2
  case vc9.isFalse.post.success.h_2.isFalse.post.success same early _ _ _ _ late _ answer _ _ =>
    obtain ⟨rfl, -⟩ := answer.2 _ rfl
    have passed : isCr4MoveValid m s value = true := by
      rw [isCr4MoveValid, Bool.and_eq_true]
      exact ⟨by simpa [same.ctx, same.vcpu] using early, by simpa using late⟩
    refine Or.imp (fun written => ⟨passed, written.1, ?_, ?_⟩) id
    · rw [written.2.1]
      rfl
    · rw [written.2.2]
      rfl

theorem movToCr3_outcome (value : U64) :
    ⦃fun now => ⌜Same s now⌝⦄ movToCr3 m value
    ⦃⇓ done now => ⌜(isValidCr3 m value (s.vmcs .guestCr4) = true ∧
        CrDone s (fun regs => { regs with cr3 := normalizeCr3 value (s.vmcs .guestCr4) }) done now) ∨
      CrRefused s done now⌝⦄ := by
  have inject := refuse_refused m s
  have done := commit_outcome m s
  have halt := giveUp_refused s
  have read := vmReadChecked_same m s
  mvcgen [movToCr3, inject, done, halt, read]
  case vc2.post.success.h_1.pre answer => exact answer.1
  case vc3.post.success.h_1.post.success => exact Or.inr
  case vc4.post.success.h_2.isTrue.pre answer => exact (answer.2 _ rfl).2
  case vc5.post.success.h_2.isTrue.post.success => exact Or.inr
  case vc6.post.success.h_2.isFalse.pre answer => exact (answer.2 _ rfl).2
  case vc7.post.success.h_2.isFalse.post.success valid _ _ answer _ _ =>
    obtain ⟨rfl, -⟩ := answer.2 _ rfl
    refine Or.imp (fun written => ⟨by simpa using valid, written.1, ?_, ?_⟩) id
    · rw [written.2.1]
      rfl
    · rw [written.2.2]
      rfl

/-- The register operand is no control register. -/
def ControlsSame (now : ExitState) : Prop :=
  now.ctx.controls = s.ctx.controls ∧ vmcsControls now.vmcs = vmcsControls s.vmcs

theorem ControlsSame.settled {s now : ExitState} (same : ControlsSame s now) (done : Bool) :
    CrDone s id done now ∨ CrRefused s done now := by
  cases done with
  | true => exact Or.inl ⟨rfl, same.1, same.2⟩
  | false => exact Or.inr ⟨rfl, same.1, fun _ => same.2⟩

theorem Same.controls {s now : ExitState} (same : Same s now) : ControlsSame s now :=
  ⟨congrArg GuestContext.controls same.ctx, congrArg vmcsControls same.vmcs⟩

theorem modifyCtx_controls (f : GuestContext → GuestContext)
    (steady : ∀ c, (f c).controls = c.controls) :
    ⦃fun now => ⌜ControlsSame s now⌝⦄ modifyCtx f ⦃⇓ _ now => ⌜ControlsSame s now⌝⦄ :=
  spec_intro fun now same => ⟨(steady now.ctx).trans same.1, same.2⟩

theorem writeRsp_controls (v : U64) :
    ⦃fun now => ⌜ControlsSame s now⌝⦄ vmWriteChecked m .guestRsp v
    ⦃⇓ _ now => ⌜ControlsSame s now⌝⦄ := by
  refine spec_intro fun start same => ?_
  rcases run : vmWriteChecked m .guestRsp v start with ⟨ok, now⟩
  have written := spec_run (vmWriteChecked_touched m (· = .guestRsp) start .guestRsp v rfl)
    (Touched.refl start) run
  refine ⟨(congrArg GuestContext.controls written.ctx).trans same.1, ?_⟩
  have controls : vmcsControls now.vmcs = vmcsControls start.vmcs := by
    simp only [vmcsControls, written.vmcs .guestCr0 (by decide),
      written.vmcs .guestCr3 (by decide), written.vmcs .guestCr4 (by decide)]
  exact controls.trans same.2

theorem setGpr_controls (reg : Nat) (v : U64) :
    ⦃fun now => ⌜ControlsSame s now⌝⦄ setGpr m reg v ⦃⇓ _ now => ⌜ControlsSame s now⌝⦄ := by
  have set := modifyCtx_controls s
  have write := writeRsp_controls m s
  mvcgen [setGpr, set, write]
  case vc1.steady => exact fun _ => rfl
  case vc4.steady =>
    intro c
    split <;> rfl

theorem storeGpr_outcome (gpr : Nat) (value : U64) :
    ⦃fun now => ⌜Same s now⌝⦄ storeGpr m gpr value
    ⦃⇓ done now => ⌜CrDone s id done now ∨ CrRefused s done now⌝⦄ := by
  have set := setGpr_controls m s
  have halt : ⦃fun now => ⌜ControlsSame s now⌝⦄ haltVm ⦃⇓ _ now => ⌜ControlsSame s now⌝⦄ :=
    modifyCtx_controls s _ fun _ => rfl
  mvcgen [storeGpr, set, halt]
  case vc1.pre same => exact same.controls
  case vc3.post.success.isTrue.post.success same => exact same.settled _
  case vc4.post.success.isFalse same => exact same.settled _

theorem readLocals_same (fields : List VmcsField) :
    ⦃fun now => ⌜Same s now⌝⦄ readLocals m fields
    ⦃⇓ values now => ⌜Unchanged s now ∧ (values.isSome = true → Same s now)⌝⦄ := by
  refine spec_intro fun start same => ?_
  have touched := readLocals_touched m (fun _ => False) start fields start (Touched.refl start)
  have unchanged : Unchanged start (readLocals m fields start).2 :=
    Touched.unchanged touched fun _ => False.elim
  refine ⟨same.unchanged.trans unchanged, fun answered => ?_⟩
  by_cases all : AllOk m fields.length start
  · obtain ⟨values, log, run, -⟩ := readLocals_succeeded m all
    rw [run]
    exact ⟨same.ctx, same.vcpu, same.vmcs⟩
  · rw [readLocals_failed m all] at answered
    cases answered

theorem movFromCr_outcome (field : VmcsField) (gpr : Nat) :
    ⦃fun now => ⌜Same s now⌝⦄ movFromCr m field gpr
    ⦃⇓ done now => ⌜CrDone s id done now ∨ CrRefused s done now⌝⦄ := by
  have halt := giveUp_refused s
  have read := vmReadChecked_same m s
  have store := storeGpr_outcome m s
  mvcgen [movFromCr, read, store, halt]
  case vc2.post.success.h_1.pre answer => exact answer.1
  case vc3.post.success.h_1.post.success => exact Or.inr
  case vc4.post.success.h_2 answer => exact (answer.2 _ rfl).2

theorem movFromCr4_outcome (gpr : Nat) :
    ⦃fun now => ⌜Same s now⌝⦄ movFromCr4 m gpr
    ⦃⇓ done now => ⌜CrDone s id done now ∨ CrRefused s done now⌝⦄ := by
  have halt := giveUp_refused s
  have read := readLocals_same m s
  have store := storeGpr_outcome m s
  mvcgen [movFromCr4, read, store, halt]
  case vc2.post.success.h_1.pre answer => exact answer.1
  case vc3.post.success.h_1.post.success => exact Or.inr
  case vc4.post.success.h_2 answer => exact answer.2 rfl

/-- An access is carried out on both copies, or it is not carried out. -/
def CrOutcome (done : Bool) (now : ExitState) : Prop :=
  (∃ update, CrUpdate m s update ∧ CrDone s update done now) ∨ CrRefused s done now

variable {s} in
theorem movTarget_eq {reg : Nat} (kind : ((crQualification s >>> 4) &&& 3).toNat = 0)
    (number : (crQualification s &&& 0xF).toNat = reg) : movTarget s = some reg := by
  rw [movTarget, if_pos kind, number]

variable {s} in
theorem movTarget_read (kind : ((crQualification s >>> 4) &&& 3).toNat = 1) :
    movTarget s = none := by
  rw [movTarget, if_neg (by omega)]

variable {s} in
theorem Same.operand {now : ExitState} (same : Same s now) :
    getGpr now.ctx ((crQualification s >>> 8) &&& 0xF).toNat = movOperand s := by
  rw [same.ctx]
  rfl

theorem accessCr_outcome :
    ⦃fun now => ⌜Same s now⌝⦄ accessCr m (crQualification s)
    ⦃⇓ done now => ⌜CrOutcome m s done now⌝⦄ := by
  have undefined := refuseUndefined_refused m s
  have toCr0 := movToCr0_outcome m s
  have toCr4 := movToCr4_outcome m s
  have toCr3 := movToCr3_outcome m s
  have fromCr := movFromCr_outcome m s
  have fromCr4 := movFromCr4_outcome m s
  mvcgen [accessCr, undefined, toCr0, toCr4, toCr3, fromCr, fromCr4]
  case vc2.h_1.post.success same value number kind _ _ =>
    refine Or.imp (fun written => ?_) id
    have operand : value = movOperand s := same.operand
    clear_value value
    subst operand
    exact ⟨_, CrUpdate.cr0 (movTarget_eq kind number) written.1, written.2⟩
  case vc4.h_2.post.success same value number kind _ _ =>
    refine Or.imp (fun written => ?_) id
    have operand : value = movOperand s := same.operand
    clear_value value
    subst operand
    exact ⟨_, CrUpdate.cr4 (movTarget_eq kind number) written.1, written.2⟩
  case vc6.h_3.post.success same value number kind _ _ =>
    refine Or.imp (fun written => ?_) id
    have operand : value = movOperand s := same.operand
    clear_value value
    subst operand
    exact ⟨_, CrUpdate.cr3 (movTarget_eq kind number) written.1, written.2⟩
  case vc8.h_4.post.success kind _ _ =>
    exact Or.imp (fun done => ⟨id, CrUpdate.read (movTarget_read kind), done⟩) id
  case vc10.h_5.post.success kind _ _ =>
    exact Or.imp (fun done => ⟨id, CrUpdate.read (movTarget_read kind), done⟩) id
  case vc12.h_6.post.success kind _ _ =>
    exact Or.imp (fun done => ⟨id, CrUpdate.read (movTarget_read kind), done⟩) id
  case vc14.h_7.post.success => exact Or.inr

theorem handleCrAccess_outcome :
    ⦃fun now => ⌜now = s⌝⦄ handleCrAccess m
    ⦃⇓ done now => ⌜(isUserMode s.ctx = false ∧ CrOutcome m s done now) ∨
      CrRefused s done now⌝⦄ := by
  have inject := refuse_refused m s
  have halt := giveUp_refused s
  have read := vmReadChecked_same m s
  have access := accessCr_outcome m s
  mvcgen [handleCrAccess, inject, halt, read, access]
  case vc1.isTrue.pre same _ => exact ⟨congrArg _ same, congrArg _ same, congrArg _ same⟩
  case vc2.isTrue.post.success => exact Or.inr
  case vc3.isFalse.pre same _ => exact ⟨congrArg _ same, congrArg _ same, congrArg _ same⟩
  case vc4.isFalse.post.success.h_1.pre answer => exact answer.1
  case vc5.isFalse.post.success.h_1.post.success => exact Or.inr
  case vc6.isFalse.post.success.h_2 start kernel _ _ _ =>
    intro now _ answer
    obtain ⟨rfl, same⟩ := answer _ rfl
    subst start
    exact Or.inl ⟨by simpa using kernel, access now same⟩

end

/-- Every VMCS access from here on succeeds. -/
structure AccessesSucceed (m : Machine) (s : ExitState) : Prop where
  latch : s.vcpu.vmcsWrite.failed = false
  flags : ∀ k, s.log.length ≤ k → vmxOk (m.vmxFlags k) = true

section

variable {m : Machine} {s : ExitState} (all : AccessesSucceed m s)

include all

theorem AccessesSucceed.read (field : VmcsField) :
    ∃ now, vmReadChecked m field s = (some (s.vmcs field), now) ∧ Same s now ∧
      AccessesSucceed m now := by
  have next : NextOk m s := all.flags _ le_rfl
  refine ⟨_, vmReadChecked_succeeded m next field, ⟨rfl, rfl, rfl⟩, all.latch, fun k later => ?_⟩
  refine all.flags k (Nat.le_trans ?_ later)
  simp only [List.length_append, List.length_singleton]
  omega

theorem AccessesSucceed.write (field : VmcsField) (value : U64) :
    ∃ now, vmWriteChecked m field value s = (true, now) ∧ AccessesSucceed m now := by
  have flags : vmxOk (m.vmxFlags s.log.length) = true := all.flags _ le_rfl
  refine ⟨s.accessed ⟨field, some value, m.vmxFlags s.log.length⟩, ?_, all.latch, fun k later => ?_⟩
  · simp only [vmWriteChecked, hvVmWrite, bind, StateT.bind, get, getThe, MonadStateOf.get,
      StateT.get, pure, all.latch, Bool.and_false, Bool.false_eq_true, if_false, flags, if_true]
    rfl
  · refine all.flags k (Nat.le_trans ?_ later)
    simp only [ExitState.accessed, List.length_append, List.length_singleton]
    omega

theorem AccessesSucceed.commit (writes : List (VmcsField × U64))
    (store : GuestContext → GuestContext) : (commit m writes store s).1 = true := by
  have written : (writeAll m writes s).1 = true := by
    induction writes generalizing s with
    | nil => rfl
    | cons write rest ih =>
      obtain ⟨now, run, later⟩ := all.write write.1 write.2
      simp only [writeAll, bind, StateT.bind, run, if_true]
      exact ih later
  rcases run : writeAll m writes s with ⟨ok, now⟩
  obtain rfl : ok = true := by rwa [run] at written
  simp only [Vmx.commit, bind, StateT.bind, run]
  rfl

/-- A MOV that passes the checks is carried out. -/
theorem AccessesSucceed.movToCr0 {value : U64} (valid : isCr0WriteValid m s.ctx value = true) :
    (movToCr0 m value s).1 = true := by
  simp only [Vmx.movToCr0, bind, StateT.bind, get, getThe, MonadStateOf.get, StateT.get, pure,
    valid, Bool.not_true, Bool.false_eq_true, if_false]
  exact all.commit _ _

theorem AccessesSucceed.movToCr4 {value : U64} (valid : isCr4MoveValid m s value = true) :
    (movToCr4 m value s).1 = true := by
  rw [isCr4MoveValid, Bool.and_eq_true] at valid
  obtain ⟨now, run, _, later⟩ := all.read .guestCr3
  simp only [Vmx.movToCr4, bind, StateT.bind, get, getThe, MonadStateOf.get, StateT.get, pure,
    valid.1, Bool.not_true, Bool.false_eq_true, if_false, run, valid.2]
  exact later.commit _ _

theorem AccessesSucceed.accepts (drops : DropsWriteProtect m s) :
    (handleCrAccess m s).1 = true := by
  obtain ⟨kernel, move⟩ := drops
  obtain ⟨now, run, same, later⟩ := all.read .exitQualification
  have begun : handleCrAccess m s = accessCr m (crQualification s) now := by
    simp only [handleCrAccess, bind, StateT.bind, get, getThe, MonadStateOf.get, StateT.get, pure,
      kernel, Bool.false_eq_true, if_false, run]
    rfl
  rw [begun]
  have operand := same.operand
  have decoded {reg : Nat} (target : movTarget s = some reg) :
      ((crQualification s >>> 4) &&& 3).toNat = 0 ∧ (crQualification s &&& 0xF).toNat = reg := by
    rw [movTarget] at target
    split at target
    · next kind => exact ⟨kind, Option.some.inj target⟩
    · cases target
  rcases move with ⟨target, valid, -⟩ | ⟨target, valid, -⟩
  · obtain ⟨kind, number⟩ := decoded target
    simp only [accessCr, bind, StateT.bind, get, getThe, MonadStateOf.get, StateT.get, pure, kind,
      number, operand]
    exact later.movToCr0 (by rwa [same.ctx])
  · obtain ⟨kind, number⟩ := decoded target
    simp only [accessCr, bind, StateT.bind, get, getThe, MonadStateOf.get, StateT.get, pure, kind,
      number, operand]
    refine later.movToCr4 ?_
    rwa [isCr4MoveValid, same.ctx, same.vcpu, same.vmcs]

end

section

variable {m : Machine} {s : ExitState} (contract : CrContract m s.ctx.controls)
  (synced : vmcsControls s.vmcs = s.ctx.controls)

include contract synced

theorem CrUpdate.keeps {update : ControlRegisters → ControlRegisters}
    (updated : CrUpdate m s update) (kernel : isUserMode s.ctx = false)
    (coupled : ¬DropsWriteProtect m s) : CrContract m (update s.ctx.controls) := by
  have cr3Same : s.vmcs .guestCr3 = s.ctx.guestCr3 := congrArg ControlRegisters.cr3 synced
  have cr4Same : s.vmcs .guestCr4 = s.ctx.guestCr4 := congrArg ControlRegisters.cr4 synced
  cases updated with
  | cr0 target valid =>
    have checks := valid
    simp only [isCr0WriteValid, Bool.and_eq_true, decide_eq_true_eq] at checks
    refine { contract with
      cr0Fixed := checks.1.1.1
      paging := checks.1.1.2
      writeProtect := fun cet clear => coupled ⟨kernel, Or.inl ⟨target, valid, cet, clear⟩⟩ }
  | cr4 target valid =>
    have checks := valid
    simp only [isCr4MoveValid, isCr4WriteValid, Bool.and_eq_true, decide_eq_true_eq] at checks
    obtain ⟨⟨⟨⟨-, fixed⟩, pae⟩, -⟩, cr3⟩ := checks
    have paeKept : (movOperand s ||| cr4Vmxe) &&& kRequiredCr4Bits = kRequiredCr4Bits := by
      have inside : kRequiredCr4Bits &&& ~~~movOperand s = 0 :=
        @Masks.twoPow_inside 64 (movOperand s) 5 pae
      have present := Masks.and_eq_self inside
      rw [BitVec.and_comm] at present
      rw [BitVec.and_or_distrib_right, present]
      rfl
    refine
      { contract with
        cr4Fixed := fixed
        pae := paeKept
        writeProtect := fun cet clear => ?_
        cr3 := by rwa [cr3Same] at cr3 }
    have kept : movOperand s &&& cr4Cet ≠ 0 := by
      intro off
      refine cet ?_
      rw [BitVec.and_or_distrib_right, off]
      rfl
    exact coupled ⟨kernel, Or.inr ⟨target, valid, kept, clear⟩⟩
  | cr3 target valid =>
    refine { contract with cr3 := ?_ }
    rw [cr4Same] at valid ⊢
    exact isValidArchitecturalCr3_normalizeCr3 valid
  | read => exact contract

/-- The contract of the control registers survives every access, unless a MOV
that the handler takes clears CR0.WP under CR4.CET or sets CR4.CET without
CR0.WP. -/
theorem handleCrAccess_contract_iff (all : AccessesSucceed m s) :
    CrKept m s ↔ ¬DropsWriteProtect m s := by
  rcases run : handleCrAccess m s with ⟨done, now⟩
  have outcome := spec_run (handleCrAccess_outcome m s) rfl run
  rw [CrKept, run]
  constructor
  · rintro ⟨accepted, -⟩ drops
    have taken := all.accepts drops
    rw [run] at taken
    obtain rfl : done = true := taken
    have kept := (accepted rfl).1
    rcases outcome with ⟨-, ⟨update, updated, written⟩ | refused⟩ | refused
    · rw [written.controls] at kept
      rcases drops with ⟨-, ⟨target, -, cet, clear⟩ | ⟨target, -, cet, clear⟩⟩
      · cases updated with
        | cr0 => exact kept.writeProtect cet clear
        | cr4 other => exact absurd (target.symm.trans other) (by decide)
        | cr3 other => exact absurd (target.symm.trans other) (by decide)
        | read other => exact absurd (target.symm.trans other) (by decide)
      · cases updated with
        | cr0 other => exact absurd (target.symm.trans other) (by decide)
        | cr4 =>
          refine kept.writeProtect (fun off => cet ?_) clear
          have split : (movOperand s &&& cr4Cet ||| cr4Vmxe &&& cr4Cet) = 0 := by
            rw [← BitVec.and_or_distrib_right]
            exact off
          exact (BitVec.or_eq_zero_iff.mp split).1
        | cr3 other => exact absurd (target.symm.trans other) (by decide)
        | read other => exact absurd (target.symm.trans other) (by decide)
    · exact absurd refused.done (by decide)
    · exact absurd refused.done (by decide)
  · intro coupled
    rcases outcome with ⟨kernel, ⟨update, updated, written⟩ | refused⟩ | refused
    · obtain rfl := written.done
      refine ⟨fun _ => ⟨?_, ?_⟩, nofun⟩
      · rw [written.controls]
        exact updated.keeps contract synced kernel coupled
      · rw [written.vmcs, written.controls, synced]
    · obtain rfl := refused.done
      exact ⟨nofun, fun _ => ⟨refused.controls, refused.vmcs⟩⟩
    · obtain rfl := refused.done
      exact ⟨nofun, fun _ => ⟨refused.controls, refused.vmcs⟩⟩

end

/-- A processor with CET, on which CR0.WP is free. -/
def cetMachine : Machine :=
  { quietMachine with
    cetVmcsEnabled := true
    readMsr := fun msr =>
      if msr = msrIa32VmxCr0Fixed0 then some 0x80000021
      else if msr = msrIa32VmxCr0Fixed1 then some 0xFFFFFFFF
      else if msr = msrIa32VmxCr4Fixed0 then some 0x2000
      else if msr = msrIa32VmxCr4Fixed1 then some 0xFFFFFF
      else none }

/-- MOV CR0, RAX of a guest that runs with CET. -/
def movToCr0Exit (rax : U64) : ExitState :=
  { cpuidExit with
    ctx := { zeroContext with
      rax := rax
      guestCr0 := 0x80010031
      guestCr3 := 0x1000
      guestCr4 := 0x802020 }
    vmcs := fun
      | .guestCr0 => 0x80010031
      | .guestCr3 => 0x1000
      | .guestCr4 => 0x802020
      | _ => 0 }

theorem cetControls_contract : CrContract cetMachine ⟨0x80010031, 0x1000, 0x802020⟩ where
  cr0Fixed := by decide +kernel
  cr4Fixed := by decide +kernel
  paging := by decide
  pae := by decide
  writeProtect := fun _ => by decide
  cr3 := by decide +kernel

theorem movToCr0Exit_accesses (rax : U64) : AccessesSucceed cetMachine (movToCr0Exit rax) where
  latch := rfl
  flags := fun _ _ => (by decide : vmxOk 2 = true)

/-- CR0.WP is cleared under CR4.CET. -/
theorem movToCr0_drops_writeProtect :
    CrContract cetMachine (movToCr0Exit 0x80000031).ctx.controls ∧
      vmcsControls (movToCr0Exit 0x80000031).vmcs = (movToCr0Exit 0x80000031).ctx.controls ∧
      (handleCrAccess cetMachine (movToCr0Exit 0x80000031)).1 = true ∧
      ¬CrKept cetMachine (movToCr0Exit 0x80000031) := by
  have accepted : (handleCrAccess cetMachine (movToCr0Exit 0x80000031)).1 = true := by
    decide +kernel
  refine ⟨cetControls_contract, rfl, accepted, fun kept => ?_⟩
  have contract := (kept.1 accepted).1
  have cet : (handleCrAccess cetMachine (movToCr0Exit 0x80000031)).2.ctx.controls.cr4 &&&
      cr4Cet ≠ 0 := by decide +kernel
  have clear : (handleCrAccess cetMachine (movToCr0Exit 0x80000031)).2.ctx.controls.cr0 &&&
      kCr0WriteProtect = 0 := by decide +kernel
  exact contract.writeProtect cet clear

/-- A write that keeps WP keeps the contract. -/
theorem handleCrAccess_contract_iff_wp : CrKept cetMachine (movToCr0Exit 0x80010033) := by
  refine (handleCrAccess_contract_iff (cetControls_contract) rfl
    (movToCr0Exit_accesses _)).mpr ?_
  rintro ⟨-, ⟨-, -, -, clear⟩ | ⟨target, -⟩⟩
  · exact absurd clear (by decide)
  · exact absurd target (by decide)

end Knhv.Vmx
