import Knhv.Entry.Contract

namespace Knhv.Entry

open Vmx (Machine vmxOk)

variable {ξ : Type} {m : Machine} {host : HostSlots} {w : Callees ξ} {base : U64} {r : Root ξ}

/-- Anchored, and ready to call C++. -/
structure Ready (m : Machine) (host : HostSlots) (base : U64) (r : Root ξ) : Prop where
  anchored : Anchored m host base r
  bound : Bound m host r

namespace Ready

theorem exec (ready : Ready m host base r) (block : List Instr)
    (sheltered : block.all (·.sheltered) = true) (keeps : block.all (·.keepsContract) = true) :
    Ready m host base (r.exec block) := by
  have bound := ready.bound.exec block keeps
  have clean {part : Part}
      (covered : ∀ i : Instr, i.keepsContract = true → i.touches part = false) :
      block.any (·.touches part) = false :=
    List.any_eq_false.mpr fun i member =>
      Bool.not_eq_true _ ▸ covered i (List.all_eq_true.mp keeps i member)
  have msr : (run block r.cpu).msr = r.cpu.msr :=
    run_same .msr (clean fun i kept => by simp_all [Instr.keepsContract]) r.cpu
  exact ⟨ready.anchored.exec block sheltered (clean fun i kept => by simp_all [Instr.keepsContract])
    (congrFun msr _), bound⟩

theorem call (ready : Ready m host base r) (alone : Private w base) (f : Callee)
    (given : f.writesContext = true → r.cpu.gpr .rcx = base) : Ready m host base (r.call w f) :=
  ⟨ready.anchored.call ready.bound alone f given, ready.bound.call w f⟩

theorem trace (ready : Ready m host base r) (alone : Private w base) (event : U64) :
    Ready m host base (r.trace w event) :=
  (ready.exec _ rfl rfl).call alone .hvTraceCurrentVcpuEvent fun writes => by cases writes

/-- The context is passed in RCX. -/
theorem callWithContext (ready : Ready m host base r) (alone : Private w base) (f : Callee) :
    Ready m host base ((r.exec [.mov .rcx .rsp]).call w f) := by
  refine (ready.exec _ rfl rfl).call alone f fun _ => ?_
  exact ready.anchored.rsp

end Ready

theorem loadXsavesMask_msr (c : Cpu ξ) :
    (run (loadXsavesMask m) c).msr = Function.update c.msr msrIa32Xss m.xsavesMask := by
  have halves (high low : U64) : paired (low32 high) (low32 low) = paired high low := by
    refine BitVec.eq_of_getLsbD_eq fun bit inside => ?_
    rw [getLsbD_paired _ _ inside, getLsbD_paired _ _ inside, getLsbD_low32, getLsbD_low32]
    split
    · simp [*]
    · have below : bit - 32 < 32 := by omega
      simp [below]
  simp [run, loadXsavesMask, Instr.step, Cpu.setGpr, halves, paired_split]

section

variable (m)

theorem saveXstate_sheltered : (saveXstate m).all (·.sheltered) = true := by
  unfold saveXstate
  split
  · rfl
  · split <;> rfl

theorem saveXstate_dr7 : (saveXstate m).any (·.touches .dr7) = false := by
  unfold saveXstate
  split
  · rfl
  · split <;> rfl

/-- Saving the extended state moves no MSR but IA32_XSS. -/
theorem saveXstate_msr (c : Cpu ξ) {msr : U32} (apart : msr ≠ msrIa32Xss) :
    (run (saveXstate m) c).msr msr = c.msr msr := by
  unfold saveXstate
  split
  · exact congrFun (run_same .msr rfl c) msr
  · split
    · have before (c : Cpu ξ) : (run captureXss (run (writeXcr0 .rsp hostXcr0FrameSlot)
          (run captureXcr0 c))).msr = c.msr := by
        rw [← run_append, ← run_append]
        exact run_same .msr rfl c
      have after (c : Cpu ξ) : (run [.saved true .rsp] (run (requestBoth .rsp) c)).msr = c.msr := by
        rw [← run_append]
        exact run_same .msr rfl c
      simp only [run_append]
      rw [after, loadXsavesMask_msr, Function.update_of_ne apart, before]
    · exact congrFun (run_same .msr rfl c) msr

theorem restoreXstate_sheltered : (restoreXstate m .rsp).all (·.sheltered) = true := by
  unfold restoreXstate
  split
  · rfl
  · split <;> rfl

theorem restoreXstate_dr7 (reg : Gpr) :
    (restoreXstate m reg).any (·.touches .dr7) = false := by
  unfold restoreXstate
  split
  · rfl
  · split <;> rfl

theorem restoreXstate_msr (reg : Gpr) (c : Cpu ξ) {msr : U32} (apart : msr ≠ msrIa32Xss) :
    (run (restoreXstate m reg) c).msr msr = c.msr msr := by
  unfold restoreXstate
  split
  · exact congrFun (run_same .msr rfl c) msr
  · split
    · have between (c : Cpu ξ) :
          (run [.reloaded true reg] (run (requestBoth reg) c)).msr = c.msr := by
        rw [← run_append]
        exact run_same .msr rfl c
      have xcr0 (slot : U64) (c : Cpu ξ) : (run (writeXcr0 reg slot) c).msr = c.msr :=
        run_same .msr rfl c
      simp only [run_append]
      rw [xcr0, writeMsr_msr, Function.update_of_ne apart, between, loadXsavesMask_msr,
        Function.update_of_ne apart, xcr0]
    · exact congrFun (run_same .msr rfl c) msr

end

/-- The end of an exit: every call was made under the contract, and a resumed
processor is still on the host's side. -/
structure Sound (m : Machine) (host : HostSlots) (base : U64) (out : Departure × Root ξ) :
    Prop where
  calls : ∀ call ∈ out.2.calls, HostContract m host call.2
  resumed : out.1 = .resumed → Anchored m host base out.2

theorem Bound.ended {departure : Departure} (bound : Bound m host r)
    (left : departure ≠ .resumed) : Sound m host base (departure, r) :=
  ⟨bound.calls, fun resumed => absurd resumed left⟩

theorem Sound.ite {c : Prop} [Decidable c] {first second : Departure × Root ξ}
    (yes : Sound m host base first) (no : Sound m host base second) :
    Sound m host base (if c then first else second) := by
  split
  · exact yes
  · exact no

variable {answers : Answers}

/-- The native IDT is loaded from a descriptor under the frame. -/
theorem Bound.loadIdt (bound : Bound m host r) :
    Bound m host (r.exec [.mov .r10 .rsp, .sub .rsp 0x20, .load .rax .r10 ctxNativeIdtLimit,
      .store16 .rsp 0 .rax, .load .rax .r10 ctxNativeIdtBase, .store .rsp 2 .rax, .lidt .rsp 0,
      .add .rsp 0x20]) := by
  obtain ⟨contract, calls⟩ := bound
  refine ⟨{ contract with aligned := ?_ }, calls⟩
  have aligned := contract.aligned
  simp [Root.exec, run, Instr.step, Cpu.setGpr, Cpu.setMem, BitVec.sub_add_cancel, aligned]

theorem leaveVmx_bound (bound : Bound m host r) (reg : Gpr) (loadsNativeIdt : Bool) :
    Bound m host (leaveVmx w answers reg loadsNativeIdt r) := by
  have cleared := bound.call w .hvClearCurrentVmcsAndRecord
  have finish {r : Root ξ} (bound : Bound m host r) :
      Bound m host ((r.exec [.mov .rcx reg]).call w .hvFatalBugCheck) :=
    (bound.exec _ rfl).call w .hvFatalBugCheck
  simp only [leaveVmx]
  refine finish ?_
  split
  · split
    · have off := (cleared.exec [.fromCr4 .rax, .btr .rax 0x0D, .toCr4 .rax] rfl).trace w
        hvTracePostVmxoff
      split
      · exact off.loadIdt
      · exact off
    · exact cleared.exec _ rfl
  · exact cleared.call w .hvFailVmcsClear

section

variable (aligned : base.toNat % 16 = 0) (alone : Private w base)

include aligned

theorem vmxHalt_sound (anchored : Anchored m host base r) :
    Sound m host base (vmxHalt m w answers r) := by
  have off := anchored.exec [.cli] rfl rfl rfl
  have loaded := (off.loadHost aligned .rsp off.rsp (by decide) (by decide) (by decide)).2
  have same : r.exec (.cli :: loadHostMasks m .rsp ++ loadHostKernelGs .rsp) =
      (r.exec [Instr.cli]).exec (loadHostMasks m .rsp ++ loadHostKernelGs .rsp) := rfl
  rw [← same] at loaded
  have traced := loaded.trace w hvTracePreVmxoff
  have captured := (traced.exec [.mov .rcx .rsp] rfl).call w
    .hvCaptureFatalSnapshotPreVmxoff
  have parked := (captured.trace w hvTraceFatalSnapshotComplete).call w .markCurrentVcpuParked
  have marked := parked.trace w hvTraceFatalParked
  exact (leaveVmx_bound marked .rsp true).ended (by simp)

theorem restoreInvalid_sound (anchored : Anchored m host base r) (here : r.cpu.gpr .r10 = base) :
    Sound m host base (restoreInvalid m w answers r) := by
  have off := anchored.exec [.cli] rfl rfl rfl
  have loaded := (off.loadHost aligned .r10 here (by decide) (by decide) (by decide)).2
  have same : r.exec (.cli :: loadHostMasks m .r10 ++ loadHostKernelGs .r10) =
      (r.exec [Instr.cli]).exec (loadHostMasks m .r10 ++ loadHostKernelGs .r10) := rfl
  rw [← same] at loaded
  have traced := loaded.trace w hvTracePreVmxoff
  have captured := (traced.exec [.mov .r10 .rbx, .mov .rcx .r10] rfl).call w
    .hvCaptureFatalSnapshotPreVmxoff
  have complete := (captured.trace w hvTraceFatalSnapshotComplete).exec [.mov .r10 .rbx] rfl
  have parked := complete.call w .markCurrentVcpuParked
  have marked := (parked.trace w hvTraceFatalParked).exec [.mov .r10 .rbx] rfl
  exact (leaveVmx_bound marked .rbx false).ended (by simp)

omit aligned in
theorem teardownVmxoffFailed_sound (bound : Bound m host r) :
    Sound m host base (teardownVmxoffFailed w answers r) := by
  have recorded := bound.exec [.cli, .popFlags .rax answers.vmxoff, .mov .rdx .rax, .xor32 .rax,
    .mov .r10 .rbx, .storeImm .r10 ctxHaltVm 1, .mov .rcx .r10] rfl
  have captured := recorded.call w .hvCaptureFatalSnapshotPreVmxoff
  have parked := (captured.trace w hvTraceFatalSnapshotComplete).call w .markCurrentVcpuParked
  have marked := (parked.trace w hvTraceFatalParked).exec [.mov .r10 .rbx, .mov .rcx .r10] rfl
  exact (marked.call w .hvFatalBugCheck).ended (by simp)

omit aligned in
theorem leaveForNative_sound (bound : Bound m host r) :
    Sound m host base (leaveForNative m w answers r) := by
  have spilled := (bound.exec (iretFrame ++ spillContext) rfl).trace w hvTracePreVmxoff
  have cleared := spilled.call w .hvClearCurrentVmcsAndRecord
  simp only [leaveForNative]
  split
  · split
    · have off := (cleared.exec [.mov .r10 .rbx] rfl).trace w hvTracePostVmxoff
      exact ⟨off.calls, fun resumed => by cases resumed⟩
    · exact teardownVmxoffFailed_sound cleared
  · exact (cleared.call w .hvFailVmcsClear).ended (by simp)

/-- On the way to the native return, with the context in R10. -/
structure Returning (m : Machine) (host : HostSlots) (base : U64) (r : Root ξ) : Prop
    extends Ready m host base r where
  context : r.cpu.gpr .r10 = base

omit aligned in
theorem Returning.exec (returning : Returning m host base r) (block : List Instr)
    (sheltered : block.all (·.sheltered) = true) (keeps : block.all (·.keepsContract) = true)
    (context : block.any (·.touches (.gpr .r10)) = false) :
    Returning m host base (r.exec block) where
  toReady := returning.toReady.exec block sheltered keeps
  context := by
    have same : (run block r.cpu).gpr .r10 = r.cpu.gpr .r10 := run_same (.gpr .r10) context r.cpu
    exact same.trans returning.context

theorem Returning.invalid (returning : Returning m host base r) :
    Sound m host base (restoreInvalid m w answers r) :=
  restoreInvalid_sound aligned returning.anchored returning.context

theorem restoreRing0_sound (returning : Returning m host base r) :
    Sound m host base (restoreRing0 m w answers r) := by
  have frame := returning.exec [.lea .r8 .r11 (-0x28), .lea .r9 .r8 (-0x100)] rfl rfl rfl
  have first := frame.exec (signExtend m .r8) rfl rfl rfl
  have second := first.exec (signExtend m .r9) rfl rfl rfl
  simp only [restoreRing0, canonicalIn]
  refine .ite (first.invalid aligned) (.ite (second.invalid aligned) ?_)
  exact leaveForNative_sound second.bound

theorem checkReturn_sound (returning : Returning m host base r) :
    Sound m host base (checkReturn m w answers r) := by
  have loaded := returning.exec loadReturn rfl rfl rfl
  have stack := loaded.exec (signExtend m .r11) rfl rfl rfl
  have target := stack.exec (signExtend m .r14) rfl rfl rfl
  have ring := target.exec [.mov32 .rax .r12, .andImm .rax 3, .mov32 .rcx .r13, .andImm .rcx 3]
    rfl rfl rfl
  simp only [checkReturn, canonicalIn]
  refine .ite (loaded.invalid aligned) (.ite (stack.invalid aligned) ?_)
  refine .ite (target.invalid aligned) (.ite (ring.invalid aligned) ?_)
  exact restoreRing0_sound aligned ring

include alone

omit aligned alone in
theorem exec_context (r : Root ξ) : (r.exec [.mov .r10 .rbx]).cpu.gpr .r10 = r.cpu.gpr .rbx := rfl

omit aligned alone in
theorem exec_storeImm (r : Root ξ) (reg : Gpr) (slot value : U64) :
    r.exec [.storeImm reg slot value] =
      { r with cpu := r.cpu.setMem (r.cpu.gpr reg + slot) value } := rfl

omit aligned alone in
/-- Where RBX is RSP, the flags that the teardown path writes through R10 are
cells of the frame. -/
theorem exec_park {r : Root ξ} (same : r.cpu.gpr .rbx = r.cpu.gpr .rsp) (abort halt : U64) :
    r.exec [.mov .r10 .rbx, .storeImm .r10 abort 0, .storeImm .r10 halt 1] =
      r.exec ([Instr.mov .r10 .rbx] ++
        ([Instr.storeImm .rsp abort 0] ++ [Instr.storeImm .rsp halt 1])) := by
  have moved : (r.exec [.mov .r10 .rbx]).cpu.gpr .r10 = (r.exec [.mov .r10 .rbx]).cpu.gpr .rsp :=
    (exec_context r).trans same
  have listing : [Instr.mov .r10 .rbx, .storeImm .r10 abort 0, .storeImm .r10 halt 1] =
      [Instr.mov .r10 .rbx] ++
        ([Instr.storeImm .r10 abort 0] ++ [Instr.storeImm .r10 halt 1]) := rfl
  rw [listing, exec_append, exec_append, exec_append, exec_append]
  simp only [exec_storeImm, Cpu.setMem_gpr, moved]

theorem hvRestoreStateAndReturn_sound (anchored : Anchored m host base r)
    (context : r.cpu.gpr .rcx = base) :
    Sound m host base (hvRestoreStateAndReturn m w answers r) := by
  have moved := anchored.exec [.cli, .mov .r10 .rcx, .mov .rbx .r10] rfl rfl rfl
  obtain ⟨loaded, bound⟩ := moved.loadHost' aligned .r10 context (by decide) (by decide) (by decide)
  rw [← exec_append, ← List.append_assoc] at loaded bound
  have anchor : (r.exec ([Instr.cli, .mov .r10 .rcx, .mov .rbx .r10] ++ loadHostKernelGs .r10 ++
      loadHostMasks m .r10)).cpu.gpr .rbx = base := by
    rw [List.append_assoc, exec_append]
    refine Eq.trans (run_same (.gpr .rbx) ?_ _) context
    rw [List.any_append,
      loadHostMasks_touches .r10 (by simp) (by simp) (by simp) (by simp) (by simp)]
    rfl
  have marked := Ready.call ⟨loaded, bound⟩ alone .markCurrentVcpuTearingDown
    (fun writes => by cases writes)
  have kept := (call_gpr w .markCurrentVcpuTearingDown _ .rbx (by decide)).trans anchor
  simp only [hvRestoreStateAndReturn]
  refine .ite (checkReturn_sound aligned ⟨marked.exec [.mov .r10 .rbx] rfl rfl,
    (exec_context _).trans kept⟩) ?_
  have parked := marked.exec ([Instr.mov .r10 .rbx] ++ ([Instr.storeImm .rsp ctxAbortVm 0] ++
    [Instr.storeImm .rsp ctxHaltVm 1])) rfl rfl
  rw [exec_park (kept.trans marked.anchored.rsp.symm)]
  refine restoreInvalid_sound aligned parked.anchored ?_
  rw [exec_append, exec_append]
  exact (exec_context _).trans kept

theorem vmxAbort_sound (anchored : Anchored m host base r) :
    Sound m host base (vmxAbort m w answers r) := by
  have passed := anchored.exec [.mov .rcx .rsp] rfl rfl rfl
  refine .ite (vmxHalt_sound aligned anchored) ?_
  exact hvRestoreStateAndReturn_sound aligned alone passed anchored.rsp

theorem vmxResumeFailure_sound (anchored : Anchored m host base r) (flags : U64) :
    Sound m host base (vmxResumeFailure m w answers flags r) := by
  have failed := anchored.exec [.popFlags .rbx flags] rfl rfl rfl
  obtain ⟨loaded, bound⟩ :=
    failed.loadHost aligned .rsp failed.rsp (by decide) (by decide) (by decide)
  have ready := Ready.exec ⟨loaded, bound⟩ [.mov .rcx .rsp, .mov .rdx .rbx] rfl rfl
  rw [← exec_append, ← exec_append] at ready
  have given : (r.exec ([Instr.popFlags .rbx flags] ++
      ((loadHostMasks m .rsp ++ loadHostKernelGs .rsp) ++
      [Instr.mov .rcx .rsp, .mov .rdx .rbx]))).cpu.gpr .rcx = base := by
    rw [exec_append, exec_append]
    exact loaded.rsp
  have handled := (ready.call alone .handleVmResumeFailure fun _ => given).trace alone
    hvTraceVmresumeFail
  have halted : Sound m host base (vmxHalt m w answers _) := vmxHalt_sound aligned handled.anchored
  have aborted : Sound m host base (vmxAbort m w answers _) :=
    vmxAbort_sound aligned alone handled.anchored
  have listing : Instr.popFlags .rbx flags :: loadHostMasks m .rsp ++ loadHostKernelGs .rsp ++
      [Instr.mov .rcx .rsp, .mov .rdx .rbx] = [Instr.popFlags .rbx flags] ++
        ((loadHostMasks m .rsp ++ loadHostKernelGs .rsp) ++
          [Instr.mov .rcx .rsp, .mov .rdx .rbx]) := rfl
  simp only [vmxResumeFailure, listing]
  exact .ite halted (.ite aborted halted)

end

/-- A VM exit has just happened on the processor whose frame this is. -/
structure Arrived (m : Machine) (host : HostSlots) (base : U64) (r : Root ξ) : Prop where
  rsp : r.cpu.gpr .rsp = base + frameSize
  stored : host.Stored base r.cpu.mem
  calls : ∀ call ∈ r.calls, HostContract m host call.2

theorem readDebugField_sheltered (field slot : U64) (read : VmcsRead)
    (context : (Instr.store .rsp slot .rax).sheltered = true) :
    (readDebugField field slot read).all (·.sheltered) = true := by
  unfold readDebugField
  split <;>
  · simp only [List.all_cons, List.cons_append, List.nil_append, context]
    rfl

/-- The frame is allocated, and nothing of the host in it is overwritten. -/
theorem captureFrame_stored (arrived : Arrived m host base r) {body : List Instr}
    (sheltered : body.all (·.sheltered) = true) :
    (run ([Instr.cli, .sub .rsp frameSize] ++ body) r.cpu).gpr .rsp = base ∧
      host.Stored base (run ([Instr.cli, .sub .rsp frameSize] ++ body) r.cpu).mem ∧
      (run ([Instr.cli, .sub .rsp frameSize] ++ body) r.cpu).interrupts = false := by
  have rsp : (run [.cli, .sub .rsp frameSize] r.cpu).gpr .rsp = base := by
    refine (Function.update_self Gpr.rsp (r.cpu.gpr .rsp - frameSize) r.cpu.gpr).trans ?_
    rw [arrived.rsp, BitVec.add_sub_cancel]
  have mem : (run [.cli, .sub .rsp frameSize] r.cpu).mem = r.cpu.mem := run_same .mem rfl r.cpu
  have off : (run [.cli, .sub .rsp frameSize] r.cpu).interrupts = false := rfl
  have stored := arrived.stored
  rw [← mem, ← rsp] at stored
  have kept := run_stored sheltered stored
  rw [rsp] at kept
  rw [run_append]
  exact ⟨(run_rsp sheltered _).trans rsp, kept, (run_false body _).1 off⟩

/-- The registers that a VM exit leaves as the guest had them. -/
theorem loadHostDebugState_run {c : Cpu ξ} (stored : host.Stored (c.gpr .rsp) c.mem) :
    (run loadHostDebugState c).dr7 = host.dr7 ∧
      (run loadHostDebugState c).msr msrIa32Debugctl = host.debugctl ∧
      (run loadHostDebugState c).msr msrKernelGsBase = host.kernelGs := by
  have rsp (block : List Instr) (clean : block.any (·.touches (.gpr .rsp)) = false) (c : Cpu ξ) :
      (run block c).gpr .rsp = c.gpr .rsp := run_same (.gpr .rsp) clean c
  have mem (block : List Instr) (clean : block.any (·.touches .mem) = false) (c : Cpu ξ) :
      (run block c).mem = c.mem := run_same .mem clean c
  have dr7 (c : Cpu ξ) : (run [.load .rax .rsp hostDr7FrameSlot, .toDr7 .rax] c).dr7 =
      c.mem (c.gpr .rsp + hostDr7FrameSlot) := Function.update_self Gpr.rax _ c.gpr
  have msr (c : Cpu ξ) : (run [.load .rax .rsp hostDr7FrameSlot, .toDr7 .rax] c).msr = c.msr :=
    run_same .msr rfl c
  have later (c : Cpu ξ) :
      (run (writeMsr .rsp hostDebugctlFrameSlot msrIa32Debugctl) c).dr7 = c.dr7 :=
    run_same .dr7 rfl c
  unfold loadHostDebugState
  rw [run_append, run_append]
  refine ⟨?_, ?_, ?_⟩
  · rw [later, dr7, mem _ rfl, rsp _ rfl]
    exact stored.dr7
  · rw [writeMsr_msr, Function.update_self, mem _ rfl, mem _ rfl, rsp _ rfl, rsp _ rfl]
    exact stored.debugctl
  · rw [writeMsr_msr, Function.update_of_ne (by decide), msr, writeMsr_msr, Function.update_self]
    exact stored.kernelGs

/-- Back on the host's side. -/
theorem loadHostState_ready (aligned : base.toNat % 16 = 0) (rsp : r.cpu.gpr .rsp = base)
    (stored : host.Stored base r.cpu.mem) (interrupts : r.cpu.interrupts = false)
    (calls : ∀ call ∈ r.calls, HostContract m host call.2) :
    Ready m host base (r.exec (loadHostState m)) := by
  subst rsp
  obtain ⟨dr7, debugctl, kernelGs⟩ := loadHostDebugState_run stored
  have first : (run loadHostDebugState r.cpu).gpr .rsp = r.cpu.gpr .rsp := run_rsp rfl r.cpu
  have second : (run (saveXstate m) (run loadHostDebugState r.cpu)).gpr .rsp = r.cpu.gpr .rsp :=
    (run_rsp (saveXstate_sheltered m) _).trans first
  have third : (run (loadHostMasks m .rsp) (run (saveXstate m) (run loadHostDebugState
      r.cpu))).gpr .rsp = r.cpu.gpr .rsp :=
    (run_rsp (loadHostMasks_sheltered m .rsp) _).trans second
  have loaded : host.Stored (r.cpu.gpr .rsp) (run loadHostDebugState r.cpu).mem :=
    run_stored rfl stored
  have saved : host.Stored (r.cpu.gpr .rsp) (run (saveXstate m) (run loadHostDebugState
      r.cpu)).mem := by
    rw [← first] at loaded ⊢
    exact run_stored (saveXstate_sheltered m) loaded
  have masked : host.Stored (r.cpu.gpr .rsp) (run (loadHostMasks m .rsp) (run (saveXstate m)
      (run loadHostDebugState r.cpu))).mem := by
    rw [← second] at saved ⊢
    exact run_stored (loadHostMasks_sheltered m .rsp) saved
  rw [← second] at saved
  have masks (present : m.xstateMode ≠ .fxsave) :=
    loadHostMasks_masks saved (by decide) (by decide) (by decide) present
  have kept {msr : U32} (apart : msr ≠ msrIa32Xss) : (run (loadHostMasks m .rsp)
      (run (saveXstate m) (run loadHostDebugState r.cpu))).msr msr =
        (run loadHostDebugState r.cpu).msr msr :=
    (loadHostMasks_msr .rsp _ apart).trans (saveXstate_msr m _ apart)
  have steady : (run (loadHostMasks m .rsp) (run (saveXstate m) (run loadHostDebugState
      r.cpu))).dr7 = (run loadHostDebugState r.cpu).dr7 := by
    have same : (run (saveXstate m) (run loadHostDebugState r.cpu)).dr7 =
        (run loadHostDebugState r.cpu).dr7 := run_same .dr7 (saveXstate_dr7 m) _
    refine Eq.trans ?_ same
    exact run_same .dr7 (loadHostMasks_touches .rsp (by simp) (by simp) (by simp) (by simp)
      (by simp)) _
  have off := (run_false (loadHostState m) r.cpu).1 interrupts
  simp only [loadHostState, run_append] at off
  simp only [loadHostState, exec_append]
  have anchored : Anchored m host (r.cpu.gpr .rsp) ((((r.exec loadHostDebugState).exec
      (saveXstate m)).exec (loadHostMasks m .rsp)).exec [.cld]) := {
    rsp := third
    stored := masked
    interrupts := off
    direction := rfl
    dr7 := steady.trans dr7
    debugctl := (kept (by decide)).trans debugctl
    calls := calls }
  exact ⟨anchored, anchored.bound aligned ((kept (by decide)).trans kernelGs) masks⟩

/-- What `captureGuest` stores before the host's state is back. -/
def captureListing (answers : Answers) : List Instr :=
  gprSlots.map (fun entry => .store .rsp entry.2 entry.1) ++
    ([Instr.storeImm .rsp ctxNativeIdtBase 0, .storeImm .rsp ctxNativeIdtLimit 0,
      .storeImm .rsp ctxAbortVm 0, .storeImm .rsp ctxHaltVm 0] ++
    (captureKernelGs ++ ([Instr.xor32 .r10] ++
      (readDebugField vmcsGuestDr7 ctxGuestDr7 answers.guestDr7 ++
        readDebugField vmcsGuestDebugctl ctxGuestDebugctl answers.guestDebugctl))))

theorem captureFrame_eq (answers : Answers) :
    captureFrame answers = [Instr.cli, .sub .rsp frameSize] ++ captureListing answers := by
  simp only [captureFrame, allocateFrame, captureListing, List.append_assoc]

theorem captureListing_sheltered (answers : Answers) :
    (captureListing answers).all (·.sheltered) = true := by
  have dr7 := readDebugField_sheltered vmcsGuestDr7 ctxGuestDr7 answers.guestDr7 rfl
  have debugctl := readDebugField_sheltered vmcsGuestDebugctl ctxGuestDebugctl
    answers.guestDebugctl rfl
  simp only [captureListing, List.all_append, dr7, debugctl, Bool.and_true]
  rfl

theorem markUnread_ready (aligned : base.toNat % 16 = 0) (rsp : r.cpu.gpr .rsp = base)
    (stored : host.Stored base r.cpu.mem) (interrupts : r.cpu.interrupts = false)
    (calls : ∀ call ∈ r.calls, HostContract m host call.2) :
    Ready m host base ((markUnread r).exec (loadHostState m)) := by
  unfold markUnread
  split
  · exact loadHostState_ready aligned rsp stored interrupts calls
  · have marked : host.Stored base (run [.storeImm .rsp ctxHaltVm 1] r.cpu).mem := by
      rw [← rsp] at stored ⊢
      exact run_stored rfl stored
    exact loadHostState_ready aligned rsp marked interrupts calls

theorem captureGuest_ready (aligned : base.toNat % 16 = 0) (arrived : Arrived m host base r) :
    Ready m host base (captureGuest m answers r) := by
  obtain ⟨rsp, stored, off⟩ := captureFrame_stored arrived (captureListing_sheltered answers)
  rw [← captureFrame_eq] at rsp stored off
  exact markUnread_ready aligned rsp stored off arrived.calls

theorem handleExit_ready (alone : Private w base) (ready : Ready m host base r) :
    Ready m host base (handleExit w r) := by
  have entered := ready.trace alone hvTraceVmexitHostReady
  have handled := entered.callWithContext alone .vmExitHandler
  simp only [handleExit]
  split
  · exact handled.trace alone hvTracePreVmresume
  · exact handled

theorem resumeGuest_sound (aligned : base.toNat % 16 = 0) (alone : Private w base)
    (anchored : Anchored m host base r) : Sound m host base (resumeGuest m w answers r) := by
  have loaded := anchored.exec (writeMsr .rsp ctxGuestKgs msrKernelGsBase ++ loadGuestGprs)
    rfl rfl (by
      have rest (c : Cpu ξ) : (run loadGuestGprs c).msr = c.msr := run_same .msr rfl c
      rw [run_append, rest, writeMsr_msr, Function.update_of_ne (by decide)])
  simp only [resumeGuest]
  cases answers.vmresume with
  | none => exact ⟨loaded.calls, fun _ => loaded⟩
  | some flags => exact vmxResumeFailure_sound aligned alone loaded flags

theorem commitGuest_sound (aligned : base.toNat % 16 = 0) (alone : Private w base)
    (ready : Ready m host base r) : Sound m host base (commitGuest m w answers r) := by
  have finish {r : Root ξ} (anchored : Anchored m host base r) :
      Sound m host base
        (if r.slot ctxHaltVm ≠ 0 then vmxHalt m w answers r
          else if r.slot ctxAbortVm ≠ 0 then vmxAbort m w answers r
          else resumeGuest m w answers r) :=
    .ite (vmxHalt_sound aligned anchored) (.ite (vmxAbort_sound aligned alone anchored)
      (resumeGuest_sound aligned alone anchored))
  have anchored := ready.anchored
  simp only [commitGuest]
  refine finish (Anchored.exec ?_ [.cld] rfl rfl rfl)
  split
  · exact anchored.exec (restoreXstate m .rsp) (restoreXstate_sheltered m)
      (restoreXstate_dr7 m .rsp) (restoreXstate_msr m .rsp _ (by decide))
  · exact anchored

theorem hvVmExitEntryPoint_sound (aligned : base.toNat % 16 = 0) (alone : Private w base)
    (arrived : Arrived m host base r) :
    Sound m host base (hvVmExitEntryPoint m w answers r) :=
  commitGuest_sound aligned alone (handleExit_ready alone (captureGuest_ready aligned arrived))

/-! The exits of one processor, one after the other. -/

/-- What the guest does until its next VM exit: anything, but the frame is not
mapped for it, and the exit loads the host's RSP. -/
structure GuestRun (ξ : Type) (base : U64) where
  apply : Cpu ξ → Cpu ξ
  rsp : ∀ c, (apply c).gpr .rsp = base + frameSize
  unmapped : ∀ c slot, slot < frameSize → (apply c).mem (base + slot) = c.mem (base + slot)

/-- The processor serves its exits until it leaves VMX operation. -/
def serve (m : Machine) (w : Callees ξ) : List (GuestRun ξ base × Answers) → Root ξ → Root ξ
  | [], r => r
  | (guest, answers) :: rest, r =>
    let out := hvVmExitEntryPoint m w answers { r with cpu := guest.apply r.cpu }
    if out.1 = .resumed then serve m w rest out.2 else out.2

theorem GuestRun.arrived (guest : GuestRun ξ base) (stored : host.Stored base r.cpu.mem)
    (calls : ∀ call ∈ r.calls, HostContract m host call.2) :
    Arrived m host base { r with cpu := guest.apply r.cpu } where
  rsp := guest.rsp r.cpu
  stored := {
    dr7 := (guest.unmapped _ _ (by decide)).trans stored.dr7
    debugctl := (guest.unmapped _ _ (by decide)).trans stored.debugctl
    xcr0 := (guest.unmapped _ _ (by decide)).trans stored.xcr0
    xss := (guest.unmapped _ _ (by decide)).trans stored.xss
    kernelGs := (guest.unmapped _ _ (by decide)).trans stored.kernelGs }
  calls := calls

/-- Over any number of exits, whatever the guest, the C++ routines and the VMX
instructions do: no C++ routine is ever called outside the host's contract. -/
theorem serve_contract (aligned : base.toNat % 16 = 0) (alone : Private w base)
    (exits : List (GuestRun ξ base × Answers)) (stored : host.Stored base r.cpu.mem)
    (calls : ∀ call ∈ r.calls, HostContract m host call.2) :
    ∀ call ∈ (serve m w exits r).calls, HostContract m host call.2 := by
  induction exits generalizing r with
  | nil => exact calls
  | cons exit rest ih =>
    obtain ⟨guest, answers⟩ := exit
    have sound : Sound m host base
        (hvVmExitEntryPoint m w answers { r with cpu := guest.apply r.cpu }) :=
      hvVmExitEntryPoint_sound aligned alone (guest.arrived stored calls)
    rw [serve]
    generalize hvVmExitEntryPoint m w answers { r with cpu := guest.apply r.cpu } = out at *
    split
    · have anchored := sound.resumed ‹_›
      exact ih anchored.stored anchored.calls
    · exact sound.calls

/-- Routines that return at once. -/
def idle : Callees Unit where
  scratch _ := False
  apply _ c := c
  abi _ _ := ⟨fun _ _ => rfl, rfl, rfl, rfl, rfl, rfl, rfl, rfl, fun _ _ _ => rfl⟩

/-- A processor with XSAVES. -/
def xsavesMachine : Machine where
  cpuId := 0
  vcpuData := true
  processorCount := 1
  vmxFlags _ := 2
  cpuidex _ _ := ⟨0, 0, 0, 0⟩
  readMsr _ := none
  xgetbv := some 7
  readCr2 := 0
  memory _ := 0
  getSegmentLimit _ := 0
  getSegmentAr _ := 0
  linearAddressBits := 48
  debugctlMask := 0
  cetVmcsEnabled := false
  xsavesEnabled := true
  xstateMode := .xsaves
  xsavesMask := 0x100
  enumeratedXssMask := 0x100
  guestXssWriteMask := 0x100
  hostXcr0Mask := 7
  testFault := none

/-- Before the first exit, with a prepared frame at 0x10000. -/
def prepared : Root Unit where
  cpu := {
    gpr := fun _ => 0
    interrupts := true
    direction := false
    msr := fun _ => 0
    xcr0 := 7
    dr7 := 0
    cr0 := 0x80000031
    cr3 := 0
    cr4 := 0x2020
    idtLimit := 0
    idtBase := 0
    ext := fun _ => ()
    mem := fun address => if address = 0x11168 then 7 else 0
    image := fun _ _ => () }
  calls := []

def preparedSlots : HostSlots := ⟨0, 0, 7, 0, 0⟩

/-- A guest that leaves its own values in all the registers that VMX does not
switch. -/
def busyGuest : GuestRun Unit 0x10000 where
  apply c := { c with
    gpr := Function.update (fun _ => 5) .rsp (0x10000 + frameSize)
    direction := true
    msr := fun _ => 9
    xcr0 := 3
    dr7 := 0x400 }
  rsp _ := rfl
  unmapped _ _ _ := rfl

def plainAnswers : Answers := ⟨⟨0x400, 2⟩, ⟨0, 2⟩, none, 2, id⟩

/-- What is called on the way of two exits. -/
def busyCalls : List (Callee × Cpu Unit) :=
  (serve xsavesMachine idle [(busyGuest, plainAnswers), (busyGuest, plainAnswers)] prepared).calls

theorem serve_contract_busy :
    busyCalls.isEmpty = false ∧
      ∀ call ∈ busyCalls, HostContract xsavesMachine preparedSlots call.2 :=
  ⟨by decide +kernel,
    serve_contract (by decide) (fun _ _ _ => id) _ ⟨rfl, rfl, rfl, rfl, rfl⟩ (by simp [prepared])⟩

end Knhv.Entry
