import Mathlib.Tactic.Common
import Knhv.Entry.Stub

namespace Knhv.Entry

open Vmx (Machine vmxOk)

/-! What the listings of the stub do. -/

theorem getLsbD_low32 (value : U64) (bit : Nat) :
    (low32 value).getLsbD bit = (decide (bit < 32) && value.getLsbD bit) := by
  unfold low32
  rw [BitVec.getLsbD_setWidth, BitVec.getLsbD_setWidth]
  by_cases low : bit < 32
  · have inside : bit < 64 := by omega
    simp [low, inside]
  · simp [low]

theorem getLsbD_paired (edx eax : U64) {bit : Nat} (inside : bit < 64) :
    (paired edx eax).getLsbD bit =
      if bit < 32 then eax.getLsbD bit else edx.getLsbD (bit - 32) := by
  unfold paired
  rw [BitVec.getLsbD_or, BitVec.getLsbD_shiftLeft, getLsbD_low32, getLsbD_low32]
  by_cases low : bit < 32
  · simp [low]
  · have below : bit - 32 < 32 := by omega
    simp [low, below, inside]

theorem paired_split (value : U64) : paired (value >>> 32) value = value := by
  refine BitVec.eq_of_getLsbD_eq fun bit inside => ?_
  rw [getLsbD_paired _ _ inside, BitVec.getLsbD_ushiftRight]
  split
  · rfl
  · rw [Nat.add_sub_cancel' (by omega)]

/-- A store goes to another slot of the frame. -/
def Instr.avoids (slot : U64) : Instr → Bool
  | Instr.store base other _ | Instr.store16 base other _ | Instr.storeImm base other _ =>
    base = .rsp && other ≠ slot
  | i => !i.touches (.gpr .rsp)

section

variable {ξ : Type}

theorem Instr.step_avoids {i : Instr} {slot : U64} (avoids : i.avoids slot = true) (c : Cpu ξ) :
    (i.step c).gpr .rsp = c.gpr .rsp ∧
      (i.step c).mem (c.gpr .rsp + slot) = c.mem (c.gpr .rsp + slot) := by
  have elsewhere {other : U64} (apart : other ≠ slot) (value : U64) :
      Function.update c.mem (c.gpr .rsp + other) value (c.gpr .rsp + slot) =
        c.mem (c.gpr .rsp + slot) := by
    refine Function.update_of_ne (fun same => apart ?_) _ _
    exact (BitVec.add_right_inj _).mp same.symm
  cases i with
  | store base other src | store16 base other src | storeImm base other src =>
    simp only [Instr.avoids, Bool.and_eq_true, decide_eq_true_eq] at avoids
    obtain ⟨rfl, apart⟩ := avoids
    exact ⟨rfl, elsewhere apart _⟩
  | _ =>
    simp only [Instr.avoids, Bool.not_eq_true'] at avoids
    have rsp : Part.Same (.gpr .rsp) _ c := Instr.step_same avoids c
    exact ⟨rsp, rfl⟩

/-- The slots that no store of a listing goes to. -/
theorem run_avoids {block : List Instr} {slot : U64} (avoids : block.all (·.avoids slot) = true)
    (c : Cpu ξ) : (run block c).gpr .rsp = c.gpr .rsp ∧
      (run block c).mem (c.gpr .rsp + slot) = c.mem (c.gpr .rsp + slot) := by
  refine Listing.run_related (fun after before : Cpu ξ =>
      after.gpr .rsp = before.gpr .rsp ∧
        after.mem (before.gpr .rsp + slot) = before.mem (before.gpr .rsp + slot))
    (fun _ => ⟨rfl, rfl⟩) ?_ (fun i member c => ?_) c
  · rintro after middle before ⟨rsp, cell⟩ ⟨rsp', cell'⟩
    rw [rsp'] at cell
    exact ⟨rsp.trans rsp', cell.trans cell'⟩
  · exact Instr.step_avoids (List.all_eq_true.mp avoids i member) c

theorem writeMsr_msr (base : Gpr) (slot : U64) (msr : U32) (c : Cpu ξ) :
    (run (writeMsr base slot msr) c).msr =
      Function.update c.msr msr (c.mem (c.gpr base + slot)) := by
  simp [run, writeMsr, splitRax, Instr.step, Cpu.setGpr, paired_split]

theorem writeXcr0_xcr0 (base : Gpr) (slot : U64) (c : Cpu ξ) :
    (run (writeXcr0 base slot) c).xcr0 = c.mem (c.gpr base + slot) := by
  simp [run, writeXcr0, splitRax, Instr.step, Cpu.setGpr, paired_split]

end

/-! The contract that every C++ routine is called under. -/

/-- What launch preparation has stored at the end of the frame. -/
structure HostSlots where
  dr7 : U64
  debugctl : U64
  xcr0 : U64
  xss : U64
  kernelGs : U64

section

variable {ξ : Type} (m : Machine) (host : HostSlots)

/-- The slots are in the frame at `base`. -/
structure HostSlots.Stored (base : U64) (mem : U64 → U64) : Prop where
  dr7 : mem (base + hostDr7FrameSlot) = host.dr7
  debugctl : mem (base + hostDebugctlFrameSlot) = host.debugctl
  xcr0 : mem (base + hostXcr0FrameSlot) = host.xcr0
  xss : mem (base + hostXssFrameSlot) = host.xss
  kernelGs : mem (base + hostKgsFrameSlot) = host.kernelGs

/-- Interrupts are off, the direction flag is clear, the stack is aligned, and
every register that VMX does not switch has the host's value. -/
structure HostContract (c : Cpu ξ) : Prop where
  interrupts : c.interrupts = false
  direction : c.direction = false
  aligned : (c.gpr .rsp).toNat % 16 = 0
  dr7 : c.dr7 = host.dr7
  debugctl : c.msr msrIa32Debugctl = host.debugctl
  kernelGs : c.msr msrKernelGsBase = host.kernelGs
  xcr0 : m.xstateMode ≠ .fxsave → c.xcr0 = host.xcr0
  xss : m.xstateMode ≠ .fxsave → m.xsavesEnabled = true → c.msr msrIa32Xss = host.xss

/-- The cells behind the context are the frame's own. -/
def Private (w : Callees ξ) (base : U64) : Prop :=
  ∀ slot : U64, 0x1000 ≤ slot → slot < frameSize → ¬w.scratch (base + slot)

/-- On the host's side of the exit, whatever masks are loaded. -/
structure Anchored (base : U64) (r : Root ξ) : Prop where
  rsp : r.cpu.gpr .rsp = base
  stored : host.Stored base r.cpu.mem
  interrupts : r.cpu.interrupts = false
  direction : r.cpu.direction = false
  dr7 : r.cpu.dr7 = host.dr7
  debugctl : r.cpu.msr msrIa32Debugctl = host.debugctl
  calls : ∀ call ∈ r.calls, HostContract m host call.2

/-- Ready to call C++. -/
structure Bound (r : Root ξ) : Prop where
  contract : HostContract m host r.cpu
  calls : ∀ call ∈ r.calls, HostContract m host call.2

end

section

variable {ξ : Type} {m : Machine} {host : HostSlots} {w : Callees ξ} {base : U64} {r : Root ξ}

theorem aligned_sub {value : U64} (aligned : value.toNat % 16 = 0) :
    (value - 0x20).toNat % 16 = 0 := by
  rw [BitVec.toNat_sub]
  simp only [BitVec.reduceToNat]
  have := value.isLt
  omega

theorem call_gpr (w : Callees ξ) (f : Callee) (r : Root ξ) (reg : Gpr)
    (kept : reg ∈ nonvolatile) : (r.call w f).cpu.gpr reg = r.cpu.gpr reg := by
  have abi := (w.abi f (run [.sub .rsp 0x20] r.cpu)).nonvolatile reg kept
  by_cases stack : reg = .rsp
  · subst stack
    simp only [Root.call, run, Listing.run_cons, Listing.run_nil, Instr.step, Cpu.setGpr,
      Function.update_self] at abi ⊢
    rw [abi, BitVec.sub_add_cancel]
  · simp only [Root.call, run, Listing.run_cons, Listing.run_nil, Instr.step, Cpu.setGpr,
      Function.update_of_ne stack] at abi ⊢
    exact abi

theorem call_mem (f : Callee) (r : Root ξ) {address : U64} (free : ¬w.scratch address)
    (apart : ¬(f.writesContext = true ∧ InContext (r.cpu.gpr .rcx) address)) :
    (r.call w f).cpu.mem address = r.cpu.mem address :=
  (w.abi f (run [.sub .rsp 0x20] r.cpu)).mem address free apart

theorem Bound.call (bound : Bound m host r) (w : Callees ξ) (f : Callee) :
    Bound m host (r.call w f) := by
  obtain ⟨contract, calls⟩ := bound
  have abi := w.abi f (run [.sub .rsp 0x20] r.cpu)
  have entered : HostContract m host (run [.sub .rsp 0x20] r.cpu) :=
    { contract with aligned := aligned_sub contract.aligned }
  refine ⟨?_, fun call member => ?_⟩
  · have rsp := call_gpr w f r .rsp (by decide)
    exact {
      interrupts := abi.interrupts.trans contract.interrupts
      direction := abi.direction.trans contract.direction
      aligned := by rw [rsp]; exact contract.aligned
      dr7 := abi.dr7.trans contract.dr7
      debugctl := (congrFun abi.msr _).trans contract.debugctl
      kernelGs := (congrFun abi.msr _).trans contract.kernelGs
      xcr0 := fun masked => abi.xcr0.trans (contract.xcr0 masked)
      xss := fun masked saves => (congrFun abi.msr _).trans (contract.xss masked saves) }
  · rcases List.mem_append.mp member with before | here
    · exact calls call before
    · rw [List.mem_singleton.mp here]
      exact entered

/-- A listing that leaves the contract's registers alone. -/
def Instr.keepsContract (i : Instr) : Bool :=
  !(i.touches (.gpr .rsp) || i.touches .msr || i.touches .xcr0 || i.touches .dr7)

theorem run_false (block : List Instr) (c : Cpu ξ) :
    (c.interrupts = false → (run block c).interrupts = false) ∧
      (c.direction = false → (run block c).direction = false) := by
  refine Listing.run_related (fun after before : Cpu ξ =>
      (before.interrupts = false → after.interrupts = false) ∧
        (before.direction = false → after.direction = false))
    (fun _ => ⟨id, id⟩) ?_ (fun i _ c => ?_) c
  · rintro after middle before ⟨first, second⟩ ⟨first', second'⟩
    exact ⟨first ∘ first', second ∘ second'⟩
  · cases i <;> exact ⟨fun off => by first | exact off | rfl, fun off => by first | exact off | rfl⟩

theorem Bound.exec (bound : Bound m host r) (block : List Instr)
    (keeps : block.all (·.keepsContract) = true) : Bound m host (r.exec block) := by
  obtain ⟨contract, calls⟩ := bound
  have clean (part : Part)
      (covered : ∀ i : Instr, i.keepsContract = true → i.touches part = false) :
      part.Same (run block r.cpu) r.cpu := by
    refine run_same part (List.any_eq_false.mpr fun i member => ?_) r.cpu
    exact Bool.not_eq_true _ ▸ covered i (List.all_eq_true.mp keeps i member)
  have rsp : (run block r.cpu).gpr .rsp = r.cpu.gpr .rsp :=
    clean (.gpr .rsp) fun i kept => by simp_all [Instr.keepsContract]
  have msr : (run block r.cpu).msr = r.cpu.msr :=
    clean .msr fun i kept => by simp_all [Instr.keepsContract]
  have xcr0 : (run block r.cpu).xcr0 = r.cpu.xcr0 :=
    clean .xcr0 fun i kept => by simp_all [Instr.keepsContract]
  have dr7 : (run block r.cpu).dr7 = r.cpu.dr7 :=
    clean .dr7 fun i kept => by simp_all [Instr.keepsContract]
  obtain ⟨interrupts, direction⟩ := run_false block r.cpu
  refine ⟨?_, calls⟩
  exact {
    interrupts := interrupts contract.interrupts
    direction := direction contract.direction
    aligned := by
      have aligned := contract.aligned
      rw [← rsp] at aligned
      exact aligned
    dr7 := dr7.trans contract.dr7
    debugctl := (congrFun msr _).trans contract.debugctl
    kernelGs := (congrFun msr _).trans contract.kernelGs
    xcr0 := fun masked => xcr0.trans (contract.xcr0 masked)
    xss := fun masked saves => (congrFun msr _).trans (contract.xss masked saves) }

theorem Bound.trace (bound : Bound m host r) (w : Callees ξ) (event : U64) :
    Bound m host (r.trace w event) :=
  (bound.exec _ rfl).call w .hvTraceCurrentVcpuEvent

theorem loadHostMasks_touches (reg : Gpr) {part : Part} (rax : part ≠ .gpr .rax)
    (rdx : part ≠ .gpr .rdx) (rcx : part ≠ .gpr .rcx) (xcr0 : part ≠ .xcr0) (msr : part ≠ .msr) :
    (loadHostMasks m reg).any (·.touches part) = false := by
  unfold loadHostMasks
  split
  · rfl
  · split <;> simp [writeXcr0, writeMsr, splitRax, Instr.touches, rax, rdx, rcx, xcr0, msr]

theorem loadHostMasks_msr (reg : Gpr) (c : Cpu ξ) {msr : U32} (apart : msr ≠ msrIa32Xss) :
    (run (loadHostMasks m reg) c).msr msr = c.msr msr := by
  unfold loadHostMasks
  split
  · rfl
  · split
    · rw [run_append, writeMsr_msr, Function.update_of_ne apart]
      exact congrFun (run_same .msr rfl c) msr
    · exact congrFun (run_same .msr rfl c) msr

/-- The masks of the host are loaded. -/
theorem loadHostMasks_masks {reg : Gpr} {c : Cpu ξ} (stored : host.Stored (c.gpr reg) c.mem)
    (rax : reg ≠ .rax) (rdx : reg ≠ .rdx) (rcx : reg ≠ .rcx) (masked : m.xstateMode ≠ .fxsave) :
    (run (loadHostMasks m reg) c).xcr0 = host.xcr0 ∧
      (m.xsavesEnabled = true → (run (loadHostMasks m reg) c).msr msrIa32Xss = host.xss) := by
  have xcr0 : (run (writeXcr0 reg hostXcr0FrameSlot) c).xcr0 = host.xcr0 :=
    (writeXcr0_xcr0 reg hostXcr0FrameSlot c).trans stored.xcr0
  have mem : (run (writeXcr0 reg hostXcr0FrameSlot) c).mem = c.mem := run_same .mem rfl c
  have same : (run (writeXcr0 reg hostXcr0FrameSlot) c).gpr reg = c.gpr reg := by
    refine run_same (.gpr reg) ?_ c
    simp [writeXcr0, splitRax, Instr.touches, rax, rdx, rcx]
  unfold loadHostMasks
  rw [if_neg masked]
  by_cases saves : m.xsavesEnabled = true
  · rw [if_pos saves, run_append]
    have kept (c : Cpu ξ) : (run (writeMsr reg hostXssFrameSlot msrIa32Xss) c).xcr0 = c.xcr0 :=
      run_same .xcr0 rfl c
    refine ⟨(kept _).trans xcr0, fun _ => ?_⟩
    rw [writeMsr_msr, Function.update_self, mem, same]
    exact stored.xss
  · rw [if_neg saves, List.append_nil]
    exact ⟨xcr0, fun on => absurd on saves⟩

/-- No store of the instruction goes to a slot of the host. -/
def Instr.sheltered (i : Instr) : Bool :=
  i.avoids hostDr7FrameSlot && i.avoids hostDebugctlFrameSlot && i.avoids hostXcr0FrameSlot &&
    i.avoids hostXssFrameSlot && i.avoids hostKgsFrameSlot

theorem run_rsp {block : List Instr} (sheltered : block.all (·.sheltered) = true) (c : Cpu ξ) :
    (run block c).gpr .rsp = c.gpr .rsp := by
  have avoids : block.all (·.avoids hostDr7FrameSlot) = true := by
    refine List.all_eq_true.mpr fun i member => ?_
    have kept := List.all_eq_true.mp sheltered i member
    simp only [Instr.sheltered, Bool.and_eq_true] at kept
    exact kept.1.1.1.1
  exact (run_avoids avoids c).1

theorem run_stored {block : List Instr} (sheltered : block.all (·.sheltered) = true) {c : Cpu ξ}
    (stored : host.Stored (c.gpr .rsp) c.mem) : host.Stored (c.gpr .rsp) (run block c).mem := by
  have avoids {slot : U64} (covered : ∀ i : Instr, i.sheltered = true → i.avoids slot = true) :
      (run block c).mem (c.gpr .rsp + slot) = c.mem (c.gpr .rsp + slot) := by
    refine (run_avoids (List.all_eq_true.mpr fun i member => ?_) c).2
    exact covered i (List.all_eq_true.mp sheltered i member)
  have parts (i : Instr) (kept : i.sheltered = true) := by
    simpa only [Instr.sheltered, Bool.and_eq_true] using kept
  exact {
    dr7 := (avoids fun i kept => (parts i kept).1.1.1.1).trans stored.dr7
    debugctl := (avoids fun i kept => (parts i kept).1.1.1.2).trans stored.debugctl
    xcr0 := (avoids fun i kept => (parts i kept).1.1.2).trans stored.xcr0
    xss := (avoids fun i kept => (parts i kept).1.2).trans stored.xss
    kernelGs := (avoids fun i kept => (parts i kept).2).trans stored.kernelGs }

theorem Anchored.exec (anchored : Anchored m host base r) (block : List Instr)
    (sheltered : block.all (·.sheltered) = true) (steady : block.any (·.touches .dr7) = false)
    (debugctl : (run block r.cpu).msr msrIa32Debugctl = r.cpu.msr msrIa32Debugctl) :
    Anchored m host base (r.exec block) := by
  obtain ⟨rsp, stored, interrupts, direction, dr7, debugctl', calls⟩ := anchored
  subst rsp
  obtain ⟨interrupts', direction'⟩ := run_false block r.cpu
  have same : (run block r.cpu).dr7 = r.cpu.dr7 := run_same .dr7 steady r.cpu
  exact {
    rsp := run_rsp sheltered r.cpu
    stored := run_stored sheltered stored
    interrupts := interrupts' interrupts
    direction := direction' direction
    dr7 := same.trans dr7
    debugctl := debugctl.trans debugctl'
    calls := calls }

theorem Private.behind (alone : Private w base) {slot : U64} (low : 0x1150 ≤ slot)
    (high : slot < frameSize) (f : Callee) {r : Root ξ}
    (given : f.writesContext = true → r.cpu.gpr .rcx = base) :
    (r.call w f).cpu.mem (base + slot) = r.cpu.mem (base + slot) := by
  refine call_mem f r (alone slot (le_trans (b := 0x1150) (by decide) low) high) ?_
  rintro ⟨writes, other, _, below, same⟩
  rw [given writes, BitVec.add_right_inj] at same
  subst same
  exact absurd below (BitVec.not_lt.mpr low)

theorem Anchored.call (anchored : Anchored m host base r) (bound : Bound m host r)
    (alone : Private w base) (f : Callee)
    (given : f.writesContext = true → r.cpu.gpr .rcx = base) :
    Anchored m host base (r.call w f) := by
  have after := bound.call w f
  have stored := anchored.stored
  exact {
    rsp := (call_gpr w f r .rsp (by decide)).trans anchored.rsp
    stored := {
      dr7 := (alone.behind (by decide) (by decide) f given).trans stored.dr7
      debugctl := (alone.behind (by decide) (by decide) f given).trans stored.debugctl
      xcr0 := (alone.behind (by decide) (by decide) f given).trans stored.xcr0
      xss := (alone.behind (by decide) (by decide) f given).trans stored.xss
      kernelGs := (alone.behind (by decide) (by decide) f given).trans stored.kernelGs }
    interrupts := after.contract.interrupts
    direction := after.contract.direction
    dr7 := after.contract.dr7
    debugctl := after.contract.debugctl
    calls := after.calls }

theorem exec_append (first second : List Instr) (r : Root ξ) :
    r.exec (first ++ second) = (r.exec first).exec second := by
  unfold Root.exec
  rw [run_append]

theorem loadHostMasks_sheltered (m : Machine) (reg : Gpr) :
    (loadHostMasks m reg).all (·.sheltered) = true := by
  unfold loadHostMasks
  split
  · rfl
  · split <;> rfl

theorem Anchored.masks (anchored : Anchored m host base r) (reg : Gpr) :
    Anchored m host base (r.exec (loadHostMasks m reg)) :=
  anchored.exec _ (loadHostMasks_sheltered m reg)
    (loadHostMasks_touches reg (by simp) (by simp) (by simp) (by simp) (by simp))
    (loadHostMasks_msr reg r.cpu (by decide))

theorem Anchored.kernelGs (anchored : Anchored m host base r) (reg : Gpr) :
    Anchored m host base (r.exec (loadHostKernelGs reg)) := by
  refine anchored.exec _ rfl rfl ?_
  rw [loadHostKernelGs, writeMsr_msr, Function.update_of_ne (by decide)]

theorem Anchored.bound (anchored : Anchored m host base r) (aligned : base.toNat % 16 = 0)
    (kernelGs : r.cpu.msr msrKernelGsBase = host.kernelGs)
    (masks : m.xstateMode ≠ .fxsave → r.cpu.xcr0 = host.xcr0 ∧
      (m.xsavesEnabled = true → r.cpu.msr msrIa32Xss = host.xss)) : Bound m host r :=
  ⟨{ interrupts := anchored.interrupts
     direction := anchored.direction
     aligned := by rw [anchored.rsp]; exact aligned
     dr7 := anchored.dr7
     debugctl := anchored.debugctl
     kernelGs := kernelGs
     xcr0 := fun masked => (masks masked).1
     xss := fun masked => (masks masked).2 }, anchored.calls⟩

/-- The masks and KERNEL_GS_BASE come back from the frame. -/
theorem Anchored.loadHost (anchored : Anchored m host base r) (aligned : base.toNat % 16 = 0)
    (reg : Gpr) (here : r.cpu.gpr reg = base) (rax : reg ≠ .rax) (rdx : reg ≠ .rdx)
    (rcx : reg ≠ .rcx) :
    Anchored m host base (r.exec (loadHostMasks m reg ++ loadHostKernelGs reg)) ∧
      Bound m host (r.exec (loadHostMasks m reg ++ loadHostKernelGs reg)) := by
  rw [exec_append]
  have masked := anchored.masks reg
  have whole := masked.kernelGs reg
  have still : (r.exec (loadHostMasks m reg)).cpu.gpr reg = base := by
    refine Eq.trans ?_ here
    exact run_same (.gpr reg) (loadHostMasks_touches reg (by simpa using rax) (by simpa using rdx)
      (by simpa using rcx) (by simp) (by simp)) r.cpu
  have stored := anchored.stored
  rw [← here] at stored
  refine ⟨whole, whole.bound aligned ?_ fun present => ?_⟩
  · simp only [Root.exec, loadHostKernelGs, writeMsr_msr, Function.update_self]
    have slot := masked.stored.kernelGs
    rw [← still] at slot
    exact slot
  · obtain ⟨xcr0, xss⟩ := loadHostMasks_masks stored rax rdx rcx present
    have kept (c : Cpu ξ) : (run (loadHostKernelGs reg) c).xcr0 = c.xcr0 := run_same .xcr0 rfl c
    refine ⟨(kept _).trans xcr0, fun saves => ?_⟩
    simp only [Root.exec, loadHostKernelGs, writeMsr_msr]
    rw [Function.update_of_ne (by decide)]
    exact xss saves

/-- KERNEL_GS_BASE first, then the masks. -/
theorem Anchored.loadHost' (anchored : Anchored m host base r) (aligned : base.toNat % 16 = 0)
    (reg : Gpr) (here : r.cpu.gpr reg = base) (rax : reg ≠ .rax) (rdx : reg ≠ .rdx)
    (rcx : reg ≠ .rcx) :
    Anchored m host base (r.exec (loadHostKernelGs reg ++ loadHostMasks m reg)) ∧
      Bound m host (r.exec (loadHostKernelGs reg ++ loadHostMasks m reg)) := by
  rw [exec_append]
  have gs := anchored.kernelGs reg
  have whole := gs.masks reg
  have still : (r.exec (loadHostKernelGs reg)).cpu.gpr reg = base := by
    refine Eq.trans ?_ here
    refine run_same (.gpr reg) ?_ r.cpu
    simp [loadHostKernelGs, writeMsr, splitRax, Instr.touches, rax, rdx, rcx]
  have stored := gs.stored
  rw [← still] at stored
  refine ⟨whole, whole.bound aligned ?_ fun present => ?_⟩
  · refine (loadHostMasks_msr reg _ (by decide)).trans ?_
    simp only [Root.exec, loadHostKernelGs, writeMsr_msr, Function.update_self]
    have slot := anchored.stored.kernelGs
    rw [← here] at slot
    exact slot
  · exact loadHostMasks_masks stored rax rdx rcx present

end

end Knhv.Entry
