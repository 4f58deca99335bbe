import Knhv.Entry.Calls

namespace Knhv.Entry

open Vmx (Machine vmxOk)

variable {ξ : Type} {m : Machine} {host : HostSlots} {w : Callees ξ} {base : U64} {r : Root ξ}
  {answers : Answers}

/-! What goes through the frame comes back from it. -/

/-- The slots of a frame as addresses. -/
def placed (slots : List (Gpr × U64)) (base : U64) : List (Gpr × U64) :=
  slots.map fun entry => (entry.1, base + entry.2)

theorem placed_nodup {slots : List (Gpr × U64)} (distinct : (slots.map Prod.snd).Nodup)
    (base : U64) : ((placed slots base).map Prod.snd).Nodup := by
  have addresses : (placed slots base).map Prod.snd = (slots.map Prod.snd).map (base + ·) := by
    simp only [placed, List.map_map]
    rfl
  rw [addresses]
  exact distinct.map fun first second same => (BitVec.add_right_inj base).mp same

theorem placed_regs (slots : List (Gpr × U64)) (base : U64) :
    (placed slots base).map Prod.fst = slots.map Prod.fst := by
  simp only [placed, List.map_map]
  rfl

theorem mem_placed {slots : List (Gpr × U64)} {entry : Gpr × U64} (member : entry ∈ slots)
    (base : U64) : (entry.1, base + entry.2) ∈ placed slots base :=
  List.mem_map.mpr ⟨entry, member, rfl⟩

theorem run_spill (base : Gpr) (slots : List (Gpr × U64)) (c : Cpu ξ) :
    run (slots.map fun entry => .store base entry.2 entry.1) c =
      { c with mem := Listing.spill c.gpr (placed slots (c.gpr base)) c.mem } := by
  induction slots generalizing c with
  | nil => rfl
  | cons entry rest ih => exact ih (c.setMem (c.gpr base + entry.2) (c.gpr entry.1))

theorem run_reload (base : Gpr) (slots : List (Gpr × U64)) (apart : base ∉ slots.map Prod.fst)
    (c : Cpu ξ) : run (slots.map fun entry => .load entry.1 base entry.2) c =
      { c with gpr := Listing.reload c.mem (placed slots (c.gpr base)) c.gpr } := by
  induction slots generalizing c with
  | nil => rfl
  | cons entry rest ih =>
    rw [List.map_cons, List.mem_cons, not_or] at apart
    obtain ⟨here, later⟩ := apart
    have same : (c.setGpr entry.1 (c.mem (c.gpr base + entry.2))).gpr base = c.gpr base :=
      Function.update_of_ne here _ _
    have next := ih later (c.setGpr entry.1 (c.mem (c.gpr base + entry.2)))
    rw [same] at next
    exact next

theorem joined (value : U64) :
    low32 (low32 value) ||| low32 (value >>> 32) <<< 32 = value := by
  refine Eq.trans ?_ (paired_split value)
  refine BitVec.eq_of_getLsbD_eq fun bit inside => ?_
  rw [getLsbD_paired _ _ inside, BitVec.getLsbD_or, BitVec.getLsbD_shiftLeft, getLsbD_low32,
    getLsbD_low32, getLsbD_low32]
  by_cases low : bit < 32
  · simp [low]
  · have below : bit - 32 < 32 := by omega
    simp [low, below, inside]

theorem run_store (base : Gpr) (slot : U64) (src : Gpr) (c : Cpu ξ) :
    (run [.store base slot src] c).mem (c.gpr base + slot) = c.gpr src :=
  Function.update_self _ _ _

theorem captureKernelGs_mem (c : Cpu ξ) :
    (run captureKernelGs c).mem (c.gpr .rsp + ctxGuestKgs) = c.msr msrKernelGsBase := by
  have value (c : Cpu ξ) (msr : U32) : (run [.movImm .rcx (msr.setWidth 64), .rdmsr, .mov32 .rax .rax,
      .mov32 .rdx .rdx, .shl .rdx 0x20, .or .rax .rdx] c).gpr .rax = c.msr msr := by
    simp [run, Instr.step, Cpu.setGpr, joined]
  have rsp (c : Cpu ξ) (msr : U32) : (run [.movImm .rcx (msr.setWidth 64), .rdmsr, .mov32 .rax .rax,
      .mov32 .rdx .rdx, .shl .rdx 0x20, .or .rax .rdx] c).gpr .rsp = c.gpr .rsp :=
    run_same (.gpr .rsp) rfl c
  have listing : captureKernelGs = [.movImm .rcx (msrKernelGsBase.setWidth 64), .rdmsr,
      .mov32 .rax .rax, .mov32 .rdx .rdx, .shl .rdx 0x20, .or .rax .rdx] ++
        [Instr.store .rsp ctxGuestKgs .rax] := rfl
  rw [listing, run_append, ← value c, ← rsp c msrKernelGsBase, run_store]

/-- A value in EDX:EAX reaches its slot whole. -/
theorem storePair_mem (slot : U64) (c : Cpu ξ) (value : U64) (low : c.gpr .rax = low32 value)
    (high : c.gpr .rdx = value >>> 32) :
    (run (storePair slot) c).mem (c.gpr .rsp + slot) = value := by
  have gathered (c : Cpu ξ) (low : c.gpr .rax = low32 value) (high : c.gpr .rdx = value >>> 32) :
      (run [.mov32 .r8 .rax, .mov32 .r9 .rdx, .mov .rdx .r9, .shl .rdx 0x20, .or .r8 .rdx] c).gpr
        .r8 = value := by
    simp [run, Instr.step, Cpu.setGpr, low, high, joined]
  have rsp (c : Cpu ξ) : (run [.mov32 .r8 .rax, .mov32 .r9 .rdx, .mov .rdx .r9, .shl .rdx 0x20,
      .or .r8 .rdx] c).gpr .rsp = c.gpr .rsp := run_same (.gpr .rsp) rfl c
  have listing : storePair slot = [.mov32 .r8 .rax, .mov32 .r9 .rdx, .mov .rdx .r9, .shl .rdx 0x20,
      .or .r8 .rdx] ++ [Instr.store .rsp slot .r8] := rfl
  rw [listing, run_append, ← rsp c, run_store]
  exact gathered c low high

theorem captureXcr0_mem (c : Cpu ξ) :
    (run captureXcr0 c).mem (c.gpr .rsp + ctxGuestXcr0) = c.xcr0 := by
  have rsp : (run [.xor32 .rcx, .xgetbv] c).gpr .rsp = c.gpr .rsp := run_same (.gpr .rsp) rfl c
  rw [captureXcr0, run_append, ← rsp]
  exact storePair_mem ctxGuestXcr0 _ c.xcr0 rfl rfl

theorem captureXss_mem (c : Cpu ξ) :
    (run captureXss c).mem (c.gpr .rsp + ctxGuestXss) = c.msr msrIa32Xss := by
  have rsp : (run [.movImm .rcx (msrIa32Xss.setWidth 64), .rdmsr] c).gpr .rsp = c.gpr .rsp :=
    run_same (.gpr .rsp) rfl c
  have read (msr : U32) (c : Cpu ξ) :
      (run [.movImm .rcx (msr.setWidth 64), .rdmsr] c).gpr .rax = low32 (c.msr msr) ∧
        (run [.movImm .rcx (msr.setWidth 64), .rdmsr] c).gpr .rdx = c.msr msr >>> 32 := by
    constructor <;> simp [run, Instr.step, Cpu.setGpr]
  obtain ⟨low, high⟩ := read msrIa32Xss c
  rw [captureXss, run_append, ← rsp]
  exact storePair_mem ctxGuestXss _ _ low high

/-- What the XSAVE instructions are asked for. -/
theorem requestBoth_run (reg : Gpr) (c : Cpu ξ) :
    paired ((run (requestBoth reg) c).gpr .rdx) ((run (requestBoth reg) c).gpr .rax) =
      c.mem (c.gpr reg + hostXcr0FrameSlot) ||| c.gpr .r15 := by
  simp [run, requestBoth, splitRax, Instr.step, Cpu.setGpr, paired_split]

theorem requestHost_run (reg : Gpr) (c : Cpu ξ) :
    paired ((run (requestHost reg) c).gpr .rdx) ((run (requestHost reg) c).gpr .rax) =
      c.mem (c.gpr reg + hostXcr0FrameSlot) := by
  simp [run, requestHost, splitRax, Instr.step, Cpu.setGpr, paired_split]

/-- The components that every exit of a processor saves and loads. -/
def savedMask (m : Machine) (host : HostSlots) : U64 :=
  if m.xstateMode = .fxsave then legacyMask
  else if m.xsavesEnabled then host.xcr0 ||| m.xsavesMask
  else host.xcr0

theorem run_saved (supervisor : Bool) (c : Cpu ξ) {mask : U64}
    (requested : c.requested supervisor = mask) {i : Nat} (member : mask.getLsbD i = true) :
    (run [.saved supervisor .rsp] c).image (c.gpr .rsp) i = c.ext i := by
  have image : (run [.saved supervisor .rsp] c).image (c.gpr .rsp) =
      fun i => if (c.requested supervisor).getLsbD i then c.ext i else c.image (c.gpr .rsp) i :=
    Function.update_self _ _ _
  rw [image]
  simp only [requested, member, if_true]

theorem run_reloaded (supervisor : Bool) (reg : Gpr) (c : Cpu ξ) {mask : U64}
    (requested : c.requested supervisor = mask) {i : Nat} (member : mask.getLsbD i = true) :
    (run [.reloaded supervisor reg] c).ext i = c.image (c.gpr reg) i := by
  have ext : (run [.reloaded supervisor reg] c).ext i =
      if (c.requested supervisor).getLsbD i then c.image (c.gpr reg) i else c.ext i := rfl
  rw [ext, requested, if_pos member]

/-- The host's mask is loaded and asked for. -/
theorem requestHost_requested {reg : Gpr} {c : Cpu ξ} (stored : host.Stored (c.gpr reg) c.mem)
    (xcr0 : c.xcr0 = host.xcr0) : (run (requestHost reg) c).requested false = host.xcr0 := by
  have same : (run (requestHost reg) c).xcr0 = c.xcr0 := run_same .xcr0 rfl c
  rw [Cpu.requested, requestHost_run, same, xcr0, stored.xcr0]
  exact BitVec.and_self

theorem requestBoth_requested {reg : Gpr} {c : Cpu ξ} (stored : host.Stored (c.gpr reg) c.mem)
    (xcr0 : c.xcr0 = host.xcr0) (xss : c.msr msrIa32Xss = m.xsavesMask)
    (r15 : c.gpr .r15 = m.xsavesMask) :
    (run (requestBoth reg) c).requested true = host.xcr0 ||| m.xsavesMask := by
  have same : (run (requestBoth reg) c).xcr0 = c.xcr0 := run_same .xcr0 rfl c
  have msr : (run (requestBoth reg) c).msr = c.msr := run_same .msr rfl c
  rw [Cpu.requested, requestBoth_run, same, xcr0, stored.xcr0, msr, xss, r15]
  exact BitVec.and_self

theorem low32_low32 (value : U64) : low32 (low32 value) = low32 value := by
  refine BitVec.eq_of_getLsbD_eq fun bit inside => ?_
  rw [getLsbD_low32, getLsbD_low32]
  by_cases low : bit < 32 <;> simp [low]

theorem paired_low32 (edx eax : U64) : paired (low32 edx) (low32 eax) = paired edx eax := by
  rw [paired, paired, low32_low32, low32_low32]

theorem loadXsavesMask_xss (m : Machine) (c : Cpu ξ) :
    (run (loadXsavesMask m) c).msr msrIa32Xss = m.xsavesMask ∧
      (run (loadXsavesMask m) c).gpr .r15 = m.xsavesMask := by
  constructor <;>
    simp [run, loadXsavesMask, Instr.step, Cpu.setGpr, paired_low32, paired_split]

/-- The immutable mask is in IA32_XSS, and with the host's XCR0 asked for. -/
theorem request_requested {reg : Gpr} {c : Cpu ξ} (stored : host.Stored (c.gpr reg) c.mem)
    (xcr0 : c.xcr0 = host.xcr0)
    (apart : (loadXsavesMask m).any (·.touches (.gpr reg)) = false) :
    (run (loadXsavesMask m ++ requestBoth reg) c).requested true =
      host.xcr0 ||| m.xsavesMask := by
  have mem : (run (loadXsavesMask m) c).mem = c.mem := run_same .mem rfl c
  have same : (run (loadXsavesMask m) c).gpr reg = c.gpr reg := run_same (.gpr reg) apart c
  have kept : (run (loadXsavesMask m) c).xcr0 = c.xcr0 := run_same .xcr0 rfl c
  obtain ⟨xss, r15⟩ := loadXsavesMask_xss m c
  rw [run_append]
  refine requestBoth_requested ?_ (kept.trans xcr0) xss r15
  rw [mem, same]
  exact stored

/-- What the guest's side of the extended state is, in the frame. -/
structure XstateSaved (m : Machine) (host : HostSlots) (guest c : Cpu ξ) (base : U64) : Prop where
  image : ∀ i, (savedMask m host).getLsbD i = true → c.image base i = guest.ext i
  xcr0 : m.xstateMode ≠ .fxsave → c.mem (base + ctxGuestXcr0) = guest.xcr0
  xss : m.xstateMode ≠ .fxsave → m.xsavesEnabled = true →
    c.mem (base + ctxGuestXss) = guest.msr msrIa32Xss

/-- XSAVES under the mask that every exit of the processor uses. -/
theorem saveSupervisor_saved {c : Cpu ξ} (stored : host.Stored (c.gpr .rsp) c.mem)
    (xcr0 : c.xcr0 = host.xcr0) {d : Cpu ξ}
    (run : d =
      Entry.run (captureXss ++ loadXsavesMask m ++ requestBoth .rsp ++ [Instr.saved true .rsp]) c) :
    (∀ i, (host.xcr0 ||| m.xsavesMask).getLsbD i = true → d.image (c.gpr .rsp) i = c.ext i) ∧
      d.mem (c.gpr .rsp + ctxGuestXcr0) = c.mem (c.gpr .rsp + ctxGuestXcr0) ∧
      d.mem (c.gpr .rsp + ctxGuestXss) = c.msr msrIa32Xss := by
  have rsp₁ : (Entry.run captureXss c).gpr .rsp = c.gpr .rsp := run_rsp rfl c
  have xcr0₁ : (Entry.run captureXss c).xcr0 = host.xcr0 :=
    Eq.trans (run_same .xcr0 rfl c) xcr0
  have stored₁ : host.Stored ((Entry.run captureXss c).gpr .rsp) (Entry.run captureXss c).mem := by
    rw [rsp₁]
    exact run_stored rfl stored
  have slot : (Entry.run captureXss c).mem (c.gpr .rsp + ctxGuestXcr0) =
      c.mem (c.gpr .rsp + ctxGuestXcr0) := (run_avoids rfl c).2
  have ext₁ : (Entry.run captureXss c).ext = c.ext := run_same .ext rfl c
  have requested := request_requested stored₁ xcr0₁ (m := m) rfl
  rw [List.append_assoc, List.append_assoc, run_append, ← List.append_assoc, run_append] at run
  have ext₂ (c : Cpu ξ) : (Entry.run (loadXsavesMask m ++ requestBoth .rsp) c).ext = c.ext :=
    run_same .ext rfl c
  have rsp₂ (c : Cpu ξ) : (Entry.run (loadXsavesMask m ++ requestBoth .rsp) c).gpr .rsp =
      c.gpr .rsp := run_same (.gpr .rsp) rfl c
  have mem₂ (c : Cpu ξ) : (Entry.run (loadXsavesMask m ++ requestBoth .rsp) c).mem = c.mem :=
    run_same .mem rfl c
  have mem₃ (c : Cpu ξ) : (Entry.run [.saved true .rsp] c).mem = c.mem := run_same .mem rfl c
  subst run
  refine ⟨fun i member => ?_, ?_, ?_⟩
  · have image := run_saved true _ requested member
    rw [rsp₂, rsp₁, ext₂, ext₁] at image
    exact image
  · rw [mem₃, mem₂, slot]
  · rw [mem₃, mem₂, captureXss_mem]

/-- XSAVE under the host's XCR0. -/
theorem saveUser_saved {c : Cpu ξ} (stored : host.Stored (c.gpr .rsp) c.mem)
    (xcr0 : c.xcr0 = host.xcr0) {d : Cpu ξ}
    (run : d =
      Entry.run (.storeImm .rsp ctxGuestXss 0 :: requestHost .rsp ++ [Instr.saved false .rsp]) c) :
    (∀ i, host.xcr0.getLsbD i = true → d.image (c.gpr .rsp) i = c.ext i) ∧
      d.mem (c.gpr .rsp + ctxGuestXcr0) = c.mem (c.gpr .rsp + ctxGuestXcr0) := by
  rw [show (Instr.storeImm .rsp ctxGuestXss 0 :: requestHost .rsp ++ [Instr.saved false .rsp]) =
    [Instr.storeImm .rsp ctxGuestXss 0] ++ (requestHost .rsp ++ [Instr.saved false .rsp]) from rfl,
    run_append, run_append] at run
  have rsp₁ : (Entry.run [.storeImm .rsp ctxGuestXss 0] c).gpr .rsp = c.gpr .rsp := run_rsp rfl c
  have xcr0₁ : (Entry.run [.storeImm .rsp ctxGuestXss 0] c).xcr0 = host.xcr0 :=
    Eq.trans (run_same .xcr0 rfl c) xcr0
  have stored₁ : host.Stored ((Entry.run [.storeImm .rsp ctxGuestXss 0] c).gpr .rsp)
      (Entry.run [.storeImm .rsp ctxGuestXss 0] c).mem := by
    rw [rsp₁]
    exact run_stored rfl stored
  have slot : (Entry.run [.storeImm .rsp ctxGuestXss 0] c).mem (c.gpr .rsp + ctxGuestXcr0) =
      c.mem (c.gpr .rsp + ctxGuestXcr0) := (run_avoids rfl c).2
  have ext₁ : (Entry.run [.storeImm .rsp ctxGuestXss 0] c).ext = c.ext := run_same .ext rfl c
  have requested := requestHost_requested stored₁ xcr0₁
  have ext₂ (c : Cpu ξ) : (Entry.run (requestHost .rsp) c).ext = c.ext := run_same .ext rfl c
  have rsp₂ (c : Cpu ξ) : (Entry.run (requestHost .rsp) c).gpr .rsp = c.gpr .rsp :=
    run_same (.gpr .rsp) rfl c
  have mem₂ (c : Cpu ξ) : (Entry.run (requestHost .rsp) c).mem = c.mem := run_same .mem rfl c
  have mem₃ (c : Cpu ξ) : (Entry.run [.saved false .rsp] c).mem = c.mem := run_same .mem rfl c
  subst run
  refine ⟨fun i member => ?_, ?_⟩
  · have image := run_saved false _ requested member
    rw [rsp₂, rsp₁, ext₂, ext₁] at image
    exact image
  · rw [mem₃, mem₂, slot]

theorem saveXstate_saved {c : Cpu ξ} (stored : host.Stored (c.gpr .rsp) c.mem) :
    XstateSaved m host c (run (saveXstate m) c) (c.gpr .rsp) := by
  by_cases legacy : m.xstateMode = .fxsave
  · have mask : savedMask m host = legacyMask := if_pos legacy
    rw [saveXstate, if_pos legacy]
    refine ⟨fun i member => ?_, fun masked => absurd legacy masked,
      fun masked => absurd legacy masked⟩
    have image : (run [.storeImm .rsp ctxGuestXcr0 0, .storeImm .rsp ctxGuestXss 0, .fxsave .rsp]
        c).image (c.gpr .rsp) = fun i => if legacyMask.getLsbD i then c.ext i
          else c.image (c.gpr .rsp) i := Function.update_self _ _ _
    rw [mask] at member
    rw [image]
    simp only [member, if_true]
  · -- the guest's XCR0 is in its slot and the host's in the register
    have rsp₁ : (run captureXcr0 c).gpr .rsp = c.gpr .rsp := run_rsp rfl c
    have stored₁ : host.Stored (c.gpr .rsp) (run captureXcr0 c).mem := run_stored rfl stored
    have rsp₂ : (run (writeXcr0 .rsp hostXcr0FrameSlot) (run captureXcr0 c)).gpr .rsp =
        c.gpr .rsp := (run_rsp rfl _).trans rsp₁
    have mem₂ : (run (writeXcr0 .rsp hostXcr0FrameSlot) (run captureXcr0 c)).mem =
        (run captureXcr0 c).mem := run_same .mem rfl _
    have xcr0₂ : (run (writeXcr0 .rsp hostXcr0FrameSlot) (run captureXcr0 c)).xcr0 = host.xcr0 := by
      rw [writeXcr0_xcr0, rsp₁]
      exact stored₁.xcr0
    have ext₂ : (run (writeXcr0 .rsp hostXcr0FrameSlot) (run captureXcr0 c)).ext = c.ext := by
      rw [← run_append]
      exact run_same .ext rfl c
    have msr₂ : (run (writeXcr0 .rsp hostXcr0FrameSlot) (run captureXcr0 c)).msr = c.msr := by
      rw [← run_append]
      exact run_same .msr rfl c
    have slot₂ : (run (writeXcr0 .rsp hostXcr0FrameSlot) (run captureXcr0 c)).mem
        (c.gpr .rsp + ctxGuestXcr0) = c.xcr0 := by
      rw [mem₂, captureXcr0_mem]
    have stored₂ := stored₁
    rw [← mem₂, ← rsp₂] at stored₂
    rw [saveXstate, if_neg legacy, run_append, run_append]
    generalize run (writeXcr0 .rsp hostXcr0FrameSlot) (run captureXcr0 c) = d at *
    by_cases saves : m.xsavesEnabled = true
    · have mask : savedMask m host = host.xcr0 ||| m.xsavesMask := by
        rw [savedMask, if_neg legacy, if_pos saves]
      rw [if_pos saves]
      obtain ⟨image, xcr0, xss⟩ := saveSupervisor_saved stored₂ xcr0₂ rfl
      rw [rsp₂] at image xcr0 xss
      rw [ext₂] at image
      refine ⟨fun i member => image i (mask ▸ member), fun _ => ?_, fun _ _ => ?_⟩
      · rw [xcr0, slot₂]
      · rw [xss, msr₂]
    · have mask : savedMask m host = host.xcr0 := by
        rw [savedMask, if_neg legacy, if_neg saves]
      rw [if_neg saves]
      obtain ⟨image, xcr0⟩ := saveUser_saved stored₂ xcr0₂ rfl
      rw [rsp₂] at image xcr0
      rw [ext₂] at image
      refine ⟨fun i member => image i (mask ▸ member), fun _ => ?_, fun _ on => absurd on saves⟩
      rw [xcr0, slot₂]

/-- The registers that loading the extended state goes through. -/
def xstateScratch : List Gpr := [.rax, .rcx, .rdx, .r14, .r15]

theorem xstateScratch_clean {block : List Instr} {reg : Gpr} (apart : reg ∉ xstateScratch)
    (within : ∀ i ∈ block, ∀ other, i.touches (.gpr other) = true → other ∈ xstateScratch) :
    block.any (·.touches (.gpr reg)) = false := by
  refine List.any_eq_false.mpr fun i member touched => apart ?_
  exact within i member reg touched

theorem writeXcr0_gpr {reg : Gpr} (apart : reg ∉ xstateScratch) (base : Gpr) (slot : U64)
    (c : Cpu ξ) : (run (writeXcr0 base slot) c).gpr reg = c.gpr reg := by
  refine run_same (.gpr reg) (xstateScratch_clean apart ?_) c
  simp [writeXcr0, splitRax, Instr.touches, xstateScratch]

theorem writeMsr_gpr {reg : Gpr} (apart : reg ∉ xstateScratch) (base : Gpr) (slot : U64) (msr : U32)
    (c : Cpu ξ) : (run (writeMsr base slot msr) c).gpr reg = c.gpr reg := by
  refine run_same (.gpr reg) (xstateScratch_clean apart ?_) c
  simp [writeMsr, splitRax, Instr.touches, xstateScratch]

theorem loadXsavesMask_clean {reg : Gpr} (apart : reg ∉ xstateScratch) :
    (loadXsavesMask m).any (·.touches (.gpr reg)) = false := by
  refine xstateScratch_clean apart ?_
  simp [loadXsavesMask, Instr.touches, xstateScratch]

theorem requestBoth_clean {reg : Gpr} (apart : reg ∉ xstateScratch) (base : Gpr) :
    (requestBoth base).any (·.touches (.gpr reg)) = false := by
  refine xstateScratch_clean apart ?_
  simp [requestBoth, splitRax, Instr.touches, xstateScratch]

theorem requestHost_gpr {reg : Gpr} (apart : reg ∉ xstateScratch) (base : Gpr) (c : Cpu ξ) :
    (run (requestHost base) c).gpr reg = c.gpr reg := by
  refine run_same (.gpr reg) (xstateScratch_clean apart ?_) c
  simp [requestHost, splitRax, Instr.touches, xstateScratch]

/-- The image is loaded as it was saved, and the guest's masks after it. -/
theorem restoreXstate_restored {reg : Gpr} (apart : reg ∉ xstateScratch) {c : Cpu ξ}
    (stored : host.Stored (c.gpr reg) c.mem) :
    (∀ i, (savedMask m host).getLsbD i = true →
      (run (restoreXstate m reg) c).ext i = c.image (c.gpr reg) i) ∧
    (m.xstateMode ≠ .fxsave →
      (run (restoreXstate m reg) c).xcr0 = c.mem (c.gpr reg + ctxGuestXcr0)) ∧
    (m.xstateMode ≠ .fxsave → m.xsavesEnabled = true →
      (run (restoreXstate m reg) c).msr msrIa32Xss = c.mem (c.gpr reg + ctxGuestXss)) := by
  by_cases legacy : m.xstateMode = .fxsave
  · have mask : savedMask m host = legacyMask := if_pos legacy
    rw [restoreXstate, if_pos legacy]
    refine ⟨fun i member => ?_, fun masked => absurd legacy masked,
      fun masked => absurd legacy masked⟩
    have ext : (run [.fxrstor reg] c).ext i =
        if legacyMask.getLsbD i then c.image (c.gpr reg) i else c.ext i := rfl
    rw [mask] at member
    rw [ext, if_pos member]
  · have reg₁ : (run (writeXcr0 reg hostXcr0FrameSlot) c).gpr reg = c.gpr reg :=
      writeXcr0_gpr apart reg _ c
    have mem₁ : (run (writeXcr0 reg hostXcr0FrameSlot) c).mem = c.mem := run_same .mem rfl c
    have image₁ : (run (writeXcr0 reg hostXcr0FrameSlot) c).image = c.image :=
      run_same .image rfl c
    have xcr0₁ : (run (writeXcr0 reg hostXcr0FrameSlot) c).xcr0 = host.xcr0 := by
      rw [writeXcr0_xcr0]
      exact stored.xcr0
    have stored₁ := stored
    rw [← mem₁, ← reg₁] at stored₁
    rw [restoreXstate, if_neg legacy, run_append]
    rw [← mem₁, ← image₁, ← reg₁]
    generalize run (writeXcr0 reg hostXcr0FrameSlot) c = d at *
    have later (slot : U64) (c : Cpu ξ) : (run (writeXcr0 reg slot) c).ext = c.ext :=
      run_same .ext rfl c
    by_cases saves : m.xsavesEnabled = true
    · have mask : savedMask m host = host.xcr0 ||| m.xsavesMask := by
        rw [savedMask, if_neg legacy, if_pos saves]
      have requested := request_requested stored₁ xcr0₁ (m := m) (loadXsavesMask_clean apart)
      have reg₂ (c : Cpu ξ) : (run (loadXsavesMask m ++ requestBoth reg) c).gpr reg =
          c.gpr reg := by
        refine run_same (.gpr reg) ?_ c
        rw [List.any_append, loadXsavesMask_clean apart, requestBoth_clean apart]
        rfl
      have mem₂ (c : Cpu ξ) : (run (loadXsavesMask m ++ requestBoth reg) c).mem = c.mem :=
        run_same .mem rfl c
      have image₂ (c : Cpu ξ) : (run (loadXsavesMask m ++ requestBoth reg) c).image = c.image :=
        run_same .image rfl c
      have reg₃ (c : Cpu ξ) : (run [.reloaded true reg] c).gpr reg = c.gpr reg := rfl
      have mem₃ (c : Cpu ξ) : (run [.reloaded true reg] c).mem = c.mem := rfl
      have ext₄ (c : Cpu ξ) : (run (writeMsr reg ctxGuestXss msrIa32Xss) c).ext = c.ext :=
        run_same .ext rfl c
      have reg₄ (c : Cpu ξ) : (run (writeMsr reg ctxGuestXss msrIa32Xss) c).gpr reg =
          c.gpr reg := writeMsr_gpr apart reg _ _ c
      have mem₄ (c : Cpu ξ) : (run (writeMsr reg ctxGuestXss msrIa32Xss) c).mem = c.mem :=
        run_same .mem rfl c
      have msr₅ (c : Cpu ξ) : (run (writeXcr0 reg ctxGuestXcr0) c).msr = c.msr :=
        run_same .msr rfl c
      rw [if_pos saves, run_append, run_append, run_append]
      refine ⟨fun i member => ?_, fun _ => ?_, fun _ _ => ?_⟩
      · rw [later, ext₄, run_reloaded true reg _ requested (mask ▸ member), image₂, reg₂]
      · rw [writeXcr0_xcr0, mem₄, mem₃, mem₂, reg₄, reg₃, reg₂]
      · rw [msr₅, writeMsr_msr, Function.update_self, mem₃, mem₂, reg₃, reg₂]
    · have mask : savedMask m host = host.xcr0 := by
        rw [savedMask, if_neg legacy, if_neg saves]
      have requested := requestHost_requested stored₁ xcr0₁
      have reg₂ (c : Cpu ξ) : (run (requestHost reg) c).gpr reg = c.gpr reg :=
        requestHost_gpr apart reg c
      have mem₂ (c : Cpu ξ) : (run (requestHost reg) c).mem = c.mem := run_same .mem rfl c
      have image₂ (c : Cpu ξ) : (run (requestHost reg) c).image = c.image :=
        run_same .image rfl c
      have reg₃ (c : Cpu ξ) : (run [.reloaded false reg] c).gpr reg = c.gpr reg := rfl
      have mem₃ (c : Cpu ξ) : (run [.reloaded false reg] c).mem = c.mem := rfl
      rw [if_neg saves, run_append, run_append]
      refine ⟨fun i member => ?_, fun _ => ?_, fun _ on => absurd on saves⟩
      · rw [later, run_reloaded false reg _ requested (mask ▸ member), image₂, reg₂]
      · rw [writeXcr0_xcr0, mem₃, mem₂, reg₃, reg₂]

/-! The guest's state in the frame. -/

/-- The frame holds what VMX does not save, and its debug state is complete or
the exit is fatal. -/
structure Captured (m : Machine) (host : HostSlots) (answers : Answers) (guest c : Cpu ξ)
    (base : U64) : Prop where
  gprs : ∀ entry ∈ gprSlots, c.mem (base + entry.2) = guest.gpr entry.1
  kernelGs : c.mem (base + ctxGuestKgs) = guest.msr msrKernelGsBase
  xstate : XstateSaved m host guest c base
  abort : c.mem (base + ctxAbortVm) = 0
  halt : c.mem (base + ctxHaltVm) =
    if vmxOk answers.guestDr7.flags && vmxOk answers.guestDebugctl.flags then 0 else 1
  dr7 : vmxOk answers.guestDr7.flags = true → c.mem (base + ctxGuestDr7) = answers.guestDr7.value
  debugctl : vmxOk answers.guestDebugctl.flags = true →
    c.mem (base + ctxGuestDebugctl) = answers.guestDebugctl.value

/-- The slots that are complete before the host's state is loaded. -/
def frameSlots : List U64 :=
  gprSlots.map Prod.snd ++ [ctxGuestKgs, ctxAbortVm, ctxHaltVm, ctxGuestDr7, ctxGuestDebugctl]

/-- A listing keeps these slots of the frame. -/
def keepsSlots (slots : List U64) (block : List Instr) : Bool :=
  slots.all fun slot => block.all (·.avoids slot)

theorem run_keeps (slots : List U64) (block : List Instr) (keeps : keepsSlots slots block = true)
    (c : Cpu ξ) (slot : U64) (member : slot ∈ slots) :
    (run block c).mem (c.gpr .rsp + slot) = c.mem (c.gpr .rsp + slot) :=
  (run_avoids (List.all_eq_true.mp keeps slot member) c).2

theorem keepsSlots_append {slots : List U64} {first second : List Instr}
    (keeps : keepsSlots slots first = true) (keeps' : keepsSlots slots second = true) :
    keepsSlots slots (first ++ second) = true := by
  refine List.all_eq_true.mpr fun slot member => ?_
  rw [List.all_append, Bool.and_eq_true]
  exact ⟨List.all_eq_true.mp keeps slot member, List.all_eq_true.mp keeps' slot member⟩

theorem saveXstate_keeps (m : Machine) : keepsSlots frameSlots (saveXstate m) = true := by
  unfold saveXstate
  split
  · rfl
  · split <;> rfl

theorem readDebugField_run (field slot : U64) (read : VmcsRead) (c : Cpu ξ) :
    (run (readDebugField field slot read) c).mem (c.gpr .rsp + slot) =
        (if vmxOk read.flags then read.value else 0) ∧
      (run (readDebugField field slot read) c).gpr .r10 =
        if vmxOk read.flags then c.gpr .r10 else 1 := by
  unfold readDebugField
  by_cases ok : vmxOk read.flags = true
  · rw [if_pos ok, if_pos ok, if_pos ok]
    simp [run, Instr.step, Cpu.setGpr, Cpu.setMem]
  · rw [if_neg ok, if_neg ok, if_neg ok]
    simp [run, Instr.step, Cpu.setGpr, Cpu.setMem]

theorem readDebugField_keeps {slots : List U64} (field slot : U64) (read : VmcsRead)
    (apart : slots.all (· ≠ slot) = true) :
    keepsSlots slots (readDebugField field slot read) = true := by
  refine List.all_eq_true.mpr fun other member => ?_
  have different : slot ≠ other := by
    have apart' := List.all_eq_true.mp apart other member
    rw [decide_eq_true_eq] at apart'
    exact apart'.symm
  have stored : (Instr.store .rsp slot .rax).avoids other = true := by
    simp [Instr.avoids, different]
  unfold readDebugField
  split <;>
  · simp only [List.all_cons, List.cons_append, List.nil_append, stored]
    rfl

theorem readDebugField_rsp (field slot : U64) (read : VmcsRead) (c : Cpu ξ) :
    (run (readDebugField field slot read) c).gpr .rsp = c.gpr .rsp := by
  refine run_same (.gpr .rsp) ?_ c
  unfold readDebugField
  split <;> rfl

/-- The debug state of the guest, and the mark of what could not be read. -/
def readDebugState (answers : Answers) : List Instr :=
  [Instr.xor32 .r10] ++ readDebugField vmcsGuestDr7 ctxGuestDr7 answers.guestDr7 ++
    readDebugField vmcsGuestDebugctl ctxGuestDebugctl answers.guestDebugctl

theorem readDebugState_run (answers : Answers) (c : Cpu ξ) :
    let d := run (readDebugState answers) c
    d.gpr .rsp = c.gpr .rsp ∧
      d.mem (c.gpr .rsp + ctxGuestDr7) =
        (if vmxOk answers.guestDr7.flags then answers.guestDr7.value else 0) ∧
      d.mem (c.gpr .rsp + ctxGuestDebugctl) =
        (if vmxOk answers.guestDebugctl.flags then answers.guestDebugctl.value else 0) ∧
      d.gpr .r10 =
        if vmxOk answers.guestDr7.flags && vmxOk answers.guestDebugctl.flags then 0 else 1 := by
  have rsp₁ : (run [.xor32 .r10] c).gpr .rsp = c.gpr .rsp := rfl
  obtain ⟨dr7, r10⟩ := readDebugField_run vmcsGuestDr7 ctxGuestDr7 answers.guestDr7
    (run [.xor32 .r10] c)
  have rsp₂ := (readDebugField_rsp vmcsGuestDr7 ctxGuestDr7 answers.guestDr7
    (run [.xor32 .r10] c)).trans rsp₁
  obtain ⟨debugctl, r10'⟩ := readDebugField_run vmcsGuestDebugctl ctxGuestDebugctl
    answers.guestDebugctl (run (readDebugField vmcsGuestDr7 ctxGuestDr7 answers.guestDr7)
      (run [.xor32 .r10] c))
  have kept := run_keeps [ctxGuestDr7] _ (readDebugField_keeps vmcsGuestDebugctl
    ctxGuestDebugctl answers.guestDebugctl rfl) (run (readDebugField vmcsGuestDr7 ctxGuestDr7
      answers.guestDr7) (run [.xor32 .r10] c)) ctxGuestDr7 List.mem_cons_self
  have rsp₃ := readDebugField_rsp vmcsGuestDebugctl ctxGuestDebugctl answers.guestDebugctl
    (run (readDebugField vmcsGuestDr7 ctxGuestDr7 answers.guestDr7) (run [.xor32 .r10] c))
  rw [rsp₂] at debugctl kept rsp₃
  rw [rsp₁] at dr7
  have zero : (run [.xor32 .r10] c).gpr .r10 = 0 := by
    simp [run, Instr.step, Cpu.setGpr]
  rw [zero] at r10
  simp only [readDebugState, run_append]
  refine ⟨rsp₃, kept.trans dr7, debugctl, ?_⟩
  rw [r10', r10]
  cases vmxOk answers.guestDr7.flags <;> cases vmxOk answers.guestDebugctl.flags <;> rfl

theorem readDebugState_keeps (answers : Answers) {slots : List U64}
    (dr7 : slots.all (· ≠ ctxGuestDr7) = true)
    (debugctl : slots.all (· ≠ ctxGuestDebugctl) = true) :
    keepsSlots slots (readDebugState answers) = true := by
  refine keepsSlots_append (keepsSlots_append ?_ (readDebugField_keeps _ _ _ dr7))
    (readDebugField_keeps _ _ _ debugctl)
  exact List.all_eq_true.mpr fun slot _ => rfl

/-- The registers go into the new frame. -/
theorem allocateFrame_run {c : Cpu ξ} (rsp : c.gpr .rsp = base + frameSize) :
    let d := run (allocateFrame) c
    d.gpr .rsp = base ∧ (∀ entry ∈ gprSlots, d.mem (base + entry.2) = c.gpr entry.1) ∧
      d.msr = c.msr ∧ d.mem (base + ctxAbortVm) = 0 ∧ d.mem (base + ctxHaltVm) = 0 := by
  have rsp₁ : (run [.cli, .sub .rsp frameSize] c).gpr .rsp = base := by
    refine (Function.update_self Gpr.rsp (c.gpr .rsp - frameSize) c.gpr).trans ?_
    rw [rsp, BitVec.add_sub_cancel]
  have others (reg : Gpr) (other : reg ≠ .rsp) :
      (run [.cli, .sub .rsp frameSize] c).gpr reg = c.gpr reg := Function.update_of_ne other _ _
  have msr : (run allocateFrame c).msr = c.msr := run_same .msr rfl c
  have flags (d : Cpu ξ) : (run [.storeImm .rsp ctxNativeIdtBase 0, .storeImm .rsp
      ctxNativeIdtLimit 0, .storeImm .rsp ctxAbortVm 0, .storeImm .rsp ctxHaltVm 0] d).mem
        (d.gpr .rsp + ctxAbortVm) = 0 ∧
      (run [.storeImm .rsp ctxNativeIdtBase 0, .storeImm .rsp ctxNativeIdtLimit 0,
        .storeImm .rsp ctxAbortVm 0, .storeImm .rsp ctxHaltVm 0] d).mem
          (d.gpr .rsp + ctxHaltVm) = 0 := by
    simp [run, Instr.step, Cpu.setMem, ctxAbortVm, ctxHaltVm]
  have zeroes (d : Cpu ξ) := run_keeps (gprSlots.map Prod.snd)
    [.storeImm .rsp ctxNativeIdtBase 0, .storeImm .rsp ctxNativeIdtLimit 0,
      .storeImm .rsp ctxAbortVm 0, .storeImm .rsp ctxHaltVm 0] (by decide +kernel) d
  have rsp₂ (d : Cpu ξ) : (run (gprSlots.map fun entry => .store .rsp entry.2 entry.1) d).gpr .rsp =
      d.gpr .rsp := run_same (.gpr .rsp) rfl d
  have rsp₃ (d : Cpu ξ) : (run [.storeImm .rsp ctxNativeIdtBase 0, .storeImm .rsp
      ctxNativeIdtLimit 0, .storeImm .rsp ctxAbortVm 0, .storeImm .rsp ctxHaltVm 0] d).gpr .rsp =
      d.gpr .rsp := rfl
  rw [allocateFrame, run_append, run_append] at msr ⊢
  have apart : ∀ entry ∈ gprSlots, entry.1 ≠ .rsp := by decide
  generalize run [.cli, .sub .rsp frameSize] c = d at *
  have stored := run_spill .rsp gprSlots d
  rw [rsp₁] at stored
  specialize rsp₂ d
  rw [rsp₁] at rsp₂
  have spilled {entry : Gpr × U64} (member : entry ∈ gprSlots) :
      (run (gprSlots.map fun entry => .store .rsp entry.2 entry.1) d).mem (base + entry.2) =
        d.gpr entry.1 := by
    have distinct : (gprSlots.map Prod.snd).Nodup := by decide +kernel
    have slot : Listing.spill d.gpr (placed gprSlots base) d.mem (base + entry.2) = d.gpr entry.1 :=
      Listing.spill_slot (placed_nodup distinct base) (mem_placed member base) d.mem
    rw [stored]
    exact slot
  generalize run (gprSlots.map fun entry => .store .rsp entry.2 entry.1) d = e at *
  obtain ⟨abort, halt⟩ := flags e
  rw [rsp₂] at abort halt
  refine ⟨(rsp₃ e).trans rsp₂, fun entry member => ?_, msr, abort, halt⟩
  have kept := zeroes e entry.2 (List.mem_map_of_mem member)
  rw [rsp₂] at kept
  rw [kept, spilled member]
  exact others entry.1 (apart entry member)

/-- The frame before the host's state is loaded. -/
theorem captureFrame_captured (answers : Answers) {c : Cpu ξ}
    (rsp : c.gpr .rsp = base + frameSize) :
    let d := run (captureFrame answers) c
    d.gpr .rsp = base ∧ (∀ entry ∈ gprSlots, d.mem (base + entry.2) = c.gpr entry.1) ∧
      d.mem (base + ctxGuestKgs) = c.msr msrKernelGsBase ∧ d.mem (base + ctxAbortVm) = 0 ∧
      d.mem (base + ctxHaltVm) = 0 ∧
      d.mem (base + ctxGuestDr7) =
        (if vmxOk answers.guestDr7.flags then answers.guestDr7.value else 0) ∧
      d.mem (base + ctxGuestDebugctl) =
        (if vmxOk answers.guestDebugctl.flags then answers.guestDebugctl.value else 0) ∧
      d.gpr .r10 =
        if vmxOk answers.guestDr7.flags && vmxOk answers.guestDebugctl.flags then 0 else 1 := by
  have listing : captureFrame answers =
      allocateFrame ++ (captureKernelGs ++ readDebugState answers) := by
    simp only [captureFrame, readDebugState, List.append_assoc]
  obtain ⟨rsp₁, gprs, msr, abort, halt⟩ := allocateFrame_run rsp
  have early := run_keeps (gprSlots.map Prod.snd ++ [ctxAbortVm, ctxHaltVm]) captureKernelGs rfl
    (run allocateFrame c)
  have kgs := captureKernelGs_mem (run allocateFrame c)
  have rsp₂ : (run captureKernelGs (run allocateFrame c)).gpr .rsp =
      (run allocateFrame c).gpr .rsp := run_same (.gpr .rsp) rfl _
  rw [rsp₁] at early kgs rsp₂
  have late := run_keeps (gprSlots.map Prod.snd ++ [ctxAbortVm, ctxHaltVm, ctxGuestKgs]) _
    (readDebugState_keeps answers rfl rfl) (run captureKernelGs (run allocateFrame c))
  obtain ⟨rsp₃, dr7, debugctl, r10⟩ := readDebugState_run answers
    (run captureKernelGs (run allocateFrame c))
  rw [rsp₂] at late rsp₃ dr7 debugctl
  rw [listing]
  simp only [run_append]
  refine ⟨rsp₃, fun entry member => ?_, ?_, ?_, ?_, dr7, debugctl, r10⟩
  · have slot := List.mem_map_of_mem (f := Prod.snd) member
    rw [late _ (List.mem_append_left _ slot), early _ (List.mem_append_left _ slot)]
    exact gprs entry member
  · rw [late _ (by simp), kgs, msr]
  · rw [late _ (by simp), early _ (by simp), abort]
  · rw [late _ (by simp), early _ (by simp), halt]

theorem XstateSaved.congr {guest guest' c c' : Cpu ξ} (saved : XstateSaved m host guest c base)
    (ext : guest.ext = guest'.ext) (xcr0 : guest.xcr0 = guest'.xcr0)
    (xss : guest.msr msrIa32Xss = guest'.msr msrIa32Xss) (image : c'.image base = c.image base)
    (cells : c'.mem (base + ctxGuestXcr0) = c.mem (base + ctxGuestXcr0) ∧
      c'.mem (base + ctxGuestXss) = c.mem (base + ctxGuestXss)) :
    XstateSaved m host guest' c' base where
  image i member := by rw [image, saved.image i member, ext]
  xcr0 masked := by rw [cells.1, saved.xcr0 masked, xcr0]
  xss masked saves := by rw [cells.2, saved.xss masked saves, xss]

/-- What an exit leaves as the guest had it until it is saved. -/
theorem captureFrame_same (answers : Answers) (part : Part)
    (frame : allocateFrame.any (·.touches part) = false)
    (kgs : captureKernelGs.any (·.touches part) = false) (rax : part ≠ .gpr .rax)
    (rcx : part ≠ .gpr .rcx) (rdx : part ≠ .gpr .rdx) (r10 : part ≠ .gpr .r10)
    (mem : part ≠ .mem) (c : Cpu ξ) : part.Same (run (captureFrame answers) c) c := by
  have listing : captureFrame answers =
      allocateFrame ++ (captureKernelGs ++ readDebugState answers) := by
    simp only [captureFrame, readDebugState, List.append_assoc]
  refine run_same part ?_ c
  rw [listing, List.any_append, List.any_append, frame, kgs]
  unfold readDebugState readDebugField
  split <;> split <;> simp [Instr.touches, rax, rcx, rdx, r10, mem]

theorem loadHostDebugState_xss (c : Cpu ξ) :
    (run loadHostDebugState c).msr msrIa32Xss = c.msr msrIa32Xss := by
  have msr (c : Cpu ξ) : (run [.load .rax .rsp hostDr7FrameSlot, .toDr7 .rax] c).msr = c.msr :=
    run_same .msr rfl c
  rw [loadHostDebugState, run_append, run_append, writeMsr_msr, Function.update_of_ne (by decide),
    msr, writeMsr_msr, Function.update_of_ne (by decide)]

/-- Loading the host's state moves the rest of the frame only to save the
guest's extended state. -/
theorem loadHostState_saved {c : Cpu ξ} (stored : host.Stored (c.gpr .rsp) c.mem) :
    XstateSaved m host c (run (loadHostState m) c) (c.gpr .rsp) ∧
      ∀ slot ∈ frameSlots,
        (run (loadHostState m) c).mem (c.gpr .rsp + slot) = c.mem (c.gpr .rsp + slot) := by
  have rsp : (run loadHostDebugState c).gpr .rsp = c.gpr .rsp := run_rsp rfl c
  have ext : (run loadHostDebugState c).ext = c.ext := run_same .ext rfl c
  have xcr0 : (run loadHostDebugState c).xcr0 = c.xcr0 := run_same .xcr0 rfl c
  have early : host.Stored (c.gpr .rsp) (run loadHostDebugState c).mem := run_stored rfl stored
  rw [← rsp] at early
  have saved := saveXstate_saved (m := m) early
  have rsp' : (run (saveXstate m) (run loadHostDebugState c)).gpr .rsp =
      (run loadHostDebugState c).gpr .rsp := run_rsp (saveXstate_sheltered m) _
  have mem : (run loadHostDebugState c).mem = c.mem := run_same .mem rfl c
  have kept := run_keeps frameSlots _ (saveXstate_keeps m) (run loadHostDebugState c)
  have masks : (run (loadHostMasks m .rsp ++ [Instr.cld]) (run (saveXstate m)
      (run loadHostDebugState c))).mem = (run (saveXstate m) (run loadHostDebugState c)).mem := by
    refine run_same .mem ?_ _
    rw [List.any_append,
      loadHostMasks_touches .rsp (by simp) (by simp) (by simp) (by simp) (by simp)]
    rfl
  have image : (run (loadHostMasks m .rsp ++ [Instr.cld]) (run (saveXstate m)
      (run loadHostDebugState c))).image = (run (saveXstate m) (run loadHostDebugState c)).image := by
    refine run_same .image ?_ _
    rw [List.any_append,
      loadHostMasks_touches .rsp (by simp) (by simp) (by simp) (by simp) (by simp)]
    rfl
  rw [rsp] at saved kept
  rw [run_append] at masks image
  simp only [loadHostState, run_append]
  refine ⟨saved.congr ext xcr0 (loadHostDebugState_xss c) (by rw [image])
    ⟨by rw [masks], by rw [masks]⟩, fun slot member => ?_⟩
  rw [masks, kept slot member, mem]

/-- An exit whose debug state cannot be read is marked fatal. -/
theorem markUnread_mem {r : Root ξ} {read : Bool} (r10 : r.cpu.gpr .r10 = if read then 0 else 1)
    (halt : r.cpu.mem (r.cpu.gpr .rsp + ctxHaltVm) = 0) :
    (markUnread r).cpu.mem (r.cpu.gpr .rsp + ctxHaltVm) = (if read then 0 else 1) ∧
      ∀ slot, slot ≠ ctxHaltVm →
        (markUnread r).cpu.mem (r.cpu.gpr .rsp + slot) = r.cpu.mem (r.cpu.gpr .rsp + slot) := by
  unfold markUnread
  cases read with
  | true =>
    have zero : low32 (r.cpu.gpr .r10) = 0 := by rw [r10]; rfl
    rw [if_pos zero]
    exact ⟨halt, fun _ _ => rfl⟩
  | false =>
    have one : low32 (r.cpu.gpr .r10) ≠ 0 := by
      rw [r10]
      decide
    rw [if_neg one, exec_storeImm]
    simp only [Cpu.setMem_mem, Function.update_self]
    refine ⟨rfl, fun slot apart => Function.update_of_ne ?_ _ _⟩
    exact fun same => apart ((BitVec.add_right_inj _).mp same)

theorem markUnread_cpu (r : Root ξ) : (markUnread r).cpu.gpr = r.cpu.gpr ∧
    (markUnread r).cpu.ext = r.cpu.ext ∧ (markUnread r).cpu.xcr0 = r.cpu.xcr0 ∧
    (markUnread r).cpu.msr = r.cpu.msr := by
  unfold markUnread
  split <;> exact ⟨rfl, rfl, rfl, rfl⟩

theorem markUnread_stored (rsp : r.cpu.gpr .rsp = base) (stored : host.Stored base r.cpu.mem) :
    host.Stored base (markUnread r).cpu.mem := by
  subst rsp
  unfold markUnread
  split
  · exact stored
  · exact run_stored rfl stored

/-- The guest's state is in the frame when the first C++ routine is called. -/
theorem captureGuest_captured (arrived : Arrived m host base r) :
    Captured m host answers r.cpu (captureGuest m answers r).cpu base := by
  obtain ⟨rsp₁, gprs, kernelGs, abort, halt, dr7, debugctl, r10⟩ :=
    captureFrame_captured answers arrived.rsp
  have stored := (captureFrame_stored arrived (captureListing_sheltered answers)).2.1
  rw [← captureFrame_eq] at stored
  replace stored := markUnread_stored (r := r.exec (captureFrame answers)) rsp₁ stored
  have ext : (run (captureFrame answers) r.cpu).ext = r.cpu.ext :=
    captureFrame_same answers .ext rfl rfl (by decide) (by decide) (by decide) (by decide)
      (by decide) _
  have xcr0 : (run (captureFrame answers) r.cpu).xcr0 = r.cpu.xcr0 :=
    captureFrame_same answers .xcr0 rfl rfl (by decide) (by decide) (by decide) (by decide)
      (by decide) _
  have msr : (run (captureFrame answers) r.cpu).msr = r.cpu.msr :=
    captureFrame_same answers .msr rfl rfl (by decide) (by decide) (by decide) (by decide)
      (by decide) _
  have marked := markUnread_mem (r := r.exec (captureFrame answers)) r10
  obtain ⟨gpr₂, ext₂, xcr0₂, msr₂⟩ := markUnread_cpu (r.exec (captureFrame answers))
  simp only [Root.exec] at marked gpr₂ ext₂ xcr0₂ msr₂ stored
  rw [rsp₁] at marked
  obtain ⟨halt', others⟩ := marked halt
  rw [captureGuest]
  simp only [Root.exec]
  generalize markUnread { cpu := run (captureFrame answers) r.cpu, calls := r.calls } = d at *
  have rsp₂ : d.cpu.gpr .rsp = base := by rw [gpr₂, rsp₁]
  rw [← rsp₂] at stored
  obtain ⟨saved, kept⟩ := loadHostState_saved (m := m) stored
  rw [rsp₂] at saved kept
  have slot {slot : U64} (member : slot ∈ frameSlots) (apart : slot ≠ ctxHaltVm) :
      (run (loadHostState m) d.cpu).mem (base + slot) =
        (run (captureFrame answers) r.cpu).mem (base + slot) :=
    (kept slot member).trans (others slot apart)
  have gprSlot : ∀ entry ∈ gprSlots, entry.2 ≠ ctxHaltVm := by decide
  exact {
    gprs := fun entry member => (slot (List.mem_append_left _ (List.mem_map_of_mem member))
      (gprSlot entry member)).trans (gprs entry member)
    kernelGs := (slot (by simp [frameSlots]) (by decide)).trans kernelGs
    xstate := saved.congr (ext₂.trans ext) (xcr0₂.trans xcr0) (congrFun (msr₂.trans msr) _) rfl
      ⟨rfl, rfl⟩
    abort := (slot (by simp [frameSlots]) (by decide)).trans abort
    halt := (kept _ (by simp [frameSlots])).trans halt'
    dr7 := fun ok => (slot (by simp [frameSlots]) (by decide)).trans (dr7.trans (if_pos ok))
    debugctl := fun ok =>
      (slot (by simp [frameSlots]) (by decide)).trans (debugctl.trans (if_pos ok)) }

/-! A whole exit. -/

/-- The call of the exit handler. -/
def handlerEntry (m : Machine) (w : Callees ξ) (answers : Answers) (r : Root ξ) : Root ξ :=
  ((captureGuest m answers r).trace w hvTraceVmexitHostReady).exec [.mov .rcx .rsp]

/-- What the exit handler returns to. -/
def handled (m : Machine) (w : Callees ξ) (answers : Answers) (r : Root ξ) : Root ξ :=
  (handlerEntry m w answers r).call w .vmExitHandler

/-- The guest runs on with what the handler has left in the frame, and with the
extended state it had. -/
structure Entered (m : Machine) (host : HostSlots) (guest context c : Cpu ξ) (base : U64) :
    Prop where
  gprs : ∀ entry ∈ gprSlots, c.gpr entry.1 = context.mem (base + entry.2)
  kernelGs : c.msr msrKernelGsBase = context.mem (base + ctxGuestKgs)
  xcr0 : m.xstateMode ≠ .fxsave → c.xcr0 = context.mem (base + ctxGuestXcr0)
  xss : m.xstateMode ≠ .fxsave → m.xsavesEnabled = true →
    c.msr msrIa32Xss = context.mem (base + ctxGuestXss)
  ext : ∀ i, (savedMask m host).getLsbD i = true → c.ext i = guest.ext i
  rsp : c.gpr .rsp = base

/-- Tracing keeps the frame behind the image. -/
theorem trace_slot (alone : Private w base) (r : Root ξ) (event slot : U64) (low : 0x1000 ≤ slot)
    (high : slot < frameSize) :
    (r.trace w event).cpu.mem (base + slot) = r.cpu.mem (base + slot) := by
  refine call_mem .hvTraceCurrentVcpuEvent (r.exec [.movImm .rcx event]) (alone slot low high) ?_
  rintro ⟨writes, -⟩
  cases writes

theorem trace_image (r : Root ξ) (event : U64) : (r.trace w event).cpu.image = r.cpu.image :=
  (w.abi .hvTraceCurrentVcpuEvent (run [.sub .rsp 0x20] (run [.movImm .rcx event] r.cpu))).image

theorem trace_rsp (r : Root ξ) (event : U64) :
    (r.trace w event).cpu.gpr .rsp = r.cpu.gpr .rsp :=
  call_gpr w .hvTraceCurrentVcpuEvent (r.exec [.movImm .rcx event]) .rsp (by decide)

theorem handled_image (r : Root ξ) :
    (handled m w answers r).cpu.image = (captureGuest m answers r).cpu.image :=
  Eq.trans (w.abi .vmExitHandler (run [.sub .rsp 0x20] (handlerEntry m w answers r).cpu)).image
    (trace_image (captureGuest m answers r) hvTraceVmexitHostReady)

/-- The cells of a context hold what they held. -/
theorem Captured.congr {guest c d : Cpu ξ} (captured : Captured m host answers guest c base)
    (image : d.image base = c.image base)
    (cells : ∀ slot : U64, 0x1000 ≤ slot → slot < frameSize →
      d.mem (base + slot) = c.mem (base + slot)) :
    Captured m host answers guest d base := by
  have range : ∀ entry ∈ gprSlots, 0x1000 ≤ entry.2 ∧ entry.2 < frameSize := by decide
  exact {
    gprs := fun entry member => (cells _ (range entry member).1 (range entry member).2).trans
      (captured.gprs entry member)
    kernelGs := (cells _ (by decide) (by decide)).trans captured.kernelGs
    xstate := captured.xstate.congr rfl rfl rfl image
      ⟨cells _ (by decide) (by decide), cells _ (by decide) (by decide)⟩
    abort := (cells _ (by decide) (by decide)).trans captured.abort
    halt := (cells _ (by decide) (by decide)).trans captured.halt
    dr7 := fun ok => (cells _ (by decide) (by decide)).trans (captured.dr7 ok)
    debugctl := fun ok => (cells _ (by decide) (by decide)).trans (captured.debugctl ok) }

/-- The exit handler finds the guest in the frame it is given. -/
theorem handlerEntry_captured (alone : Private w base) (arrived : Arrived m host base r) :
    Captured m host answers r.cpu (handlerEntry m w answers r).cpu base := by
  refine (captureGuest_captured arrived).congr ?_ fun slot low high => ?_
  · exact congrFun (trace_image (captureGuest m answers r) hvTraceVmexitHostReady) base
  · exact trace_slot alone (captureGuest m answers r) hvTraceVmexitHostReady slot low high

/-- Registers that are loaded from a frame. -/
theorem loadGuestGprs_gpr (c : Cpu ξ) :
    (∀ entry ∈ gprSlots, (run loadGuestGprs c).gpr entry.1 = c.mem (c.gpr .rsp + entry.2)) ∧
      (run loadGuestGprs c).gpr .rsp = c.gpr .rsp := by
  have apart : Gpr.rsp ∉ gprSlots.map Prod.fst := by decide
  have distinct : (gprSlots.map Prod.fst).Nodup := by decide
  have loaded : run loadGuestGprs c =
      { c with gpr := Listing.reload c.mem (placed gprSlots (c.gpr .rsp)) c.gpr } :=
    run_reload .rsp gprSlots apart c
  rw [loaded]
  refine ⟨fun entry member => ?_, ?_⟩
  · exact Listing.reload_reg (by rw [placed_regs]; exact distinct) (mem_placed member _) c.gpr
  · exact Listing.reload_other (by rw [placed_regs]; exact apart) c.gpr

/-- What `commitGuest` loads from the frame when it resumes the guest. -/
theorem loadGuest_entered {c : Cpu ξ} (rsp : c.gpr .rsp = base) (stored : host.Stored base c.mem)
    {guest : Cpu ξ}
    (image : ∀ i, (savedMask m host).getLsbD i = true → c.image base i = guest.ext i) :
    Entered m host guest c (run (restoreXstate m .rsp ++ ([Instr.cld] ++
      (writeMsr .rsp ctxGuestKgs msrKernelGsBase ++ loadGuestGprs))) c) base := by
  subst rsp
  obtain ⟨ext, xcr0, xss⟩ := restoreXstate_restored (m := m) (by decide) stored
  have rsp₁ : (run (restoreXstate m .rsp ++ [Instr.cld]) c).gpr .rsp = c.gpr .rsp := by
    rw [run_append]
    exact run_rsp (restoreXstate_sheltered m) c
  have mem₁ : (run (restoreXstate m .rsp ++ [Instr.cld]) c).mem = c.mem := by
    refine run_same .mem ?_ c
    unfold restoreXstate
    split
    · rfl
    · split <;> rfl
  have rsp₂ (c : Cpu ξ) : (run (writeMsr .rsp ctxGuestKgs msrKernelGsBase) c).gpr .rsp =
      c.gpr .rsp := run_rsp rfl c
  have mem₂ (c : Cpu ξ) : (run (writeMsr .rsp ctxGuestKgs msrKernelGsBase) c).mem = c.mem :=
    run_same .mem rfl c
  have msr₃ (c : Cpu ξ) : (run loadGuestGprs c).msr = c.msr := run_same .msr rfl c
  have ext₃ (c : Cpu ξ) : (run (writeMsr .rsp ctxGuestKgs msrKernelGsBase ++ loadGuestGprs) c).ext =
      c.ext := run_same .ext rfl c
  have xcr0₃ (c : Cpu ξ) : (run (writeMsr .rsp ctxGuestKgs msrKernelGsBase ++ loadGuestGprs) c).xcr0 =
      c.xcr0 := run_same .xcr0 rfl c
  have xss₃ (c : Cpu ξ) : (run (writeMsr .rsp ctxGuestKgs msrKernelGsBase ++ loadGuestGprs) c).msr
      msrIa32Xss = c.msr msrIa32Xss := by
    rw [run_append, msr₃, writeMsr_msr, Function.update_of_ne (by decide)]
  have cld (c : Cpu ξ) : (run [.cld] c).ext = c.ext ∧ (run [.cld] c).xcr0 = c.xcr0 ∧
      (run [.cld] c).msr = c.msr := ⟨rfl, rfl, rfl⟩
  have same₁ : (run (restoreXstate m .rsp ++ [Instr.cld]) c).ext = (run (restoreXstate m .rsp) c).ext ∧
      (run (restoreXstate m .rsp ++ [Instr.cld]) c).xcr0 = (run (restoreXstate m .rsp) c).xcr0 ∧
      (run (restoreXstate m .rsp ++ [Instr.cld]) c).msr = (run (restoreXstate m .rsp) c).msr := by
    rw [run_append]
    exact cld _
  rw [← List.append_assoc, run_append]
  rw [← same₁.1] at ext
  rw [← same₁.2.1] at xcr0
  rw [← same₁.2.2] at xss
  generalize run (restoreXstate m .rsp ++ [Instr.cld]) c = d at *
  have gprs := loadGuestGprs_gpr (run (writeMsr .rsp ctxGuestKgs msrKernelGsBase) d)
  rw [← run_append, mem₂, rsp₂, mem₁, rsp₁] at gprs
  exact {
    gprs := gprs.1
    kernelGs := by rw [run_append, msr₃, writeMsr_msr, Function.update_self, mem₁, rsp₁]
    xcr0 := fun masked => (xcr0₃ d).trans (xcr0 masked)
    xss := fun masked saves => (xss₃ d).trans (xss masked saves)
    ext := fun i member => by rw [ext₃, ext i member, image i member]
    rsp := gprs.2 }

/-! Only VMRESUME enters the guest again. -/

section

variable (m w answers)

theorem restoreInvalid_left (r : Root ξ) : (restoreInvalid m w answers r).1 = .parked := rfl

theorem leaveForNative_left (r : Root ξ) : (leaveForNative m w answers r).1 ≠ .resumed := by
  simp only [leaveForNative]
  split
  · split
    · simp [returnNative, iretq]
    · simp [teardownVmxoffFailed]
  · simp

theorem restoreRing0_left (r : Root ξ) : (restoreRing0 m w answers r).1 ≠ .resumed := by
  have invalid (r : Root ξ) : (restoreInvalid m w answers r).1 ≠ .resumed := by
    simp [restoreInvalid_left]
  simp only [restoreRing0]
  split
  · exact invalid _
  · split
    · exact invalid _
    · exact leaveForNative_left m w answers _

theorem checkReturn_left (r : Root ξ) : (checkReturn m w answers r).1 ≠ .resumed := by
  have invalid (r : Root ξ) : (restoreInvalid m w answers r).1 ≠ .resumed := by
    simp [restoreInvalid_left]
  simp only [checkReturn]
  split
  · exact invalid _
  · split
    · exact invalid _
    · split
      · exact invalid _
      · split
        · exact invalid _
        · exact restoreRing0_left m w answers _

theorem vmxHalt_left (r : Root ξ) : (vmxHalt m w answers r).1 ≠ .resumed := by
  simp [vmxHalt]

theorem vmxAbort_left (r : Root ξ) : (vmxAbort m w answers r).1 ≠ .resumed := by
  simp only [vmxAbort, hvRestoreStateAndReturn]
  split
  · exact vmxHalt_left m w answers r
  · split
    · exact checkReturn_left m w answers _
    · simp [restoreInvalid_left]

theorem vmxResumeFailure_left (flags : U64) (r : Root ξ) :
    (vmxResumeFailure m w answers flags r).1 ≠ .resumed := by
  simp only [vmxResumeFailure]
  split
  · exact vmxHalt_left m w answers _
  · split
    · exact vmxAbort_left m w answers _
    · exact vmxHalt_left m w answers _

/-- What is loaded before VMRESUME. -/
def enterGuest (m : Machine) : List Instr :=
  restoreXstate m .rsp ++ ([Instr.cld] ++ (writeMsr .rsp ctxGuestKgs msrKernelGsBase ++ loadGuestGprs))

theorem resumeGuest_resumed (r : Root ξ) :
    ((resumeGuest m w answers r).1 = .resumed ↔ answers.vmresume = none) ∧
      ((resumeGuest m w answers r).1 = .resumed → (resumeGuest m w answers r).2 =
        r.exec (writeMsr .rsp ctxGuestKgs msrKernelGsBase ++ loadGuestGprs)) := by
  simp only [resumeGuest]
  cases answers.vmresume with
  | none => simp
  | some flags => simp [vmxResumeFailure_left]

/-- The frame's two flags decide, and loading the guest's extended state does
not move them. -/
theorem commitGuest_eq (r : Root ξ) :
    commitGuest m w answers r =
      if r.slot ctxHaltVm ≠ 0 then vmxHalt m w answers (r.exec [.cld])
      else if r.slot ctxAbortVm ≠ 0 then vmxAbort m w answers (r.exec [.cld])
      else resumeGuest m w answers ((r.exec (restoreXstate m .rsp)).exec [.cld]) := by
  have loaded (slot : U64) :
      ((r.exec (restoreXstate m .rsp)).exec [.cld]).slot slot = r.slot slot := by
    have rsp : (run (restoreXstate m .rsp) r.cpu).gpr .rsp = r.cpu.gpr .rsp :=
      run_rsp (restoreXstate_sheltered m) _
    have mem : (run (restoreXstate m .rsp) r.cpu).mem = r.cpu.mem := by
      refine run_same .mem ?_ r.cpu
      unfold restoreXstate
      split
      · rfl
      · split <;> rfl
    exact (congrArg _ (congrArg (· + slot) rsp)).trans (congrFun mem _)
  have cleared (slot : U64) : (r.exec [.cld]).slot slot = r.slot slot := rfl
  by_cases running : (decide (r.slot ctxHaltVm = 0) && decide (r.slot ctxAbortVm = 0)) = true
  · simp only [commitGuest, if_pos running, loaded]
    rw [Bool.and_eq_true, decide_eq_true_eq, decide_eq_true_eq] at running
    simp only [running.1, running.2, ne_eq, not_true_eq_false, if_false]
  · simp only [commitGuest, if_neg running, cleared]
    rw [Bool.and_eq_true, decide_eq_true_eq, decide_eq_true_eq, not_and] at running
    split
    · rfl
    · rename_i halted
      have aborted := running (not_not.mp halted)
      rw [if_pos aborted, if_pos aborted]

theorem commitGuest_resumed (r : Root ξ) :
    ((commitGuest m w answers r).1 = .resumed ↔
      r.slot ctxHaltVm = 0 ∧ r.slot ctxAbortVm = 0 ∧ answers.vmresume = none) ∧
    ((commitGuest m w answers r).1 = .resumed →
      (commitGuest m w answers r).2 = r.exec (enterGuest m)) := by
  have enter : ((r.exec (restoreXstate m .rsp)).exec [.cld]).exec
      (writeMsr .rsp ctxGuestKgs msrKernelGsBase ++ loadGuestGprs) = r.exec (enterGuest m) := by
    rw [← exec_append, ← exec_append]
    rfl
  rw [commitGuest_eq]
  by_cases halted : r.slot ctxHaltVm = 0
  · rw [if_neg (not_not.mpr halted)]
    by_cases aborted : r.slot ctxAbortVm = 0
    · rw [if_neg (not_not.mpr aborted)]
      obtain ⟨resumed, entered⟩ := resumeGuest_resumed m w answers
        ((r.exec (restoreXstate m .rsp)).exec [.cld])
      rw [enter] at entered
      simp only [halted, aborted, true_and]
      exact ⟨resumed, entered⟩
    · rw [if_pos aborted]
      have left := vmxAbort_left m w answers (r.exec [.cld])
      exact ⟨⟨fun resumed => absurd resumed left, fun running => absurd running.2.1 aborted⟩,
        fun resumed => absurd resumed left⟩
  · rw [if_pos halted]
    have left := vmxHalt_left m w answers (r.exec [.cld])
    exact ⟨⟨fun resumed => absurd resumed left, fun running => absurd running.1 halted⟩,
      fun resumed => absurd resumed left⟩

end

/-- What `handleExit` leaves is what the handler has left. -/
theorem handleExit_context (alone : Private w base) {r : Root ξ}
    (rsp : (handled m w answers r).cpu.gpr .rsp = base) :
    let after := handleExit w (captureGuest m answers r)
    after.cpu.gpr .rsp = base ∧ after.cpu.image = (handled m w answers r).cpu.image ∧
      ∀ slot : U64, 0x1000 ≤ slot → slot < frameSize →
        after.cpu.mem (base + slot) = (handled m w answers r).cpu.mem (base + slot) := by
  have shape : handleExit w (captureGuest m answers r) =
      if (handled m w answers r).slot ctxHaltVm = 0 && (handled m w answers r).slot ctxAbortVm = 0
      then (handled m w answers r).trace w hvTracePreVmresume else handled m w answers r := rfl
  rw [shape]
  split
  · exact ⟨(trace_rsp _ _).trans rsp, trace_image _ _, trace_slot alone _ _⟩
  · exact ⟨rsp, rfl, fun _ _ _ => rfl⟩

/-- A whole exit. The handler is given the guest's state as it was, the guest is
entered again only if the handler asks for it, and then with what the handler
has left in the frame and the extended state of before. -/
theorem hvVmExitEntryPoint_switches (answers : Answers) (aligned : base.toNat % 16 = 0)
    (alone : Private w base)
    (arrived : Arrived m host base r) :
    let context := handled m w answers r
    Captured m host answers r.cpu (handlerEntry m w answers r).cpu base ∧
      (handlerEntry m w answers r).cpu.gpr .rcx = base ∧
      ((hvVmExitEntryPoint m w answers r).1 = .resumed ↔
        context.cpu.mem (base + ctxHaltVm) = 0 ∧ context.cpu.mem (base + ctxAbortVm) = 0 ∧
          answers.vmresume = none) ∧
      ((hvVmExitEntryPoint m w answers r).1 = .resumed →
        Entered m host r.cpu context.cpu (hvVmExitEntryPoint m w answers r).2.cpu base) := by
  have captured : Captured m host answers r.cpu (handlerEntry m w answers r).cpu base :=
    handlerEntry_captured alone arrived
  have ready : Ready m host base (captureGuest m answers r) := captureGuest_ready aligned arrived
  have traced := ready.trace alone hvTraceVmexitHostReady
  have handlerReady := traced.callWithContext alone .vmExitHandler
  obtain ⟨rsp, image, cells⟩ := handleExit_context alone handlerReady.anchored.rsp
  have after := handleExit_ready alone ready
  obtain ⟨resumed, entered⟩ := commitGuest_resumed m w answers
    (handleExit w (captureGuest m answers r))
  have cell (slot : U64) : (handleExit w (captureGuest m answers r)).slot slot =
      (handleExit w (captureGuest m answers r)).cpu.mem (base + slot) :=
    congrArg (handleExit w (captureGuest m answers r)).cpu.mem (congrArg (· + slot) rsp)
  rw [cell, cell, cells _ (by decide) (by decide), cells _ (by decide) (by decide)] at resumed
  refine ⟨captured, traced.anchored.rsp, resumed, fun left => ?_⟩
  have loaded : Entered m host r.cpu (handleExit w (captureGuest m answers r)).cpu
      (run (enterGuest m) (handleExit w (captureGuest m answers r)).cpu) base := by
    refine loadGuest_entered rsp after.anchored.stored fun i member => ?_
    rw [image, handled_image]
    exact (captureGuest_captured arrived).xstate.image i member
  have final : (hvVmExitEntryPoint m w answers r).2 =
      (handleExit w (captureGuest m answers r)).exec (enterGuest m) := entered left
  have range : ∀ entry ∈ gprSlots, 0x1000 ≤ entry.2 ∧ entry.2 < frameSize := by decide
  rw [final]
  exact {
    gprs := fun entry member => (loaded.gprs entry member).trans
      (cells _ (range entry member).1 (range entry member).2)
    kernelGs := loaded.kernelGs.trans (cells _ (by decide) (by decide))
    xcr0 := fun masked => (loaded.xcr0 masked).trans (cells _ (by decide) (by decide))
    xss := fun masked saves => (loaded.xss masked saves).trans (cells _ (by decide) (by decide))
    ext := loaded.ext
    rsp := loaded.rsp }

/-- An exit of the busy guest. -/
def busyExit : Root Unit := { prepared with cpu := busyGuest.apply prepared.cpu }

theorem hvVmExitEntryPoint_switches_busy :
    (hvVmExitEntryPoint xsavesMachine idle plainAnswers busyExit).1 = .resumed ∧
      Entered xsavesMachine preparedSlots busyExit.cpu
        (handled xsavesMachine idle plainAnswers busyExit).cpu
        (hvVmExitEntryPoint xsavesMachine idle plainAnswers busyExit).2.cpu 0x10000 := by
  have arrived : Arrived xsavesMachine preparedSlots 0x10000 busyExit :=
    ⟨rfl, ⟨rfl, rfl, rfl, rfl, rfl⟩, by simp [busyExit, prepared]⟩
  have alone : Private idle 0x10000 := fun _ _ _ => id
  obtain ⟨-, -, resumed, entered⟩ :=
    hvVmExitEntryPoint_switches plainAnswers (by decide) alone arrived
  have left := resumed.mpr ⟨by decide +kernel, by decide +kernel, rfl⟩
  exact ⟨left, entered left⟩

end Knhv.Entry
