import Knhv.Entry.WorldSwitch
import Knhv.Lib.Bits
import Knhv.Vmx.Checks

namespace Knhv.Entry

open Vmx (Machine vmxOk isCanonical)

variable {ξ : Type} {m : Machine} {host : HostSlots} {w : Callees ξ} {base : U64} {r : Root ξ}
  {answers : Answers}

/-! The checks of a return to the guest. -/

/-- Both shifts put the same copy of the top bit above it. -/
theorem sshiftRight_shiftLeft_eq_iff (value : U64) {count : Nat} (inside : count < 64) :
    (value <<< count).sshiftRight count = value ↔
      ∀ i < 64, 64 - count ≤ i → value.getLsbD i = value.getLsbD (63 - count) := by
  have shifted {i : Nat} (low : i < 64) : ((value <<< count).sshiftRight count).getLsbD i =
      if i + count < 64 then value.getLsbD i else value.getLsbD (63 - count) := by
    rw [BitVec.getLsbD_sshiftRight]
    by_cases below : count + i < 64
    · have below' : i + count < 64 := by omega
      rw [if_pos below, if_pos below', BitVec.getLsbD_shiftLeft, Nat.add_sub_cancel_left]
      have reached : ¬count + i < count := by omega
      simp [low, below, reached]
    · have above : ¬i + count < 64 := by omega
      rw [if_neg below, if_neg above, BitVec.msb_eq_getLsbD_last, BitVec.getLsbD_shiftLeft]
      have fits : ¬63 < count := by omega
      simp [low, fits]
  constructor
  · intro same i low above
    have bit := shifted low
    rw [same, if_neg (by omega)] at bit
    exact bit
  · intro repeated
    refine BitVec.eq_of_getLsbD_eq fun i low => ?_
    rw [shifted low]
    split
    · rfl
    · exact (repeated i low (by omega)).symm

theorem and_high_eq (value : U64) {width : Nat} (fill : Bool) :
    value &&& BitVec.allOnes 64 <<< width = (if fill then BitVec.allOnes 64 <<< width else 0) ↔
      ∀ i < 64, width ≤ i → value.getLsbD i = fill := by
  have high {i : Nat} (low : i < 64) :
      (BitVec.allOnes 64 <<< width).getLsbD i = decide (width ≤ i) := by
    rw [BitVec.getLsbD_shiftLeft, BitVec.getLsbD_allOnes]
    by_cases above : width ≤ i
    · have inside : i - width < 64 := by omega
      simp [low, above, inside]
    · have below : i < width := by omega
      simp [above, below]
  have filled {i : Nat} (low : i < 64) :
      (if fill then BitVec.allOnes 64 <<< width else 0).getLsbD i =
        (fill && decide (width ≤ i)) := by
    cases fill with
    | true => rw [if_pos rfl, high low, Bool.true_and]
    | false => simp
  have masked {i : Nat} (low : i < 64) : (value &&& BitVec.allOnes 64 <<< width).getLsbD i =
      (value.getLsbD i && decide (width ≤ i)) := by
    rw [BitVec.getLsbD_and, high low]
  constructor
  · intro same i low above
    have bit := masked low
    rw [same, filled low, decide_eq_true above, Bool.and_true, Bool.and_true] at bit
    exact bit.symm
  · intro repeated
    refine BitVec.eq_of_getLsbD_eq fun i low => ?_
    rw [masked low, filled low]
    by_cases above : width ≤ i
    · rw [repeated i low above]
    · rw [decide_eq_false above, Bool.and_false, Bool.and_false]

/-- The address that `IsCanonical` accepts repeats its top bit. -/
theorem isCanonical_iff (value : U64) {width : Nat} (bits : m.linearAddressBits = width)
    (known : width = 48 ∨ width = 57) :
    isCanonical m value = true ↔
      ∀ i < 64, width ≤ i → value.getLsbD i = value.getLsbD (width - 1) := by
  have mask : ~~~(Vmx.bit width - 1) = BitVec.allOnes 64 <<< width := by
    rcases known with rfl | rfl <;> decide
  have inside : width - 1 < 64 := by omega
  have sign : value &&& Vmx.bit (width - 1) ≠ 0 ↔ value.getLsbD (width - 1) = true :=
    Bits.and_one_shiftLeft_ne_zero value inside
  have chosen : (if m.linearAddressBits < 48 || 57 < m.linearAddressBits then 48
      else m.linearAddressBits) = width := by
    rw [bits]
    rcases known with rfl | rfl <;> rfl
  unfold isCanonical
  simp only [chosen, mask]
  by_cases set : value.getLsbD (width - 1) = true
  · rw [if_pos (sign.mpr set), decide_eq_true_eq, set]
    exact and_high_eq value true
  · rw [if_neg (mt sign.mp set), decide_eq_true_eq]
    rw [Bool.not_eq_true] at set
    rw [set]
    exact and_high_eq value false

/-- The sign extension of the teardown path is the canonical test of the C++
side. -/
theorem signExtend_canonical (value : U64)
    (bits : m.linearAddressBits = 48 ∨ m.linearAddressBits = 57) :
    (value <<< (if m.linearAddressBits = 57 then 7 else 0x10)).sshiftRight
        (if m.linearAddressBits = 57 then 7 else 0x10) = value ↔ isCanonical m value = true := by
  rw [isCanonical_iff value rfl bits]
  rcases bits with narrow | wide
  · rw [narrow]
    exact sshiftRight_shiftLeft_eq_iff value (by decide)
  · rw [wide]
    exact sshiftRight_shiftLeft_eq_iff value (by decide)

/-- The context as the host's frame has it. -/
def contextAt (base : U64) (mem : U64 → U64) (slot : U64) : U64 := mem (base + slot)

/-- The context describes a kernel continuation that can be returned to, with a
stack that has room for the frame and the spill area. -/
def ReturnOk (m : Machine) (context : U64 → U64) : Prop :=
  context ctxGuestCs ≠ 0 ∧ context ctxGuestRip ≠ 0 ∧
    isCanonical m (context ctxGuestRsp) = true ∧ isCanonical m (context ctxGuestRip) = true ∧
    context ctxGuestCs &&& 3 = 0 ∧ context ctxGuestSs &&& 3 = 0 ∧
    0x128 ≤ context ctxGuestRsp ∧ isCanonical m (context ctxGuestRsp - 0x28) = true ∧
    isCanonical m (context ctxGuestRsp - 0x128) = true

instance (m : Machine) (context : U64 → U64) : Decidable (ReturnOk m context) :=
  inferInstanceAs (Decidable (_ ∧ _))

/-- The privilege levels of the two selectors. -/
def loadRpl : List Instr :=
  [.mov32 .rax .r12, .andImm .rax 3, .mov32 .rcx .r13, .andImm .rcx 3]

def placeFrame : List Instr := [.lea .r8 .r11 (-0x28), .lea .r9 .r8 (-0x100)]

/-- All that runs before the guest's stack is written. -/
def prepareReturn (m : Machine) : List Instr :=
  loadReturn ++ signExtend m .r11 ++ signExtend m .r14 ++ loadRpl ++ placeFrame ++
    signExtend m .r8 ++ signExtend m .r9

theorem signExtend_run (c : Cpu ξ) (reg : Gpr)
    (bits : m.linearAddressBits = 48 ∨ m.linearAddressBits = 57) :
    decide ((run (signExtend m reg) c).gpr .rdx = (run (signExtend m reg) c).gpr .rax) =
      isCanonical m (c.gpr reg) := by
  have shifted : (run (signExtend m reg) c).gpr .rdx =
      (c.gpr reg <<< (if m.linearAddressBits = 57 then 7 else 0x10)).sshiftRight
        (if m.linearAddressBits = 57 then 7 else 0x10) := by
    simp [run, signExtend, Instr.step, Cpu.setGpr]
  have plain : (run (signExtend m reg) c).gpr .rax = c.gpr reg := by
    simp [run, signExtend, Instr.step, Cpu.setGpr]
  rw [shifted, plain, Bool.eq_iff_iff, decide_eq_true_eq]
  exact signExtend_canonical (c.gpr reg) bits

theorem canonicalIn_eq (r : Root ξ) (reg : Gpr)
    (bits : m.linearAddressBits = 48 ∨ m.linearAddressBits = 57) :
    canonicalIn m reg r = (isCanonical m (r.cpu.gpr reg), r.exec (signExtend m reg)) := by
  have test := signExtend_run r.cpu reg bits
  exact Prod.ext test rfl

theorem low32_and_three (value : U64) : low32 value &&& 3 = value &&& 3 := by
  refine BitVec.eq_of_getLsbD_eq fun bit inside => ?_
  rw [BitVec.getLsbD_and, BitVec.getLsbD_and, getLsbD_low32]
  by_cases low : bit < 32
  · simp [low]
  · have three : (3 : U64) = low32 3 := by decide
    have clear : (3 : U64).getLsbD bit = false := by
      rw [three, getLsbD_low32, decide_eq_false low, Bool.false_and]
    rw [clear, Bool.and_false, Bool.and_false]

/-- The return state, in the registers that the checks keep. -/
def loadedSlots : List (Gpr × U64) :=
  [(.r11, ctxGuestRsp), (.r12, ctxGuestCs), (.r13, ctxGuestSs), (.r14, ctxGuestRip),
    (.r15, ctxRflags)]

theorem loadReturn_run {c : Cpu ξ} (here : c.gpr .r10 = base) :
    (∀ entry ∈ loadedSlots, (run loadReturn c).gpr entry.1 = c.mem (base + entry.2)) ∧
      ∀ reg, reg ∉ loadedSlots.map Prod.fst → (run loadReturn c).gpr reg = c.gpr reg := by
  have listing : loadReturn = loadedSlots.map fun entry => .load entry.1 .r10 entry.2 := rfl
  have distinct : (loadedSlots.map Prod.fst).Nodup := by decide
  rw [listing, run_reload .r10 loadedSlots (by decide), here]
  refine ⟨fun entry member => ?_, fun reg apart => ?_⟩
  · exact Listing.reload_reg (by rw [placed_regs]; exact distinct) (mem_placed member base) c.gpr
  · exact Listing.reload_other (by rw [placed_regs]; exact apart) c.gpr

theorem placeFrame_run {c : Cpu ξ} {top : U64} (rsp : c.gpr .r11 = top) :
    (run placeFrame c).gpr .r8 = top - 0x28 ∧ (run placeFrame c).gpr .r9 = top - 0x128 := by
  have first : (run placeFrame c).gpr .r8 = c.gpr .r11 + (-0x28) := rfl
  have second : (run placeFrame c).gpr .r9 = c.gpr .r11 + (-0x28) + (-0x100) := rfl
  rw [first, second, rsp]
  constructor <;> bv_omega

theorem signExtend_gpr (reg other : Gpr)
    (apart : (signExtend m reg).any (·.touches (.gpr other)) = false) (c : Cpu ξ) :
    (run (signExtend m reg) c).gpr other = c.gpr other := run_same (.gpr other) apart c

theorem restoreRing0_eq (m : Machine) (w : Callees ξ) (answers : Answers) {r : Root ξ} {top : U64}
    (rsp : r.cpu.gpr .r11 = top)
    (room : 0x128 ≤ top) (bits : m.linearAddressBits = 48 ∨ m.linearAddressBits = 57) :
    (isCanonical m (top - 0x28) = true → isCanonical m (top - 0x128) = true →
      restoreRing0 m w answers r = leaveForNative m w answers
        (((r.exec placeFrame).exec (signExtend m .r8)).exec (signExtend m .r9))) ∧
    (¬(isCanonical m (top - 0x28) = true ∧ isCanonical m (top - 0x128) = true) →
      (restoreRing0 m w answers r).1 = .parked) := by
  obtain ⟨r8, r9⟩ := placeFrame_run rsp
  have r9' : ((r.exec placeFrame).exec (signExtend m .r8)).cpu.gpr .r9 = top - 0x128 :=
    (signExtend_gpr .r8 .r9 rfl _).trans r9
  have r8' : (((r.exec placeFrame).exec (signExtend m .r8)).exec (signExtend m .r9)).cpu.gpr .r8 =
      top - 0x28 :=
    (signExtend_gpr .r9 .r8 rfl _).trans ((signExtend_gpr .r8 .r8 rfl _).trans r8)
  have r9'' : (((r.exec placeFrame).exec (signExtend m .r8)).exec (signExtend m .r9)).cpu.gpr .r9 =
      top - 0x128 := (signExtend_gpr .r9 .r9 rfl _).trans r9'
  have r11 : (((r.exec placeFrame).exec (signExtend m .r8)).exec (signExtend m .r9)).cpu.gpr .r11 =
      top := by
    refine (signExtend_gpr .r9 .r11 rfl _).trans ((signExtend_gpr .r8 .r11 rfl _).trans ?_)
    exact Eq.trans (run_same (.gpr .r11) rfl r.cpu) rsp
  have frame : ¬top < top - 0x28 := by bv_omega
  have spill : ¬top - 0x28 < top - 0x128 := by bv_omega
  have placed : (r.exec placeFrame).cpu.gpr .r8 = top - 0x28 := r8
  have shape : restoreRing0 m w answers r =
      if (!isCanonical m (top - 0x28)) = true then
        restoreInvalid m w answers ((r.exec placeFrame).exec (signExtend m .r8))
      else if (!isCanonical m (top - 0x128) || decide (top < top - 0x28) ||
          decide (top - 0x28 < top - 0x128)) = true then
        restoreInvalid m w answers
          (((r.exec placeFrame).exec (signExtend m .r8)).exec (signExtend m .r9))
      else leaveForNative m w answers
        (((r.exec placeFrame).exec (signExtend m .r8)).exec (signExtend m .r9)) := by
    have listing : [Instr.lea .r8 .r11 (-0x28), .lea .r9 .r8 (-0x100)] = placeFrame := rfl
    simp only [restoreRing0, canonicalIn_eq _ _ bits, listing, placed, r9', r8', r9'', r11]
  rw [shape, decide_eq_false frame, decide_eq_false spill, Bool.or_false, Bool.or_false]
  constructor
  · intro first second
    rw [first, second]
    rfl
  · intro refused
    split
    · rfl
    · split
      · rfl
      · simp_all

theorem loadRpl_run (c : Cpu ξ) :
    (run loadRpl c).gpr .rax = c.gpr .r12 &&& 3 ∧ (run loadRpl c).gpr .rcx = c.gpr .r13 &&& 3 := by
  simp only [run, loadRpl, Listing.run_cons, Listing.run_nil, Instr.step, Cpu.setGpr]
  exact ⟨low32_and_three _, low32_and_three _⟩

/-- The checks pass exactly for a context that can be returned to. -/
theorem checkReturn_eq (w : Callees ξ) (answers : Answers) {r : Root ξ}
    (here : r.cpu.gpr .r10 = base)
    (bits : m.linearAddressBits = 48 ∨ m.linearAddressBits = 57) :
    (ReturnOk m (contextAt base r.cpu.mem) →
      checkReturn m w answers r = leaveForNative m w answers (r.exec (prepareReturn m))) ∧
    (¬ReturnOk m (contextAt base r.cpu.mem) →
      (checkReturn m w answers r).1 = .parked) := by
  obtain ⟨loaded, -⟩ := loadReturn_run here
  have rsp := loaded (.r11, ctxGuestRsp) (by simp [loadedSlots])
  have cs := loaded (.r12, ctxGuestCs) (by simp [loadedSlots])
  have ss := loaded (.r13, ctxGuestSs) (by simp [loadedSlots])
  have rip := loaded (.r14, ctxGuestRip) (by simp [loadedSlots])
  have keeps (other : Gpr) (first : (signExtend m .r11).any (·.touches (.gpr other)) = false)
      (second : (signExtend m .r14).any (·.touches (.gpr other)) = false) :
      (((r.exec loadReturn).exec (signExtend m .r11)).exec (signExtend m .r14)).cpu.gpr other =
        (r.exec loadReturn).cpu.gpr other :=
    (signExtend_gpr .r14 other second _).trans (signExtend_gpr .r11 other first _)
  have rip' : ((r.exec loadReturn).exec (signExtend m .r11)).cpu.gpr .r14 =
      r.cpu.mem (base + ctxGuestRip) := (signExtend_gpr .r11 .r14 rfl _).trans rip
  obtain ⟨csRpl, ssRpl⟩ := loadRpl_run
    (((r.exec loadReturn).exec (signExtend m .r11)).exec (signExtend m .r14)).cpu
  rw [keeps .r12 rfl rfl] at csRpl
  rw [keeps .r13 rfl rfl] at ssRpl
  replace csRpl := csRpl.trans (congrArg (· &&& 3) cs)
  replace ssRpl := ssRpl.trans (congrArg (· &&& 3) ss)
  have top : ((((r.exec loadReturn).exec (signExtend m .r11)).exec (signExtend m .r14)).exec
      loadRpl).cpu.gpr .r11 = r.cpu.mem (base + ctxGuestRsp) := by
    refine Eq.trans (run_same (.gpr .r11) rfl _) ?_
    exact (keeps .r11 rfl rfl).trans rsp
  have rsp₀ : (r.exec loadReturn).cpu.gpr .r11 = r.cpu.mem (base + ctxGuestRsp) := rsp
  have cs₀ : (r.exec loadReturn).cpu.gpr .r12 = r.cpu.mem (base + ctxGuestCs) := cs
  have rip₀ : (r.exec loadReturn).cpu.gpr .r14 = r.cpu.mem (base + ctxGuestRip) := rip
  have csRpl₀ : ((((r.exec loadReturn).exec (signExtend m .r11)).exec (signExtend m .r14)).exec
      loadRpl).cpu.gpr .rax = r.cpu.mem (base + ctxGuestCs) &&& 3 := csRpl
  have ssRpl₀ : ((((r.exec loadReturn).exec (signExtend m .r11)).exec (signExtend m .r14)).exec
      loadRpl).cpu.gpr .rcx = r.cpu.mem (base + ctxGuestSs) &&& 3 := ssRpl
  have ring := restoreRing0_eq m w answers top
  generalize context : contextAt base r.cpu.mem = ctx
  have at_ (slot : U64) : r.cpu.mem (base + slot) = ctx slot := congrFun context slot
  rw [at_] at rip' rsp₀ cs₀ rip₀ csRpl₀ ssRpl₀ top ring
  have shape : checkReturn m w answers r =
      if (decide (ctx ctxGuestCs = 0) || decide (ctx ctxGuestRip = 0)) = true then
        restoreInvalid m w answers (r.exec loadReturn)
      else if (!isCanonical m (ctx ctxGuestRsp)) = true then
        restoreInvalid m w answers ((r.exec loadReturn).exec (signExtend m .r11))
      else if (!isCanonical m (ctx ctxGuestRip)) = true then
        restoreInvalid m w answers
          (((r.exec loadReturn).exec (signExtend m .r11)).exec (signExtend m .r14))
      else if (decide (ctx ctxGuestCs &&& 3 ≠ ctx ctxGuestSs &&& 3) ||
          decide (ctx ctxGuestRsp < 0x128) || decide (ctx ctxGuestCs &&& 3 ≠ 0)) = true then
        restoreInvalid m w answers
          ((((r.exec loadReturn).exec (signExtend m .r11)).exec (signExtend m .r14)).exec loadRpl)
      else restoreRing0 m w answers
        ((((r.exec loadReturn).exec (signExtend m .r11)).exec (signExtend m .r14)).exec loadRpl) := by
    have listing : [Instr.mov32 .rax .r12, .andImm .rax 3, .mov32 .rcx .r13, .andImm .rcx 3] =
      loadRpl := rfl
    simp only [checkReturn, canonicalIn_eq _ _ bits, listing, rip', rsp₀, cs₀, rip₀, csRpl₀,
      ssRpl₀, top]
  rw [shape]
  constructor
  · rintro ⟨cs, rip, canonicalRsp, canonicalRip, csKernel, ssKernel, room, frame, spill⟩
    have enough : ¬ctx ctxGuestRsp < 0x128 := BitVec.not_lt.mpr room
    simp only [cs, rip, canonicalRsp, canonicalRip, csKernel, ssKernel, enough, decide_false,
      Bool.or_false, Bool.not_true, Bool.false_eq_true, if_false, ne_eq, not_true_eq_false]
    have listing : r.exec (prepareReturn m) = (((((((r.exec loadReturn).exec
        (signExtend m .r11)).exec (signExtend m .r14)).exec loadRpl).exec placeFrame).exec
          (signExtend m .r8)).exec (signExtend m .r9)) := by
      simp only [prepareReturn, exec_append]
    rw [listing]
    exact (ring room bits).1 frame spill
  · intro refused
    split
    · rfl
    · split
      · rfl
      · split
        · rfl
        · split
          · rfl
          · rename_i present canonicalRsp canonicalRip level
            simp only [Bool.or_eq_true, decide_eq_true_eq, not_or, not_not, Bool.not_eq_true',
              Bool.not_eq_false] at present canonicalRsp canonicalRip level
            obtain ⟨⟨same, room⟩, kernel⟩ := level
            refine (ring (BitVec.not_lt.mp room) bits).2 fun mapped => refused ?_
            exact ⟨present.1, present.2, canonicalRsp, canonicalRip, kernel, same ▸ kernel,
              BitVec.not_lt.mp room, mapped.1, mapped.2⟩

/-! The guest's stack. -/

/-- What the IRETQ frame is made of, from the spill area on. -/
def iretSlots : List (Gpr × U64) :=
  [(.r14, 0x100), (.r12, 0x108), (.r15, 0x110), (.r11, 0x118), (.r13, 0x120)]

/-- The return values that the spill area keeps a second time. -/
def returnSlots : List (Gpr × U64) :=
  [(.r11, rstGuestRsp), (.r14, rstGuestRip), (.r15, rstRflags), (.r12, rstGuestCs),
    (.r13, rstGuestSs), (.r8, rstFrameRsp)]

/-- The context's slots and those of the spill area as addresses. -/
def copied (base spill : U64) (slots : List (U64 × U64)) : List (U64 × U64) :=
  slots.map fun entry => (base + entry.1, spill + entry.2)

theorem run_transfer (slots : List (U64 × U64)) (c : Cpu ξ) :
    let d := run (slots.flatMap fun entry => [.load .rax .r10 entry.1, .store .r9 entry.2 .rax]) c
    d.mem = Listing.transfer (copied (c.gpr .r10) (c.gpr .r9) slots) c.mem ∧
      ∀ reg, reg ≠ .rax → d.gpr reg = c.gpr reg := by
  induction slots generalizing c with
  | nil => exact ⟨rfl, fun _ _ => rfl⟩
  | cons entry rest ih =>
    obtain ⟨mem, gpr⟩ := ih (run [.load .rax .r10 entry.1, .store .r9 entry.2 .rax] c)
    have step (reg : Gpr) (other : reg ≠ .rax) :
        (run [.load .rax .r10 entry.1, .store .r9 entry.2 .rax] c).gpr reg = c.gpr reg :=
      Function.update_of_ne other _ _
    have stored : (run [.load .rax .r10 entry.1, .store .r9 entry.2 .rax] c).mem =
        Function.update c.mem (c.gpr .r9 + entry.2) (c.mem (c.gpr .r10 + entry.1)) := by
      simp [run, Instr.step, Cpu.setGpr, Cpu.setMem]
    rw [step .r10 (by decide), step .r9 (by decide), stored] at mem
    rw [List.flatMap_cons, run_append]
    exact ⟨mem, fun reg other => (gpr reg other).trans (step reg other)⟩

theorem mem_copied {slots : List (U64 × U64)} {entry : U64 × U64} (member : entry ∈ slots)
    (base spill : U64) : (base + entry.1, spill + entry.2) ∈ copied base spill slots :=
  List.mem_map.mpr ⟨entry, member, rfl⟩

theorem copied_targets (base spill : U64) (slots : List (U64 × U64)) :
    (copied base spill slots).map Prod.snd = (slots.map Prod.snd).map (spill + ·) := by
  simp only [copied, List.map_map]
  rfl

theorem placed_slots (slots : List (Gpr × U64)) (base : U64) :
    (placed slots base).map Prod.snd = (slots.map Prod.snd).map (base + ·) := by
  simp only [placed, List.map_map]
  rfl

/-- An offset that is not in a list is not in it as an address. -/
theorem not_mem_offsets {offsets : List U64} {base offset : U64} (apart : offset ∉ offsets) :
    base + offset ∉ offsets.map (base + ·) := by
  intro member
  obtain ⟨other, inside, same⟩ := List.mem_map.mp member
  rw [BitVec.add_right_inj] at same
  exact apart (same ▸ inside)

/-- The part of the guest's stack that the return is prepared on is no part of
the host's frame. -/
def StackApart (base spill : U64) : Prop :=
  ∀ slot < frameSize, ∀ offset < (0x128 : U64), base + slot ≠ spill + offset

theorem StackApart.not_mem {spill : U64} (apart : StackApart base spill) {slot : U64}
    (inside : slot < frameSize) {offsets : List U64} (low : offsets.all (· < 0x128) = true) :
    base + slot ∉ offsets.map (spill + ·) := by
  intro member
  obtain ⟨offset, among, same⟩ := List.mem_map.mp member
  have below := List.all_eq_true.mp low offset among
  exact apart slot inside offset (decide_eq_true_eq.mp below) same.symm

/-- Only these cells of the guest's stack are written. -/
def WritesOnly (spill : U64) (offsets : List U64) (c d : Cpu ξ) : Prop :=
  ∀ address, address ∉ offsets.map (spill + ·) → d.mem address = c.mem address

theorem WritesOnly.offset {spill : U64} {offsets : List U64} {c d : Cpu ξ}
    (only : WritesOnly spill offsets c d) {offset : U64} (free : offset ∉ offsets) :
    d.mem (spill + offset) = c.mem (spill + offset) := only _ (not_mem_offsets free)

theorem WritesOnly.context {spill : U64} {offsets : List U64} {c d : Cpu ξ}
    (only : WritesOnly spill offsets c d) (apart : StackApart base spill)
    (low : offsets.all (· < 0x128) = true) {slot : U64} (inside : slot < frameSize) :
    d.mem (base + slot) = c.mem (base + slot) := only _ (apart.not_mem inside low)

/-- The native IDTR, as LIDT reads it. -/
def spillIdtr : List Instr :=
  [.load .rax .r10 ctxNativeIdtLimit, .store16 .r9 rstIdtrLimit .rax,
    .load .rax .r10 ctxNativeIdtBase, .store .r9 rstIdtrBase .rax, .mov .rsi .r8, .mov .rbp .r9]

theorem spillContext_eq : spillContext =
    (spillSlots.flatMap fun entry => [Instr.load .rax .r10 entry.1, .store .r9 entry.2 .rax]) ++
      (returnSlots.map (fun entry => .store .r9 entry.2 entry.1) ++ spillIdtr) := rfl

theorem iretFrame_run {c : Cpu ξ} {spill : U64} (r8 : c.gpr .r8 = spill + 0x100) :
    let d := run iretFrame c
    d.gpr = c.gpr ∧ WritesOnly spill (iretSlots.map Prod.snd) c d ∧
      ∀ entry ∈ iretSlots, d.mem (spill + entry.2) = c.gpr entry.1 := by
  have listing : iretFrame = ([(.r14, 0x00), (.r12, 0x08), (.r15, 0x10), (.r11, 0x18),
      (.r13, 0x20)] : List (Gpr × U64)).map fun entry => .store .r8 entry.2 entry.1 := rfl
  have shifted (offset : U64) : spill + 0x100 + offset = spill + (0x100 + offset) :=
    BitVec.add_assoc _ _ _
  have written : run iretFrame c =
      { c with mem := Listing.spill c.gpr (placed iretSlots spill) c.mem } := by
    rw [listing, run_spill, r8]
    simp only [placed, List.map_cons, List.map_nil, shifted, iretSlots]
    rfl
  have distinct : (iretSlots.map Prod.snd).Nodup := by decide +kernel
  have mem : (run iretFrame c).mem = Listing.spill c.gpr (placed iretSlots spill) c.mem := by
    rw [written]
  refine ⟨by rw [written], fun address free => ?_, fun entry member => ?_⟩
  · rw [← placed_slots] at free
    rw [mem]
    exact Listing.spill_other free c.mem
  · have slot : Listing.spill c.gpr (placed iretSlots spill) c.mem (spill + entry.2) =
        c.gpr entry.1 :=
      Listing.spill_slot (placed_nodup distinct spill) (mem_placed member spill) c.mem
    rw [mem]
    exact slot

theorem spillSlots_run {c : Cpu ξ} {spill : U64} (r9 : c.gpr .r9 = spill) (r10 : c.gpr .r10 = base)
    (apart : StackApart base spill) :
    let d := run
      (spillSlots.flatMap fun entry => [.load .rax .r10 entry.1, .store .r9 entry.2 .rax]) c
    (∀ reg, reg ≠ .rax → d.gpr reg = c.gpr reg) ∧
      WritesOnly spill (spillSlots.map Prod.snd) c d ∧
      ∀ entry ∈ spillSlots, d.mem (spill + entry.2) = c.mem (base + entry.1) := by
  obtain ⟨transferred, gpr⟩ := run_transfer spillSlots c
  have distinct : (spillSlots.map Prod.snd).Nodup := by decide +kernel
  have low : (spillSlots.map Prod.snd).all (· < 0x128) = true := by decide +kernel
  have inside : ∀ entry ∈ spillSlots, entry.1 < frameSize :=
    Listing.forall_of_all (by decide +kernel)
  rw [r9, r10] at transferred
  refine ⟨gpr, fun address free => ?_, fun entry member => ?_⟩
  · rw [transferred]
    rw [← copied_targets base] at free
    exact Listing.transfer_other free c.mem
  · rw [transferred]
    refine Listing.transfer_cell ?_ (mem_copied member base spill) ?_ c.mem
    · rw [copied_targets]
      exact distinct.map fun _ _ same => (BitVec.add_right_inj spill).mp same
    · rw [copied_targets]
      exact apart.not_mem (inside entry member) low

theorem returnSlots_run {c : Cpu ξ} {spill : U64} (r9 : c.gpr .r9 = spill) :
    let d := run (returnSlots.map fun entry => .store .r9 entry.2 entry.1) c
    d.gpr = c.gpr ∧ WritesOnly spill (returnSlots.map Prod.snd) c d := by
  have written : run (returnSlots.map fun entry => .store .r9 entry.2 entry.1) c =
      { c with mem := Listing.spill c.gpr (placed returnSlots spill) c.mem } := by
    rw [run_spill, r9]
  have mem : (run (returnSlots.map fun entry => .store .r9 entry.2 entry.1) c).mem =
      Listing.spill c.gpr (placed returnSlots spill) c.mem := by rw [written]
  refine ⟨by rw [written], fun address free => ?_⟩
  rw [← placed_slots] at free
  rw [mem]
  exact Listing.spill_other free c.mem

theorem spillIdtr_run {c : Cpu ξ} {spill : U64} (r9 : c.gpr .r9 = spill) (r10 : c.gpr .r10 = base)
    (apart : StackApart base spill) :
    let d := run spillIdtr c
    WritesOnly spill [rstIdtrLimit, rstIdtrBase] c d ∧
      d.mem (spill + rstIdtrLimit) = ((c.mem (base + ctxNativeIdtLimit)).setWidth 16).toNat ∧
      d.mem (spill + rstIdtrBase) = c.mem (base + ctxNativeIdtBase) := by
  have unmoved : base + ctxNativeIdtBase ≠ spill + rstIdtrLimit :=
    apart _ (by decide) _ (by decide)
  have written : (run spillIdtr c).mem = Function.update (Function.update c.mem
      (spill + rstIdtrLimit) ((c.mem (base + ctxNativeIdtLimit)).setWidth 16).toNat)
        (spill + rstIdtrBase) (c.mem (base + ctxNativeIdtBase)) := by
    simp [run, spillIdtr, Instr.step, Cpu.setGpr, Cpu.setMem, r9, r10, unmoved]
  have different : rstIdtrLimit ≠ rstIdtrBase := by decide
  refine ⟨fun address free => ?_, ?_, ?_⟩
  · simp only [List.map_cons, List.map_nil, List.mem_cons, List.not_mem_nil, or_false, not_or] at free
    rw [written, Function.update_of_ne free.2, Function.update_of_ne free.1]
  · rw [written, Function.update_of_ne (mt (BitVec.add_right_inj _).mp different),
      Function.update_self]
  · rw [written, Function.update_self]

theorem stored16 (value : U64) :
    ((((value.setWidth 16 : U16).toNat : Nat) : U64).setWidth 16 : U16) = value.setWidth 16 := by
  refine BitVec.eq_of_toNat_eq ?_
  simp only [BitVec.toNat_setWidth, BitVec.natCast_eq_ofNat, BitVec.toNat_ofNat]
  omega

/-- The guest's stack, ready for the return. -/
structure Written (base spill : U64) (c d : Cpu ξ) : Prop where
  context : ∀ slot < frameSize, d.mem (base + slot) = c.mem (base + slot)
  spilled : ∀ entry ∈ spillSlots, d.mem (spill + entry.2) = c.mem (base + entry.1)
  frame : ∀ entry ∈ iretSlots, d.mem (spill + entry.2) = c.gpr entry.1
  idtLimit : (d.mem (spill + rstIdtrLimit)).setWidth 16 =
    (c.mem (base + ctxNativeIdtLimit)).setWidth 16
  idtBase : d.mem (spill + rstIdtrBase) = c.mem (base + ctxNativeIdtBase)

theorem writeReturn_written {c : Cpu ξ} {spill : U64} (r8 : c.gpr .r8 = spill + 0x100)
    (r9 : c.gpr .r9 = spill) (r10 : c.gpr .r10 = base) (apart : StackApart base spill) :
    Written base spill c (run (iretFrame ++ spillContext) c) := by
  rw [spillContext_eq, run_append, run_append, run_append]
  obtain ⟨gpr₁, only₁, frame⟩ := iretFrame_run r8
  generalize run iretFrame c = c₁ at *
  obtain ⟨gpr₂, only₂, spilled⟩ := spillSlots_run (c := c₁) ((congrFun gpr₁ _).trans r9)
    ((congrFun gpr₁ _).trans r10) apart
  generalize run (spillSlots.flatMap fun entry => [.load .rax .r10 entry.1,
    .store .r9 entry.2 .rax]) c₁ = c₂ at *
  have r9₂ : c₂.gpr .r9 = spill := (gpr₂ .r9 (by decide)).trans ((congrFun gpr₁ _).trans r9)
  have r10₂ : c₂.gpr .r10 = base := (gpr₂ .r10 (by decide)).trans ((congrFun gpr₁ _).trans r10)
  obtain ⟨gpr₃, only₃⟩ := returnSlots_run r9₂
  generalize run (returnSlots.map fun entry => .store .r9 entry.2 entry.1) c₂ = c₃ at *
  obtain ⟨only₄, idtLimit, idtBase⟩ := spillIdtr_run (c := c₃) ((congrFun gpr₃ _).trans r9₂)
    ((congrFun gpr₃ _).trans r10₂) apart
  generalize run spillIdtr c₃ = c₄ at *
  have low₁ : (iretSlots.map Prod.snd).all (· < 0x128) = true := by decide +kernel
  have low₂ : (spillSlots.map Prod.snd).all (· < 0x128) = true := by decide +kernel
  have low₃ : (returnSlots.map Prod.snd).all (· < 0x128) = true := by decide +kernel
  have low₄ : [rstIdtrLimit, rstIdtrBase].all (· < 0x128) = true := by decide +kernel
  have context₁ {slot : U64} (inside : slot < frameSize) := only₁.context apart low₁ inside
  have context₃ {slot : U64} (inside : slot < frameSize) :
      c₃.mem (base + slot) = c.mem (base + slot) :=
    (only₃.context apart low₃ inside).trans ((only₂.context apart low₂ inside).trans
      (context₁ inside))
  have spillFree : ∀ entry ∈ spillSlots, entry.2 ∉ returnSlots.map Prod.snd ∧
      entry.2 ∉ [rstIdtrLimit, rstIdtrBase] ∧ entry.1 < frameSize :=
    Listing.forall_of_all (by decide +kernel)
  have frameFree : ∀ entry ∈ iretSlots, entry.2 ∉ spillSlots.map Prod.snd ∧
      entry.2 ∉ returnSlots.map Prod.snd ∧ entry.2 ∉ [rstIdtrLimit, rstIdtrBase] :=
    Listing.forall_of_all (by decide +kernel)
  exact {
    context := fun slot inside => (only₄.context apart low₄ inside).trans (context₃ inside)
    spilled := fun entry member => by
      obtain ⟨returns, idtr, inside⟩ := spillFree entry member
      rw [only₄.offset idtr, only₃.offset returns, spilled entry member, context₁ inside]
    frame := fun entry member => by
      obtain ⟨spills, returns, idtr⟩ := frameFree entry member
      rw [only₄.offset idtr, only₃.offset returns, only₂.offset spills, frame entry member]
    idtLimit := by
      rw [idtLimit, context₃ (by decide)]
      exact stored16 _
    idtBase := by rw [idtBase, context₃ (by decide)] }

/-! What is loaded after VMXOFF. -/

def earlyMsrs : List (U32 × U64) :=
  [(msrIa32Debugctl, ctxGuestDebugctl), (msrFsBase, ctxGuestFs), (msrGsBase, ctxGuestGs),
    (msrKernelGsBase, ctxGuestKgs), (msrIa32Efer, ctxGuestEfer), (msrIa32Pat, ctxGuestPat)]

def lateMsrs : List (U32 × U64) :=
  [(msrIa32SysenterEsp, ctxSysenterEsp), (msrIa32SysenterEip, ctxSysenterEip)]

def cetMsrs : List (U32 × U64) :=
  [(msrIa32SCet, ctxGuestSCet), (msrIa32Pl0Ssp, ctxGuestSsp),
    (msrIa32InterruptSspTable, ctxGuestIntrSspTable)]

theorem restoreMsr_run (msr : U32) (slot : U64) (c : Cpu ξ) :
    (run (restoreMsr msr slot) c).msr = Function.update c.msr msr (c.mem (c.gpr .r10 + slot)) := by
  simp [run, restoreMsr, splitRax, Instr.step, Cpu.setGpr, paired_split]

/-- One MSR after the other. -/
theorem restoreMsr_list (entries : List (U32 × U64)) (c : Cpu ξ) :
    let d := run (entries.flatMap fun entry => restoreMsr entry.1 entry.2) c
    d.msr = Listing.reload (fun slot => c.mem (c.gpr .r10 + slot)) entries c.msr ∧
      d.mem = c.mem ∧ d.gpr .r10 = c.gpr .r10 ∧ d.dr7 = c.dr7 := by
  induction entries generalizing c with
  | nil => exact ⟨rfl, rfl, rfl, rfl⟩
  | cons entry rest ih =>
    obtain ⟨msr, mem, r10, dr7⟩ := ih (run (restoreMsr entry.1 entry.2) c)
    have mem' : (run (restoreMsr entry.1 entry.2) c).mem = c.mem := run_same .mem rfl c
    have r10' : (run (restoreMsr entry.1 entry.2) c).gpr .r10 = c.gpr .r10 :=
      run_same (.gpr .r10) rfl c
    have dr7' : (run (restoreMsr entry.1 entry.2) c).dr7 = c.dr7 := run_same .dr7 rfl c
    rw [mem', r10', restoreMsr_run] at msr
    rw [List.flatMap_cons, run_append]
    exact ⟨msr, mem.trans mem', r10.trans r10', dr7.trans dr7'⟩

/-- SYSENTER_CS is written with a zero upper half. -/
def restoreSysenterCs : List Instr :=
  [.movImm .rcx (msrIa32SysenterCs.setWidth 64), .load .rax .r10 ctxSysenterCs, .xor32 .rdx, .wrmsr]

theorem restoreSysenterCs_run (c : Cpu ξ) :
    (run restoreSysenterCs c).msr = Function.update c.msr msrIa32SysenterCs
      (low32 (c.mem (c.gpr .r10 + ctxSysenterCs))) := by
  have whole (value : U64) : paired 0#64 value = low32 value := by
    refine BitVec.eq_of_getLsbD_eq fun bit inside => ?_
    rw [getLsbD_paired _ _ inside, getLsbD_low32]
    by_cases low : bit < 32 <;> simp [low]
  have written : (run restoreSysenterCs c).msr = Function.update c.msr msrIa32SysenterCs
      (paired 0#64 (c.mem (c.gpr .r10 + ctxSysenterCs))) := by
    simp [run, restoreSysenterCs, Instr.step, Cpu.setGpr]
  rw [written, whole]

theorem restoreMsrs_eq : restoreMsrs =
    [Instr.load .rax .r10 ctxGuestDr7, .toDr7 .rax] ++
      ((earlyMsrs.flatMap fun entry => restoreMsr entry.1 entry.2) ++
        (restoreSysenterCs ++ lateMsrs.flatMap fun entry => restoreMsr entry.1 entry.2)) := rfl

theorem restoreMsrs_run {c : Cpu ξ} (here : c.gpr .r10 = base) :
    let d := run restoreMsrs c
    (∀ entry ∈ earlyMsrs ++ lateMsrs, d.msr entry.1 = c.mem (base + entry.2)) ∧
      d.msr msrIa32SysenterCs = low32 (c.mem (base + ctxSysenterCs)) ∧
      d.dr7 = c.mem (base + ctxGuestDr7) ∧ d.mem = c.mem ∧ d.gpr .r10 = base := by
  have dr7₀ : (run [.load .rax .r10 ctxGuestDr7, .toDr7 .rax] c).dr7 =
      c.mem (c.gpr .r10 + ctxGuestDr7) := Function.update_self Gpr.rax _ c.gpr
  have mem₀ : (run [.load .rax .r10 ctxGuestDr7, .toDr7 .rax] c).mem = c.mem := rfl
  have r10₀ : (run [.load .rax .r10 ctxGuestDr7, .toDr7 .rax] c).gpr .r10 = c.gpr .r10 :=
    run_same (.gpr .r10) rfl c
  rw [restoreMsrs_eq, run_append, run_append, run_append]
  generalize run [.load .rax .r10 ctxGuestDr7, .toDr7 .rax] c = c₀ at *
  obtain ⟨msr₁, mem₁, r10₁, dr7₁⟩ := restoreMsr_list earlyMsrs c₀
  generalize run (earlyMsrs.flatMap fun entry => restoreMsr entry.1 entry.2) c₀ = c₁ at *
  have msr₂ := restoreSysenterCs_run c₁
  have mem₂ : (run restoreSysenterCs c₁).mem = c₁.mem := run_same .mem rfl c₁
  have r10₂ : (run restoreSysenterCs c₁).gpr .r10 = c₁.gpr .r10 := run_same (.gpr .r10) rfl c₁
  have dr7₂ : (run restoreSysenterCs c₁).dr7 = c₁.dr7 := run_same .dr7 rfl c₁
  generalize run restoreSysenterCs c₁ = c₂ at *
  obtain ⟨msr₃, mem₃, r10₃, dr7₃⟩ := restoreMsr_list lateMsrs c₂
  generalize run (lateMsrs.flatMap fun entry => restoreMsr entry.1 entry.2) c₂ = c₃ at *
  rw [r10₀, here, mem₀] at msr₁
  rw [r10₁, r10₀, here, mem₁, mem₀] at msr₂
  rw [r10₂, r10₁, r10₀, here, mem₂, mem₁, mem₀] at msr₃
  have early : (earlyMsrs.map Prod.fst).Nodup := by decide
  have late : (lateMsrs.map Prod.fst).Nodup := by decide
  have earlyApart : ∀ entry ∈ earlyMsrs, entry.1 ∉ lateMsrs.map Prod.fst ∧
      entry.1 ≠ msrIa32SysenterCs := Listing.forall_of_all (by decide +kernel)
  have csApart : msrIa32SysenterCs ∉ lateMsrs.map Prod.fst := by decide
  refine ⟨fun entry member => ?_, ?_, ?_, mem₃.trans (mem₂.trans (mem₁.trans mem₀)),
    r10₃.trans (r10₂.trans (r10₁.trans (r10₀.trans here)))⟩
  · rcases List.mem_append.mp member with first | second
    · obtain ⟨apart, other⟩ := earlyApart entry first
      rw [msr₃, Listing.reload_other apart, msr₂, Function.update_of_ne other, msr₁]
      exact Listing.reload_reg early first c₀.msr
    · rw [msr₃]
      exact Listing.reload_reg late second c₂.msr
  · rw [msr₃, Listing.reload_other csApart, msr₂, Function.update_self]
  · rw [dr7₃, dr7₂, dr7₁, dr7₀, here]

/-- The MSRs that a native return loads as the context has them. -/
def nativeMsrs (m : Machine) : List (U32 × U64) :=
  earlyMsrs ++ lateMsrs ++ if m.cetVmcsEnabled then cetMsrs else []

theorem restoreCet_run (m : Machine) {c : Cpu ξ} (here : c.gpr .r10 = base) :
    let d := run (restoreCet m) c
    (m.cetVmcsEnabled = true → ∀ entry ∈ cetMsrs, d.msr entry.1 = c.mem (base + entry.2)) ∧
      (∀ msr, msr ∉ cetMsrs.map Prod.fst → d.msr msr = c.msr msr) := by
  by_cases enabled : m.cetVmcsEnabled = true
  · have listing : restoreCet m = cetMsrs.flatMap fun entry => restoreMsr entry.1 entry.2 := by
      rw [restoreCet, if_pos enabled]
      rfl
    obtain ⟨msr, -⟩ := restoreMsr_list cetMsrs c
    have distinct : (cetMsrs.map Prod.fst).Nodup := by decide
    rw [here] at msr
    rw [listing]
    simp only [msr]
    exact ⟨fun _ entry member => Listing.reload_reg distinct member c.msr,
      fun other apart => Listing.reload_other apart c.msr⟩
  · have listing : restoreCet m = [] := if_neg enabled
    rw [listing]
    exact ⟨fun on => absurd on enabled, fun _ _ => rfl⟩

/-- The control registers and the IDT, from the spill area. -/
theorem loadControl_run {c : Cpu ξ} {spill : U64} (r9 : c.gpr .r9 = spill) :
    let d := run loadControl c
    d.cr0 = c.mem (spill + rstCr0) ∧ d.cr3 = c.mem (spill + rstCr3) ∧
      d.cr4 = c.mem (spill + rstCr4) &&& ~~~(1#64 <<< 13) ∧
      d.idtLimit = (c.mem (spill + rstIdtrLimit)).setWidth 16 ∧
      d.idtBase = c.mem (spill + rstIdtrBase) := by
  have second : spill + rstIdtrLimit + 2 = spill + rstIdtrBase := by
    rw [BitVec.add_assoc]
    rfl
  subst r9
  refine ⟨rfl, rfl, rfl, rfl, ?_⟩
  rw [← second]
  rfl

/-- What is restored outside VMX operation, before the guest's stack is left. -/
def restoreGuest (m : Machine) : List Instr :=
  restoreMsrs ++ restoreXstate m .r10 ++ restoreCet m ++ loadControl

/-- The processor after the restore, and the memory it was restored from. -/
structure Restored (m : Machine) (host : HostSlots) (base spill : U64) (c d : Cpu ξ) : Prop where
  msrs : ∀ entry ∈ nativeMsrs m, d.msr entry.1 = c.mem (base + entry.2)
  sysenterCs : d.msr msrIa32SysenterCs = low32 (c.mem (base + ctxSysenterCs))
  dr7 : d.dr7 = c.mem (base + ctxGuestDr7)
  ext : ∀ i, (savedMask m host).getLsbD i = true → d.ext i = c.image base i
  xcr0 : m.xstateMode ≠ .fxsave → d.xcr0 = c.mem (base + ctxGuestXcr0)
  xss : m.xstateMode ≠ .fxsave → m.xsavesEnabled = true →
    d.msr msrIa32Xss = c.mem (base + ctxGuestXss)
  cr0 : d.cr0 = c.mem (spill + rstCr0)
  cr3 : d.cr3 = c.mem (spill + rstCr3)
  cr4 : d.cr4 = c.mem (spill + rstCr4) &&& ~~~(1#64 <<< 13)
  idtLimit : d.idtLimit = (c.mem (spill + rstIdtrLimit)).setWidth 16
  idtBase : d.idtBase = c.mem (spill + rstIdtrBase)
  mem : d.mem = c.mem
  r8 : d.gpr .r8 = c.gpr .r8

/-- The parts that each piece of the restore leaves to the others. -/
theorem restoreXstate_clean (m : Machine) {part : Part} (free : part ∉ [.gpr .rax, .gpr .rcx,
    .gpr .rdx, .gpr .r14, .gpr .r15, .msr, .xcr0, .ext]) :
    (restoreXstate m .r10).any (·.touches part) = false := by
  simp only [List.mem_cons, List.not_mem_nil, or_false, not_or] at free
  obtain ⟨rax, rcx, rdx, r14, r15, msr, xcr0, ext⟩ := free
  unfold restoreXstate
  split
  · simp [Instr.touches, ext]
  · split <;> simp [writeXcr0, writeMsr, splitRax, loadXsavesMask, requestBoth, requestHost,
      Instr.touches, rax, rcx, rdx, r14, r15, msr, xcr0, ext]

theorem restoreCet_clean (m : Machine) {part : Part} (free : part ∉ [.gpr .rax, .gpr .rcx,
    .gpr .rdx, .msr]) : (restoreCet m).any (·.touches part) = false := by
  simp only [List.mem_cons, List.not_mem_nil, or_false, not_or] at free
  obtain ⟨rax, rcx, rdx, msr⟩ := free
  unfold restoreCet
  split
  · simp [restoreMsr, splitRax, Instr.touches, rax, rcx, rdx, msr]
  · rfl

theorem restoreGuest_restored {c : Cpu ξ} {spill : U64} (r10 : c.gpr .r10 = base)
    (r9 : c.gpr .r9 = spill) (stored : host.Stored base c.mem) :
    Restored m host base spill c (run (restoreGuest m) c) := by
  rw [restoreGuest, run_append, run_append, run_append]
  obtain ⟨msrs₁, cs₁, dr7₁, mem₁, r10₁⟩ := restoreMsrs_run r10
  have r9₁ : (run restoreMsrs c).gpr .r9 = c.gpr .r9 := run_same (.gpr .r9) rfl c
  have r8₁ : (run restoreMsrs c).gpr .r8 = c.gpr .r8 := run_same (.gpr .r8) rfl c
  have image₁ : (run restoreMsrs c).image = c.image := run_same .image rfl c
  generalize run restoreMsrs c = c₁ at *
  have stored₁ := stored
  rw [← mem₁, ← r10₁] at stored₁
  obtain ⟨ext, xcr0, xss⟩ := restoreXstate_restored (m := m) (by decide) stored₁
  have msr₂ {msr : U32} (apart : msr ≠ msrIa32Xss) := restoreXstate_msr m .r10 c₁ apart
  have dr7₂ : (run (restoreXstate m .r10) c₁).dr7 = c₁.dr7 :=
    run_same .dr7 (restoreXstate_clean m (by decide)) c₁
  have mem₂ : (run (restoreXstate m .r10) c₁).mem = c₁.mem :=
    run_same .mem (restoreXstate_clean m (by decide)) c₁
  have r8₂ : (run (restoreXstate m .r10) c₁).gpr .r8 = c₁.gpr .r8 :=
    run_same (.gpr .r8) (restoreXstate_clean m (by decide)) c₁
  have r9₂ : (run (restoreXstate m .r10) c₁).gpr .r9 = c₁.gpr .r9 :=
    run_same (.gpr .r9) (restoreXstate_clean m (by decide)) c₁
  have r10₂ : (run (restoreXstate m .r10) c₁).gpr .r10 = c₁.gpr .r10 :=
    run_same (.gpr .r10) (restoreXstate_clean m (by decide)) c₁
  rw [r10₁, mem₁] at xcr0 xss
  rw [r10₁, image₁] at ext
  generalize run (restoreXstate m .r10) c₁ = c₂ at *
  obtain ⟨cet, others⟩ := restoreCet_run m (r10₂.trans r10₁)
  have dr7₃ : (run (restoreCet m) c₂).dr7 = c₂.dr7 :=
    run_same .dr7 (restoreCet_clean m (by decide)) c₂
  have mem₃ : (run (restoreCet m) c₂).mem = c₂.mem :=
    run_same .mem (restoreCet_clean m (by decide)) c₂
  have ext₃ : (run (restoreCet m) c₂).ext = c₂.ext :=
    run_same .ext (restoreCet_clean m (by decide)) c₂
  have xcr0₃ : (run (restoreCet m) c₂).xcr0 = c₂.xcr0 :=
    run_same .xcr0 (restoreCet_clean m (by decide)) c₂
  have r8₃ : (run (restoreCet m) c₂).gpr .r8 = c₂.gpr .r8 :=
    run_same (.gpr .r8) (restoreCet_clean m (by decide)) c₂
  have r9₃ : (run (restoreCet m) c₂).gpr .r9 = c₂.gpr .r9 :=
    run_same (.gpr .r9) (restoreCet_clean m (by decide)) c₂
  generalize run (restoreCet m) c₂ = c₃ at *
  obtain ⟨cr0, cr3, cr4, idtLimit, idtBase⟩ :=
    loadControl_run (c := c₃) (r9₃.trans (r9₂.trans (r9₁.trans r9)))
  have msr₄ : (run loadControl c₃).msr = c₃.msr := run_same .msr rfl c₃
  have dr7₄ : (run loadControl c₃).dr7 = c₃.dr7 := run_same .dr7 rfl c₃
  have ext₄ : (run loadControl c₃).ext = c₃.ext := run_same .ext rfl c₃
  have xcr0₄ : (run loadControl c₃).xcr0 = c₃.xcr0 := run_same .xcr0 rfl c₃
  have mem₄ : (run loadControl c₃).mem = c₃.mem := run_same .mem rfl c₃
  have r8₄ : (run loadControl c₃).gpr .r8 = c₃.gpr .r8 := run_same (.gpr .r8) rfl c₃
  generalize run loadControl c₃ = c₄ at *
  rw [mem₃, mem₂, mem₁] at cr0 cr3 cr4 idtLimit idtBase
  have firsts : ∀ entry ∈ earlyMsrs ++ lateMsrs, entry.1 ∉ cetMsrs.map Prod.fst ∧
      entry.1 ≠ msrIa32Xss := Listing.forall_of_all (by decide +kernel)
  have csFree : msrIa32SysenterCs ∉ cetMsrs.map Prod.fst ∧ msrIa32SysenterCs ≠ msrIa32Xss := by
    decide
  have xssFree : msrIa32Xss ∉ cetMsrs.map Prod.fst := by decide
  exact {
    msrs := fun entry member => by
      rw [msr₄]
      rcases List.mem_append.mp member with plain | guarded
      · obtain ⟨apart, other⟩ := firsts entry plain
        rw [others _ apart, msr₂ other, msrs₁ entry plain]
      · by_cases enabled : m.cetVmcsEnabled = true
        · rw [if_pos enabled] at guarded
          rw [cet enabled entry guarded, mem₂, mem₁]
        · rw [if_neg enabled] at guarded
          cases guarded
    sysenterCs := by rw [msr₄, others _ csFree.1, msr₂ csFree.2, cs₁]
    dr7 := by rw [dr7₄, dr7₃, dr7₂, dr7₁]
    ext := fun i member => by rw [ext₄, ext₃, ext i member]
    xcr0 := fun masked => by rw [xcr0₄, xcr0₃, xcr0 masked]
    xss := fun masked saves => by rw [msr₄, others _ xssFree, xss masked saves]
    cr0 := cr0
    cr3 := cr3
    cr4 := cr4
    idtLimit := idtLimit
    idtBase := idtBase
    mem := mem₄.trans (mem₃.trans (mem₂.trans mem₁))
    r8 := r8₄.trans (r8₃.trans (r8₂.trans r8₁)) }

/-- R11, which the spill area is addressed by, is loaded last. -/
theorem loadSpill_run {c : Cpu ξ} {spill : U64} (r8 : c.gpr .r8 = spill + 0x100) :
    let d := run loadSpill c
    (∀ entry ∈ rstSlots, d.gpr entry.1 = c.mem (spill + entry.2)) ∧ d.gpr .rsp = spill + 0x100 := by
  have listing : loadSpill = [Instr.mov .rsp .r8, .lea .r11 .rsp (-0x100)] ++
      (rstSlots.dropLast.map (fun entry => .load entry.1 .r11 entry.2) ++
        [Instr.load .r11 .r11 0x50]) := rfl
  have rsp₁ : (run [.mov .rsp .r8, .lea .r11 .rsp (-0x100)] c).gpr .rsp = spill + 0x100 := r8
  have r11₁ : (run [.mov .rsp .r8, .lea .r11 .rsp (-0x100)] c).gpr .r11 = spill := by
    have value : (run [.mov .rsp .r8, .lea .r11 .rsp (-0x100)] c).gpr .r11 =
        c.gpr .r8 + (-0x100) := rfl
    rw [value, r8]
    bv_omega
  have mem₁ : (run [.mov .rsp .r8, .lea .r11 .rsp (-0x100)] c).mem = c.mem := rfl
  rw [listing, run_append, run_append]
  generalize run [.mov .rsp .r8, .lea .r11 .rsp (-0x100)] c = c₁ at *
  have loaded := run_reload .r11 rstSlots.dropLast (by decide) c₁
  rw [r11₁, mem₁] at loaded
  have distinct : (rstSlots.dropLast.map Prod.fst).Nodup := by decide
  have front (entry : Gpr × U64) (member : entry ∈ rstSlots.dropLast) :
      (run (rstSlots.dropLast.map fun entry => .load entry.1 .r11 entry.2) c₁).gpr entry.1 =
        c.mem (spill + entry.2) := by
    rw [loaded]
    exact Listing.reload_reg (by rw [placed_regs]; exact distinct) (mem_placed member spill) c₁.gpr
  have kept (reg : Gpr) (apart : reg ∉ rstSlots.dropLast.map Prod.fst) :
      (run (rstSlots.dropLast.map fun entry => .load entry.1 .r11 entry.2) c₁).gpr reg =
        c₁.gpr reg := by
    rw [loaded]
    exact Listing.reload_other (by rw [placed_regs]; exact apart) c₁.gpr
  have mem₂ : (run (rstSlots.dropLast.map fun entry => .load entry.1 .r11 entry.2) c₁).mem =
      c.mem := by rw [loaded]
  have r11₂ := (kept .r11 (by decide)).trans r11₁
  have rsp₂ := (kept .rsp (by decide)).trans rsp₁
  generalize run (rstSlots.dropLast.map fun entry => .load entry.1 .r11 entry.2) c₁ = c₂ at *
  have last : (run [.load .r11 .r11 0x50] c₂).gpr .r11 = c₂.mem (c₂.gpr .r11 + 0x50) := by
    simp [run, Instr.step, Cpu.setGpr]
  have others (reg : Gpr) (other : reg ≠ .r11) :
      (run [.load .r11 .r11 0x50] c₂).gpr reg = c₂.gpr reg := Function.update_of_ne other _ _
  have split : rstSlots = rstSlots.dropLast ++ [(.r11, 0x50)] := rfl
  have apart : ∀ entry ∈ rstSlots.dropLast, entry.1 ≠ .r11 := by decide
  refine ⟨fun entry member => ?_, (others .rsp (by decide)).trans rsp₂⟩
  rw [split] at member
  rcases List.mem_append.mp member with early | final
  · rw [others entry.1 (apart entry early), front entry early]
  · rw [List.mem_singleton.mp final, last, r11₂, mem₂]

/-- The part of the guest's stack that the return is prepared on is its own: the
C++ routines do not use it, and the guest's page tables map it as well. -/
structure StackShared (w : Callees ξ) (answers : Answers) (base spill : U64) : Prop where
  apart : StackApart base spill
  free : ∀ offset < (0x128 : U64), ¬w.scratch (spill + offset)
  mapped : ∀ mem, ∀ offset < (0x128 : U64),
    answers.guestView mem (spill + offset) = mem (spill + offset)

/-- The guest runs on natively with what the context holds. -/
structure Continued (m : Machine) (host : HostSlots) (context : U64 → U64) (image : Nat → ξ)
    (c : Cpu ξ) : Prop where
  gprs : ∀ entry ∈ gprSlots, c.gpr entry.1 = context entry.2
  rsp : c.gpr .rsp = context ctxGuestRsp
  cr0 : c.cr0 = context ctxGuestCr0
  cr3 : c.cr3 = context ctxGuestCr3
  cr4 : c.cr4 = context ctxGuestCr4 &&& ~~~(1#64 <<< 13)
  idtLimit : c.idtLimit = (context ctxNativeIdtLimit).setWidth 16
  idtBase : c.idtBase = context ctxNativeIdtBase
  dr7 : c.dr7 = context ctxGuestDr7
  msrs : ∀ entry ∈ nativeMsrs m, c.msr entry.1 = context entry.2
  sysenterCs : c.msr msrIa32SysenterCs = low32 (context ctxSysenterCs)
  xcr0 : m.xstateMode ≠ .fxsave → c.xcr0 = context ctxGuestXcr0
  xss : m.xstateMode ≠ .fxsave → m.xsavesEnabled = true → c.msr msrIa32Xss = context ctxGuestXss
  ext : ∀ i, (savedMask m host).getLsbD i = true → c.ext i = image i

theorem call_image (f : Callee) (r : Root ξ) : (r.call w f).cpu.image = r.cpu.image :=
  (w.abi f (run [.sub .rsp 0x20] r.cpu)).image

/-- The processor has left VMX operation, with the guest's stack prepared at
`spill` for `context`. -/
structure Prepared (base spill : U64) (context : U64 → U64) (image : Nat → ξ) (r : Root ξ) :
    Prop where
  rbx : r.cpu.gpr .rbx = base
  rbp : r.cpu.gpr .rbp = spill
  rsi : r.cpu.gpr .rsi = spill + 0x100
  cells : ∀ slot : U64, 0x1000 ≤ slot → slot < frameSize → r.cpu.mem (base + slot) = context slot
  spilled : ∀ entry ∈ spillSlots, r.cpu.mem (spill + entry.2) = context entry.1
  frame : ∀ entry ∈ iretSlots, ∀ slot, (entry.1, slot) ∈ loadedSlots →
    r.cpu.mem (spill + entry.2) = context slot
  idtLimit : (r.cpu.mem (spill + rstIdtrLimit)).setWidth 16 =
    (context ctxNativeIdtLimit).setWidth 16
  idtBase : r.cpu.mem (spill + rstIdtrBase) = context ctxNativeIdtBase
  image : r.cpu.image base = image

/-- A routine that is not given the context leaves the preparation alone. -/
theorem Prepared.call {spill : U64} {context : U64 → U64} {image : Nat → ξ}
    (prepared : Prepared base spill context image r) (alone : Private w base)
    (stack : StackShared w answers base spill) (f : Callee) (other : f.writesContext = false) :
    Prepared base spill context image (r.call w f) := by
  have outside {address : U64} :
      ¬(f.writesContext = true ∧ InContext (r.cpu.gpr .rcx) address) := by
    simp [other]
  have stacked {offset : U64} (low : offset < 0x128) :
      (r.call w f).cpu.mem (spill + offset) = r.cpu.mem (spill + offset) :=
    call_mem f r (stack.free offset low) outside
  have spillLow : ∀ entry ∈ spillSlots, entry.2 < 0x128 :=
    Listing.forall_of_all (by decide +kernel)
  have frameLow : ∀ entry ∈ iretSlots, entry.2 < 0x128 :=
    Listing.forall_of_all (by decide +kernel)
  exact {
    rbx := (call_gpr w f r .rbx (by decide)).trans prepared.rbx
    rbp := (call_gpr w f r .rbp (by decide)).trans prepared.rbp
    rsi := (call_gpr w f r .rsi (by decide)).trans prepared.rsi
    cells := fun slot low high =>
      (call_mem f r (alone slot low high) outside).trans (prepared.cells slot low high)
    spilled := fun entry member =>
      (stacked (spillLow entry member)).trans (prepared.spilled entry member)
    frame := fun entry member slot source =>
      (stacked (frameLow entry member)).trans (prepared.frame entry member slot source)
    idtLimit := by rw [stacked (by decide)]; exact prepared.idtLimit
    idtBase := (stacked (by decide)).trans prepared.idtBase
    image := (congrFun (call_image f r) base).trans prepared.image }

theorem Prepared.exec {spill : U64} {context : U64 → U64} {image : Nat → ξ}
    (prepared : Prepared base spill context image r) (block : List Instr)
    (mem : block.any (·.touches .mem) = false) (saved : block.any (·.touches .image) = false)
    (rbx : block.any (·.touches (.gpr .rbx)) = false)
    (rbp : block.any (·.touches (.gpr .rbp)) = false)
    (rsi : block.any (·.touches (.gpr .rsi)) = false) :
    Prepared base spill context image (r.exec block) := by
  have mem' : (r.exec block).cpu.mem = r.cpu.mem := run_same .mem mem r.cpu
  have image' : (r.exec block).cpu.image = r.cpu.image := run_same .image saved r.cpu
  exact {
    rbx := Eq.trans (run_same (.gpr .rbx) rbx r.cpu) prepared.rbx
    rbp := Eq.trans (run_same (.gpr .rbp) rbp r.cpu) prepared.rbp
    rsi := Eq.trans (run_same (.gpr .rsi) rsi r.cpu) prepared.rsi
    cells := mem' ▸ prepared.cells
    spilled := mem' ▸ prepared.spilled
    frame := mem' ▸ prepared.frame
    idtLimit := mem' ▸ prepared.idtLimit
    idtBase := mem' ▸ prepared.idtBase
    image := image' ▸ prepared.image }

theorem Prepared.trace {spill : U64} {context : U64 → U64} {image : Nat → ξ}
    (prepared : Prepared base spill context image r) (alone : Private w base)
    (stack : StackShared w answers base spill) (event : U64) :
    Prepared base spill context image (r.trace w event) :=
  (prepared.exec [.movImm .rcx event] rfl rfl rfl rfl rfl).call alone stack
    .hvTraceCurrentVcpuEvent rfl

/-- The slots that IRETQ pops. -/
theorem iretq_frame (spill : U64) (context : U64 → U64) {r : Root ξ}
    (rsp : r.cpu.gpr .rsp = spill + 0x100)
    (frame : ∀ entry ∈ iretSlots, ∀ slot, (entry.1, slot) ∈ loadedSlots →
      r.cpu.mem (spill + entry.2) = context slot) :
    (iretq r).1 = .native (context ctxGuestRip) (context ctxGuestCs) (context ctxRflags)
        (context ctxGuestSs) ∧
      (iretq r).2.cpu = r.cpu.setGpr .rsp (context ctxGuestRsp) := by
  have popped (offset : U64) : r.slot offset = r.cpu.mem (spill + (0x100 + offset)) := by
    rw [Root.slot, rsp, BitVec.add_assoc]
  have rip : r.slot 0x00 = context ctxGuestRip :=
    (popped _).trans (frame (.r14, 0x100) (by decide) _ (by decide))
  have cs : r.slot 0x08 = context ctxGuestCs :=
    (popped _).trans (frame (.r12, 0x108) (by decide) _ (by decide))
  have rflags : r.slot 0x10 = context ctxRflags :=
    (popped _).trans (frame (.r15, 0x110) (by decide) _ (by decide))
  have stack : r.slot 0x18 = context ctxGuestRsp :=
    (popped _).trans (frame (.r11, 0x118) (by decide) _ (by decide))
  have ss : r.slot 0x20 = context ctxGuestSs :=
    (popped _).trans (frame (.r13, 0x120) (by decide) _ (by decide))
  rw [iretq, rip, cs, rflags, stack, ss]
  exact ⟨rfl, rfl⟩

theorem setGpr_rest (c : Cpu ξ) (reg : Gpr) (value : U64) :
    (c.setGpr reg value).cr0 = c.cr0 ∧ (c.setGpr reg value).cr3 = c.cr3 ∧
      (c.setGpr reg value).cr4 = c.cr4 ∧ (c.setGpr reg value).idtLimit = c.idtLimit ∧
      (c.setGpr reg value).idtBase = c.idtBase ∧ (c.setGpr reg value).dr7 = c.dr7 ∧
      (c.setGpr reg value).msr = c.msr ∧ (c.setGpr reg value).xcr0 = c.xcr0 ∧
      (c.setGpr reg value).ext = c.ext :=
  ⟨rfl, rfl, rfl, rfl, rfl, rfl, rfl, rfl, rfl⟩

/-- From VMXOFF to IRETQ. -/
theorem returnNative_continued {spill : U64} {context : U64 → U64} {image : Nat → ξ}
    (prepared : Prepared base spill context image r) (alone : Private w base)
    (stack : StackShared w answers base spill) (stored : host.Stored base r.cpu.mem) :
    let out := returnNative m w answers r
    out.1 = .native (context ctxGuestRip) (context ctxGuestCs) (context ctxRflags)
        (context ctxGuestSs) ∧ Continued m host context image out.2.cpu := by
  have traced := (prepared.exec [.mov .r10 .rbx] rfl rfl rfl rfl rfl).trace alone stack
    hvTracePostVmxoff
  have placed := traced.exec [.mov .r10 .rbx, .mov .r9 .rbp, .mov .r8 .rsi] rfl rfl rfl rfl rfl
  have stored' : host.Stored base (((r.exec [.mov .r10 .rbx]).trace w hvTracePostVmxoff).exec
      [.mov .r10 .rbx, .mov .r9 .rbp, .mov .r8 .rsi]).cpu.mem := by
    have same (slot : U64) (low : 0x1000 ≤ slot) (high : slot < frameSize) :=
      (placed.cells slot low high).trans (prepared.cells slot low high).symm
    exact {
      dr7 := (same _ (by decide) (by decide)).trans stored.dr7
      debugctl := (same _ (by decide) (by decide)).trans stored.debugctl
      xcr0 := (same _ (by decide) (by decide)).trans stored.xcr0
      xss := (same _ (by decide) (by decide)).trans stored.xss
      kernelGs := (same _ (by decide) (by decide)).trans stored.kernelGs }
  have r10 : (((r.exec [.mov .r10 .rbx]).trace w hvTracePostVmxoff).exec
      [.mov .r10 .rbx, .mov .r9 .rbp, .mov .r8 .rsi]).cpu.gpr .r10 = base := traced.rbx
  have r9 : (((r.exec [.mov .r10 .rbx]).trace w hvTracePostVmxoff).exec
      [.mov .r10 .rbx, .mov .r9 .rbp, .mov .r8 .rsi]).cpu.gpr .r9 = spill := traced.rbp
  have r8 : (((r.exec [.mov .r10 .rbx]).trace w hvTracePostVmxoff).exec
      [.mov .r10 .rbx, .mov .r9 .rbp, .mov .r8 .rsi]).cpu.gpr .r8 = spill + 0x100 := traced.rsi
  have listing : returnNative m w answers r =
      let after := (((r.exec [.mov .r10 .rbx]).trace w hvTracePostVmxoff).exec
        [.mov .r10 .rbx, .mov .r9 .rbp, .mov .r8 .rsi]).exec (restoreGuest m)
      iretq (Root.exec loadSpill
        { after with cpu := { after.cpu with mem := answers.guestView after.cpu.mem } }) := by
    simp only [returnNative, restoreGuest, exec_append, List.append_assoc]
  rw [listing]
  generalize ((r.exec [.mov .r10 .rbx]).trace w hvTracePostVmxoff).exec
    [.mov .r10 .rbx, .mov .r9 .rbp, .mov .r8 .rsi] = c at *
  have restored := restoreGuest_restored (m := m) r10 r9 stored'
  obtain ⟨calls, cells⟩ : ∃ calls, c.exec (restoreGuest m) = ⟨run (restoreGuest m) c.cpu, calls⟩ :=
    ⟨c.calls, rfl⟩
  rw [cells]
  simp only
  generalize run (restoreGuest m) c.cpu = d at *
  -- only the prepared part of the stack is read under the guest's CR3
  have shared {offset : U64} (low : offset < 0x128) :
      answers.guestView d.mem (spill + offset) = c.cpu.mem (spill + offset) := by
    rw [stack.mapped d.mem offset low, restored.mem]
  obtain ⟨gprs, rsp⟩ : (∀ entry ∈ rstSlots,
      (run loadSpill { d with mem := answers.guestView d.mem }).gpr entry.1 =
        answers.guestView d.mem (spill + entry.2)) ∧
      (run loadSpill { d with mem := answers.guestView d.mem }).gpr .rsp = spill + 0x100 :=
    loadSpill_run (restored.r8.trans r8)
  have mem₁ : (run loadSpill { d with mem := answers.guestView d.mem }).mem =
      answers.guestView d.mem := run_same .mem rfl _
  have msr₁ : (run loadSpill { d with mem := answers.guestView d.mem }).msr = d.msr :=
    run_same .msr rfl _
  have xcr0₁ : (run loadSpill { d with mem := answers.guestView d.mem }).xcr0 = d.xcr0 :=
    run_same .xcr0 rfl _
  have ext₁ : (run loadSpill { d with mem := answers.guestView d.mem }).ext = d.ext :=
    run_same .ext rfl _
  have dr7₁ : (run loadSpill { d with mem := answers.guestView d.mem }).dr7 = d.dr7 :=
    run_same .dr7 rfl _
  obtain ⟨cr0₁, cr3₁, cr4₁, idtLimit₁, idtBase₁⟩ :
      (run loadSpill { d with mem := answers.guestView d.mem }).cr0 = d.cr0 ∧
      (run loadSpill { d with mem := answers.guestView d.mem }).cr3 = d.cr3 ∧
      (run loadSpill { d with mem := answers.guestView d.mem }).cr4 = d.cr4 ∧
      (run loadSpill { d with mem := answers.guestView d.mem }).idtLimit = d.idtLimit ∧
      (run loadSpill { d with mem := answers.guestView d.mem }).idtBase = d.idtBase :=
    run_same .control rfl _
  have frameLow : ∀ entry ∈ iretSlots, entry.2 < 0x128 :=
    Listing.forall_of_all (by decide +kernel)
  obtain ⟨left, final⟩ := iretq_frame spill context (r := Root.exec loadSpill
      { cpu := { d with mem := answers.guestView d.mem }, calls := calls }) rsp
    fun entry member slot source => by
      have read : (run loadSpill { d with mem := answers.guestView d.mem }).mem
          (spill + entry.2) = context slot := by
        rw [mem₁, shared (frameLow entry member)]
        exact placed.frame entry member slot source
      exact read
  refine ⟨left, ?_⟩
  rw [final]
  simp only [Root.exec]
  generalize run loadSpill { d with mem := answers.guestView d.mem } = e at *
  have source : ∀ entry ∈ gprSlots, spillSlots.any (fun moved =>
      moved.1 = entry.2 ∧ (entry.1, moved.2) ∈ rstSlots) = true :=
    Listing.forall_of_all (by decide +kernel)
  have spillLow : ∀ entry ∈ spillSlots, entry.2 < 0x128 :=
    Listing.forall_of_all (by decide +kernel)
  have notRsp : ∀ entry ∈ gprSlots, entry.1 ≠ .rsp := by decide
  have msrSlots : ∀ entry ∈ earlyMsrs ++ lateMsrs ++ cetMsrs,
      0x1000 ≤ entry.2 ∧ entry.2 < frameSize := Listing.forall_of_all (by decide +kernel)
  have msrSlot {entry : U32 × U64} (member : entry ∈ nativeMsrs m) :
      0x1000 ≤ entry.2 ∧ entry.2 < frameSize := by
    refine msrSlots entry ?_
    unfold nativeMsrs at member
    split at member
    · exact member
    · rw [List.append_nil] at member
      exact List.mem_append_left _ member
  have unmoved (reg : Gpr) (other : reg ≠ .rsp) :
      (e.setGpr .rsp (context ctxGuestRsp)).gpr reg = e.gpr reg := Function.update_of_ne other _ _
  have stack : (e.setGpr .rsp (context ctxGuestRsp)).gpr .rsp = context ctxGuestRsp := by
    rw [Cpu.setGpr_gpr, Function.update_self]
  obtain ⟨cr0₃, cr3₃, cr4₃, idtLimit₃, idtBase₃, dr7₃, msr₃, xcr0₃, ext₃⟩ :=
    setGpr_rest e .rsp (context ctxGuestRsp)
  have cr0₂ : c.cpu.mem (spill + rstCr0) = context ctxGuestCr0 :=
    placed.spilled (ctxGuestCr0, rstCr0) (by decide)
  have cr3₂ : c.cpu.mem (spill + rstCr3) = context ctxGuestCr3 :=
    placed.spilled (ctxGuestCr3, rstCr3) (by decide)
  have cr4₂ : c.cpu.mem (spill + rstCr4) = context ctxGuestCr4 :=
    placed.spilled (ctxGuestCr4, rstCr4) (by decide)
  have debug := placed.cells ctxGuestDr7 (by decide) (by decide)
  have cs := placed.cells ctxSysenterCs (by decide) (by decide)
  have xcr0₂ := placed.cells ctxGuestXcr0 (by decide) (by decide)
  have xss₂ := placed.cells ctxGuestXss (by decide) (by decide)
  exact {
    gprs := fun entry member => by
      obtain ⟨moved, among, fits⟩ := List.any_eq_true.mp (source entry member)
      obtain ⟨slot, loads⟩ := of_decide_eq_true fits
      have loaded := gprs _ loads
      rw [unmoved entry.1 (notRsp entry member), loaded, shared (spillLow moved among),
        placed.spilled moved among, slot]
    rsp := stack
    cr0 := by rw [cr0₃, cr0₁, restored.cr0, cr0₂]
    cr3 := by rw [cr3₃, cr3₁, restored.cr3, cr3₂]
    cr4 := by rw [cr4₃, cr4₁, restored.cr4, cr4₂]
    idtLimit := by rw [idtLimit₃, idtLimit₁, restored.idtLimit, placed.idtLimit]
    idtBase := by rw [idtBase₃, idtBase₁, restored.idtBase, placed.idtBase]
    dr7 := by rw [dr7₃, dr7₁, restored.dr7, debug]
    msrs := fun entry member => by
      rw [msr₃, msr₁, restored.msrs entry member,
        placed.cells _ (msrSlot member).1 (msrSlot member).2]
    sysenterCs := by rw [msr₃, msr₁, restored.sysenterCs, cs]
    xcr0 := fun masked => by rw [xcr0₃, xcr0₁, restored.xcr0 masked, xcr0₂]
    xss := fun masked saves => by rw [msr₃, msr₁, restored.xss masked saves, xss₂]
    ext := fun i member => by rw [ext₃, ext₁, restored.ext i member, placed.image] }

/-! The whole way back. -/

theorem prepareReturn_run (m : Machine) {c : Cpu ξ} (here : c.gpr .r10 = base) :
    let d := run (prepareReturn m) c
    (∀ entry ∈ loadedSlots, d.gpr entry.1 = c.mem (base + entry.2)) ∧
      d.gpr .r8 = c.mem (base + ctxGuestRsp) - 0x28 ∧
      d.gpr .r9 = c.mem (base + ctxGuestRsp) - 0x128 ∧ d.gpr .r10 = base ∧
      d.gpr .rbx = c.gpr .rbx ∧ d.mem = c.mem ∧ d.image = c.image := by
  have listing : prepareReturn m = loadReturn ++ ((signExtend m .r11 ++ signExtend m .r14 ++
      loadRpl) ++ (placeFrame ++ (signExtend m .r8 ++ signExtend m .r9))) := by
    simp only [prepareReturn, List.append_assoc]
  have r10 : (run (prepareReturn m) c).gpr .r10 = c.gpr .r10 := run_same (.gpr .r10) rfl c
  have rbx : (run (prepareReturn m) c).gpr .rbx = c.gpr .rbx := run_same (.gpr .rbx) rfl c
  have mem : (run (prepareReturn m) c).mem = c.mem := run_same .mem rfl c
  have image : (run (prepareReturn m) c).image = c.image := run_same .image rfl c
  obtain ⟨loaded, -⟩ := loadReturn_run here
  have kept (entry : Gpr × U64) (member : entry ∈ loadedSlots) (c : Cpu ξ) :
      (run ((signExtend m .r11 ++ signExtend m .r14 ++ loadRpl) ++
        (placeFrame ++ (signExtend m .r8 ++ signExtend m .r9))) c).gpr entry.1 =
        c.gpr entry.1 := by
    refine run_same (.gpr entry.1) ?_ c
    simp only [loadedSlots, List.mem_cons, List.not_mem_nil, or_false] at member
    rcases member with rfl | rfl | rfl | rfl | rfl <;> rfl
  have rsp (c : Cpu ξ) : (run (signExtend m .r11 ++ signExtend m .r14 ++ loadRpl) c).gpr .r11 =
      c.gpr .r11 := run_same (.gpr .r11) rfl c
  have frame (c : Cpu ξ) : (run (signExtend m .r8 ++ signExtend m .r9) c).gpr .r8 = c.gpr .r8 ∧
      (run (signExtend m .r8 ++ signExtend m .r9) c).gpr .r9 = c.gpr .r9 :=
    ⟨run_same (.gpr .r8) rfl c, run_same (.gpr .r9) rfl c⟩
  have top : (run loadReturn c).gpr .r11 = c.mem (base + ctxGuestRsp) :=
    loaded (.r11, ctxGuestRsp) (by simp [loadedSlots])
  rw [listing, run_append] at r10 rbx mem image ⊢
  refine ⟨fun entry member => (kept entry member _).trans (loaded entry member), ?_, ?_,
    r10.trans here, rbx, mem, image⟩
  · rw [run_append, run_append, (frame _).1]
    exact (placeFrame_run ((rsp _).trans top)).1
  · rw [run_append, run_append, (frame _).2]
    exact (placeFrame_run ((rsp _).trans top)).2

theorem writeReturn_regs (c : Cpu ξ) :
    let d := run (iretFrame ++ spillContext) c
    d.gpr .rsi = c.gpr .r8 ∧ d.gpr .rbp = c.gpr .r9 ∧ d.gpr .rbx = c.gpr .rbx ∧
      d.image = c.image := by
  have rbx : (run (iretFrame ++ spillContext) c).gpr .rbx = c.gpr .rbx :=
    run_same (.gpr .rbx) rfl c
  have image : (run (iretFrame ++ spillContext) c).image = c.image := run_same .image rfl c
  have last (c : Cpu ξ) : (run spillIdtr c).gpr .rsi = c.gpr .r8 ∧
      (run spillIdtr c).gpr .rbp = c.gpr .r9 := by
    simp [run, spillIdtr, Instr.step, Cpu.setGpr, Cpu.setMem]
  have listing : iretFrame ++ spillContext = (iretFrame ++ ((spillSlots.flatMap fun entry =>
      [Instr.load .rax .r10 entry.1, .store .r9 entry.2 .rax]) ++
        returnSlots.map fun entry => .store .r9 entry.2 entry.1)) ++ spillIdtr := rfl
  have r8 : (run (iretFrame ++ ((spillSlots.flatMap fun entry =>
      [Instr.load .rax .r10 entry.1, .store .r9 entry.2 .rax]) ++
        returnSlots.map fun entry => .store .r9 entry.2 entry.1)) c).gpr .r8 = c.gpr .r8 :=
    run_same (.gpr .r8) rfl c
  have r9 : (run (iretFrame ++ ((spillSlots.flatMap fun entry =>
      [Instr.load .rax .r10 entry.1, .store .r9 entry.2 .rax]) ++
        returnSlots.map fun entry => .store .r9 entry.2 entry.1)) c).gpr .r9 = c.gpr .r9 :=
    run_same (.gpr .r9) rfl c
  refine ⟨?_, ?_, rbx, image⟩
  · rw [listing, run_append, (last _).1, r8]
  · rw [listing, run_append, (last _).2, r9]

theorem exec_cpu (block : List Instr) (r : Root ξ) : (r.exec block).cpu = run block r.cpu := rfl

/-- The guest's stack is written for the context. -/
theorem leaveForNative_prepared {r : Root ξ} (here : r.cpu.gpr .r10 = base)
    (rbx : r.cpu.gpr .rbx = base)
    (stack : StackApart base (r.cpu.mem (base + ctxGuestRsp) - 0x128)) :
    Prepared base (r.cpu.mem (base + ctxGuestRsp) - 0x128) (contextAt base r.cpu.mem)
      (r.cpu.image base) ((r.exec (prepareReturn m)).exec (iretFrame ++ spillContext)) := by
  obtain ⟨after, shape, cpu⟩ : ∃ after : Root ξ,
      (r.exec (prepareReturn m)).exec (iretFrame ++ spillContext) = after ∧
        after.cpu = run (iretFrame ++ spillContext) (run (prepareReturn m) r.cpu) :=
    ⟨_, rfl, by rw [exec_cpu, exec_cpu]⟩
  rw [shape]
  obtain ⟨loaded, r8, r9, r10, rbx', mem, image⟩ := prepareReturn_run m here
  generalize run (prepareReturn m) r.cpu = c at *
  have frame : r.cpu.mem (base + ctxGuestRsp) - 0x28 =
      r.cpu.mem (base + ctxGuestRsp) - 0x128 + 0x100 := by bv_omega
  have written := writeReturn_written (r8.trans frame) r9 r10 stack
  obtain ⟨rsi, rbp, rbx'', image'⟩ := writeReturn_regs c
  generalize run (iretFrame ++ spillContext) c = d at *
  subst cpu
  exact {
    rbx := rbx''.trans (rbx'.trans rbx)
    rbp := rbp.trans r9
    rsi := rsi.trans (r8.trans frame)
    cells := fun slot low high => (written.context slot high).trans (congrFun mem _)
    spilled := fun entry member => (written.spilled entry member).trans (congrFun mem _)
    frame := fun entry member slot source =>
      (written.frame entry member).trans (loaded (entry.1, slot) source)
    idtLimit := by
      have limit := written.idtLimit
      rw [mem] at limit
      exact limit
    idtBase := written.idtBase.trans (congrFun mem _)
    image := (congrFun image' base).trans (congrFun image base) }

/-- Two memories agree on the context and the host's slots. -/
def SameContext (first second : U64 → U64) : Prop :=
  ∀ slot : U64, 0x1000 ≤ slot → slot < frameSize → first slot = second slot

theorem SameContext.returnOk {first second : U64 → U64} (same : SameContext first second) :
    ReturnOk m first ↔ ReturnOk m second := by
  unfold ReturnOk
  rw [same ctxGuestCs (by decide) (by decide), same ctxGuestRip (by decide) (by decide),
    same ctxGuestRsp (by decide) (by decide), same ctxGuestSs (by decide) (by decide)]

theorem Prepared.congr {spill : U64} {first second : U64 → U64} {image : Nat → ξ}
    (prepared : Prepared base spill first image r) (same : SameContext first second) :
    Prepared base spill second image r := by
  have spilled : ∀ entry ∈ spillSlots, 0x1000 ≤ entry.1 ∧ entry.1 < frameSize :=
    Listing.forall_of_all (by decide +kernel)
  have loaded : ∀ entry ∈ loadedSlots, 0x1000 ≤ entry.2 ∧ entry.2 < frameSize :=
    Listing.forall_of_all (by decide +kernel)
  exact { prepared with
    cells := fun slot low high => (prepared.cells slot low high).trans (same slot low high)
    spilled := fun entry member => (prepared.spilled entry member).trans
      (same _ (spilled entry member).1 (spilled entry member).2)
    frame := fun entry member slot source => (prepared.frame entry member slot source).trans
      (same slot (loaded _ source).1 (loaded _ source).2)
    idtLimit := by
      rw [prepared.idtLimit, same ctxNativeIdtLimit (by decide) (by decide)]
    idtBase := prepared.idtBase.trans (same _ (by decide) (by decide)) }

/-- The host's slots are still in the frame. -/
theorem Prepared.stored {spill : U64} {mem : U64 → U64} {image : Nat → ξ}
    (prepared : Prepared base spill (contextAt base mem) image r) (stored : host.Stored base mem) :
    host.Stored base r.cpu.mem where
  dr7 := (prepared.cells _ (by decide) (by decide)).trans stored.dr7
  debugctl := (prepared.cells _ (by decide) (by decide)).trans stored.debugctl
  xcr0 := (prepared.cells _ (by decide) (by decide)).trans stored.xcr0
  xss := (prepared.cells _ (by decide) (by decide)).trans stored.xss
  kernelGs := (prepared.cells _ (by decide) (by decide)).trans stored.kernelGs

/-- The call that asks whether this processor may leave. -/
def askTeardown (m : Machine) (w : Callees ξ) (r : Root ξ) : Root ξ :=
  (r.exec ([Instr.cli, .mov .r10 .rcx, .mov .rbx .r10] ++ loadHostKernelGs .r10 ++
    loadHostMasks m .r10)).call w .markCurrentVcpuTearingDown

/-- The routine answers true whenever it is called. -/
def Willing (w : Callees ξ) (f : Callee) : Prop :=
  ∀ c, ((w.apply f c).gpr .rax).setWidth 8 ≠ 0#8

theorem Willing.answered {f : Callee} (willing : Willing w f) (r : Root ξ) :
    (r.call w f).answered = true := decide_eq_true (willing _)

theorem askTeardown_run (alone : Private w base) (rcx : r.cpu.gpr .rcx = base) :
    SameContext (contextAt base (askTeardown m w r).cpu.mem) (contextAt base r.cpu.mem) ∧
      (askTeardown m w r).cpu.gpr .rbx = base ∧
      (askTeardown m w r).cpu.image = r.cpu.image := by
  have clean {part : Part} (free : part ∉ [.interrupts, .gpr .r10, .gpr .rbx, .gpr .rax, .gpr .rdx,
      .gpr .rcx, .msr, .xcr0]) : ([Instr.cli, .mov .r10 .rcx, .mov .rbx .r10] ++
        loadHostKernelGs .r10 ++ loadHostMasks m .r10).any (·.touches part) = false := by
    simp only [List.mem_cons, List.not_mem_nil, or_false, not_or] at free
    obtain ⟨interrupts, r10, rbx, rax, rdx, rcx, msr, xcr0⟩ := free
    rw [List.any_append, loadHostMasks_touches .r10 rax rdx rcx xcr0 msr, Bool.or_false]
    simp [loadHostKernelGs, writeMsr, splitRax, Instr.touches, interrupts, r10, rbx, rax, rdx,
      rcx, msr]
  have mem : (r.exec ([Instr.cli, .mov .r10 .rcx, .mov .rbx .r10] ++ loadHostKernelGs .r10 ++
      loadHostMasks m .r10)).cpu.mem = r.cpu.mem := run_same .mem (clean (by decide)) r.cpu
  have image : (r.exec ([Instr.cli, .mov .r10 .rcx, .mov .rbx .r10] ++ loadHostKernelGs .r10 ++
      loadHostMasks m .r10)).cpu.image = r.cpu.image := run_same .image (clean (by decide)) r.cpu
  have rbx : (r.exec ([Instr.cli, .mov .r10 .rcx, .mov .rbx .r10] ++ loadHostKernelGs .r10 ++
      loadHostMasks m .r10)).cpu.gpr .rbx = base := by
    have kept (c : Cpu ξ) : (run (loadHostKernelGs .r10 ++ loadHostMasks m .r10) c).gpr .rbx =
        c.gpr .rbx := by
      refine run_same (.gpr .rbx) ?_ c
      rw [List.any_append, loadHostMasks_touches .r10 (by decide) (by decide) (by decide)
        (by decide) (by decide)]
      rfl
    rw [List.append_assoc, exec_append, exec_cpu, kept]
    exact rcx
  have outside {address : U64} : ¬(Callee.writesContext .markCurrentVcpuTearingDown = true ∧
      InContext ((r.exec ([Instr.cli, .mov .r10 .rcx, .mov .rbx .r10] ++ loadHostKernelGs .r10 ++
        loadHostMasks m .r10)).cpu.gpr .rcx) address) := fun given => by cases given.1
  refine ⟨fun slot low high => ?_, (call_gpr w _ _ .rbx (by decide)).trans rbx,
    (call_image _ _).trans image⟩
  exact (call_mem _ _ (alone slot low high) outside).trans (congrFun mem _)

/-- The preparation for the context that the teardown began with. -/
theorem leaveForNative_ready {r : Root ξ} {context : U64 → U64} {image : Nat → ξ}
    (here : r.cpu.gpr .r10 = base) (rbx : r.cpu.gpr .rbx = base)
    (same : SameContext (contextAt base r.cpu.mem) context) (kept : r.cpu.image base = image)
    (alone : Private w base)
    (stack : StackShared w answers base (context ctxGuestRsp - 0x128)) :
    Prepared base (context ctxGuestRsp - 0x128) context image
      ((((r.exec (prepareReturn m)).exec (iretFrame ++ spillContext)).trace w hvTracePreVmxoff).call
        w .hvClearCurrentVmcsAndRecord) := by
  have top : r.cpu.mem (base + ctxGuestRsp) = context ctxGuestRsp :=
    same ctxGuestRsp (by decide) (by decide)
  have written := leaveForNative_prepared (m := m) here rbx (by rw [top]; exact stack.apart)
  rw [top, kept] at written
  exact ((written.congr same).trace alone stack hvTracePreVmxoff).call alone stack _ rfl

theorem leaveForNative_shape (m : Machine) (w : Callees ξ) (answers : Answers) (r : Root ξ) :
    leaveForNative m w answers r =
      let cleared := ((r.exec (iretFrame ++ spillContext)).trace w hvTracePreVmxoff).call w
        .hvClearCurrentVmcsAndRecord
      if cleared.answered then
        if vmxOk answers.vmxoff then returnNative m w answers cleared
        else teardownVmxoffFailed w answers cleared
      else (.parked, cleared.call w .hvFailVmcsClear) := rfl

theorem hvRestoreStateAndReturn_shape (m : Machine) (w : Callees ξ) (answers : Answers)
    (r : Root ξ) :
    ((askTeardown m w r).answered = true → hvRestoreStateAndReturn m w answers r =
      checkReturn m w answers ((askTeardown m w r).exec [.mov .r10 .rbx])) ∧
    (¬(askTeardown m w r).answered = true →
      (hvRestoreStateAndReturn m w answers r).1 = .parked) := by
  constructor
  · intro answered
    exact if_pos answered
  · intro refused
    have shape : hvRestoreStateAndReturn m w answers r = restoreInvalid m w answers
        ((askTeardown m w r).exec
          [.mov .r10 .rbx, .storeImm .r10 ctxAbortVm 0, .storeImm .r10 ctxHaltVm 1]) :=
      if_neg refused
    rw [shape]
    rfl

/-- A processor that is given back runs on with its captured state, and it is
given back whenever the state can be returned to and VMX operation be left. -/
theorem hvRestoreStateAndReturn_native (stored : host.Stored base r.cpu.mem)
    (rcx : r.cpu.gpr .rcx = base) (alone : Private w base)
    (bits : m.linearAddressBits = 48 ∨ m.linearAddressBits = 57)
    (stack : StackShared w answers base (contextAt base r.cpu.mem ctxGuestRsp - 0x128)) :
    let context := contextAt base r.cpu.mem
    let out := hvRestoreStateAndReturn m w answers r
    (out.1 ≠ .parked →
      (askTeardown m w r).answered = true ∧ ReturnOk m context ∧ vmxOk answers.vmxoff = true ∧
        out.1 = .native (context ctxGuestRip) (context ctxGuestCs) (context ctxRflags)
          (context ctxGuestSs) ∧
        Continued m host context (r.cpu.image base) out.2.cpu) ∧
    (Willing w .markCurrentVcpuTearingDown → Willing w .hvClearCurrentVmcsAndRecord →
      ReturnOk m context → vmxOk answers.vmxoff = true → out.1 ≠ .parked) := by
  obtain ⟨same, rbx, image⟩ := askTeardown_run (m := m) alone rcx
  obtain ⟨leave, stay⟩ := hvRestoreStateAndReturn_shape m w answers r
  have willing : Willing w .markCurrentVcpuTearingDown → (askTeardown m w r).answered = true :=
    fun given => given.answered _
  intro context out
  by_cases answered : (askTeardown m w r).answered = true
  swap
  · exact ⟨fun left => absurd (stay answered) left, fun given => absurd (willing given) answered⟩
  have reached : out = checkReturn m w answers ((askTeardown m w r).exec [.mov .r10 .rbx]) :=
    leave answered
  -- the context is the one that the teardown was asked for
  have here : ((askTeardown m w r).exec [.mov .r10 .rbx]).cpu.gpr .r10 = base := rbx
  have rbx' : ((askTeardown m w r).exec [.mov .r10 .rbx]).cpu.gpr .rbx = base := rbx
  have same' : SameContext
      (contextAt base ((askTeardown m w r).exec [.mov .r10 .rbx]).cpu.mem) context := same
  have image' : ((askTeardown m w r).exec [.mov .r10 .rbx]).cpu.image base = r.cpu.image base :=
    congrFun image base
  obtain ⟨pass, fail⟩ := checkReturn_eq w answers here bits
  rw [same'.returnOk] at pass fail
  by_cases ok : ReturnOk m context
  swap
  · exact ⟨fun left => absurd (reached ▸ fail ok) left, fun _ _ given => absurd given ok⟩
  have ready := leaveForNative_ready (m := m) here rbx' same' image' alone stack
  have passed := (reached.trans (pass ok)).trans (leaveForNative_shape m w answers _)
  generalize (((((askTeardown m w r).exec [.mov .r10 .rbx]).exec (prepareReturn m)).exec
    (iretFrame ++ spillContext)).trace w hvTracePreVmxoff) = traced at *
  have cleared : Willing w .hvClearCurrentVmcsAndRecord →
      (traced.call w .hvClearCurrentVmcsAndRecord).answered = true := fun given => given.answered _
  generalize traced.call w .hvClearCurrentVmcsAndRecord = r₃ at *
  simp only at passed
  by_cases recorded : r₃.answered = true
  swap
  · rw [if_neg recorded] at passed
    exact ⟨fun left => absurd (congrArg Prod.fst passed) left,
      fun _ given => absurd (cleared given) recorded⟩
  rw [if_pos recorded] at passed
  by_cases off : vmxOk answers.vmxoff = true
  swap
  · rw [if_neg off] at passed
    exact ⟨fun left => absurd (congrArg Prod.fst passed) left, fun _ _ _ given => absurd given off⟩
  rw [if_pos off] at passed
  obtain ⟨native, continued⟩ :=
    returnNative_continued (m := m) ready alone stack (ready.stored stored)
  rw [← passed] at native continued
  exact ⟨fun _ => ⟨answered, ok, off, native, continued⟩, fun _ _ _ _ => by
    rw [native]
    exact Departure.noConfusion⟩

theorem nonvolatile_ne_rax : ∀ reg ∈ nonvolatile, reg ≠ .rax := by decide

/-- Routines that agree to everything. -/
def agreeable : Callees Unit where
  scratch _ := False
  apply _ c := c.setGpr .rax 1
  abi _ _ := ⟨fun reg member => Function.update_of_ne (nonvolatile_ne_rax reg member) _ _,
    rfl, rfl, rfl, rfl, rfl, rfl, rfl, fun _ _ _ => rfl⟩

/-- An unload that finds kernel code at 0x40000 on a stack below 0x50000. -/
def unloading : Root Unit where
  cpu := { prepared.cpu with
    gpr := fun _ => 0x10000
    mem := fun address =>
      if address = 0x11168 then 7
      else if address = 0x10000 + ctxGuestCs then 0x10
      else if address = 0x10000 + ctxGuestSs then 0x18
      else if address = 0x10000 + ctxGuestRip then 0x40000
      else if address = 0x10000 + ctxGuestRsp then 0x50000
      else if address = 0x10000 + ctxRflags then 0x202
      else 0 }
  calls := []

theorem hvRestoreStateAndReturn_native_unloading :
    (hvRestoreStateAndReturn xsavesMachine agreeable plainAnswers unloading).1 =
      .native 0x40000 0x10 0x202 0x18 := by
  have stack : StackShared agreeable plainAnswers 0x10000
      (contextAt 0x10000 unloading.cpu.mem ctxGuestRsp - 0x128) := {
    apart := fun slot low offset below => by
      have top : contextAt 0x10000 unloading.cpu.mem ctxGuestRsp = 0x50000 := by decide
      rw [top]
      unfold frameSize at low
      bv_omega
    free := fun _ _ => id
    mapped := fun _ _ _ => rfl }
  have stored : preparedSlots.Stored 0x10000 unloading.cpu.mem := ⟨rfl, rfl, rfl, rfl, rfl⟩
  have rcx : unloading.cpu.gpr .rcx = 0x10000 := rfl
  have answered (f : Callee) : Willing agreeable f := fun c => by
    have one : (agreeable.apply f c).gpr .rax = 1 := by simp [agreeable]
    have set : (1 : U64).setWidth 8 ≠ 0#8 := by decide
    rw [one]
    exact set
  obtain ⟨only, always⟩ := hvRestoreStateAndReturn_native (m := xsavesMachine) stored rcx
    (fun _ _ _ => id) (.inl rfl) stack
  obtain ⟨-, -, -, native, -⟩ := only (always (answered _) (answered _) (by decide) rfl)
  exact native

end Knhv.Entry
