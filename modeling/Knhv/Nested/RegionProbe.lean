import Knhv.Nested.PageTransfer
import Knhv.Nested.Representation
import Mathlib.Tactic.IntervalCases

namespace Knhv.Nested

variable {σ : Type}

/-- The width that the canonical test uses for a configured number of bits. -/
def linearWidth (addressBits : U32) : Nat :=
  if 48 ≤ addressBits ∧ addressBits ≤ 63 then addressBits.toNat else 48

/-- The bits of an address above its width repeat the sign. -/
def Canonical (width address : Nat) : Prop :=
  address < 2 ^ (width - 1) ∨ 2 ^ 64 - 2 ^ (width - 1) ≤ address

theorem linearWidth_bounds (addressBits : U32) :
    48 ≤ linearWidth addressBits ∧ linearWidth addressBits ≤ 63 := by
  unfold linearWidth
  split
  · rename_i inside
    exact ⟨BitVec.le_def.mp inside.1, BitVec.le_def.mp inside.2⟩
  · decide

theorem signTest_iff (value : U64) {width : Nat} (atLeast : 48 ≤ width) (atMost : width ≤ 63) :
    (if value &&& 1#64 <<< (width - 1) = 0 then value &&& ~~~((1#64 <<< width) - 1) == 0
      else value &&& ~~~((1#64 <<< width) - 1) == ~~~((1#64 <<< width) - 1)) = true ↔
      Canonical width value.toNat := by
  have inside := value.isLt
  have mask : ~~~((1#64 <<< width) - 1) = BitVec.allOnes 64 <<< width := by
    interval_cases width <;> decide
  have maskValue : (BitVec.allOnes 64 <<< width).toNat = 2 ^ 64 - 2 ^ width := by
    interval_cases width <;> decide
  have upper := Bits.toNat_and_not_low value width
  have sign : value &&& 1#64 <<< (width - 1) = 0 ↔ value.toNat / 2 ^ (width - 1) % 2 = 0 := by
    have set := Bits.and_one_shiftLeft_ne_zero value (by omega : width - 1 < 64)
    rw [BitVec.getLsbD, Nat.testBit_eq_decide_div_mod_eq, decide_eq_true_iff] at set
    have two := Nat.mod_two_eq_zero_or_one (value.toNat / 2 ^ (width - 1))
    rw [← not_iff_not]
    refine set.trans ?_
    omega
  by_cases clear : value &&& 1#64 <<< (width - 1) = 0
  · have even := sign.mp clear
    rw [if_pos clear, mask, beq_iff_eq, BitVec.toNat_eq, upper]
    change value.toNat / 2 ^ width * 2 ^ width = 0 ↔ _
    unfold Canonical
    interval_cases width <;> omega
  · have odd := mt sign.mpr clear
    rw [if_neg clear, mask, beq_iff_eq, BitVec.toNat_eq, upper, maskValue]
    unfold Canonical
    interval_cases width <;> omega

theorem isCanonicalAddress_iff (value : U64) (addressBits : U32) :
    isCanonicalAddress value addressBits = true ↔
      Canonical (linearWidth addressBits) value.toNat := by
  obtain ⟨atLeast, atMost⟩ := linearWidth_bounds addressBits
  have width : (if 48 ≤ addressBits ∧ addressBits ≤ 63 then addressBits else 48 : U32).toNat =
      linearWidth addressBits := by
    unfold linearWidth
    split <;> rfl
  unfold isCanonicalAddress
  dsimp only
  rw [width]
  exact signTest_iff value atLeast atMost

/-- The two ends of a range decide for all of it: it is shorter than the hole
between the two halves of the canonical addresses. -/
theorem isLinearRangeCanonical_iff (vcpu : NestedVcpu σ) (linear : U64) (length : U32) :
    isLinearRangeCanonical vcpu linear length = true ↔
      0 < length.toNat ∧ linear.toNat + length.toNat ≤ 2 ^ 64 ∧ ∀ i < length.toNat,
        Canonical (linearWidth vcpu.capabilities.linearAddressBits) (linear.toNat + i) := by
  obtain ⟨atLeast, atMost⟩ := linearWidth_bounds vcpu.capabilities.linearAddressBits
  have whole := length.isLt
  have address := linear.isLt
  unfold isLinearRangeCanonical
  dsimp only
  by_cases empty : length = 0
  · rw [if_pos empty, empty]
    simp
  have positive := length_pos empty
  have last : ((length - 1).setWidth 64 : U64).toNat = length.toNat - 1 := by
    rw [BitVec.toNat_setWidth, BitVec.toNat_sub_of_le (by rw [BitVec.le_def]; exact positive),
      Nat.mod_eq_of_lt (by omega)]
    rfl
  have limit : (~~~0 - (length - 1).setWidth 64 : U64).toNat = 2 ^ 64 - length.toNat := by
    rw [BitVec.toNat_sub_of_le (by rw [BitVec.le_def, last]; simp; omega), last]
    simp
    omega
  rw [if_neg empty]
  by_cases wraps : ~~~0 - (length - 1).setWidth 64 < linear
  · rw [if_pos wraps]
    have beyond := BitVec.lt_def.mp wraps
    rw [limit] at beyond
    constructor
    · intro impossible
      exact absurd impossible Bool.false_ne_true
    · rintro ⟨-, fits, -⟩
      omega
  · rw [if_neg wraps]
    have fits := mt BitVec.lt_def.mpr wraps
    rw [limit] at fits
    have final : (linear + (length - 1).setWidth 64).toNat = linear.toNat + (length.toNat - 1) := by
      rw [BitVec.toNat_add, last, Nat.mod_eq_of_lt (by omega)]
    rw [Bool.and_eq_true, isCanonicalAddress_iff, isCanonicalAddress_iff, final]
    -- the hole is at least as long as two ranges can be
    have half : 2 ^ (linearWidth vcpu.capabilities.linearAddressBits - 1) ≤ 2 ^ 62 :=
      Nat.pow_le_pow_right (by decide) (by omega)
    unfold Canonical
    generalize 2 ^ (linearWidth vcpu.capabilities.linearAddressBits - 1) = bound at half
    constructor
    · rintro ⟨first, final⟩
      refine ⟨positive, by omega, fun i inside => ?_⟩
      omega
    · rintro ⟨-, -, all⟩
      exact ⟨all 0 positive, all (length.toNat - 1) (by omega)⟩

/-- A page that a VMX region may take up. -/
structure RegionPage (vcpu : NestedVcpu σ) (region : U64) : Prop where
  aligned : region.toNat % 4096 = 0
  inside : region.toNat + 4096 ≤ 2 ^ physicalWidth vcpu.capabilities.maxPhysicalAddressBits

theorem physicalWidth_le (addressBits : U32) : physicalWidth addressBits ≤ 52 := by
  unfold physicalWidth
  split
  · rename_i inside
    exact BitVec.le_def.mp inside.2
  · decide

theorem regionChecks_iff (vcpu : NestedVcpu σ) (region : U64) :
    (!isAlignedPage region ||
        !isPhysicalAddress region vcpu.capabilities.maxPhysicalAddressBits ||
        ~~~0 - (kNestedPageSize - 1).setWidth 64 < region ||
        !isPhysicalAddress (region + (kNestedPageSize - 1).setWidth 64)
          vcpu.capabilities.maxPhysicalAddressBits) = false ↔ RegionPage vcpu region := by
  have last : ((kNestedPageSize - 1).setWidth 64 : U64).toNat = 4095 := by decide
  have limit : (~~~0 - (kNestedPageSize - 1).setWidth 64 : U64).toNat = 2 ^ 64 - 4096 := by decide
  have width : 2 ^ physicalWidth vcpu.capabilities.maxPhysicalAddressBits ≤ 2 ^ 52 :=
    Nat.pow_le_pow_right (by decide) (physicalWidth_le _)
  have address := region.isLt
  simp only [Bool.or_eq_false_iff, Bool.not_eq_false', isAlignedPage_iff, isPhysicalAddress_iff,
    decide_eq_false_iff_not, BitVec.lt_def, limit]
  constructor
  · rintro ⟨⟨⟨aligned, start⟩, room⟩, final⟩
    rw [BitVec.toNat_add, last, Nat.mod_eq_of_lt (by omega)] at final
    exact ⟨aligned, by omega⟩
  · rintro ⟨aligned, inside⟩
    refine ⟨⟨⟨aligned, by omega⟩, by omega⟩, ?_⟩
    rw [BitVec.toNat_add, last, Nat.mod_eq_of_lt (by omega)]
    omega

/-- The revision word that a region must carry. -/
def regionRevision (vcpu : NestedVcpu σ) : U32 :=
  vcpu.capabilities.vmxRevision &&& kNestedVmxRevisionMask

theorem revisionChecks_iff (vcpu : NestedVcpu σ) (revision : U32) :
    revision &&& ~~~kNestedVmxRevisionMask ≠ 0 ∨
        revision &&& kNestedVmxRevisionMask ≠
          vcpu.capabilities.vmxRevision &&& kNestedVmxRevisionMask ↔
      revision ≠ regionRevision vcpu := by
  have whole : kNestedVmxRevisionMask ||| ~~~kNestedVmxRevisionMask = BitVec.allOnes 32 := by decide
  have apart : kNestedVmxRevisionMask &&& ~~~kNestedVmxRevisionMask = 0 := by decide
  have parts : revision =
      (revision &&& kNestedVmxRevisionMask) ||| (revision &&& ~~~kNestedVmxRevisionMask) := by
    rw [← BitVec.and_or_distrib_left, whole, BitVec.and_allOnes]
  rw [← not_iff_not, not_or, not_not, not_not, not_not, regionRevision]
  constructor
  · rintro ⟨clear, same⟩
    rw [parts, clear, same]
    exact BitVec.or_zero
  · intro same
    rw [same, BitVec.and_assoc, BitVec.and_assoc, apart, BitVec.and_self]
    exact ⟨BitVec.and_zero, rfl⟩

/-- A physical read that has succeeded. -/
structure PageRead where
  address : U64
  length : U32
  bytes : Nat → U8

namespace PageRead

def call (read : PageRead) : MemoryCall := .read read.address read.length (some read.bytes)

def start (read : PageRead) : Nat := read.address.toNat

def count (read : PageRead) : Nat := read.length.toNat

end PageRead

/-- How the reads of a region end: behind its last byte, or at one that is
refused. -/
inductive ProbeStop (region : U64) (high : Nat) : Bool → List MemoryCall → Prop
  | done : high = region.toNat + 4096 → ProbeStop region high true []
  | refused (address : U64) (length : U32) : address.toNat = high →
      address.toNat + length.toNat ≤ region.toNat + 4096 →
      ProbeStop region high false [.read address length none]

/-- The probe tiles what is left of the page, until a read is refused. -/
theorem probeRegionLoop_tiles (read : σ → U64 → U32 → Option (Nat → U8) × σ) {region : U64}
    (room : region.toNat + 4096 ≤ 2 ^ 64) (fuel : Nat) (offset : U32)
    (inside : offset.toNat ≤ 4096) (enough : 4096 - offset.toNat ≤ fuel)
    (s : σ × List MemoryCall) :
    ∃ parts high succeeded context last,
      probeRegionLoop (recordedRead read) region fuel offset s =
        (succeeded, (context, s.2 ++ parts.map PageRead.call ++ last)) ∧
      Tiling.Tiles PageRead.start PageRead.count (region.toNat + offset.toNat) high parts ∧
      ProbeStop region high succeeded last := by
  have size : kNestedPageSize.toNat = 4096 := rfl
  induction fuel generalizing offset s with
  | zero =>
    have all : ¬offset < kNestedPageSize := by
      rw [BitVec.lt_def, size]
      omega
    unfold probeRegionLoop
    rw [if_neg all]
    exact ⟨[], _, true, s.1, [], by simp, .done _, .done (by omega)⟩
  | succ fuel ih =>
    unfold probeRegionLoop
    by_cases more : offset < kNestedPageSize
    · have below := BitVec.lt_def.mp more
      rw [if_pos more]
      dsimp only
      have rest : (kNestedPageSize - offset).toNat = 4096 - offset.toNat := by
        rw [BitVec.toNat_sub_of_le (BitVec.le_def.mpr below.le), size]
      have chunk : (if kNestedPageSize - offset < 64 then kNestedPageSize - offset
          else 64 : U32).toNat = min (4096 - offset.toNat) 64 := by
        split
        · rename_i short
          have less := BitVec.lt_def.mp short
          rw [rest] at less ⊢
          change 4096 - offset.toNat < 64 at less
          omega
        · rename_i long
          have least := mt BitVec.lt_def.mpr long
          rw [rest] at least
          change ¬4096 - offset.toNat < 64 at least
          change 64 = _
          omega
      generalize (if kNestedPageSize - offset < 64 then kNestedPageSize - offset else 64 : U32) =
        length at chunk
      have wide : (offset.setWidth 64 : U64).toNat = offset.toNat := by
        rw [BitVec.toNat_setWidth, Nat.mod_eq_of_lt (by omega)]
      have address : (region + offset.setWidth 64).toNat = region.toNat + offset.toNat := by
        rw [BitVec.toNat_add, wide, Nat.mod_eq_of_lt (by omega)]
      have next : (offset + length).toNat = offset.toNat + length.toNat := by
        rw [BitVec.toNat_add, Nat.mod_eq_of_lt (by omega)]
      have looked : recordedRead read s (region + offset.setWidth 64) length =
          ((read s.1 (region + offset.setWidth 64) length).1,
            ((read s.1 (region + offset.setWidth 64) length).2,
              s.2 ++ [.read (region + offset.setWidth 64) length
                (read s.1 (region + offset.setWidth 64) length).1])) := rfl
      rw [looked]
      rcases read s.1 (region + offset.setWidth 64) length with ⟨answer, context⟩
      cases answer with
      | none =>
        refine ⟨[], _, false, context, [.read (region + offset.setWidth 64) length none], ?_,
          .done _, .refused _ _ address ?_⟩
        · simp
        · omega
      | some bytes =>
        dsimp only
        obtain ⟨parts, high, succeeded, after, last, run, tiles, stop⟩ :=
          ih (offset + length) (by omega) (by omega)
            (context, s.2 ++ [.read (region + offset.setWidth 64) length (some bytes)])
        refine ⟨⟨region + offset.setWidth 64, length, bytes⟩ :: parts, high, succeeded, after, last,
          ?_, ?_, stop⟩
        · rw [run]
          simp [PageRead.call]
        · refine .chunk address ?_
          rw [next, ← Nat.add_assoc] at tiles
          exact tiles
    · have all := mt BitVec.lt_def.mpr more
      rw [size] at all
      rw [if_neg more]
      exact ⟨[], _, true, s.1, [], by simp, .done _, .done (by omega)⟩

/-- The same vCPU, with a record of what its memory callbacks are asked. -/
def NestedVcpu.recorded (vcpu : NestedVcpu σ) : NestedVcpu (σ × List MemoryCall) :=
  { vcpu with memory := recording vcpu.memory }

section Region

variable (vcpu : NestedVcpu σ) (operandLinear : U64)

/-- The read of the operand, on the record. -/
def operandRead : Option (List U8) × (σ × List MemoryCall) :=
  readLinear (recording vcpu.memory) operandLinear 8 .Read

/-- The calls of a whole validation. -/
def regionCalls : List MemoryCall := (validateVmxRegion vcpu.recorded operandLinear).2.2

/-- The word at the start of the page that was read. -/
def firstWord (read : PageRead) : U32 := loadWord 32 ((List.range 4).map read.bytes)

/-- What a validation can come to, with its calls. -/
inductive RegionRun : Option U64 → List MemoryCall → Prop
  | notCanonical : isLinearRangeCanonical vcpu operandLinear 8 = false → RegionRun none []
  | unread : isLinearRangeCanonical vcpu operandLinear 8 = true →
      (operandRead vcpu operandLinear).1 = none →
      RegionRun none (operandRead vcpu operandLinear).2.2
  | elsewhere (region : U64) : isLinearRangeCanonical vcpu operandLinear 8 = true →
      (operandRead vcpu operandLinear).1.map (loadWord 64) = some region →
      ¬RegionPage vcpu region → RegionRun none (operandRead vcpu operandLinear).2.2
  | unreadable (region : U64) : isLinearRangeCanonical vcpu operandLinear 8 = true →
      (operandRead vcpu operandLinear).1.map (loadWord 64) = some region →
      RegionPage vcpu region →
      RegionRun none ((operandRead vcpu operandLinear).2.2 ++ [.read region 4 none])
  | probed (region : U64) (first : PageRead) (rest : List PageRead) (high : Nat)
      (succeeded : Bool) (last : List MemoryCall) :
      isLinearRangeCanonical vcpu operandLinear 8 = true →
      (operandRead vcpu operandLinear).1.map (loadWord 64) = some region →
      RegionPage vcpu region → first.address = region → first.length = 4 →
      Tiling.Tiles PageRead.start PageRead.count region.toNat high (first :: rest) →
      ProbeStop region high succeeded last →
      RegionRun
        (if succeeded = true ∧ firstWord first = regionRevision vcpu then some region else none)
        ((operandRead vcpu operandLinear).2.2 ++ (first :: rest).map PageRead.call ++ last)

theorem validateVmxRegion_run :
    RegionRun vcpu operandLinear (validateVmxRegion vcpu.recorded operandLinear).1
      (regionCalls vcpu operandLinear) := by
  have same : isLinearRangeCanonical vcpu.recorded operandLinear 8 =
      isLinearRangeCanonical vcpu operandLinear 8 := rfl
  have operand : readLinear vcpu.recorded.memory operandLinear 8 .Read =
      operandRead vcpu operandLinear := rfl
  have capabilities : vcpu.recorded.capabilities = vcpu.capabilities := rfl
  unfold regionCalls validateVmxRegion
  rw [same]
  cases canonical : isLinearRangeCanonical vcpu operandLinear 8 with
  | false => exact .notCanonical canonical
  | true =>
    have inRange : ¬(!true) = true := Bool.false_ne_true
    rw [operand]
    rcases looked : operandRead vcpu operandLinear with ⟨bytes, context⟩
    have calls : context.2 = (operandRead vcpu operandLinear).2.2 := by rw [looked]
    have found : bytes = (operandRead vcpu operandLinear).1 := by rw [looked]
    cases bytes with
    | none =>
      rw [if_neg inRange]
      dsimp only
      rw [calls]
      exact .unread canonical found.symm
    | some bytes =>
      have word : (operandRead vcpu operandLinear).1.map (loadWord 64) =
          some (loadWord 64 bytes) := by
        rw [← found]
        rfl
      obtain ⟨read, reads⟩ : ∃ read, vcpu.memory.read = some read := by
        by_contra missing
        have absent : (recording vcpu.memory).read.isNone = true := by
          rw [← Option.ne_none_iff_exists', not_not] at missing
          simp [recording, missing]
        have absentee : Refusable (recording vcpu.memory) 8 (recording vcpu.memory).read.isNone :=
          .inr (.inr absent)
        have refused := readLinear_refuses absentee operandLinear .Read
        unfold operandRead at found
        rw [refused] at found
        cases found
      have recordedReads : vcpu.recorded.memory.read = some (recordedRead read) := by
        simp only [NestedVcpu.recorded, recording, reads, Option.map_some]
      rw [if_neg inRange, recordedReads]
      dsimp only
      rw [capabilities]
      generalize loadWord 64 bytes = region at word
      by_cases page : RegionPage vcpu region
      · rw [(regionChecks_iff vcpu region).mpr page, if_neg Bool.false_ne_true]
        have start : recordedRead read context region 4 = ((read context.1 region 4).1,
            ((read context.1 region 4).2, context.2 ++ [.read region 4 (read context.1 region 4).1])) :=
          rfl
        rw [start, calls]
        rcases read context.1 region 4 with ⟨revision, context'⟩
        cases revision with
        | none => exact .unreadable region canonical word page
        | some revision =>
          have width := physicalWidth_le vcpu.capabilities.maxPhysicalAddressBits
          have room : region.toNat + 4096 ≤ 2 ^ 64 :=
            page.inside.trans (Nat.pow_le_pow_right (by decide) (by omega))
          obtain ⟨parts, high, succeeded, after, last, run, tiles, stop⟩ :=
            probeRegionLoop_tiles read room kNestedPageSize.toNat 4 (by decide) (by decide)
              (context', (operandRead vcpu operandLinear).2.2 ++ [.read region 4 (some revision)])
          dsimp only
          rw [run]
          have outcome := RegionRun.probed region ⟨region, 4, revision⟩ parts high succeeded last
            canonical word page rfl rfl (.chunk rfl tiles) stop
          have spread : (operandRead vcpu operandLinear).2.2 ++
              (⟨region, 4, revision⟩ :: parts).map PageRead.call ++ last =
                (operandRead vcpu operandLinear).2.2 ++ [.read region 4 (some revision)] ++
                  parts.map PageRead.call ++ last := by
            simp [PageRead.call]
          rw [spread] at outcome
          cases succeeded with
          | false => exact outcome
          | true =>
            dsimp only
            by_cases wrong : loadWord 32 ((List.range 4).map revision) ≠ regionRevision vcpu
            · rw [if_pos ((revisionChecks_iff vcpu _).mpr wrong)]
              rw [if_neg fun both => wrong both.2] at outcome
              exact outcome
            · rw [if_neg (mt (revisionChecks_iff vcpu _).mp wrong)]
              rw [if_pos ⟨rfl, not_not.mp wrong⟩] at outcome
              exact outcome
      · have refused := mt (regionChecks_iff vcpu region).mp page
        rw [Bool.not_eq_false] at refused
        rw [refused, if_pos rfl]
        dsimp only
        rw [calls]
        exact .elsewhere region canonical word page

/-- What makes an operand name a usable region, given the calls that were made. -/
structure AcceptedRegion (region : U64) (calls : List MemoryCall) : Prop where
  room : operandLinear.toNat + 8 ≤ 2 ^ 64
  canonical : ∀ i < 8,
    Canonical (linearWidth vcpu.capabilities.linearAddressBits) (operandLinear.toNat + i)
  operand : (operandRead vcpu operandLinear).1.map (loadWord 64) = some region
  page : RegionPage vcpu region
  probed : ∃ first rest,
    calls = (operandRead vcpu operandLinear).2.2 ++ (first :: rest).map PageRead.call ∧
    (∀ address, region.toNat ≤ address → address < region.toNat + 4096 →
      (first :: rest).countP (Tiling.holds PageRead.start PageRead.count address) = 1) ∧
    first.address = region ∧ first.length = 4 ∧ firstWord first = regionRevision vcpu

theorem operandCanonical_iff :
    isLinearRangeCanonical vcpu operandLinear 8 = true ↔
      operandLinear.toNat + 8 ≤ 2 ^ 64 ∧ ∀ i < 8,
        Canonical (linearWidth vcpu.capabilities.linearAddressBits) (operandLinear.toNat + i) := by
  rw [isLinearRangeCanonical_iff]
  exact and_iff_right (by decide)

theorem PageRead.call_injective : Function.Injective PageRead.call := by
  rintro ⟨address, length, bytes⟩ ⟨address', length', bytes'⟩ same
  cases same
  rfl

/-- Successful reads are not what a refused one leaves on the record. -/
theorem calls_ne_refused (reads : List PageRead) (earlier : List MemoryCall) (address : U64)
    (length : U32) : reads.map PageRead.call ≠ earlier ++ [.read address length none] := by
  intro same
  have member : MemoryCall.read address length none ∈ reads.map PageRead.call := by
    rw [same]
    exact List.mem_append_right _ List.mem_cons_self
  obtain ⟨read, -, call⟩ := List.mem_map.mp member
  cases call

theorem acceptedRegion_iff (region : U64) :
    (validateVmxRegion vcpu.recorded operandLinear).1 = some region ↔
      AcceptedRegion vcpu operandLinear region (regionCalls vcpu operandLinear) := by
  have run := validateVmxRegion_run vcpu operandLinear
  generalize (validateVmxRegion vcpu.recorded operandLinear).1 = result at run ⊢
  generalize regionCalls vcpu operandLinear = calls at run ⊢
  constructor
  · rintro rfl
    generalize valid : some region = result at run
    cases run with
    | probed word first rest high succeeded last canonical operand page address length tiles stop =>
      by_cases good : succeeded = true ∧ firstWord first = regionRevision vcpu
      · rw [if_pos good] at valid
        cases valid
        obtain ⟨room, all⟩ := (operandCanonical_iff vcpu operandLinear).mp canonical
        obtain ⟨rfl, revision⟩ := good
        cases stop with
        | done behind =>
          rw [behind] at tiles
          refine ⟨room, all, operand, page, first, rest, List.append_nil _,
            fun address above below => tiles.once above below, address, length, revision⟩
      · rw [if_neg good] at valid
        cases valid
    | _ => cases valid
  · rintro ⟨room, all, operand, page, first, rest, same, once, address, length, revision⟩
    have canonical := (operandCanonical_iff vcpu operandLinear).mpr ⟨room, all⟩
    cases run with
    | notCanonical outside =>
      rw [outside] at canonical
      cases canonical
    | unread _ failed =>
      rw [failed] at operand
      cases operand
    | elsewhere word _ operand' outside =>
      cases operand.symm.trans operand'
      exact absurd page outside
    | unreadable word _ operand' =>
      exact absurd (List.append_cancel_left same).symm (calls_ne_refused (first :: rest) [] word 4)
    | probed word first' rest' high succeeded last _ operand' _ _ _ tiles stop =>
      cases operand.symm.trans operand'
      rw [List.append_assoc] at same
      have probes := List.append_cancel_left same
      cases stop with
      | done =>
        rw [List.append_nil] at probes
        cases List.map_injective_iff.mpr PageRead.call_injective probes
        rw [if_pos ⟨rfl, revision⟩]
      | refused address length =>
        exact absurd probes.symm (calls_ne_refused (first :: rest) _ address length)

/-- Whatever comes of a validation, the physical reads behind the operand stay in
the page. -/
theorem regionCalls_inside :
    regionCalls vcpu operandLinear = [] ∨ ∃ later,
      regionCalls vcpu operandLinear = (operandRead vcpu operandLinear).2.2 ++ later ∧
      ∀ call ∈ later, ∃ region address length answer,
        (operandRead vcpu operandLinear).1.map (loadWord 64) = some region ∧
        RegionPage vcpu region ∧ call = .read address length answer ∧
        region.toNat ≤ address.toNat ∧ address.toNat + length.toNat ≤ region.toNat + 4096 := by
  have run := validateVmxRegion_run vcpu operandLinear
  generalize (validateVmxRegion vcpu.recorded operandLinear).1 = result at run
  generalize regionCalls vcpu operandLinear = calls at run ⊢
  cases run with
  | notCanonical => exact .inl rfl
  | unread | elsewhere =>
    refine .inr ⟨[], (List.append_nil _).symm, ?_⟩
    intro call member
    contradiction
  | unreadable region _ operand page =>
    refine .inr ⟨_, rfl, ?_⟩
    intro call member
    cases List.mem_singleton.mp member
    exact ⟨region, region, 4, none, operand, page, rfl, le_rfl, Nat.add_le_add_left (by decide) _⟩
  | probed region first rest high succeeded last _ operand page _ _ tiles stop =>
    refine .inr ⟨_, List.append_assoc _ _ _, ?_⟩
    intro call member
    have start := tiles.le
    rcases List.mem_append.mp member with probe | refused
    · obtain ⟨read, among, rfl⟩ := List.mem_map.mp probe
      obtain ⟨above, below⟩ := tiles.inside read among
      have bounded : high ≤ region.toNat + 4096 := by
        cases stop with
        | done behind => omega
        | refused _ _ here room => omega
      exact ⟨region, read.address, read.length, some read.bytes, operand, page, rfl, above,
        below.trans bounded⟩
    · cases stop with
      | done => contradiction
      | refused address length here room =>
        cases List.mem_singleton.mp refused
        exact ⟨region, address, length, none, operand, page, rfl, by omega, room⟩

end Region

theorem probeRegionLoop_recording (read : σ → U64 → U32 → Option (Nat → U8) × σ) (region : U64)
    (fuel : Nat) (offset : U32) (s : σ × List MemoryCall) :
    unrecorded (probeRegionLoop (recordedRead read) region fuel offset s) =
      probeRegionLoop read region fuel offset s.1 := by
  induction fuel generalizing offset s with
  | zero =>
    unfold probeRegionLoop
    split <;> rfl
  | succ fuel ih =>
    unfold probeRegionLoop
    split
    · dsimp only
      generalize (if kNestedPageSize - offset < 64 then kNestedPageSize - offset else 64) = chunk
      have looked : recordedRead read s (region + offset.setWidth 64) chunk =
          ((read s.1 (region + offset.setWidth 64) chunk).1,
            ((read s.1 (region + offset.setWidth 64) chunk).2,
              s.2 ++ [.read (region + offset.setWidth 64) chunk
                (read s.1 (region + offset.setWidth 64) chunk).1])) := rfl
      rw [looked]
      rcases read s.1 (region + offset.setWidth 64) chunk with ⟨answer, context⟩
      cases answer with
      | none => rfl
      | some bytes => exact ih (offset + chunk) _
    · rfl

theorem validateVmxRegion_recording (vcpu : NestedVcpu σ) (operandLinear : U64) :
    unrecorded (validateVmxRegion vcpu.recorded operandLinear) =
      validateVmxRegion vcpu operandLinear := by
  have same : isLinearRangeCanonical vcpu.recorded operandLinear 8 =
      isLinearRangeCanonical vcpu operandLinear 8 := rfl
  have capabilities : vcpu.recorded.capabilities = vcpu.capabilities := rfl
  have reader : vcpu.recorded.memory.read = vcpu.memory.read.map recordedRead := rfl
  have operand : readLinear vcpu.recorded.memory operandLinear 8 .Read =
      readLinear (recording vcpu.memory) operandLinear 8 .Read := rfl
  unfold validateVmxRegion
  rw [same, capabilities, reader]
  split
  · rfl
  rw [← readLinear_recording vcpu.memory operandLinear 8 .Read, operand]
  rcases readLinear (recording vcpu.memory) operandLinear 8 .Read with ⟨bytes, context⟩
  cases bytes with
  | none => rfl
  | some bytes =>
    cases vcpu.memory.read with
    | none => rfl
    | some read =>
      dsimp only [Option.map_some, unrecorded]
      split
      · rfl
      have start : recordedRead read context (loadWord 64 bytes) 4 =
          ((read context.1 (loadWord 64 bytes) 4).1, ((read context.1 (loadWord 64 bytes) 4).2,
            context.2 ++ [.read (loadWord 64 bytes) 4 (read context.1 (loadWord 64 bytes) 4).1])) :=
        rfl
      rw [start]
      rcases read context.1 (loadWord 64 bytes) 4 with ⟨revision, after⟩
      cases revision with
      | none => rfl
      | some revision =>
        dsimp only
        have probe := probeRegionLoop_recording read (loadWord 64 bytes) kNestedPageSize.toNat 4
          (after, context.2 ++ [.read (loadWord 64 bytes) 4 (some revision)])
        split
        · rename_i last refused
          have plain : probeRegionLoop read (loadWord 64 bytes) kNestedPageSize.toNat 4 after =
              (false, last.1) := probe.symm.trans (congrArg unrecorded refused)
          rw [plain]
        · rename_i last finished
          have plain : probeRegionLoop read (loadWord 64 bytes) kNestedPageSize.toNat 4 after =
              (true, last.1) := probe.symm.trans (congrArg unrecorded finished)
          rw [plain]
          dsimp only
          split <;> rfl

/-- `ValidateVmxRegion` with its pointers: a null vCPU or a null place is refused,
and the place takes the region at the end of a success. -/
def validateVmxRegionAt (vcpu : Option (NestedVcpu σ)) (operandLinear : U64)
    (regionGpa : Option U64) : Bool × Option U64 :=
  match vcpu, regionGpa with
  | some vcpu, some _ =>
    match (validateVmxRegion vcpu operandLinear).1 with
    | some region => (true, some region)
    | none => (false, regionGpa)
  | _, _ => (false, regionGpa)

theorem validateVmxRegionAt_eq (vcpu : NestedVcpu σ) (operandLinear before : U64) :
    validateVmxRegionAt (some vcpu) operandLinear (some before) =
      ((validateVmxRegion vcpu.recorded operandLinear).1.isSome,
        some ((validateVmxRegion vcpu.recorded operandLinear).1.getD before)) := by
  have plain := congrArg Prod.fst (validateVmxRegion_recording vcpu operandLinear)
  dsimp only [unrecorded] at plain
  unfold validateVmxRegionAt
  rw [plain]
  dsimp only
  cases (validateVmxRegion vcpu operandLinear).1 <;> rfl

/-- `ValidateVmxRegion` accepts exactly the operands that name a page which can
be read to its last byte and carries the revision. An empty range has no
address to test, and the canonical test turns it away. -/
theorem validateVmxRegion_exact (vcpu : NestedVcpu σ) (operandLinear : U64) :
    unrecorded (validateVmxRegion vcpu.recorded operandLinear) =
      validateVmxRegion vcpu operandLinear ∧
    (∀ before region, validateVmxRegionAt (some vcpu) operandLinear (some before) =
        (true, some region) ↔
      AcceptedRegion vcpu operandLinear region (regionCalls vcpu operandLinear)) ∧
    (∀ before, (validateVmxRegionAt (some vcpu) operandLinear (some before)).1 = false →
      (validateVmxRegionAt (some vcpu) operandLinear (some before)).2 = some before) ∧
    (regionCalls vcpu operandLinear = [] ∨ ∃ later,
      regionCalls vcpu operandLinear = (operandRead vcpu operandLinear).2.2 ++ later ∧
      ∀ call ∈ later, ∃ region address length answer,
        (operandRead vcpu operandLinear).1.map (loadWord 64) = some region ∧
        RegionPage vcpu region ∧ call = .read address length answer ∧
        region.toNat ≤ address.toNat ∧ address.toNat + length.toNat ≤ region.toNat + 4096) ∧
    (regionRevision vcpu).getLsbD 31 = false ∧
    (∀ (linear : U64) (length : U32), isLinearRangeCanonical vcpu linear length = true ↔
      0 < length.toNat ∧ linear.toNat + length.toNat ≤ 2 ^ 64 ∧ ∀ i < length.toNat,
        Canonical (linearWidth vcpu.capabilities.linearAddressBits) (linear.toNat + i)) := by
  refine ⟨validateVmxRegion_recording vcpu operandLinear, fun before region => ?_,
    fun before => ?_, regionCalls_inside vcpu operandLinear, ?_,
    fun linear length => isLinearRangeCanonical_iff vcpu linear length⟩
  · rw [validateVmxRegionAt_eq, ← acceptedRegion_iff]
    generalize (validateVmxRegion vcpu.recorded operandLinear).1 = result
    cases result <;> simp
  · rw [validateVmxRegionAt_eq]
    generalize (validateVmxRegion vcpu.recorded operandLinear).1 = result
    cases result <;> simp
  · have clear : kNestedVmxRevisionMask.getLsbD 31 = false := by decide
    rw [regionRevision, BitVec.getLsbD_and, clear, Bool.and_false]

/-- An empty range has no address that is not canonical, but is turned away. -/
theorem emptyRange_refused :
    ¬∀ (vcpu : NestedVcpu Unit) (linear : U64) (length : U32),
      isLinearRangeCanonical vcpu linear length = true ↔
        linear.toNat + length.toNat ≤ 2 ^ 64 ∧ ∀ i < length.toNat,
          Canonical (linearWidth vcpu.capabilities.linearAddressBits) (linear.toNat + i) := by
  intro exact
  have empty := (exact (initializeNestedVcpu none ⟨(), none, none, none⟩) 0 0).mpr
    ⟨by decide, fun i inside => absurd inside (Nat.not_lt_zero i)⟩
  have refused : isLinearRangeCanonical (initializeNestedVcpu none
      (⟨(), none, none, none⟩ : NestedMemory Unit)) 0 0 = false := by decide
  rw [refused] at empty
  cases empty

end Knhv.Nested
