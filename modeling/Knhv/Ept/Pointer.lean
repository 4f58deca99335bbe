import Knhv.Abi
import Knhv.Lib.Masks

namespace Knhv.Ept

def kEptContractVersion : U32 := 1
def kEptMaxStructSize : U32 := 4096
def kEptPageShift : U32 := 12
def kEptPageSize : U32 := 1 <<< 12
def kEptMaxPhysicalAddressBits : U32 := 52
def kEptMinWalkLength : U32 := 4
def kEptMaxWalkLength : U32 := 5
def kEptMemoryTypeUc : U32 := 0
def kEptMemoryTypeWb : U32 := 6
def kEptpFlagAccessDirty : U32 := 1 <<< 0
def kEptpKnownFlagMask : U32 := kEptpFlagAccessDirty

def kEptpMemoryTypeMask : U64 := 0x7
def kEptpWalkLengthMask : U64 := 0x38
def kEptpAccessDirtyBit : U64 := 1 <<< 6
def kEptPhysicalAddressMask : U64 := 0x000FFFFFFFFFF000
def kEptpKnownMask : U64 := kEptPhysicalAddressMask ||| 0x7F

def sizeofEptpConfig : U32 := 40

structure EptpConfig where
  size : U32
  version : U32
  rootPhysical : U64
  memoryType : U32
  walkLength : U32
  flags : U32
  reserved : U32
  generation : U64
  deriving DecidableEq

def isVersionedSizeValid (version size required : U32) : Bool :=
  version == kEptContractVersion && required ≤ size && size ≤ kEptMaxStructSize

def isPhysicalAddress (address : U64) (bits : U32) : Bool :=
  kEptPageShift ≤ bits && bits ≤ kEptMaxPhysicalAddressBits && address >>> bits.toNat == 0

def isEptpConfigValid (config : EptpConfig) (maxPhysicalBits : U32) : Bool :=
  isVersionedSizeValid config.version config.size sizeofEptpConfig && config.reserved == 0 &&
  config.flags &&& ~~~kEptpKnownFlagMask == 0 &&
  (config.memoryType == kEptMemoryTypeUc || config.memoryType == kEptMemoryTypeWb) &&
  kEptMinWalkLength ≤ config.walkLength && config.walkLength ≤ kEptMaxWalkLength &&
  config.generation != 0 && isPhysicalAddress config.rootPhysical maxPhysicalBits &&
  config.rootPhysical &&& (kEptPageSize.setWidth 64 - 1) == 0

def buildEptPointer (config : EptpConfig) : Option U64 :=
  if !isEptpConfigValid config kEptMaxPhysicalAddressBits then none
  else
    let value := config.rootPhysical &&& kEptPhysicalAddressMask
    let value := value ||| config.memoryType.setWidth 64 &&& kEptpMemoryTypeMask
    let value := value ||| (config.walkLength - 1).setWidth 64 <<< 3
    some (if config.flags &&& kEptpFlagAccessDirty ≠ 0 then value ||| kEptpAccessDirtyBit else value)

/-- The walk length that an EPT pointer encodes in bits 5:3. -/
def eptpWalkLength (rawEptp : U64) : U32 :=
  ((rawEptp &&& kEptpWalkLengthMask) >>> 3).setWidth 32 + 1

def decodeEptPointer (rawEptp : U64) : Option EptpConfig :=
  let memoryType := rawEptp &&& kEptpMemoryTypeMask
  if rawEptp &&& ~~~kEptpKnownMask ≠ 0 ∨
      (memoryType ≠ kEptMemoryTypeUc.setWidth 64 ∧ memoryType ≠ kEptMemoryTypeWb.setWidth 64) then
    none
  else
    let walkLength := eptpWalkLength rawEptp
    if walkLength < kEptMinWalkLength ∨ kEptMaxWalkLength < walkLength then none
    else
      some
        { size := sizeofEptpConfig
          version := kEptContractVersion
          rootPhysical := rawEptp &&& kEptPhysicalAddressMask
          memoryType := memoryType.setWidth 32
          walkLength := walkLength
          flags := if rawEptp &&& kEptpAccessDirtyBit ≠ 0 then kEptpFlagAccessDirty else 0
          reserved := 0
          generation := 0 }

/-- The low bits of an EPT pointer carry its format, so a page-aligned value
encodes a walk of one level and is never a pointer. -/
theorem decodeEptPointer_of_aligned {rawEptp : U64} (aligned : rawEptp &&& 0xFFF = 0) :
    decodeEptPointer rawEptp = none := by
  have walkBits : rawEptp &&& kEptpWalkLengthMask = 0 := by
    have inside : kEptpWalkLengthMask = 0xFFF &&& kEptpWalkLengthMask := by decide
    rw [inside, ← BitVec.and_assoc, aligned]
    exact BitVec.zero_and
  have short : eptpWalkLength rawEptp < kEptMinWalkLength := by
    rw [eptpWalkLength, walkBits]
    decide
  unfold decodeEptPointer
  dsimp only
  split
  · rfl
  · rw [if_pos (Or.inl short)]

/-- The format bits that a configuration asks for. -/
def formatBits (memoryType walkLength flags : U32) : U64 :=
  let value := memoryType.setWidth 64 &&& kEptpMemoryTypeMask
  let value := value ||| (walkLength - 1).setWidth 64 <<< 3
  if flags &&& kEptpFlagAccessDirty ≠ 0 then value ||| kEptpAccessDirtyBit else value

theorem buildEptPointer_of_valid {config : EptpConfig}
    (valid : isEptpConfigValid config kEptMaxPhysicalAddressBits = true) :
    buildEptPointer config = some (config.rootPhysical &&& kEptPhysicalAddressMask |||
      formatBits config.memoryType config.walkLength config.flags) := by
  simp only [buildEptPointer, valid, formatBits, Bool.not_true, Bool.false_eq_true, if_false]
  split <;> simp only [BitVec.or_assoc]

/-- A frame address has neither format bits nor bits from 52 on. -/
theorem frame_iff {address : U64} :
    address >>> 52 = 0 ∧ address &&& 0xFFF = 0 ↔ address &&& ~~~kEptPhysicalAddressMask = 0 := by
  have outside : ~~~kEptPhysicalAddressMask = BitVec.allOnes 64 <<< 52 ||| 0xFFF := by decide
  have high : address >>> 52 = 0 ↔ address &&& BitVec.allOnes 64 <<< 52 = 0 :=
    Masks.ushiftRight_eq_zero_iff
  rw [high, outside, BitVec.and_or_distrib_left]
  exact BitVec.or_eq_zero_iff.symm

/-- What the check of a configuration leaves open: the root, and eight formats. -/
structure Encodable (config : EptpConfig) : Prop where
  memoryType : config.memoryType = 0 ∨ config.memoryType = 6
  walkLength : config.walkLength = 4 ∨ config.walkLength = 5
  flags : config.flags = 0 ∨ config.flags = 1
  root : config.rootPhysical &&& ~~~kEptPhysicalAddressMask = 0

theorem walkLength_cases {walkLength : U32} (atLeast : kEptMinWalkLength ≤ walkLength)
    (atMost : walkLength ≤ kEptMaxWalkLength) : walkLength = 4 ∨ walkLength = 5 := by
  have low : 4 ≤ walkLength.toNat := atLeast
  have high : walkLength.toNat ≤ 5 := atMost
  have cases : walkLength.toNat = 4 ∨ walkLength.toNat = 5 := by omega
  exact cases.imp (fun four => BitVec.eq_of_toNat_eq four) fun five => BitVec.eq_of_toNat_eq five

theorem flags_cases {flags : U32} (known : flags &&& ~~~kEptpKnownFlagMask = 0) :
    flags = 0 ∨ flags = 1 := by
  have kept : flags &&& kEptpKnownFlagMask = flags := Masks.and_eq_self known
  have parity : flags.toNat = flags.toNat % 2 := by
    have value := congrArg BitVec.toNat kept
    rw [BitVec.toNat_and] at value
    exact value.symm.trans (Nat.and_one_is_mod _)
  have cases : flags.toNat = 0 ∨ flags.toNat = 1 := by omega
  exact cases.imp (fun zero => BitVec.eq_of_toNat_eq zero) fun one => BitVec.eq_of_toNat_eq one

theorem encodable_of_valid {config : EptpConfig}
    (valid : isEptpConfigValid config kEptMaxPhysicalAddressBits = true) : Encodable config := by
  simp only [isEptpConfigValid, isPhysicalAddress, Bool.and_eq_true, Bool.or_eq_true, beq_iff_eq,
    decide_eq_true_eq] at valid
  obtain ⟨⟨⟨⟨⟨⟨⟨_, known⟩, memoryType⟩, atLeast⟩, atMost⟩, _⟩, _, below⟩, aligned⟩ := valid
  exact ⟨memoryType, walkLength_cases atLeast atMost, flags_cases known,
    frame_iff.mp ⟨below, aligned⟩⟩

/-- The root and the format do not meet in a pointer. -/
theorem root_or_and {root format mask : U64} (frame : root &&& ~~~kEptPhysicalAddressMask = 0)
    (low : ~~~kEptPhysicalAddressMask &&& mask = mask) : (root ||| format) &&& mask = format &&& mask := by
  rw [BitVec.and_or_distrib_right, Masks.and_eq_zero_of_inside frame low, BitVec.zero_or]

/-- What the format bits decode to. -/
structure Decodes (format : U64) (memoryType walkLength flags : U32) : Prop where
  apart : format &&& kEptPhysicalAddressMask = 0
  known : format &&& ~~~kEptpKnownMask = 0
  memoryType : format &&& kEptpMemoryTypeMask = memoryType.setWidth 64
  walkLength : eptpWalkLength format = walkLength
  flags : (if format &&& kEptpAccessDirtyBit ≠ 0 then kEptpFlagAccessDirty else 0) = flags

theorem formatBits_decodes {memoryType walkLength flags : U32}
    (typeCase : memoryType = 0 ∨ memoryType = 6) (walkCase : walkLength = 4 ∨ walkLength = 5)
    (flagCase : flags = 0 ∨ flags = 1) :
    Decodes (formatBits memoryType walkLength flags) memoryType walkLength flags := by
  rcases typeCase with rfl | rfl <;> rcases walkCase with rfl | rfl <;>
    rcases flagCase with rfl | rfl <;>
    exact ⟨by decide, by decide, by decide, by decide, by decide⟩

/-- The decoder undoes the encoder. -/
theorem decodeEptPointer_build {config : EptpConfig} (encodable : Encodable config) :
    decodeEptPointer (config.rootPhysical &&& kEptPhysicalAddressMask |||
        formatBits config.memoryType config.walkLength config.flags) =
      some { config with
        size := sizeofEptpConfig, version := kEptContractVersion, reserved := 0, generation := 0 } := by
  have decodes := formatBits_decodes encodable.memoryType encodable.walkLength encodable.flags
  have root := encodable.root
  set format := formatBits config.memoryType config.walkLength config.flags
  rw [Masks.and_eq_self root]
  have memoryType : (config.rootPhysical ||| format) &&& kEptpMemoryTypeMask =
      config.memoryType.setWidth 64 :=
    (root_or_and root (by decide)).trans decodes.memoryType
  have walkLength : eptpWalkLength (config.rootPhysical ||| format) = config.walkLength := by
    rw [eptpWalkLength, root_or_and root (by decide)]
    exact decodes.walkLength
  have dirty : (config.rootPhysical ||| format) &&& kEptpAccessDirtyBit =
      format &&& kEptpAccessDirtyBit :=
    root_or_and root (by decide)
  have known : (config.rootPhysical ||| format) &&& ~~~kEptpKnownMask = 0 :=
    (root_or_and root (by decide)).trans decodes.known
  have frame : (config.rootPhysical ||| format) &&& kEptPhysicalAddressMask =
      config.rootPhysical := by
    rw [BitVec.and_or_distrib_right, decodes.apart, Masks.and_eq_self root]
    exact BitVec.or_zero
  unfold decodeEptPointer
  dsimp only
  rw [memoryType, walkLength, known, frame, dirty, decodes.flags]
  have typeKnown : ¬(config.memoryType.setWidth 64 ≠ kEptMemoryTypeUc.setWidth 64 ∧
      config.memoryType.setWidth 64 ≠ kEptMemoryTypeWb.setWidth 64) := by
    rcases encodable.memoryType with uncached | writeBack
    · rw [uncached]; decide
    · rw [writeBack]; decide
  have narrow : (config.memoryType.setWidth 64).setWidth 32 = config.memoryType := by
    rcases encodable.memoryType with uncached | writeBack
    · rw [uncached]; decide
    · rw [writeBack]; decide
  have walkKnown : ¬(config.walkLength < kEptMinWalkLength ∨ kEptMaxWalkLength < config.walkLength) := by
    rcases encodable.walkLength with four | five
    · rw [four]; decide
    · rw [five]; decide
  rw [if_neg (not_or.mpr ⟨fun unknown => unknown rfl, typeKnown⟩), if_neg walkKnown, narrow]

/-- The low seven bits of a pointer are those its three format fields make. -/
theorem formatBits_of_low (low : BitVec 7) :
    formatBits ((low.setWidth 64 &&& kEptpMemoryTypeMask).setWidth 32)
        (eptpWalkLength (low.setWidth 64))
        (if low.setWidth 64 &&& kEptpAccessDirtyBit ≠ 0 then kEptpFlagAccessDirty else 0) =
      low.setWidth 64 := by
  revert low
  decide

/-- What the decoder's tests say of a pointer it takes apart. -/
structure Decodable (raw : U64) : Prop where
  known : raw &&& ~~~kEptpKnownMask = 0
  memoryType : (raw &&& kEptpMemoryTypeMask).setWidth 32 = kEptMemoryTypeUc ∨
    (raw &&& kEptpMemoryTypeMask).setWidth 32 = kEptMemoryTypeWb
  atLeast : kEptMinWalkLength ≤ eptpWalkLength raw
  atMost : eptpWalkLength raw ≤ kEptMaxWalkLength

/-- The configuration that the decoder reads off a pointer. -/
def decodedConfig (raw : U64) : EptpConfig :=
  { size := sizeofEptpConfig
    version := kEptContractVersion
    rootPhysical := raw &&& kEptPhysicalAddressMask
    memoryType := (raw &&& kEptpMemoryTypeMask).setWidth 32
    walkLength := eptpWalkLength raw
    flags := if raw &&& kEptpAccessDirtyBit ≠ 0 then kEptpFlagAccessDirty else 0
    reserved := 0
    generation := 0 }

theorem decodeEptPointer_some {raw : U64} {config : EptpConfig}
    (decoded : decodeEptPointer raw = some config) : Decodable raw ∧ config = decodedConfig raw := by
  unfold decodeEptPointer at decoded
  dsimp only at decoded
  split at decoded
  · cases decoded
  · next formatted =>
    split at decoded
    · cases decoded
    · next walked =>
      obtain ⟨known, typed⟩ := not_or.mp formatted
      obtain ⟨long, short⟩ := not_or.mp walked
      refine ⟨⟨not_not.mp known, ?_, BitVec.not_lt.mp long, BitVec.not_lt.mp short⟩,
        (Option.some.inj decoded).symm⟩
      by_cases uncached : raw &&& kEptpMemoryTypeMask = kEptMemoryTypeUc.setWidth 64
      · left
        rw [uncached]
        decide
      · right
        rw [not_not.mp fun other => typed ⟨uncached, other⟩]
        decide

theorem setWidth_low (raw : U64) : (raw.setWidth 7).setWidth 64 = raw &&& 0x7F := by
  have masked := Masks.and_setWidth raw (BitVec.allOnes 7)
  rw [BitVec.and_allOnes] at masked
  exact masked.symm

/-- A pointer splits into the frame of its root and its low seven bits. -/
theorem frame_or_low {raw : U64} (known : raw &&& ~~~kEptpKnownMask = 0) :
    raw &&& kEptPhysicalAddressMask ||| (raw.setWidth 7).setWidth 64 = raw := by
  rw [setWidth_low, ← BitVec.and_or_distrib_left]
  exact Masks.and_eq_self known

/-- A format field of a pointer is that field of its low seven bits. -/
theorem low_and {raw mask : U64} (inside : 0x7F &&& mask = mask) :
    (raw.setWidth 7).setWidth 64 &&& mask = raw &&& mask := by
  rw [setWidth_low, BitVec.and_assoc, inside]

theorem formatBits_decodedConfig (raw : U64) :
    formatBits (decodedConfig raw).memoryType (decodedConfig raw).walkLength
      (decodedConfig raw).flags = (raw.setWidth 7).setWidth 64 := by
  have format := formatBits_of_low (raw.setWidth 7)
  rw [eptpWalkLength, low_and (by decide), low_and (by decide), low_and (by decide)] at format
  exact format

theorem decodedConfig_valid {raw generation : U64} (decodable : Decodable raw)
    (marked : generation ≠ 0) :
    isEptpConfigValid { decodedConfig raw with generation } kEptMaxPhysicalAddressBits = true := by
  have frame : (raw &&& kEptPhysicalAddressMask) &&& ~~~kEptPhysicalAddressMask = 0 := by
    rw [BitVec.and_assoc, BitVec.and_not_self]
    exact BitVec.and_zero
  obtain ⟨below, aligned⟩ := frame_iff.mpr frame
  have flags : (decodedConfig raw).flags &&& ~~~kEptpKnownFlagMask = 0 := by
    dsimp only [decodedConfig]
    split
    · decide
    · decide
  simp only [isEptpConfigValid, isPhysicalAddress, Bool.and_eq_true, Bool.or_eq_true, beq_iff_eq,
    decide_eq_true_eq, bne_iff_ne]
  exact ⟨⟨⟨⟨⟨⟨⟨⟨rfl, rfl⟩, flags⟩, decodable.memoryType⟩, decodable.atLeast⟩,
    decodable.atMost⟩, marked⟩, ⟨by decide, below⟩⟩, aligned⟩

/-- The encoder and the decoder of EPT pointers are inverse to each other: a
valid configuration comes back from its pointer, and a pointer from its
configuration under any generation. -/
theorem eptPointer_roundTrip :
    (∀ config, isEptpConfigValid config kEptMaxPhysicalAddressBits = true →
      ∃ raw decoded, buildEptPointer config = some raw ∧ decodeEptPointer raw = some decoded ∧
        decoded.rootPhysical = config.rootPhysical ∧ decoded.memoryType = config.memoryType ∧
        decoded.walkLength = config.walkLength ∧ decoded.flags = config.flags) ∧
    ∀ raw decoded, decodeEptPointer raw = some decoded → ∀ generation, generation ≠ 0 →
      isEptpConfigValid { decoded with generation } kEptMaxPhysicalAddressBits = true ∧
      buildEptPointer { decoded with generation } = some raw := by
  constructor
  · intro config valid
    exact ⟨_, _, buildEptPointer_of_valid valid, decodeEptPointer_build (encodable_of_valid valid),
      rfl, rfl, rfl, rfl⟩
  · intro raw decoded accepted generation marked
    obtain ⟨decodable, rfl⟩ := decodeEptPointer_some accepted
    have valid := decodedConfig_valid decodable marked
    refine ⟨valid, ?_⟩
    rw [buildEptPointer_of_valid valid]
    have frame : (raw &&& kEptPhysicalAddressMask) &&& kEptPhysicalAddressMask =
        raw &&& kEptPhysicalAddressMask := by
      rw [BitVec.and_assoc, BitVec.and_self]
    calc
      _ = some (raw &&& kEptPhysicalAddressMask ||| (raw.setWidth 7).setWidth 64) := by
        rw [← formatBits_decodedConfig raw, ← frame]
        rfl
      _ = some raw := by rw [frame_or_low decodable.known]

/-- A four-level write-back root at 1 MiB, with accessed and dirty bits. -/
def writeBackConfig : EptpConfig :=
  { size := sizeofEptpConfig
    version := kEptContractVersion
    rootPhysical := 0x100000
    memoryType := kEptMemoryTypeWb
    walkLength := 4
    flags := kEptpFlagAccessDirty
    reserved := 0
    generation := 1 }

theorem eptPointer_roundTrip_writeBack :
    (∃ raw decoded, buildEptPointer writeBackConfig = some raw ∧
      decodeEptPointer raw = some decoded ∧ decoded.rootPhysical = 0x100000 ∧
      decoded.memoryType = kEptMemoryTypeWb ∧ decoded.walkLength = 4 ∧
      decoded.flags = kEptpFlagAccessDirty) ∧
    buildEptPointer writeBackConfig = some 0x10005E :=
  ⟨eptPointer_roundTrip.1 writeBackConfig (by decide),
    (eptPointer_roundTrip.2 0x10005E { writeBackConfig with generation := 0 } (by decide) 1
      (by decide)).2⟩

end Knhv.Ept
