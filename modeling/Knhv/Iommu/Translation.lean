import Knhv.Iommu.Model
import Knhv.Lib.Segment

namespace Knhv.Iommu

/-- The move of a mapping in the first translation. -/
def guestSegment (mapping : IommuDmaMapping) : Segment where
  base := mapping.iova.toNat
  target := mapping.guestPhysical.toNat
  length := (mappingSpan mapping).elim 0 (·.2.toNat)

/-- The move of a mapping in the second translation. -/
def hostSegment (mapping : IommuDmaMapping) : Segment where
  base := mapping.iova.toNat
  target := mapping.hostPhysical.toNat
  length := (mappingSpan mapping).elim 0 (·.2.toNat)

theorem isAddressBitsValid_le {bits : U32} (valid : isAddressBitsValid bits = true) :
    bits.toNat ≤ 52 := by
  simp only [isAddressBitsValid, Bool.and_eq_true, decide_eq_true_eq, BitVec.le_def] at valid
  exact valid.2

theorem isRangeValid_le {base spanBytes : U64} {bits : U32} (nonzero : spanBytes ≠ 0)
    (valid : isRangeValid base spanBytes bits = true) :
    base.toNat + spanBytes.toNat ≤ 2 ^ bits.toNat := by
  obtain ⟨last, sum, physical⟩ := (Option.any_eq_true _ _).mp valid
  simp only [isPhysicalAddress, Bool.and_eq_true] at physical
  exact Paging.range_le nonzero sum physical.2

/-- What the check of a mapping says about its ranges. -/
structure RangesFit (mapping : IommuDmaMapping) (bits : U32) : Prop where
  width : isAddressBitsValid bits = true
  span : ∃ pageSize spanBytes, mappingSpan mapping = some (pageSize, spanBytes) ∧
    (guestSegment mapping).length = spanBytes.toNat
  guest : (guestSegment mapping).target + (guestSegment mapping).length ≤ 2 ^ bits.toNat
  host : (hostSegment mapping).target + (hostSegment mapping).length ≤ 2 ^ bits.toNat

theorem rangesFit_of_valid {mapping : IommuDmaMapping} {bits : U32}
    (valid : isIommuDmaMappingValid (some mapping) bits = true) : RangesFit mapping bits := by
  simp only [isIommuDmaMappingValid, Bool.and_eq_true] at valid
  obtain ⟨header, ranges⟩ := valid
  simp only [isMappingHeaderValid, Bool.and_eq_true] at header
  cases spanning : mappingSpan mapping with
  | none =>
    rw [spanning] at ranges
    cases ranges
  | some sizes =>
    obtain ⟨pageSize, spanBytes⟩ := sizes
    have length : (guestSegment mapping).length = spanBytes.toNat := by
      rw [guestSegment, spanning]
      rfl
    have sameLength : (hostSegment mapping).length = spanBytes.toNat := length
    have nonzero := Paging.spanOf_ne_zero spanning
    rw [spanning] at ranges
    simp only [Bool.and_eq_true] at ranges
    refine ⟨header.2, ⟨pageSize, spanBytes, spanning, length⟩, ?_, ?_⟩
    · rw [length]
      exact isRangeValid_le nonzero ranges.1.2
    · rw [sameLength]
      exact isRangeValid_le nonzero ranges.2

theorem iommuDmaMappingContains_iff {mapping : IommuDmaMapping} {iova : U64} {bits : U32}
    (valid : isIommuDmaMappingValid (some mapping) bits = true) :
    iommuDmaMappingContains mapping iova bits = true ↔ (guestSegment mapping).Covers iova.toNat := by
  obtain ⟨pageSize, spanBytes, spanning, length⟩ := (rangesFit_of_valid valid).span
  have base : (guestSegment mapping).base = mapping.iova.toNat := rfl
  rw [iommuDmaMappingContains, valid, spanning, Bool.true_and, Segment.Covers, length, base]
  dsimp only
  exact Paging.offset_lt_iff

/-- The move of an address, as both translations compute it, to a target whose
range fits the width. -/
theorem addOverflow_move {base target address : U64} {length : Nat} {bits : U32}
    (width : isAddressBitsValid bits = true)
    (covers : Segment.Covers ⟨base.toNat, target.toNat, length⟩ address.toNat)
    (fits : target.toNat + length ≤ 2 ^ bits.toNat) :
    ∃ moved, addOverflow target (address - base) = some moved ∧
      moved.toNat = Segment.move ⟨base.toNat, target.toNat, length⟩ address.toNat ∧
      isPhysicalAddress moved bits = true := by
  have inside := Segment.move_lt covers
  have bound : 2 ^ bits.toNat ≤ 2 ^ 52 :=
    Nat.pow_le_pow_right (by decide) (isAddressBitsValid_le width)
  have below : base ≤ address := covers.1
  have offset : (address - base).toNat = address.toNat - base.toNat := BitVec.toNat_sub_of_le below
  have total : target.toNat + (address - base).toNat =
      Segment.move ⟨base.toNat, target.toNat, length⟩ address.toNat := by
    rw [offset]
    rfl
  have narrow : target.toNat + (address - base).toNat < 2 ^ bits.toNat := by
    rw [total]
    exact Nat.lt_of_lt_of_le inside fits
  have small : target.toNat + (address - base).toNat < 2 ^ 64 :=
    Nat.lt_of_lt_of_le (Nat.lt_of_lt_of_le narrow bound) (by decide)
  refine ⟨_, Checked.add_of_lt small, ?_, ?_⟩
  · rw [BitVec.toNat_add, Nat.mod_eq_of_lt small, total]
  · rw [isPhysicalAddress, width, Bool.true_and, Paging.fitsWidth_iff, BitVec.toNat_add,
      Nat.mod_eq_of_lt small]
    exact narrow

/-- The first move, of an address that the mapping contains. -/
theorem guestMove {mapping : IommuDmaMapping} {iova : U64} {bits : U32}
    (valid : isIommuDmaMappingValid (some mapping) bits = true)
    (contains : iommuDmaMappingContains mapping iova bits = true) :
    ∃ moved, addOverflow mapping.guestPhysical (iova - mapping.iova) = some moved ∧
      moved.toNat = (guestSegment mapping).move iova.toNat := by
  have fits := rangesFit_of_valid valid
  obtain ⟨moved, added, value, _⟩ :=
    addOverflow_move fits.width ((iommuDmaMappingContains_iff valid).mp contains) fits.guest
  exact ⟨moved, added, value⟩

/-- The second move. -/
theorem hostMove {mapping : IommuDmaMapping} {iova : U64} {bits : U32}
    (valid : isIommuDmaMappingValid (some mapping) bits = true)
    (contains : iommuDmaMappingContains mapping iova bits = true) :
    ∃ moved, addOverflow mapping.hostPhysical (iova - mapping.iova) = some moved ∧
      moved.toNat = (hostSegment mapping).move iova.toNat ∧ isPhysicalAddress moved bits = true := by
  have fits := rangesFit_of_valid valid
  have covered : (hostSegment mapping).Covers iova.toNat :=
    (iommuDmaMappingContains_iff valid).mp contains
  exact addOverflow_move fits.width covered fits.host

/-- What decides a translation: the generations, the owners, the ranges and the
two grants. -/
structure Reaches (l1 root : IommuDmaMapping) (iova : U64) (access : IommuDmaAccess) : Prop where
  generation : l1.generation = root.generation
  l1Guest : l1.flags &&& kIommuMappingHostOwned = 0
  through : Segment.Through (guestSegment l1) (hostSegment root) iova.toNat
  l1Allowed : isIommuDmaAccessAllowed l1.permissions access = true
  rootGuest : root.flags &&& kIommuMappingHostOwned = 0
  rootAllowed : isIommuDmaAccessAllowed root.permissions access = true

/-- The result that the two moves ask for. -/
def Resolved (l1 root : IommuDmaMapping) (iova : U64) (access : IommuDmaAccess)
    (result : IommuDmaResult) : Prop :=
  (¬Reaches l1 root iova access ∧ result.status ≠ .Hit) ∨
    (Reaches l1 root iova access ∧ ∃ hostPhysical,
      result = makeDmaResult .Hit (l1.permissions &&& root.permissions) hostPhysical
        root.generation ∧
      hostPhysical.toNat = (hostSegment root).move ((guestSegment l1).move iova.toNat))

/-- A translation through two valid mappings hits exactly the addresses that go
through both, and no sum in it overflows. -/
theorem resolveNestedDma_cases {l1 root : IommuDmaMapping} (iova : U64)
    (access : IommuDmaAccess) {bits : U32}
    (l1Valid : isIommuDmaMappingValid (some l1) bits = true)
    (rootValid : isIommuDmaMappingValid (some root) bits = true) :
    (¬Reaches l1 root iova access ∧
        (resolveNestedDma (some l1) (some root) iova access bits).status ≠ .Hit ∧
        (resolveNestedDma (some l1) (some root) iova access bits).status ≠ .Invalid) ∨
      (Reaches l1 root iova access ∧ ∃ hostPhysical,
        resolveNestedDma (some l1) (some root) iova access bits =
          makeDmaResult .Hit (l1.permissions &&& root.permissions) hostPhysical root.generation ∧
        hostPhysical.toNat = (hostSegment root).move ((guestSegment l1).move iova.toNat)) := by
  obtain ⟨first, l1Is⟩ : ∃ first, first = some l1 := ⟨_, rfl⟩
  obtain ⟨second, rootIs⟩ : ∃ second, second = some root := ⟨_, rfl⟩
  rw [← l1Is, ← rootIs]
  fun_cases resolveNestedDma first second iova access bits with
  | case1 _ _ invalid =>
    cases l1Is
    cases rootIs
    simp [l1Valid, rootValid] at invalid
  | case2 _ _ _ stale =>
    cases l1Is
    cases rootIs
    refine Or.inl ⟨fun reaches => ?_, nofun, nofun⟩
    simp [reaches.generation] at stale
  | case3 _ _ _ _ owned =>
    cases l1Is
    refine Or.inl ⟨fun reaches => ?_, nofun, nofun⟩
    rw [reaches.l1Guest] at owned
    cases owned
  | case4 _ _ _ _ _ absent =>
    cases l1Is
    refine Or.inl ⟨fun reaches => ?_, nofun, nofun⟩
    rw [(iommuDmaMappingContains_iff l1Valid).mpr reaches.through.inFirst] at absent
    cases absent
  | case5 _ _ _ _ _ _ denied =>
    cases l1Is
    refine Or.inl ⟨fun reaches => ?_, nofun, nofun⟩
    rw [reaches.l1Allowed] at denied
    cases denied
  | case6 _ _ _ _ _ present _ overflow =>
    cases l1Is
    obtain ⟨_, added, _⟩ := guestMove l1Valid (by simpa using present)
    rw [added] at overflow
    cases overflow
  | case7 _ _ _ _ _ present _ middle moved absent =>
    cases l1Is
    cases rootIs
    obtain ⟨_, added, value⟩ := guestMove l1Valid (by simpa using present)
    cases Option.some.inj (moved.symm.trans added)
    refine Or.inl ⟨fun reaches => ?_, nofun, nofun⟩
    have inRoot : (hostSegment root).Covers middle.toNat := by
      rw [value]
      exact reaches.through.inSecond
    rw [(iommuDmaMappingContains_iff rootValid).mpr inRoot] at absent
    cases absent
  | case8 _ _ _ _ _ _ _ _ _ _ owned =>
    cases rootIs
    refine Or.inl ⟨fun reaches => ?_, nofun, nofun⟩
    rw [reaches.rootGuest] at owned
    cases owned
  | case9 _ _ _ _ _ _ _ _ _ _ _ denied =>
    cases rootIs
    refine Or.inl ⟨fun reaches => ?_, nofun, nofun⟩
    rw [reaches.rootAllowed] at denied
    cases denied
  | case10 _ _ _ _ _ _ _ _ _ contained _ _ overflow =>
    cases rootIs
    obtain ⟨_, added, _⟩ := hostMove rootValid (by simpa using contained)
    rw [added] at overflow
    cases overflow
  | case11 _ _ _ _ _ _ _ _ _ contained _ _ _ moved beyond =>
    cases rootIs
    obtain ⟨_, added, _, physical⟩ := hostMove rootValid (by simpa using contained)
    cases Option.some.inj (moved.symm.trans added)
    rw [physical] at beyond
    cases beyond
  | case12 _ _ _ current l1Guest present l1Allowed middle moved contained rootGuest rootAllowed
      hostPhysical movedHost _ =>
    cases l1Is
    cases rootIs
    rw [Bool.not_eq_true', Bool.not_eq_false] at present contained
    obtain ⟨_, added, value⟩ := guestMove l1Valid present
    cases Option.some.inj (moved.symm.trans added)
    obtain ⟨_, addedHost, hostValue, _⟩ := hostMove rootValid contained
    cases Option.some.inj (movedHost.symm.trans addedHost)
    have inL1 := (iommuDmaMappingContains_iff l1Valid).mp present
    have inRoot : (hostSegment root).Covers middle.toNat :=
      (iommuDmaMappingContains_iff rootValid).mp contained
    rw [value] at hostValue inRoot
    refine Or.inr ⟨⟨?_, ?_, ⟨inL1, inRoot⟩, ?_, ?_, ?_⟩, hostPhysical, rfl, hostValue⟩
    · simpa using current
    · simpa using l1Guest
    · simpa using l1Allowed
    · simpa using rootGuest
    · simpa using rootAllowed
  | case13 =>
    rename_i missing
    exact absurd rootIs (missing l1 root l1Is)

theorem resolveNestedDma_resolved {l1 root : IommuDmaMapping} (iova : U64)
    (access : IommuDmaAccess) {bits : U32}
    (l1Valid : isIommuDmaMappingValid (some l1) bits = true)
    (rootValid : isIommuDmaMappingValid (some root) bits = true) :
    Resolved l1 root iova access (resolveNestedDma (some l1) (some root) iova access bits) := by
  rcases resolveNestedDma_cases iova access l1Valid rootValid with ⟨stopped, missed, _⟩ | reached
  · exact Or.inl ⟨stopped, missed⟩
  · exact Or.inr reached

/-- Both mappings pass their check at a width. -/
def BothValid (l1 root : IommuDmaMapping) (bits : U32) : Prop :=
  isIommuDmaMappingValid (some l1) bits = true ∧ isIommuDmaMappingValid (some root) bits = true

/-- The host address that the two moves make of a device address. -/
def composed (l1 root : IommuDmaMapping) (iova : U64) : Nat :=
  root.hostPhysical.toNat +
    (l1.guestPhysical.toNat + (iova.toNat - l1.iova.toNat) - root.iova.toNat)

/-- What a hit says. -/
structure HitSound (l1 root : IommuDmaMapping) (iova : U64) (bits : U32)
    (result : IommuDmaResult) : Prop where
  present : l1.flags &&& kIommuMappingPresent ≠ 0 ∧ root.flags &&& kIommuMappingPresent ≠ 0
  pinned : l1.flags &&& kIommuMappingPinned ≠ 0 ∧ root.flags &&& kIommuMappingPinned ≠ 0
  host : result.hostPhysical.toNat = composed l1 root iova
  inside : root.hostPhysical.toNat ≤ result.hostPhysical.toNat ∧
    result.hostPhysical.toNat < root.hostPhysical.toNat + (hostSegment root).length
  width : result.hostPhysical.toNat < 2 ^ bits.toNat
  permissions : result.permissions = l1.permissions &&& root.permissions

theorem valid_present_pinned {mapping : IommuDmaMapping} {bits : U32}
    (valid : isIommuDmaMappingValid (some mapping) bits = true) :
    mapping.flags &&& kIommuMappingPresent ≠ 0 ∧ mapping.flags &&& kIommuMappingPinned ≠ 0 := by
  simp only [isIommuDmaMappingValid, isMappingHeaderValid, Bool.and_eq_true, bne_iff_ne] at valid
  exact ⟨valid.1.1.1.1.1.1.1.2, valid.1.1.1.1.1.1.2⟩

theorem composed_eq_move (l1 root : IommuDmaMapping) (iova : U64) :
    (hostSegment root).move ((guestSegment l1).move iova.toNat) = composed l1 root iova := rfl

theorem resolveNestedDma_refused {l1 root : IommuDmaMapping} {bits : U32}
    (refused : ¬BothValid l1 root bits) (iova : U64) (access : IommuDmaAccess) :
    (resolveNestedDma (some l1) (some root) iova access bits).status = .Invalid := by
  rw [resolveNestedDma, if_pos]
  · rfl
  · simp only [Bool.or_eq_true, Bool.not_eq_true']
    by_contra accepted
    rw [not_or, Bool.not_eq_false, Bool.not_eq_false] at accepted
    exact refused accepted

/-- Between valid mappings no sum overflows: `Invalid` is never the answer. -/
theorem resolveNestedDma_ne_invalid {l1 root : IommuDmaMapping} {bits : U32}
    (valid : BothValid l1 root bits) (iova : U64) (access : IommuDmaAccess) :
    (resolveNestedDma (some l1) (some root) iova access bits).status ≠ .Invalid := by
  rcases resolveNestedDma_cases iova access valid.1 valid.2 with
    ⟨_, _, sound⟩ | ⟨_, hostPhysical, done, _⟩
  · exact sound
  · rw [done]
    nofun

theorem hit_iff {l1 root : IommuDmaMapping} {iova : U64} {access : IommuDmaAccess} {bits : U32} :
    (resolveNestedDma (some l1) (some root) iova access bits).status = .Hit ↔
      BothValid l1 root bits ∧ Reaches l1 root iova access := by
  by_cases valid : BothValid l1 root bits
  · rcases resolveNestedDma_resolved iova access valid.1 valid.2 with
      ⟨stopped, missed⟩ | ⟨reaches, hostPhysical, done, _⟩
    · exact iff_of_false missed fun hit => stopped hit.2
    · rw [done]
      exact iff_of_true rfl ⟨valid, reaches⟩
  · rw [resolveNestedDma_refused valid]
    exact iff_of_false nofun fun hit => valid hit.1

theorem hit_sound {l1 root : IommuDmaMapping} {iova : U64} {access : IommuDmaAccess} {bits : U32}
    (hit : (resolveNestedDma (some l1) (some root) iova access bits).status = .Hit) :
    HitSound l1 root iova bits (resolveNestedDma (some l1) (some root) iova access bits) := by
  obtain ⟨valid, reaches⟩ := hit_iff.mp hit
  rcases resolveNestedDma_resolved iova access valid.1 valid.2 with
    ⟨_, missed⟩ | ⟨_, hostPhysical, done, moved⟩
  · exact absurd hit missed
  have below := Segment.move_lt reaches.through.inSecond
  have fits := (rangesFit_of_valid valid.2).host
  have l1Flags := valid_present_pinned valid.1
  have rootFlags := valid_present_pinned valid.2
  have start : (hostSegment root).target = root.hostPhysical.toNat := rfl
  rw [← moved] at below
  rw [start] at below fits
  rw [done]
  refine ⟨⟨l1Flags.1, rootFlags.1⟩, ⟨l1Flags.2, rootFlags.2⟩, ?_, ⟨?_, below⟩, ?_, rfl⟩
  · exact moved.trans (composed_eq_move l1 root iova)
  · show root.hostPhysical.toNat ≤ hostPhysical.toNat
    rw [moved, composed_eq_move]
    exact Nat.le_add_right _ _
  · exact Nat.lt_of_lt_of_le below fits

/-- The nested DMA translation, for every pair of mappings, address, access and
width: when it hits, what a hit is, that no two addresses hit the same place,
and that no sum overflows on the way. -/
theorem resolveNestedDma_sound (l1 root : IommuDmaMapping) (iova : U64) (access : IommuDmaAccess)
    (bits : U32) :
    ((resolveNestedDma (some l1) (some root) iova access bits).status = .Hit ↔
        BothValid l1 root bits ∧ Reaches l1 root iova access) ∧
      ((resolveNestedDma (some l1) (some root) iova access bits).status = .Hit →
        HitSound l1 root iova bits (resolveNestedDma (some l1) (some root) iova access bits)) ∧
      (∀ other otherAccess,
        (resolveNestedDma (some l1) (some root) iova access bits).status = .Hit →
        (resolveNestedDma (some l1) (some root) other otherAccess bits).status = .Hit →
        iova ≠ other →
        (resolveNestedDma (some l1) (some root) iova access bits).hostPhysical ≠
          (resolveNestedDma (some l1) (some root) other otherAccess bits).hostPhysical) ∧
      ((resolveNestedDma (some l1) (some root) iova access bits).status = .Invalid ↔
        ¬BothValid l1 root bits) := by
  refine ⟨hit_iff, hit_sound, fun other otherAccess hit otherHit differs same => differs ?_, ?_⟩
  · have reaches := (hit_iff.mp hit).2
    have otherReaches := (hit_iff.mp otherHit).2
    have host := (hit_sound hit).host
    have otherHost := (hit_sound otherHit).host
    refine BitVec.eq_of_toNat_eq (reaches.through.injective otherReaches.through ?_)
    rw [composed_eq_move, composed_eq_move, ← host, ← otherHost, same]
  · constructor
    · intro invalid valid
      exact resolveNestedDma_ne_invalid valid iova access invalid
    · intro refused
      exact resolveNestedDma_refused refused iova access

/-- A pinned mapping of four pages, readable and writable. -/
def pinnedMapping (iova guestPhysical hostPhysical : U64) : IommuDmaMapping where
  size := sizeofIommuDmaMapping
  version := kIommuContractVersion
  iova := iova
  guestPhysical := guestPhysical
  hostPhysical := hostPhysical
  pageCount := 4
  pageOrder := 0
  permissions := kIommuPermissionRead ||| kIommuPermissionWrite
  flags := kIommuMappingPresent ||| kIommuMappingPinned
  reserved := 0
  generation := 7

/-- A write through two of them. -/
theorem resolveNestedDma_sound_write :
    HitSound (pinnedMapping 0x1000 0x9000 0) (pinnedMapping 0x9000 0 0x20000) 0x1ABC 48
      (resolveNestedDma (some (pinnedMapping 0x1000 0x9000 0))
        (some (pinnedMapping 0x9000 0 0x20000)) 0x1ABC .Write 48) :=
  (resolveNestedDma_sound _ _ _ _ _).2.1 (by decide)

end Knhv.Iommu
