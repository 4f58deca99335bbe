import Knhv.Ept.Mapping
import Knhv.Lib.Masks

namespace Knhv.Ept

/-- The range of a mapping, as the move of a whole segment. -/
def segment (mapping : EptMapping) : Segment where
  base := mapping.guestPhysical.toNat
  target := mapping.hostPhysical.toNat
  length := (mappingSpan mapping).elim 0 (·.2.toNat)

theorem isPhysicalAddress_fits {address : U64} {bits : U32}
    (physical : isPhysicalAddress address bits = true) : Paging.fitsWidth address bits = true := by
  simp only [isPhysicalAddress, Bool.and_eq_true] at physical
  exact physical.2

theorem isRangeValid_le {base spanBytes : U64} {bits : U32} (nonzero : spanBytes ≠ 0)
    (valid : isRangeValid base spanBytes bits = true) :
    base.toNat + spanBytes.toNat ≤ 2 ^ bits.toNat := by
  obtain ⟨last, sum, physical⟩ := (Option.any_eq_true _ _).mp valid
  exact Paging.range_le nonzero sum (isPhysicalAddress_fits physical)

/-- What the check of a mapping says about its ranges. -/
structure RangesFit (mapping : EptMapping) (bits : U32) : Prop where
  span : ∃ pageSize spanBytes, mappingSpan mapping = some (pageSize, spanBytes) ∧
    (segment mapping).length = spanBytes.toNat
  guest : (segment mapping).base + (segment mapping).length ≤ 2 ^ bits.toNat
  host : (segment mapping).target + (segment mapping).length ≤ 2 ^ bits.toNat

theorem rangesFit_of_valid {mapping : EptMapping} {bits : U32}
    (valid : isEptMappingValid (some mapping) bits = true) : RangesFit mapping bits := by
  simp only [isEptMappingValid, Bool.and_eq_true] at valid
  obtain ⟨_, ranges⟩ := valid
  cases spanning : mappingSpan mapping with
  | none =>
    rw [spanning] at ranges
    cases ranges
  | some sizes =>
    obtain ⟨pageSize, spanBytes⟩ := sizes
    have length : (segment mapping).length = spanBytes.toNat := by
      rw [segment, spanning]
      rfl
    have nonzero := Paging.spanOf_ne_zero spanning
    rw [spanning] at ranges
    simp only [Bool.and_eq_true] at ranges
    refine ⟨⟨pageSize, spanBytes, spanning, length⟩, ?_, ?_⟩
    · rw [length]
      exact isRangeValid_le nonzero ranges.1.2
    · rw [length]
      exact isRangeValid_le nonzero ranges.2

theorem eptMappingContains_iff {mapping : EptMapping} {address : U64}
    (valid : isEptMappingValid (some mapping) kEptMaxPhysicalAddressBits = true) :
    eptMappingContains mapping address = true ↔ (segment mapping).Covers address.toNat := by
  obtain ⟨pageSize, spanBytes, spanning, length⟩ := (rangesFit_of_valid valid).span
  have base : (segment mapping).base = mapping.guestPhysical.toNat := rfl
  rw [eptMappingContains, valid, spanning, Bool.true_and, Segment.Covers, length, base]
  dsimp only
  exact Paging.offset_lt_iff

/-- The move of an address inside a mapping, as the resolution computes it. -/
theorem addOverflow_move {mapping : EptMapping} {address : U64}
    (valid : isEptMappingValid (some mapping) kEptMaxPhysicalAddressBits = true)
    (covers : (segment mapping).Covers address.toNat) :
    ∃ moved, addOverflow mapping.hostPhysical (address - mapping.guestPhysical) = some moved ∧
      moved.toNat = (segment mapping).move address.toNat := by
  have fits := rangesFit_of_valid valid
  have inside := Segment.move_lt covers
  have host := fits.host
  have width : kEptMaxPhysicalAddressBits.toNat = 52 := rfl
  have below : mapping.guestPhysical ≤ address := covers.1
  have offset : (address - mapping.guestPhysical).toNat =
      address.toNat - (segment mapping).base := BitVec.toNat_sub_of_le below
  have total : mapping.hostPhysical.toNat + (address - mapping.guestPhysical).toNat =
      (segment mapping).move address.toNat := by
    rw [offset]
    rfl
  rw [width] at host
  have small : mapping.hostPhysical.toNat + (address - mapping.guestPhysical).toNat < 2 ^ 64 := by
    rw [total]
    exact Nat.lt_trans (Nat.lt_of_lt_of_le inside host) (by decide)
  refine ⟨_, Checked.add_of_lt small, ?_⟩
  rw [BitVec.toNat_add, Nat.mod_eq_of_lt small, total]

/-- What decides a resolution: the generations, the ranges, the owner of the
root page and the two grants. -/
structure Reaches (l1 root : EptMapping) (address : U64) (access : EptAccess) : Prop where
  generation : l1.generation = root.generation
  through : Segment.Through (segment l1) (segment root) address.toNat
  l1Allowed : isEptAccessAllowed l1.permissions access = true
  rootGuest : root.flags &&& kEptMappingFlagHostOwned = 0
  rootAllowed : isEptAccessAllowed root.permissions access = true

/-- The result that the two moves ask for. -/
def Resolved (l1 root : EptMapping) (address : U64) (access : EptAccess)
    (result : EptLookupResult) : Prop :=
  (¬Reaches l1 root address access ∧ result.status ≠ .Hit) ∨
    (Reaches l1 root address access ∧ ∃ hostPhysical,
      result = makeLookup .Hit (l1.permissions &&& root.permissions) hostPhysical
        root.generation ∧
      hostPhysical.toNat = (segment root).move ((segment l1).move address.toNat))

/-- Two valid mappings always get the result they ask for: the additions of the
resolution do not overflow. -/
def Answered (l1 root : EptMapping) (address : U64) (access : EptAccess)
    (result : EptLookupResult) : Prop :=
  result.status ≠ .Invalid ∧ Resolved l1 root address access result

theorem resolveNestedEpt_answered {l1 root : EptMapping} {address : U64} {access : EptAccess}
    (l1Valid : isEptMappingValid (some l1) kEptMaxPhysicalAddressBits = true)
    (rootValid : isEptMappingValid (some root) kEptMaxPhysicalAddressBits = true) :
    Answered l1 root address access (resolveNestedEpt (some l1) (some root) address access) := by
  simp only [resolveNestedEpt, l1Valid, rootValid, Bool.not_true, Bool.or_self,
    Bool.false_eq_true, if_false]
  split
  · rename_i stale
    refine ⟨nofun, Or.inl ⟨fun reaches => ?_, nofun⟩⟩
    simp [reaches.generation] at stale
  rename_i current
  split
  · rename_i absent
    refine ⟨nofun, Or.inl ⟨fun reaches => ?_, nofun⟩⟩
    rw [(eptMappingContains_iff l1Valid).mpr reaches.through.inFirst] at absent
    cases absent
  rename_i present
  rw [Bool.not_eq_true', Bool.not_eq_false, eptMappingContains_iff l1Valid] at present
  split
  · rename_i denied
    refine ⟨nofun, Or.inl ⟨fun reaches => ?_, nofun⟩⟩
    rw [reaches.l1Allowed] at denied
    cases denied
  rename_i l1Allowed
  obtain ⟨middle, added, middleValue⟩ := addOverflow_move l1Valid present
  rw [added]
  dsimp only
  split
  · rename_i absent
    refine ⟨nofun, Or.inl ⟨fun reaches => ?_, nofun⟩⟩
    have inRoot := reaches.through.inSecond
    rw [← middleValue] at inRoot
    rw [(eptMappingContains_iff rootValid).mpr inRoot] at absent
    cases absent
  rename_i inRoot
  rw [Bool.not_eq_true', Bool.not_eq_false, eptMappingContains_iff rootValid] at inRoot
  split
  · rename_i owned
    refine ⟨nofun, Or.inl ⟨fun reaches => ?_, nofun⟩⟩
    rw [reaches.rootGuest] at owned
    cases owned
  rename_i rootGuest
  split
  · rename_i denied
    refine ⟨nofun, Or.inl ⟨fun reaches => ?_, nofun⟩⟩
    rw [reaches.rootAllowed] at denied
    cases denied
  rename_i rootAllowed
  obtain ⟨hostPhysical, addedHost, hostValue⟩ := addOverflow_move rootValid inRoot
  rw [addedHost]
  rw [middleValue] at hostValue inRoot
  refine ⟨nofun, Or.inr ⟨⟨?_, ⟨present, inRoot⟩, ?_, ?_, ?_⟩, hostPhysical, rfl, hostValue⟩⟩
  · simpa using current
  · simpa using l1Allowed
  · simpa using rootGuest
  · simpa using rootAllowed

/-- A resolution of two valid mappings hits exactly the addresses that go
through both. -/
theorem resolveNestedEpt_resolved {l1 root : EptMapping} {address : U64} {access : EptAccess}
    (l1Valid : isEptMappingValid (some l1) kEptMaxPhysicalAddressBits = true)
    (rootValid : isEptMappingValid (some root) kEptMaxPhysicalAddressBits = true) :
    Resolved l1 root address access (resolveNestedEpt (some l1) (some root) address access) :=
  (resolveNestedEpt_answered l1Valid rootValid).2

/-- A mapping that is there and passes the check. -/
def Present (mapping : Option EptMapping) (value : EptMapping) : Prop :=
  mapping = some value ∧ isEptMappingValid mapping kEptMaxPhysicalAddressBits = true

/-- A resolution is refused for its mappings, or answered. -/
theorem resolveNestedEpt_cases (l1Mapping rootMapping : Option EptMapping) (address : U64)
    (access : EptAccess) :
    (¬(isEptMappingValid l1Mapping kEptMaxPhysicalAddressBits = true ∧
        isEptMappingValid rootMapping kEptMaxPhysicalAddressBits = true) ∧
      resolveNestedEpt l1Mapping rootMapping address access = makeLookup .Invalid 0 0 0) ∨
    ∃ l1 root, Present l1Mapping l1 ∧ Present rootMapping root ∧
      Answered l1 root address access (resolveNestedEpt l1Mapping rootMapping address access) := by
  rcases l1Mapping with _ | l1
  · exact Or.inl ⟨fun valid => Bool.noConfusion valid.1, rfl⟩
  rcases rootMapping with _ | root
  · exact Or.inl ⟨fun valid => Bool.noConfusion valid.2, rfl⟩
  by_cases valid : isEptMappingValid (some l1) kEptMaxPhysicalAddressBits = true ∧
      isEptMappingValid (some root) kEptMaxPhysicalAddressBits = true
  · exact Or.inr ⟨l1, root, ⟨rfl, valid.1⟩, ⟨rfl, valid.2⟩,
      resolveNestedEpt_answered valid.1 valid.2⟩
  · refine Or.inl ⟨valid, ?_⟩
    have refused : (!isEptMappingValid (some l1) kEptMaxPhysicalAddressBits ||
        !isEptMappingValid (some root) kEptMaxPhysicalAddressBits) = true := by
      rwa [← Bool.not_and, Bool.not_eq_true', ← Bool.not_eq_true, Bool.and_eq_true]
    rw [resolveNestedEpt, if_pos refused]

/-- The permission that an access asks for is one bit. -/
theorem isEptAccessAllowed_iff (access : EptAccess) :
    ∃ bit, ∀ permissions, isEptAccessAllowed permissions access = true ↔
      permissions &&& BitVec.twoPow 32 bit ≠ 0#32 := by
  cases access with
  | Read => exact ⟨0, fun permissions => bne_iff_ne⟩
  | Write => exact ⟨1, fun permissions => bne_iff_ne⟩
  | Execute => exact ⟨2, fun permissions => bne_iff_ne⟩

theorem isEptAccessAllowed_and {left right : U32} {access : EptAccess}
    (inLeft : isEptAccessAllowed left access = true)
    (inRight : isEptAccessAllowed right access = true) :
    isEptAccessAllowed (left &&& right) access = true := by
  obtain ⟨bit, allowed⟩ := isEptAccessAllowed_iff access
  rw [allowed] at inLeft inRight ⊢
  exact Masks.and_twoPow_ne_zero inLeft inRight

/-- What a hit returns. -/
structure Translated (l1 root : EptMapping) (address : U64) (access : EptAccess)
    (result : EptLookupResult) : Prop where
  composed : result.hostPhysical.toNat = (segment root).move ((segment l1).move address.toNat)
  inside : (segment root).target ≤ result.hostPhysical.toNat ∧
    result.hostPhysical.toNat < (segment root).target + (segment root).length
  below : result.hostPhysical.toNat < 2 ^ 52
  permissions : result.permissions = l1.permissions &&& root.permissions
  granted : isEptAccessAllowed result.permissions access = true

theorem Answered.translated {l1 root : EptMapping} {address : U64} {access : EptAccess}
    {result : EptLookupResult} (answered : Answered l1 root address access result)
    (rootValid : isEptMappingValid (some root) kEptMaxPhysicalAddressBits = true)
    (hit : result.status = .Hit) :
    Reaches l1 root address access ∧ Translated l1 root address access result := by
  obtain ⟨_, ⟨_, missed⟩ | ⟨reaches, hostPhysical, rfl, composed⟩⟩ := answered
  · exact absurd hit missed
  have inside : hostPhysical.toNat < (segment root).target + (segment root).length := by
    rw [composed]
    exact Segment.move_lt reaches.through.inSecond
  have width : (segment root).target + (segment root).length ≤ 2 ^ 52 :=
    (rangesFit_of_valid rootValid).host
  have from_ : (segment root).target ≤ hostPhysical.toNat := by
    rw [composed]
    exact Nat.le_add_right _ _
  exact ⟨reaches, composed, ⟨from_, inside⟩, Nat.lt_of_lt_of_le inside width, rfl,
    isEptAccessAllowed_and reaches.l1Allowed reaches.rootAllowed⟩

/-- Where the range of a mapping contains an address, the move of the address
does not overflow. -/
theorem addOverflow_of_contains {mapping : EptMapping} {address : U64}
    (contains : eptMappingContains mapping address = true) :
    (addOverflow mapping.hostPhysical (address - mapping.guestPhysical)).isSome = true := by
  have valid : isEptMappingValid (some mapping) kEptMaxPhysicalAddressBits = true := by
    rw [eptMappingContains, Bool.and_eq_true] at contains
    exact contains.1
  obtain ⟨moved, sum, _⟩ := addOverflow_move valid ((eptMappingContains_iff valid).mp contains)
  rw [sum]
  rfl

/-- A resolution hits exactly where two valid mappings of one generation carry
the address and grant the access; a hit is the composition of their moves, and
no sum on the way overflows. -/
theorem resolveNestedEpt_sound (l1Mapping rootMapping : Option EptMapping) (address : U64)
    (access : EptAccess) :
    ((resolveNestedEpt l1Mapping rootMapping address access).status = .Hit ↔
      ∃ l1 root, Present l1Mapping l1 ∧ Present rootMapping root ∧
        Reaches l1 root address access) ∧
    (∀ l1 root, Present l1Mapping l1 → Present rootMapping root →
      (resolveNestedEpt l1Mapping rootMapping address access).status = .Hit →
      Translated l1 root address access
        (resolveNestedEpt l1Mapping rootMapping address access)) ∧
    (∀ other otherAccess,
      (resolveNestedEpt l1Mapping rootMapping address access).status = .Hit →
      (resolveNestedEpt l1Mapping rootMapping other otherAccess).status = .Hit →
      address ≠ other →
      (resolveNestedEpt l1Mapping rootMapping address access).hostPhysical ≠
        (resolveNestedEpt l1Mapping rootMapping other otherAccess).hostPhysical) ∧
    ((resolveNestedEpt l1Mapping rootMapping address access).status = .Invalid →
      ¬(isEptMappingValid l1Mapping kEptMaxPhysicalAddressBits = true ∧
        isEptMappingValid rootMapping kEptMaxPhysicalAddressBits = true)) ∧
    (∀ mapping middle, eptMappingContains mapping middle = true →
      (addOverflow mapping.hostPhysical (middle - mapping.guestPhysical)).isSome = true) := by
  have hits : ∀ address access,
      (resolveNestedEpt l1Mapping rootMapping address access).status = .Hit →
      ∃ l1 root, Present l1Mapping l1 ∧ Present rootMapping root ∧
        Reaches l1 root address access ∧ Translated l1 root address access
          (resolveNestedEpt l1Mapping rootMapping address access) := by
    intro address access hit
    rcases resolveNestedEpt_cases l1Mapping rootMapping address access with
      ⟨_, refused⟩ | ⟨l1, root, l1Present, rootPresent, answered⟩
    · rw [refused] at hit
      cases hit
    · have rootValid := rootPresent.2
      rw [rootPresent.1] at rootValid
      exact ⟨l1, root, l1Present, rootPresent, answered.translated rootValid hit⟩
  refine ⟨⟨?_, ?_⟩, ?_, ?_, ?_, fun mapping middle => addOverflow_of_contains⟩
  · intro hit
    obtain ⟨l1, root, l1Present, rootPresent, reaches, _⟩ := hits address access hit
    exact ⟨l1, root, l1Present, rootPresent, reaches⟩
  · rintro ⟨l1, root, ⟨rfl, l1Valid⟩, ⟨rfl, rootValid⟩, reaches⟩
    rcases @resolveNestedEpt_resolved l1 root address access l1Valid rootValid with
      ⟨stops, _⟩ | ⟨_, hostPhysical, result, _⟩
    · exact absurd reaches stops
    · rw [result]
      rfl
  · rintro l1 root ⟨first, _⟩ ⟨second, _⟩ hit
    obtain ⟨l1', root', ⟨first', _⟩, ⟨second', _⟩, _, translated⟩ := hits address access hit
    cases first.symm.trans first'
    cases second.symm.trans second'
    exact translated
  · intro other otherAccess hit otherHit different same
    obtain ⟨l1, root, ⟨first, _⟩, ⟨second, _⟩, reaches, translated⟩ := hits address access hit
    obtain ⟨l1', root', ⟨first', _⟩, ⟨second', _⟩, otherReaches, otherTranslated⟩ :=
      hits other otherAccess otherHit
    cases first.symm.trans first'
    cases second.symm.trans second'
    refine different (BitVec.eq_of_toNat_eq
      (reaches.through.injective otherReaches.through ?_))
    rw [← translated.composed, ← otherTranslated.composed, same]
  · intro status
    rcases resolveNestedEpt_cases l1Mapping rootMapping address access with
      ⟨invalid, _⟩ | ⟨_, _, _, _, answered⟩
    · exact invalid
    · exact absurd status answered.1

/-- Two pages of the guest at `guestPhysical`, readable and writable. -/
def twoPages (guestPhysical hostPhysical : U64) : EptMapping :=
  { size := sizeofEptMapping
    version := kEptContractVersion
    guestPhysical
    hostPhysical
    pageCount := 2
    pageOrder := 0
    permissions := kEptPermissionRead ||| kEptPermissionWrite
    memoryType := kEptMemoryTypeWb
    flags := kEptMappingFlagPresent
    generation := 1 }

theorem resolveNestedEpt_sound_twoPages :
    Translated (twoPages 0x5000 0x9000) (twoPages 0x9000 0x20000) 0x6010 .Write
        (resolveNestedEpt (some (twoPages 0x5000 0x9000)) (some (twoPages 0x9000 0x20000)) 0x6010
          .Write) ∧
      (resolveNestedEpt (some (twoPages 0x5000 0x9000)) (some (twoPages 0x9000 0x20000)) 0x6010
          .Write).hostPhysical ≠
        (resolveNestedEpt (some (twoPages 0x5000 0x9000)) (some (twoPages 0x9000 0x20000)) 0x5010
          .Read).hostPhysical := by
  have sound := resolveNestedEpt_sound (some (twoPages 0x5000 0x9000))
    (some (twoPages 0x9000 0x20000)) 0x6010 .Write
  exact ⟨sound.2.1 _ _ ⟨rfl, by decide⟩ ⟨rfl, by decide⟩ (by decide),
    sound.2.2.1 0x5010 .Read (by decide) (by decide) (by decide)⟩

end Knhv.Ept
