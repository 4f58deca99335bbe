import Knhv.Ept.Resolve
import Knhv.Iommu.Translation

namespace Knhv.Iommu

open Knhv.Ept (EptMapping EptAccess kEptMappingFlagHostOwned kEptPermissionRead kEptPermissionWrite
  isEptMappingValid resolveNestedEpt kEptMaxPhysicalAddressBits)

def kEptPermissionReadWrite : U32 := kEptPermissionRead ||| kEptPermissionWrite

/-- A processor mapping and a device mapping of the same memory, where `target`
is the address at which the device mapping ends. -/
structure SameMapping (cpu : EptMapping) (device : IommuDmaMapping) (target : U64) : Prop where
  base : device.iova = cpu.guestPhysical
  target : target = cpu.hostPhysical
  pageCount : device.pageCount = cpu.pageCount
  pageOrder : device.pageOrder = cpu.pageOrder
  permissions : device.permissions = cpu.permissions &&& kEptPermissionReadWrite
  owner : device.flags &&& kIommuMappingHostOwned = 0 ↔ cpu.flags &&& kEptMappingFlagHostOwned = 0
  generation : device.generation = cpu.generation

/-- The two mappings of each level: the first translation of the device ends at
its guest address, the second one at its host address. -/
structure SameMappings (l1 root : EptMapping) (l1Dma rootDma : IommuDmaMapping) : Prop where
  first : SameMapping l1 l1Dma l1Dma.guestPhysical
  second : SameMapping root rootDma rootDma.hostPhysical
  l1Valid : isEptMappingValid (some l1) kEptMaxPhysicalAddressBits = true
  rootValid : isEptMappingValid (some root) kEptMaxPhysicalAddressBits = true
  l1DmaValid : isIommuDmaMappingValid (some l1Dma) kIommuMaxPhysicalAddressBits = true
  rootDmaValid : isIommuDmaMappingValid (some rootDma) kIommuMaxPhysicalAddressBits = true

def IommuDmaAccess.toEpt : IommuDmaAccess → EptAccess
  | .Read => .Read
  | .Write => .Write

/-- The processor and the device get the same answer. -/
structure SameAnswer (l1 root : EptMapping) (l1Dma rootDma : IommuDmaMapping) (address : U64)
    (access : IommuDmaAccess) : Prop where
  hit : (resolveNestedEpt (some l1) (some root) address access.toEpt).status = .Hit ↔
    (resolveNestedDma (some l1Dma) (some rootDma) address access
      kIommuMaxPhysicalAddressBits).status = .Hit
  host : (resolveNestedEpt (some l1) (some root) address access.toEpt).status = .Hit →
    (resolveNestedEpt (some l1) (some root) address access.toEpt).hostPhysical =
      (resolveNestedDma (some l1Dma) (some rootDma) address access
        kIommuMaxPhysicalAddressBits).hostPhysical
  permissions : (resolveNestedEpt (some l1) (some root) address access.toEpt).status = .Hit →
    (resolveNestedEpt (some l1) (some root) address access.toEpt).permissions &&&
        kEptPermissionReadWrite =
      (resolveNestedDma (some l1Dma) (some rootDma) address access
        kIommuMaxPhysicalAddressBits).permissions

theorem SameMapping.guestSegment_eq {cpu : EptMapping} {device : IommuDmaMapping}
    (same : SameMapping cpu device device.guestPhysical) : guestSegment device = Ept.segment cpu := by
  have span : mappingSpan device = Ept.mappingSpan cpu := by
    rw [mappingSpan, Ept.mappingSpan, same.pageCount, same.pageOrder]
    rfl
  rw [guestSegment, Ept.segment, span, same.base, same.target]

theorem SameMapping.hostSegment_eq {cpu : EptMapping} {device : IommuDmaMapping}
    (same : SameMapping cpu device device.hostPhysical) : hostSegment device = Ept.segment cpu := by
  have span : mappingSpan device = Ept.mappingSpan cpu := by
    rw [mappingSpan, Ept.mappingSpan, same.pageCount, same.pageOrder]
    rfl
  rw [hostSegment, Ept.segment, span, same.base, same.target]

/-- A mask that keeps a bit does not change the test of the bit. -/
theorem isAccessAllowed_eq {cpuPermissions permissions : U32}
    (same : permissions = cpuPermissions &&& kEptPermissionReadWrite) (access : IommuDmaAccess) :
    isIommuDmaAccessAllowed permissions access =
      Ept.isEptAccessAllowed cpuPermissions access.toEpt := by
  have read : kEptPermissionReadWrite &&& kIommuPermissionRead = kEptPermissionRead := by decide
  have write : kEptPermissionReadWrite &&& kIommuPermissionWrite = kEptPermissionWrite := by decide
  cases access with
  | Read =>
    rw [isIommuDmaAccessAllowed, IommuDmaAccess.toEpt, Ept.isEptAccessAllowed, same,
      BitVec.and_assoc, read]
  | Write =>
    rw [isIommuDmaAccessAllowed, IommuDmaAccess.toEpt, Ept.isEptAccessAllowed, same,
      BitVec.and_assoc, write]

variable {l1 root : EptMapping} {l1Dma rootDma : IommuDmaMapping} {address : U64}
  {access : IommuDmaAccess}

/-- The device reaches what the processor reaches, unless the host owns the
page that the first level maps. -/
theorem SameMappings.reaches_iff (same : SameMappings l1 root l1Dma rootDma) :
    Reaches l1Dma rootDma address access ↔
      Ept.Reaches l1 root address access.toEpt ∧ l1.flags &&& kEptMappingFlagHostOwned = 0 := by
  constructor
  · intro reaches
    have through := reaches.through
    rw [same.first.guestSegment_eq, same.second.hostSegment_eq] at through
    refine ⟨⟨?_, through, ?_, same.second.owner.mp reaches.rootGuest, ?_⟩,
      same.first.owner.mp reaches.l1Guest⟩
    · rw [← same.first.generation, ← same.second.generation]
      exact reaches.generation
    · rw [← isAccessAllowed_eq same.first.permissions]
      exact reaches.l1Allowed
    · rw [← isAccessAllowed_eq same.second.permissions]
      exact reaches.rootAllowed
  · rintro ⟨reaches, l1Guest⟩
    refine ⟨?_, same.first.owner.mpr l1Guest, ?_, ?_, same.second.owner.mpr reaches.rootGuest, ?_⟩
    · rw [same.first.generation, same.second.generation]
      exact reaches.generation
    · rw [same.first.guestSegment_eq, same.second.hostSegment_eq]
      exact reaches.through
    · rw [isAccessAllowed_eq same.first.permissions]
      exact reaches.l1Allowed
    · rw [isAccessAllowed_eq same.second.permissions]
      exact reaches.rootAllowed

theorem and_readWrite_distrib (first second : U32) :
    first &&& second &&& kEptPermissionReadWrite =
      (first &&& kEptPermissionReadWrite) &&& (second &&& kEptPermissionReadWrite) := by
  ext bit
  simp only [BitVec.getElem_and]
  cases first[bit] with
  | false => simp only [Bool.false_and]
  | true =>
    cases second[bit] with
    | false => simp only [Bool.and_false, Bool.false_and]
    | true => simp only [Bool.true_and, Bool.and_self]

/-- The processor and the device agree on an address exactly if the host does
not own the page that the first level maps, or the processor does not get
through either: only the device walk looks at the owner of the first level. -/
theorem cpu_device_agree_iff (same : SameMappings l1 root l1Dma rootDma) :
    SameAnswer l1 root l1Dma rootDma address access ↔
      ¬(l1.flags &&& kEptMappingFlagHostOwned ≠ 0 ∧
        Ept.Reaches l1 root address access.toEpt) := by
  have reaches : Reaches l1Dma rootDma address access ↔
      Ept.Reaches l1 root address access.toEpt ∧ l1.flags &&& kEptMappingFlagHostOwned = 0 :=
    same.reaches_iff
  have cpu : Ept.Resolved l1 root address access.toEpt
      (resolveNestedEpt (some l1) (some root) address access.toEpt) :=
    Ept.resolveNestedEpt_resolved same.l1Valid same.rootValid
  have device : Resolved l1Dma rootDma address access (resolveNestedDma (some l1Dma)
      (some rootDma) address access kIommuMaxPhysicalAddressBits) :=
    resolveNestedDma_resolved _ _ same.l1DmaValid same.rootDmaValid
  constructor
  · rintro answer ⟨owned, through⟩
    rcases cpu with ⟨blocked, _⟩ | ⟨_, host, cpuHit, _⟩
    · exact blocked through
    · have deviceHit := answer.hit.mp (by rw [cpuHit]; rfl)
      rcases device with ⟨_, missed⟩ | ⟨deviceThrough, _⟩
      · exact missed deviceHit
      · exact owned (reaches.mp deviceThrough).2
  · intro allowed
    rcases cpu with ⟨blocked, cpuMissed⟩ | ⟨through, host, cpuHit, cpuValue⟩
    · have deviceMissed : (resolveNestedDma (some l1Dma) (some rootDma) address access
          kIommuMaxPhysicalAddressBits).status ≠ .Hit := by
        rcases device with ⟨_, missed⟩ | ⟨deviceThrough, _⟩
        · exact missed
        · exact absurd (reaches.mp deviceThrough).1 blocked
      exact ⟨iff_of_false cpuMissed deviceMissed, fun hit => absurd hit cpuMissed,
        fun hit => absurd hit cpuMissed⟩
    · have guest : l1.flags &&& kEptMappingFlagHostOwned = 0 := by
        by_contra owned
        exact allowed ⟨owned, through⟩
      rcases device with ⟨blocked, _⟩ | ⟨_, deviceHost, deviceHit, deviceValue⟩
      · exact absurd (reaches.mpr ⟨through, guest⟩) blocked
      rw [same.first.guestSegment_eq, same.second.hostSegment_eq, ← cpuValue] at deviceValue
      have sameHost : host = deviceHost := BitVec.eq_of_toNat_eq deviceValue.symm
      refine ⟨?_, fun _ => ?_, fun _ => ?_⟩
      · rw [cpuHit, deviceHit]
        exact iff_of_true rfl rfl
      · rw [cpuHit, deviceHit]
        exact sameHost
      · rw [cpuHit, deviceHit, makeDmaResult, Ept.makeLookup, same.first.permissions,
          same.second.permissions]
        exact and_readWrite_distrib _ _

/-- One page of processor memory. -/
def cpuPage (guestPhysical hostPhysical : U64) (flags : U32) : EptMapping where
  size := Ept.sizeofEptMapping
  version := Ept.kEptContractVersion
  guestPhysical := guestPhysical
  hostPhysical := hostPhysical
  pageCount := 1
  pageOrder := 0
  permissions := 3
  memoryType := Ept.kEptMemoryTypeWb
  flags := Ept.kEptMappingFlagPresent ||| flags
  generation := 1

/-- One pinned page of device memory. -/
def devicePage (iova guestPhysical hostPhysical : U64) (flags : U32) : IommuDmaMapping where
  size := sizeofIommuDmaMapping
  version := kIommuContractVersion
  iova := iova
  guestPhysical := guestPhysical
  hostPhysical := hostPhysical
  pageCount := 1
  pageOrder := 0
  permissions := 3
  flags := kIommuMappingPresent ||| kIommuMappingPinned ||| flags
  reserved := 0
  generation := 1

theorem samePages (l1Flags l1DmaFlags : U32)
    (owner : (devicePage 0x1000 0x2000 0x2000 l1DmaFlags).flags &&& kIommuMappingHostOwned = 0 ↔
      (cpuPage 0x1000 0x2000 l1Flags).flags &&& kEptMappingFlagHostOwned = 0)
    (l1Valid : isEptMappingValid (some (cpuPage 0x1000 0x2000 l1Flags))
      kEptMaxPhysicalAddressBits = true)
    (l1DmaValid : isIommuDmaMappingValid (some (devicePage 0x1000 0x2000 0x2000 l1DmaFlags))
      kIommuMaxPhysicalAddressBits = true) :
    SameMappings (cpuPage 0x1000 0x2000 l1Flags) (cpuPage 0x2000 0x5000 0)
      (devicePage 0x1000 0x2000 0x2000 l1DmaFlags) (devicePage 0x2000 0x2000 0x5000 0) where
  first := ⟨rfl, rfl, rfl, rfl, (by decide : (3 : U32) = 3 &&& kEptPermissionReadWrite), owner, rfl⟩
  second := ⟨rfl, rfl, rfl, rfl, by decide, by decide, rfl⟩
  l1Valid := l1Valid
  rootValid := by decide +kernel
  l1DmaValid := l1DmaValid
  rootDmaValid := by decide +kernel

/-- The guest owns the page, and both get through. -/
theorem cpu_device_agree_guest_page :
    SameAnswer (cpuPage 0x1000 0x2000 0) (cpuPage 0x2000 0x5000 0)
      (devicePage 0x1000 0x2000 0x2000 0) (devicePage 0x2000 0x2000 0x5000 0) 0x1ABC .Read :=
  (cpu_device_agree_iff
    (samePages 0 0 (by decide) (by decide +kernel) (by decide +kernel))).mpr
    (fun owned => owned.1 (by decide))

/-- The host owns the page that the first level maps: the processor gets
through and the device does not. -/
theorem cpu_reaches_host_page :
    SameMappings (cpuPage 0x1000 0x2000 kEptMappingFlagHostOwned) (cpuPage 0x2000 0x5000 0)
        (devicePage 0x1000 0x2000 0x2000 kIommuMappingHostOwned)
        (devicePage 0x2000 0x2000 0x5000 0) ∧
      ¬SameAnswer (cpuPage 0x1000 0x2000 kEptMappingFlagHostOwned) (cpuPage 0x2000 0x5000 0)
        (devicePage 0x1000 0x2000 0x2000 kIommuMappingHostOwned)
        (devicePage 0x2000 0x2000 0x5000 0) 0x1ABC .Read := by
  refine ⟨samePages kEptMappingFlagHostOwned kIommuMappingHostOwned (by decide)
    (by decide +kernel) (by decide +kernel), fun answer => ?_⟩
  exact absurd (answer.hit.mp (by decide +kernel)) (by decide +kernel)

end Knhv.Iommu
