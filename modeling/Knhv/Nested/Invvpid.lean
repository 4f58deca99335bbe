import Knhv.Nested.FieldRoundTrip
import Knhv.Vpid.Model

namespace Knhv.Nested

open Knhv.Vpid (isShootdownPayloadValid isVpidValueValid isShootdownTypeValid kTypeSingleAddress
  kTypeSingleContext kTypeAllContext kTypeSingleContextRetainGlobals kVpidMaximum)

variable {σ : Type}

/-- The descriptors that the VPID model admits for a type: the type that
flushes all contexts carries no VPID, and one type carries an address. -/
structure ModelAdmits (capabilities : NestedCapabilities) (type : U32) (vpid linearAddress : U64) :
    Prop where
  context : if type = kTypeAllContext then isShootdownPayloadValid type 0 = true
    else isShootdownPayloadValid type (vpid.setWidth 32) = true ∧
      vpid ≤ capabilities.vpidCount.setWidth 64
  address : type = kTypeSingleAddress →
    isCanonicalAddress linearAddress capabilities.linearAddressBits = true

/-- What the emulation asks of a descriptor. -/
def Emulates (capabilities : NestedCapabilities) (type : U32) (vpid linearAddress : U64) : Prop :=
  vpid ≠ 0 ∧ vpid ≤ capabilities.vpidCount.setWidth 64 ∧ type ≤ 3 ∧
    (type = 0 ∨ type = 2 → isCanonicalAddress linearAddress capabilities.linearAddressBits = true)

/-- The descriptors on which the emulation and the VPID model agree. -/
def Agreed (capabilities : NestedCapabilities) (type : U32) (vpid linearAddress : U64) : Prop :=
  if type = kTypeAllContext then
    vpid ≠ 0 ∧ vpid ≤ capabilities.vpidCount.setWidth 64 ∧
      isCanonicalAddress linearAddress capabilities.linearAddressBits = true
  else
    3 < type ∨ vpid ≤ kVpidMaximum.setWidth 64 ∨ capabilities.vpidCount.setWidth 64 < vpid ∨
      (type = kTypeSingleAddress ∧
        isCanonicalAddress linearAddress capabilities.linearAddressBits = false)

theorem makeVmfail_status (vcpu : NestedVcpu σ) {status : HvStatus} (error length : U32) :
    (makeVmfail vcpu status error length).1.status = status := by
  unfold makeVmfail
  split
  · rfl
  · rfl

/-- A descriptor that has been read is taken exactly if it passes the checks of
the emulation. -/
theorem emulateInvvpid_success_iff {vcpu : NestedVcpu σ} {instruction : VmxInstruction}
    {vpid linearAddress : U64} (supported : vcpu.capabilities.featureBits &&& kCapVpid ≠ 0)
    (read : (readDescriptor vcpu instruction).1 = some (vpid, linearAddress)) :
    (emulateInvvpid vcpu instruction).1.status = .Success ↔
      Emulates vcpu.capabilities instruction.descriptorType vpid linearAddress := by
  obtain ⟨context, described⟩ : ∃ context,
      readDescriptor vcpu instruction = (some (vpid, linearAddress), context) :=
    ⟨(readDescriptor vcpu instruction).2, Prod.ext read rfl⟩
  have same : (vcpu.withContext context).capabilities = vcpu.capabilities := rfl
  simp only [emulateInvvpid, if_neg supported, described, same]
  split
  · rename_i refused
    rw [makeVmfail_status]
    refine iff_of_false nofun fun emulates => ?_
    obtain ⟨named, counted, typed, canonical⟩ := emulates
    rcases refused with zero | above | unknown | ⟨carries, outside⟩
    · exact named zero
    · exact BitVec.not_lt.mpr counted above
    · exact BitVec.not_lt.mpr typed unknown
    · rw [canonical carries] at outside
      cases outside
  · rename_i accepted
    simp only [not_or, not_and, BitVec.not_lt] at accepted
    obtain ⟨named, counted, typed, canonical⟩ := accepted
    exact iff_of_true rfl ⟨named, counted, typed, fun carries => by simpa using canonical carries⟩

theorem isShootdownPayloadValid_iff {type vpid : U32} :
    isShootdownPayloadValid type vpid = true ↔
      type ≤ 3 ∧ if type = kTypeAllContext then vpid = 0 else isVpidValueValid vpid = true := by
  by_cases known : type ≤ 3
  · have named : type = kTypeSingleAddress ∨ type = kTypeSingleContext ∨ type = kTypeAllContext ∨
        type = kTypeSingleContextRetainGlobals := by
      show type = 0#32 ∨ type = 1#32 ∨ type = 2#32 ∨ type = 3#32
      bv_omega
    rcases named with rfl | rfl | rfl | rfl <;>
      simp [isShootdownPayloadValid, isShootdownTypeValid, kTypeSingleAddress, kTypeSingleContext,
        kTypeSingleContextRetainGlobals, kTypeAllContext]
  · have invalid : isShootdownTypeValid type = false := decide_eq_false known
    refine iff_of_false ?_ fun typed => known typed.1
    simp [isShootdownPayloadValid, invalid]

theorem isVpidValueValid_setWidth {limit : U32} {vpid : U64} (counted : vpid ≤ limit.setWidth 64) :
    isVpidValueValid (vpid.setWidth 32) = true ↔ vpid ≠ 0 ∧ vpid ≤ kVpidMaximum.setWidth 64 := by
  have fits : (vpid.setWidth 32).toNat = vpid.toNat := by
    have bound := limit.isLt
    have below : vpid.toNat ≤ (limit.setWidth 64).toNat := counted
    rw [BitVec.toNat_setWidth_of_le (by decide)] at below
    rw [BitVec.toNat_setWidth, Nat.mod_eq_of_lt (by omega)]
  have zero : vpid ≠ 0 ↔ 1 ≤ vpid.toNat := by
    rw [ne_eq, BitVec.toNat_eq]
    show ¬vpid.toNat = 0 ↔ _
    omega
  rw [zero]
  simp only [isVpidValueValid, Bool.and_eq_true, decide_eq_true_eq, BitVec.le_def, fits]
  rfl

/-- The all-context type: the model takes every descriptor. -/
theorem ModelAdmits.of_allContext (capabilities : NestedCapabilities) (vpid linearAddress : U64) :
    ModelAdmits capabilities kTypeAllContext vpid linearAddress :=
  ⟨(if_pos rfl).mpr (by decide), fun other => absurd other (by decide)⟩

theorem ModelAdmits.iff_of_vpid {capabilities : NestedCapabilities} {type : U32}
    {vpid linearAddress : U64} (carries : type ≠ kTypeAllContext) :
    ModelAdmits capabilities type vpid linearAddress ↔
      Emulates capabilities type vpid linearAddress ∧ vpid ≤ kVpidMaximum.setWidth 64 := by
  constructor
  · rintro ⟨context, address⟩
    rw [if_neg carries, isShootdownPayloadValid_iff, if_neg carries] at context
    obtain ⟨⟨known, valid⟩, counted⟩ := context
    obtain ⟨named, wide⟩ := (isVpidValueValid_setWidth counted).mp valid
    refine ⟨⟨named, counted, known, ?_⟩, wide⟩
    rintro (single | all)
    · exact address single
    · exact absurd all carries
  · rintro ⟨⟨named, counted, known, canonical⟩, wide⟩
    refine ⟨?_, fun single => canonical (.inl single)⟩
    rw [if_neg carries, isShootdownPayloadValid_iff, if_neg carries]
    exact ⟨⟨known, (isVpidValueValid_setWidth counted).mpr ⟨named, wide⟩⟩, counted⟩

/-- The emulation and the VPID model agree on a descriptor exactly under
`Agreed`. The emulation checks the VPID and the address of an all-context
flush, and no bound of the model limits the configured number of VPIDs. -/
theorem emulateInvvpid_agrees_iff {vcpu : NestedVcpu σ} {instruction : VmxInstruction}
    {vpid linearAddress : U64} (supported : vcpu.capabilities.featureBits &&& kCapVpid ≠ 0)
    (read : (readDescriptor vcpu instruction).1 = some (vpid, linearAddress)) :
    ((emulateInvvpid vcpu instruction).1.status = .Success ↔
        ModelAdmits vcpu.capabilities instruction.descriptorType vpid linearAddress) ↔
      Agreed vcpu.capabilities instruction.descriptorType vpid linearAddress := by
  rw [emulateInvvpid_success_iff supported read]
  unfold Agreed
  split
  · rename_i all
    have admitted := ModelAdmits.of_allContext vcpu.capabilities vpid linearAddress
    rw [all, iff_true_right admitted]
    constructor
    · rintro ⟨named, counted, -, canonical⟩
      exact ⟨named, counted, canonical (.inr rfl)⟩
    · rintro ⟨named, counted, canonical⟩
      exact ⟨named, counted, by decide, fun _ => canonical⟩
  · rename_i carries
    rw [ModelAdmits.iff_of_vpid carries]
    constructor
    · intro agree
      by_contra apart
      simp only [not_or, not_and, BitVec.not_lt, BitVec.not_le, Bool.not_eq_false] at apart
      obtain ⟨known, above, counted, canonical⟩ := apart
      have named : vpid ≠ 0 := by
        rintro rfl
        exact absurd above (by decide)
      have emulates : Emulates vcpu.capabilities instruction.descriptorType vpid linearAddress :=
        ⟨named, counted, known, fun type => type.elim canonical fun all => absurd all carries⟩
      exact BitVec.not_le.mpr above (agree.mp emulates).2
    · intro agreed
      refine ⟨fun emulates => ⟨emulates, ?_⟩, And.left⟩
      obtain ⟨named, counted, known, canonical⟩ := emulates
      rcases agreed with unknown | wide | above | ⟨single, outside⟩
      · exact absurd known (BitVec.not_le.mpr unknown)
      · exact wide
      · exact absurd counted (BitVec.not_le.mpr above)
      · rw [canonical (.inl single)] at outside
        cases outside

/-- INVVPID with its descriptor inline. -/
def invvpidOf (type : U32) (vpid linearAddress : U64) : VmxInstruction :=
  { vmxOperands .Invvpid 0 with
    flags := kDescriptorIsInline, descriptorType := type, descriptor := vpid,
    destination := linearAddress }

theorem emulateInvvpid_agrees_individual :
    ((emulateInvvpid loadedVcpu (invvpidOf 0 5 0x1000)).1.status = .Success ↔
        ModelAdmits loadedVcpu.capabilities 0 5 0x1000) ↔
      Agreed loadedVcpu.capabilities 0 5 0x1000 :=
  emulateInvvpid_agrees_iff (by decide +kernel) rfl

/-- A flush of all contexts with VPID 0 is refused. -/
theorem allContext_refused :
    loadedVcpu.vmxonActive = true ∧ loadedVcpu.capabilities.featureBits &&& kCapVpid ≠ 0 ∧
      (readDescriptor loadedVcpu (invvpidOf 2 0 0)).1 = some (0, 0) ∧
      ModelAdmits loadedVcpu.capabilities 2 0 0 ∧
      (emulateInvvpid loadedVcpu (invvpidOf 2 0 0)).1.status = .VmfailInvalid :=
  ⟨by decide +kernel, by decide +kernel, rfl, .of_allContext _ 0 0, by decide +kernel⟩

end Knhv.Nested
