import Knhv.Lib.Masks
import Knhv.Nested.Vmcs02

namespace Knhv.Vmcs02

open Knhv.Nested MaskMerge

/-- The five control words, which the builder treats alike. -/
inductive ControlWord
  | Pin | Primary | Secondary | Exit | Entry
  deriving DecidableEq

def Vmcs12Model.control (model : Vmcs12Model) : ControlWord → U32
  | .Pin => model.pinControls
  | .Primary => model.primaryControls
  | .Secondary => model.secondaryControls
  | .Exit => model.exitControls
  | .Entry => model.entryControls

def Vmcs02Image.control (image : Vmcs02Image) : ControlWord → U32
  | .Pin => image.pinControls
  | .Primary => image.primaryControls
  | .Secondary => image.secondaryControls
  | .Exit => image.exitControls
  | .Entry => image.entryControls

def Vmcs02Policy.required (policy : Vmcs02Policy) : ControlWord → U32
  | .Pin => policy.requiredPinControls
  | .Primary => policy.requiredPrimaryControls
  | .Secondary => policy.requiredSecondaryControls
  | .Exit => policy.requiredExitControls
  | .Entry => policy.requiredEntryControls

def Vmcs02Policy.forbidden (policy : Vmcs02Policy) : ControlWord → U32
  | .Pin => policy.forbiddenPinControls
  | .Primary => policy.forbiddenPrimaryControls
  | .Secondary => policy.forbiddenSecondaryControls
  | .Exit => policy.forbiddenExitControls
  | .Entry => policy.forbiddenEntryControls

def allowed0 (capabilities : NestedCapabilities) : ControlWord → U32
  | .Pin => capabilities.pinAllowed0
  | .Primary => capabilities.primaryAllowed0
  | .Secondary => capabilities.secondaryAllowed0
  | .Exit => capabilities.exitAllowed0
  | .Entry => capabilities.entryAllowed0

def allowed1 (capabilities : NestedCapabilities) : ControlWord → U32
  | .Pin => capabilities.pinAllowed1
  | .Primary => capabilities.primaryAllowed1
  | .Secondary => capabilities.secondaryAllowed1
  | .Exit => capabilities.exitAllowed1
  | .Entry => capabilities.entryAllowed1

/-- The bit that the builder adds of its own. -/
def activation (secondaryControls : U32) : ControlWord → U32
  | .Primary => if secondaryControls = 0 then 0 else kVmcs02PrimaryActivateSecondary
  | _ => 0

/-- What the control words of a merged image are made of. -/
structure WordsMerged (vmcs12 : Vmcs12Model) (capabilities : NestedCapabilities)
    (policy : Vmcs02Policy) (image : Vmcs02Image) : Prop where
  requested : ∀ word, vmcs12.control word &&& ~~~image.control word = 0
  fits : ∀ word, Fits (policy.required word) (policy.forbidden word) (allowed0 capabilities word)
    (allowed1 capabilities word) (image.control word)
  nothingElse : ∀ word, image.control word &&& ~~~(vmcs12.control word ||| policy.required word |||
    allowed0 capabilities word ||| activation image.secondaryControls word) = 0
  active : image.secondaryControls ≠ 0 →
    image.primaryControls &&& kVmcs02PrimaryActivateSecondary ≠ 0

/-- What a merged image is made of. -/
structure Merged (vmcs12 : Vmcs12Model) (capabilities : NestedCapabilities) (policy : Vmcs02Policy)
    (image : Vmcs02Image) : Prop extends WordsMerged vmcs12 capabilities policy image where
  guest : image.exceptionBitmap = vmcs12.exceptionBitmap ∧ image.guestCr0 = vmcs12.guestCr0 ∧
    image.guestCr3 = vmcs12.guestCr3 ∧ image.guestCr4 = vmcs12.guestCr4 ∧
    image.guestRip = vmcs12.guestRip ∧ image.guestRsp = vmcs12.guestRsp ∧
    image.guestRflags = vmcs12.guestRflags
  host : image.hostCr0 = policy.hostCr0 ∧ image.hostCr3 = policy.hostCr3 ∧
    image.hostCr4 = policy.hostCr4 ∧ image.hostRsp = policy.hostRsp ∧
    image.hostRip = policy.hostRip
  bitmaps : image.ioBitmapA = policy.ioBitmapA ∧ image.ioBitmapB = policy.ioBitmapB ∧
    image.msrBitmap = policy.msrBitmap
  eptPointer : image.eptPointer =
    if image.secondaryControls &&& kNestedSecondaryEnableEpt = 0 then 0
    else if policy.eptPointer = 0 then vmcs12.eptPointer else policy.eptPointer
  generation : image.generation = policy.generation

theorem adjustControl_eq_some_iff {requested required forbidden low high value : U32} :
    adjustControl requested required forbidden low high = some value ↔
      requested &&& ~~~high = 0 ∧ Fits required forbidden low high value ∧
        value = merge requested required low high := by
  unfold adjustControl
  constructor
  · intro adjusted
    split at adjusted
    · cases adjusted
    rename_i supported
    simp only [not_or, not_not] at supported
    dsimp only at adjusted
    split at adjusted
    · cases adjusted
    rename_i clear
    cases Option.some.inj adjusted
    exact ⟨supported.1, .of_merge supported.2.1 (not_not.mp clear), rfl⟩
  · rintro ⟨supported, fits, rfl⟩
    have clear := fits.forbidden
    rw [merge] at clear
    rw [if_neg (by simp [supported, fits.required_allowed, fits.required_forbidden])]
    simp [merge, clear]

theorem controlMatches_iff {value required forbidden low high : U32} :
    controlMatches value required forbidden low high = true ↔
      Fits required forbidden low high value := by
  rw [controlMatches, beq_iff_eq, adjustControl_eq_some_iff]
  exact ⟨fun adjusted => adjusted.2.1, fun fits => ⟨fits.allowed, fits, fits.merge_eq.symm⟩⟩

variable {vmcs12 : Vmcs12Model} {capabilities : NestedCapabilities} {policy : Vmcs02Policy}
  {image next : Vmcs02Image}

structure HeaderValid (image : Vmcs02Image) : Prop where
  size : image.size = sizeofVmcs02Image
  version : image.version = kVmcs02ModelVersion
  reserved : image.reserved = 0
  reserved2 : image.reserved2 = 0

theorem adjustControls_merges
    (adjusted : adjustControls vmcs12 capabilities policy emptyImage = (true, next)) :
    HeaderValid next ∧ next.eptPointer = 0 ∧ ∀ word, adjustControl (vmcs12.control word) (policy.required word)
      (policy.forbidden word) (allowed0 capabilities word) (allowed1 capabilities word) =
        some (next.control word) := by
  revert adjusted
  fun_cases adjustControls vmcs12 capabilities policy emptyImage with
  | case6 pin pinAdjusted first primary primaryAdjusted second secondary secondaryAdjusted third
      exit exitAdjusted fourth entry entryAdjusted =>
    intro adjusted
    cases (Prod.mk.inj adjusted).2
    refine ⟨⟨rfl, rfl, rfl, rfl⟩, rfl, fun word => ?_⟩
    cases word with
    | Pin => exact pinAdjusted
    | Primary => exact primaryAdjusted
    | Secondary => exact secondaryAdjusted
    | Exit => exact exitAdjusted
    | Entry => exact entryAdjusted
  | _ => exact nofun

/-- The adjusted words, with bits added to them that the policy and the
processor permit. -/
theorem wordsMerged_of_adjusted (extra : ControlWord → U32)
    (adjusted : ∀ word, adjustControl (vmcs12.control word) (policy.required word)
      (policy.forbidden word) (allowed0 capabilities word) (allowed1 capabilities word) =
        some (image.control word))
    (added : ∀ word, next.control word = image.control word ||| extra word)
    (clear : ∀ word, extra word &&& policy.forbidden word = 0)
    (allowed : ∀ word, extra word &&& ~~~allowed1 capabilities word = 0)
    (explained : ∀ word, extra word &&& ~~~activation next.secondaryControls word = 0)
    (active : next.secondaryControls ≠ 0 →
      next.primaryControls &&& kVmcs02PrimaryActivateSecondary ≠ 0) :
    WordsMerged vmcs12 capabilities policy next := by
  have parts word := adjustControl_eq_some_iff.mp (adjusted word)
  refine ⟨fun word => ?_, fun word => ?_, fun word => ?_, active⟩
  · obtain ⟨supported, -, merged⟩ := parts word
    rw [added word, merged]
    exact requested_inside supported
  · rw [added word]
    exact (parts word).2.1.or (clear word) (allowed word)
  · rw [added word, (parts word).2.2]
    exact merge_or_inside (explained word)

theorem WordsMerged.unchanged
    (adjusted : ∀ word, adjustControl (vmcs12.control word) (policy.required word)
      (policy.forbidden word) (allowed0 capabilities word) (allowed1 capabilities word) =
        some (image.control word))
    (active : image.secondaryControls ≠ 0 →
      image.primaryControls &&& kVmcs02PrimaryActivateSecondary ≠ 0) :
    WordsMerged vmcs12 capabilities policy image :=
  wordsMerged_of_adjusted (fun _ => 0) adjusted (fun _ => BitVec.or_zero.symm)
    (fun _ => BitVec.zero_and) (fun _ => BitVec.zero_and) (fun _ => BitVec.zero_and) active

theorem WordsMerged.activated
    (adjusted : ∀ word, adjustControl (vmcs12.control word) (policy.required word)
      (policy.forbidden word) (allowed0 capabilities word) (allowed1 capabilities word) =
        some (image.control word))
    (used : image.secondaryControls ≠ 0)
    (possible : capabilities.primaryAllowed1 &&& kVmcs02PrimaryActivateSecondary ≠ 0)
    (clear : policy.forbiddenPrimaryControls &&& kVmcs02PrimaryActivateSecondary = 0) :
    WordsMerged vmcs12 capabilities policy
      { image with
        primaryControls := image.primaryControls ||| kVmcs02PrimaryActivateSecondary } := by
  refine wordsMerged_of_adjusted (activation image.secondaryControls) adjusted
    ?_ ?_ ?_ ?_ ?_
  · intro word
    cases word with
    | Primary =>
      show image.primaryControls ||| _ = image.primaryControls ||| activation _ _
      rw [activation, if_neg used]
    | _ => exact BitVec.or_zero.symm
  · intro word
    cases word with
    | Primary =>
      show activation _ _ &&& policy.forbiddenPrimaryControls = 0
      rw [activation, if_neg used, BitVec.and_comm, clear]
    | _ => exact BitVec.zero_and
  · intro word
    cases word with
    | Primary =>
      show activation _ _ &&& ~~~capabilities.primaryAllowed1 = 0
      rw [activation, if_neg used]
      exact Masks.twoPow_inside possible
    | _ => exact BitVec.zero_and
  · exact fun word => BitVec.and_not_self _
  · intro _
    have inside : kVmcs02PrimaryActivateSecondary &&&
        ~~~(image.primaryControls ||| kVmcs02PrimaryActivateSecondary) = 0 := by
      rw [BitVec.or_comm]
      exact inside_or_left _ _
    exact Masks.touches_of_inside inside (by decide)

theorem fillStates_status :
    (fillStates vmcs12 capabilities policy image).2.status =
      (fillStates vmcs12 capabilities policy image).1.value := by
  unfold fillStates
  split
  · rfl
  · rfl

theorem fillEptPointer_status :
    (fillEptPointer vmcs12 capabilities policy image).2.status =
      (fillEptPointer vmcs12 capabilities policy image).1.value := by
  fun_cases fillEptPointer vmcs12 capabilities policy image with
  | case1 => rfl
  | case2 => exact fillStates_status
  | case3 => rfl
  | case4 => exact fillStates_status

theorem fillStates_merged (words : WordsMerged vmcs12 capabilities policy image)
    (header : HeaderValid image)
    (pointer : image.eptPointer =
      if image.secondaryControls &&& kNestedSecondaryEnableEpt = 0 then 0
      else if policy.eptPointer = 0 then vmcs12.eptPointer else policy.eptPointer)
    (filled : fillStates vmcs12 capabilities policy image = (.Success, next)) :
    Merged vmcs12 capabilities policy next ∧ HeaderValid next ∧
      areHostAddressesValid capabilities policy = true ∧
      next.secondaryControls = image.secondaryControls ∧ next.eptPointer = image.eptPointer := by
  unfold fillStates at filled
  split at filled
  · cases filled
  rename_i valid
  cases (Prod.mk.inj filled).2
  refine ⟨⟨⟨words.requested, words.fits, words.nothingElse, words.active⟩, ?_, ?_, ?_, pointer, rfl⟩,
    ⟨header.size, header.version, header.reserved, header.reserved2⟩, by simpa using valid, rfl,
    rfl⟩
  · exact ⟨rfl, rfl, rfl, rfl, rfl, rfl, rfl⟩
  · exact ⟨rfl, rfl, rfl, rfl, rfl⟩
  · exact ⟨rfl, rfl, rfl⟩

theorem fillEptPointer_merged (words : WordsMerged vmcs12 capabilities policy image)
    (header : HeaderValid image) (blank : image.eptPointer = 0)
    (filled : fillEptPointer vmcs12 capabilities policy image = (.Success, next)) :
    Merged vmcs12 capabilities policy next ∧ HeaderValid next ∧
      areHostAddressesValid capabilities policy = true ∧
      (next.secondaryControls &&& kNestedSecondaryEnableEpt ≠ 0 →
        validateEptPointer next.eptPointer capabilities.maxPhysicalAddressBits = true) := by
  revert filled
  fun_cases fillEptPointer vmcs12 capabilities policy image with
  | case1 => exact nofun
  | case2 enabled rawEptp valid =>
    intro filled
    have pointed : WordsMerged vmcs12 capabilities policy { image with eptPointer := rawEptp } :=
      ⟨words.requested, words.fits, words.nothingElse, words.active⟩
    obtain ⟨merged, headed, host, -, pointer⟩ := fillStates_merged pointed
      ⟨header.size, header.version, header.reserved, header.reserved2⟩ (if_neg enabled).symm filled
    refine ⟨merged, headed, host, fun _ => ?_⟩
    rw [pointer]
    simpa using valid
  | case3 => exact nofun
  | case4 disabled =>
    intro filled
    obtain ⟨merged, headed, host, same, -⟩ := fillStates_merged words header
      (by rw [blank, if_pos (not_not.mp disabled)]) filled
    refine ⟨merged, headed, host, fun enabled => ?_⟩
    rw [same] at enabled
    exact absurd enabled disabled

theorem mergeVmcs02_status (vmcs12 : Vmcs12Model) (capabilities : NestedCapabilities)
    (policy : Vmcs02Policy) :
    (mergeVmcs02 vmcs12 capabilities policy).2.status =
      (mergeVmcs02 vmcs12 capabilities policy).1.value := by
  fun_cases mergeVmcs02 vmcs12 capabilities policy with
  | case5 => exact fillEptPointer_status
  | case6 => exact fillEptPointer_status
  | _ => rfl

/-- What a successful merge went through. -/
theorem mergeVmcs02_merged
    (merged : mergeVmcs02 vmcs12 capabilities policy = (.Success, image)) :
    isCapabilitiesContractValid capabilities = true ∧ isPolicyContractValid policy = true ∧
      isVmcs12ModelValid vmcs12 capabilities = true ∧
      Merged vmcs12 capabilities policy image ∧ HeaderValid image ∧
      areHostAddressesValid capabilities policy = true ∧
      (image.secondaryControls &&& kNestedSecondaryEnableEpt ≠ 0 →
        validateEptPointer image.eptPointer capabilities.maxPhysicalAddressBits = true) := by
  revert merged
  fun_cases mergeVmcs02 vmcs12 capabilities policy with
  | case5 contracts guest controlled adjusted inactive possible =>
    intro filled
    simp only [Bool.or_eq_true, Bool.not_eq_true', not_or, Bool.not_eq_false] at contracts guest
    obtain ⟨header, blank, words⟩ := adjustControls_merges adjusted
    obtain ⟨capable, clear⟩ := not_or.mp possible
    have activated := WordsMerged.activated words inactive.1 capable (not_not.mp clear)
    obtain ⟨merged, headed, host, pointed⟩ := fillEptPointer_merged activated
      ⟨header.size, header.version, header.reserved, header.reserved2⟩ blank filled
    exact ⟨contracts.1, contracts.2, guest, merged, headed, host, pointed⟩
  | case6 contracts guest controlled adjusted active =>
    intro filled
    simp only [Bool.or_eq_true, Bool.not_eq_true', not_or, Bool.not_eq_false] at contracts guest
    obtain ⟨header, blank, words⟩ := adjustControls_merges adjusted
    have unchanged := WordsMerged.unchanged words fun used inactive => active ⟨used, inactive⟩
    obtain ⟨merged, headed, host, pointed⟩ := fillEptPointer_merged unchanged header blank filled
    exact ⟨contracts.1, contracts.2, guest, merged, headed, host, pointed⟩
  | _ => exact nofun

/-- The validator accepts what the builder finishes. -/
theorem mergeVmcs02_valid (merged : mergeVmcs02 vmcs12 capabilities policy = (.Success, image)) :
    isVmcs02ImageValid (some image) (some capabilities) (some policy) = true := by
  have status : image.status = Vmcs02BuildStatus.value .Success := by
    have carried := mergeVmcs02_status vmcs12 capabilities policy
    rwa [merged] at carried
  obtain ⟨capable, asked, guestValid, parts, header, hostValid, pointed⟩ := mergeVmcs02_merged merged
  obtain ⟨-, cr0, cr3, cr4, rip, rsp, -⟩ := parts.guest
  obtain ⟨hostCr0, hostCr3, hostCr4, hostRsp, hostRip⟩ := parts.host
  have controls word := controlMatches_iff.mpr (parts.fits word)
  have pin := controls .Pin
  have primary := controls .Primary
  have secondary := controls .Secondary
  have exit := controls .Exit
  have entry := controls .Entry
  simp only [Vmcs02Image.control, Vmcs02Policy.required, Vmcs02Policy.forbidden, allowed0, allowed1]
    at pin primary secondary exit entry
  simp only [isVmcs12ModelValid, Bool.and_eq_true] at guestValid
  simp only [areHostAddressesValid, Bool.and_eq_true] at hostValid
  have sized : isVersionedSizeValid image.version image.size sizeofVmcs02Image = true := by
    rw [header.size, header.version]
    decide
  simpa [isVmcs02ImageValid, capable, asked, sized, status, header.reserved, header.reserved2,
    parts.generation, cr0, cr3, cr4, rip, rsp, hostCr0, hostCr3, hostCr4, hostRsp, hostRip, pin,
    primary, secondary, exit, entry, guestValid, hostValid, or_iff_not_imp_left]
    using And.intro parts.active pointed

theorem isVmcs02ImageValid_of_status {capabilities : Option NestedCapabilities}
    {policy : Option Vmcs02Policy} (failed : image.status ≠ Vmcs02BuildStatus.value .Success) :
    isVmcs02ImageValid (some image) capabilities policy = false := by
  cases capabilities with
  | none => rfl
  | some capable =>
    cases policy with
    | none => rfl
    | some asked => simp [isVmcs02ImageValid, failed]

theorem Vmcs02BuildStatus.value_eq_success_iff {status : Vmcs02BuildStatus} :
    status.value = Vmcs02BuildStatus.value .Success ↔ status = .Success := by
  cases status <;> decide

/-- The builder and the validator agree: a merged image is accepted, and is made
of what the guest and the policy ask for; any other image is rejected. -/
theorem buildVmcs02Model_sound (vmcs12 : Option Vmcs12Model)
    (capabilities : Option NestedCapabilities) (policy : Option Vmcs02Policy)
    (image : Option Vmcs02Image) :
    ((buildVmcs02Model vmcs12 capabilities policy image).1 = .Success →
      isVmcs02ImageValid (buildVmcs02Model vmcs12 capabilities policy image).2 capabilities policy =
          true ∧
        ∃ guest capable asked merged, vmcs12 = some guest ∧ capabilities = some capable ∧
          policy = some asked ∧
          (buildVmcs02Model vmcs12 capabilities policy image).2 = some merged ∧
          Merged guest capable asked merged) ∧
    ((buildVmcs02Model vmcs12 capabilities policy image).1 ≠ .Success →
      isVmcs02ImageValid (buildVmcs02Model vmcs12 capabilities policy image).2 capabilities policy =
        false) := by
  fun_cases buildVmcs02Model vmcs12 capabilities policy image with
  | case1 => exact ⟨nofun, fun _ => rfl⟩
  | case2 buffer guest capable asked =>
    constructor
    · intro success
      have built : mergeVmcs02 guest capable asked =
          (.Success, (mergeVmcs02 guest capable asked).2) := Prod.ext success rfl
      exact ⟨mergeVmcs02_valid built, guest, capable, asked, _, rfl, rfl, rfl, rfl,
        (mergeVmcs02_merged built).2.2.2.1⟩
    · intro failed
      have stopped : (mergeVmcs02 guest capable asked).2.status ≠
          Vmcs02BuildStatus.value .Success := by
        rw [mergeVmcs02_status]
        exact mt Vmcs02BuildStatus.value_eq_success_iff.mp failed
      exact isVmcs02ImageValid_of_status stopped
  | case3 =>
    refine ⟨nofun, fun _ => isVmcs02ImageValid_of_status ?_⟩
    decide

end Knhv.Vmcs02
