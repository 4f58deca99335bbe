import Knhv.Lib.Masks
import Knhv.Matrix.Vmx

namespace Knhv.Matrix

open VmxCapability

def sizeofVmxControlSet : U32 := 40

structure VmxControlSet where
  size : U32
  version : U32
  pinControls : U32
  primaryControls : U32
  secondaryControls : U32
  exitControls : U32
  entryControls : U32
  tertiaryControls : U64
  deriving DecidableEq

def VmxControlSet.zero : VmxControlSet := ⟨0, 0, 0, 0, 0, 0, 0, 0⟩

def isVmxControlValueAllowed (capability : VmxControlCapability) (value : U64) : Bool :=
  if !isVmxControlCapabilityValid capability then false
  else if isPair capability && value >>> 32 != 0 then false
  else value &&& ~~~capability.allowedOne == 0 &&
    value &&& capability.mandatoryOne == capability.mandatoryOne

/-- Whether a value could be normalised, and what is left in the output. -/
def normalizeVmxControlValue (capability : VmxControlCapability) (requested : U64) : Bool × U64 :=
  if !isVmxControlCapabilityValid capability || (isPair capability && requested >>> 32 != 0) ||
      requested &&& ~~~capability.allowedOne != 0 then
    (false, 0)
  else
    let normalized := (requested ||| capability.mandatoryOne) &&& capability.allowedOne
    (isVmxControlValueAllowed capability normalized, normalized)

namespace VmxCapability

/-- The value of one word, where it can be normalised. -/
def normalizeWord (capability : VmxControlCapability) (requested : U64) : Option U64 :=
  let (success, value) := normalizeVmxControlValue capability requested
  if success then some value else none

/-- The words one after the other: the first that fails ends it. -/
def normalizeWords (sample : VmxCapabilitySample) (requested : VmxControlSet) :
    Option VmxControlSet := do
  let pin ← normalizeWord sample.pinControls (requested.pinControls.setWidth 64)
  let primary ← normalizeWord sample.primaryControls (requested.primaryControls.setWidth 64)
  let secondary ← normalizeWord sample.secondaryControls (requested.secondaryControls.setWidth 64)
  let exit ← normalizeWord sample.exitControls (requested.exitControls.setWidth 64)
  let entry ← normalizeWord sample.entryControls (requested.entryControls.setWidth 64)
  let tertiary ← normalizeWord sample.tertiaryControls requested.tertiaryControls
  some {
    size := sizeofVmxControlSet
    version := kVmxCapabilityContractVersion
    pinControls := pin.setWidth 32
    primaryControls := primary.setWidth 32
    secondaryControls := secondary.setWidth 32
    exitControls := exit.setWidth 32
    entryControls := entry.setWidth 32
    tertiaryControls := tertiary }

/-- Every control that needs another one, or a capability, has it. -/
def dependenciesHold (sample : VmxCapabilitySample) (normalized : VmxControlSet) : Bool :=
  if normalized.secondaryControls != 0 &&
      normalized.primaryControls &&& kVmxPrimaryActivateSecondary == 0 then false
  else if normalized.tertiaryControls != 0 &&
      normalized.primaryControls &&& kVmxPrimaryActivateTertiary == 0 then false
  else if normalized.secondaryControls &&& kVmxSecondaryEnableEpt != 0 &&
      sample.eptVpidCap &&& kVmxEptVpidCapBasicEpt != kVmxEptVpidCapBasicEpt then false
  else !(normalized.secondaryControls &&& kVmxSecondaryEnableVpid != 0 &&
    sample.eptVpidCap &&& kVmxEptVpidCapInvvpid == 0)

end VmxCapability

/-- Whether a set could be normalised, and what is left in the output. -/
def normalizeVmxControlSet (sample : Option VmxCapabilitySample)
    (requested : Option VmxControlSet) : Bool × VmxControlSet :=
  match sample, requested with
  | some sample, some requested =>
    let ready := kVmxFeatureControlLock ||| kVmxFeatureControlVmxonOutsideSmx
    if !isVmxCapabilitySampleUsable sample ||
        !VmxCapability.isVersionedSizeValid requested.version requested.size sizeofVmxControlSet then
      (false, .zero)
    else if sample.featureControl &&& ready != ready then (false, .zero)
    else
      match normalizeWords sample requested with
      | none => (false, .zero)
      | some normalized =>
        if !dependenciesHold sample normalized then (false, .zero) else (true, normalized)
  | _, _ => (false, .zero)

inductive ControlWord
  | Pin | Primary | Secondary | Exit | Entry | Tertiary
  deriving DecidableEq, Repr

def VmxCapabilitySample.capability (sample : VmxCapabilitySample) :
    ControlWord → VmxControlCapability
  | .Pin => sample.pinControls
  | .Primary => sample.primaryControls
  | .Secondary => sample.secondaryControls
  | .Exit => sample.exitControls
  | .Entry => sample.entryControls
  | .Tertiary => sample.tertiaryControls

def VmxControlSet.word (controls : VmxControlSet) : ControlWord → U64
  | .Pin => controls.pinControls.setWidth 64
  | .Primary => controls.primaryControls.setWidth 64
  | .Secondary => controls.secondaryControls.setWidth 64
  | .Exit => controls.exitControls.setWidth 64
  | .Entry => controls.entryControls.setWidth 64
  | .Tertiary => controls.tertiaryControls

/-- What one control of a set needs of the others and of the processor. -/
structure Dependent (sample : VmxCapabilitySample) (controls : VmxControlSet) : Prop where
  secondary : controls.secondaryControls ≠ 0 →
    controls.primaryControls &&& kVmxPrimaryActivateSecondary ≠ 0
  tertiary : controls.tertiaryControls ≠ 0 →
    controls.primaryControls &&& kVmxPrimaryActivateTertiary ≠ 0
  ept : controls.secondaryControls &&& kVmxSecondaryEnableEpt ≠ 0 →
    sample.eptVpidCap &&& kVmxEptVpidCapBasicEpt = kVmxEptVpidCapBasicEpt
  vpid : controls.secondaryControls &&& kVmxSecondaryEnableVpid ≠ 0 →
    sample.eptVpidCap &&& kVmxEptVpidCapInvvpid ≠ 0

/-- The least legal set that contains a request. -/
structure LeastLegal (sample : VmxCapabilitySample) (requested normalized : VmxControlSet) :
    Prop where
  allowed : ∀ word, isVmxControlValueAllowed (sample.capability word) (normalized.word word) = true
  filled : ∀ word,
    normalized.word word = requested.word word ||| (sample.capability word).mandatoryOne
  least : ∀ word legal, isVmxControlValueAllowed (sample.capability word) legal = true →
    requested.word word &&& ~~~legal = 0 → normalized.word word &&& ~~~legal = 0
  again : normalizeVmxControlSet (some sample) (some normalized) = (true, normalized)
  dependent : Dependent sample normalized
  kept : ∀ word, isVmxControlValueAllowed (sample.capability word) (requested.word word) = true →
    normalized.word word = requested.word word

variable {capability : VmxControlCapability} {sample : VmxCapabilitySample}
  {requested normalized : VmxControlSet} {value result : U64}

/-- A value is legal iff it lies between the mandatory and the allowed bits. -/
structure Legal (capability : VmxControlCapability) (value : U64) : Prop where
  valid : isVmxControlCapabilityValid capability = true
  pair : isPair capability = true → value >>> 32 = 0
  inside : value &&& ~~~capability.allowedOne = 0
  mandatory : value &&& capability.mandatoryOne = capability.mandatoryOne

theorem legal_iff : isVmxControlValueAllowed capability value = true ↔ Legal capability value := by
  unfold isVmxControlValueAllowed
  constructor
  · intro allowed
    split at allowed
    · cases allowed
    rename_i valid
    split at allowed
    · cases allowed
    rename_i pair
    simp only [Bool.not_eq_true', Bool.not_eq_false, Bool.and_eq_true, bne_iff_ne, not_and,
      not_not, beq_iff_eq] at valid pair allowed
    exact ⟨valid, pair, allowed.1, allowed.2⟩
  · rintro ⟨valid, pair, inside, mandatory⟩
    rw [valid, inside, mandatory, if_neg (by decide), if_neg, beq_self_eq_true, beq_self_eq_true]
    · rfl
    · simp only [Bool.and_eq_true, bne_iff_ne, not_and, not_not]
      exact pair

/-- The mandatory bits of a valid capability are allowed ones. -/
theorem mandatory_inside (valid : isVmxControlCapabilityValid capability = true) :
    capability.mandatoryOne &&& ~~~capability.allowedOne = 0 := by
  unfold isVmxControlCapabilityValid at valid
  split at valid
  · cases valid
  split at valid
  · simp only [Bool.and_eq_true, beq_iff_eq] at valid
    exact valid.2
  · rw [Bool.and_eq_true, beq_iff_eq] at valid
    rw [valid.2]
    exact BitVec.zero_and

/-- A word is normalised to the request with the mandatory bits, which is legal. -/
theorem normalizeWord_some (success : normalizeWord capability value = some result) :
    result = value ||| capability.mandatoryOne ∧ Legal capability result := by
  unfold normalizeWord at success
  dsimp only at success
  split at success
  · rename_i passed
    cases success
    unfold normalizeVmxControlValue at passed ⊢
    split at passed
    · cases passed
    rename_i checked
    rw [if_neg checked]
    refine ⟨?_, legal_iff.mp passed⟩
    simp only [Bool.or_eq_true, Bool.not_eq_true', bne_iff_ne, not_or, not_not,
      Bool.not_eq_false] at checked
    refine Masks.and_eq_self ?_
    rw [BitVec.and_or_distrib_right, checked.2, mandatory_inside checked.1.1]
    rfl
  · cases success

/-- A legal word is its own normal form. -/
theorem normalizeWord_legal (legal : Legal capability value) :
    normalizeWord capability value = some value := by
  have whole : (value ||| capability.mandatoryOne) &&& capability.allowedOne = value := by
    rw [Masks.or_eq_self legal.mandatory]
    exact Masks.and_eq_self legal.inside
  have checked : ¬(!isVmxControlCapabilityValid capability ||
      (isPair capability && value >>> 32 != 0) || value &&& ~~~capability.allowedOne != 0) = true := by
    simp only [Bool.or_eq_true, Bool.not_eq_true', Bool.and_eq_true, bne_iff_ne, not_or, not_and,
      not_not, Bool.not_eq_false]
    exact ⟨⟨legal.valid, legal.pair⟩, legal.inside⟩
  simp only [normalizeWord, normalizeVmxControlValue, if_neg checked, whole,
    legal_iff.mpr legal, if_true]

/-- What a usable sample holds. -/
structure SampleSound (sample : VmxCapabilitySample) : Prop where
  generation : sample.generation ≠ 0
  valid : ∀ word, isVmxControlCapabilityValid (sample.capability word) = true
  pair : ∀ word, word ≠ .Tertiary → isPair (sample.capability word) = true
  tertiary : isAllowedOne64 sample.tertiaryControls = true

theorem sampleSound_of_usable (usable : isVmxCapabilitySampleUsable sample = true) :
    SampleSound sample := by
  rw [isVmxCapabilitySampleUsable, Bool.and_eq_true] at usable
  obtain ⟨valid, collected⟩ := usable
  unfold isVmxCapabilitySampleValid at valid
  split at valid
  · cases valid
  dsimp only at valid
  split at valid
  · cases valid
  rename_i statuses
  split at valid
  · rename_i failed
    rw [collected, failed] at statuses
    exact absurd rfl statuses
  split at valid
  · cases valid
  rename_i fields
  simp only [Bool.or_eq_true, Bool.not_eq_true', not_or, Bool.not_eq_false] at fields
  simp only [Bool.not_eq_true', Bool.or_eq_false_iff, Bool.not_eq_false'] at valid
  obtain ⟨⟨⟨⟨⟨⟨⟨⟨⟨⟨⟨generation, _⟩, pin⟩, primary⟩, secondary⟩, tertiary⟩, exit⟩, entry⟩, _⟩, _⟩, _⟩, _⟩ :=
    fields
  obtain ⟨⟨⟨⟨⟨pinPair, primaryPair⟩, secondaryPair⟩, tertiary64⟩, exitPair⟩, entryPair⟩ := valid
  refine ⟨fun h => generation (beq_iff_eq.mpr h), fun word => ?_, fun word other => ?_, tertiary64⟩
  · cases word with
    | Pin => exact pin
    | Primary => exact primary
    | Secondary => exact secondary
    | Exit => exact exit
    | Entry => exact entry
    | Tertiary => exact tertiary
  · cases word with
    | Pin => exact pinPair
    | Primary => exact primaryPair
    | Secondary => exact secondaryPair
    | Exit => exact exitPair
    | Entry => exact entryPair
    | Tertiary => exact absurd rfl other

theorem narrow_word (legal : Legal capability value) (pair : isPair capability = true) :
    (value.setWidth 32).setWidth 64 = value := by
  have short := congrArg BitVec.toNat (legal.pair pair)
  rw [BitVec.toNat_ushiftRight, Nat.shiftRight_eq_div_pow] at short
  apply BitVec.eq_of_toNat_eq
  have zero : (0 : U64).toNat = 0 := rfl
  have bound := value.isLt
  simp only [BitVec.toNat_setWidth]
  omega

/-- Every word of a normalised set is normalised on its own. -/
theorem normalizeWords_some (sound : SampleSound sample)
    (success : normalizeWords sample requested = some normalized) :
    normalized.size = sizeofVmxControlSet ∧ normalized.version = kVmxCapabilityContractVersion ∧
      ∀ word, normalizeWord (sample.capability word) (requested.word word) =
        some (normalized.word word) := by
  simp only [normalizeWords, Option.bind_eq_bind, Option.bind_eq_some_iff, Option.some.injEq]
    at success
  obtain ⟨pin, atPin, primary, atPrimary, secondary, atSecondary, exit, atExit, entry, atEntry,
    tertiary, atTertiary, rfl⟩ := success
  have whole (word : ControlWord) {request result : U64} (short : word ≠ .Tertiary)
      (success : normalizeWord (sample.capability word) request = some result) :
      normalizeWord (sample.capability word) request = some ((result.setWidth 32).setWidth 64) := by
    rw [narrow_word (normalizeWord_some success).2 (sound.pair word short)]
    exact success
  refine ⟨rfl, rfl, fun word => ?_⟩
  cases word with
  | Pin => exact whole .Pin (by decide) atPin
  | Primary => exact whole .Primary (by decide) atPrimary
  | Secondary => exact whole .Secondary (by decide) atSecondary
  | Exit => exact whole .Exit (by decide) atExit
  | Entry => exact whole .Entry (by decide) atEntry
  | Tertiary => exact atTertiary

/-- A set whose words are all normal is its own normal form. -/
theorem normalizeWords_fixed (size : normalized.size = sizeofVmxControlSet)
    (version : normalized.version = kVmxCapabilityContractVersion)
    (fixed : ∀ word, normalizeWord (sample.capability word) (normalized.word word) =
      some (normalized.word word)) :
    normalizeWords sample normalized = some normalized := by
  have narrow (word : U32) : (word.setWidth 64).setWidth 32 = word := by simp
  have pin : normalizeWord sample.pinControls (normalized.pinControls.setWidth 64) = some _ :=
    fixed .Pin
  have primary : normalizeWord sample.primaryControls (normalized.primaryControls.setWidth 64) =
    some _ := fixed .Primary
  have secondary : normalizeWord sample.secondaryControls
    (normalized.secondaryControls.setWidth 64) = some _ := fixed .Secondary
  have exit : normalizeWord sample.exitControls (normalized.exitControls.setWidth 64) = some _ :=
    fixed .Exit
  have entry : normalizeWord sample.entryControls (normalized.entryControls.setWidth 64) =
    some _ := fixed .Entry
  have tertiary : normalizeWord sample.tertiaryControls normalized.tertiaryControls = some _ :=
    fixed .Tertiary
  simp only [normalizeWords, pin, primary, secondary, exit, entry, tertiary, Option.bind_eq_bind,
    Option.bind_some, VmxControlSet.word, narrow, ← size, ← version]

theorem dependent_iff : dependenciesHold sample normalized = true ↔ Dependent sample normalized := by
  unfold dependenciesHold
  constructor
  · intro holds
    split at holds
    · cases holds
    rename_i secondary
    split at holds
    · cases holds
    rename_i tertiary
    split at holds
    · cases holds
    rename_i ept
    simp only [Bool.and_eq_true, bne_iff_ne, beq_iff_eq, not_and, not_not, Bool.not_eq_true',
      Bool.and_eq_false_imp, beq_eq_false_iff_ne] at secondary tertiary ept holds
    exact ⟨secondary, tertiary, ept, holds⟩
  · rintro ⟨secondary, tertiary, ept, vpid⟩
    rw [if_neg, if_neg, if_neg]
    all_goals
      simp only [Bool.and_eq_true, bne_iff_ne, beq_iff_eq, not_and, not_not, Bool.not_eq_true',
        Bool.and_eq_false_imp, beq_eq_false_iff_ne]
      assumption

/-- Everything that a set which is normalised has passed. -/
structure Passed (sample : VmxCapabilitySample) (requested normalized : VmxControlSet) : Prop where
  usable : isVmxCapabilitySampleUsable sample = true
  ready : sample.featureControl &&& (kVmxFeatureControlLock ||| kVmxFeatureControlVmxonOutsideSmx) =
    kVmxFeatureControlLock ||| kVmxFeatureControlVmxonOutsideSmx
  words : normalizeWords sample requested = some normalized
  dependent : dependenciesHold sample normalized = true

theorem normalizeVmxControlSet_cases (sample : VmxCapabilitySample) (requested : VmxControlSet) :
    (∃ normalized, normalizeVmxControlSet (some sample) (some requested) = (true, normalized) ∧
      Passed sample requested normalized) ∨
    normalizeVmxControlSet (some sample) (some requested) = (false, .zero) := by
  unfold normalizeVmxControlSet
  dsimp only
  split
  · exact .inr rfl
  rename_i usable
  split
  · exact .inr rfl
  rename_i ready
  split
  · exact .inr rfl
  rename_i normalized words
  split
  · exact .inr rfl
  rename_i dependent
  simp only [Bool.or_eq_true, Bool.not_eq_true', not_or, Bool.not_eq_false, bne_iff_ne, not_not]
    at usable ready dependent
  exact .inl ⟨normalized, rfl, usable.1, ready, words, dependent⟩

theorem normalizeVmxControlSet_again (passed : Passed sample normalized normalized)
    (size : normalized.size = sizeofVmxControlSet)
    (version : normalized.version = kVmxCapabilityContractVersion) :
    normalizeVmxControlSet (some sample) (some normalized) = (true, normalized) := by
  have versioned : VmxCapability.isVersionedSizeValid normalized.version normalized.size
      sizeofVmxControlSet = true := by
    rw [size, version]
    decide
  simp [normalizeVmxControlSet, passed.usable, versioned, passed.ready, passed.words,
    passed.dependent]

theorem or_inside_legal {request mandatory legal : U64} (contains : request &&& ~~~legal = 0)
    (has : legal &&& mandatory = mandatory) : (request ||| mandatory) &&& ~~~legal = 0 := by
  have inside : mandatory &&& ~~~legal = 0 := by
    rw [← has, BitVec.and_comm legal, BitVec.and_assoc, BitVec.and_not_self]
    exact BitVec.and_zero
  rw [BitVec.and_or_distrib_right, contains, inside]
  rfl

/-- What passes is the least legal extension of the request. -/
theorem Passed.leastLegal (passed : Passed sample requested normalized) :
    LeastLegal sample requested normalized := by
  obtain ⟨size, version, words⟩ := normalizeWords_some (sampleSound_of_usable passed.usable)
    passed.words
  have filled (word : ControlWord) : normalized.word word =
      requested.word word ||| (sample.capability word).mandatoryOne :=
    (normalizeWord_some (words word)).1
  have legal (word : ControlWord) : Legal (sample.capability word) (normalized.word word) :=
    (normalizeWord_some (words word)).2
  have fixed := normalizeWords_fixed size version fun word => normalizeWord_legal (legal word)
  refine ⟨fun word => legal_iff.mpr (legal word), filled, fun word other allowed contains => ?_,
    normalizeVmxControlSet_again ⟨passed.usable, passed.ready, fixed, passed.dependent⟩ size
      version, dependent_iff.mp passed.dependent, fun word allowed => ?_⟩
  · rw [filled]
    exact or_inside_legal contains (legal_iff.mp allowed).mandatory
  · have own := normalizeWord_legal (legal_iff.mp allowed)
    rw [words word] at own
    exact Option.some.inj own

/-- A set is normalised to its least legal extension, or to nothing. -/
theorem normalizeVmxControlSet_least (sample : VmxCapabilitySample) (requested : VmxControlSet) :
    ((normalizeVmxControlSet (some sample) (some requested)).1 = true →
      LeastLegal sample requested (normalizeVmxControlSet (some sample) (some requested)).2) ∧
    ((normalizeVmxControlSet (some sample) (some requested)).1 = false →
      (normalizeVmxControlSet (some sample) (some requested)).2 = .zero) := by
  rcases normalizeVmxControlSet_cases sample requested with ⟨normalized, result, passed⟩ | result
  · rw [result]
    exact ⟨fun _ => passed.leastLegal, fun fails => absurd fails Bool.noConfusion⟩
  · rw [result]
    exact ⟨fun success => absurd success Bool.noConfusion, fun _ => rfl⟩

end Knhv.Matrix
