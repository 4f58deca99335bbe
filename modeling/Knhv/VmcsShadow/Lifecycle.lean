import Knhv.Lib.Guarded
import Knhv.Lib.Run
import Knhv.VmcsShadow.Access
import Knhv.VmcsShadow.Image

namespace Knhv.VmcsShadow

open Knhv.Nested (FieldRulePtr fieldRule findFieldRule)

/-- A call on a shadow image, with whatever the caller passes. -/
inductive ShadowInput
  | begin (capabilities : Option VmcsShadowCapabilities) (config : Option VmcsShadowConfig)
  | clear (generation : U64)
  | rebind (capabilities : Option VmcsShadowCapabilities) (config : Option VmcsShadowConfig)
      (expectedGeneration : U64)
  | quarantine (generation : U64)
  | access (capabilities : Option VmcsShadowCapabilities) (config : Option VmcsShadowConfig)
      (given : Option VmcsShadowAccess) (generation : U64) (wanted : Bool)

def shadowStep (image : VmcsShadowImage) : ShadowInput → VmcsShadowImage
  | .begin capabilities config => (beginVmcsShadow capabilities config).2
  | .clear generation => (clearVmcsShadow image generation).2
  | .rebind capabilities config expectedGeneration =>
    (rebindVmcsShadow capabilities config expectedGeneration image).2
  | .quarantine generation => (quarantineVmcsShadow image generation).2
  | .access capabilities config given generation wanted =>
    (applyVmcsShadowAccess capabilities config image given generation wanted).2.2

/-- What a call does to the contents of the image, as its caller sees it. -/
inductive ShadowEvent
  | quiet
  | begun
  | beginFailed
  | rebound
  | wrote (slot : Fin kVmcsShadowMaxFields) (value : U64)

/-- The value of a write, cut to the width of the field it names. -/
def writtenValue (access : VmcsShadowAccess) : U64 :=
  match resolveField access with
  | none => 0
  | some rule => access.value &&& fieldMask (fieldRule rule)

def shadowEvent (image : VmcsShadowImage) : ShadowInput → ShadowEvent
  | .begin capabilities config =>
    if (beginVmcsShadow capabilities config).1 then .begun else .beginFailed
  | .rebind capabilities config expectedGeneration =>
    if (rebindVmcsShadow capabilities config expectedGeneration image).1 then .rebound else .quiet
  | .access capabilities config (some access) generation wanted =>
    if (applyVmcsShadowAccess capabilities config image (some access) generation wanted).1 = .Shadow ∧
        access.operation = kOperationWrite then
      .wrote (fieldSlot access.fieldIndex) (writtenValue access)
    else .quiet
  | _ => .quiet

/-- The last value written to each field since the last begin or rebind. -/
abbrev Journal := Fin kVmcsShadowMaxFields → Option U64

def Journal.next (journal : Journal) : ShadowEvent → Journal
  | .quiet => journal
  | .begun | .beginFailed | .rebound => fun _ => none
  | .wrote slot value => Function.update journal slot (some value)

def journal (events : List ShadowEvent) : Journal := events.foldl Journal.next fun _ => none

/-- Whether the last begin succeeded. A run starts with one that did. -/
def standing (events : List ShadowEvent) : Bool :=
  events.foldl (fun up event =>
    match event with
    | .begun => true
    | .beginFailed => false
    | _ => up) true

/-- The image as its history determines it: valid while a begin stands, all
zero after one that failed; the dirty bits and the fields are the journal. -/
structure ImageHolds (image : VmcsShadowImage) (events : List ShadowEvent) : Prop where
  valid : standing events = true → isVmcsShadowImageValid image = true
  void : standing events = false → image = VmcsShadowImage.zero
  dirty : ∀ slot, dirtyBit image slot = (journal events slot).isSome
  fields : ∀ slot, image.fields slot = (journal events slot).getD 0

/-- Everything a call can do to an image. -/
inductive ShadowEffect : ShadowEvent → VmcsShadowImage → VmcsShadowImage → Prop
  | quiet {image} : ShadowEffect .quiet image image
  | stopped {image state} : ImageValid image → isStateValid state = true → state ≠ kStateEmpty →
      ShadowEffect .quiet image { image with state := state }
  | begun {image capabilities config} : ImageValid (boundImage capabilities config) →
      ShadowEffect .begun image (boundImage capabilities config)
  | beginFailed {image} : ShadowEffect .beginFailed image VmcsShadowImage.zero
  | rebound {image capabilities config} : ImageValid image →
      image.generation < (boundImage capabilities config).generation →
      ImageValid (boundImage capabilities config) →
      ShadowEffect .rebound image (boundImage capabilities config)
  | wrote {image slot value} {rule : FieldRulePtr} : ImageValid image →
      slot.val < image.fieldCount.toNat → rule.val = slot.val →
      value &&& fieldMask (fieldRule rule) = value →
      ShadowEffect (.wrote slot value) image (storeField image slot value)

theorem clearVmcsShadow_guarded (image : VmcsShadowImage) (generation : U64) :
    Guarded image (fun new => ImageValid image ∧ new = { image with state := kStateCleared })
      (clearVmcsShadow image generation) := by
  unfold clearVmcsShadow
  split
  · exact Or.inl rfl
  · rename_i checks
    simp only [Bool.or_eq_true, Bool.not_eq_true', not_or, Bool.not_eq_false, bne_iff_ne, ne_eq,
      not_not] at checks
    have bound : image.state ≠ kStateEmpty := by
      rw [checks.1.1.2]
      decide
    exact Or.inr ⟨_, ⟨imageValid_iff.mpr ⟨checks.1.1.1, bound⟩, rfl⟩, rfl⟩

theorem quarantineVmcsShadow_guarded (image : VmcsShadowImage) (generation : U64) :
    Guarded image (fun new => ImageValid image ∧ new = { image with state := kStateQuarantined })
      (quarantineVmcsShadow image generation) := by
  unfold quarantineVmcsShadow
  split
  · exact Or.inl rfl
  · rename_i checks
    simp only [Bool.or_eq_true, Bool.not_eq_true', not_or, Bool.not_eq_false, Bool.and_eq_true,
      bne_iff_ne, ne_eq, not_and, not_not] at checks
    have bound : image.state ≠ kStateEmpty := by
      intro empty
      have cleared := checks.2 (by rw [empty]; decide)
      rw [empty] at cleared
      exact absurd cleared (by decide)
    exact Or.inr ⟨_, ⟨imageValid_iff.mpr ⟨checks.1.1.1, bound⟩, rfl⟩, rfl⟩

/-- The image of a successful begin. -/
def IsBound (new : VmcsShadowImage) : Prop :=
  ImageValid new ∧ ∃ capabilities config, new = boundImage capabilities config

theorem rebindVmcsShadow_guarded (capabilities : Option VmcsShadowCapabilities)
    (config : Option VmcsShadowConfig) (expectedGeneration : U64) (image : VmcsShadowImage) :
    Guarded image
      (fun new => ImageValid image ∧ image.generation < new.generation ∧ IsBound new)
      (rebindVmcsShadow capabilities config expectedGeneration image) := by
  unfold rebindVmcsShadow
  split
  · exact Or.inl rfl
  rename_i checks
  simp only [Bool.or_eq_true, Bool.not_eq_true', not_or, Bool.not_eq_false, bne_iff_ne, ne_eq,
    not_not, decide_eq_true_eq] at checks
  obtain ⟨⟨⟨⟨⟨valid, cleared⟩, _⟩, later⟩, binding⟩, expected⟩ := checks
  have bound : image.state ≠ kStateEmpty := by
    rw [cleared]
    decide
  rcases beginVmcsShadow_cases capabilities config with ⟨unbound, _⟩ | ⟨given, settings, _, rfl, done, fresh⟩
  · -- the binding has just been checked, so the begin inside a rebind cannot fail
    rw [binding] at unbound
    cases unbound
  · right
    have same : settings.generation = expectedGeneration := by simpa using expected
    refine ⟨_, ⟨imageValid_iff.mpr ⟨valid, bound⟩, ?_, fresh, given, settings, rfl⟩, done⟩
    simp only [boundImage, same]
    exact BitVec.not_le.mp later

/-- The one place that says what a call does. -/
theorem shadowStep_effect (image : VmcsShadowImage) (input : ShadowInput) :
    ShadowEffect (shadowEvent image input) image (shadowStep image input) := by
  cases input with
  | begin capabilities config =>
    simp only [shadowEvent, shadowStep]
    rcases beginVmcsShadow_cases capabilities config with ⟨_, failed⟩ | ⟨given, settings, _, _, done, fresh⟩
    · rw [failed]
      exact .beginFailed
    · rw [done]
      exact .begun fresh
  | clear generation =>
    simp only [shadowEvent, shadowStep]
    refine (clearVmcsShadow_guarded image generation).elim .quiet ?_
    rintro _ - ⟨valid, rfl⟩
    exact .stopped valid (by decide) (by decide)
  | rebind capabilities config expectedGeneration =>
    simp only [shadowEvent, shadowStep]
    rcases rebindVmcsShadow_guarded capabilities config expectedGeneration image with
      failed | ⟨_, ⟨valid, later, fresh, given, settings, rfl⟩, done⟩
    · rw [failed]
      exact .quiet
    · rw [done]
      exact .rebound valid later fresh
  | quarantine generation =>
    simp only [shadowEvent, shadowStep]
    refine (quarantineVmcsShadow_guarded image generation).elim .quiet ?_
    rintro _ - ⟨valid, rfl⟩
    exact .stopped valid (by decide) (by decide)
  | access capabilities config given generation wanted =>
    simp only [shadowStep]
    by_cases shadow :
        (applyVmcsShadowAccess capabilities config image given generation wanted).1 = .Shadow
    · obtain ⟨access, rule, rfl, outcome⟩ := applyVmcsShadowAccess_shadow shadow
      simp only [shadowEvent, shadow, true_and]
      by_cases write : access.operation = kOperationWrite
      · rw [if_pos write, outcome.write write]
        have known := outcome.known
        obtain ⟨_, index⟩ := findFieldRule_of_resolved known.resolved
        have slotValue : (fieldSlot access.fieldIndex).val = access.fieldIndex.toNat :=
          Nat.mod_eq_of_lt known.inRange
        have bound : image.state ≠ kStateEmpty := by
          rw [known.active]
          decide
        simp only [writtenValue, known.resolved]
        refine .wrote (imageValid_iff.mpr ⟨known.valid, bound⟩) ?_ (index.trans slotValue.symm) ?_
        · rw [slotValue]
          exact known.counted
        · rw [BitVec.and_assoc, BitVec.and_self]
      · rw [if_neg write, (outcome.read write).1]
        exact .quiet
    · rw [applyVmcsShadowAccess_unchanged shadow]
      cases given with
      | none => exact .quiet
      | some access =>
        simp only [shadowEvent, shadow, false_and, if_false]
        exact .quiet

end Knhv.VmcsShadow
