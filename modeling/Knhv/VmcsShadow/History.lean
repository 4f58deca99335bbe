import Knhv.VmcsShadow.Lifecycle

namespace Knhv.VmcsShadow

open Knhv.Nested (FieldRulePtr fieldRule)

/-- What every call on the image does from here on. -/
structure NextHolds (image : VmcsShadowImage) (events : List ShadowEvent) : Prop where
  clearFailed : ∀ generation, (clearVmcsShadow image generation).1 = false →
    (clearVmcsShadow image generation).2 = image
  rebindFailed : ∀ capabilities config expectedGeneration,
    (rebindVmcsShadow capabilities config expectedGeneration image).1 = false →
    (rebindVmcsShadow capabilities config expectedGeneration image).2 = image
  quarantineFailed : ∀ generation, (quarantineVmcsShadow image generation).1 = false →
    (quarantineVmcsShadow image generation).2 = image
  otherAccess : ∀ capabilities config given generation wanted,
    (applyVmcsShadowAccess capabilities config image given generation wanted).1 ≠ .Shadow →
    (applyVmcsShadowAccess capabilities config image given generation wanted).2.2 = image
  rebindLater : ∀ capabilities config expectedGeneration,
    (rebindVmcsShadow capabilities config expectedGeneration image).1 = true →
    image.generation < (rebindVmcsShadow capabilities config expectedGeneration image).2.generation
  readBack : ∀ capabilities config access generation wanted,
    (applyVmcsShadowAccess capabilities config image (some access) generation wanted).1 = .Shadow →
    access.operation ≠ kOperationWrite →
    (applyVmcsShadowAccess capabilities config image (some access) generation wanted).2.1.map
      (·.value) = some ((journal events (fieldSlot access.fieldIndex)).getD 0)
  otherFields : ∀ capabilities config access generation wanted slot,
    slot ≠ fieldSlot access.fieldIndex →
    (applyVmcsShadowAccess capabilities config image (some access) generation wanted).2.2.fields
        slot = image.fields slot ∧
      dirtyBit (applyVmcsShadowAccess capabilities config image (some access) generation
        wanted).2.2 slot = dirtyBit image slot
  stopped : image.state = kStateCleared ∨ image.state = kStateQuarantined →
    ∀ capabilities config given generation wanted,
      (applyVmcsShadowAccess capabilities config image given generation wanted).1 ≠ .Shadow
  void : standing events = false →
    (∀ generation, (clearVmcsShadow image generation).1 = false) ∧
      (∀ capabilities config expectedGeneration,
        (rebindVmcsShadow capabilities config expectedGeneration image).1 = false) ∧
      (∀ generation, (quarantineVmcsShadow image generation).1 = false) ∧
      ∀ capabilities config given generation wanted,
        (applyVmcsShadowAccess capabilities config image given generation wanted).1 ≠ .Shadow

/-- The invariant behind `ImageHolds`: the image of a standing begin is bound,
and every field fits the rule it belongs to. -/
structure ShadowInv (image : VmcsShadowImage) (events : List ShadowEvent) : Prop where
  bound : standing events = true → ImageValid image
  void : standing events = false → image = VmcsShadowImage.zero
  dirty : ∀ slot, dirtyBit image slot = (journal events slot).isSome
  fields : ∀ slot, image.fields slot = (journal events slot).getD 0
  fit : ∀ (rule : FieldRulePtr) (slot : Fin kVmcsShadowMaxFields), rule.val = slot.val →
    image.fields slot &&& fieldMask (fieldRule rule) = image.fields slot

theorem journal_snoc (events : List ShadowEvent) (event : ShadowEvent) :
    journal (events ++ [event]) = (journal events).next event := by
  simp only [journal, List.foldl_append, List.foldl_cons, List.foldl_nil]

theorem not_imageValid_zero : ¬ImageValid VmcsShadowImage.zero := by
  intro valid
  exact valid.bound rfl

/-- An image that is bound has a begin that stands. -/
theorem ShadowInv.standing_of_valid {image : VmcsShadowImage} {events : List ShadowEvent}
    (inv : ShadowInv image events) (valid : ImageValid image) : standing events = true := by
  by_contra fallen
  rw [inv.void (Bool.eq_false_iff.mpr fallen)] at valid
  exact not_imageValid_zero valid

/-- An image without contents, and the empty journal that a reset starts. -/
theorem ShadowInv.reset {image : VmcsShadowImage} {events : List ShadowEvent} {event : ShadowEvent}
    (blank : image.fields = fun _ => 0) (clean : image.dirtyBitmap = fun _ => 0)
    (started : ∀ journal : Journal, journal.next event = fun _ => none)
    (bound : standing (events ++ [event]) = true → ImageValid image)
    (void : standing (events ++ [event]) = false → image = VmcsShadowImage.zero) :
    ShadowInv image (events ++ [event]) := by
  refine ⟨bound, void, fun slot => ?_, fun slot => ?_, fun rule slot _ => ?_⟩
  · rw [journal_snoc, started, dirtyBit, clean]
    exact BitVec.getLsbD_zero
  · rw [journal_snoc, started, blank]
    rfl
  · rw [blank]
    exact BitVec.zero_and

theorem standing_snoc (events : List ShadowEvent) (event : ShadowEvent) :
    standing (events ++ [event]) =
      match event with
      | .begun => true
      | .beginFailed => false
      | _ => standing events := by
  cases event <;> simp [standing]

/-- What one call keeps. -/
theorem ShadowInv.effect {image after : VmcsShadowImage} {events : List ShadowEvent}
    {event : ShadowEvent} (inv : ShadowInv image events)
    (effect : ShadowEffect event image after) : ShadowInv after (events ++ [event]) := by
  cases effect with
  | quiet =>
    refine ⟨?_, ?_, ?_, ?_, inv.fit⟩
    · rw [standing_snoc]
      exact inv.bound
    · rw [standing_snoc]
      exact inv.void
    · rw [journal_snoc]
      exact inv.dirty
    · rw [journal_snoc]
      exact inv.fields
  | stopped valid known bound =>
    refine ⟨fun _ => valid.setState known bound, ?_, ?_, ?_, inv.fit⟩
    · rw [standing_snoc, inv.standing_of_valid valid]
      nofun
    · rw [journal_snoc]
      exact inv.dirty
    · rw [journal_snoc]
      exact inv.fields
  | begun fresh =>
    exact .reset rfl rfl (fun _ => rfl) (fun _ => fresh) (by rw [standing_snoc]; nofun)
  | beginFailed =>
    exact .reset rfl rfl (fun _ => rfl) (by rw [standing_snoc]; nofun) (fun _ => rfl)
  | rebound valid later fresh =>
    refine .reset rfl rfl (fun _ => rfl) (fun _ => fresh) ?_
    rw [standing_snoc, inv.standing_of_valid valid]
    nofun
  | @wrote _ slot value rule valid counted index fits =>
    refine ⟨fun _ => valid.storeField counted value, ?_, fun other => ?_, fun other => ?_,
      fun otherRule other sameIndex => ?_⟩
    · rw [standing_snoc, inv.standing_of_valid valid]
      nofun
    · rw [journal_snoc, dirtyBit_storeField, inv.dirty]
      by_cases same : other = slot
      · simp [Journal.next, same]
      · simp [Journal.next, same]
    · rw [journal_snoc]
      by_cases same : other = slot
      · simp [Journal.next, storeField, same]
      · simp only [Journal.next, storeField, Function.update_of_ne same]
        exact inv.fields other
    · by_cases same : other = slot
      · subst same
        have sameRule : otherRule = rule := Fin.ext (sameIndex.trans index.symm)
        simp only [storeField, Function.update_self, sameRule, fits]
      · simp only [storeField, Function.update_of_ne same]
        exact inv.fit otherRule other sameIndex

/-- What a whole run keeps, from a begin that succeeded. -/
theorem ShadowInv.run {capabilities : Option VmcsShadowCapabilities}
    {config : Option VmcsShadowConfig} (begun : (beginVmcsShadow capabilities config).1 = true)
    (inputs : List ShadowInput) :
    ShadowInv (Run.after shadowStep (beginVmcsShadow capabilities config).2 inputs)
      (Run.trace shadowStep shadowEvent (beginVmcsShadow capabilities config).2 inputs) := by
  induction inputs using List.reverseRecOn with
  | nil =>
    rcases beginVmcsShadow_cases capabilities config with ⟨_, failed⟩ | ⟨given, settings, _, _, done, fresh⟩
    · rw [failed] at begun
      cases begun
    · rw [done]
      refine ⟨fun _ => fresh, nofun, fun _ => BitVec.getLsbD_zero, fun _ => rfl, fun _ _ _ => ?_⟩
      exact BitVec.zero_and
  | append_singleton inputs input ih =>
    rw [Run.after_append, Run.trace_snoc]
    exact ih.effect (shadowStep_effect _ input)

theorem ShadowInv.imageHolds {image : VmcsShadowImage} {events : List ShadowEvent}
    (inv : ShadowInv image events) : ImageHolds image events :=
  ⟨fun up => (imageValid_iff.mp (inv.bound up)).1, inv.void, inv.dirty, inv.fields⟩

theorem ShadowInv.readBack {image : VmcsShadowImage} {events : List ShadowEvent}
    (inv : ShadowInv image events) {access : VmcsShadowAccess} {rule : FieldRulePtr}
    (known : Shadowed image access rule) :
    image.fields (fieldSlot access.fieldIndex) &&& fieldMask (fieldRule rule) =
      (journal events (fieldSlot access.fieldIndex)).getD 0 := by
  obtain ⟨_, index⟩ := findFieldRule_of_resolved known.resolved
  have slotValue : (fieldSlot access.fieldIndex).val = access.fieldIndex.toNat :=
    Nat.mod_eq_of_lt known.inRange
  rw [inv.fit rule _ (index.trans slotValue.symm), inv.fields]

/-- Only an image that is `Active` answers `Shadow`. -/
theorem active_of_shadow {capabilities : Option VmcsShadowCapabilities}
    {config : Option VmcsShadowConfig} {image : VmcsShadowImage} {given : Option VmcsShadowAccess}
    {generation : U64} {wanted : Bool}
    (shadow : (applyVmcsShadowAccess capabilities config image given generation wanted).1 =
      .Shadow) : image.state = kStateActive := by
  obtain ⟨_, _, _, outcome⟩ := applyVmcsShadowAccess_shadow shadow
  exact outcome.known.active

theorem otherFields_unchanged {capabilities : Option VmcsShadowCapabilities}
    {config : Option VmcsShadowConfig} {image : VmcsShadowImage} {access : VmcsShadowAccess}
    {generation : U64} {wanted : Bool} {slot : Fin kVmcsShadowMaxFields}
    (other : slot ≠ fieldSlot access.fieldIndex) :
    (applyVmcsShadowAccess capabilities config image (some access) generation wanted).2.2.fields
        slot = image.fields slot ∧
      dirtyBit (applyVmcsShadowAccess capabilities config image (some access) generation
        wanted).2.2 slot = dirtyBit image slot := by
  by_cases shadow : (applyVmcsShadowAccess capabilities config image (some access) generation
      wanted).1 = .Shadow
  · obtain ⟨_, rule, same, outcome⟩ := applyVmcsShadowAccess_shadow shadow
    cases same
    by_cases write : access.operation = kOperationWrite
    · rw [outcome.write write, dirtyBit_storeField]
      simp [storeField, other]
    · rw [(outcome.read write).1]
      exact ⟨rfl, rfl⟩
  · rw [applyVmcsShadowAccess_unchanged shadow]
    exact ⟨rfl, rfl⟩

theorem ShadowInv.nextHolds {image : VmcsShadowImage} {events : List ShadowEvent}
    (inv : ShadowInv image events) : NextHolds image events where
  clearFailed := fun generation failed => (clearVmcsShadow_guarded image generation).unchanged failed
  rebindFailed := fun capabilities config expected failed =>
    (rebindVmcsShadow_guarded capabilities config expected image).unchanged failed
  quarantineFailed := fun generation failed =>
    (quarantineVmcsShadow_guarded image generation).unchanged failed
  otherAccess := fun _ _ _ _ _ other => applyVmcsShadowAccess_unchanged other
  rebindLater := fun capabilities config expected done =>
    ((rebindVmcsShadow_guarded capabilities config expected image).of_success done).2.1
  readBack := by
    intro capabilities config access generation wanted shadow read
    obtain ⟨_, rule, same, outcome⟩ := applyVmcsShadowAccess_shadow shadow
    cases same
    rw [(outcome.read read).2, inv.readBack outcome.known]
  otherFields := fun _ _ _ _ _ _ other => otherFields_unchanged other
  stopped := by
    intro stopped _ _ _ _ _ shadow
    have active := active_of_shadow shadow
    rcases stopped with cleared | quarantined
    · rw [cleared] at active
      exact absurd active (by decide)
    · rw [quarantined] at active
      exact absurd active (by decide)
  void := by
    intro fallen
    have invalid : ¬ImageValid image := by
      rw [inv.void fallen]
      exact not_imageValid_zero
    refine ⟨fun generation => ?_, fun capabilities config expected => ?_, fun generation => ?_,
      fun _ _ _ _ _ shadow => ?_⟩
    · exact (clearVmcsShadow_guarded image generation).fails fun _ moved => invalid moved.1
    · exact (rebindVmcsShadow_guarded capabilities config expected image).fails
        fun _ moved => invalid moved.1
    · exact (quarantineVmcsShadow_guarded image generation).fails fun _ moved => invalid moved.1
    · have active := active_of_shadow shadow
      rw [inv.void fallen] at active
      exact absurd active (by decide)

/-- The lifecycle of a shadow image, over every run from a begin that
succeeded: its history decides its contents, and what the next call may do. -/
theorem shadow_lifecycle {capabilities : Option VmcsShadowCapabilities}
    {config : Option VmcsShadowConfig} (begun : (beginVmcsShadow capabilities config).1 = true)
    (inputs : List ShadowInput) :
    let image := Run.after shadowStep (beginVmcsShadow capabilities config).2 inputs
    let events := Run.trace shadowStep shadowEvent (beginVmcsShadow capabilities config).2 inputs
    ImageHolds image events ∧ NextHolds image events :=
  ⟨(ShadowInv.run begun inputs).imageHolds, (ShadowInv.run begun inputs).nextHolds⟩

/-- A write and a clear. -/
theorem shadow_lifecycle_write :
    ImageHolds (Run.after shadowStep (boundImage writeCapabilities writeConfig)
        [.access (some writeCapabilities) (some writeConfig) (some (vpidWrite 5)) 1 true, .clear 1])
      (Run.trace shadowStep shadowEvent (boundImage writeCapabilities writeConfig)
        [.access (some writeCapabilities) (some writeConfig) (some (vpidWrite 5)) 1 true,
          .clear 1]) :=
  (@shadow_lifecycle (some writeCapabilities) (some writeConfig) (by decide +kernel) _).1

/-- A begin that fails leaves an image that its validator refuses. -/
theorem failed_begin_voids_image :
    (beginVmcsShadow (some writeCapabilities) (some writeConfig)).1 = true ∧
      isVmcsShadowImageValid (Run.after shadowStep
        (beginVmcsShadow (some writeCapabilities) (some writeConfig)).2 [.begin none none]) =
        false := by
  decide +kernel

end Knhv.VmcsShadow
