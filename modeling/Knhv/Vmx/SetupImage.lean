import Knhv.Vmx.SetupRun

namespace Knhv.Vmx.Setup

/-- A field that nothing assigns keeps its value. -/
theorem store_of_unwritten {vmcs : SetupField → U64} {entries : List (SetupField × U64)}
    {field : SetupField} (apart : field ∉ entries.map Prod.fst) :
    store vmcs entries field = vmcs field := by
  induction entries generalizing vmcs with
  | nil => rfl
  | cons entry rest ih =>
    rw [List.map_cons, List.mem_cons, not_or] at apart
    have later : store vmcs (entry :: rest) field = Function.update vmcs entry.1 entry.2 field :=
      ih apart.2
    rw [later, Function.update_of_ne apart.1]

/-- A field whose assignments agree holds their value. -/
theorem store_of_agrees {vmcs : SetupField → U64} {entries : List (SetupField × U64)}
    {field : SetupField} {value : U64} (written : field ∈ entries.map Prod.fst)
    (agrees : ∀ entry ∈ entries, entry.1 = field → entry.2 = value) :
    store vmcs entries field = value := by
  induction entries generalizing vmcs with
  | nil => cases written
  | cons entry rest ih =>
    have first := agrees entry List.mem_cons_self
    have others : ∀ entry ∈ rest, entry.1 = field → entry.2 = value :=
      fun other member => agrees other (List.mem_cons_of_mem entry member)
    by_cases again : field ∈ rest.map Prod.fst
    · exact ih again others
    · have here : entry.1 = field := by
        rw [List.map_cons, List.mem_cons] at written
        exact (written.resolve_right again).symm
      have kept : store vmcs (entry :: rest) field = Function.update vmcs entry.1 entry.2 field :=
        store_of_unwritten again
      rw [kept, here, Function.update_self]
      exact first here

section

variable (e : SetupEnvironment)

/-- What the setup is to leave in the fields that the sampled state and the
control words fill. -/
def programmedValue : SetupField → Option U64
  | .hostCr0 => some e.cr0
  | .hostCr3 => some (hostCr3 e)
  | .hostCr4 => some e.cr4
  | .hostEfer | .guestEfer => some (snapshotMsr e msrIa32Efer)
  | .hostPat | .guestPat => some (snapshotMsr e msrIa32Pat)
  | .hostFsBase | .guestFsBase => some (snapshotMsr e msrFsBase)
  | .hostGsBase | .guestGsBase => some (snapshotMsr e msrGsBase)
  | .hostTrBase | .guestTrBase => some (tssBase e)
  | .hostGdtrBase | .guestGdtrBase => some e.gdtBase
  | .hostIdtrBase => some (hostIdtBase e)
  | .hostCsSelector => some (hostSelector e.csSelector)
  | .hostSsSelector => some (hostSelector e.ssSelector)
  | .hostDsSelector => some (hostSelector e.dsSelector)
  | .hostEsSelector => some (hostSelector e.esSelector)
  | .hostFsSelector => some (hostSelector e.fsSelector)
  | .hostGsSelector => some (hostSelector e.gsSelector)
  | .hostTrSelector => some (hostSelector e.trSelector)
  | .guestCr0 => some (guestCr0 e)
  | .guestCr3 => some (guestCr3 e)
  | .guestCr4 => some (guestCr4 e)
  | .guestIdtrBase => some e.idtBase
  | .guestCsBase | .guestSsBase | .guestDsBase | .guestEsBase | .guestLdtrBase => some 0
  | .guestCsSelector => some (e.csSelector.setWidth 64)
  | .guestSsSelector => some (e.ssSelector.setWidth 64)
  | .guestDsSelector => some (e.dsSelector.setWidth 64)
  | .guestEsSelector => some (e.esSelector.setWidth 64)
  | .guestFsSelector => some (e.fsSelector.setWidth 64)
  | .guestGsSelector => some (e.gsSelector.setWidth 64)
  | .guestLdtrSelector => some (e.ldtrSelector.setWidth 64)
  | .guestTrSelector => some (e.trSelector.setWidth 64)
  | .guestRip => some e.guestIp
  | .guestRsp => some e.guestSp
  | .controlPinBasedVmExecutionControls => some ((pinCtl e).setWidth 64)
  | .controlPrimaryProcessorBasedVmExecutionControls => some ((procCtl e).setWidth 64)
  | .controlVmExitControls => some ((exitCtl e).setWidth 64)
  | .controlVmEntryControls => some ((entryCtl e).setWidth 64)
  | .controlSecondaryProcessorBasedVmExecutionControls =>
    if activatesSecondary e then some ((secCtl e).setWidth 64) else none
  | _ => none

/-- Wherever the statements assign such a field, they assign that value. -/
def Programs (steps : List SetupStep) : Prop :=
  ∀ entry ∈ assignments steps, ∀ value, programmedValue e entry.1 = some value → entry.2 = value

/-- The assigned values are kept by the table. -/
def Tabled (steps : List SetupStep) : Prop :=
  (assignments steps).map (fun entry => (programmedValue e entry.1).getD entry.2) =
    (assignments steps).map Prod.snd

variable {e}

theorem Tabled.programs {steps : List SetupStep} (tabled : Tabled e steps) : Programs e steps := by
  intro entry member value programmed
  have same := List.map_inj_left.mp tabled entry member
  rw [programmed] at same
  exact same.symm

theorem Programs.append {first second : List SetupStep} (before : Programs e first)
    (after : Programs e second) : Programs e (first ++ second) := by
  intro entry member
  rw [assignments_append, List.mem_append] at member
  exact member.elim (before entry) (after entry)

theorem Programs.of_silent {steps : List SetupStep} (silent : assignments steps = []) :
    Programs e steps := by
  intro entry member
  rw [silent] at member
  exact absurd member List.not_mem_nil

variable (e)

theorem cetSteps_tabled (supervisor ssp table : SetupField)
    (apart : programmedValue e supervisor = none ∧ programmedValue e ssp = none ∧
      programmedValue e table = none) : Tabled e (cetSteps e supervisor ssp table) := by
  obtain ⟨first, second, third⟩ := apart
  unfold cetSteps
  split
  · simp [Tabled, assignments, SetupStep.assigned, first, second, third]
  · rfl

theorem hostSteps_programs : Programs e (hostSteps e) := by
  have state : Tabled e (hostStateSteps e) := rfl
  have cet := cetSteps_tabled e .hostSCet .hostSsp .hostIntrSspTable ⟨rfl, rfl, rfl⟩
  exact (state.programs.append cet.programs).append (.of_silent rfl)

theorem guestStateSteps_tabled : Tabled e (guestStateSteps e) := rfl

theorem guestEntrySteps_programs : Programs e (guestEntrySteps e) := by
  have activity : Tabled e (guestActivitySteps e) := rfl
  have cet := cetSteps_tabled e .guestSCet .guestSsp .guestIntrSspTable ⟨rfl, rfl, rfl⟩
  exact cet.programs.append activity.programs

theorem pinSteps_tabled : Tabled e (pinSteps e) := rfl

theorem primarySteps_tabled : Tabled e (primarySteps e) := rfl

theorem secondarySteps_programs : Programs e (secondarySteps e) := by
  have word : Tabled e (secondaryControlSteps e) := by
    unfold secondaryControlSteps
    split
    case isTrue active =>
      simp [Tabled, assignments, SetupStep.assigned, readUnguarded, programmedValue, active]
    case isFalse => rfl
  exact word.programs.append (.of_silent rfl)

theorem tertiarySteps_tabled : Tabled e (tertiarySteps e) := by
  unfold tertiarySteps
  split <;> rfl

theorem exitEntrySteps_programs : Programs e (exitEntrySteps e) := by
  have bitmap : Tabled e (bitmapSteps e) := rfl
  have xss : Tabled e (xssBitmapSteps e) := by
    unfold xssBitmapSteps
    split <;> rfl
  have leave : Tabled e (transitionSteps e .controlVmExitControls (exitCtl e) (requestedExit e)
      vmxExitMandatoryOn (exitCtlMsr e)) := rfl
  have enter : Tabled e (transitionSteps e .controlVmEntryControls (entryCtl e) (requestedEntry e)
      vmxEntryMandatoryOn (entryCtlMsr e)) := rfl
  have masks : Tabled e (guestHostMaskSteps e) := rfl
  exact (((bitmap.programs.append xss.programs).append leave.programs).append
    enter.programs).append masks.programs

/-- Nothing is written before the processor is sampled. -/
theorem samplingSteps_assignments : assignments (samplingSteps e) = [] := rfl

theorem setupSteps_programs : Programs e (setupSteps e) := by
  have sampling : Programs e (samplingSteps e) := by
    intro entry member
    rw [samplingSteps_assignments] at member
    exact absurd member List.not_mem_nil
  exact (((((((sampling.append (hostSteps_programs e)).append
    (guestStateSteps_tabled e).programs).append (guestEntrySteps_programs e)).append
    (pinSteps_tabled e).programs).append (primarySteps_tabled e).programs).append
    (secondarySteps_programs e)).append (tertiarySteps_tabled e).programs).append
    (exitEntrySteps_programs e)

/-- The fields that the statements assign. -/
def assignedFields (steps : List SetupStep) : List SetupField := (assignments steps).map Prod.fst

theorem mem_assignedFields_append {first second : List SetupStep} {field : SetupField} :
    field ∈ assignedFields (first ++ second) ↔
      field ∈ assignedFields first ∨ field ∈ assignedFields second := by
  rw [assignedFields, assignments_append, List.map_append, List.mem_append]
  rfl

def hostStateFields : List SetupField :=
  [.hostCr0, .hostCr3, .hostCr4, .hostCsSelector, .hostSsSelector, .hostDsSelector,
    .hostEsSelector, .hostFsSelector, .hostGsSelector, .hostTrSelector, .hostFsBase, .hostGsBase,
    .hostEfer, .hostTrBase, .hostGdtrBase, .hostIdtrBase, .hostIa32SysenterCs,
    .hostIa32SysenterEsp, .hostIa32SysenterEip, .hostRsp, .hostRip]

def guestStateFields : List SetupField :=
  [.guestCr0, .guestCr3, .guestCr4, .guestDr7, .guestCsSelector, .guestSsSelector,
    .guestDsSelector, .guestEsSelector, .guestFsSelector, .guestGsSelector, .guestLdtrSelector,
    .guestTrSelector, .guestCsLimit, .guestSsLimit, .guestDsLimit, .guestEsLimit, .guestFsLimit,
    .guestGsLimit, .guestLdtrLimit, .guestTrLimit, .guestGdtrLimit, .guestIdtrLimit,
    .guestCsArBytes, .guestSsArBytes, .guestDsArBytes, .guestEsArBytes, .guestFsArBytes,
    .guestGsArBytes, .guestLdtrArBytes, .guestTrArBytes, .guestFsBase, .guestGsBase,
    .guestGdtrBase, .guestIdtrBase, .guestCsBase, .guestSsBase, .guestDsBase, .guestEsBase,
    .guestTrBase, .guestLdtrBase, .guestSysenterCs, .guestSysenterEsp, .guestSysenterEip,
    .guestEfer, .guestPat, .hostPat]

theorem hostStateSteps_fields : assignedFields (hostStateSteps e) = hostStateFields := rfl

theorem guestStateSteps_fields : assignedFields (guestStateSteps e) = guestStateFields := rfl

/-- A field with a value to be left in it is one of the state, of the entry
point or of the control words. -/
theorem programmed_place {field : SetupField} (programmed : (programmedValue e field).isSome) :
    field ∈ hostStateFields ∨ field ∈ guestStateFields ∨ field = .guestRip ∨ field = .guestRsp ∨
      field = .controlPinBasedVmExecutionControls ∨
      field = .controlPrimaryProcessorBasedVmExecutionControls ∨
      field = .controlVmExitControls ∨ field = .controlVmEntryControls ∨
      (field = .controlSecondaryProcessorBasedVmExecutionControls ∧ activatesSecondary e) := by
  cases field
  case controlSecondaryProcessorBasedVmExecutionControls =>
    have active : activatesSecondary e = true := by
      by_contra inactive
      rw [programmedValue, if_neg inactive] at programmed
      cases programmed
    simp [active]
  all_goals
    first
    | exact absurd programmed Bool.false_ne_true
    | simp [hostStateFields, guestStateFields]

theorem transitionSteps_assigns (field : SetupField) (ctl requested mandatoryOn msr : U32) :
    field ∈ assignedFields (transitionSteps e field ctl requested mandatoryOn msr) := by
  simp [assignedFields, assignments, transitionSteps, readUnguarded, SetupStep.assigned]

theorem programmed_assigned {field : SetupField} {value : U64}
    (programmed : programmedValue e field = some value) :
    field ∈ assignedFields (setupSteps e) := by
  unfold setupSteps
  simp only [mem_assignedFields_append]
  have present : (programmedValue e field).isSome = true := by
    rw [programmed]
    rfl
  have place := programmed_place e present
  rcases place with host | state | rfl | rfl | rfl | rfl | rfl | rfl | ⟨rfl, active⟩
  · rw [← hostStateSteps_fields e] at host
    simp only [hostSteps, mem_assignedFields_append, host, true_or, or_true]
  · rw [← guestStateSteps_fields e] at state
    simp only [state, true_or, or_true]
  · have here : .guestRip ∈ assignedFields (guestActivitySteps e) := by
      simp [assignedFields, assignments, guestActivitySteps, SetupStep.assigned]
    simp only [guestEntrySteps, mem_assignedFields_append, here, true_or, or_true]
  · have here : .guestRsp ∈ assignedFields (guestActivitySteps e) := by
      simp [assignedFields, assignments, guestActivitySteps, SetupStep.assigned]
    simp only [guestEntrySteps, mem_assignedFields_append, here, true_or, or_true]
  · have here : .controlPinBasedVmExecutionControls ∈ assignedFields (pinSteps e) := by
      simp [assignedFields, assignments, pinSteps, SetupStep.assigned]
    simp only [here, true_or, or_true]
  · have here : .controlPrimaryProcessorBasedVmExecutionControls ∈
        assignedFields (primarySteps e) := by
      simp [assignedFields, assignments, primarySteps, SetupStep.assigned]
    simp only [here, true_or, or_true]
  · simp only [exitEntrySteps, mem_assignedFields_append, transitionSteps_assigns, true_or,
      or_true]
  · simp only [exitEntrySteps, mem_assignedFields_append, transitionSteps_assigns, true_or,
      or_true]
  · have here : .controlSecondaryProcessorBasedVmExecutionControls ∈
        assignedFields (secondaryControlSteps e) := by
      simp [assignedFields, assignments, secondaryControlSteps, active, SetupStep.assigned]
    simp only [secondarySteps, mem_assignedFields_append, here, true_or, or_true]

/-- A setup whose assignments are all carried out leaves every such value. -/
theorem setupSteps_store {vmcs : SetupField → U64} {field : SetupField} {value : U64}
    (programmed : programmedValue e field = some value) :
    store vmcs (assignments (setupSteps e)) field = value := by
  refine store_of_agrees (programmed_assigned e programmed) fun entry member same => ?_
  exact setupSteps_programs e entry member value (same ▸ programmed)

/-- Nothing gives the secondary controls where they are not activated. -/
theorem secondary_unassigned (inactive : activatesSecondary e = false) :
    .controlSecondaryProcessorBasedVmExecutionControls ∉ assignedFields (setupSteps e) := by
  have host : .controlSecondaryProcessorBasedVmExecutionControls ∉
      assignedFields (hostStateSteps e) := by
    rw [hostStateSteps_fields]
    decide
  have guest : .controlSecondaryProcessorBasedVmExecutionControls ∉
      assignedFields (guestStateSteps e) := by
    rw [guestStateSteps_fields]
    decide
  have cet (supervisor ssp table : SetupField)
      (apart : .controlSecondaryProcessorBasedVmExecutionControls ∉ [supervisor, ssp, table]) :
      .controlSecondaryProcessorBasedVmExecutionControls ∉
        assignedFields (cetSteps e supervisor ssp table) := by
    unfold cetSteps
    split
    · exact apart
    · nofun
  have sampling : .controlSecondaryProcessorBasedVmExecutionControls ∉
      assignedFields (samplingSteps e) := by
    rw [assignedFields, samplingSteps_assignments]
    exact List.not_mem_nil
  unfold setupSteps
  simp only [mem_assignedFields_append, not_or]
  refine ⟨⟨⟨⟨⟨⟨⟨⟨sampling, ?_⟩, guest⟩, ?_⟩, ?_⟩, ?_⟩, ?_⟩, ?_⟩, ?_⟩
  · unfold hostSteps
    simp only [mem_assignedFields_append, not_or]
    exact ⟨⟨host, cet _ _ _ (by decide)⟩, nofun⟩
  · unfold guestEntrySteps
    simp only [mem_assignedFields_append, not_or]
    refine ⟨cet _ _ _ (by decide), ?_⟩
    simp [assignedFields, assignments, guestActivitySteps, inject, SetupStep.assigned]
  · simp [assignedFields, assignments, pinSteps, readUnguarded, setVmcsSetupPhase,
      SetupStep.assigned]
  · simp [assignedFields, assignments, primarySteps, readUnguarded, SetupStep.assigned]
  · simp [assignedFields, assignments, secondarySteps, secondaryControlSteps, secondaryDoneSteps,
      inactive, inject, SetupStep.assigned]
  · unfold tertiarySteps
    split <;> simp [assignedFields, assignments, setVmcsSetupPhase, SetupStep.assigned]
  · unfold exitEntrySteps xssBitmapSteps
    split <;>
      simp [assignedFields, assignments, bitmapSteps, transitionSteps, guestHostMaskSteps,
        readUnguarded, setVmcsSetupPhase, SetupStep.assigned]

/-- The secondary controls are given where they are activated only. -/
theorem setupSteps_secondary {vmcs : SetupField → U64} (inactive : activatesSecondary e = false) :
    store vmcs (assignments (setupSteps e)) .controlSecondaryProcessorBasedVmExecutionControls =
      vmcs .controlSecondaryProcessorBasedVmExecutionControls :=
  store_of_unwritten (secondary_unassigned e inactive)

end

end Knhv.Vmx.Setup
