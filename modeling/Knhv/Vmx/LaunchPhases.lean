import Mathlib
import Knhv.Vmx.Launch

open Std.Do

set_option mvcgen.warning false

namespace Knhv.Vmx

open Teardown

/-- Nothing of the launch is left. -/
structure RolledBack (before after : LaunchState) : Prop where
  state : after.state = .failed
  vmxOperation : before.vmxOperation = false → after.vmxOperation = false
  vmcsCurrent : after.vmcsCurrent = .none
  cr0 : after.cr0 = before.cr0
  cr4 : after.cr4 = before.cr4
  xss : after.xss = before.xss

structure Ready (e : LaunchEnvironment) (after : LaunchState) : Prop where
  state : after.state = .vmxOn
  launchStage : after.launchStage = .ready
  vmcsCurrent : after.vmcsCurrent = .active
  currentVmcs : after.currentVmcs = some e.vmcsPhys

section

variable (e : LaunchEnvironment) (entry : LaunchState)

/-- Both registers obey VMX already, so `AdjustCr0` and `AdjustCr4` add CR4.VMXE at
most. -/
structure FixedBits : Prop where
  cr0 : isFixedCrValueValid e.machine entry.cr0 msrIa32VmxCr0Fixed0 msrIa32VmxCr0Fixed1 = true
  cr4 : isFixedCrValueValid e.machine (entry.cr4 ||| cr4Vmxe) msrIa32VmxCr4Fixed0
    msrIa32VmxCr4Fixed1 = true

/-- What the handler finds wherever an exception comes from, once the state of the
host is captured: each register has its value of the entry, or there is a flag set
and a field that has it. -/
structure Recoverable (s : LaunchState) : Prop where
  xss : s.xss = entry.xss
  hostXss : e.machine.xsavesEnabled = true → s.hostXss = entry.xss
  guestXss : e.machine.xsavesEnabled = true → s.guestXss = entry.xss
  prepared : s.cr4Prepared = true → s.originalCr0 = entry.cr0 ∧ s.originalCr4 = entry.cr4
  untouched : s.cr4Prepared = false → s.cr0 = entry.cr0 ∧ s.cr4 = entry.cr4
  nested : s.vmxActive = true → s.cr4Prepared = true
  outside : s.vmxActive = false →
    (entry.vmxOperation = false → s.vmxOperation = false) ∧ s.vmcsCurrent = .none

structure Captured (s : LaunchState) : Prop extends Recoverable e entry s where
  cr4Prepared : s.cr4Prepared = false
  inactive : s.vmxActive = false
  originalCr0 : s.originalCr0 = entry.cr0
  originalCr4 : s.originalCr4 = entry.cr4

structure Outside (s : LaunchState) : Prop extends Recoverable e entry s where
  cr4Prepared : s.cr4Prepared = true
  inactive : s.vmxActive = false

structure Inside (s : LaunchState) : Prop extends Recoverable e entry s where
  active : s.vmxActive = true

structure Entered (s : LaunchState) : Prop extends Inside e entry s where
  state : s.state = .vmxOn
  vmcsCurrent : s.vmcsCurrent = .none

structure Loaded (s : LaunchState) : Prop extends Inside e entry s where
  state : s.state = .vmxOn
  current : vmxOk e.vmclearFlags = true → vmxOk e.vmptrldFlags = true →
    s.vmcsCurrent = .active ∧ s.currentVmcs = some e.vmcsPhys

structure Current (s : LaunchState) : Prop extends Inside e entry s where
  state : s.state = .vmxOn
  vmcsCurrent : s.vmcsCurrent = .active
  currentVmcs : s.currentVmcs = some e.vmcsPhys

/-- What leaves the guarded region. -/
def Leaves (exit : LaunchExit) (s : LaunchState) : Prop :=
  match exit with
  | .returned value => value = 0 ∧ RolledBack entry s
  | .raised => Recoverable e entry s
  | .stopped => True

variable {e entry}

theorem Recoverable.withXss {s : LaunchState} {xss : U64} (recoverable : Recoverable e entry s)
    (same : xss = entry.xss) : Recoverable e entry { s with xss } :=
  { recoverable with xss := same }

theorem Captured.withCr0 {s : LaunchState} {cr0 : U64} (captured : Captured e entry s)
    (same : cr0 = entry.cr0) : Captured e entry { s with cr0 } :=
  { captured with
    untouched := fun unprepared => ⟨same, (captured.untouched unprepared).2⟩ }

theorem Captured.prepareCr4 {s : LaunchState} (captured : Captured e entry s) (cr4 : U64) :
    Outside e entry { s with cr4, cr4Prepared := true } where
  xss := captured.xss
  hostXss := captured.hostXss
  guestXss := captured.guestXss
  prepared := fun _ => ⟨captured.originalCr0, captured.originalCr4⟩
  untouched := fun unprepared => absurd unprepared (by simp)
  nested := fun _ => rfl
  outside := captured.outside
  cr4Prepared := rfl
  inactive := captured.inactive

theorem Inside.withVmcsCurrent {s : LaunchState} (inside : Inside e entry s)
    (vmcsCurrent : Lifecycle.VmcsCurrent) (currentVmcs : Option U64) :
    Inside e entry { s with vmcsCurrent, currentVmcs } :=
  { inside with
    outside := fun inactive => absurd (inside.active.symm.trans inactive) (by decide) }

theorem Inside.leaveVmx {s : LaunchState} (inside : Inside e entry s)
    (cleared : s.vmcsCurrent = .none) :
    Outside e entry { s with vmxOperation := false, currentVmcs := none, vmxActive := false } where
  xss := inside.xss
  hostXss := inside.hostXss
  guestXss := inside.guestXss
  prepared := inside.prepared
  untouched := inside.untouched
  nested := fun active => absurd active (by simp)
  outside := fun _ => ⟨fun _ => rfl, cleared⟩
  cr4Prepared := inside.nested inside.active
  inactive := rfl

theorem Entered.clearVmcs {s : LaunchState} (entered : Entered e entry s) :
    Entered e entry (clearVmcs e s) :=
  { entered with }

theorem Outside.vmcsCurrent {s : LaunchState} (outside : Outside e entry s) :
    s.vmcsCurrent = .none :=
  (outside.toRecoverable.outside outside.inactive).2

theorem Outside.enterVmx {s : LaunchState} (outside : Outside e entry s) :
    Entered e entry { s with
      vmxOperation := true, currentVmcs := none, vmxActive := true
      launchStage := .vmxOn, state := .vmxOn } where
  xss := outside.xss
  hostXss := outside.hostXss
  guestXss := outside.guestXss
  prepared := outside.prepared
  untouched := outside.untouched
  nested := fun _ => outside.cr4Prepared
  outside := fun inactive => absurd inactive (by simp)
  active := rfl
  state := rfl
  vmcsCurrent := outside.vmcsCurrent

theorem Recoverable.withControlRegisters {s : LaunchState} (recoverable : Recoverable e entry s)
    (prepared : s.cr4Prepared = true) (cr0 cr4 : U64) :
    Recoverable e entry { s with cr0, cr4 } :=
  { recoverable with
    untouched := fun unprepared => absurd (prepared.symm.trans unprepared) (by decide) }

theorem Recoverable.rolledBack {s : LaunchState} (recoverable : Recoverable e entry s)
    (inactive : s.vmxActive = false) (cr0 : s.cr0 = entry.cr0) (cr4 : s.cr4 = entry.cr4) :
    RolledBack entry { s with state := .failed } where
  state := rfl
  vmxOperation := (recoverable.outside inactive).1
  vmcsCurrent := (recoverable.outside inactive).2
  cr0 := cr0
  cr4 := cr4
  xss := recoverable.xss

theorem Recoverable.restored {s : LaunchState} (recoverable : Recoverable e entry s)
    (prepared : s.cr4Prepared = true) (inactive : s.vmxActive = false) :
    RolledBack entry { s with cr0 := s.originalCr0, cr4 := s.originalCr4, state := .failed } := by
  obtain ⟨cr0, cr4⟩ := recoverable.prepared prepared
  have restored := recoverable.withControlRegisters prepared s.originalCr0 s.originalCr4
  exact restored.rolledBack inactive cr0 cr4

variable (e entry)

theorem hvClearCurrentVmcsAndRecord_spec :
    ⦃fun s => ⌜Inside e entry s⌝⦄ hvClearCurrentVmcsAndRecord e
    ⦃post⟨fun cleared s => ⌜Inside e entry s ∧ (cleared = true → s.vmcsCurrent = .none)⌝,
      fun exit s => ⌜Leaves e entry exit s⌝⟩⦄ := by
  mvcgen [hvClearCurrentVmcsAndRecord, operate]
  all_goals have inside : Inside e entry _ := ‹_›
  · exact ⟨inside, by simp⟩
  · exact ⟨inside, ‹_›⟩
  · exact ⟨inside, by simp⟩
  · exact ⟨inside, by simp⟩
  · exact (inside.withVmcsCurrent .clearing _).toRecoverable
  · exact ⟨inside.withVmcsCurrent .failed _, by simp⟩
  · exact (inside.withVmcsCurrent .clearing _).toRecoverable
  · exact ⟨inside.withVmcsCurrent .failed _, by simp⟩
  · exact ⟨inside.withVmcsCurrent .none _, rfl⟩

theorem releaseVmx_spec :
    ⦃fun s => ⌜Inside e entry s⌝⦄ releaseVmx e
    ⦃post⟨fun _ s => ⌜Outside e entry s⌝, fun exit s => ⌜Leaves e entry exit s⌝⟩⦄ := by
  have clear := hvClearCurrentVmcsAndRecord_spec e entry
  mvcgen [releaseVmx, hvFailVmcsClear, leaveVmx, clear]
  case vc3.post.success.isFalse answer s holds _ =>
    exact holds.1.leaveVmx (holds.2 (by simpa using answer))

theorem restoreAndFail_spec :
    ⦃fun s => ⌜Outside e entry s⌝⦄ restoreAndFail e
    ⦃post⟨fun _ _ => ⌜False⌝, fun exit s => ⌜Leaves e entry exit s⌝⟩⦄ := by
  mvcgen [restoreAndFail, restoreControlRegisters, writeCr0, writeCr4, operate, failLaunch]
  all_goals have outside : Outside e entry _ := ‹_›
  · exact outside.toRecoverable
  · exact outside.withControlRegisters outside.cr4Prepared _ _
  · exact ⟨rfl, outside.restored outside.cr4Prepared outside.inactive⟩

theorem rollBack_spec :
    ⦃fun s => ⌜Inside e entry s⌝⦄ rollBack e
    ⦃post⟨fun _ _ => ⌜False⌝, fun exit s => ⌜Leaves e entry exit s⌝⟩⦄ := by
  have release := releaseVmx_spec e entry
  have restore := restoreAndFail_spec e entry
  mvcgen [rollBack, release, restore]

theorem adjustCr_spec {value : U64} {fixed0Msr fixed1Msr : U32}
    (valid : isFixedCrValueValid e.machine value fixed0Msr fixed1Msr = true) :
    ⦃fun s => ⌜Captured e entry s⌝⦄ adjustCr e value fixed0Msr fixed1Msr
    ⦃post⟨fun adjusted s => ⌜adjusted = value ∧ Captured e entry s⌝,
      fun exit s => ⌜Leaves e entry exit s⌝⟩⦄ := by
  mvcgen [adjustCr, readUnguarded, operate]
  all_goals have captured : Captured e entry _ := ‹_›
  · exact captured.toRecoverable
  · exact captured.toRecoverable
  · refine ⟨?_, captured⟩
    unfold isFixedCrValueValid at valid
    split at valid
    · rename_i fixed0 fixed1 atFixed0 atFixed1
      rw [Bool.and_eq_true, decide_eq_true_eq, decide_eq_true_eq] at valid
      rw [atFixed0, atFixed1]
      simp only [Option.getD_some]
      rw [Masks.and_eq_self valid.2, Masks.or_eq_self valid.1]
    · cases valid

theorem captured_claimed :
    Captured e entry
      { claimed entry with
        hostXss := if e.machine.xsavesEnabled then entry.xss else 0
        guestXss := if e.machine.xsavesEnabled then entry.xss else 0
        originalCr0 := entry.cr0
        originalCr4 := entry.cr4 } where
  xss := rfl
  hostXss := fun enabled => if_pos enabled
  guestXss := fun enabled => if_pos enabled
  prepared := fun _ => ⟨rfl, rfl⟩
  untouched := fun _ => ⟨rfl, rfl⟩
  nested := fun active => absurd active (by simp [claimed])
  outside := fun _ => ⟨id, rfl⟩
  cr4Prepared := rfl
  inactive := rfl
  originalCr0 := rfl
  originalCr4 := rfl

theorem captureHost_spec :
    ⦃fun s => ⌜s = claimed entry⌝⦄ captureHost e
    ⦃post⟨fun _ s => ⌜Captured e entry s⌝, fun exit s => ⌜Leaves e entry exit s⌝⟩⦄ := by
  mvcgen [captureHost, failLaunch]
  · subst_vars
    exact ⟨rfl, (captured_claimed e entry).rolledBack rfl rfl rfl⟩
  · subst_vars
    exact captured_claimed e entry

theorem prepareControlRegisters_spec (fixed : FixedBits e entry) :
    ⦃fun s => ⌜Captured e entry s⌝⦄ prepareControlRegisters e
    ⦃post⟨fun _ s => ⌜Outside e entry s⌝, fun exit s => ⌜Leaves e entry exit s⌝⟩⦄ := by
  have adjust := @adjustCr_spec e entry
  mvcgen [prepareControlRegisters, adjustCr0, adjustCr4, adjust, writeCr0, writeCr4, operate]
  case vc1.valid captured =>
    rw [captured.originalCr0]
    exact fixed.cr0
  case vc3.post.success.isTrue adjusted _ => exact adjusted.2.toRecoverable
  case vc4.valid adjusted _ _ =>
    have same := adjusted.2.originalCr4
    exact same ▸ fixed.cr4
  case vc5.post.success.isFalse.pre captured _ _ adjusted _ _ =>
    exact adjusted.2.withCr0 (adjusted.1.trans captured.originalCr0)
  case vc6.post.success.isFalse.post.success.isTrue adjusted _ => exact adjusted.2.toRecoverable
  case vc7.post.success.isFalse.post.success.isFalse adjusted _ _ _ => exact adjusted.2.prepareCr4 _

theorem enterVmx_spec :
    ⦃fun s => ⌜Outside e entry s⌝⦄ enterVmx e
    ⦃post⟨fun _ s => ⌜Entered e entry s⌝, fun exit s => ⌜Leaves e entry exit s⌝⟩⦄ := by
  have restore := restoreAndFail_spec e entry
  mvcgen [enterVmx, restore, operate, leaveVmx]
  all_goals have outside : Outside e entry _ := ‹_›
  · exact outside.toRecoverable
  · exact outside.enterVmx.leaveVmx outside.vmcsCurrent
  · exact False.elim
  · exact outside.enterVmx

theorem clearLaunchVmcs_spec :
    ⦃fun s => ⌜Entered e entry s⌝⦄ clearLaunchVmcs e
    ⦃post⟨fun _ s => ⌜Entered e entry s⌝, fun exit s => ⌜Leaves e entry exit s⌝⟩⦄ := by
  have restore := restoreAndFail_spec e entry
  mvcgen [clearLaunchVmcs, restore, operate, leaveVmx]
  all_goals have entered : Entered e entry _ := ‹_›
  · exact entered.toRecoverable
  · exact entered.leaveVmx entered.vmcsCurrent
  · exact False.elim
  · exact entered.clearVmcs
  · exact entered.leaveVmx entered.vmcsCurrent
  · exact False.elim

theorem loadLaunchVmcs_spec :
    ⦃fun s => ⌜Entered e entry s⌝⦄ loadLaunchVmcs e
    ⦃post⟨fun _ s => ⌜Loaded e entry s⌝, fun exit s => ⌜Leaves e entry exit s⌝⟩⦄ := by
  mvcgen [loadLaunchVmcs, operate]
  all_goals have entered : Entered e entry _ := ‹_›
  · exact entered.toRecoverable
  · exact ⟨entered.withVmcsCurrent _ _, entered.state, fun _ _ => ⟨rfl, rfl⟩⟩
  · exact ⟨entered.toInside, entered.state, fun _ loaded => absurd loaded ‹_›⟩
  · exact ⟨entered.toInside, entered.state, fun cleared _ => absurd cleared ‹_›⟩

theorem injectAfterVmptrld_spec :
    ⦃fun s => ⌜Loaded e entry s⌝⦄ injectAfterVmptrld e
    ⦃post⟨fun _ s => ⌜Loaded e entry s⌝, fun exit s => ⌜Leaves e entry exit s⌝⟩⦄ := by
  have undo := rollBack_spec e entry
  mvcgen [injectAfterVmptrld, undo]
  case vc1.isTrue.pre loaded => exact loaded.toInside
  case vc2.isTrue.post.success => exact False.elim

theorem readLaunchInstructionError_spec :
    ⦃fun s => ⌜Loaded e entry s⌝⦄ readLaunchInstructionError e
    ⦃post⟨fun _ s => ⌜Loaded e entry s⌝, fun exit s => ⌜Leaves e entry exit s⌝⟩⦄ := by
  mvcgen [readLaunchInstructionError, operate]
  all_goals have loaded : Loaded e entry _ := ‹_›
  · exact loaded.toRecoverable
  · exact loaded.toRecoverable

theorem setUpVmcs_spec :
    ⦃fun s => ⌜Loaded e entry s⌝⦄ setUpVmcs e
    ⦃post⟨fun _ s => ⌜Current e entry s⌝, fun exit s => ⌜Leaves e entry exit s⌝⟩⦄ := by
  have read := readLaunchInstructionError_spec e entry
  have undo := rollBack_spec e entry
  mvcgen [setUpVmcs, read, undo, operate]
  case vc1.isTrue.isTrue loaded _ => exact loaded.toRecoverable
  case vc3.isTrue.isFalse.isTrue.post.success.pre loaded => exact loaded.toInside
  case vc4.isTrue.isFalse.isTrue.post.success.post.success => exact False.elim
  case vc5.isTrue.isFalse.isFalse flags _ loaded _ _ =>
    have present : (vmxOk e.vmclearFlags && vmxOk e.vmptrldFlags) = true := flags
    rw [Bool.and_eq_true] at present
    obtain ⟨active, current⟩ := loaded.current present.1 present.2
    exact ⟨loaded.toInside, loaded.state, active, current⟩
  case vc7.isFalse.isTrue.post.success.pre loaded => exact loaded.toInside
  case vc8.isFalse.isTrue.post.success.post.success => exact False.elim
  case vc9.isFalse.isFalse missing passed _ _ => simp [missing] at passed

theorem writeGuestXss_spec (enabled : e.machine.xsavesEnabled = true) :
    ⦃fun s => ⌜Current e entry s⌝⦄ writeGuestXss e
    ⦃post⟨fun _ s => ⌜Current e entry s⌝, fun exit s => ⌜Leaves e entry exit s⌝⟩⦄ := by
  mvcgen [writeGuestXss, writeXssSafe]
  case vc1.isTrue.isTrue current _ _ _ _ =>
    have restored := current.withXss (current.guestXss enabled)
    exact ⟨⟨restored, current.active⟩, current.state, current.vmcsCurrent, current.currentVmcs⟩

theorem installXss_spec :
    ⦃fun s => ⌜Current e entry s⌝⦄ installXss e
    ⦃post⟨fun _ s => ⌜Current e entry s⌝, fun exit s => ⌜Leaves e entry exit s⌝⟩⦄ := by
  have write := writeGuestXss_spec e entry
  have release := releaseVmx_spec e entry
  have restore := restoreAndFail_spec e entry
  mvcgen [installXss, write, release, restore, writeXssSafe]
  case vc3.isTrue.post.success.isTrue.pre current => exact current.toInside
  case vc4.isTrue.post.success.isTrue.post.success.isTrue.pre
      enabled _ _ _ _ _ _ _ _ outside _ _ _ =>
    have restored := outside.withXss (outside.hostXss enabled)
    exact ⟨restored, outside.cr4Prepared, outside.inactive⟩
  case vc5.isTrue.post.success.isTrue.post.success.isTrue.post.success => exact False.elim
  case vc7.isTrue.post.success.isTrue.post.success.isFalse.post.success => exact False.elim

theorem launchFromCapture_spec (fixed : FixedBits e entry) :
    ⦃fun s => ⌜s = claimed entry⌝⦄ launchFromCapture e
    ⦃post⟨fun value s => ⌜value = 1 ∧ Ready e s⌝, fun exit s => ⌜Leaves e entry exit s⌝⟩⦄ := by
  have capture := captureHost_spec e entry
  have prepare := prepareControlRegisters_spec e entry fixed
  have enter := enterVmx_spec e entry
  have clear := clearLaunchVmcs_spec e entry
  have load := loadLaunchVmcs_spec e entry
  have inject := injectAfterVmptrld_spec e entry
  have setUp := setUpVmcs_spec e entry
  have install := installXss_spec e entry
  mvcgen [launchFromCapture, capture, prepare, enter, clear, load, inject, setUp, install]
  have current : Current e entry _ := ‹_›
  exact ⟨rfl, current.state, rfl, current.vmcsCurrent, current.currentVmcs⟩

/-- What leaves the handler, which may raise in its turn. -/
def Undoes (exit : LaunchExit) (s : LaunchState) : Prop :=
  ∀ value, exit = .returned value → value = 0 ∧ RolledBack entry s

variable {e entry} in
theorem Leaves.undoes {exit : LaunchExit} {s : LaunchState} (leaves : Leaves e entry exit s) :
    Undoes entry exit s := by
  intro value returned
  subst returned
  exact leaves

theorem undoVmx_spec :
    ⦃fun s => ⌜Recoverable e entry s⌝⦄ undoVmx e
    ⦃post⟨fun _ s => ⌜Recoverable e entry s ∧ s.vmxActive = false⌝,
      fun exit s => ⌜Undoes entry exit s⌝⟩⦄ := by
  have release := releaseVmx_spec e entry
  mvcgen [undoVmx, release]
  case vc1.isTrue.pre recoverable active => exact ⟨recoverable, active⟩
  case vc2.isTrue.post.success => exact fun outside => ⟨outside.toRecoverable, outside.inactive⟩
  case vc3.isTrue.post.except.handle => exact Leaves.undoes
  case vc4.isFalse recoverable inactive => exact ⟨recoverable, Bool.eq_false_iff.mpr inactive⟩

theorem undoXss_spec :
    ⦃fun s => ⌜Recoverable e entry s ∧ s.vmxActive = false⌝⦄ undoXss e
    ⦃post⟨fun _ s => ⌜Recoverable e entry s ∧ s.vmxActive = false⌝,
      fun exit s => ⌜Undoes entry exit s⌝⟩⦄ := by
  mvcgen [undoXss, writeXssSafe]
  case vc1.isTrue.isTrue enabled _ holds _ _ _ =>
    exact ⟨holds.1.withXss (holds.1.hostXss enabled), holds.2⟩

theorem undoControlRegisters_spec :
    ⦃fun s => ⌜Recoverable e entry s ∧ s.vmxActive = false⌝⦄ undoControlRegisters e
    ⦃post⟨fun _ s => ⌜RolledBack entry { s with state := .failed }⌝,
      fun exit s => ⌜Undoes entry exit s⌝⟩⦄ := by
  mvcgen [undoControlRegisters, restoreControlRegisters, writeCr0, writeCr4, operate]
  case vc1.isTrue.isTrue =>
    intro value returned
    cases returned
  case vc2.isTrue.isFalse.isTrue =>
    intro value returned
    cases returned
  case vc3.isTrue.isFalse.isFalse holds prepared _ _ _ _ => exact holds.1.restored prepared holds.2
  case vc4.isFalse holds unprepared =>
    obtain ⟨cr0, cr4⟩ := holds.1.untouched (Bool.eq_false_iff.mpr unprepared)
    exact holds.1.rolledBack holds.2 cr0 cr4

theorem undoLaunch_spec :
    ⦃fun s => ⌜Recoverable e entry s⌝⦄ undoLaunch e
    ⦃post⟨fun _ _ => ⌜False⌝, fun exit s => ⌜Undoes entry exit s⌝⟩⦄ := by
  have vmx := undoVmx_spec e entry
  have xss := undoXss_spec e entry
  have controlRegisters := undoControlRegisters_spec e entry
  mvcgen [undoLaunch, vmx, xss, controlRegisters, failLaunch]
  case vc4.post.success.post.success.post.success rolledBack _ =>
    intro value returned
    cases returned
    exact ⟨rfl, rolledBack⟩

end

end Knhv.Vmx
