import Mathlib
import Knhv.Vmx.Exit

open Std.Do

set_option mvcgen.warning false

namespace Knhv.Vmx

/-- A triple read at the one run it speaks of. -/
theorem spec_run {σ α : Type} {P : σ → Prop} {x : StateM σ α} {Q : α → σ → Prop}
    (spec : ⦃fun s => ⌜P s⌝⦄ x ⦃⇓ a s => ⌜Q a s⌝⦄) {s s' : σ} {a : α} (holds : P s)
    (run : x s = (a, s')) : Q a s' := by
  have result : Q (x s).1 (x s).2 := spec s holds
  rw [run] at result
  exact result

theorem spec_intro {σ α : Type} {P : σ → Prop} {x : StateM σ α} {Q : α → σ → Prop}
    (runs : ∀ s, P s → Q (x s).1 (x s).2) : ⦃fun s => ⌜P s⌝⦄ x ⦃⇓ a s => ⌜Q a s⌝⦄ :=
  runs

/-- The values written to GUEST_RIP, in order. -/
def ripWrites (log : List VmcsAccess) : List U64 :=
  log.filterMap fun access => if access.field = .guestRip then access.written else none

/-- The valid events written to the VM-entry interruption field, in order. -/
def armedEvents (log : List VmcsAccess) : List U64 :=
  log.filterMap fun access =>
    if access.field = .controlVmEntryIntrInfoField then
      access.written.filter fun info => info &&& kVmEntryIntrInfoValid.setWidth 64 ≠ 0
    else
      none

/-- What decides how the exit ends. -/
structure Steering where
  haltVm : Bool
  abortVm : Bool
  guestRip : U64
  vmcs : VmcsField → U64
  log : List VmcsAccess

def ExitState.steering (s : ExitState) : Steering :=
  ⟨s.ctx.haltVm, s.ctx.abortVm, s.ctx.guestRip, s.vmcs, s.log⟩

@[simp] theorem steering_vmcs (s : ExitState) : s.steering.vmcs = s.vmcs := rfl

@[simp] theorem steering_log (s : ExitState) : s.steering.log = s.log := rfl

/-- Neither flag is set. -/
def Quiet (now : Steering) : Prop := now.haltVm = false ∧ now.abortVm = false

/-- The vCPU will be parked. -/
def Stopped (now : Steering) : Prop := now.haltVm = true ∧ now.abortVm = false

/-- Every access so far succeeded, no event was being delivered, and neither
flag is set. -/
structure Clean (start : ExitState) (now : Steering) : Prop where
  quiet : Quiet now
  accesses : ∀ access ∈ now.log, vmxOk access.flags = true
  delivered : start.vmcs .vmExitIdtVectoringInfo &&& kVmEntryIntrInfoValid.setWidth 64 = 0

/-- The instruction has been neither skipped nor faulted yet. -/
structure Pending (start : ExitState) (now : Steering) : Prop extends Clean start now where
  unmoved : ripWrites now.log = []
  unarmed : armedEvents now.log = []
  vmcsRip : now.vmcs .guestRip = start.vmcs .guestRip
  cleared : now.vmcs .controlVmEntryIntrInfoField = 0

/-- The context still has the RIP of the exit as well. -/
structure Live (start : ExitState) (now : Steering) : Prop extends Pending start now where
  guestRip : now.guestRip = start.vmcs .guestRip

/-- One #UD or #GP is armed and RIP stands where it stood. -/
structure Armed (start : ExitState) (now : Steering) : Prop extends Clean start now where
  unmoved : ripWrites now.log = []
  vmcsRip : now.vmcs .guestRip = start.vmcs .guestRip
  armed : ∃ (vector : U8) (hasErrorCode : Bool), (vector = 6 ∨ vector = 13) ∧
    armedEvents now.log = [(interruptionInfo vector hasErrorCode).setWidth 64] ∧
    now.vmcs .controlVmEntryIntrInfoField = (interruptionInfo vector hasErrorCode).setWidth 64

/-- A refused instruction is faulted or the vCPU is parked. -/
def Refused (start : ExitState) (now : Steering) : Prop := Stopped now ∨ Armed start now

/-- How a handler leaves the exit: parked, done with the instruction, or with a
fault for it. -/
def Settled (start : ExitState) (done : Bool) (now : Steering) : Prop :=
  Stopped now ∨ (done = true ∧ Live start now) ∨ (done = false ∧ Armed start now)

theorem Live.settled {start : ExitState} {now : Steering} (live : Live start now) :
    Settled start true now :=
  Or.inr (Or.inl ⟨rfl, live⟩)

theorem Refused.settled {start : ExitState} {now : Steering} (refused : Refused start now) :
    Settled start false now :=
  refused.imp id fun armed => Or.inr ⟨rfl, armed⟩

theorem Stopped.settled {start : ExitState} {now : Steering} (stopped : Stopped now) (done : Bool) :
    Settled start done now :=
  Or.inl stopped

/-- A field whose contents do not decide how the guest goes on. -/
def Plain (field : VmcsField) : Prop :=
  field ≠ .guestRip ∧ field ≠ .controlVmEntryIntrInfoField

instance (field : VmcsField) : Decidable (Plain field) :=
  inferInstanceAs (Decidable (_ ∧ _))

@[simp] theorem ripWrites_append (log more : List VmcsAccess) :
    ripWrites (log ++ more) = ripWrites log ++ ripWrites more :=
  List.filterMap_append

@[simp] theorem armedEvents_append (log more : List VmcsAccess) :
    armedEvents (log ++ more) = armedEvents log ++ armedEvents more :=
  List.filterMap_append

/-- The state behind one access that succeeded. -/
def ExitState.accessed (s : ExitState) (access : VmcsAccess) : ExitState :=
  { s with
    vmcs := match access.written with
      | some value => Function.update s.vmcs access.field value
      | none => s.vmcs
    log := s.log ++ [access] }

theorem accessed_vmcs_self (s : ExitState) (field : VmcsField) (value flags : U64) :
    (s.accessed ⟨field, some value, flags⟩).vmcs field = value := by
  simp only [ExitState.accessed, Function.update_self]

theorem accessed_vmcs_other (s : ExitState) {field other : VmcsField} (value flags : U64)
    (apart : other ≠ field) : (s.accessed ⟨field, some value, flags⟩).vmcs other = s.vmcs other := by
  simp only [ExitState.accessed, Function.update_of_ne apart]

theorem accessed_vmcs_unwritten (s : ExitState) {field : VmcsField} {access : VmcsAccess}
    (apart : access.written = none ∨ field ≠ access.field) :
    (s.accessed access).vmcs field = s.vmcs field := by
  rcases apart with read | other
  · simp only [ExitState.accessed, read]
  · cases written : access.written with
    | none => simp only [ExitState.accessed, written]
    | some value =>
      simp only [ExitState.accessed, written]
      exact Function.update_of_ne other _ _

theorem armedEvents_entry (info flags : U64) :
    armedEvents [⟨.controlVmEntryIntrInfoField, some info, flags⟩] =
      if info &&& kVmEntryIntrInfoValid.setWidth 64 ≠ 0 then [info] else [] := by
  split <;> simp_all [armedEvents, Option.filter]

/-- One VMCS access either succeeds, and then does nothing else, or it fails and
leaves the guest context alone. -/
def Accessed (before : ExitState) (field : VmcsField) (written : Option U64) (ok : Bool)
    (now : ExitState) : Prop :=
  (ok = true ∧ ∃ flags, vmxOk flags = true ∧ now = before.accessed ⟨field, written, flags⟩) ∨
    (ok = false ∧ now.ctx = before.ctx)

theorem hvVmReadChecked_spec (m : Machine) (field : VmcsField) (before : ExitState) :
    ⦃fun s => ⌜s = before⌝⦄ hvVmReadChecked m field
    ⦃⇓ result s => ⌜s.ctx = before.ctx ∧ (vmxOk result.1 = true →
      result.2 = some (before.vmcs field) ∧ s = before.accessed ⟨field, none, result.1⟩)⌝⦄ := by
  rintro _ rfl
  refine ⟨rfl, fun ok => ⟨if_pos ok, rfl⟩⟩

theorem hvVmWrite_spec (m : Machine) (field : VmcsField) (value : U64) (before : ExitState) :
    ⦃fun s => ⌜s = before⌝⦄ hvVmWrite m field value
    ⦃⇓ flags s => ⌜s.ctx = before.ctx ∧ (vmxOk flags = true →
      s = before.accessed ⟨field, some value, flags⟩)⌝⦄ := by
  rintro s rfl
  refine ⟨rfl, fun ok => ?_⟩
  have updated : vmxOk (m.vmxFlags s.log.length) = true := ok
  simp only [updated, if_true]
  rfl

theorem readInstructionError_spec (m : Machine) (defined : Bool) (c : GuestContext) :
    ⦃fun s => ⌜s.ctx = c⌝⦄ readInstructionError m defined ⦃⇓ _ s => ⌜s.ctx = c⌝⦄ := by
  intro s same
  cases defined with
  | true => exact same
  | false => exact same

theorem modifyVcpu_spec (f : VcpuContext → VcpuContext) (c : GuestContext) :
    ⦃fun s => ⌜s.ctx = c⌝⦄ modifyVcpu f ⦃⇓ _ s => ⌜s.ctx = c⌝⦄ :=
  fun _ same => same

theorem Accessed.failed {before now : ExitState} {field : VmcsField} {written : Option U64}
    (same : now.ctx = before.ctx) : Accessed before field written false now :=
  Or.inr ⟨rfl, same⟩

theorem vmReadChecked_spec (m : Machine) (field : VmcsField) (before : ExitState) :
    ⦃fun s => ⌜s = before⌝⦄ vmReadChecked m field
    ⦃⇓ value s => ⌜Accessed before field none value.isSome s ∧
      (value.isSome = true → value = some (before.vmcs field))⌝⦄ := by
  mvcgen [vmReadChecked, hvVmReadChecked_spec, readInstructionError_spec, modifyVcpu_spec]
  case vc1.post.success.isTrue s same result ok now effect =>
    subst same
    obtain ⟨value, accessed⟩ := effect.2 ok
    rw [value]
    exact ⟨Or.inl ⟨rfl, _, ok, accessed⟩, fun _ => rfl⟩
  all_goals
    refine ⟨Accessed.failed ?_, by simp⟩
    simp_all only

theorem vmWriteChecked_spec (m : Machine) (field : VmcsField) (value : U64) (before : ExitState) :
    ⦃fun s => ⌜s = before⌝⦄ vmWriteChecked m field value
    ⦃⇓ ok s => ⌜Accessed before field (some value) ok s⌝⦄ := by
  mvcgen [vmWriteChecked, hvVmWrite_spec, readInstructionError_spec, modifyVcpu_spec]
  case vc2.isFalse.post.success.isTrue s same _ flags ok now effect =>
    subst same
    exact Or.inl ⟨rfl, _, ok, effect.2 ok⟩
  all_goals
    refine Accessed.failed ?_
    simp_all only

/-- A predicate of the running exit that survives every successful read, and
every successful write to a field of `writable`. -/
structure Robust (writable : VmcsField → Prop) (P : ExitState → Prop) : Prop where
  quiet : ∀ s, P s → Quiet s.steering
  accessed : ∀ s access, P s → vmxOk access.flags = true →
    (access.written = none ∨ writable access.field) → P (s.accessed access)

/-- Behind an access that may have failed: if it succeeded `P` holds, else only
the flags are known. -/
structure Kept (P : ExitState → Prop) (ok : Bool) (s : ExitState) : Prop where
  held : ok = true → P s
  quiet : Quiet s.steering

theorem Kept.passed {P : ExitState → Prop} {ok : Bool} {s : ExitState} (kept : Kept P ok s)
    (passed : ¬(!ok) = true) : P s :=
  kept.held (by simpa using passed)

theorem Kept.failed {P Q : ExitState → Prop} {ok : Bool} {s : ExitState} (kept : Kept P ok s) :
    Kept Q false s :=
  ⟨fun impossible => absurd impossible Bool.false_ne_true, kept.quiet⟩

section

variable {W : VmcsField → Prop} {P : ExitState → Prop} (robust : Robust W P)

include robust

theorem Robust.kept {before now : ExitState} {field : VmcsField} {written : Option U64} {ok : Bool}
    (holds : P before) (allowed : written = none ∨ W field)
    (accessed : Accessed before field written ok now) : Kept P ok now := by
  rcases accessed with ⟨rfl, flags, success, rfl⟩ | ⟨rfl, same⟩
  · have after : P (before.accessed ⟨field, written, flags⟩) :=
      robust.accessed before _ holds success allowed
    exact ⟨fun _ => after, robust.quiet _ after⟩
  · refine ⟨fun impossible => absurd impossible Bool.false_ne_true, ?_⟩
    have quiet : Quiet before.steering := robust.quiet before holds
    simp only [Quiet, ExitState.steering, same] at quiet ⊢
    exact quiet

theorem Robust.read (m : Machine) (field : VmcsField) :
    ⦃fun s => ⌜P s⌝⦄ vmReadChecked m field
    ⦃⇓ value s => ⌜Kept P value.isSome s ∧ ∀ v, value = some v → s.vmcs field = v⌝⦄ := by
  refine spec_intro fun s holds => ?_
  rcases run : vmReadChecked m field s with ⟨value, now⟩
  obtain ⟨accessed, read⟩ := spec_run (vmReadChecked_spec m field s) rfl run
  refine ⟨robust.kept holds (Or.inl rfl) accessed, ?_⟩
  rintro v rfl
  rcases accessed with ⟨_, flags, _, rfl⟩ | ⟨failed, _⟩
  · exact (Option.some.inj (read rfl)).symm
  · exact absurd failed (by simp)

theorem Robust.readKept (m : Machine) (field : VmcsField) :
    ⦃fun s => ⌜P s⌝⦄ vmReadChecked m field ⦃⇓ value s => ⌜Kept P value.isSome s⌝⦄ :=
  fun s holds => (robust.read m field s holds).1

theorem Robust.write (m : Machine) (field : VmcsField) (value : U64) (allowed : W field) :
    ⦃fun s => ⌜P s⌝⦄ vmWriteChecked m field value ⦃⇓ ok s => ⌜Kept P ok s⌝⦄ :=
  fun s holds => robust.kept holds (Or.inr allowed) (vmWriteChecked_spec m field value s s rfl)

theorem Robust.writeAll (m : Machine) (writes : List (VmcsField × U64))
    (allowed : ∀ write ∈ writes, W write.1) :
    ⦃fun s => ⌜P s⌝⦄ Vmx.writeAll m writes ⦃⇓ ok s => ⌜Kept P ok s⌝⦄ := by
  induction writes with
  | nil => exact fun s holds => ⟨fun _ => holds, robust.quiet s holds⟩
  | cons write rest ih =>
    have later := ih fun write member => allowed write (List.mem_cons_of_mem _ member)
    have first := robust.write m
    mvcgen [Vmx.writeAll, first, later]
    case vc1.allowed => exact allowed write List.mem_cons_self
    case vc3.cons.post.success.isTrue done _ kept => exact kept.held done
    case vc4.cons.post.success.isFalse kept => exact kept.failed

theorem Robust.readLocals (m : Machine) (fields : List VmcsField) :
    ⦃fun s => ⌜P s⌝⦄ Vmx.readLocals m fields ⦃⇓ values s => ⌜Kept P values.isSome s⌝⦄ := by
  induction fields with
  | nil => exact fun s holds => ⟨fun _ => holds, robust.quiet s holds⟩
  | cons field rest ih =>
    have first := robust.read m
    mvcgen [Vmx.readLocals, first, ih]
    case vc2.cons.post.success.h_1 kept => exact kept.1
    case vc3.cons.post.success.h_2.pre kept => exact kept.1.held rfl
    case vc4.cons.post.success.h_2.post.success kept =>
      rw [Option.isSome_map]
      exact kept

/-- One read of a chain: what it stores establishes `Q`, from where the rest of
the chain is run. -/
theorem Robust.readInto_step {Q R : ExitState → Prop} {m : Machine} {field : VmcsField}
    {store : U64 → ExitState → ExitState} {rest : List (VmcsField × (U64 → ExitState → ExitState))}
    (stores : ∀ s, P s → Q (store (s.vmcs field) s))
    (later : ⦃fun s => ⌜Q s⌝⦄ Vmx.readInto m rest ⦃⇓ ok s => ⌜Kept R ok s⌝⦄) :
    ⦃fun s => ⌜P s⌝⦄ Vmx.readInto m ((field, store) :: rest) ⦃⇓ ok s => ⌜Kept R ok s⌝⦄ := by
  have first := robust.read m
  mvcgen [Vmx.readInto, first, later]
  case vc2.post.success.h_1 kept => exact kept.1.failed
  case vc3.post.success.h_2 value _ now kept _ =>
    have here := stores now (kept.1.held rfl)
    rw [kept.2 value rfl] at here
    exact here

theorem Robust.readInto (m : Machine) (entries : List (VmcsField × (U64 → ExitState → ExitState)))
    (stores : ∀ entry ∈ entries, ∀ s v, P s → P (entry.2 v s)) :
    ⦃fun s => ⌜P s⌝⦄ Vmx.readInto m entries ⦃⇓ ok s => ⌜Kept P ok s⌝⦄ := by
  induction entries with
  | nil => exact fun s holds => ⟨fun _ => holds, robust.quiet s holds⟩
  | cons entry rest ih =>
    exact robust.readInto_step (fun s holds => stores entry List.mem_cons_self s _ holds)
      (ih fun other member => stores other (List.mem_cons_of_mem _ member))

end

theorem robust_quiet : Robust (fun _ => True) fun s => Quiet s.steering where
  quiet := fun _ quiet => quiet
  accessed := fun _ _ quiet _ _ => quiet

theorem readEach_quiet (m : Machine) (fields : List VmcsField) :
    ⦃fun s => ⌜Quiet s.steering⌝⦄ readEach m fields ⦃⇓ _ s => ⌜Quiet s.steering⌝⦄ := by
  induction fields with
  | nil => exact fun s quiet => quiet
  | cons field rest ih =>
    have first := robust_quiet.read m
    mvcgen [readEach, first, ih]
    case vc2.cons.post.success.pre kept => exact kept.1.quiet

/-- A chain that reads on after a failure ends with every value it asked for, or
with none. `V` is where those values come from. -/
theorem Robust.readEach {W : VmcsField → Prop} {P : ExitState → Prop} (robust : Robust W P)
    {V : VmcsField → U64} (stored : ∀ s, P s → s.vmcs = V) (m : Machine)
    (fields : List VmcsField) :
    ⦃fun s => ⌜P s⌝⦄ Vmx.readEach m fields
    ⦃⇓ values s => ⌜Kept P values.isSome s ∧
      ∀ found, values = some found → ∀ field ∈ fields, found field = V field⌝⦄ := by
  induction fields with
  | nil =>
    intro s holds
    exact ⟨⟨fun _ => holds, robust.quiet s holds⟩, fun _ _ _ member => absurd member (by simp)⟩
  | cons field rest ih =>
    refine spec_intro fun s holds => ?_
    rcases first : vmReadChecked m field s with ⟨answer, middle⟩
    rcases later : Vmx.readEach m rest middle with ⟨answers, last⟩
    obtain ⟨kept, value⟩ := spec_run (robust.read m field) holds first
    cases answer with
    | none =>
      have run : Vmx.readEach m (field :: rest) s = (none, last) := by
        simp only [Vmx.readEach, bind, StateT.bind, first, later]
        rfl
      rw [run]
      have quiet := spec_run (readEach_quiet m rest) kept.quiet later
      exact ⟨⟨fun impossible => absurd impossible (by simp), quiet⟩, by simp⟩
    | some v =>
      obtain ⟨keptLater, values⟩ := spec_run ih (kept.held rfl) later
      cases answers with
      | none =>
        have run : Vmx.readEach m (field :: rest) s = (none, last) := by
          simp only [Vmx.readEach, bind, StateT.bind, first, later]
          rfl
        rw [run]
        exact ⟨keptLater, by simp⟩
      | some found =>
        have run : Vmx.readEach m (field :: rest) s =
            (some (Function.update found field v), last) := by
          simp only [Vmx.readEach, bind, StateT.bind, first, later]
          rfl
        rw [run]
        refine ⟨keptLater, fun _ same other member => ?_⟩
        obtain rfl := Option.some.inj same
        by_cases here : other = field
        · subst here
          rw [Function.update_self, ← value v rfl, stored middle (kept.held rfl)]
        · rw [Function.update_of_ne here]
          exact values found rfl other ((List.mem_cons.mp member).resolve_left here)

/-- One write of a chain. -/
theorem write_step {P Q : ExitState → Prop} {m : Machine} {field : VmcsField} {value : U64}
    (quiet : ∀ s, P s → Quiet s.steering) (quietAfter : ∀ s, Q s → Quiet s.steering)
    (writes : ∀ s flags, P s → vmxOk flags = true → Q (s.accessed ⟨field, some value, flags⟩)) :
    ⦃fun s => ⌜P s⌝⦄ vmWriteChecked m field value ⦃⇓ ok s => ⌜Kept Q ok s⌝⦄ := by
  refine spec_intro fun s holds => ?_
  rcases run : vmWriteChecked m field value s with ⟨ok, now⟩
  rcases spec_run (vmWriteChecked_spec m field value s) rfl run with
    ⟨rfl, flags, success, rfl⟩ | ⟨rfl, same⟩
  · have after := writes s flags holds success
    exact ⟨fun _ => after, quietAfter _ after⟩
  · refine ⟨fun impossible => absurd impossible Bool.false_ne_true, ?_⟩
    have before : Quiet s.steering := quiet s holds
    simp only [Quiet, ExitState.steering, same] at before ⊢
    exact before

theorem writeAll_step {P Q R : ExitState → Prop} {m : Machine} {field : VmcsField} {value : U64}
    {rest : List (VmcsField × U64)} (quiet : ∀ s, P s → Quiet s.steering)
    (quietAfter : ∀ s, Q s → Quiet s.steering)
    (writes : ∀ s flags, P s → vmxOk flags = true → Q (s.accessed ⟨field, some value, flags⟩))
    (later : ⦃fun s => ⌜Q s⌝⦄ writeAll m rest ⦃⇓ ok s => ⌜Kept R ok s⌝⦄) :
    ⦃fun s => ⌜P s⌝⦄ writeAll m ((field, value) :: rest) ⦃⇓ ok s => ⌜Kept R ok s⌝⦄ := by
  have first := @write_step P Q m field value quiet quietAfter writes
  mvcgen [writeAll, first, later]
  case vc2.post.success.isTrue ok _ kept => exact kept.held ok
  case vc3.post.success.isFalse kept => exact kept.failed

section

variable {log : List VmcsAccess} {access : VmcsAccess}
  (silent : access.written = none ∨ Plain access.field)

include silent

theorem ripWrites_silent : ripWrites (log ++ [access]) = ripWrites log := by
  have quiet : ripWrites [access] = [] := by
    rcases silent with read | plain
    · simp [ripWrites, read]
    · simp [ripWrites, plain.1]
  rw [ripWrites_append, quiet, List.append_nil]

theorem armedEvents_silent : armedEvents (log ++ [access]) = armedEvents log := by
  have quiet : armedEvents [access] = [] := by
    rcases silent with read | plain
    · simp [armedEvents, read]
    · simp [armedEvents, plain.2]
  rw [armedEvents_append, quiet, List.append_nil]

theorem accessed_vmcs_silent (s : ExitState) {field : VmcsField} (steers : ¬Plain field) :
    (s.accessed access).vmcs field = s.vmcs field :=
  accessed_vmcs_unwritten s (silent.imp id fun plain same => steers (same ▸ plain))

end

theorem accesses_append {log : List VmcsAccess} {access : VmcsAccess}
    (accesses : ∀ earlier ∈ log, vmxOk earlier.flags = true) (ok : vmxOk access.flags = true) :
    ∀ any ∈ log ++ [access], vmxOk any.flags = true := by
  intro any member
  rcases List.mem_append.mp member with earlier | last
  · exact accesses any earlier
  · rw [List.mem_singleton.mp last]
    exact ok

theorem Clean.accessed {start s : ExitState} {access : VmcsAccess} (clean : Clean start s.steering)
    (ok : vmxOk access.flags = true) : Clean start (s.accessed access).steering where
  quiet := clean.quiet
  accesses := accesses_append clean.accesses ok
  delivered := clean.delivered

theorem Pending.accessed {start s : ExitState} {access : VmcsAccess}
    (pending : Pending start s.steering) (ok : vmxOk access.flags = true)
    (silent : access.written = none ∨ Plain access.field) :
    Pending start (s.accessed access).steering where
  toClean := pending.toClean.accessed ok
  unmoved := (ripWrites_silent silent).trans pending.unmoved
  unarmed := (armedEvents_silent silent).trans pending.unarmed
  vmcsRip := (accessed_vmcs_silent silent s (by decide)).trans pending.vmcsRip
  cleared := (accessed_vmcs_silent silent s (by decide)).trans pending.cleared

theorem robust_live (start : ExitState) : Robust Plain fun s => Live start s.steering where
  quiet := fun _ live => live.quiet
  accessed := fun _ _ live ok silent =>
    { live.toPending.accessed ok silent with guestRip := live.guestRip }

theorem robust_armed (start : ExitState) : Robust Plain fun s => Armed start s.steering where
  quiet := fun _ armed => armed.quiet
  accessed := fun s access armed ok silent =>
    { armed.toClean.accessed ok with
      unmoved := (ripWrites_silent silent).trans armed.unmoved
      vmcsRip := (accessed_vmcs_silent silent s (by decide)).trans armed.vmcsRip
      armed := by
        obtain ⟨vector, hasErrorCode, fault, events, field⟩ := armed.armed
        refine ⟨vector, hasErrorCode, fault, (armedEvents_silent silent).trans events, ?_⟩
        exact (accessed_vmcs_silent silent s (by decide)).trans field }

end Knhv.Vmx
