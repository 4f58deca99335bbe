import Mathlib
import Knhv.Vmx.AccessFrame
import Knhv.Vmx.Fatal

open Std.Do

set_option mvcgen.warning false

namespace Knhv.Vmx

/-- The field was read, and successfully. -/
def ReadOk (reads : List VmcsAccess) (field : VmcsField) : Prop :=
  ∃ access ∈ reads, access.field = field ∧ access.written = none ∧ vmxOk access.flags = true

/-- The field was read, and the VMREAD failed. -/
def ReadFailed (reads : List VmcsAccess) (field : VmcsField) : Prop :=
  ∃ access ∈ reads, access.field = field ∧ access.written = none ∧ vmxOk access.flags = false

instance (reads : List VmcsAccess) (field : VmcsField) : Decidable (ReadOk reads field) :=
  inferInstanceAs (Decidable (∃ access ∈ reads, _))

instance (reads : List VmcsAccess) (field : VmcsField) : Decidable (ReadFailed reads field) :=
  inferInstanceAs (Decidable (∃ access ∈ reads, _))

/-- The accesses since `before`. -/
def accessesSince (before now : ExitState) : List VmcsAccess := now.log.drop before.log.length

/-- Every field of the list is read once, in this order, and nothing else but
the instruction error. -/
structure Logged (before : ExitState) (fields : List VmcsField) (reads : List VmcsAccess)
    (now : ExitState) : Prop where
  log : now.log = before.log ++ reads
  plain : ∀ access ∈ reads, access.written = none
  once : ∀ field ≠ .vmInstructionError,
    reads.countP (fun access => access.field = field) = fields.count field

theorem Logged.nil {before now : ExitState} (same : now.log = before.log) :
    Logged before [] [] now where
  log := by rw [same, List.append_nil]
  plain := fun _ member => absurd member List.not_mem_nil
  once := fun _ _ => rfl

theorem Logged.append {first second third : ExitState} {some more : List VmcsField}
    {earlier later : List VmcsAccess} (before : Logged first some earlier second)
    (after : Logged second more later third) :
    Logged first (some ++ more) (earlier ++ later) third where
  log := by rw [after.log, before.log, List.append_assoc]
  plain := fun access member =>
    (List.mem_append.mp member).elim (before.plain access) (after.plain access)
  once := fun field apart => by
    rw [List.countP_append, List.count_append, before.once field apart, after.once field apart]

theorem Logged.accesses {before now : ExitState} {fields : List VmcsField}
    {reads : List VmcsAccess} (logged : Logged before fields reads now) :
    accessesSince before now = reads := by
  rw [accessesSince, logged.log, List.drop_left]

theorem readOk_append {earlier later : List VmcsAccess} {field : VmcsField} :
    ReadOk (earlier ++ later) field ↔ ReadOk earlier field ∨ ReadOk later field := by
  simp only [ReadOk, List.mem_append, or_and_right, exists_or]

theorem Logged.not_readOk {before now : ExitState} {fields : List VmcsField}
    {reads : List VmcsAccess} (logged : Logged before fields reads now) {field : VmcsField}
    (apart : field ≠ .vmInstructionError) (absent : field ∉ fields) : ¬ReadOk reads field := by
  rintro ⟨access, member, here, -⟩
  have count := logged.once field apart
  rw [List.count_eq_zero_of_not_mem absent, List.countP_eq_zero] at count
  exact count access member (by simpa using here)

/-- A field that was read once was read successfully or not. -/
theorem Logged.readFailed_iff {before now : ExitState} {fields : List VmcsField}
    {reads : List VmcsAccess} (logged : Logged before fields reads now) {field : VmcsField}
    (apart : field ≠ .vmInstructionError) (single : fields.count field = 1) :
    ReadFailed reads field ↔ ¬ReadOk reads field := by
  have count := logged.once field apart
  rw [single, List.countP_eq_length_filter, List.length_eq_one_iff] at count
  obtain ⟨only, shape⟩ := count
  have unique (access : VmcsAccess) (member : access ∈ reads) (here : access.field = field) :
      access = only := by
    have inside : access ∈ reads.filter fun access => access.field = field :=
      List.mem_filter.mpr ⟨member, by simpa using here⟩
    rw [shape] at inside
    exact List.mem_singleton.mp inside
  constructor
  · rintro ⟨access, member, here, -, failed⟩ ⟨other, present, there, -, ok⟩
    rw [unique access member here] at failed
    rw [unique other present there] at ok
    exact absurd (failed.symm.trans ok) Bool.false_ne_true
  · intro notOk
    have inside : only ∈ reads.filter fun access => access.field = field :=
      shape ▸ List.mem_singleton.mpr rfl
    obtain ⟨member, here⟩ := List.mem_filter.mp inside
    have here : only.field = field := by simpa using here
    have plain := logged.plain only member
    refine ⟨only, member, here, plain, ?_⟩
    by_contra ok
    exact notOk ⟨only, member, here, plain, by simpa using ok⟩

/-- The validity bits but the one for failed reads are the same. -/
def SameEvidence (before now : VcpuContext) : Prop :=
  ∀ i, i ≠ 6 →
    now.vmcsDiagnosticValidity.getLsbD i = before.vmcsDiagnosticValidity.getLsbD i

theorem SameEvidence.trans {first second third : VcpuContext} (before : SameEvidence first second)
    (after : SameEvidence second third) : SameEvidence first third :=
  fun i other => (after i other).trans (before i other)

/-- One VMREAD: its answer, and what it leaves in the log and in the evidence. -/
structure Fetched (m : Machine) (field : VmcsField) (before : ExitState) (value : Option U64)
    (now : ExitState) : Prop where
  reads : ∃ reads, Logged before [field] reads now ∧ (ReadOk reads field ↔ value.isSome = true)
  evidence : SameEvidence before.vcpu now.vcpu
  value : value = if NextOk m before then some (before.vmcs field) else none

section

variable (m : Machine)

theorem setReadFailure_sameEvidence (vcpu : VcpuContext) :
    SameEvidence vcpu (setVmcsDiagnosticValidity kValidityVmcsReadFailure vcpu) := by
  intro i other
  have outside : (1#64 <<< 6).getLsbD i = false := by
    rw [BitVec.getLsbD_shiftLeft]
    simp
    omega
  simp only [setVmcsDiagnosticValidity, kValidityVmcsReadFailure, bit, BitVec.getLsbD_or, outside,
    Bool.or_false]

/-- Behind the access to `field`: at most the instruction error has been read
since. -/
structure Followed (field : VmcsField) (before now : ExitState) : Prop where
  log : ∃ extra, now.log = before.log ++ ⟨field, none, m.vmxFlags before.log.length⟩ :: extra ∧
    ∀ access ∈ extra, access.field = .vmInstructionError ∧ access.written = none
  evidence : SameEvidence before.vcpu now.vcpu

section

variable (field : VmcsField) (before : ExitState)

theorem hvVmReadChecked_followed :
    ⦃fun s => ⌜s = before⌝⦄ hvVmReadChecked m field
    ⦃⇓ result s => ⌜result = (m.vmxFlags before.log.length,
        if NextOk m before then some (before.vmcs field) else none) ∧
      Followed m field before s⌝⦄ := by
  refine spec_intro fun s same => ?_
  subst same
  refine ⟨rfl, ⟨[], rfl, fun _ member => absurd member List.not_mem_nil⟩, fun _ _ => rfl⟩

theorem modifyVcpu_followed (f : VcpuContext → VcpuContext)
    (keeps : ∀ vcpu, SameEvidence vcpu (f vcpu)) :
    ⦃fun s => ⌜Followed m field before s⌝⦄ modifyVcpu f ⦃⇓ _ s => ⌜Followed m field before s⌝⦄ :=
  spec_intro fun s followed => ⟨followed.log, followed.evidence.trans (keeps s.vcpu)⟩

theorem readInstructionError_followed (defined : Bool) :
    ⦃fun s => ⌜Followed m field before s⌝⦄ readInstructionError m defined
    ⦃⇓ _ s => ⌜Followed m field before s⌝⦄ := by
  refine spec_intro fun s followed => ?_
  cases defined with
  | false => exact followed
  | true =>
    obtain ⟨extra, log, errors⟩ := followed.log
    refine ⟨⟨extra ++ [⟨.vmInstructionError, none, m.vmxFlags s.log.length⟩], ?_, ?_⟩,
      followed.evidence⟩
    · show s.log ++ [_] = _
      rw [log, List.append_assoc, List.cons_append]
    · intro access member
      rcases List.mem_append.mp member with old | new
      · exact errors access old
      · rw [List.mem_singleton.mp new]
        exact ⟨rfl, rfl⟩

theorem publishVmcsFailure_sameEvidence (reason : VmcsFailureReason) (arg0 arg1 : U64)
    (vcpu : VcpuContext) : SameEvidence vcpu (publishVmcsFailure reason arg0 arg1 vcpu) := by
  intro i _
  by_cases vacant : vcpu.vmcsFailureCommitState = .empty
  · simp only [publishVmcsFailure, vacant, if_true]
  · simp only [publishVmcsFailure, vacant, if_false]

theorem vmReadChecked_followed :
    ⦃fun s => ⌜s = before⌝⦄ vmReadChecked m field
    ⦃⇓ value s => ⌜Followed m field before s ∧
      value = if NextOk m before then some (before.vmcs field) else none⌝⦄ := by
  have read := hvVmReadChecked_followed m field before
  have error := readInstructionError_followed m field before
  have diagnose := modifyVcpu_followed m field before
  have refused {result : U64 × Option U64} (failed : ¬vmxOk result.1 = true)
      (same : result = (m.vmxFlags before.log.length,
        if NextOk m before then some (before.vmcs field) else none)) :
      none = if NextOk m before then some (before.vmcs field) else none := by
    rw [same] at failed
    exact (if_neg failed).symm
  mvcgen [vmReadChecked, read, error, diagnose]
  case vc2.post.success.isTrue followed => exact ⟨followed.2, by rw [followed.1]⟩
  case vc3.keeps => exact setReadFailure_sameEvidence
  case vc4.post.success.isFalse.isTrue.pre followed => exact followed.2
  case vc6.keeps =>
    exact fun vcpu => publishVmcsFailure_sameEvidence _ _ _ { vcpu with vmcsRead := _ }
  case vc8.post.success.isFalse.isTrue.post.success.isTrue.post.success.post.success
      failed _ _ _ first _ _ _ _ _ _ _ _ _ followed =>
    exact ⟨followed, refused failed first.1⟩
  case vc9.keeps => exact fun _ _ _ => rfl
  case vc11.post.success.isFalse.isTrue.post.success.isFalse.post.success
      failed _ _ _ first _ _ _ _ _ _ followed =>
    exact ⟨followed, refused failed first.1⟩
  case vc12.post.success.isFalse.isFalse failed _ _ _ followed =>
    exact ⟨followed.2, refused failed followed.1⟩

variable {m field before}

/-- A read of the instruction error alone reads no other field. -/
theorem Followed.silent {now : ExitState} (followed : Followed m .vmInstructionError before now) :
    Logged before [] (accessesSince before now) now := by
  obtain ⟨extra, log, errors⟩ := followed.log
  rw [accessesSince, log, List.drop_left]
  refine ⟨log, fun access member => ?_, fun other distinct => ?_⟩
  · rcases List.mem_cons.mp member with first | later
    · rw [first]
    · exact (errors access later).2
  · refine List.countP_eq_zero.mpr fun access member => ?_
    rcases List.mem_cons.mp member with first | later
    · rw [first]
      simpa using distinct.symm
    · rw [(errors access later).1]
      simpa using distinct.symm

theorem Followed.fetched {now : ExitState} (followed : Followed m field before now)
    (apart : field ≠ .vmInstructionError) :
    Fetched m field before (if NextOk m before then some (before.vmcs field) else none) now := by
  obtain ⟨extra, log, errors⟩ := followed.log
  refine ⟨⟨_, ⟨log, ?_, ?_⟩, ?_⟩, followed.evidence, rfl⟩
  · intro access member
    rcases List.mem_cons.mp member with first | later
    · rw [first]
    · exact (errors access later).2
  · intro other distinct
    have none : extra.countP (fun access => access.field = other) = 0 := by
      refine List.countP_eq_zero.mpr fun access member => ?_
      rw [(errors access member).1]
      simpa using distinct.symm
    rw [List.countP_cons, none]
    by_cases here : field = other
    · simp [here]
    · simp [here]
  · constructor
    · rintro ⟨access, member, here, -, ok⟩
      rcases List.mem_cons.mp member with first | later
      · rw [first] at ok
        have passed : NextOk m before := ok
        simp only [passed, if_true, Option.isSome_some]
      · exact absurd ((errors access later).1.symm.trans here).symm apart
    · intro answered
      by_cases passed : NextOk m before
      · exact ⟨_, List.mem_cons_self, rfl, rfl, passed⟩
      · simp only [passed, if_false, Option.isSome_none] at answered
        exact absurd answered Bool.false_ne_true

variable (m field before)

theorem vmReadChecked_fetched (apart : field ≠ .vmInstructionError) :
    ⦃fun s => ⌜s = before⌝⦄ vmReadChecked m field ⦃⇓ value s => ⌜Fetched m field before value s⌝⦄ := by
  refine spec_intro fun s same => ?_
  rcases run : vmReadChecked m field s with ⟨value, now⟩
  obtain ⟨followed, found⟩ := spec_run (vmReadChecked_followed m field before) same run
  rw [found]
  exact followed.fetched apart

end

/-- A store that leaves the evidence as it is. -/
def KeepsEvidence (store : U64 → VcpuContext → VcpuContext) : Prop :=
  ∀ value vcpu, (store value vcpu).vmcsDiagnosticValidity = vcpu.vmcsDiagnosticValidity

/-- The fields of a list are read one after the other, whatever comes of it. -/
structure Gathered (fields : List VmcsField) (before now : ExitState) : Prop where
  reads : ∃ reads, Logged before fields reads now
  evidence : SameEvidence before.vcpu now.vcpu

theorem readAvailable_gathered {fields : List (VmcsField × (U64 → VcpuContext → VcpuContext))}
    (apart : ∀ read ∈ fields, read.1 ≠ .vmInstructionError)
    (keeps : ∀ read ∈ fields, KeepsEvidence read.2) (before : ExitState) :
    Gathered (fields.map Prod.fst) before (readAvailable m fields before).2 := by
  induction fields generalizing before with
  | nil => exact ⟨⟨[], Logged.nil rfl⟩, fun _ _ => rfl⟩
  | cons read rest ih =>
    obtain ⟨field, store⟩ := read
    rcases run : vmReadChecked m field before with ⟨value, now⟩
    have fetched := spec_run (vmReadChecked_fetched m field before
      (apart _ List.mem_cons_self)) rfl run
    have later (s : ExitState) (log : s.log = now.log)
        (same : s.vcpu.vmcsDiagnosticValidity = now.vcpu.vmcsDiagnosticValidity) :
        Gathered (((field, store) :: rest).map Prod.fst) before (readAvailable m rest s).2 := by
      obtain ⟨⟨first, logged⟩, evidence⟩ := ih (fun read member => apart read (List.mem_cons_of_mem _ member))
        (fun read member => keeps read (List.mem_cons_of_mem _ member)) s
      obtain ⟨reads, one, -⟩ := fetched.reads
      have here : Logged before [field] reads s := ⟨log.trans one.log, one.plain, one.once⟩
      refine ⟨⟨_, here.append logged⟩, ?_⟩
      refine fetched.evidence.trans fun i other => ?_
      rw [evidence i other, same]
    simp only [readAvailable, bind, StateT.bind, run]
    cases value with
    | none => exact later now rfl rfl
    | some value =>
      refine later { now with vcpu := store value now.vcpu } rfl ?_
      exact keeps (field, store) List.mem_cons_self value now.vcpu

/-- Which bits of the evidence are set, the event and guest bits being clear. -/
structure Evidence (reason qualification : Bool) (vcpu : VcpuContext) : Prop where
  reason : vcpu.vmcsDiagnosticValidity.getLsbD 0 = reason
  qualification : vcpu.vmcsDiagnosticValidity.getLsbD 1 = qualification
  events : vcpu.vmcsDiagnosticValidity.getLsbD 3 = false
  guest : vcpu.vmcsDiagnosticValidity.getLsbD 4 = false

theorem Evidence.same {before now : VcpuContext} {reason qualification : Bool}
    (evidence : Evidence reason qualification before) (same : SameEvidence before now) :
    Evidence reason qualification now where
  reason := (same 0 (by omega)).trans evidence.reason
  qualification := (same 1 (by omega)).trans evidence.qualification
  events := (same 3 (by omega)).trans evidence.events
  guest := (same 4 (by omega)).trans evidence.guest

theorem cleared_getLsbD {mask : U64} {i : Nat} (inside : mask.getLsbD i = true) (value : U64) :
    (value &&& ~~~mask).getLsbD i = false := by
  rw [BitVec.getLsbD_and, BitVec.getLsbD_not, inside]
  simp

theorem kept_getLsbD {mask : U64} {i : Nat} (outside : mask.getLsbD i = false) (value : U64) :
    (value &&& ~~~mask).getLsbD i = value.getLsbD i := by
  rw [BitVec.getLsbD_and, BitVec.getLsbD_not, outside]
  by_cases small : i < 64
  · simp [small]
  · simp [BitVec.getLsbD_of_ge value i (by omega)]

theorem beginFatalSnapshot_evidence (vcpu : VcpuContext) :
    Evidence false false (beginFatalSnapshot vcpu) := by
  have transient (i : Nat) (inside : i = 0 ∨ i = 1 ∨ i = 3 ∨ i = 4) :
      (preservedValidity vcpu).getLsbD i = false := by
    have outside : kValidityVmInstructionError.getLsbD i = false ∧
        kTransientSnapshotValidity.getLsbD i = true := by
      rcases inside with rfl | rfl | rfl | rfl <;> decide
    by_cases entry : (isResumeFailureBoundary vcpu || vcpu.last.entryFailure) = true
    · simp only [preservedValidity, entry, if_true, BitVec.getLsbD_and, outside.1, Bool.and_false]
    · simp only [preservedValidity, entry]
      exact cleared_getLsbD outside.2 _
  exact ⟨transient 0 (by omega), transient 1 (by omega), transient 3 (by omega),
    transient 4 (by omega)⟩

theorem forgetFatalReason_evidence (vcpu : VcpuContext) :
    Evidence false false (forgetFatalReason vcpu) where
  reason := cleared_getLsbD (by decide) _
  qualification := cleared_getLsbD (by decide) _
  events := cleared_getLsbD (by decide) _
  guest := cleared_getLsbD (by decide) _

theorem setExitReason_evidence {vcpu : VcpuContext} (evidence : Evidence false false vcpu) :
    Evidence true false (setVmcsDiagnosticValidity kValidityExitReason vcpu) where
  reason := by
    rw [setVmcsDiagnosticValidity, BitVec.getLsbD_or, evidence.reason]
    decide
  qualification := by
    rw [setVmcsDiagnosticValidity, BitVec.getLsbD_or, evidence.qualification]
    decide
  events := by
    rw [setVmcsDiagnosticValidity, BitVec.getLsbD_or, evidence.events]
    decide
  guest := by
    rw [setVmcsDiagnosticValidity, BitVec.getLsbD_or, evidence.guest]
    decide

theorem recordFatalQualification_evidence {vcpu : VcpuContext} {reason qualification : Bool}
    (evidence : Evidence reason qualification vcpu) (value : U64) :
    Evidence reason true (recordFatalQualification value vcpu) where
  reason := by
    rw [recordFatalQualification, setVmcsDiagnosticValidity, BitVec.getLsbD_or, evidence.reason,
      show kValidityExitQualification.getLsbD 0 = false from rfl, Bool.or_false]
  qualification := by
    rw [recordFatalQualification, setVmcsDiagnosticValidity, BitVec.getLsbD_or,
      show kValidityExitQualification.getLsbD 1 = true from rfl, Bool.or_true]
  events := by
    rw [recordFatalQualification, setVmcsDiagnosticValidity, BitVec.getLsbD_or, evidence.events]
    decide
  guest := by
    rw [recordFatalQualification, setVmcsDiagnosticValidity, BitVec.getLsbD_or, evidence.guest]
    decide

theorem recordFatalReason_evidence {vcpu : VcpuContext} (evidence : Evidence false false vcpu)
    (rawReason : U32) (c : GuestContext) :
    Evidence true false (recordFatalReason rawReason c vcpu) := by
  have cleared : Evidence false false
      (clearVmcsDiagnosticValidity kValidityVmInstructionError vcpu) :=
    ⟨(kept_getLsbD (by decide) _).trans evidence.reason,
      (kept_getLsbD (by decide) _).trans evidence.qualification,
      (kept_getLsbD (by decide) _).trans evidence.events,
      (kept_getLsbD (by decide) _).trans evidence.guest⟩
  by_cases entry : isEntryFailureReason rawReason = true
  · have recorded := setExitReason_evidence evidence
    simp only [recordFatalReason, entry, if_true]
    exact ⟨recorded.reason, recorded.qualification, recorded.events, recorded.guest⟩
  · have recorded := setExitReason_evidence cleared
    simp only [recordFatalReason, entry]
    exact ⟨recorded.reason, recorded.qualification, recorded.events, recorded.guest⟩

/-- How far the capture has come: what it has read, and the bits that it has
set for it. -/
structure FatalCaptured (before : ExitState) (fields : List VmcsField) (reason qualification : Bool)
    (now : ExitState) : Prop where
  evidence : Evidence reason qualification now.vcpu
  reads : ∃ reads, Logged before fields reads now ∧
    (ReadOk reads .vmExitReason ↔ reason = true) ∧
    (ReadOk reads .exitQualification ↔ qualification = true)

theorem captured_begin (before : ExitState) {vcpu : VcpuContext}
    (evidence : Evidence false false vcpu) :
    FatalCaptured before [] false false { before with vcpu := vcpu } where
  evidence := evidence
  reads := ⟨[], Logged.nil rfl, by simp [ReadOk], by simp [ReadOk]⟩

/-- One more field, which is neither of the two. -/
theorem FatalCaptured.append {before mid now : ExitState} {fields more : List VmcsField}
    {reason qualification : Bool} (captured : FatalCaptured before fields reason qualification mid)
    (gathered : Gathered more mid now) (apart : .vmExitReason ∉ more ∧ .exitQualification ∉ more) :
    FatalCaptured before (fields ++ more) reason qualification now := by
  obtain ⟨reads, logged, reasonRead, qualificationRead⟩ := captured.reads
  obtain ⟨⟨later, after⟩, same⟩ := gathered
  refine ⟨captured.evidence.same same, reads ++ later, logged.append after, ?_, ?_⟩
  · have absent := after.not_readOk (by decide) apart.1
    rw [readOk_append, reasonRead, or_iff_left absent]
  · have absent := after.not_readOk (by decide) apart.2
    rw [readOk_append, qualificationRead, or_iff_left absent]

/-- What the reason is found to be: nothing where the boundary has none or the
VMREAD fails. -/
def foundReason (before : ExitState) : Option U32 :=
  if before.vcpu.lastVmResumeFlags = 0 ∧ NextOk m before then
    some ((before.vmcs .vmExitReason).setWidth 32)
  else
    none

theorem captureFatalReason_captured (before : ExitState) {start : ExitState}
    (clear : Evidence false false start.vcpu) (log : start.log = before.log)
    (vmcs : start.vmcs = before.vmcs) :
    ∃ now, captureFatalReason m (isResumeFailureBoundary before.vcpu) start =
        (foundReason m before, now) ∧
      FatalCaptured before (if before.vcpu.lastVmResumeFlags = 0 then [.vmExitReason] else [])
        (foundReason m before).isSome false now := by
  by_cases ordinary : before.vcpu.lastVmResumeFlags = 0
  · have boundary : isResumeFailureBoundary before.vcpu = false := by
      simp [isResumeFailureBoundary, ordinary]
    rcases run : vmReadChecked m .vmExitReason start with ⟨value, mid⟩
    have fetched := spec_run (vmReadChecked_fetched m .vmExitReason start (by decide)) rfl run
    obtain ⟨reads, logged, read⟩ := fetched.reads
    have since : Logged before [.vmExitReason] reads mid :=
      ⟨by rw [logged.log, log], logged.plain, logged.once⟩
    have noQualification : ReadOk reads .exitQualification ↔ false = true := by
      simpa using since.not_readOk (by decide) (by decide)
    have evidence := clear.same fetched.evidence
    have found : value = (if NextOk m before then some (before.vmcs .vmExitReason) else none) := by
      have same : NextOk m start ↔ NextOk m before := by rw [NextOk, NextOk, log]
      rw [fetched.value, vmcs]
      exact if_congr same rfl rfl
    by_cases passed : NextOk m before
    · rw [if_pos passed] at found
      subst found
      refine ⟨{ mid with
          vcpu := recordFatalReason ((before.vmcs .vmExitReason).setWidth 32) mid.ctx mid.vcpu }, ?_, ?_⟩
      · simp only [captureFatalReason, boundary, bind, StateT.bind, Bool.false_eq_true, if_false, run,
          foundReason, ordinary, passed, and_self, if_true]
        rfl
      · simp only [ordinary, foundReason, passed, and_self, if_true, Option.isSome_some]
        refine ⟨recordFatalReason_evidence evidence _ _, reads, ?_, ?_, noQualification⟩
        · exact ⟨since.log, since.plain, since.once⟩
        · simpa using read
    · rw [if_neg passed] at found
      subst found
      refine ⟨{ mid with vcpu := forgetFatalReason mid.vcpu }, ?_, ?_⟩
      · simp only [captureFatalReason, boundary, bind, StateT.bind, Bool.false_eq_true, if_false, run,
          foundReason, passed, and_false]
        rfl
      · simp only [ordinary, foundReason, passed, and_false, if_false, if_true, Option.isSome_none]
        refine ⟨forgetFatalReason_evidence _, reads, ?_, ?_, noQualification⟩
        · exact ⟨since.log, since.plain, since.once⟩
        · simpa using read
  · have boundary : isResumeFailureBoundary before.vcpu = true := decide_eq_true ordinary
    refine ⟨{ start with vcpu := forgetFatalReason start.vcpu }, ?_, ?_⟩
    · simp only [captureFatalReason, boundary, foundReason, ordinary, false_and, if_false, if_true]
      rfl
    · simp only [ordinary, foundReason, false_and, if_false, Option.isSome_none]
      exact ⟨forgetFatalReason_evidence _, [], Logged.nil log, by simp [ReadOk], by simp [ReadOk]⟩

/-- The qualification is read where the reason defines it. -/
def qualificationFields (reason : Option U32) : List VmcsField :=
  if reason.any isVmEntryFailureQualificationDefined then [.exitQualification] else []

theorem captureFatalQualification_captured {before start : ExitState} {fields : List VmcsField}
    {reason : Option U32} (captured : FatalCaptured before fields reason.isSome false start) :
    ∃ qualification now, captureFatalQualification m reason start = ((), now) ∧
      FatalCaptured before (fields ++ qualificationFields reason) reason.isSome qualification now := by
  obtain ⟨reads, logged, reasonRead, qualificationRead⟩ := captured.reads
  by_cases defined : reason.any isVmEntryFailureQualificationDefined = true
  · rcases run : vmReadChecked m .exitQualification start with ⟨value, mid⟩
    have fetched := spec_run (vmReadChecked_fetched m .exitQualification start (by decide)) rfl run
    obtain ⟨later, after, read⟩ := fetched.reads
    have evidence := captured.evidence.same fetched.evidence
    have noReason : ¬ReadOk later .vmExitReason := after.not_readOk (by decide) (by decide)
    have reasonKept : ReadOk (reads ++ later) .vmExitReason ↔ reason.isSome = true := by
      rw [readOk_append, reasonRead, or_iff_left noReason]
    have qualificationKept :
        ReadOk (reads ++ later) .exitQualification ↔ value.isSome = true := by
      rw [readOk_append, read, qualificationRead]
      simp
    have both := logged.append after
    cases value with
    | none =>
      refine ⟨false, { mid with
        vcpu := clearVmcsDiagnosticValidity kValidityExitQualification mid.vcpu }, ?_, ?_⟩
      · simp only [captureFatalQualification, defined, if_true, bind, StateT.bind, run]
        rfl
      · rw [qualificationFields, if_pos defined]
        refine ⟨?_, reads ++ later, ⟨both.log, both.plain, both.once⟩, reasonKept, qualificationKept⟩
        exact ⟨(kept_getLsbD (by decide) _).trans evidence.reason, cleared_getLsbD (by decide) _,
          (kept_getLsbD (by decide) _).trans evidence.events,
          (kept_getLsbD (by decide) _).trans evidence.guest⟩
    | some value =>
      refine ⟨true, { mid with vcpu := recordFatalQualification value mid.vcpu }, ?_, ?_⟩
      · simp only [captureFatalQualification, defined, if_true, bind, StateT.bind, run]
        rfl
      · rw [qualificationFields, if_pos defined]
        exact ⟨recordFatalQualification_evidence evidence value, reads ++ later,
          ⟨both.log, both.plain, both.once⟩, reasonKept, qualificationKept⟩
  · refine ⟨false, { start with
      vcpu := clearVmcsDiagnosticValidity kValidityExitQualification start.vcpu }, ?_, ?_⟩
    · simp only [captureFatalQualification, defined]
      rfl
    · rw [qualificationFields, if_neg defined, List.append_nil]
      have evidence := captured.evidence
      refine ⟨?_, reads, ⟨logged.log, logged.plain, logged.once⟩, reasonRead, qualificationRead⟩
      exact ⟨(kept_getLsbD (by decide) _).trans evidence.reason, cleared_getLsbD (by decide) _,
        (kept_getLsbD (by decide) _).trans evidence.events,
        (kept_getLsbD (by decide) _).trans evidence.guest⟩

/-- The guest is read at an ordinary exit only. -/
def guestFields (reason : Option U32) : List VmcsField :=
  if reason.all isEntryFailureReason then [] else (fatalFields m).map Prod.fst

theorem fatalFields_apart :
    ∀ field ∈ (fatalFields m).map Prod.fst, field ≠ .vmInstructionError ∧
      field ≠ .vmExitReason ∧ field ≠ .exitQualification := by
  cases enabled : m.cetVmcsEnabled
  · simp only [fatalFields, enabled]
    decide
  · simp only [fatalFields, enabled]
    decide

theorem fatalFields_keep : ∀ read ∈ fatalFields m, KeepsEvidence read.2 := by
  have all : ∀ read ∈ fatalRegisters ++ fatalEvents ++ fatalMsrs ++ fatalCet,
      KeepsEvidence read.2 := by
    simp only [fatalRegisters, fatalEvents, fatalMsrs, fatalCet, List.cons_append, List.nil_append,
      List.forall_mem_cons]
    exact ⟨fun _ _ => rfl, fun _ _ => rfl, fun _ _ => rfl, fun _ _ => rfl, fun _ _ => rfl,
      fun _ _ => rfl, fun _ _ => rfl, fun _ _ => rfl, fun _ _ => rfl, fun _ _ => rfl,
      fun _ _ => rfl, fun _ _ => rfl, fun _ _ => rfl, fun _ _ => rfl, fun _ _ => rfl,
      fun _ _ => rfl, fun _ _ => rfl, fun _ _ => rfl, fun _ _ => rfl, fun _ _ => rfl,
      fun _ _ => rfl, fun _ member => absurd member List.not_mem_nil⟩
  intro read member
  refine all read ?_
  rw [fatalFields] at member
  cases enabled : m.cetVmcsEnabled
  · rw [enabled] at member
    exact List.mem_append_left _ (by simpa using member)
  · rwa [enabled] at member

theorem captureFatalGuest_captured {before start : ExitState} {fields : List VmcsField}
    {reason : Option U32} {known qualification : Bool}
    (captured : FatalCaptured before fields known qualification start) :
    ∃ now, captureFatalGuest m reason start = ((), now) ∧
      FatalCaptured before (fields ++ guestFields m reason) known qualification now := by
  by_cases closed : reason.all isEntryFailureReason = true
  · refine ⟨{ start with vcpu := { start.vcpu with lastEventSnapshotValid := false } }, ?_, ?_⟩
    · simp only [captureFatalGuest, closed, if_true]
      rfl
    · rw [guestFields, if_pos closed, List.append_nil]
      obtain ⟨reads, logged, reasonRead, qualificationRead⟩ := captured.reads
      have evidence := captured.evidence
      exact ⟨⟨evidence.reason, evidence.qualification, evidence.events, evidence.guest⟩,
        reads, ⟨logged.log, logged.plain, logged.once⟩, reasonRead, qualificationRead⟩
  · have apart := fatalFields_apart m
    have gathered := readAvailable_gathered m
      (fun read member => (apart _ (List.mem_map_of_mem member)).1) (fatalFields_keep m) start
    rcases run : readAvailable m (fatalFields m) start with ⟨⟨⟩, mid⟩
    rw [run] at gathered
    have further := captured.append gathered
      ⟨fun member => (apart _ member).2.1 rfl, fun member => (apart _ member).2.2 rfl⟩
    refine ⟨{ mid with vcpu := { mid.vcpu with last := { mid.vcpu.last with
      guestXcr0 := mid.ctx.guestXcr0
      guestXss := mid.ctx.guestXss } } }, ?_, ?_⟩
    · simp only [captureFatalGuest, closed, bind, StateT.bind, Bool.false_eq_true, if_false, run]
      rfl
    · rw [guestFields, if_neg closed]
      obtain ⟨reads, logged, reasonRead, qualificationRead⟩ := further.reads
      have evidence := further.evidence
      exact ⟨⟨evidence.reason, evidence.qualification, evidence.events, evidence.guest⟩,
        reads, ⟨logged.log, logged.plain, logged.once⟩, reasonRead, qualificationRead⟩

/-- Everything the capture reads, in order. -/
def capturedFields (before : ExitState) : List VmcsField :=
  (if before.vcpu.lastVmResumeFlags = 0 then [.vmExitReason] else []) ++
    qualificationFields (foundReason m before) ++ guestFields m (foundReason m before)

theorem hvCaptureFatalSnapshotPreVmxoff_captured {before : ExitState} (owned : m.hasVcpu = true)
    (first : before.vcpu.fatalSnapshotCommitState = .empty) :
    ∃ qualification, FatalCaptured before (capturedFields m before) (foundReason m before).isSome
      qualification (hvCaptureFatalSnapshotPreVmxoff m before).2 := by
  obtain ⟨second, reasonRun, known⟩ := @captureFatalReason_captured m before
    { before with vcpu := beginFatalSnapshot before.vcpu }
    (beginFatalSnapshot_evidence before.vcpu) rfl rfl
  obtain ⟨qualification, third, qualificationRun, qualified⟩ :=
    captureFatalQualification_captured m known
  obtain ⟨last, guestRun, done⟩ :=
    @captureFatalGuest_captured m before third _ (foundReason m before) _ _ qualified
  have run : hvCaptureFatalSnapshotPreVmxoff m before =
      ((), { last with vcpu := { last.vcpu with fatalSnapshotCommitState := .committed } }) := by
    simp only [hvCaptureFatalSnapshotPreVmxoff, owned, first, bind, StateT.bind, get, getThe,
      MonadStateOf.get, StateT.get, pure, modifyVcpu, modify, modifyGet, MonadStateOf.modifyGet,
      StateT.modifyGet, Bool.not_true, ne_eq, not_true_eq_false, decide_false, Bool.or_self,
      Bool.false_eq_true, if_false, reasonRun, qualificationRun, guestRun]
  rw [run]
  obtain ⟨reads, logged, reasonRead, qualificationRead⟩ := done.reads
  have evidence := done.evidence
  exact ⟨qualification,
    ⟨evidence.reason, evidence.qualification, evidence.events, evidence.guest⟩,
    reads, ⟨logged.log, logged.plain, logged.once⟩, reasonRead, qualificationRead⟩

end

end Knhv.Vmx
