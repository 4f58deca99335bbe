import Knhv.Control.Isolation
import Mathlib.Data.List.FinRange
import Mathlib.Data.List.Induction

namespace Knhv.Control

open Nested Provider

variable {F : Type}

/-- The session holds an active lease on the hardware. -/
structure HoldsHardware (session : KnHvClientSession F) : Prop where
  active : session.active = true
  leaseActive : session.leaseActive = true
  mode : session.lease.mode = HvLeaseModeV2.HardwareL0.word

/-- At most one session holds the hardware. -/
def HardwareExclusive (extension : KnHvDeviceExtension F) : Prop :=
  ∀ first second, HoldsHardware (extension.sessions first) →
    HoldsHardware (extension.sessions second) → first = second

/-- The snapshot that the lease calls work on. -/
def leaseSnapshot (extension : KnHvDeviceExtension F) : HvCapabilitySnapshotV2 :=
  makeCapabilitySnapshotV2 (some extension.capabilities)

/-- Whoever holds the hardware got it from a snapshot that can give it. -/
def HoldersCapable (extension : KnHvDeviceExtension F) : Prop :=
  ∀ index, HoldsHardware (extension.sessions index) →
    isCapabilitySnapshotV2Valid (leaseSnapshot extension) = true ∧
      HardwareCapable (leaseSnapshot extension)

/-- An entry that holds the hardware only if nobody did before. -/
theorem HardwareExclusive.update {extension after : KnHvDeviceExtension F}
    (exclusive : HardwareExclusive extension) {index : Fin kMaxClientSessions}
    {session : KnHvClientSession F}
    (sessions : after.sessions = (extension.setSession index session).sessions)
    (alone : HoldsHardware session → ∀ other, ¬HoldsHardware (extension.sessions other)) :
    HardwareExclusive after := by
  intro first second holdsFirst holdsSecond
  rw [sessions] at holdsFirst holdsSecond
  by_cases atFirst : first = index
  · by_cases atSecond : second = index
    · exact atFirst.trans atSecond.symm
    · rw [atFirst, setSession_self] at holdsFirst
      rw [setSession_of_ne _ _ atSecond] at holdsSecond
      exact absurd holdsSecond (alone holdsFirst second)
  · rw [setSession_of_ne _ _ atFirst] at holdsFirst
    by_cases atSecond : second = index
    · rw [atSecond, setSession_self] at holdsSecond
      exact absurd holdsFirst (alone holdsSecond first)
    · rw [setSession_of_ne _ _ atSecond] at holdsSecond
      exact exclusive first second holdsFirst holdsSecond

theorem HoldersCapable.update {extension after : KnHvDeviceExtension F}
    (capable : HoldersCapable extension) {index : Fin kMaxClientSessions}
    {session : KnHvClientSession F} (capabilities : after.capabilities = extension.capabilities)
    (sessions : after.sessions = (extension.setSession index session).sessions)
    (holder : HoldsHardware session →
      isCapabilitySnapshotV2Valid (leaseSnapshot extension) = true ∧
        HardwareCapable (leaseSnapshot extension)) : HoldersCapable after := by
  intro slot holds
  rw [sessions] at holds
  rw [leaseSnapshot, capabilities]
  by_cases same : slot = index
  · rw [same, setSession_self] at holds
    exact holder holds
  · rw [setSession_of_ne _ _ same] at holds
    exact capable slot holds

theorem not_holds_of_unleased {session : KnHvClientSession F}
    (unleased : session.leaseActive = false) : ¬HoldsHardware session := by
  intro holds
  rw [holds.leaseActive] at unleased
  cases unleased

/-- The lease that is granted is of the mode that was asked for. -/
theorem selectProviderV2_mode {request : HvProviderRequestV2}
    {capabilities : HvCapabilitySnapshotV2}
    (success : (selectProviderV2 (some request) (some capabilities)).status = .Success) :
    (selectProviderV2 (some request) (some capabilities)).lease.mode = request.mode := by
  have grants := (selectProviderV2_granted success).grants
  generalize selectProviderV2 (some request) (some capabilities) = response at grants
  obtain ⟨size, version, requestId, status, reserved, provider, reserved2, given, lease⟩ := response
  cases grants with
  | hardware mode _ => exact mode.symm
  | whp mode _ _ => exact mode.symm
  | synthetic mode _ _ => exact mode.symm

/-- The sizes of an acquisition are wrong. -/
def acquireSizesWrong (irp : Irp) : Bool :=
  kMaxIoctlBytes < irp.inputLength || kMaxIoctlBytes < irp.outputLength ||
    irp.inputLength < sizeofHvAcquireLeaseV2In || irp.outputLength < sizeofHvAcquireLeaseV2Out

section Steps

variable [DecidableEq F]

/-- The request asks for the hardware, in a way that the handler gets to the
selection: through an open file, in buffers of the right sizes, for a session
of the file that has no lease, and with features that the snapshot has. -/
structure AsksHardware (device : KnHvDevice F) (file : F) (irp : Irp)
    (input : HvAcquireLeaseV2In) (index : Fin kMaxClientSessions) : Prop where
  opened : device.opened file = true
  sizes : acquireSizesWrong irp = false
  ioctl : irp.ioctl = .acquireLease input
  fits : acquireInputFits input irp.inputLength = true
  slot : findSession device.extension input.request.session file = some index
  free : (device.extension.sessions index).leaseActive = false
  mode : input.request.mode = HvLeaseModeV2.HardwareL0.word
  request : requestV2Valid input.request = true
  features : hasRequiredFeatures input.request (leaseSnapshot device.extension) = true

/-- The step does not ask for hardware that a session holds. -/
def Uncontended (device : KnHvDevice F) : DeviceCall F → Prop
  | .control file irp => ∀ input index, AsksHardware device file irp input index →
    ∀ other, ¬HoldsHardware (device.extension.sessions other)
  | _ => True

/-- The request gets to the selection. -/
theorem dispatch_acquire {device : KnHvDevice F} {file : F} {irp : Irp}
    {input : HvAcquireLeaseV2In} {index : Fin kMaxClientSessions}
    (asks : AsksHardware device file irp input index)
    (success : (selectProviderV2 (some input.request)
      (some (leaseSnapshot device.extension))).status = .Success) :
    (dispatchDeviceControl device file irp).extension =
      device.extension.setSession index { device.extension.sessions index with
        lease := (selectProviderV2 (some input.request)
          (some (leaseSnapshot device.extension))).lease
        leaseActive := true } := by
  have sizes := asks.sizes
  simp only [acquireSizesWrong, Bool.or_eq_false_iff] at sizes
  have hardware : (HvLeaseModeV2.HardwareL0.word == HvLeaseModeV2.SyntheticLab.word) = false := by
    decide
  have response : acquireResponse device.extension (device.extension.sessions index)
      input.request = selectProviderV2 (some input.request)
        (some (leaseSnapshot device.extension)) := by
    rw [leaseSnapshot] at success ⊢
    simp only [acquireResponse, success, asks.mode, hardware, beq_self_eq_true, Bool.and_false,
      Bool.false_and, Bool.false_eq_true, if_false, if_true]
  simp only [dispatchDeviceControl, dispatchIoctl, handleAcquireLeaseV2, asks.opened, asks.ioctl,
    asks.fits, asks.slot, asks.free, sizes, response, success, beq_self_eq_true, Bool.not_true,
    Bool.or_self, Bool.false_eq_true, if_false, if_true]

theorem AsksHardware.selected {device : KnHvDevice F} {file : F} {irp : Irp}
    {input : HvAcquireLeaseV2In} {index : Fin kMaxClientSessions}
    (asks : AsksHardware device file irp input index)
    (valid : isCapabilitySnapshotV2Valid (leaseSnapshot device.extension) = true)
    (capable : HardwareCapable (leaseSnapshot device.extension)) :
    (selectProviderV2 (some input.request)
      (some (leaseSnapshot device.extension))).status = .Success := by
  have found := findSession_found asks.slot
  exact (selectProviderV2_hardware asks.request valid asks.features found.nonzero found.generation
    asks.mode capable).1

/-- A second session gets the hardware if it asks for it. -/
theorem uncontended_of_exclusive {device : KnHvDevice F} {call : DeviceCall F}
    (capable : HoldersCapable device.extension)
    (exclusive : HardwareExclusive (deviceStep device call).extension) :
    Uncontended device call := by
  cases call with
  | create file => trivial
  | close file => trivial
  | control file irp =>
    intro input index asks other holds
    obtain ⟨valid, hardware⟩ := capable other holds
    have success := asks.selected valid hardware
    have granted := dispatch_acquire asks success
    have different : other ≠ index := by
      intro same
      rw [same] at holds
      exact not_holds_of_unleased asks.free holds
    have first : HoldsHardware ((deviceStep device (.control file irp)).extension.sessions index) := by
      rw [deviceStep, granted, setSession_self]
      exact ⟨(findSession_found asks.slot).owned.active, rfl,
        (selectProviderV2_mode success).trans asks.mode⟩
    have second : HoldsHardware
        ((deviceStep device (.control file irp)).extension.sessions other) := by
      rw [deviceStep, granted, setSession_of_ne _ _ different]
      exact holds
    exact different (exclusive other index second first)

theorem Effect.capabilities {extension after : KnHvDeviceExtension F} {file : F} {irp : Irp}
    (effect : Effect extension file irp after) : after.capabilities = extension.capabilities := by
  cases effect with
  | unchanged | registered | cleared | leased | returned | executed => rfl

/-- Only an acquisition gives the hardware to a session. -/
theorem Effect.holders {extension after : KnHvDeviceExtension F} {file : F} {irp : Irp}
    (effect : Effect extension file irp after) :
    (∀ index, HoldsHardware (after.sessions index) → HoldsHardware (extension.sessions index)) ∨
      ∃ input index session, irp.ioctl = .acquireLease input ∧
        acquireInputFits input irp.inputLength = true ∧
        findSession extension input.request.session file = some index ∧
        (extension.sessions index).leaseActive = false ∧
        (selectProviderV2 (some input.request)
          (some (leaseSnapshot extension))).status = .Success ∧
        session.lease = (selectProviderV2 (some input.request)
          (some (leaseSnapshot extension))).lease ∧
        after.sessions = (extension.setSession index session).sessions := by
  -- a write to one slot that does not make it a holder
  have write {later : KnHvDeviceExtension F} {index : Fin kMaxClientSessions}
      {session : KnHvClientSession F}
      (sessions : later.sessions = (extension.setSession index session).sessions)
      (before : HoldsHardware session → HoldsHardware (extension.sessions index)) :
      ∀ slot, HoldsHardware (later.sessions slot) → HoldsHardware (extension.sessions slot) := by
    intro slot holds
    rw [sessions] at holds
    by_cases same : slot = index
    · rw [same, setSession_self] at holds
      rw [same]
      exact before holds
    · rw [setSession_of_ne _ _ same] at holds
      exact holds
  cases effect with
  | unchanged => exact Or.inl fun _ holds => holds
  | registered _ _ _ _ _ unleased =>
    exact Or.inl (write rfl fun holds => absurd holds (not_holds_of_unleased unleased))
  | cleared _ => exact Or.inl (write rfl fun holds => absurd holds (not_holds_of_unleased rfl))
  | leased request fits slot free success =>
    exact Or.inr ⟨_, _, _, request, fits, slot, free, success, rfl, rfl⟩
  | returned _ => exact Or.inl (write rfl fun holds => absurd holds (not_holds_of_unleased rfl))
  | executed _ =>
    exact Or.inl (write rfl fun holds => ⟨holds.active, holds.leaseActive, holds.mode⟩)

theorem dispatch_refused {device : KnHvDevice F} {file : F} {irp : Irp}
    {input : HvAcquireLeaseV2In} (ioctl : irp.ioctl = .acquireLease input)
    (refused : device.opened file = false ∨ acquireSizesWrong irp = true) :
    (dispatchDeviceControl device file irp).extension = device.extension := by
  unfold dispatchDeviceControl
  split
  · rfl
  rename_i opened
  have sizes := refused.resolve_left fun closed => opened (by rw [closed]; rfl)
  simp only [dispatchIoctl, ioctl, handleAcquireLeaseV2]
  split
  · rfl
  rename_i large
  simp only [Bool.not_eq_true] at large
  rw [acquireSizesWrong, large, Bool.false_or] at sizes
  rw [if_pos sizes]
  rfl

theorem releaseSessionsForFile_capabilities (extension : KnHvDeviceExtension F) (file : F) :
    (releaseSessionsForFile extension file).capabilities = extension.capabilities := by
  rw [releaseSessionsForFile_eq]
  refine Run.invariant_always
    (P := fun later : KnHvDeviceExtension F => later.capabilities = extension.capabilities)
    (fun later index held => ?_) rfl (List.finRange kMaxClientSessions)
  rcases closeSlot_cases later file index with ⟨_, cleared⟩ | ⟨_, same⟩
  · rw [cleared]
    exact held
  · rw [same]
    exact held

/-- A step that gives the hardware to a session is a request for it. -/
theorem deviceStep_holders (device : KnHvDevice F) (call : DeviceCall F) :
    (deviceStep device call).extension.capabilities = device.extension.capabilities ∧
      ((∀ index, HoldsHardware ((deviceStep device call).extension.sessions index) →
          HoldsHardware (device.extension.sessions index)) ∨
        ∃ index session, (deviceStep device call).extension.sessions =
            (device.extension.setSession index session).sessions ∧
          (HoldsHardware session →
            (isCapabilitySnapshotV2Valid (leaseSnapshot device.extension) = true ∧
              HardwareCapable (leaseSnapshot device.extension)) ∧
            (Uncontended device call → ∀ other,
              ¬HoldsHardware (device.extension.sessions other)))) := by
  cases call with
  | create file => exact ⟨rfl, Or.inl fun _ holds => holds⟩
  | close file =>
    have closed := releaseSessionsForFile_closed device.extension file
    refine ⟨?_, Or.inl fun index holds => ?_⟩
    · exact releaseSessionsForFile_capabilities device.extension file
    · by_cases mine : OwnedBy (device.extension.sessions index) file
      · rw [deviceStep, dispatchClose, closed.removed index mine] at holds
        exact absurd holds (not_holds_of_unleased rfl)
      · rw [deviceStep, dispatchClose, closed.kept index mine] at holds
        exact holds
  | control file irp =>
    have effect := dispatchDeviceControl_effect device file irp
    refine ⟨effect.capabilities, ?_⟩
    rcases effect.holders with
      kept | ⟨input, index, session, ioctl, fits, slot, free, success, lease, sessions⟩
    · exact Or.inl kept
    by_cases refused : device.opened file = false ∨ acquireSizesWrong irp = true
    · refine Or.inl fun slot holds => ?_
      rw [deviceStep, dispatch_refused ioctl refused] at holds
      exact holds
    · simp only [not_or, Bool.not_eq_false, Bool.not_eq_true] at refused
      refine Or.inr ⟨index, session, sessions, fun holds => ?_⟩
      have granted := selectProviderV2_granted success
      have mode : input.request.mode = HvLeaseModeV2.HardwareL0.word := by
        rw [← selectProviderV2_mode success, ← lease]
        exact holds.mode
      refine ⟨⟨granted.capabilitiesValid, ?_⟩, fun uncontended => ?_⟩
      · exact granted.grants.capable mode
      · exact uncontended input index ⟨refused.1, refused.2, ioctl, fits, slot, free, mode,
          granted.requestValid, granted.features⟩
theorem deviceStep_capable {device : KnHvDevice F} (call : DeviceCall F)
    (capable : HoldersCapable device.extension) :
    HoldersCapable (deviceStep device call).extension := by
  obtain ⟨same, kept | ⟨index, session, sessions, gets⟩⟩ := deviceStep_holders device call
  · intro index holds
    rw [leaseSnapshot, same]
    exact capable index (kept index holds)
  · exact capable.update same sessions fun holds => (gets holds).1

theorem deviceStep_exclusive {device : KnHvDevice F} {call : DeviceCall F}
    (exclusive : HardwareExclusive device.extension) (uncontended : Uncontended device call) :
    HardwareExclusive (deviceStep device call).extension := by
  obtain ⟨_, kept | ⟨index, session, sessions, gets⟩⟩ := deviceStep_holders device call
  · intro first second holdsFirst holdsSecond
    exact exclusive first second (kept first holdsFirst) (kept second holdsSecond)
  · exact exclusive.update sessions fun holds => (gets holds).2 uncontended

/-- At most one session holds the hardware exactly in the runs where nobody asks
for hardware that is held: the handler looks only at the lease of the session
that asks. -/
theorem hardware_exclusive_iff (nestedTestDriver : Bool) (capabilities : HvCapabilitySnapshot)
    (calls : List (DeviceCall F)) :
    Run.Always deviceStep (fun device => HardwareExclusive device.extension)
        (initialDevice nestedTestDriver capabilities) calls ↔
      Run.Every deviceStep Uncontended (initialDevice nestedTestDriver capabilities) calls := by
  have idle : ∀ index, ¬HoldsHardware ((initialDevice nestedTestDriver capabilities :
      KnHvDevice F).extension.sessions index) := fun _ => not_holds_of_unleased rfl
  constructor
  · intro always
    refine Run.every_of_always (J := fun device : KnHvDevice F => HoldersCapable device.extension)
      (fun _ call => deviceStep_capable call) (fun _ _ => uncontended_of_exclusive) ?_ always
    exact fun index holds => absurd holds (idle index)
  · intro every
    refine Run.always_of_every (J := fun device : KnHvDevice F => HardwareExclusive device.extension)
      (fun _ _ => deviceStep_exclusive) (fun _ exclusive => exclusive) ?_ every
    exact fun first _ holds => absurd holds (idle first)

end Steps

/-- A machine whose boot root has handed Windows over. -/
def handedOverSnapshot : HvCapabilitySnapshot where
  version := kAbiVersion
  size := sizeofHvCapabilitySnapshot
  featureBits := kCapVmx ||| kCapBootL0
  maxPhysicalAddressBits := 48
  eVmcsVersion := 0
  whpApiVersion := 0
  hypervisorVendorLength := 0
  statusFlags := kFlagNativeVmxReady ||| kFlagBootHandoffVerified ||| kFlagKnhvBootL0Active
  bootGeneration := 7
  ownerGeneration := 7
  featureHash := 0

/-- A request for the hardware by a session. -/
def hardwareIrp (clientId : U64) (generation : U32) : Irp where
  ioctl := .acquireLease
    { size := sizeofHvAcquireLeaseV2In
      version := kAbiV2Version
      request :=
        { size := sizeofHvProviderRequestV2
          version := kAbiV2Version
          requestId := 1
          session := ⟨clientId, generation, 0⟩
          requiredHardwareFeatures := kCapVmx
          requiredProviderFeatures := 0
          requiredPolicyFeatures := 0
          mode := HvLeaseModeV2.HardwareL0.word
          flags := kRequestFlagRequireExclusive } }
  inputLength := sizeofHvAcquireLeaseV2In
  outputLength := sizeofHvAcquireLeaseV2Out

/-- Two files register, and both ask for the hardware. -/
def twoHardwareOwners : List (DeviceCall Bool) :=
  [.create false, .create true, .control false registerIrp, .control true registerIrp,
    .control false (hardwareIrp 1 6), .control true (hardwareIrp 2 5)]

theorem hardware_shared_by_two_files :
    snapshotIsValid handedOverSnapshot = true ∧
      ¬Run.Always deviceStep (fun device => HardwareExclusive device.extension)
        (initialDevice false handedOverSnapshot) twoHardwareOwners := by
  refine ⟨by decide, fun always => ?_⟩
  have exclusive := always twoHardwareOwners [] rfl
  have first : HoldsHardware ((Run.after deviceStep (initialDevice false handedOverSnapshot)
      twoHardwareOwners).extension.sessions ⟨0, by decide⟩) := ⟨by decide, by decide, by decide⟩
  have second : HoldsHardware ((Run.after deviceStep (initialDevice false handedOverSnapshot)
      twoHardwareOwners).extension.sessions ⟨1, by decide⟩) := ⟨by decide, by decide, by decide⟩
  exact absurd (exclusive _ _ first second) (by decide)

end Knhv.Control

namespace Knhv.Control

open Provider

/-- The session that holds the lease gets rid of it by any well-formed request
that names the lease. -/
def Releasable (lease : HvOwnerLeaseV2) : Prop :=
  ∀ (F : Type) [DecidableEq F] (extension : KnHvDeviceExtension F) (file : F)
    (request : HvReleaseLeaseV2In) (inputLength outputLength : U32)
    (index : Fin kMaxClientSessions),
    findSession extension request.session file = some index →
    (extension.sessions index).leaseActive = true → (extension.sessions index).lease = lease →
    request.lease = lease →
    versionedV2InputFits request.version request.size sizeofHvReleaseLeaseV2In inputLength = true →
    sizeofHvReleaseLeaseV2Out ≤ outputLength →
    (handleReleaseLeaseV2 extension file request inputLength outputLength).status = .Success ∧
      ((handleReleaseLeaseV2 extension file request inputLength outputLength).extension.sessions
        index).leaseActive = false

/-- A lease that is good on the snapshot, and can be given back. -/
structure GoodLease (lease : HvOwnerLeaseV2) (capabilities : HvCapabilitySnapshotV2) : Prop where
  valid : isOwnerLeaseV2Valid lease = true
  fitting : leaseMatchesCapabilityV2 lease capabilities = true
  releasable : Releasable lease

theorem findSession_reserved {F : Type} [DecidableEq F] {extension : KnHvDeviceExtension F}
    {key : HvSessionKey} {file : F} {index : Fin kMaxClientSessions}
    (found : findSession extension key file = some index) : key.reserved = 0 := by
  unfold findSession at found
  split at found
  · cases found
  · rename_i checked
    simp only [Bool.or_eq_true, bne_iff_ne, not_or, ne_eq, Decidable.not_not] at checked
    exact checked.2

theorem releasable_of_valid {lease : HvOwnerLeaseV2} (valid : isOwnerLeaseV2Valid lease = true)
    (held : lease.mode ≠ HvLeaseModeV2.None.word) : Releasable lease := by
  intro F _ extension file request inputLength outputLength index found leased same named fits room
  subst named
  have large : ¬outputLength < sizeofHvReleaseLeaseV2Out := BitVec.not_lt.mpr room
  have long : ¬inputLength < sizeofHvReleaseLeaseV2In := by
    simp only [versionedV2InputFits, Bool.and_eq_true, decide_eq_true_eq] at fits
    exact BitVec.not_lt.mpr fits.1.1.1
  have mode : (request.lease.mode == HvLeaseModeV2.None.word) = false := beq_eq_false_iff_ne.mpr held
  have holds : holdsLease (extension.sessions index) request.lease = true := by
    simp [holdsLease, leased, same]
  simp only [handleReleaseLeaseV2, long, large, fits, valid, mode, found,
    findSession_reserved found, holds, bne_self_eq_false, Bool.not_true, Bool.or_self,
    decide_false, Bool.false_eq_true, if_false, setSession_self]
  trivial

/-- A lease that the selection grants can be given back exactly if the snapshot
has a generation: the grant does not ask for one. -/
theorem granted_lease_good_iff {request : HvProviderRequestV2}
    {capabilities : HvCapabilitySnapshotV2}
    (success : (selectProviderV2 (some request) (some capabilities)).status = .Success) :
    GoodLease (selectProviderV2 (some request) (some capabilities)).lease capabilities ↔
      capabilities.generation ≠ 0 := by
  have granted := selectProviderV2_granted success
  have validIff := granted.grants.valid_iff granted.clientId
  constructor
  · intro good
    exact validIff.mp good.valid
  · intro generation
    have valid := validIff.mpr generation
    refine ⟨valid, granted.grants.matches granted.capabilitiesValid valid, ?_⟩
    exact releasable_of_valid valid granted.grants.mode_ne_none

/-- A request for the WHP partition. -/
def whpRequest : HvProviderRequestV2 where
  size := sizeofHvProviderRequestV2
  version := kAbiV2Version
  requestId := 1
  session := ⟨1, 1, 0⟩
  requiredHardwareFeatures := 0
  requiredProviderFeatures := 0
  requiredPolicyFeatures := 0
  mode := HvLeaseModeV2.WhpManaged.word
  flags := 0

theorem granted_lease_good_handed_over :
    GoodLease (selectProviderV2 (some { whpRequest with mode := HvLeaseModeV2.HardwareL0.word })
        (some (makeCapabilitySnapshotV2 (some handedOverSnapshot)))).lease
        (makeCapabilitySnapshotV2 (some handedOverSnapshot)) ↔
      (makeCapabilitySnapshotV2 (some handedOverSnapshot)).generation ≠ 0 :=
  granted_lease_good_iff (by decide)

/-- The snapshot of a driver that owns nothing has no generation, and lets the
WHP partition be leased for good. -/
theorem granted_lease_stuck :
    requestV2Valid whpRequest = true ∧
      isCapabilitySnapshotV2Valid
        (makeCapabilitySnapshotV2 (some (makeFallbackCapabilitySnapshot false true))) = true ∧
      (selectProviderV2 (some whpRequest) (some (makeCapabilitySnapshotV2
        (some (makeFallbackCapabilitySnapshot false true))))).status = .Success ∧
      isOwnerLeaseV2Valid (selectProviderV2 (some whpRequest) (some (makeCapabilitySnapshotV2
        (some (makeFallbackCapabilitySnapshot false true))))).lease = false := by
  decide

end Knhv.Control
