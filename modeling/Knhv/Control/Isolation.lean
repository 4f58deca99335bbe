import Mathlib.Algebra.Group.Nat.Defs
import Mathlib.Data.List.Induction
import Knhv.Control.Sessions
import Knhv.Lib.Run
import Knhv.Lib.SlotTable
import Knhv.Provider.Lease

namespace Knhv.Control

open Nested Provider

variable {F : Type}

/-- The slot is in use. -/
abbrev InUse (session : KnHvClientSession F) : Prop := session.active = true

/-- The table of sessions and the counters beside it. -/
structure Consistent (extension : KnHvDeviceExtension F) : Prop where
  counted : extension.activeSessions.toNat = SlotTable.countUsed InUse extension.sessions
  distinct : SlotTable.KeysDistinct InUse (fun session => session.status.clientId)
    extension.sessions
  nonzero : ∀ index, InUse (extension.sessions index) →
    (extension.sessions index).status.clientId ≠ 0
  issued : ∀ index, InUse (extension.sessions index) →
    (extension.sessions index).status.clientId.toNat ≤ extension.nextClient.toNat
  leaseOwner : ∀ index, InUse (extension.sessions index) →
    (extension.sessions index).leaseActive = true →
    (extension.sessions index).lease.ownerId = (extension.sessions index).status.clientId

theorem Consistent.bounded {extension : KnHvDeviceExtension F} (consistent : Consistent extension) :
    extension.activeSessions.toNat ≤ kMaxClientSessions := by
  rw [consistent.counted]
  exact (SlotTable.countUsed_le InUse extension.sessions).trans (Fintype.card_fin _).le

theorem nextClientId_toNat {nextClient : U64} (room : nextClient.toNat + 1 < 2 ^ 64) :
    (nextClientId nextClient).toNat = nextClient.toNat + 1 := by
  have sum : (nextClient + 1).toNat = nextClient.toNat + 1 := by
    rw [BitVec.toNat_add, show (1 : U64).toNat = 1 from rfl, Nat.mod_eq_of_lt room]
  have nonzero : ¬(nextClient + 1 == 0) = true := by
    intro zero
    rw [beq_iff_eq.mp zero] at sum
    exact absurd sum (Nat.succ_ne_zero _).symm
  rw [nextClientId, if_neg nonzero, sum]

/-- An entry over a used one that keeps its client, and whose lease is its
own. -/
theorem Consistent.replace {extension : KnHvDeviceExtension F} (consistent : Consistent extension)
    {index : Fin kMaxClientSessions} {session : KnHvClientSession F}
    (used : InUse (extension.sessions index)) (active : InUse session)
    (client : session.status.clientId = (extension.sessions index).status.clientId)
    (owner : session.leaseActive = true → session.lease.ownerId = session.status.clientId) :
    Consistent (extension.setSession index session) where
  counted := by
    rw [show (extension.setSession index session).activeSessions = extension.activeSessions from rfl,
      consistent.counted]
    refine (SlotTable.countUsed_congr fun slot => ?_).symm
    by_cases same : slot = index
    · rw [same, setSession_self]
      exact iff_of_true active used
    · rw [setSession_of_ne _ _ same]
  distinct := consistent.distinct.replace active used client
  nonzero := by
    intro slot inUse
    by_cases same : slot = index
    · rw [same, setSession_self, client]
      exact consistent.nonzero index used
    · rw [setSession_of_ne _ _ same] at inUse ⊢
      exact consistent.nonzero slot inUse
  issued := by
    intro slot inUse
    by_cases same : slot = index
    · rw [same, setSession_self, client]
      exact consistent.issued index used
    · rw [setSession_of_ne _ _ same] at inUse ⊢
      exact consistent.issued slot inUse
  leaseOwner := by
    intro slot inUse leased
    by_cases same : slot = index
    · rw [same, setSession_self] at leased ⊢
      exact owner leased
    · rw [setSession_of_ne _ _ same] at inUse leased ⊢
      exact consistent.leaseOwner slot inUse leased

theorem Consistent.clear {extension : KnHvDeviceExtension F} (consistent : Consistent extension)
    {index : Fin kMaxClientSessions} (used : InUse (extension.sessions index)) :
    Consistent (clearSession extension index) := by
  have idle : ¬InUse (KnHvClientSession.zero : KnHvClientSession F) := by
    intro active
    cases active
  have elsewhere {slot : Fin kMaxClientSessions}
      (inUse : InUse ((clearSession extension index).sessions slot)) :
      (clearSession extension index).sessions slot = extension.sessions slot := by
    refine setSession_of_ne _ _ fun same => idle ?_
    rw [same] at inUse
    simpa only [clearSession, setSession_self] using inUse
  have removed : SlotTable.countUsed InUse (Function.update extension.sessions index .zero) + 1 =
      SlotTable.countUsed InUse extension.sessions :=
    SlotTable.countUsed_update_of_used used idle
  refine ⟨?_, consistent.distinct.release idle, ?_, ?_, ?_⟩
  · have positive : extension.activeSessions ≠ 0 := by
      intro zero
      have counted := consistent.counted
      rw [zero, ← removed] at counted
      exact absurd counted (Nat.succ_ne_zero _).symm
    have one : (1 : U32).toNat = 1 := rfl
    have atLeast : (1 : U32) ≤ extension.activeSessions := by
      rw [BitVec.le_def, one, consistent.counted, ← removed]
      exact Nat.le_add_left 1 _
    simp only [clearSession, bne_iff_ne, ne_eq, positive, not_false_iff, if_true,
      KnHvDeviceExtension.setSession]
    rw [BitVec.toNat_sub_of_le atLeast, one, consistent.counted, ← removed]
    rfl
  · intro slot inUse
    have same := elsewhere inUse
    rw [same] at inUse ⊢
    exact consistent.nonzero slot inUse
  · intro slot inUse
    have same := elsewhere inUse
    rw [same] at inUse ⊢
    exact consistent.issued slot inUse
  · intro slot inUse leased
    have same := elsewhere inUse
    rw [same] at inUse leased ⊢
    exact consistent.leaseOwner slot inUse leased

/-- A new session in a free slot, with an identity that was never issued. -/
theorem Consistent.register {extension : KnHvDeviceExtension F} (consistent : Consistent extension)
    {index : Fin kMaxClientSessions} {session : KnHvClientSession F}
    (ids : extension.nextClient.toNat + 1 < 2 ^ 64)
    (free : (extension.sessions index).active = false) (active : InUse session)
    (client : session.status.clientId = nextClientId extension.nextClient)
    (unleased : session.leaseActive = false) :
    Consistent { extension.setSession index session with
      activeSessions := extension.activeSessions + 1
      nextClient := nextClientId extension.nextClient } := by
  have next := nextClientId_toNat ids
  have idle : ¬InUse (extension.sessions index) := by
    intro inUse
    rw [InUse, free] at inUse
    cases inUse
  have newer : ∀ slot, InUse (extension.sessions slot) →
      (extension.sessions slot).status.clientId ≠ session.status.clientId := by
    intro slot inUse same
    have older := consistent.issued slot inUse
    rw [same, client, next] at older
    omega
  refine ⟨?_, consistent.distinct.update newer, ?_, ?_, ?_⟩
  · have grown := SlotTable.countUsed_update_of_free idle active
    have bounded := consistent.bounded
    simp only [KnHvDeviceExtension.setSession, grown, ← consistent.counted]
    rw [BitVec.toNat_add, show (1 : U32).toNat = 1 from rfl, Nat.mod_eq_of_lt]
    exact lt_of_le_of_lt (Nat.add_le_add_right bounded 1) (by decide)
  · intro slot inUse
    by_cases same : slot = index
    · simp only [same, setSession_self, client]
      intro zero
      rw [zero] at next
      exact absurd next (Nat.succ_ne_zero _).symm
    · simp only [setSession_of_ne _ _ same] at inUse ⊢
      exact consistent.nonzero slot inUse
  · intro slot inUse
    by_cases same : slot = index
    · simp only [same, setSession_self, client]
      exact le_refl _
    · simp only [setSession_of_ne _ _ same] at inUse ⊢
      rw [next]
      exact Nat.le_succ_of_le (consistent.issued slot inUse)
  · intro slot inUse leased
    by_cases same : slot = index
    · simp only [same, setSession_self, unleased] at leased
      cases leased
    · simp only [setSession_of_ne _ _ same] at inUse leased ⊢
      exact consistent.leaseOwner slot inUse leased

/-- The lease that the selection writes is on the client of the request. -/
theorem selectProviderV2_ownerId {request : HvProviderRequestV2}
    {capabilities : HvCapabilitySnapshotV2}
    (success : (selectProviderV2 (some request) (some capabilities)).status = .Success) :
    (selectProviderV2 (some request) (some capabilities)).lease.ownerId =
      request.session.clientId := by
  have grants := (selectProviderV2_granted success).grants
  generalize selectProviderV2 (some request) (some capabilities) = response at grants
  obtain ⟨size, version, requestId, status, reserved, provider, reserved2, given, lease⟩ := response
  cases grants with
  | hardware | whp | synthetic => rfl

section Steps

variable [DecidableEq F]

theorem Effect.consistent {extension after : KnHvDeviceExtension F} {file : F} {irp : Irp}
    (effect : Effect extension file irp after) (consistent : Consistent extension)
    (ids : ∀ input, irp.ioctl = .registerClient input →
      extension.nextClient.toNat + 1 < 2 ^ 64) : Consistent after := by
  cases effect with
  | unchanged => exact consistent
  | registered request _ free owned clientId unleased =>
    exact consistent.register (ids _ request) free owned.active clientId unleased
  | cleared found => exact consistent.clear found.owned.active
  | leased _ _ slot _ success =>
    have found := findSession_found slot
    refine consistent.replace found.owned.active found.owned.active rfl fun _ => ?_
    rw [selectProviderV2_ownerId success, found.clientId]
  | returned found =>
    refine consistent.replace found.owned.active found.owned.active rfl fun leased => ?_
    cases leased
  | executed found =>
    exact consistent.replace found.owned.active found.owned.active rfl
      (consistent.leaseOwner _ found.owned.active)

/-- Only a registration takes a client identity. -/
theorem Effect.nextClient {extension after : KnHvDeviceExtension F} {file : F} {irp : Irp}
    (effect : Effect extension file irp after) :
    after.nextClient = extension.nextClient ∨
      after.nextClient = nextClientId extension.nextClient ∧
        ∃ input, irp.ioctl = .registerClient input := by
  cases effect with
  | unchanged | cleared | leased | returned | executed => exact Or.inl rfl
  | registered request _ _ _ _ _ => exact Or.inr ⟨rfl, _, request⟩

/-- The requests through one file leave the sessions of the others alone, and
make sessions of their own file only. -/
structure Isolated (extension after : KnHvDeviceExtension F) (file : F) : Prop where
  others : ∀ index, InUse (extension.sessions index) → ¬OwnedBy (extension.sessions index) file →
    after.sessions index = extension.sessions index
  origin : ∀ index owner, OwnedBy (after.sessions index) owner →
    OwnedBy (extension.sessions index) owner ∨ owner = file

omit [DecidableEq F] in
/-- An entry of the file over a slot that no other file uses. -/
theorem Isolated.of_setSession {extension after : KnHvDeviceExtension F} {file : F}
    {index : Fin kMaxClientSessions} {session : KnHvClientSession F}
    (sessions : after.sessions = (extension.setSession index session).sessions)
    (mine : InUse (extension.sessions index) → OwnedBy (extension.sessions index) file)
    (stays : ∀ owner, OwnedBy session owner → owner = file) : Isolated extension after file where
  others := by
    intro slot inUse other
    rw [sessions]
    refine setSession_of_ne _ _ fun same => other ?_
    rw [same] at inUse ⊢
    exact mine inUse
  origin := by
    intro slot owner owned
    rw [sessions] at owned
    by_cases same : slot = index
    · rw [same, setSession_self] at owned
      exact Or.inr (stays owner owned)
    · rw [setSession_of_ne _ _ same] at owned
      exact Or.inl owned

omit [DecidableEq F] in
theorem OwnedBy.unique {session : KnHvClientSession F} {first second : F}
    (one : OwnedBy session first) (other : OwnedBy session second) : second = first :=
  Option.some.inj (other.ownerFile.symm.trans one.ownerFile)

omit [DecidableEq F] in
theorem not_ownedBy_zero (owner : F) : ¬OwnedBy (KnHvClientSession.zero : KnHvClientSession F) owner :=
  fun owned => by cases owned.active

theorem Effect.isolated {extension after : KnHvDeviceExtension F} {file : F} {irp : Irp}
    (effect : Effect extension file irp after) : Isolated extension after file := by
  cases effect with
  | unchanged => exact ⟨fun _ _ _ => rfl, fun _ _ owned => Or.inl owned⟩
  | registered _ _ free owned _ _ =>
    refine .of_setSession rfl (fun inUse => ?_) fun owner => owned.unique
    rw [InUse, free] at inUse
    cases inUse
  | cleared found =>
    exact .of_setSession rfl (fun _ => found.owned) fun owner owned =>
      absurd owned (not_ownedBy_zero owner)
  | leased _ _ slot _ _ =>
    have owned := (findSession_found slot).owned
    exact .of_setSession rfl (fun _ => owned) fun owner same =>
      owned.unique ⟨same.active, same.ownerFile⟩
  | returned found | executed found =>
    exact .of_setSession rfl (fun _ => found.owned) fun owner same =>
      found.owned.unique ⟨same.active, same.ownerFile⟩

/-- The loop that closes a file clears the slots of the file it has passed, and
no others. -/
theorem closeSlots_sessions (file : F) (indices : List (Fin kMaxClientSessions))
    (extension : KnHvDeviceExtension F) (slot : Fin kMaxClientSessions) :
    (slot ∈ indices → OwnedBy (extension.sessions slot) file →
        (indices.foldl (closeSlot file) extension).sessions slot = .zero) ∧
      (¬OwnedBy (extension.sessions slot) file →
        (indices.foldl (closeSlot file) extension).sessions slot = extension.sessions slot) := by
  induction indices generalizing extension with
  | nil => exact ⟨fun member => absurd member List.not_mem_nil, fun _ => rfl⟩
  | cons index indices ih =>
    obtain ⟨ihOwned, ihOther⟩ := ih (closeSlot file extension index)
    rw [List.foldl_cons]
    rcases closeSlot_cases extension file index with ⟨owned, cleared⟩ | ⟨other, same⟩
    · rw [cleared] at ihOwned ihOther ⊢
      by_cases here : slot = index
      · have zero : (clearSession extension index).sessions slot = .zero := by
          rw [here]
          exact setSession_self ..
        rw [zero] at ihOther
        have done := ihOther (not_ownedBy_zero file)
        rw [here] at done ⊢
        exact ⟨fun _ _ => done, fun other => absurd owned other⟩
      · have kept : (clearSession extension index).sessions slot = extension.sessions slot :=
          setSession_of_ne _ _ here
        rw [kept] at ihOwned ihOther
        refine ⟨fun member => ihOwned ?_, ihOther⟩
        exact (List.mem_cons.mp member).resolve_left here
    · rw [same] at ihOwned ihOther ⊢
      refine ⟨fun member owned => ?_, ihOther⟩
      rcases List.mem_cons.mp member with here | later
      · rw [here] at owned
        exact absurd owned other
      · exact ihOwned later owned

/-- Closing a file removes exactly the sessions of the file. -/
structure Closed (extension after : KnHvDeviceExtension F) (file : F) : Prop where
  removed : ∀ index, OwnedBy (extension.sessions index) file → after.sessions index = .zero
  kept : ∀ index, ¬OwnedBy (extension.sessions index) file →
    after.sessions index = extension.sessions index

theorem releaseSessionsForFile_closed (extension : KnHvDeviceExtension F) (file : F) :
    Closed extension (releaseSessionsForFile extension file) file where
  removed := fun index =>
    (closeSlots_sessions file (List.finRange _) extension index).1 (List.mem_finRange index)
  kept := fun index => (closeSlots_sessions file (List.finRange _) extension index).2

omit [DecidableEq F] in
theorem Closed.isolated {extension after : KnHvDeviceExtension F} {file : F}
    (closed : Closed extension after file) : Isolated extension after file where
  others := fun index _ => closed.kept index
  origin := by
    intro index owner owned
    by_cases mine : OwnedBy (extension.sessions index) file
    · rw [closed.removed index mine] at owned
      exact absurd owned (not_ownedBy_zero owner)
    · rw [closed.kept index mine] at owned
      exact Or.inl owned

theorem releaseSessionsForFile_consistent {extension : KnHvDeviceExtension F}
    (consistent : Consistent extension) (file : F) :
    Consistent (releaseSessionsForFile extension file) ∧
      (releaseSessionsForFile extension file).nextClient = extension.nextClient := by
  rw [releaseSessionsForFile_eq]
  refine Run.invariant_always
    (P := fun later : KnHvDeviceExtension F =>
      Consistent later ∧ later.nextClient = extension.nextClient)
    (fun later index held => ?_) ⟨consistent, rfl⟩ (List.finRange kMaxClientSessions)
  rcases closeSlot_cases later file index with ⟨owned, cleared⟩ | ⟨_, same⟩
  · rw [cleared]
    exact ⟨held.1.clear owned.active, held.2⟩
  · rw [same]
    exact held

/-- What a file can tell of two devices: they differ only in sessions of other
files. -/
structure SameView (file : F) (first second : KnHvDeviceExtension F) : Prop where
  nestedTestDriver : first.nestedTestDriver = second.nestedTestDriver
  nextClient : first.nextClient = second.nextClient
  activeSessions : first.activeSessions = second.activeSessions
  capabilities : first.capabilities = second.capabilities
  sessions : ∀ index, first.sessions index = second.sessions index ∨
    (InUse (first.sessions index) ∧ ¬OwnedBy (first.sessions index) file) ∧
      InUse (second.sessions index) ∧ ¬OwnedBy (second.sessions index) file

theorem sessionMatches_owned {session : KnHvClientSession F} {key : HvSessionKey} {file : F}
    (matching : sessionMatches session key file = true) : OwnedBy session file := by
  simp only [sessionMatches, Bool.and_eq_true, beq_iff_eq] at matching
  exact ⟨matching.1.1.1, matching.1.1.2⟩

theorem SameView.find {file : F} {first second : KnHvDeviceExtension F}
    (view : SameView file first second) (key : HvSessionKey) :
    findSession first key file = findSession second key file := by
  have pointwise : ∀ index, sessionMatches (first.sessions index) key file =
      sessionMatches (second.sessions index) key file := by
    intro index
    rcases view.sessions index with same | ⟨⟨_, mine⟩, _, yours⟩
    · rw [same]
    · rw [Bool.eq_false_iff.mpr fun matching => mine (sessionMatches_owned matching),
        Bool.eq_false_iff.mpr fun matching => yours (sessionMatches_owned matching)]
  simp only [findSession, pointwise]

theorem SameView.slot {file : F} {first second : KnHvDeviceExtension F}
    (view : SameView file first second) {key : HvSessionKey} {index : Fin kMaxClientSessions}
    (found : findSession second key file = some index) :
    first.sessions index = second.sessions index := by
  rcases view.sessions index with same | ⟨_, _, other⟩
  · exact same
  · exact absurd (findSession_found found).owned other

omit [DecidableEq F] in
theorem SameView.allocate {file : F} {first second : KnHvDeviceExtension F}
    (view : SameView file first second) :
    (allocateSession first file).map Prod.fst = (allocateSession second file).map Prod.fst := by
  have pointwise : ∀ index, (first.sessions index).active = (second.sessions index).active := by
    intro index
    rcases view.sessions index with same | ⟨⟨mine, _⟩, yours, _⟩
    · rw [same]
    · rw [mine, yours]
  simp only [allocateSession, view.activeSessions, pointwise]
  split
  · rfl
  · simp only [Option.map_map, Function.comp_def]

/-- Two outcomes that the caller cannot tell apart. -/
def SameReply (first second : IrpResult F) : Prop :=
  first.status = second.status ∧ first.reply = second.reply

variable {file : F} {first second : KnHvDeviceExtension F}

theorem SameView.acquire (view : SameView file first second) (input : HvAcquireLeaseV2In)
    (inputLength outputLength : U32) :
    SameReply (handleAcquireLeaseV2 first file input inputLength outputLength)
      (handleAcquireLeaseV2 second file input inputLength outputLength) := by
  unfold handleAcquireLeaseV2
  rw [view.find input.request.session]
  split
  · exact ⟨rfl, rfl⟩
  split
  · exact ⟨rfl, rfl⟩
  split
  · exact ⟨rfl, rfl⟩
  rename_i index found
  have response : acquireResponse first (second.sessions index) input.request =
      acquireResponse second (second.sessions index) input.request := by
    simp only [acquireResponse, view.capabilities]
  dsimp only
  rw [view.slot found, response]
  split
  · exact ⟨rfl, rfl⟩
  · exact ⟨rfl, rfl⟩

theorem SameView.releaseLease (view : SameView file first second) (request : HvReleaseLeaseV2In)
    (inputLength outputLength : U32) :
    SameReply (handleReleaseLeaseV2 first file request inputLength outputLength)
      (handleReleaseLeaseV2 second file request inputLength outputLength) := by
  unfold handleReleaseLeaseV2
  rw [view.find request.session]
  split
  · exact ⟨rfl, rfl⟩
  split
  · exact ⟨rfl, rfl⟩
  split
  · exact ⟨rfl, rfl⟩
  rename_i index found
  dsimp only
  rw [view.slot found]
  split
  · exact ⟨rfl, rfl⟩
  · exact ⟨rfl, rfl⟩

omit [DecidableEq F] in
theorem SameView.registered (view : SameView file first second) (status : HvStatus)
    (provider : HvProviderKind) :
    registeredSession first file status provider = registeredSession second file status provider := by
  simp only [registeredSession, sessionGeneration, view.nextClient, view.capabilities,
    view.nestedTestDriver]

omit [DecidableEq F] in
theorem SameView.register (view : SameView file first second) (input : HvRegisterClientIn)
    (inputLength outputLength : U32) :
    SameReply (handleRegisterClient first file input inputLength outputLength)
      (handleRegisterClient second file input inputLength outputLength) := by
  have allocate := view.allocate
  unfold handleRegisterClient
  simp only [view.nestedTestDriver, view.capabilities, view.registered]
  split
  · exact ⟨rfl, rfl⟩
  split
  · exact ⟨rfl, rfl⟩
  split
  · cases one : allocateSession first file with
    | none =>
      cases other : allocateSession second file with
      | none => exact ⟨rfl, rfl⟩
      | some slot => simp [one, other] at allocate
    | some slot =>
      cases other : allocateSession second file with
      | none => simp [one, other] at allocate
      | some slot => exact ⟨rfl, rfl⟩
  · exact ⟨rfl, rfl⟩

theorem SameView.querySession (view : SameView file first second) (input : HvQuerySessionIn)
    (inputLength outputLength : U32) :
    SameReply (handleQuerySession first file input inputLength outputLength)
      (handleQuerySession second file input inputLength outputLength) := by
  unfold handleQuerySession
  rw [view.find input.session]
  split
  · exact ⟨rfl, rfl⟩
  split
  · exact ⟨rfl, rfl⟩
  split
  · exact ⟨rfl, rfl⟩
  rename_i index found
  rw [view.slot found]
  exact ⟨rfl, rfl⟩

theorem SameView.releaseSession (view : SameView file first second) (input : HvQuerySessionIn)
    (inputLength : U32) :
    SameReply (handleReleaseSession first file input inputLength)
      (handleReleaseSession second file input inputLength) := by
  unfold handleReleaseSession
  rw [view.find input.session]
  split
  · exact ⟨rfl, rfl⟩
  split
  · exact ⟨rfl, rfl⟩
  split
  · exact ⟨rfl, rfl⟩
  · exact ⟨rfl, rfl⟩

theorem SameView.nested (view : SameView file first second)
    (required produced version size : U32) (requestId : U64) (key : HvSessionKey)
    (run : NestedVcpu GuestMemory → NestedResult × NestedVcpu GuestMemory)
    (inputLength outputLength : U32) :
    SameReply
      (handleNested first file required produced version size requestId key run inputLength
        outputLength)
      (handleNested second file required produced version size requestId key run inputLength
        outputLength) := by
  unfold handleNested
  rw [view.nestedTestDriver, view.find key]
  split
  · exact ⟨rfl, rfl⟩
  split
  · exact ⟨rfl, rfl⟩
  split
  · exact ⟨rfl, rfl⟩
  rename_i index found
  rw [view.slot found]
  split
  · exact ⟨rfl, rfl⟩
  · exact ⟨rfl, rfl⟩

omit [DecidableEq F] in
theorem SameView.caps (view : SameView file first second) (input : HvQueryCapsIn)
    (inputLength outputLength : U32) :
    SameReply (handleQueryCaps first input inputLength outputLength)
      (handleQueryCaps second input inputLength outputLength) := by
  unfold handleQueryCaps
  rw [view.capabilities]
  split
  · exact ⟨rfl, rfl⟩
  split
  · exact ⟨rfl, rfl⟩
  · exact ⟨rfl, rfl⟩

omit [DecidableEq F] in
theorem SameView.capsV2 (view : SameView file first second) (input : HvQueryCapsV2In)
    (inputLength outputLength : U32) :
    SameReply (handleQueryCapsV2 first input inputLength outputLength)
      (handleQueryCapsV2 second input inputLength outputLength) := by
  unfold handleQueryCapsV2
  rw [view.capabilities]
  split
  · exact ⟨rfl, rfl⟩
  split
  · exact ⟨rfl, rfl⟩
  · exact ⟨rfl, rfl⟩

/-- What a request returns does not depend on the sessions of other files. -/
theorem SameView.dispatch (view : SameView file first second) (irp : Irp) :
    SameReply (dispatchIoctl first file irp) (dispatchIoctl second file irp) := by
  unfold dispatchIoctl
  split
  · exact ⟨rfl, rfl⟩
  split
  · exact view.caps _ _ _
  · exact view.capsV2 _ _ _
  · exact view.register _ _ _
  · exact view.querySession _ _ _
  · exact view.releaseSession _ _
  · exact view.acquire _ _ _
  · exact view.releaseLease _ _ _
  · exact view.nested ..
  · exact view.nested ..
  · exact ⟨rfl, rfl⟩

end Steps

/-- The request is a registration. -/
def isRegistration : DeviceCall F → Bool
  | .control _ irp =>
    match irp.ioctl with
    | .registerClient _ => true
    | _ => false
  | _ => false

/-- How many registrations a run asks for. -/
def registrations (calls : List (DeviceCall F)) : Nat := calls.countP isRegistration

theorem registrations_snoc (calls : List (DeviceCall F)) (call : DeviceCall F) :
    registrations (calls ++ [call]) = registrations calls + if isRegistration call then 1 else 0 := by
  rw [registrations, List.countP_append, List.countP_singleton]
  rfl

section Runs

variable [DecidableEq F]

/-- One request keeps the table consistent, and takes an identity only if it
registers. -/
theorem deviceStep_consistent {device : KnHvDevice F} {call : DeviceCall F} {issued : Nat}
    (consistent : Consistent device.extension)
    (taken : device.extension.nextClient.toNat ≤ issued)
    (few : issued + (if isRegistration call then 1 else 0) < 2 ^ 64) :
    Consistent (deviceStep device call).extension ∧
      (deviceStep device call).extension.nextClient.toNat ≤
        issued + if isRegistration call then 1 else 0 := by
  cases call with
  | create file => exact ⟨consistent, Nat.le_add_right_of_le taken⟩
  | close file =>
    obtain ⟨kept, same⟩ := releaseSessionsForFile_consistent consistent file
    refine ⟨kept, ?_⟩
    rw [deviceStep, dispatchClose, same]
    exact Nat.le_add_right_of_le taken
  | control file irp =>
    have effect := dispatchDeviceControl_effect device file irp
    have registers : ∀ input, irp.ioctl = .registerClient input →
        isRegistration (.control file irp) = true := by
      intro input request
      simp only [isRegistration, request]
    have room : ∀ input, irp.ioctl = .registerClient input →
        device.extension.nextClient.toNat + 1 < 2 ^ 64 := by
      intro input request
      rw [registers input request, if_pos rfl] at few
      omega
    refine ⟨effect.consistent consistent room, ?_⟩
    rcases effect.nextClient with same | ⟨next, input, request⟩
    · rw [deviceStep, same]
      exact Nat.le_add_right_of_le taken
    · rw [deviceStep, next, nextClientId_toNat (room input request), registers input request,
        if_pos rfl]
      exact Nat.add_le_add_right taken 1

omit [DecidableEq F] in
theorem initialDevice_consistent (nestedTestDriver : Bool) (capabilities : HvCapabilitySnapshot) :
    Consistent (initialDevice nestedTestDriver capabilities : KnHvDevice F).extension := by
  have idle : ∀ index, ¬InUse ((initialDevice nestedTestDriver capabilities :
      KnHvDevice F).extension.sessions index) := by
    intro index inUse
    cases inUse
  refine ⟨?_, ?_, ?_, ?_, ?_⟩
  · exact (SlotTable.countUsed_eq_zero idle).symm
  · exact fun first _ used => absurd used (idle first)
  · exact fun index used => absurd used (idle index)
  · exact fun index used => absurd used (idle index)
  · exact fun index used => absurd used (idle index)

theorem after_consistent (nestedTestDriver : Bool) (capabilities : HvCapabilitySnapshot)
    {calls : List (DeviceCall F)} (few : registrations calls < 2 ^ 64) :
    Consistent (Run.after deviceStep (initialDevice nestedTestDriver capabilities) calls).extension ∧
      (Run.after deviceStep (initialDevice nestedTestDriver capabilities)
        calls).extension.nextClient.toNat ≤ registrations calls := by
  induction calls using List.reverseRecOn with
  | nil => exact ⟨initialDevice_consistent nestedTestDriver capabilities, Nat.zero_le _⟩
  | append_singleton calls call ih =>
    rw [registrations_snoc] at few ⊢
    obtain ⟨consistent, taken⟩ := ih (Nat.lt_of_le_of_lt (Nat.le_add_right _ _) few)
    rw [Run.after_append]
    exact deviceStep_consistent consistent taken few

/-- The sessions of a device, and what the next request through any file can do
to them and tell of them. -/
structure SessionsIsolated (device : KnHvDevice F) : Prop where
  consistent : Consistent device.extension
  bounded : device.extension.activeSessions.toNat ≤ kMaxClientSessions
  control : ∀ file irp,
    Isolated device.extension (deviceStep device (.control file irp)).extension file
  replies : ∀ (other : KnHvDevice F) file irp, SameView file device.extension other.extension →
    device.opened file = other.opened file →
    SameReply (dispatchDeviceControl device file irp) (dispatchDeviceControl other file irp)
  closing : ∀ file, Isolated device.extension (deviceStep device (.close file)).extension file
  closed : ∀ file, Closed device.extension (deviceStep device (.close file)).extension file

/-- The sessions of different files are kept apart, after every run of requests
with fewer registrations than there are client identities. -/
theorem session_isolation (nestedTestDriver : Bool) (capabilities : HvCapabilitySnapshot)
    (calls : List (DeviceCall F)) (few : registrations calls < 2 ^ 64) :
    SessionsIsolated
      (Run.after deviceStep (initialDevice nestedTestDriver capabilities) calls) where
  consistent := (after_consistent nestedTestDriver capabilities few).1
  bounded := (after_consistent nestedTestDriver capabilities few).1.bounded
  control := fun file irp => (dispatchDeviceControl_effect _ file irp).isolated
  replies := by
    intro other file irp view opened
    unfold dispatchDeviceControl
    rw [opened]
    split
    · exact ⟨rfl, rfl⟩
    · exact view.dispatch irp
  closing := fun file => (releaseSessionsForFile_closed _ file).isolated
  closed := fun file => releaseSessionsForFile_closed _ file

end Runs

/-- A registration that only loads. -/
def loadOnlyRegistration : HvProviderRegistration where
  version := kAbiVersion
  size := sizeofHvProviderRegistration
  providerGuid := fun _ => 0
  minAbiVersion := 1
  maxAbiVersion := 1
  kind := HvProviderKind.LoadOnly.word
  securityPolicyVersion := 0
  advertisedFeatures := 0
  maxVcpus := 1
  maxGuestPages := 1
  policyHash := 0
  reserved := fun _ => 0

def registerIrp : Irp :=
  ⟨.registerClient ⟨kAbiVersion, sizeofHvRegisterClientIn, 1, loadOnlyRegistration⟩,
    sizeofHvRegisterClientIn, sizeofHvRegisterClientOut⟩

/-- Two files register, and the first one is closed. -/
theorem session_isolation_two_files :
    SessionsIsolated (Run.after deviceStep
      (initialDevice false (makeFallbackCapabilitySnapshot false false))
      [.create 0, .create 1, .control 0 registerIrp, .control 1 registerIrp, .close (0 : Nat)]) :=
  session_isolation _ _ _ (by decide)

end Knhv.Control
