import Mathlib.Data.List.FinRange
import Mathlib.Logic.Function.Basic
import Knhv.Control.Model

namespace Knhv.Control

open Nested Provider

variable {F : Type}

/-- The slot is in use by the file. -/
structure OwnedBy (session : KnHvClientSession F) (file : F) : Prop where
  active : session.active = true
  ownerFile : session.ownerFile = some file

@[simp] theorem setSession_self (extension : KnHvDeviceExtension F)
    (index : Fin kMaxClientSessions) (session : KnHvClientSession F) :
    (extension.setSession index session).sessions index = session :=
  Function.update_self ..

theorem setSession_of_ne (extension : KnHvDeviceExtension F) {index other : Fin kMaxClientSessions}
    (session : KnHvClientSession F) (different : other ≠ index) :
    (extension.setSession index session).sessions other = extension.sessions other :=
  Function.update_of_ne different ..

theorem registeredSession_facts (extension : KnHvDeviceExtension F) (ownerFile : F)
    (status : HvStatus) (provider : HvProviderKind) :
    OwnedBy (registeredSession extension ownerFile status provider) ownerFile ∧
      (registeredSession extension ownerFile status provider).status.clientId =
        nextClientId extension.nextClient ∧
      (registeredSession extension ownerFile status provider).leaseActive = false := by
  unfold registeredSession
  dsimp only
  split
  · exact ⟨⟨rfl, rfl⟩, rfl, rfl⟩
  · exact ⟨⟨rfl, rfl⟩, rfl, rfl⟩

theorem allocateSession_free {extension allocated : KnHvDeviceExtension F} {ownerFile : F}
    {index : Fin kMaxClientSessions}
    (found : allocateSession extension ownerFile = some (index, allocated)) :
    extension.activeSessions < BitVec.ofNat 32 kMaxClientSessions ∧
      (extension.sessions index).active = false ∧
      allocated = { extension.setSession index (.allocated ownerFile) with
        activeSessions := extension.activeSessions + 1 } := by
  unfold allocateSession at found
  split at found
  · cases found
  · rename_i room
    rw [BitVec.not_le] at room
    obtain ⟨slot, free, same⟩ := Option.map_eq_some_iff.mp found
    cases same
    have inactive := List.find?_some free
    exact ⟨room, by simpa using inactive, rfl⟩

/-- The response to an acquisition reports success only if the provider was
selected, with the lease that the selection gives. -/
theorem acquireResponse_success {extension : KnHvDeviceExtension F}
    {session : KnHvClientSession F} {request : HvProviderRequestV2}
    (success : (acquireResponse extension session request).status = .Success) :
    (selectProviderV2 (some request)
        (some (makeCapabilitySnapshotV2 (some extension.capabilities)))).status = .Success ∧
      acquireResponse extension session request = selectProviderV2 (some request)
        (some (makeCapabilitySnapshotV2 (some extension.capabilities))) := by
  unfold acquireResponse at success ⊢
  dsimp only at success ⊢
  generalize selectProviderV2 (some request)
    (some (makeCapabilitySnapshotV2 (some extension.capabilities))) = response at success ⊢
  split at success
  · cases success
  · rename_i ready
    rw [if_neg ready]
    split at success
    · rename_i done
      rw [if_pos done]
      exact ⟨success, rfl⟩
    · rename_i failed
      exact absurd (beq_iff_eq.mpr success) failed

section Effects

variable [DecidableEq F]

/-- A session that is found belongs to the file and has the key. -/
structure Found (extension : KnHvDeviceExtension F) (key : HvSessionKey) (file : F)
    (index : Fin kMaxClientSessions) : Prop where
  owned : OwnedBy (extension.sessions index) file
  clientId : (extension.sessions index).status.clientId = key.clientId
  nonzero : key.clientId ≠ 0
  generation : key.generation ≠ 0

theorem findSession_found {extension : KnHvDeviceExtension F} {key : HvSessionKey}
    {file : F} {index : Fin kMaxClientSessions} (found : findSession extension key file = some index) :
    Found extension key file index := by
  unfold findSession at found
  split at found
  · cases found
  · rename_i checked
    simp only [Bool.or_eq_true, beq_iff_eq, bne_iff_ne, not_or] at checked
    have matching := List.find?_some found
    simp only [sessionMatches, Bool.and_eq_true, beq_iff_eq] at matching
    exact ⟨⟨matching.1.1.1, matching.1.1.2⟩, matching.1.2, checked.1.1, checked.1.2⟩

/-- Everything that a control request through a file can do to the sessions. -/
inductive Effect (extension : KnHvDeviceExtension F) (file : F) (irp : Irp) :
    KnHvDeviceExtension F → Prop
  | unchanged : Effect extension file irp extension
  | registered {input : HvRegisterClientIn} {index : Fin kMaxClientSessions}
      {session : KnHvClientSession F} (request : irp.ioctl = .registerClient input)
      (room : extension.activeSessions < BitVec.ofNat 32 kMaxClientSessions)
      (free : (extension.sessions index).active = false) (owned : OwnedBy session file)
      (clientId : session.status.clientId = nextClientId extension.nextClient)
      (unleased : session.leaseActive = false) :
      Effect extension file irp
        { extension.setSession index session with
          activeSessions := extension.activeSessions + 1
          nextClient := nextClientId extension.nextClient }
  | cleared {key : HvSessionKey} {index : Fin kMaxClientSessions}
      (found : Found extension key file index) :
      Effect extension file irp (clearSession extension index)
  | leased {input : HvAcquireLeaseV2In} {index : Fin kMaxClientSessions}
      (request : irp.ioctl = .acquireLease input)
      (fits : acquireInputFits input irp.inputLength = true)
      (slot : findSession extension input.request.session file = some index)
      (free : (extension.sessions index).leaseActive = false)
      (success : (selectProviderV2 (some input.request)
        (some (makeCapabilitySnapshotV2 (some extension.capabilities)))).status = .Success) :
      Effect extension file irp
        (extension.setSession index { extension.sessions index with
          lease := (selectProviderV2 (some input.request)
            (some (makeCapabilitySnapshotV2 (some extension.capabilities)))).lease
          leaseActive := true })
  | returned {key : HvSessionKey} {index : Fin kMaxClientSessions}
      (found : Found extension key file index) :
      Effect extension file irp
        (extension.setSession index { extension.sessions index with
          lease := .zero
          leaseActive := false })
  | executed {key : HvSessionKey} {index : Fin kMaxClientSessions}
      {vcpu : NestedVcpu GuestMemory} (found : Found extension key file index) :
      Effect extension file irp
        (extension.setSession index { extension.sessions index with nested := some vcpu })

variable {extension : KnHvDeviceExtension F} {file : F} {irp : Irp}

theorem handleRegisterClient_effect {input : HvRegisterClientIn}
    (request : irp.ioctl = .registerClient input) (inputLength outputLength : U32) :
    Effect extension file irp
      (handleRegisterClient extension file input inputLength outputLength).extension := by
  unfold handleRegisterClient
  split
  · exact .unchanged
  split
  · exact .unchanged
  dsimp only
  split
  · split
    · exact .unchanged
    · rename_i index allocated found
      obtain ⟨room, free, same⟩ := allocateSession_free found
      subst same
      have facts := registeredSession_facts extension file
        (selectProvider (some (makeProviderRequest input.registration
          (extension.nestedTestDriver && isKnownTestProvider input.registration)))
          (some extension.capabilities)).1
        ((selectProvider (some (makeProviderRequest input.registration
          (extension.nestedTestDriver && isKnownTestProvider input.registration)))
          (some extension.capabilities)).2.getD .None)
      have effect := Effect.registered request room free facts.1 facts.2.1 facts.2.2
      simpa only [KnHvDeviceExtension.setSession, Function.update_idem] using effect
  · exact .unchanged

theorem handleAcquireLeaseV2_effect {input : HvAcquireLeaseV2In}
    (request : irp.ioctl = .acquireLease input) (outputLength : U32) :
    Effect extension file irp
      (handleAcquireLeaseV2 extension file input irp.inputLength outputLength).extension := by
  unfold handleAcquireLeaseV2
  split
  · exact .unchanged
  split
  · exact .unchanged
  rename_i fits
  simp only [Bool.not_eq_true', Bool.not_eq_false] at fits
  split
  · exact .unchanged
  rename_i index slot
  dsimp only
  split
  · exact .unchanged
  rename_i free
  simp only [Bool.not_eq_true] at free
  split
  · rename_i done
    obtain ⟨success, same⟩ := acquireResponse_success (beq_iff_eq.mp done)
    rw [same]
    exact .leased request fits slot free success
  · exact .unchanged

theorem handleReleaseLeaseV2_effect (request : HvReleaseLeaseV2In)
    (inputLength outputLength : U32) :
    Effect extension file irp
      (handleReleaseLeaseV2 extension file request inputLength outputLength).extension := by
  unfold handleReleaseLeaseV2
  split
  · exact .unchanged
  split
  · exact .unchanged
  split
  · exact .unchanged
  rename_i index slot
  dsimp only
  split
  · exact .unchanged
  · exact .returned (findSession_found slot)

theorem handleReleaseSession_effect (input : HvQuerySessionIn) (inputLength : U32) :
    Effect extension file irp
      (handleReleaseSession extension file input inputLength).extension := by
  unfold handleReleaseSession
  split
  · exact .unchanged
  split
  · exact .unchanged
  split
  · exact .unchanged
  rename_i index slot
  exact .cleared (findSession_found slot)

theorem handleNested_effect (required produced version size : U32) (requestId : U64)
    (key : HvSessionKey)
    (run : NestedVcpu GuestMemory → NestedResult × NestedVcpu GuestMemory)
    (inputLength outputLength : U32) :
    Effect extension file irp
      (handleNested extension file required produced version size requestId key run inputLength
        outputLength).extension := by
  unfold handleNested
  split
  · exact .unchanged
  split
  · exact .unchanged
  split
  · exact .unchanged
  rename_i index slot
  split
  · exact .unchanged
  · exact .executed (findSession_found slot)

theorem handleQuerySession_unchanged (input : HvQuerySessionIn) (inputLength outputLength : U32) :
    (handleQuerySession extension file input inputLength outputLength).extension = extension := by
  unfold handleQuerySession
  repeat' split
  all_goals rfl

omit [DecidableEq F] in
theorem handleQueryCaps_unchanged (input : HvQueryCapsIn) (inputLength outputLength : U32) :
    (handleQueryCaps extension input inputLength outputLength).extension = extension := by
  unfold handleQueryCaps
  repeat' split
  all_goals rfl

omit [DecidableEq F] in
theorem handleQueryCapsV2_unchanged (input : HvQueryCapsV2In) (inputLength outputLength : U32) :
    (handleQueryCapsV2 extension input inputLength outputLength).extension = extension := by
  unfold handleQueryCapsV2
  repeat' split
  all_goals rfl

theorem dispatchIoctl_effect (extension : KnHvDeviceExtension F) (file : F) (irp : Irp) :
    Effect extension file irp (dispatchIoctl extension file irp).extension := by
  unfold dispatchIoctl
  split
  · exact .unchanged
  split
  · rw [handleQueryCaps_unchanged]
    exact .unchanged
  · rw [handleQueryCapsV2_unchanged]
    exact .unchanged
  · rename_i input request
    exact handleRegisterClient_effect request _ _
  · rw [handleQuerySession_unchanged]
    exact .unchanged
  · exact handleReleaseSession_effect _ _
  · rename_i input request
    exact handleAcquireLeaseV2_effect request _
  · exact handleReleaseLeaseV2_effect _ _ _
  · exact handleNested_effect ..
  · exact handleNested_effect ..
  · exact .unchanged

theorem dispatchDeviceControl_effect (device : KnHvDevice F) (file : F) (irp : Irp) :
    Effect device.extension file irp (dispatchDeviceControl device file irp).extension := by
  unfold dispatchDeviceControl
  split
  · exact .unchanged
  · exact dispatchIoctl_effect device.extension file irp

/-- One round of the loop over the slots when a file is closed. -/
def closeSlot (file : F) (extension : KnHvDeviceExtension F) (index : Fin kMaxClientSessions) :
    KnHvDeviceExtension F :=
  if (extension.sessions index).active && (extension.sessions index).ownerFile == some file then
    clearSession extension index
  else extension

theorem releaseSessionsForFile_eq (extension : KnHvDeviceExtension F) (file : F) :
    releaseSessionsForFile extension file =
      (List.finRange kMaxClientSessions).foldl (closeSlot file) extension := rfl

theorem closeSlot_cases (extension : KnHvDeviceExtension F) (file : F)
    (index : Fin kMaxClientSessions) :
    OwnedBy (extension.sessions index) file ∧
        closeSlot file extension index = clearSession extension index ∨
      ¬OwnedBy (extension.sessions index) file ∧ closeSlot file extension index = extension := by
  unfold closeSlot
  split
  · rename_i owned
    simp only [Bool.and_eq_true, beq_iff_eq] at owned
    exact Or.inl ⟨⟨owned.1, owned.2⟩, rfl⟩
  · rename_i other
    simp only [Bool.and_eq_true, beq_iff_eq] at other
    exact Or.inr ⟨fun owned => other ⟨owned.active, owned.ownerFile⟩, rfl⟩

end Effects

end Knhv.Control
