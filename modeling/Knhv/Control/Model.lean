import Mathlib.Data.List.FinRange
import Mathlib.Logic.Function.Basic
import Knhv.Nested.Instructions
import Knhv.Provider.Model

namespace Knhv.Control

open Nested Provider

variable {F : Type}

def kMaxClientSessions : Nat := 4
def kNestedGuestMemoryBytes : U32 := 64 * 1024
def kMaxIoctlBytes : U32 := 64 * 1024
def kTestSecurityPolicyVersion : U32 := 1
def kTestSecurityPolicyHash : U64 := 0x4B4E485654455354
def kSyntheticVmxonOperandLinear : Nat := 0
def kSyntheticVmcsOperandLinear : Nat := 8
def kSyntheticVmxonRegionGpa : U64 := kNestedPageSize.setWidth 64
def kSyntheticVmcsRegionGpa : U64 := 2 * kNestedPageSize.setWidth 64

def kKnownTestProviderGuid : List U8 :=
  [0x4b, 0x4e, 0x48, 0x56, 0x2d, 0x4e, 0x54, 0x53, 0x00, 0x00, 0x00, 0x01, 0x00, 0x00, 0x00, 0x01]

/-- The `NTSTATUS` values that the handlers return. -/
inductive NtStatus
  | Success | BufferTooSmall | InvalidParameter | InvalidHandle | NotSupported
  | InvalidDeviceRequest | InvalidBufferSize
  deriving DecidableEq, Repr

def sizeofHvQueryCapsIn : U32 := 16
def sizeofHvQueryCapsOut : U32 := 80
def sizeofHvQuerySessionIn : U32 := 32
def sizeofHvSessionStatusOut : U32 := 48
def sizeofHvRegisterClientIn : U32 := 96
def sizeofHvRegisterClientOut : U32 := 56
def sizeofHvQueryCapsV2In : U32 := 16
def sizeofHvQueryCapsV2Out : U32 := 72
def sizeofHvAcquireLeaseV2In : U32 := 72
def sizeofHvAcquireLeaseV2Out : U32 := 120
def sizeofHvReleaseLeaseV2In : U32 := 64
def sizeofHvReleaseLeaseV2Out : U32 := 24
def sizeofHvNestedInstructionIn : U32 := 104
def sizeofHvNestedInstructionOut : U32 := 72
def sizeofHvNestedExitIn : U32 := 72
def sizeofHvNestedExitOut : U32 := 72

/-- `FIELD_OFFSET(HvAcquireLeaseV2In, request)`. -/
def requestOffset : U32 := 8

structure HvQueryCapsIn where
  version : U32
  size : U32
  requestId : U64

structure HvQueryCapsOut where
  version : U32
  size : U32
  requestId : U64
  status : HvStatus
  snapshot : HvCapabilitySnapshot

structure HvQueryCapsV2In where
  size : U32
  version : U32
  requestId : U64

structure HvQueryCapsV2Out where
  size : U32
  version : U32
  requestId : U64
  status : HvStatus
  reserved : U32
  capabilities : HvCapabilitySnapshotV2

structure HvQuerySessionIn where
  version : U32
  size : U32
  requestId : U64
  session : HvSessionKey

structure HvSessionStatusOut where
  version : U32
  size : U32
  clientId : U64
  generation : U32
  loadSuccess : U32
  registrationReady : U32
  virtualizationReady : U32
  status : HvStatus
  provider : HvProviderKind
  reserved : U32
  deriving DecidableEq

structure HvRegisterClientIn where
  version : U32
  size : U32
  requestId : U64
  registration : HvProviderRegistration

structure HvRegisterClientOut where
  version : U32
  size : U32
  requestId : U64
  status : HvStatus
  provider : HvProviderKind
  loadSuccess : U32
  registrationReady : U32
  virtualizationReady : U32
  clientId : U64
  generation : U32
  reserved : U32

structure HvAcquireLeaseV2In where
  size : U32
  version : U32
  request : HvProviderRequestV2

structure HvAcquireLeaseV2Out where
  size : U32
  version : U32
  response : HvProviderResponseV2

structure HvReleaseLeaseV2In where
  size : U32
  version : U32
  requestId : U64
  session : HvSessionKey
  lease : HvOwnerLeaseV2

structure HvReleaseLeaseV2Out where
  size : U32
  version : U32
  requestId : U64
  status : HvStatus
  reserved : U32

structure HvNestedInstructionIn where
  version : U32
  size : U32
  requestId : U64
  session : HvSessionKey
  instruction : VmxInstruction

structure HvNestedExitIn where
  version : U32
  size : U32
  requestId : U64
  session : HvSessionKey
  exitRecord : NestedExitRecord

/-- `HvNestedInstructionOut` and `HvNestedExitOut`, which have the same
members. -/
structure HvNestedOut where
  version : U32
  size : U32
  requestId : U64
  session : HvSessionKey
  result : NestedResult

/-- The memory of a synthetic guest. -/
abbrev GuestMemory := Nat → U8

/-- A slot of the session table. `nested` is the synthetic processor together
with its guest memory: there is one exactly if `nested_ready` is set. -/
structure KnHvClientSession (F : Type) where
  active : Bool
  ownerFile : Option F
  status : HvSessionStatusOut
  lease : HvOwnerLeaseV2
  leaseActive : Bool
  nested : Option (NestedVcpu GuestMemory)

def HvSessionStatusOut.zero : HvSessionStatusOut := ⟨0, 0, 0, 0, 0, 0, 0, .Success, .None, 0⟩

/-- A slot after `RtlZeroMemory`. -/
def KnHvClientSession.zero : KnHvClientSession F := ⟨false, none, .zero, .zero, false, none⟩

/-- A slot that has just been given to a file. -/
def KnHvClientSession.allocated (ownerFile : F) : KnHvClientSession F :=
  ⟨true, some ownerFile, .zero, .zero, false, none⟩

structure KnHvDeviceExtension (F : Type) where
  nestedTestDriver : Bool
  nextClient : U64
  activeSessions : U32
  capabilities : HvCapabilitySnapshot
  sessions : Fin kMaxClientSessions → KnHvClientSession F

def KnHvDeviceExtension.setSession (extension : KnHvDeviceExtension F)
    (index : Fin kMaxClientSessions) (session : KnHvClientSession F) : KnHvDeviceExtension F :=
  { extension with sessions := Function.update extension.sessions index session }

def versionedInputFits (version declaredSize requiredSize suppliedLength : U32) : Bool :=
  requiredSize ≤ suppliedLength && requiredSize ≤ declaredSize && declaredSize ≤ suppliedLength &&
    isVersionedBufferValid version declaredSize requiredSize

def versionedV2InputFits (version declaredSize requiredSize suppliedLength : U32) : Bool :=
  requiredSize ≤ suppliedLength && requiredSize ≤ declaredSize && declaredSize ≤ suppliedLength &&
    isAbiV2BufferValid version declaredSize requiredSize

def allocateSession (extension : KnHvDeviceExtension F) (ownerFile : F) :
    Option (Fin kMaxClientSessions × KnHvDeviceExtension F) :=
  if BitVec.ofNat 32 kMaxClientSessions ≤ extension.activeSessions then none
  else
    ((List.finRange kMaxClientSessions).find? fun index =>
        !(extension.sessions index).active).map fun index =>
      (index,
        { extension.setSession index (.allocated ownerFile) with
          activeSessions := extension.activeSessions + 1 })

/-- Clear a slot and count it off. -/
def clearSession (extension : KnHvDeviceExtension F) (index : Fin kMaxClientSessions) :
    KnHvDeviceExtension F :=
  { extension.setSession index .zero with
    activeSessions :=
      if extension.activeSessions != 0 then extension.activeSessions - 1
      else extension.activeSessions }

section Sessions

variable [DecidableEq F]

/-- The slot belongs to the file and has the key. -/
def sessionMatches (session : KnHvClientSession F) (key : HvSessionKey) (ownerFile : F) : Bool :=
  session.active && session.ownerFile == some ownerFile &&
    session.status.clientId == key.clientId && session.status.generation == key.generation

def findSession (extension : KnHvDeviceExtension F) (key : HvSessionKey) (ownerFile : F) :
    Option (Fin kMaxClientSessions) :=
  if key.clientId == 0 || key.generation == 0 || key.reserved != 0 then none
  else
    (List.finRange kMaxClientSessions).find? fun index =>
      sessionMatches (extension.sessions index) key ownerFile

def releaseSessionsForFile (extension : KnHvDeviceExtension F) (ownerFile : F) :
    KnHvDeviceExtension F :=
  (List.finRange kMaxClientSessions).foldl (fun extension index =>
    if (extension.sessions index).active && (extension.sessions index).ownerFile == some ownerFile
    then clearSession extension index
    else extension) extension

end Sessions

def guestTranslate (memory : GuestMemory) (linear : U64) (_ : NestedMemoryAccess) :
    Option U64 × GuestMemory :=
  if kNestedGuestMemoryBytes.setWidth 64 ≤ linear then (none, memory) else (some linear, memory)

/-- The range of a guest access lies in the guest memory. -/
def guestRangeFits (guestPhysical : U64) (length : U32) : Bool :=
  length != 0 && guestPhysical < kNestedGuestMemoryBytes.setWidth 64 &&
    length ≤ kNestedGuestMemoryBytes - guestPhysical.setWidth 32

def guestRead (memory : GuestMemory) (guestPhysical : U64) (length : U32) :
    Option (Nat → U8) × GuestMemory :=
  if guestRangeFits guestPhysical length then
    (some fun offset => memory (guestPhysical.toNat + offset), memory)
  else (none, memory)

/-- `RtlCopyMemory` into the guest memory. -/
def copyMemory (memory : GuestMemory) (offset : Nat) (bytes : List U8) : GuestMemory :=
  fun address =>
    if offset ≤ address then bytes.getD (address - offset) (memory address) else memory address

def guestWrite (memory : GuestMemory) (guestPhysical : U64) (source : List U8) :
    Bool × GuestMemory :=
  if guestRangeFits guestPhysical (BitVec.ofNat 32 source.length) then
    (true, copyMemory memory guestPhysical.toNat source)
  else (false, memory)

/-- The memory of a new synthetic guest: the operands of VMXON and VMPTRLD and
the revision of their regions. -/
def syntheticMemory (revision : U32) : GuestMemory :=
  let revisionBytes := (storeWord (revision.setWidth 64)).take 4
  let memory := copyMemory (fun _ => 0) kSyntheticVmxonOperandLinear
    (storeWord kSyntheticVmxonRegionGpa)
  let memory := copyMemory memory kSyntheticVmcsOperandLinear (storeWord kSyntheticVmcsRegionGpa)
  let memory := copyMemory memory kSyntheticVmxonRegionGpa.toNat revisionBytes
  copyMemory memory kSyntheticVmcsRegionGpa.toNat revisionBytes

def initializeNestedSession (session : KnHvClientSession F) : KnHvClientSession F :=
  let capabilities := initializeCapabilitiesInternal
  let memory : NestedMemory GuestMemory :=
    { context := syntheticMemory capabilities.vmxRevision
      translate := some guestTranslate
      read := some guestRead
      write := some guestWrite }
  { session with
    nested := some { initializeNestedVcpu (some capabilities) memory with vmxeEnabled := true } }

def isKnownTestProvider (registration : HvProviderRegistration) : Bool :=
  !(registration.securityPolicyVersion != kTestSecurityPolicyVersion ||
      registration.policyHash != kTestSecurityPolicyHash ||
      kAbiVersion < registration.minAbiVersion || registration.maxAbiVersion < kAbiVersion) &&
    (List.finRange 16).all fun index =>
      kKnownTestProviderGuid[index]? == some (registration.providerGuid index)

def isProviderKindValid (kind : U32) : Bool :=
  kind == HvProviderKind.BootL0Interposer.word || kind == HvProviderKind.CooperativeL1.word ||
    kind == HvProviderKind.KnownLegacyAdapter.word || kind == HvProviderKind.LoadOnly.word ||
    kind == HvProviderKind.ExternalL0Fallback.word || kind == HvProviderKind.WhpClient.word ||
    kind == HvProviderKind.NativeExclusiveBaseline.word

/-- The mode that a provider kind asks for. -/
def requestMode (kind : U32) : U32 :=
  if kind == HvProviderKind.BootL0Interposer.word then HvMode.BootL0Interposer.word
  else if kind == HvProviderKind.CooperativeL1.word then HvMode.CooperativeL1.word
  else if kind == HvProviderKind.KnownLegacyAdapter.word then HvMode.KnownLegacyCompat.word
  else if kind == HvProviderKind.LoadOnly.word then HvMode.LoadOnly.word
  else if kind == HvProviderKind.ExternalL0Fallback.word then HvMode.ExternalL0Fallback.word
  else if kind == HvProviderKind.WhpClient.word then HvMode.WhpClient.word
  else if kind == HvProviderKind.NativeExclusiveBaseline.word then
    HvMode.NativeExclusiveBaseline.word
  else 0

/-- The manifest of a legacy adapter is first taken to match, and that is then
taken back. -/
def makeProviderRequest (registration : HvProviderRegistration) (identityVerified : Bool) :
    HvProviderRequest where
  version := kAbiVersion
  size := sizeofHvProviderRequest
  mode := requestMode registration.kind
  identityVerified := if identityVerified then 1 else 0
  legacyManifestMatch := 0
  reserved := 0
  requestedFeatures := registration.advertisedFeatures

def registrationShapeValid (registration : HvProviderRegistration) : Bool :=
  isVersionedBufferValid registration.version registration.size sizeofHvProviderRegistration &&
    (registration.minAbiVersion != 0 && registration.minAbiVersion ≤ registration.maxAbiVersion &&
      registration.minAbiVersion ≤ kAbiVersion && kAbiMinVersion ≤ registration.maxAbiVersion) &&
    (registration.maxVcpus != 0 && registration.maxVcpus ≤ 256 &&
      registration.maxGuestPages != 0 && registration.maxGuestPages ≤ 1 <<< 20) &&
    registration.advertisedFeatures &&& ~~~kKnownCapabilityMask == 0 &&
    isProviderKindValid registration.kind &&
    (List.finRange 2).all fun index => registration.reserved index == 0

def fillSession (session : KnHvClientSession F) (clientId : U64) (generation : U32)
    (status : HvStatus) (provider : HvProviderKind) (syntheticModel : Bool) :
    KnHvClientSession F :=
  { session with
    status :=
      { version := kAbiVersion
        size := sizeofHvSessionStatusOut
        clientId := clientId
        generation := generation
        loadSuccess := 1
        registrationReady := if status == .Success || status == .LoadOnly then 1 else 0
        virtualizationReady :=
          if status == .Success && provider != .LoadOnly && !syntheticModel then 1 else 0
        status := status
        provider := provider
        reserved := 0 } }

/-- What a handler writes back to the caller. -/
inductive Reply
  | caps (output : HvQueryCapsOut)
  | capsV2 (output : HvQueryCapsV2Out)
  | registered (output : HvRegisterClientOut)
  | session (output : HvSessionStatusOut)
  | acquired (output : HvAcquireLeaseV2Out)
  | released (output : HvReleaseLeaseV2Out)
  | nested (output : HvNestedOut)

/-- The outcome of a handler: it replies only if the request is completed with
data. -/
structure IrpResult (F : Type) where
  status : NtStatus
  reply : Option Reply
  extension : KnHvDeviceExtension F

/-- `SetIrpResult` without data, and nothing done. -/
def refuse (extension : KnHvDeviceExtension F) (status : NtStatus) : IrpResult F :=
  ⟨status, none, extension⟩

def handleQueryCaps (extension : KnHvDeviceExtension F) (input : HvQueryCapsIn)
    (inputLength outputLength : U32) : IrpResult F :=
  if inputLength < sizeofHvQueryCapsIn || outputLength < sizeofHvQueryCapsOut then
    refuse extension .BufferTooSmall
  else if !versionedInputFits input.version input.size sizeofHvQueryCapsIn inputLength then
    refuse extension .InvalidParameter
  else
    ⟨.Success, some (.caps ⟨kAbiVersion, sizeofHvQueryCapsOut, input.requestId, .Success,
      extension.capabilities⟩), extension⟩

def handleQueryCapsV2 (extension : KnHvDeviceExtension F) (input : HvQueryCapsV2In)
    (inputLength outputLength : U32) : IrpResult F :=
  if inputLength < sizeofHvQueryCapsV2In || outputLength < sizeofHvQueryCapsV2Out then
    refuse extension .BufferTooSmall
  else if !versionedV2InputFits input.version input.size sizeofHvQueryCapsV2In inputLength then
    refuse extension .InvalidParameter
  else
    ⟨.Success, some (.capsV2 ⟨sizeofHvQueryCapsV2Out, kAbiV2Version, input.requestId, .Success, 0,
      makeCapabilitySnapshotV2 (some extension.capabilities)⟩), extension⟩

/-- The input of an acquisition is well formed. -/
def acquireInputFits (input : HvAcquireLeaseV2In) (inputLength : U32) : Bool :=
  !(!versionedV2InputFits input.version input.size sizeofHvAcquireLeaseV2In inputLength ||
    input.size < requestOffset + sizeofHvProviderRequestV2 ||
    input.size - requestOffset < input.request.size ||
    !versionedV2InputFits input.request.version input.request.size sizeofHvProviderRequestV2
      (inputLength - requestOffset))

/-- The response to an acquisition by a session without a lease. -/
def acquireResponse (extension : KnHvDeviceExtension F) (session : KnHvClientSession F)
    (request : HvProviderRequestV2) : HvProviderResponseV2 :=
  let response := selectProviderV2 (some request)
    (some (makeCapabilitySnapshotV2 (some extension.capabilities)))
  let response :=
    if response.status == .Success && request.mode == HvLeaseModeV2.SyntheticLab.word &&
        session.nested.isNone then
      { response with status := .NestedUnavailable, provider := .None, lease := .zero }
    else response
  if response.status == .Success then response else { response with lease := .zero }

/-- `HvAcquireLeaseV2Out` around a response. -/
def acquireReply (response : HvProviderResponseV2) : Reply :=
  .acquired ⟨sizeofHvAcquireLeaseV2Out, kAbiV2Version, response⟩

/-- The next client identity: zero is left out. -/
def nextClientId (nextClient : U64) : U64 :=
  if nextClient + 1 == 0 then nextClient + 1 + 1 else nextClient + 1

def sessionGeneration (extension : KnHvDeviceExtension F) (clientId : U64) : U32 :=
  let generation := extension.capabilities.ownerGeneration ^^^ clientId.setWidth 32
  if generation == 0 then 1 else generation

/-- The session of a client that has just been registered. -/
def registeredSession (extension : KnHvDeviceExtension F) (ownerFile : F) (status : HvStatus)
    (provider : HvProviderKind) : KnHvClientSession F :=
  let clientId := nextClientId extension.nextClient
  let session := fillSession (.allocated ownerFile) clientId (sessionGeneration extension clientId)
    status provider (extension.capabilities.statusFlags &&& kFlagSyntheticSnapshot != 0)
  if extension.nestedTestDriver && status == .Success then initializeNestedSession session
  else session

def handleRegisterClient (extension : KnHvDeviceExtension F) (ownerFile : F)
    (input : HvRegisterClientIn) (inputLength outputLength : U32) : IrpResult F :=
  if inputLength < sizeofHvRegisterClientIn || outputLength < sizeofHvRegisterClientOut then
    refuse extension .BufferTooSmall
  else if !versionedInputFits input.version input.size sizeofHvRegisterClientIn inputLength ||
      !registrationShapeValid input.registration then
    refuse extension .InvalidParameter
  else
    let identityVerified := extension.nestedTestDriver && isKnownTestProvider input.registration
    let request := makeProviderRequest input.registration identityVerified
    let selection := selectProvider (some request) (some extension.capabilities)
    let status := selection.1
    let selected := selection.2.getD .None
    let response : HvRegisterClientOut :=
      { version := kAbiVersion
        size := sizeofHvRegisterClientOut
        requestId := input.requestId
        status := status
        provider := selected
        loadSuccess := 1
        registrationReady := 0
        virtualizationReady := 0
        clientId := 0
        generation := 0
        reserved := 0 }
    if status == .Success || status == .LoadOnly then
      match allocateSession extension ownerFile with
      | none =>
        ⟨.Success, some (.registered { response with status := .Busy, provider := .None }),
          extension⟩
      | some (index, allocated) =>
        let session := registeredSession extension ownerFile status selected
        ⟨.Success, some (.registered { response with
            registrationReady := session.status.registrationReady
            virtualizationReady := session.status.virtualizationReady
            clientId := session.status.clientId
            generation := session.status.generation }),
          { allocated.setSession index session with
            nextClient := nextClientId extension.nextClient }⟩
    else ⟨.Success, some (.registered response), extension⟩

/-- The lease that the caller names is the one that the session holds. -/
def holdsLease (session : KnHvClientSession F) (lease : HvOwnerLeaseV2) : Bool :=
  !(!session.leaseActive || session.lease.ownerId != lease.ownerId ||
    session.lease.generation != lease.generation || session.lease.mode != lease.mode ||
    session.lease.flags != lease.flags)

section Handlers

variable [DecidableEq F]

def handleAcquireLeaseV2 (extension : KnHvDeviceExtension F) (ownerFile : F)
    (input : HvAcquireLeaseV2In) (inputLength outputLength : U32) : IrpResult F :=
  if inputLength < sizeofHvAcquireLeaseV2In || outputLength < sizeofHvAcquireLeaseV2Out then
    refuse extension .BufferTooSmall
  else if !acquireInputFits input inputLength then refuse extension .InvalidParameter
  else
    match findSession extension input.request.session ownerFile with
    | none => refuse extension .InvalidHandle
    | some index =>
      let session := extension.sessions index
      if session.leaseActive then
        ⟨.Success, some (acquireReply { blankResponse input.request.requestId with
          status := .Busy }), extension⟩
      else
        let response := acquireResponse extension session input.request
        ⟨.Success, some (acquireReply response),
          if response.status == .Success then
            extension.setSession index { session with
              lease := response.lease
              leaseActive := true }
          else extension⟩

def handleReleaseLeaseV2 (extension : KnHvDeviceExtension F) (ownerFile : F)
    (request : HvReleaseLeaseV2In) (inputLength outputLength : U32) : IrpResult F :=
  if inputLength < sizeofHvReleaseLeaseV2In || outputLength < sizeofHvReleaseLeaseV2Out then
    refuse extension .BufferTooSmall
  else if !versionedV2InputFits request.version request.size sizeofHvReleaseLeaseV2In inputLength ||
      !isOwnerLeaseV2Valid request.lease ||
      request.lease.mode == HvLeaseModeV2.None.word || request.session.reserved != 0 then
    refuse extension .InvalidParameter
  else
    match findSession extension request.session ownerFile with
    | none => refuse extension .InvalidHandle
    | some index =>
      let session := extension.sessions index
      if !holdsLease session request.lease then refuse extension .InvalidHandle
      else
        ⟨.Success, some (.released ⟨sizeofHvReleaseLeaseV2Out, kAbiV2Version, request.requestId,
          .Success, 0⟩),
          extension.setSession index { session with lease := .zero, leaseActive := false }⟩

def handleQuerySession (extension : KnHvDeviceExtension F) (ownerFile : F)
    (input : HvQuerySessionIn) (inputLength outputLength : U32) : IrpResult F :=
  if inputLength < sizeofHvQuerySessionIn || outputLength < sizeofHvSessionStatusOut then
    refuse extension .BufferTooSmall
  else if !versionedInputFits input.version input.size sizeofHvQuerySessionIn inputLength ||
      input.session.reserved != 0 then
    refuse extension .InvalidParameter
  else
    match findSession extension input.session ownerFile with
    | none => refuse extension .InvalidHandle
    | some index => ⟨.Success, some (.session (extension.sessions index).status), extension⟩

def handleReleaseSession (extension : KnHvDeviceExtension F) (ownerFile : F)
    (input : HvQuerySessionIn) (inputLength : U32) : IrpResult F :=
  if inputLength < sizeofHvQuerySessionIn then refuse extension .BufferTooSmall
  else if !versionedInputFits input.version input.size sizeofHvQuerySessionIn inputLength ||
      input.session.reserved != 0 then
    refuse extension .InvalidParameter
  else
    match findSession extension input.session ownerFile with
    | none => refuse extension .InvalidHandle
    | some index => ⟨.Success, none, clearSession extension index⟩

/-- The two calls that hand something to the synthetic processor of a session:
`required` and `produced` are the sizes of their structures. -/
def handleNested (extension : KnHvDeviceExtension F) (ownerFile : F)
    (required produced version size : U32) (requestId : U64) (key : HvSessionKey)
    (run : NestedVcpu GuestMemory → NestedResult × NestedVcpu GuestMemory)
    (inputLength outputLength : U32) : IrpResult F :=
  if !extension.nestedTestDriver || inputLength < required || outputLength < produced then
    refuse extension .NotSupported
  else if !versionedInputFits version size required inputLength || key.reserved != 0 then
    refuse extension .InvalidParameter
  else
    match findSession extension key ownerFile with
    | none => refuse extension .InvalidHandle
    | some index =>
      match (extension.sessions index).nested with
      | none => refuse extension .InvalidHandle
      | some vcpu =>
        let outcome := run vcpu
        ⟨.Success, some (.nested ⟨kAbiVersion, produced, requestId, key, outcome.1⟩),
          extension.setSession index { extension.sessions index with nested := some outcome.2 }⟩

def handleNestedInstruction (extension : KnHvDeviceExtension F) (ownerFile : F)
    (input : HvNestedInstructionIn) : U32 → U32 → IrpResult F :=
  handleNested extension ownerFile sizeofHvNestedInstructionIn sizeofHvNestedInstructionOut
    input.version input.size input.requestId input.session fun vcpu =>
      dispatchNestedInstruction vcpu (some input.instruction)

def handleReflectExit (extension : KnHvDeviceExtension F) (ownerFile : F)
    (input : HvNestedExitIn) : U32 → U32 → IrpResult F :=
  handleNested extension ownerFile sizeofHvNestedExitIn sizeofHvNestedExitOut
    input.version input.size input.requestId input.session fun vcpu =>
      reflectNestedExit vcpu (some input.exitRecord)

end Handlers

/-- The control codes, with the structure at the front of the system buffer. -/
inductive Ioctl
  | queryCaps (input : HvQueryCapsIn)
  | queryCapsV2 (input : HvQueryCapsV2In)
  | registerClient (input : HvRegisterClientIn)
  | querySession (input : HvQuerySessionIn)
  | releaseSession (input : HvQuerySessionIn)
  | acquireLease (input : HvAcquireLeaseV2In)
  | releaseLease (input : HvReleaseLeaseV2In)
  | nestedInstruction (input : HvNestedInstructionIn)
  | reflectExit (input : HvNestedExitIn)
  | unknown (code : U32)

structure Irp where
  ioctl : Ioctl
  inputLength : U32
  outputLength : U32

/-- The device: its extension, and the files whose context is still set. -/
structure KnHvDevice (F : Type) where
  extension : KnHvDeviceExtension F
  opened : F → Bool

/-- The device after the driver has been loaded: no session, no open file. -/
def initialDevice (nestedTestDriver : Bool) (capabilities : HvCapabilitySnapshot) :
    KnHvDevice F where
  extension :=
    { nestedTestDriver := nestedTestDriver
      nextClient := 0
      activeSessions := 0
      capabilities := capabilities
      sessions := fun _ => .zero }
  opened := fun _ => false

/-- The requests that the device gets, each of which runs under the state
lock. -/
inductive DeviceCall (F : Type)
  | create (file : F)
  | close (file : F)
  | control (file : F) (irp : Irp)

section Dispatch

variable [DecidableEq F]

def dispatchIoctl (extension : KnHvDeviceExtension F) (ownerFile : F) (irp : Irp) : IrpResult F :=
  if kMaxIoctlBytes < irp.inputLength || kMaxIoctlBytes < irp.outputLength then
    refuse extension .InvalidBufferSize
  else
    match irp.ioctl with
    | .queryCaps input => handleQueryCaps extension input irp.inputLength irp.outputLength
    | .queryCapsV2 input => handleQueryCapsV2 extension input irp.inputLength irp.outputLength
    | .registerClient input =>
      handleRegisterClient extension ownerFile input irp.inputLength irp.outputLength
    | .querySession input =>
      handleQuerySession extension ownerFile input irp.inputLength irp.outputLength
    | .releaseSession input => handleReleaseSession extension ownerFile input irp.inputLength
    | .acquireLease input =>
      handleAcquireLeaseV2 extension ownerFile input irp.inputLength irp.outputLength
    | .releaseLease input =>
      handleReleaseLeaseV2 extension ownerFile input irp.inputLength irp.outputLength
    | .nestedInstruction input =>
      handleNestedInstruction extension ownerFile input irp.inputLength irp.outputLength
    | .reflectExit input =>
      handleReflectExit extension ownerFile input irp.inputLength irp.outputLength
    | .unknown _ => refuse extension .InvalidDeviceRequest

/-- `KnHvDispatchDeviceControl`: only through a file that has been opened. -/
def dispatchDeviceControl (device : KnHvDevice F) (file : F) (irp : Irp) : IrpResult F :=
  if !device.opened file then refuse device.extension .InvalidHandle
  else dispatchIoctl device.extension file irp

/-- `KnHvDispatchCreate`. -/
def dispatchCreate (device : KnHvDevice F) (file : F) : KnHvDevice F :=
  { device with opened := Function.update device.opened file true }

/-- `KnHvDispatchClose`. -/
def dispatchClose (device : KnHvDevice F) (file : F) : KnHvDevice F where
  extension := releaseSessionsForFile device.extension file
  opened := Function.update device.opened file false

def deviceStep (device : KnHvDevice F) : DeviceCall F → KnHvDevice F
  | .create file => dispatchCreate device file
  | .close file => dispatchClose device file
  | .control file irp =>
    { device with extension := (dispatchDeviceControl device file irp).extension }

end Dispatch

end Knhv.Control
