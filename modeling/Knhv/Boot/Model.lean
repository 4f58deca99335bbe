import Mathlib.Data.Nat.Basic
import Knhv.Abi

namespace Knhv.Boot

inductive BootL0State
  | PreL0 | RootActive | WindowsHandoff | Ready | Recovery
  deriving DecidableEq, Repr

def sizeofBootContext : U32 := 32
def sizeofBootEvidence : U32 := 32
def sizeofBootL0Contract : U32 := 72

structure BootContext where
  version : U32
  size : U32
  logicalProcessors : U32
  manifestValid : U32
  physicalVmxReady : U32
  externalOwner : U32
  windowsHandoffReady : U32
  reserved : U32
  deriving DecidableEq

structure BootOwnerToken where
  nonce : U64
  generation : U32
  ownerCount : U32
  activeProcessors : U32
  reserved : U32
  deriving DecidableEq

structure BootEvidence where
  version : U32
  size : U32
  state : BootL0State
  bootGeneration : U32
  ownerGeneration : U32
  ownerCount : U32
  activeProcessors : U32
  lastStatus : HvStatus
  deriving DecidableEq

structure BootL0Contract where
  version : U32
  size : U32
  state : BootL0State
  generation : U32
  owner : BootOwnerToken
  evidence : BootEvidence
  deriving DecidableEq

def validContext (context : BootContext) : Bool :=
  isVersionedBufferValid context.version context.size sizeofBootContext &&
    context.reserved == 0 && context.logicalProcessors != 0 && context.logicalProcessors ≤ 4096

def validContract (contract : BootL0Contract) : Bool :=
  isVersionedBufferValid contract.version contract.size sizeofBootL0Contract

def publishEvidence (contract : BootL0Contract) (status : HvStatus) : BootL0Contract :=
  { contract with
    evidence :=
      { version := kAbiVersion
        size := sizeofBootEvidence
        state := contract.state
        bootGeneration := contract.generation
        ownerGeneration := contract.owner.generation
        ownerCount := contract.owner.ownerCount
        activeProcessors := contract.owner.activeProcessors
        lastStatus := status } }

/-- The token of no owner. -/
def noOwner : BootOwnerToken := ⟨0, 0, 0, 0, 0⟩

def invalidateOwner (contract : BootL0Contract) : BootL0Contract :=
  { contract with owner := noOwner }

def initializeBootL0Contract : BootL0Contract :=
  publishEvidence
    (invalidateOwner
      { version := kAbiVersion
        size := sizeofBootL0Contract
        state := .PreL0
        generation := 1
        owner := noOwner
        evidence := ⟨0, 0, .PreL0, 0, 0, 0, 0, .Success⟩ })
    .Success

/-- The generation after this one: zero is left out. -/
def nextGeneration (generation : U32) : U32 :=
  if generation + 1 == 0 then 1 else generation + 1

def ownerNonce (generation logicalProcessors : U32) : U64 :=
  (generation.setWidth 64 <<< 32) ||| logicalProcessors.setWidth 64

/-- The contract of a root that has just become active. -/
def activateRoot (contract : BootL0Contract) (context : BootContext) : BootL0Contract :=
  { contract with
    generation := nextGeneration contract.generation
    state := .RootActive
    owner :=
      { nonce := ownerNonce (nextGeneration contract.generation) context.logicalProcessors
        generation := nextGeneration contract.generation
        ownerCount := 1
        activeProcessors := context.logicalProcessors
        reserved := 0 } }

/-- Fall back to recovery, without an owner. -/
def enterRecovery (contract : BootL0Contract) (status : HvStatus) : BootL0Contract :=
  publishEvidence (invalidateOwner { contract with state := .Recovery }) status

def startBootL0 (contract : BootL0Contract) (context : Option BootContext) :
    HvStatus × BootL0Contract :=
  match context with
  | none => (.InvalidParameter, contract)
  | some context =>
    if !validContract contract || !validContext context then (.InvalidParameter, contract)
    else if contract.state == .RootActive || contract.state == .WindowsHandoff ||
        contract.state == .Ready then
      (.Busy, publishEvidence contract .Busy)
    else if context.externalOwner != 0 then
      (.HardwareOwnerConflict, enterRecovery contract .HardwareOwnerConflict)
    else if context.manifestValid == 0 then
      (.BootHandoffFailed, enterRecovery contract .BootHandoffFailed)
    else if context.physicalVmxReady == 0 then
      (.HardwareUnsupported, enterRecovery contract .HardwareUnsupported)
    else (.Success, publishEvidence (activateRoot contract context) .Success)

def handoffWindows (contract : BootL0Contract) (context : Option BootContext) :
    HvStatus × BootL0Contract :=
  match context with
  | none => (.InvalidParameter, contract)
  | some context =>
    if !validContract contract || !validContext context then (.InvalidParameter, contract)
    else if contract.state != .RootActive || contract.owner.ownerCount != 1 ||
        contract.owner.activeProcessors != context.logicalProcessors then
      (.RecoveryRequired, publishEvidence contract .RecoveryRequired)
    else if context.windowsHandoffReady == 0 then
      (.BootHandoffFailed, enterRecovery contract .BootHandoffFailed)
    else
      let handed := publishEvidence { contract with state := .WindowsHandoff } .Success
      (.Success, publishEvidence { handed with state := .Ready } .Success)

def recoverBootL0 (contract : BootL0Contract) (reason : HvStatus) : HvStatus × BootL0Contract :=
  if !validContract contract then (.InvalidParameter, contract)
  else
    let recovered :=
      enterRecovery contract (if reason == .Success then .RecoveryRequired else reason)
    (recovered.evidence.lastStatus, recovered)

def stopBootL0 (contract : BootL0Contract) : HvStatus × BootL0Contract :=
  if !validContract contract then (.InvalidParameter, contract)
  else if contract.state != .Ready && contract.state != .RootActive &&
      contract.state != .WindowsHandoff then
    (if contract.state == .PreL0 then .Success else .RecoveryRequired, contract)
  else (.Success, publishEvidence { invalidateOwner contract with state := .PreL0 } .Success)

end Knhv.Boot
