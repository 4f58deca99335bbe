import Knhv.Ept.Mapping

namespace Knhv.Ept

def kEptHookMaxCpuAcks : U32 := 4096

inductive EptViewKind
  | RootNative | GuestRuntime | GuestDebug
  deriving DecidableEq, Repr

def EptViewKind.value : EptViewKind → U32
  | .RootNative => 1
  | .GuestRuntime => 2
  | .GuestDebug => 3

inductive EptHookKind
  | Execute | Read | Write | Access | Monitor
  deriving DecidableEq, Repr

def EptHookKind.value : EptHookKind → U32
  | .Execute => 1
  | .Read => 2
  | .Write => 3
  | .Access => 4
  | .Monitor => 5

inductive EptHookState
  | Active | Expired | Revoked | Quarantined
  deriving DecidableEq, Repr

def EptHookState.value : EptHookState → U32
  | .Active => 1
  | .Expired => 2
  | .Revoked => 3
  | .Quarantined => 4

inductive EptHookTransactionState
  | Prepared | Published | Retired | RolledBack | Quarantined
  deriving DecidableEq, Repr

def EptHookTransactionState.value : EptHookTransactionState → U32
  | .Prepared => 1
  | .Published => 2
  | .Retired => 3
  | .RolledBack => 4
  | .Quarantined => 5

def sizeofEptHookLease : U32 := 56
def sizeofEptHookRequest : U32 := 72
def sizeofEptHookTransaction : U32 := 104

structure EptHookLease where
  size : U32
  version : U32
  ownerId : U64
  generation : U64
  expiresTsc : U64
  view : U32
  hookKind : U32
  state : U32
  maxPages : U32
  maxExitsPerSecond : U32
  reserved : U32
  deriving DecidableEq

structure EptHookRequest where
  size : U32
  version : U32
  ownerId : U64
  expectedGeneration : U64
  guestPhysical : U64
  pageCount : U64
  view : U32
  hookKind : U32
  permissions : U32
  reserved : U32
  moduleHash : U64 × U64
  deriving DecidableEq

structure EptHookTransaction where
  size : U32
  version : U32
  transactionId : U64
  ownerId : U64
  parentGeneration : U64
  pendingGeneration : U64
  guestPhysical : U64
  pageCount : U64
  deadlineTsc : U64
  rollbackGeneration : U64
  view : U32
  hookKind : U32
  state : U32
  requiredCpuAcks : U32
  observedCpuAcks : U32
  maxExitsPerSecond : U32
  reserved : U32
  deriving DecidableEq

/-- The transaction that is all zero. -/
def EptHookTransaction.zero : EptHookTransaction where
  size := 0
  version := 0
  transactionId := 0
  ownerId := 0
  parentGeneration := 0
  pendingGeneration := 0
  guestPhysical := 0
  pageCount := 0
  deadlineTsc := 0
  rollbackGeneration := 0
  view := 0
  hookKind := 0
  state := 0
  requiredCpuAcks := 0
  observedCpuAcks := 0
  maxExitsPerSecond := 0
  reserved := 0

def isHookKindValid (value : U32) : Bool :=
  EptHookKind.Execute.value ≤ value && value ≤ EptHookKind.Monitor.value

def isHookTransactionStateValid (value : U32) : Bool :=
  EptHookTransactionState.Prepared.value ≤ value &&
    value ≤ EptHookTransactionState.Quarantined.value

def isHookRangeValid (guestPhysical pageCount : U64) : Bool :=
  if pageCount == 0 || kEptMaxMappingPages < pageCount ||
      guestPhysical &&& (kEptPageSize.setWidth 64 - 1) != 0 ||
      ~~~0 / kEptPageSize.setWidth 64 < pageCount then
    false
  else
    let span := pageCount * kEptPageSize.setWidth 64
    match addOverflow guestPhysical (span - 1) with
    | none => false
    | some last =>
      isPhysicalAddress guestPhysical kEptMaxPhysicalAddressBits &&
      isPhysicalAddress last kEptMaxPhysicalAddressBits

def addMulOverflow (left right : U64) : Option U64 := Checked.mul left right

def isEptHookLeaseValid (lease : EptHookLease) : Bool :=
  isVersionedSizeValid lease.version lease.size sizeofEptHookLease && lease.ownerId != 0 &&
  lease.generation != 0 && lease.expiresTsc != 0 && lease.view == EptViewKind.GuestDebug.value &&
  isHookKindValid lease.hookKind && lease.state == EptHookState.Active.value &&
  lease.maxPages != 0 && lease.maxPages ≤ kEptMaxMappingPages.setWidth 32 &&
  lease.maxExitsPerSecond != 0 && lease.reserved == 0

/-- A lease of generation 7, of a hundred exits a second, that ends at time
stamp 1000. -/
def debugLease : EptHookLease where
  size := sizeofEptHookLease
  version := kEptContractVersion
  ownerId := 3
  generation := 7
  expiresTsc := 1000
  view := EptViewKind.GuestDebug.value
  hookKind := EptHookKind.Execute.value
  state := EptHookState.Active.value
  maxPages := 1
  maxExitsPerSecond := 100
  reserved := 0

def isEptHookRequestValid (request : EptHookRequest) : Bool :=
  isVersionedSizeValid request.version request.size sizeofEptHookRequest &&
  request.ownerId != 0 && request.expectedGeneration != 0 &&
  isHookRangeValid request.guestPhysical request.pageCount &&
  request.view == EptViewKind.GuestDebug.value && isHookKindValid request.hookKind &&
  request.permissions &&& ~~~kEptPermissionKnownMask == 0 && request.permissions != 0 &&
  request.reserved == 0 && !(request.moduleHash.1 == 0 && request.moduleHash.2 == 0)

def canPublishEptHook (lease : EptHookLease) (request : EptHookRequest)
    (currentGeneration nowTsc : U64) : Bool :=
  isEptHookLeaseValid lease && isEptHookRequestValid request && currentGeneration != 0 &&
  lease.ownerId == request.ownerId && lease.generation == currentGeneration &&
  request.expectedGeneration == currentGeneration && lease.hookKind == request.hookKind &&
  nowTsc < lease.expiresTsc && request.pageCount ≤ lease.maxPages.setWidth 64

def isEptHookTransactionValid (transaction : EptHookTransaction) : Bool :=
  isVersionedSizeValid transaction.version transaction.size sizeofEptHookTransaction &&
  transaction.transactionId != 0 && transaction.ownerId != 0 &&
  transaction.parentGeneration != 0 && transaction.parentGeneration != ~~~0 &&
  transaction.pendingGeneration == transaction.parentGeneration + 1 &&
  transaction.rollbackGeneration == transaction.parentGeneration &&
  transaction.deadlineTsc != 0 &&
  isHookRangeValid transaction.guestPhysical transaction.pageCount &&
  transaction.view == EptViewKind.GuestDebug.value && isHookKindValid transaction.hookKind &&
  isHookTransactionStateValid transaction.state && transaction.requiredCpuAcks != 0 &&
  transaction.requiredCpuAcks ≤ kEptHookMaxCpuAcks &&
  transaction.observedCpuAcks ≤ transaction.requiredCpuAcks &&
  transaction.maxExitsPerSecond != 0 && transaction.reserved == 0

/-- The transaction that a call leaves behind, and what it returns. -/
abbrev HookOutcome := EptHookTransaction × Bool

def beginEptHookUpdate (lease : EptHookLease) (request : EptHookRequest)
    (currentGeneration nowTsc : U64) (requiredCpuAcks : U32) (transactionId : U64) : HookOutcome :=
  if !canPublishEptHook lease request currentGeneration nowTsc || requiredCpuAcks == 0 ||
      kEptHookMaxCpuAcks < requiredCpuAcks || transactionId == 0 || currentGeneration == ~~~0 then
    (.zero, false)
  else
    let transaction : EptHookTransaction :=
      { EptHookTransaction.zero with
        size := sizeofEptHookTransaction
        version := kEptContractVersion
        transactionId
        ownerId := request.ownerId
        parentGeneration := currentGeneration
        pendingGeneration := currentGeneration + 1
        guestPhysical := request.guestPhysical
        pageCount := request.pageCount
        deadlineTsc := lease.expiresTsc
        rollbackGeneration := currentGeneration
        view := request.view
        hookKind := request.hookKind
        state := EptHookTransactionState.Prepared.value
        requiredCpuAcks
        maxExitsPerSecond := lease.maxExitsPerSecond }
    (transaction, isEptHookTransactionValid transaction)

def isEptHookTransactionLive (transaction : EptHookTransaction) (nowTsc : U64) : Bool :=
  isEptHookTransactionValid transaction &&
  (transaction.state == EptHookTransactionState.Prepared.value ||
    transaction.state == EptHookTransactionState.Published.value) &&
  nowTsc < transaction.deadlineTsc

def acknowledgeEptHookCpu (transaction : EptHookTransaction) (generation : U64) (cpuCount : U32)
    (nowTsc : U64) : HookOutcome :=
  if !isEptHookTransactionLive transaction nowTsc ||
      transaction.state != EptHookTransactionState.Prepared.value ||
      generation != transaction.parentGeneration || cpuCount == 0 ||
      transaction.requiredCpuAcks - transaction.observedCpuAcks < cpuCount then
    (transaction, false)
  else ({ transaction with observedCpuAcks := transaction.observedCpuAcks + cpuCount }, true)

def publishEptHookUpdate (transaction : EptHookTransaction) (currentGeneration nowTsc : U64) :
    HookOutcome :=
  if !isEptHookTransactionLive transaction nowTsc ||
      transaction.state != EptHookTransactionState.Prepared.value ||
      currentGeneration != transaction.parentGeneration ||
      transaction.observedCpuAcks != transaction.requiredCpuAcks then
    (transaction, false)
  else ({ transaction with state := EptHookTransactionState.Published.value }, true)

def retireEptHookUpdate (transaction : EptHookTransaction) (currentGeneration : U64) :
    HookOutcome :=
  if !isEptHookTransactionValid transaction ||
      transaction.state != EptHookTransactionState.Published.value ||
      currentGeneration != transaction.pendingGeneration then
    (transaction, false)
  else ({ transaction with state := EptHookTransactionState.Retired.value }, true)

/-- The generation is not the one that the state of the transaction asks for. -/
def isGenerationStale (transaction : EptHookTransaction) (currentGeneration : U64) : Bool :=
  if transaction.state == EptHookTransactionState.Prepared.value then
    currentGeneration != transaction.parentGeneration
  else currentGeneration != transaction.pendingGeneration

def rollbackEptHookUpdate (transaction : EptHookTransaction) (currentGeneration : U64) :
    HookOutcome :=
  if !isEptHookTransactionValid transaction ||
      (transaction.state != EptHookTransactionState.Prepared.value &&
        transaction.state != EptHookTransactionState.Published.value) ||
      isGenerationStale transaction currentGeneration then
    (transaction, false)
  else ({ transaction with state := EptHookTransactionState.RolledBack.value }, true)

def quarantineEptHookUpdate (transaction : EptHookTransaction) (currentGeneration : U64) :
    HookOutcome :=
  if !isEptHookTransactionValid transaction ||
      transaction.state == EptHookTransactionState.Retired.value ||
      transaction.state == EptHookTransactionState.RolledBack.value ||
      transaction.state == EptHookTransactionState.Quarantined.value ||
      isGenerationStale transaction currentGeneration then
    (transaction, false)
  else ({ transaction with state := EptHookTransactionState.Quarantined.value }, true)

def expireEptHookUpdate (transaction : EptHookTransaction) (currentGeneration nowTsc : U64) :
    HookOutcome :=
  if !isEptHookTransactionValid transaction || nowTsc < transaction.deadlineTsc then
    (transaction, false)
  else if transaction.state == EptHookTransactionState.Prepared.value &&
      currentGeneration == transaction.parentGeneration then
    ({ transaction with state := EptHookTransactionState.RolledBack.value }, true)
  else if transaction.state == EptHookTransactionState.Published.value &&
      currentGeneration == transaction.pendingGeneration then
    ({ transaction with state := EptHookTransactionState.Quarantined.value }, true)
  else (transaction, false)

def isEptHookRateWithin (lease : EptHookLease) (exitCount windowTsc tscHz : U64) : Bool :=
  if !isEptHookLeaseValid lease || tscHz == 0 || windowTsc == 0 then false
  else if tscHz ≤ windowTsc then
    let seconds := windowTsc / tscHz
    match addMulOverflow (lease.maxExitsPerSecond.setWidth 64) seconds with
    | none => false
    | some allowed => exitCount ≤ allowed
  else if ~~~0 / tscHz < exitCount ∨ ~~~0 / windowTsc < lease.maxExitsPerSecond.setWidth 64 then
    false
  else exitCount * tscHz ≤ lease.maxExitsPerSecond.setWidth 64 * windowTsc

end Knhv.Ept
