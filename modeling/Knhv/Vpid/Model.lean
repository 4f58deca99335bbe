import Knhv.Abi
import Mathlib.Data.List.FinRange

namespace Knhv.Vpid

def kVpidContractVersion : U32 := 1
def kVpidMaxStructSize : U32 := 4096
def kVpidMinimum : U32 := 1
def kVpidMaximum : U32 := 0xFFFF
def kVpidMaxLeases : Nat := 128
def kVpidMaxCpus : U32 := 64

def kVpidKnownLeaseFlagMask : U32 := 0

def kShootdownAllowAllContext : U32 := 1 <<< 0
def kShootdownRetainGlobals : U32 := 1 <<< 1
def kShootdownKnownFlagMask : U32 := kShootdownAllowAllContext ||| kShootdownRetainGlobals

/-! The kinds, the states and the types are `u32` words in the structures, and
any word can stand there. -/

def kKindRoot : U32 := 1
def kKindL1 : U32 := 2
def kKindL2 : U32 := 3

def kLeaseFree : U32 := 0
def kLeaseActive : U32 := 1
def kLeaseRetiring : U32 := 2
def kLeaseQuarantined : U32 := 3

def kTypeSingleAddress : U32 := 0
def kTypeSingleContext : U32 := 1
def kTypeAllContext : U32 := 2
def kTypeSingleContextRetainGlobals : U32 := 3

def kShootdownIdle : U32 := 0
def kShootdownPending : U32 := 1
def kShootdownCompleted : U32 := 2
def kShootdownTimedOut : U32 := 3
def kShootdownQuarantined : U32 := 4

inductive VpidStatus
  | Success | InvalidParameter | Exhausted | GenerationMismatch | Conflict | StateConflict
  | ShootdownIncomplete | Timeout | Quarantined
  deriving DecidableEq, Repr

def sizeofVpidRequest : U32 := 40
def sizeofVpidLease : U32 := 48
def sizeofShootdownRequest : U32 := 64
def sizeofShootdownState : U32 := 64

structure VpidRequest where
  size : U32
  version : U32
  ownerId : U64
  generation : U64
  kind : U32
  maxVpid : U32
  reserved : U32
  reserved2 : U32
  deriving DecidableEq

structure VpidLease where
  size : U32
  version : U32
  vpid : U32
  kind : U32
  state : U32
  flags : U32
  ownerId : U64
  generation : U64
  allocationSequence : U64
  deriving DecidableEq

structure ShootdownRequest where
  size : U32
  version : U32
  type : U32
  flags : U32
  requestId : U64
  generation : U64
  sourceCpu : U32
  vpid : U32
  targetCpuMask : U64
  address : U64
  deadlineTsc : U64
  deriving DecidableEq

structure ShootdownState where
  size : U32
  version : U32
  type : U32
  state : U32
  requestId : U64
  generation : U64
  targetCpuMask : U64
  acknowledgedCpuMask : U64
  deadlineTsc : U64
  vpid : U32
  reserved : U32
  deriving DecidableEq

def isVersionedSizeValid (version size required : U32) : Bool :=
  version == kVpidContractVersion && required ≤ size && size ≤ kVpidMaxStructSize

def isVpidValueValid (value : U32) : Bool := kVpidMinimum ≤ value && value ≤ kVpidMaximum

def isKindValid (value : U32) : Bool := kKindRoot ≤ value && value ≤ kKindL2

def isLeaseStateValid (value : U32) : Bool := value ≤ kLeaseQuarantined

def isShootdownTypeValid (value : U32) : Bool := value ≤ kTypeSingleContextRetainGlobals

def isShootdownStateValidValue (value : U32) : Bool := value ≤ kShootdownQuarantined

def isContextShootdown (type : U32) : Bool :=
  type == kTypeSingleContext || type == kTypeSingleContextRetainGlobals

def initializeFreeLease : VpidLease where
  size := sizeofVpidLease
  version := kVpidContractVersion
  vpid := 0
  kind := 0
  state := kLeaseFree
  flags := 0
  ownerId := 0
  generation := 0
  allocationSequence := 0

def initializeShootdownState : ShootdownState where
  size := sizeofShootdownState
  version := kVpidContractVersion
  type := 0
  state := kShootdownIdle
  requestId := 0
  generation := 0
  targetCpuMask := 0
  acknowledgedCpuMask := 0
  deadlineTsc := 0
  vpid := 0
  reserved := 0

def isShootdownPayloadValid (type vpid : U32) : Bool :=
  if !isShootdownTypeValid type then false
  else if type == kTypeSingleAddress || type == kTypeSingleContext ||
      type == kTypeSingleContextRetainGlobals then
    isVpidValueValid vpid
  else if type == kTypeAllContext then vpid == 0
  else false

def shootdownCoversVpid (state : ShootdownState) (vpid : U32) : Bool :=
  if state.state != kShootdownCompleted then false
  else if state.type == kTypeAllContext then true
  else isContextShootdown state.type && state.vpid == vpid

/-- The leases a caller passes, `existing` and `existing_count` in one. -/
abbrev LeaseTable (n : Nat) := Fin n → VpidLease

def isVpidUsed {n : Nat} (existing : LeaseTable n) (vpid : U32) : Bool :=
  (List.finRange n).any fun index =>
    (existing index).state != kLeaseFree && (existing index).vpid == vpid

def isVpidRequestValid : Option VpidRequest → Bool
  | none => false
  | some request =>
    isVersionedSizeValid request.version request.size sizeofVpidRequest &&
    request.ownerId != 0 && request.generation != 0 && isKindValid request.kind &&
    kVpidMinimum ≤ request.maxVpid && request.maxVpid ≤ kVpidMaximum && request.reserved == 0 &&
    request.reserved2 == 0

def isVpidLeaseValid (lease : VpidLease) : Bool :=
  if !isVersionedSizeValid lease.version lease.size sizeofVpidLease ||
      lease.flags &&& ~~~kVpidKnownLeaseFlagMask != 0 || !isLeaseStateValid lease.state then false
  else if lease.state == kLeaseFree then
    lease.vpid == 0 && lease.kind == 0 && lease.ownerId == 0 && lease.generation == 0 &&
    lease.allocationSequence == 0
  else
    isVpidValueValid lease.vpid && isKindValid lease.kind && lease.ownerId != 0 &&
    lease.generation != 0 && lease.allocationSequence != 0

/-- The loop over the existing leases: the status it returns at the first lease
that is invalid or repeats a VPID, or nothing. -/
def checkLeases {n : Nat} (existing : LeaseTable n) : Option VpidStatus :=
  (List.finRange n).findSome? fun index =>
    if !isVpidLeaseValid (existing index) then some .InvalidParameter
    else if (existing index).state == kLeaseFree then none
    else if (List.finRange n).any fun prior =>
        prior < index && (existing prior).state != kLeaseFree &&
          (existing prior).vpid == (existing index).vpid then
      some .Conflict
    else none

/-- The lease that is granted for a candidate. -/
def grantedLease (request : VpidRequest) (candidate : U32) : VpidLease :=
  { initializeFreeLease with
    vpid := candidate
    kind := request.kind
    state := kLeaseActive
    ownerId := request.ownerId
    generation := request.generation
    allocationSequence := candidate.setWidth 64 }

/-- The loop over the candidates, from the minimum to the bound of the request. -/
def firstUnused {n : Nat} (existing : LeaseTable n) (maxVpid : U32) : Option Nat :=
  (List.range' kVpidMinimum.toNat (maxVpid.toNat + 1 - kVpidMinimum.toNat)).find? fun candidate =>
    !isVpidUsed existing (BitVec.ofNat 32 candidate)

def allocateVpid {n : Nat} (request : Option VpidRequest) (existing : LeaseTable n) :
    VpidStatus × VpidLease :=
  match request with
  | none => (.InvalidParameter, initializeFreeLease)
  | some request =>
    if !isVpidRequestValid (some request) || kVpidMaxLeases < n then
      (.InvalidParameter, initializeFreeLease)
    else
      match checkLeases existing with
      | some status => (status, initializeFreeLease)
      | none =>
        match firstUnused existing request.maxVpid with
        | none => (.Exhausted, initializeFreeLease)
        | some candidate => (.Success, grantedLease request (BitVec.ofNat 32 candidate))

def beginVpidRetire (lease : VpidLease) (generation : U64) : Bool × VpidLease :=
  if !isVpidLeaseValid lease || generation == 0 || lease.generation != generation ||
      lease.state != kLeaseActive then
    (false, lease)
  else (true, { lease with state := kLeaseRetiring })

def quarantineVpid (lease : VpidLease) (generation : U64) : Bool × VpidLease :=
  if !isVpidLeaseValid lease || generation == 0 || lease.generation != generation ||
      (lease.state != kLeaseActive && lease.state != kLeaseRetiring) then
    (false, lease)
  else (true, { lease with state := kLeaseQuarantined })

def isShootdownRequestValid : Option ShootdownRequest → Bool
  | none => false
  | some request =>
    if !isVersionedSizeValid request.version request.size sizeofShootdownRequest ||
        request.flags &&& ~~~kShootdownKnownFlagMask != 0 || request.requestId == 0 ||
        request.generation == 0 || kVpidMaxCpus ≤ request.sourceCpu ||
        request.targetCpuMask == 0 || request.deadlineTsc == 0 ||
        !isShootdownPayloadValid request.type request.vpid then
      false
    else if request.type == kTypeSingleAddress then request.flags == 0
    else if request.type == kTypeSingleContext then request.flags == 0 && request.address == 0
    else if request.type == kTypeAllContext then
      request.flags &&& kShootdownAllowAllContext != 0 &&
      request.flags &&& kShootdownRetainGlobals == 0 && request.address == 0
    else
      request.flags &&& kShootdownRetainGlobals != 0 &&
      request.flags &&& kShootdownAllowAllContext == 0 && request.address == 0

def isShootdownStateValid (state : ShootdownState) : Bool :=
  if !isVersionedSizeValid state.version state.size sizeofShootdownState ||
      state.reserved != 0 || !isShootdownStateValidValue state.state then
    false
  else if state.state == kShootdownIdle then
    state.type == 0 && state.requestId == 0 && state.generation == 0 &&
    state.targetCpuMask == 0 && state.acknowledgedCpuMask == 0 && state.deadlineTsc == 0 &&
    state.vpid == 0
  else if state.requestId == 0 || state.generation == 0 || state.targetCpuMask == 0 ||
      state.deadlineTsc == 0 || !isShootdownPayloadValid state.type state.vpid ||
      state.acknowledgedCpuMask &&& ~~~state.targetCpuMask != 0 then
    false
  else if state.state == kShootdownCompleted then
    state.acknowledgedCpuMask == state.targetCpuMask
  else if state.state == kShootdownTimedOut then
    state.acknowledgedCpuMask != state.targetCpuMask
  else true

/-- The state a valid request leaves. -/
def pendingShootdown (request : ShootdownRequest) : ShootdownState :=
  { initializeShootdownState with
    type := request.type
    requestId := request.requestId
    generation := request.generation
    targetCpuMask := request.targetCpuMask
    deadlineTsc := request.deadlineTsc
    vpid := request.vpid
    state := kShootdownPending }

def beginShootdown (request : Option ShootdownRequest) : Bool × ShootdownState :=
  match request with
  | none => (false, initializeShootdownState)
  | some request =>
    if !isShootdownRequestValid (some request) then (false, initializeShootdownState)
    else (true, pendingShootdown request)

def acknowledgeShootdown (state : ShootdownState) (cpuIndex : U32) : Bool × ShootdownState :=
  if !isShootdownStateValid state || state.state != kShootdownPending ||
      kVpidMaxCpus ≤ cpuIndex then
    (false, state)
  else
    let bit := 1#64 <<< cpuIndex.toNat
    if state.targetCpuMask &&& bit == 0 then (false, state)
    else (true, { state with acknowledgedCpuMask := state.acknowledgedCpuMask ||| bit })

def completeShootdown (state : ShootdownState) (nowTsc : U64) : Bool × ShootdownState :=
  if !isShootdownStateValid state || state.state != kShootdownPending then (false, state)
  else if state.deadlineTsc < nowTsc then (false, { state with state := kShootdownTimedOut })
  else if state.acknowledgedCpuMask != state.targetCpuMask then (false, state)
  else (true, { state with state := kShootdownCompleted })

def quarantineShootdown (state : ShootdownState) : Bool × ShootdownState :=
  if !isShootdownStateValid state ||
      (state.state != kShootdownPending && state.state != kShootdownTimedOut) then
    (false, state)
  else (true, { state with state := kShootdownQuarantined })

def reclaimVpid (lease : VpidLease) (generation : U64) (shootdown : Option ShootdownState) :
    Bool × VpidLease :=
  match shootdown with
  | none => (false, lease)
  | some shootdown =>
    if !isVpidLeaseValid lease || generation == 0 || lease.state != kLeaseRetiring ||
        lease.generation != generation || !isShootdownStateValid shootdown ||
        shootdown.generation != generation ||
        shootdown.acknowledgedCpuMask != shootdown.targetCpuMask ||
        !shootdownCoversVpid shootdown lease.vpid then
      (false, lease)
    else (true, initializeFreeLease)

end Knhv.Vpid
