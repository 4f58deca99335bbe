import Mathlib.Data.Fintype.Basic
import Knhv.Abi
import Knhv.Lib.ArrayQueue

namespace Knhv.Interrupt

def kInterruptContractVersion : U32 := 1
def kInterruptMaxStructSize : U32 := 4096
def kInterruptQueueDepth : Nat := 32
def kInterruptVectorCount : U32 := 256
def kInterruptVectorFirstExternal : U32 := 32

def kInterruptBlockBySti : U32 := 1 <<< 0
def kInterruptBlockByMovSs : U32 := 1 <<< 1
def kInterruptBlockNmi : U32 := 1 <<< 2
def kInterruptKnownBlockMask : U32 :=
  kInterruptBlockBySti ||| kInterruptBlockByMovSs ||| kInterruptBlockNmi

def kInterruptEventDeliverError : U32 := 1 <<< 0
def kInterruptEventPosted : U32 := 1 <<< 1
def kInterruptEventFromDevice : U32 := 1 <<< 2
def kInterruptKnownEventMask : U32 :=
  kInterruptEventDeliverError ||| kInterruptEventPosted ||| kInterruptEventFromDevice

/-! The kinds, and the status and the action of a decision, are `u32` words in
the structures, and any word can stand there. -/

def kKindHardwareException : U32 := 0
def kKindExternal : U32 := 1
def kKindNmi : U32 := 2
def kKindVirtual : U32 := 3
def kKindInit : U32 := 4
def kKindSipi : U32 := 5
def kKindSmi : U32 := 6

inductive InterruptStatus
  | Ready | NoPending | Blocked | Invalid | GenerationMismatch | QueueFull | Conflict
  deriving DecidableEq, Repr

inductive InterruptAction
  | Inject | WaitWindow | Quarantine
  deriving DecidableEq, Repr

def InterruptStatus.word : InterruptStatus → U32
  | .Ready => 0
  | .NoPending => 1
  | .Blocked => 2
  | .Invalid => 3
  | .GenerationMismatch => 4
  | .QueueFull => 5
  | .Conflict => 6

def InterruptAction.word : InterruptAction → U32
  | .Inject => 0
  | .WaitWindow => 1
  | .Quarantine => 2

def sizeofInterruptEvent : U32 := 56
def sizeofInterruptState : U32 := 1832
def sizeofInterruptDecision : U32 := 56
def sizeofPostedInterruptDescriptor : U32 := 64

structure InterruptEvent where
  size : U32
  version : U32
  kind : U32
  vector : U32
  errorCode : U32
  flags : U32
  reserved : U32
  reserved2 : U32
  sourceId : U64
  generation : U64
  sequence : U64
  deriving DecidableEq

structure InterruptState where
  size : U32
  version : U32
  generation : U64
  nextSequence : U64
  pendingCount : U32
  interruptibility : U32
  virtualApicTpr : U32
  reserved : U32
  pending : Fin kInterruptQueueDepth → InterruptEvent
  deriving DecidableEq

structure InterruptDecision where
  size : U32
  version : U32
  status : U32
  action : U32
  kind : U32
  vector : U32
  errorCode : U32
  flags : U32
  reserved : U32
  reserved2 : U32
  sequence : U64
  generation : U64
  deriving DecidableEq

structure PostedInterruptDescriptor where
  size : U32
  version : U32
  notificationVector : U32
  suppressNotification : U32
  reserved : U32
  reserved2 : U32
  pir : Fin 8 → U32
  generation : U64
  deriving DecidableEq

/-- The value `{}`: what an unused place of the queue holds. -/
def InterruptEvent.zero : InterruptEvent := ⟨0, 0, 0, 0, 0, 0, 0, 0, 0, 0, 0⟩

def isVersionedSizeValid (version size required : U32) : Bool :=
  version == kInterruptContractVersion && required ≤ size && size ≤ kInterruptMaxStructSize

def isKindValid (kind : U32) : Bool := kind ≤ kKindSmi

def isVectorValid (kind vector : U32) : Bool :=
  if kind == kKindHardwareException then vector < kInterruptVectorFirstExternal
  else if kind == kKindExternal || kind == kKindVirtual then
    kInterruptVectorFirstExternal ≤ vector && vector < kInterruptVectorCount
  else if kind == kKindNmi then vector == 2
  else if kind == kKindInit || kind == kKindSmi then vector == 0
  else if kind == kKindSipi then vector < kInterruptVectorCount
  else false

def priority (event : InterruptEvent) : U32 :=
  if event.kind == kKindNmi then 4
  else if event.kind == kKindHardwareException then 3
  else if event.kind == kKindInit || event.kind == kKindSipi || event.kind == kKindSmi then 2
  else if event.kind == kKindExternal || event.kind == kKindVirtual then 1
  else 0

def isBlocked (state : InterruptState) (event : InterruptEvent) : Bool :=
  if event.kind == kKindNmi then state.interruptibility &&& kInterruptBlockNmi != 0
  else if event.kind == kKindExternal || event.kind == kKindVirtual then
    if state.interruptibility &&& (kInterruptBlockBySti ||| kInterruptBlockByMovSs) != 0 then true
    else event.vector >>> 4 ≤ state.virtualApicTpr >>> 4
  else false

def isSameEvent (left : InterruptEvent) (right : InterruptDecision) : Bool :=
  left.kind == right.kind && left.vector == right.vector && left.errorCode == right.errorCode &&
  left.flags == right.flags && left.sequence == right.sequence &&
  left.generation == right.generation

def initializeDecision (generation : U64) : InterruptDecision where
  size := sizeofInterruptDecision
  version := kInterruptContractVersion
  status := 0
  action := 0
  kind := 0
  vector := 0
  errorCode := 0
  flags := 0
  reserved := 0
  reserved2 := 0
  sequence := 0
  generation := generation

def isInterruptEventValid : Option InterruptEvent → Bool
  | none => false
  | some event =>
    if !isVersionedSizeValid event.version event.size sizeofInterruptEvent ||
        !isKindValid event.kind || !isVectorValid event.kind event.vector ||
        event.flags &&& ~~~kInterruptKnownEventMask != 0 || event.reserved != 0 ||
        event.reserved2 != 0 || event.generation == 0 || event.sequence == 0 then
      false
    else if event.flags &&& kInterruptEventDeliverError != 0 &&
        event.kind != kKindHardwareException then
      false
    else if event.flags &&& kInterruptEventDeliverError == 0 && event.errorCode != 0 then false
    else true

/-- The part of the state check that does not look at the queue. -/
def isStateHeaderValid (state : InterruptState) : Bool :=
  isVersionedSizeValid state.version state.size sizeofInterruptState &&
  state.generation != 0 && state.nextSequence != 0 &&
  state.pendingCount.toNat ≤ kInterruptQueueDepth &&
  state.interruptibility &&& ~~~kInterruptKnownBlockMask == 0 &&
  state.virtualApicTpr ≤ 0xFF && state.reserved == 0

/-- The body of the loop over the pending entries. -/
def isPendingEntryValid (state : InterruptState) (index : Fin kInterruptQueueDepth) : Bool :=
  isInterruptEventValid (some (state.pending index)) &&
  (state.pending index).generation == state.generation &&
  (List.finRange kInterruptQueueDepth).all fun prior =>
    !(prior < index && (state.pending prior).sequence == (state.pending index).sequence)

-- The source compares the fields of an unused entry with zero one by one.
@[irreducible] def isInterruptStateValid (state : InterruptState) : Bool :=
  isStateHeaderValid state &&
  ((List.finRange kInterruptQueueDepth).all fun index =>
    !(index.val < state.pendingCount.toNat) || isPendingEntryValid state index) &&
  (List.finRange kInterruptQueueDepth).all fun index =>
    !(state.pendingCount.toNat ≤ index.val) || state.pending index == InterruptEvent.zero

/-- The pending events, in the order of the table. -/
def queue (state : InterruptState) : List InterruptEvent :=
  ArrayQueue.contents state.pending state.pendingCount.toNat

/-- The state after an event has been stored behind the pending ones. -/
def pushPending (state : InterruptState) (event : InterruptEvent) : InterruptState :=
  { state with
    pending := ArrayQueue.store state.pending state.pendingCount.toNat event
    pendingCount := state.pendingCount + 1
    nextSequence :=
      if state.nextSequence ≤ event.sequence then event.sequence + 1 else state.nextSequence }

def enqueueInterrupt (state : InterruptState) (event : Option InterruptEvent) :
    InterruptStatus × InterruptState :=
  match event with
  | none => (.Invalid, state)
  | some event =>
    if !isInterruptStateValid state || !isInterruptEventValid (some event) then (.Invalid, state)
    else if event.generation != state.generation then (.GenerationMismatch, state)
    else if kInterruptQueueDepth ≤ state.pendingCount.toNat then (.QueueFull, state)
    else if (queue state).any (·.sequence == event.sequence) then (.Conflict, state)
    else if event.sequence == ~~~0 then (.Conflict, state)
    else (.Ready, pushPending state event)

/-- Whether the selection loop takes the candidate over what it has. -/
def isPreferred (candidate selected : InterruptEvent) : Bool :=
  priority selected < priority candidate ||
  (priority candidate == priority selected && candidate.sequence < selected.sequence)

/-- The body of the selection loop. -/
def considerEvent (state : InterruptState) (selected : Option InterruptEvent)
    (candidate : InterruptEvent) : Option InterruptEvent :=
  if isBlocked state candidate then selected
  else
    match selected with
    | none => some candidate
    | some best => if isPreferred candidate best then some candidate else some best

def selectEvent (state : InterruptState) : Option InterruptEvent :=
  (queue state).foldl (considerEvent state) none

/-- The decision that names an event. -/
def readyDecision (generation : U64) (event : InterruptEvent) : InterruptDecision :=
  { initializeDecision generation with
    status := InterruptStatus.Ready.word
    action := InterruptAction.Inject.word
    kind := event.kind
    vector := event.vector
    errorCode := event.errorCode
    flags := event.flags
    sequence := event.sequence }

/-- The decision is written only if the caller passes a buffer for it. -/
def selectInterrupt (state : Option InterruptState) (generation : U64) (wanted : Bool) :
    InterruptStatus × Option InterruptDecision :=
  if !wanted then (.Invalid, none)
  else
    let decision := initializeDecision generation
    match state with
    | none => (.Invalid, some { decision with action := InterruptAction.Quarantine.word })
    | some state =>
      if !isInterruptStateValid state then
        (.Invalid, some { decision with action := InterruptAction.Quarantine.word })
      else if state.generation != generation then
        (.GenerationMismatch, some { decision with action := InterruptAction.Quarantine.word })
      else if state.pendingCount == 0 then
        (.NoPending, some
          { decision with
            status := InterruptStatus.NoPending.word
            action := InterruptAction.WaitWindow.word })
      else
        match selectEvent state with
        | none =>
          (.Blocked, some
            { decision with
              status := InterruptStatus.Blocked.word
              action := InterruptAction.WaitWindow.word })
        | some event => (.Ready, some (readyDecision generation event))

/-- What the commit asks of a decision before it looks for its event. -/
def isDecisionCommittable (state : InterruptState) (decision : InterruptDecision) : Bool :=
  isVersionedSizeValid decision.version decision.size sizeofInterruptDecision &&
  decision.status == InterruptStatus.Ready.word && decision.action == InterruptAction.Inject.word &&
  decision.generation == state.generation && decision.sequence != 0 && decision.reserved == 0 &&
  decision.reserved2 == 0 && decision.flags &&& ~~~kInterruptKnownEventMask == 0

/-- The place of the event that a commit takes out. -/
def commitSlot (state : InterruptState) (decision : InterruptDecision) :
    Option (Fin kInterruptQueueDepth) :=
  if !isInterruptStateValid state || !isDecisionCommittable state decision then none
  else ArrayQueue.findSlot state.pending state.pendingCount.toNat (isSameEvent · decision)

/-- The removal of the entry at a place of the queue. -/
def removePending (state : InterruptState) (index : Fin kInterruptQueueDepth) : InterruptState :=
  let moved := ArrayQueue.shiftDown state.pending index.val state.pendingCount.toNat
  let count := state.pendingCount - 1
  { state with
    pendingCount := count
    pending := ArrayQueue.store moved count.toNat InterruptEvent.zero }

/-- The state after the event at a place of the queue has been injected. -/
def committed (state : InterruptState) (decision : InterruptDecision)
    (index : Fin kInterruptQueueDepth) : InterruptState :=
  let removed := removePending state index
  if decision.kind == kKindNmi then
    { removed with interruptibility := removed.interruptibility ||| kInterruptBlockNmi }
  else removed

def commitInterruptInjection (state : InterruptState) (decision : Option InterruptDecision) :
    Bool × InterruptState :=
  match decision with
  | none => (false, state)
  | some decision =>
    match commitSlot state decision with
    | none => (false, state)
    | some index => (true, committed state decision index)

def isPostedInterruptValid (descriptor : PostedInterruptDescriptor) : Bool :=
  isVersionedSizeValid descriptor.version descriptor.size sizeofPostedInterruptDescriptor &&
  kInterruptVectorFirstExternal ≤ descriptor.notificationVector &&
  descriptor.notificationVector < kInterruptVectorCount &&
  descriptor.suppressNotification ≤ 1 && descriptor.reserved == 0 && descriptor.reserved2 == 0 &&
  descriptor.generation != 0

/-- The event that the drain makes for one bit of the request bitmap. -/
def postedEvent (word : Fin 8) (bit : Nat) (generation sourceId sequence : U64) :
    InterruptEvent where
  size := sizeofInterruptEvent
  version := kInterruptContractVersion
  kind := kKindVirtual
  vector := (BitVec.ofNat 32 word.val <<< 5) + BitVec.ofNat 32 bit
  errorCode := 0
  flags := kInterruptEventPosted ||| kInterruptEventFromDevice
  reserved := 0
  reserved2 := 0
  sourceId := sourceId
  generation := generation
  sequence := sequence

/-- The locals of the drain: `returned` is the status with which it has left
its loops. -/
structure Drain where
  descriptor : PostedInterruptDescriptor
  state : InterruptState
  drained : Bool
  returned : Option InterruptStatus
  deriving DecidableEq

/-- The body of the inner loop, where `bits` is the word as it was read before
the loop. -/
def drainBit (word : Fin 8) (bits : U32) (generation sourceId : U64) (drain : Drain) (bit : Nat) :
    Drain :=
  if drain.returned.isSome then drain
  else
    let mask := 1#32 <<< bit
    if bits &&& mask == 0 then drain
    else if drain.state.nextSequence == ~~~0 then { drain with returned := some .Conflict }
    else
      let event := postedEvent word bit generation sourceId drain.state.nextSequence
      let result := enqueueInterrupt drain.state (some event)
      if result.1 != .Ready then { drain with state := result.2, returned := some result.1 }
      else
        { descriptor :=
            { drain.descriptor with
              pir := Function.update drain.descriptor.pir word
                (drain.descriptor.pir word &&& ~~~mask) }
          state := result.2
          drained := true
          returned := none }

/-- The body of the outer loop. -/
def drainWord (generation sourceId : U64) (drain : Drain) (word : Fin 8) : Drain :=
  (List.range 32).foldl (drainBit word (drain.descriptor.pir word) generation sourceId) drain

/-- The loops of the drain, over the eight words of the bitmap. -/
def drainWords (descriptor : PostedInterruptDescriptor) (state : InterruptState)
    (generation sourceId : U64) : Drain :=
  (List.finRange 8).foldl (drainWord generation sourceId) ⟨descriptor, state, false, none⟩

def drainPostedInterrupt (descriptor : Option PostedInterruptDescriptor) (state : InterruptState)
    (generation sourceId : U64) :
    InterruptStatus × Option PostedInterruptDescriptor × InterruptState :=
  match descriptor with
  | none => (.Invalid, none, state)
  | some descriptor =>
    if !isPostedInterruptValid descriptor || !isInterruptStateValid state then
      (.Invalid, some descriptor, state)
    else if descriptor.generation != generation || state.generation != generation then
      (.GenerationMismatch, some descriptor, state)
    else
      let drain := drainWords descriptor state generation sourceId
      (drain.returned.getD (if drain.drained then .Ready else .NoPending), some drain.descriptor,
        drain.state)

end Knhv.Interrupt
