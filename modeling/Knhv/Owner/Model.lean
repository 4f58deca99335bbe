import Mathlib.Data.Nat.Basic
import Knhv.Matrix.Cpu
import Knhv.Provider.Types

namespace Knhv

/-- The wire value of a status. -/
def HvStatus.word : HvStatus → U32
  | .Success => 0
  | .InvalidParameter => 1
  | .UnsupportedMode => 2
  | .CapabilityMismatch => 3
  | .HardwareOwnerConflict => 4
  | .NestedUnavailable => 5
  | .VmfailInvalid => 6
  | .VmfailValid => 7
  | .Cancelled => 8
  | .Timeout => 9
  | .Quarantined => 10
  | .LoadOnly => 11
  | .IncompatibleProvider => 12
  | .VirtualUnsupported => 13
  | .ArchUnsupported => 14
  | .BootHandoffFailed => 15
  | .RecoveryRequired => 16
  | .HardwareUnsupported => 17
  | .BufferTooSmall => 18
  | .Busy => 19

end Knhv

namespace Knhv.Owner

open Knhv.Matrix

def kOwnerObservationContractVersion : U32 := 1
def kOwnerObservationMaxStructSize : U32 := 4096

/-- What a probe says of its source. -/
inductive OwnerEvidenceState
  | Unknown | Clear | Present
  deriving DecidableEq, Repr

inductive OwnerGateAction
  | Block | AcquireNative | UseExternalProvider | UseWhp | UseSynthetic
  deriving DecidableEq, Repr

inductive OwnerGateReason
  | None | InvalidObservation | UnknownOwner | ContradictoryEvidence | WindowsHypervisorActive
  | VbsActive | HvciActive | ExternalOwnerActive | KnhvHandoffMissing | KnhvOwnerReady
  | WhpFallback | SyntheticFallback | ProviderUnavailable | GenerationMissing
  | ProviderStateInvalid
  deriving DecidableEq, Repr

def OwnerEvidenceState.word : OwnerEvidenceState → U32
  | .Unknown => 0
  | .Clear => 1
  | .Present => 2

def OwnerGateAction.word : OwnerGateAction → U32
  | .Block => 0
  | .AcquireNative => 1
  | .UseExternalProvider => 2
  | .UseWhp => 3
  | .UseSynthetic => 4

def OwnerGateReason.word : OwnerGateReason → U32
  | .None => 0
  | .InvalidObservation => 1
  | .UnknownOwner => 2
  | .ContradictoryEvidence => 3
  | .WindowsHypervisorActive => 4
  | .VbsActive => 5
  | .HvciActive => 6
  | .ExternalOwnerActive => 7
  | .KnhvHandoffMissing => 8
  | .KnhvOwnerReady => 9
  | .WhpFallback => 10
  | .SyntheticFallback => 11
  | .ProviderUnavailable => 12
  | .GenerationMissing => 13
  | .ProviderStateInvalid => 14

def kOwnerGateFlagEvidenceComplete : U32 := 1 <<< 0
def kOwnerGateFlagExclusive : U32 := 1 <<< 1
def kOwnerGateFlagFallback : U32 := 1 <<< 2
def kOwnerGateFlagConflict : U32 := 1 <<< 3
def kOwnerGateKnownFlagMask : U32 :=
  kOwnerGateFlagEvidenceComplete ||| kOwnerGateFlagExclusive ||| kOwnerGateFlagFallback |||
    kOwnerGateFlagConflict

def sizeofOwnerObservation : U32 := 56
def sizeofOwnerGateResult : U32 := 40

structure OwnerObservation where
  size : U32
  version : U32
  cpuidHypervisor : U32
  windowsHypervisor : U32
  vbs : U32
  hvci : U32
  whpAvailable : U32
  providerDevice : U32
  bootHandoff : U32
  providerOwner : U32
  providerState : U32
  reserved : U32
  generation : U64
  deriving DecidableEq

/-- The status is the word of the record: it need not name a status. -/
structure OwnerGateResult where
  size : U32
  version : U32
  action : U32
  reason : U32
  status : U32
  owner : U32
  flags : U32
  reserved : U32
  generation : U64
  deriving DecidableEq

def OwnerObservation.zero : OwnerObservation := ⟨0, 0, 0, 0, 0, 0, 0, 0, 0, 0, 0, 0, 0⟩

def OwnerGateResult.zero : OwnerGateResult := ⟨0, 0, 0, 0, 0, 0, 0, 0, 0⟩

def isVersionedSizeValid : U32 → U32 → U32 → Bool :=
  versionedSizeValid kOwnerObservationContractVersion kOwnerObservationMaxStructSize

def isEvidenceStateValid (value : U32) : Bool := value ≤ OwnerEvidenceState.Present.word

def isOwnerKindValid (value : U32) : Bool := value ≤ HvOwnerKindV2.SyntheticLab.word

def isProviderStateValid (value : U32) : Bool := value ≤ HvProviderStateV2.Quarantined.word

def isStatusValid (status : U32) : Bool := status ≤ HvStatus.Busy.word

def isActionValid (value : U32) : Bool := value ≤ OwnerGateAction.UseSynthetic.word

def isReasonValid (value : U32) : Bool := value ≤ OwnerGateReason.ProviderStateInvalid.word

def isPresent (evidence : U32) : Bool := evidence == OwnerEvidenceState.Present.word

def isClear (evidence : U32) : Bool := evidence == OwnerEvidenceState.Clear.word

def hasNativeEvidence (observation : OwnerObservation) : Bool :=
  isClear observation.cpuidHypervisor && isClear observation.windowsHypervisor &&
    isClear observation.vbs && isClear observation.hvci && isPresent observation.providerDevice &&
    isPresent observation.bootHandoff

def isNativeOwner (observation : OwnerObservation) : Bool :=
  observation.providerOwner == HvOwnerKindV2.KnhvBootL0.word

def isExternalOwner (observation : OwnerObservation) : Bool :=
  observation.providerOwner == HvOwnerKindV2.ExternalL0.word

def isWhpOwner (observation : OwnerObservation) : Bool :=
  observation.providerOwner == HvOwnerKindV2.WhpManaged.word

def isSyntheticOwner (observation : OwnerObservation) : Bool :=
  observation.providerOwner == HvOwnerKindV2.SyntheticLab.word

def isAvailableOrActive (observation : OwnerObservation) : Bool :=
  observation.providerState == HvProviderStateV2.Available.word ||
    observation.providerState == HvProviderStateV2.Active.word

def hasContradictoryEvidence (observation : OwnerObservation) : Bool :=
  if isPresent observation.bootHandoff && !isNativeOwner observation then true
  else if isNativeOwner observation &&
      (isPresent observation.cpuidHypervisor || isPresent observation.windowsHypervisor ||
        observation.providerState == HvProviderStateV2.Conflict.word ||
        observation.providerState == HvProviderStateV2.Quarantined.word) then
    true
  else
    isExternalOwner observation && observation.providerState != HvProviderStateV2.Conflict.word &&
      observation.providerState != HvProviderStateV2.Active.word

def initializeResult : OwnerGateResult :=
  { OwnerGateResult.zero with
    size := sizeofOwnerGateResult
    version := kOwnerObservationContractVersion
    action := OwnerGateAction.Block.word
    reason := OwnerGateReason.InvalidObservation.word
    status := HvStatus.InvalidParameter.word }

/-- `SetResult` on a result that has been initialized, for the owner and the
generation of the observation. -/
def setResult (observation : OwnerObservation) (action : OwnerGateAction)
    (reason : OwnerGateReason) (status : HvStatus) (flags : U32) : OwnerGateResult :=
  { initializeResult with
    action := action.word
    reason := reason.word
    status := status.word
    owner := observation.providerOwner
    flags := flags
    generation := observation.generation }

def isBlockedResultConsistent (result : OwnerGateResult) : Bool :=
  result.action == OwnerGateAction.Block.word && result.status != HvStatus.Success.word &&
    result.reason != OwnerGateReason.None.word &&
    result.flags &&& (kOwnerGateFlagExclusive ||| kOwnerGateFlagFallback) == 0

def isOwnerObservationValid (observation : OwnerObservation) : Bool :=
  if !isVersionedSizeValid observation.version observation.size sizeofOwnerObservation ||
      !isEvidenceStateValid observation.cpuidHypervisor ||
      !isEvidenceStateValid observation.windowsHypervisor ||
      !isEvidenceStateValid observation.vbs || !isEvidenceStateValid observation.hvci ||
      !isEvidenceStateValid observation.whpAvailable ||
      !isEvidenceStateValid observation.providerDevice ||
      !isEvidenceStateValid observation.bootHandoff ||
      !isOwnerKindValid observation.providerOwner ||
      !isProviderStateValid observation.providerState || observation.reserved != 0 then
    false
  else if (observation.providerOwner != HvOwnerKindV2.Unknown.word ||
        observation.providerState != HvProviderStateV2.Unknown.word) &&
      observation.providerDevice != OwnerEvidenceState.Present.word then
    false
  else
    observation.providerState != HvProviderStateV2.Active.word ||
      (observation.providerOwner != HvOwnerKindV2.Unknown.word && observation.generation != 0)

/-- The branches of the gate for an observation that is valid. -/
def decideOwner (input : OwnerObservation) : OwnerGateResult :=
  if hasContradictoryEvidence input then
    setResult input .Block .ContradictoryEvidence .HardwareOwnerConflict kOwnerGateFlagConflict
  else if isNativeOwner input then
    if !isPresent input.providerDevice then
      setResult input .Block .ProviderUnavailable .NestedUnavailable 0
    else if input.generation == 0 then
      setResult input .Block .GenerationMissing .BootHandoffFailed 0
    else if !isPresent input.bootHandoff then
      setResult input .Block .KnhvHandoffMissing .BootHandoffFailed 0
    else if input.providerState != HvProviderStateV2.Active.word then
      setResult input .Block .ProviderStateInvalid .BootHandoffFailed 0
    else if isPresent input.vbs then
      setResult input .Block .VbsActive .HardwareOwnerConflict kOwnerGateFlagConflict
    else if isPresent input.hvci then
      setResult input .Block .HvciActive .HardwareOwnerConflict kOwnerGateFlagConflict
    else if !hasNativeEvidence input then
      setResult input .Block .UnknownOwner .NestedUnavailable 0
    else
      setResult input .AcquireNative .KnhvOwnerReady .Success
        (kOwnerGateFlagEvidenceComplete ||| kOwnerGateFlagExclusive)
  else if isExternalOwner input then
    if input.generation == 0 then
      setResult input .Block .GenerationMissing .IncompatibleProvider 0
    else
      setResult input .UseExternalProvider .ExternalOwnerActive .IncompatibleProvider
        (kOwnerGateFlagFallback ||| kOwnerGateFlagConflict)
  else if isWhpOwner input then
    if input.generation == 0 then setResult input .Block .GenerationMissing .NestedUnavailable 0
    else if !isAvailableOrActive input || !isPresent input.whpAvailable then
      setResult input .Block .ProviderUnavailable .NestedUnavailable 0
    else setResult input .UseWhp .WhpFallback .Success kOwnerGateFlagFallback
  else if isSyntheticOwner input then
    if input.generation == 0 || !isAvailableOrActive input then
      setResult input .Block .ProviderStateInvalid .NestedUnavailable 0
    else setResult input .UseSynthetic .SyntheticFallback .Success kOwnerGateFlagFallback
  else if isPresent input.vbs then
    setResult input .Block .VbsActive .HardwareOwnerConflict kOwnerGateFlagConflict
  else if isPresent input.hvci then
    setResult input .Block .HvciActive .HardwareOwnerConflict kOwnerGateFlagConflict
  else if isPresent input.windowsHypervisor then
    setResult input .Block .WindowsHypervisorActive .HardwareOwnerConflict kOwnerGateFlagConflict
  else if isPresent input.cpuidHypervisor then
    setResult input .Block .ExternalOwnerActive .HardwareOwnerConflict kOwnerGateFlagConflict
  else if !isPresent input.providerDevice then
    setResult input .Block .ProviderUnavailable .NestedUnavailable 0
  else setResult input .Block .UnknownOwner .NestedUnavailable 0

def evaluateOwnerGate (observation : Option OwnerObservation) : Bool × OwnerGateResult :=
  match observation with
  | none => (false, initializeResult)
  | some input =>
    if !isOwnerObservationValid input then (false, initializeResult) else (true, decideOwner input)

def isOwnerGateResultValid (result : OwnerGateResult) : Bool :=
  if !isVersionedSizeValid result.version result.size sizeofOwnerGateResult ||
      !isActionValid result.action || !isReasonValid result.reason ||
      !isStatusValid result.status || !isOwnerKindValid result.owner ||
      result.flags &&& ~~~kOwnerGateKnownFlagMask != 0 || result.reserved != 0 then
    false
  else if result.action == OwnerGateAction.AcquireNative.word then
    result.status == HvStatus.Success.word &&
      result.reason == OwnerGateReason.KnhvOwnerReady.word &&
      result.owner == HvOwnerKindV2.KnhvBootL0.word && result.generation != 0 &&
      result.flags == kOwnerGateFlagEvidenceComplete ||| kOwnerGateFlagExclusive
  else if result.action == OwnerGateAction.UseExternalProvider.word then
    result.status == HvStatus.IncompatibleProvider.word &&
      result.reason == OwnerGateReason.ExternalOwnerActive.word &&
      result.owner == HvOwnerKindV2.ExternalL0.word && result.generation != 0 &&
      result.flags == kOwnerGateFlagFallback ||| kOwnerGateFlagConflict
  else if result.action == OwnerGateAction.UseWhp.word then
    result.status == HvStatus.Success.word && result.reason == OwnerGateReason.WhpFallback.word &&
      result.owner == HvOwnerKindV2.WhpManaged.word && result.generation != 0 &&
      result.flags == kOwnerGateFlagFallback
  else if result.action == OwnerGateAction.UseSynthetic.word then
    result.status == HvStatus.Success.word &&
      result.reason == OwnerGateReason.SyntheticFallback.word &&
      result.owner == HvOwnerKindV2.SyntheticLab.word && result.generation != 0 &&
      result.flags == kOwnerGateFlagFallback
  else isBlockedResultConsistent result

end Knhv.Owner
