import Mathlib.Data.Fintype.Pi
import Knhv.Evidence.Manifest

namespace Knhv.Evidence

open Knhv.Matrix

def kTargetEvidenceSignatureContractVersion : U32 := 1
def kTargetEvidenceSignatureMaxStructSize : U32 := 4096

inductive TargetEvidenceSignatureStatus
  | Trusted | InvalidArgument | FileNotFound | NotSigned | Untrusted | PrivateTestRoot
  | VerificationUnavailable
  deriving DecidableEq, Repr

def TargetEvidenceSignatureStatus.word : TargetEvidenceSignatureStatus → U32
  | .Trusted => 0
  | .InvalidArgument => 1
  | .FileNotFound => 2
  | .NotSigned => 3
  | .Untrusted => 4
  | .PrivateTestRoot => 5
  | .VerificationUnavailable => 6

def kTargetEvidenceSignatureResultPrivateRootAccepted : U32 := 1 <<< 0

def sizeofTargetEvidenceSignatureResult : U32 := 24

structure TargetEvidenceSignatureResult where
  size : U32
  version : U32
  status : U32
  wintrustStatus : U32
  resultFlags : U32
  reserved : U32
  deriving DecidableEq

def TargetEvidenceSignatureResult.zero : TargetEvidenceSignatureResult := ⟨0, 0, 0, 0, 0, 0⟩

def isTargetEvidenceSignatureResultValid (result : TargetEvidenceSignatureResult) : Bool :=
  if !versionedSizeValid kTargetEvidenceSignatureContractVersion
        kTargetEvidenceSignatureMaxStructSize result.version result.size
        sizeofTargetEvidenceSignatureResult ||
      TargetEvidenceSignatureStatus.VerificationUnavailable.word < result.status ||
      result.resultFlags &&& ~~~kTargetEvidenceSignatureResultPrivateRootAccepted != 0 ||
      result.reserved != 0 then
    false
  else
    let privateRootAccepted :=
      result.resultFlags &&& kTargetEvidenceSignatureResultPrivateRootAccepted != 0
    if result.status == TargetEvidenceSignatureStatus.Trusted.word then
      result.wintrustStatus == 0 && !privateRootAccepted
    else if result.status == TargetEvidenceSignatureStatus.PrivateTestRoot.word then
      result.wintrustStatus != 0 && privateRootAccepted
    else if privateRootAccepted then false
    else if result.status == TargetEvidenceSignatureStatus.InvalidArgument.word ||
        result.status == TargetEvidenceSignatureStatus.FileNotFound.word then
      result.wintrustStatus == 0
    else result.wintrustStatus != 0

def kTargetEvidenceWriterContractVersion : U32 := 1
def kTargetEvidenceWriterMaxStructSize : U32 := 4096

def kTargetEvidenceWriterFlagAllowSynthetic : U32 := 1 <<< 0
def kTargetEvidenceWriterFlagAllowPrivateTestRoot : U32 := 1 <<< 1
def kTargetEvidenceWriterFlagHardwareEvidence : U32 := 1 <<< 2
def kTargetEvidenceWriterFlagSourceCleanObserved : U32 := 1 <<< 3
def kTargetEvidenceWriterFlagCommitSignature : U32 := 1 <<< 4
def kTargetEvidenceWriterKnownFlagMask : U32 := (1 <<< 5) - 1

inductive TargetEvidenceWriterStatus
  | Success | InvalidArgument | InvalidManifest | SignatureRequired | SignatureUntrusted
  | HardwareEvidenceRequired | SyntheticPolicyViolation | SourceDirty | GenerationInvalid
  deriving DecidableEq, Repr

def TargetEvidenceWriterStatus.word : TargetEvidenceWriterStatus → U32
  | .Success => 0
  | .InvalidArgument => 1
  | .InvalidManifest => 2
  | .SignatureRequired => 3
  | .SignatureUntrusted => 4
  | .HardwareEvidenceRequired => 5
  | .SyntheticPolicyViolation => 6
  | .SourceDirty => 7
  | .GenerationInvalid => 8

def sizeofTargetEvidenceManifestWriteRequest : U32 := 296
def sizeofTargetEvidenceManifestWriteResult : U32 := 280

structure TargetEvidenceManifestWriteRequest where
  size : U32
  version : U32
  flags : U32
  reserved : U32
  candidate : TargetEvidenceManifest
  signature : TargetEvidenceSignatureResult

structure TargetEvidenceManifestWriteResult where
  size : U32
  version : U32
  status : U32
  reason : U32
  reserved : U32
  manifest : TargetEvidenceManifest

namespace Writer

def isVersionedSizeValid : U32 → U32 → U32 → Bool :=
  versionedSizeValid kTargetEvidenceWriterContractVersion kTargetEvidenceWriterMaxStructSize

def isStatusValid (value : U32) : Bool := value ≤ TargetEvidenceWriterStatus.GenerationInvalid.word

def isSyntheticProfile (manifest : TargetEvidenceManifest) : Bool :=
  manifest.profile == TargetEvidenceProfile.SyntheticLab.word

def isHardwareProfile (manifest : TargetEvidenceManifest) : Bool :=
  manifest.profile == TargetEvidenceProfile.NativeIntelL0.word

def isAtLeastCapability (manifest : TargetEvidenceManifest) : Bool :=
  TargetEvidenceStage.Capability.word ≤ manifest.stage

def isRelease (manifest : TargetEvidenceManifest) : Bool :=
  manifest.stage == TargetEvidenceStage.Release.word

def hasFlag (manifest : TargetEvidenceManifest) (flag : U32) : Bool := manifest.flags &&& flag != 0

def hasWriterFlag (request : TargetEvidenceManifestWriteRequest) (flag : U32) : Bool :=
  request.flags &&& flag != 0

def initializeResult : TargetEvidenceManifestWriteResult where
  size := sizeofTargetEvidenceManifestWriteResult
  version := kTargetEvidenceWriterContractVersion
  status := TargetEvidenceWriterStatus.InvalidArgument.word
  reason := TargetEvidenceReason.InvalidRequest.word
  reserved := 0
  manifest := .zero

def isTrusted (signature : TargetEvidenceSignatureResult) : Bool :=
  signature.status == TargetEvidenceSignatureStatus.Trusted.word && signature.wintrustStatus == 0

def isAcceptedPrivateRoot (signature : TargetEvidenceSignatureResult) : Bool :=
  signature.status == TargetEvidenceSignatureStatus.PrivateTestRoot.word &&
    signature.wintrustStatus != 0 &&
    signature.resultFlags &&& kTargetEvidenceSignatureResultPrivateRootAccepted != 0

/-- `SetFailure`, on the manifest that has been copied so far. -/
def setFailure (manifest : TargetEvidenceManifest) (status : TargetEvidenceWriterStatus)
    (reason : TargetEvidenceReason) : TargetEvidenceManifestWriteResult :=
  { initializeResult with
    status := status.word
    reason := reason.word
    manifest := manifest }

end Writer

open Writer

def isTargetEvidenceManifestWriteRequestValid (request : TargetEvidenceManifestWriteRequest) :
    Bool :=
  Writer.isVersionedSizeValid request.version request.size
      sizeofTargetEvidenceManifestWriteRequest &&
    request.flags &&& ~~~kTargetEvidenceWriterKnownFlagMask == 0 && request.reserved == 0 &&
    isTargetEvidenceManifestValid request.candidate &&
    isTargetEvidenceSignatureResultValid request.signature

def isTargetEvidenceManifestWriteResultValid (result : TargetEvidenceManifestWriteResult) : Bool :=
  if !Writer.isVersionedSizeValid result.version result.size
        sizeofTargetEvidenceManifestWriteResult ||
      !Writer.isStatusValid result.status || !isReasonValid result.reason ||
      result.reserved != 0 then
    false
  else if result.status == TargetEvidenceWriterStatus.Success.word then
    result.reason == TargetEvidenceReason.None.word && isTargetEvidenceManifestValid result.manifest
  else if result.reason == TargetEvidenceReason.None.word then false
  else result.manifest == .zero || isTargetEvidenceManifestValid result.manifest

/-- The signature is one that the writer takes. -/
def signatureIsUsable (request : TargetEvidenceManifestWriteRequest) : Bool :=
  isTrusted request.signature ||
    (isSyntheticProfile request.candidate && isAcceptedPrivateRoot request.signature &&
      hasWriterFlag request kTargetEvidenceWriterFlagAllowPrivateTestRoot)

/-- The checks before the signature: what is wrong with the request, if
anything is. -/
def writerPolicyFailure (request : TargetEvidenceManifestWriteRequest) :
    Option (TargetEvidenceWriterStatus × TargetEvidenceReason) :=
  let candidate := request.candidate
  let synthetic := isSyntheticProfile candidate
  let hardware := hasFlag candidate kTargetEvidenceFlagHardwareTarget
  let evidence := hasWriterFlag request kTargetEvidenceWriterFlagHardwareEvidence
  if synthetic && (!hasWriterFlag request kTargetEvidenceWriterFlagAllowSynthetic || evidence ||
      hardware) then
    some (.SyntheticPolicyViolation, .InvalidRequest)
  else if !synthetic && hasWriterFlag request kTargetEvidenceWriterFlagAllowSynthetic then
    some (.SyntheticPolicyViolation, .InvalidRequest)
  else if hardware && !evidence then some (.HardwareEvidenceRequired, .CapabilityIncomplete)
  else if !synthetic && isHardwareProfile candidate && isAtLeastCapability candidate &&
      !evidence then
    some (.HardwareEvidenceRequired, .CapabilityIncomplete)
  else if hasFlag candidate kTargetEvidenceFlagSourceClean &&
      !hasWriterFlag request kTargetEvidenceWriterFlagSourceCleanObserved then
    some (.SourceDirty, .SourceDirty)
  else none

/-- The part of the writer behind the policy checks. -/
def writeManifest (request : TargetEvidenceManifestWriteRequest) :
    TargetEvidenceManifestWriteResult :=
  let candidate := request.candidate
  let commit := hasWriterFlag request kTargetEvidenceWriterFlagCommitSignature
  let usable := signatureIsUsable request
  if (hasFlag candidate kTargetEvidenceFlagSignatureVerified || commit ||
      (isRelease candidate && !isSyntheticProfile candidate)) && !usable then
    setFailure candidate
      (if request.signature.status == TargetEvidenceSignatureStatus.InvalidArgument.word then
        .SignatureRequired
      else .SignatureUntrusted) .SignatureUnverified
  else if commit && !usable then setFailure candidate .SignatureRequired .SignatureUnverified
  else
    let manifest :=
      if commit then
        { candidate with flags := candidate.flags ||| kTargetEvidenceFlagSignatureVerified }
      else candidate
    if manifest.generation == 0 && manifest.stage != TargetEvidenceStage.Inventory.word &&
        manifest.verdict == TargetEvidenceVerdict.Pass.word then
      setFailure manifest .GenerationInvalid .GenerationMismatch
    else if !isTargetEvidenceManifestValid manifest then
      setFailure manifest .InvalidManifest .InvalidManifest
    else
      { initializeResult with
        status := TargetEvidenceWriterStatus.Success.word
        reason := TargetEvidenceReason.None.word
        manifest := manifest }

/-- Whether the request could be looked at, and what is left in the result. -/
def buildTargetEvidenceManifest (request : TargetEvidenceManifestWriteRequest) :
    Bool × TargetEvidenceManifestWriteResult :=
  if !isTargetEvidenceManifestWriteRequestValid request then (false, initializeResult)
  else
    match writerPolicyFailure request with
    | some (status, reason) => (true, setFailure request.candidate status reason)
    | none => (true, writeManifest request)

end Knhv.Evidence
