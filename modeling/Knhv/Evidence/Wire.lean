import Mathlib.Data.Fintype.Pi
import Mathlib.Tactic.ProxyType
import Knhv.Evidence.Snapshot
import Knhv.Lib.Layout

namespace Knhv.Evidence

open Knhv.Matrix Owner

def kTargetEvidenceSnapshotWireVersion : U32 := 1
def kTargetEvidenceSnapshotWireDigestSize : U32 := 32
def kTargetEvidenceSnapshotWireMaxSize : U32 := 2 * 1024 * 1024
def kTargetEvidenceSnapshotWireHeaderSize : U32 := 64

inductive TargetEvidenceSnapshotCodecStatus
  | Success | InvalidArgument | BufferTooSmall | InvalidHeader | UnsupportedVersion
  | InvalidLength | SnapshotInvalid | DigestUnavailable | DigestMismatch
  deriving DecidableEq, Repr

structure TargetEvidenceSnapshotWireHeader where
  magic : Fin 8 → U8
  version : U32
  headerSize : U32
  snapshotSize : U32
  cpuSampleSize : U32
  vmxSampleSize : U32
  cpuSampleCount : U32
  vmxSampleCount : U32
  payloadSize : U32
  digestSize : U32
  envelopeSize : U32
  reserved0 : U32
  reserved1 : U32
  reserved2 : U32
  reserved3 : U32
  deriving DecidableEq

namespace Wire

instance : HasLayout CpuMatrixSample := .ofEquiv (proxy_equiv% CpuMatrixSample)

instance : HasLayout CpuMatrixSummary := .ofEquiv (proxy_equiv% CpuMatrixSummary)

instance : HasLayout VmxControlCapability := .ofEquiv (proxy_equiv% VmxControlCapability)

instance : HasLayout VmxCapabilitySample := .ofEquiv (proxy_equiv% VmxCapabilitySample)

instance : HasLayout VmxCapabilityMatrix := .ofEquiv (proxy_equiv% VmxCapabilityMatrix)

instance : HasLayout OwnerObservation := .ofEquiv (proxy_equiv% OwnerObservation)

instance : HasLayout OwnerGateResult := .ofEquiv (proxy_equiv% OwnerGateResult)

instance : HasLayout TargetEvidenceSignatureResult :=
  .ofEquiv (proxy_equiv% TargetEvidenceSignatureResult)

instance : HasLayout TargetEvidenceSnapshot := .ofEquiv (proxy_equiv% TargetEvidenceSnapshot)

instance : HasLayout TargetEvidenceSnapshotWireHeader :=
  .ofEquiv (proxy_equiv% TargetEvidenceSnapshotWireHeader)

def cpuSampleLayout : Layout CpuMatrixSample := HasLayout.layout

def vmxSampleLayout : Layout VmxCapabilitySample := HasLayout.layout

def snapshotLayout : Layout TargetEvidenceSnapshot := HasLayout.layout

def headerLayout : Layout TargetEvidenceSnapshotWireHeader := HasLayout.layout

def digestLayout : Layout Digest := HasLayout.layout

example : cpuSampleLayout.size = 112 ∧ vmxSampleLayout.size = 296 ∧ snapshotLayout.size = 544 ∧
    headerLayout.size = 64 := ⟨rfl, rfl, rfl, rfl⟩

def kWireMagic : Fin 8 → U8 :=
  fun index => [0x4B, 0x4E, 0x48, 0x56, 0x53, 0x4E, 0x50, 0x31].getD index.val 0

/-- The loop of `IsDigestEqual`. -/
def isDigestEqual (left right : Digest) : Bool :=
  (List.finRange 32).foldl (fun difference index => difference ||| (left index ^^^ right index)) 0
    == 0

/-- What the provider of the hash answers, if it is there. -/
abbrev Sha256 := List U8 → Option Digest

def computeSha256 (sha256 : Sha256) (input : List U8) : Option Digest :=
  if input.isEmpty then none else sha256 input

def isMagicValid (header : TargetEvidenceSnapshotWireHeader) : Bool := header.magic == kWireMagic

def calculatePayloadSize (cpuSampleCount vmxSampleCount : U32) : U32 :=
  let payload : U64 := sizeofTargetEvidenceSnapshot.setWidth 64 +
    cpuSampleCount.setWidth 64 * sizeofCpuMatrixSample.setWidth 64 +
    vmxSampleCount.setWidth 64 * sizeofVmxCapabilitySample.setWidth 64
  if kTargetEvidenceSnapshotWireMaxSize.setWidth 64 < payload || 0xFFFFFFFF < payload then 0
  else payload.setWidth 32

def calculateEnvelopeSize (payloadSize : U32) : U32 :=
  let envelope : U64 := kTargetEvidenceSnapshotWireHeaderSize.setWidth 64 +
    payloadSize.setWidth 64 + kTargetEvidenceSnapshotWireDigestSize.setWidth 64
  if kTargetEvidenceSnapshotWireMaxSize.setWidth 64 < envelope || 0xFFFFFFFF < envelope then 0
  else envelope.setWidth 32

def initializeHeader (cpuSampleCount vmxSampleCount : U32) : TargetEvidenceSnapshotWireHeader where
  magic := kWireMagic
  version := kTargetEvidenceSnapshotWireVersion
  headerSize := kTargetEvidenceSnapshotWireHeaderSize
  snapshotSize := sizeofTargetEvidenceSnapshot
  cpuSampleSize := sizeofCpuMatrixSample
  vmxSampleSize := sizeofVmxCapabilitySample
  cpuSampleCount := cpuSampleCount
  vmxSampleCount := vmxSampleCount
  payloadSize := calculatePayloadSize cpuSampleCount vmxSampleCount
  digestSize := kTargetEvidenceSnapshotWireDigestSize
  envelopeSize := calculateEnvelopeSize (calculatePayloadSize cpuSampleCount vmxSampleCount)
  reserved0 := 0
  reserved1 := 0
  reserved2 := 0
  reserved3 := 0

def validateHeader (header : TargetEvidenceSnapshotWireHeader) (inputSize : U32) :
    TargetEvidenceSnapshotCodecStatus :=
  if !isMagicValid header then .InvalidHeader
  else if header.version != kTargetEvidenceSnapshotWireVersion then .UnsupportedVersion
  else if header.headerSize != kTargetEvidenceSnapshotWireHeaderSize ||
      header.snapshotSize != sizeofTargetEvidenceSnapshot ||
      header.cpuSampleSize != sizeofCpuMatrixSample ||
      header.vmxSampleSize != sizeofVmxCapabilitySample ||
      header.digestSize != kTargetEvidenceSnapshotWireDigestSize || header.reserved0 != 0 ||
      header.reserved1 != 0 || header.reserved2 != 0 || header.reserved3 != 0 then
    .InvalidHeader
  else if kCpuMatrixMaxProcessors < header.cpuSampleCount ||
      kVmxCapabilityMaxProcessors < header.vmxSampleCount then
    .InvalidLength
  else
    let expectedPayload := calculatePayloadSize header.cpuSampleCount header.vmxSampleCount
    let expectedEnvelope := calculateEnvelopeSize expectedPayload
    if expectedPayload == 0 || expectedEnvelope == 0 || header.payloadSize != expectedPayload ||
        header.envelopeSize != expectedEnvelope ||
        kTargetEvidenceSnapshotWireMaxSize < header.envelopeSize ||
        inputSize != header.envelopeSize then
      .InvalidLength
    else .Success

/-- The bytes that the digest is taken over. -/
def covered (header : TargetEvidenceSnapshotWireHeader) : Nat :=
  (header.headerSize + header.payloadSize).toNat

/-- An array that is passed on: the pointer of the caller with what it holds
now, and a length. -/
def passOn {α : Type} (buffer : Samples α) (contents : List α) (count : U32) : Samples α :=
  match buffer with
  | .null _ => .null count
  | .array _ _ =>
    .array (contents.take count.toNat) ((List.length_take_le _ _).trans_lt count.isLt)

/-- Something is to be read or written where the pointer is null. -/
def isMissing {α : Type} (samples : Samples α) (count : U32) : Bool :=
  count != 0 && samples.isNull

end Wire

open Wire

def getTargetEvidenceSnapshotWireSize (cpuSampleCount vmxSampleCount : U32) : U32 :=
  if kCpuMatrixMaxProcessors < cpuSampleCount || kVmxCapabilityMaxProcessors < vmxSampleCount then 0
  else
    let payload := calculatePayloadSize cpuSampleCount vmxSampleCount
    if payload == 0 then 0 else calculateEnvelopeSize payload

def inspectTargetEvidenceSnapshotPackage (input : Samples U8) :
    TargetEvidenceSnapshotCodecStatus × TargetEvidenceSnapshotWireHeader :=
  if input.isNull then (.InvalidArgument, headerLayout.zero)
  else if input.count < kTargetEvidenceSnapshotWireHeaderSize ||
      kTargetEvidenceSnapshotWireMaxSize < input.count then
    (.InvalidLength, headerLayout.zero)
  else
    let header := headerLayout.decode input.items
    (validateHeader header input.count, header)

def getTargetEvidenceSnapshotPackageDigest (sha256 : Sha256) (input : Samples U8) :
    TargetEvidenceSnapshotCodecStatus × Digest :=
  let (status, header) := inspectTargetEvidenceSnapshotPackage input
  if status != .Success then (status, .zero)
  else
    match computeSha256 sha256 (input.items.take (covered header)) with
    | none => (.DigestUnavailable, .zero)
    | some expected =>
      if !isDigestEqual expected (digestLayout.decode (input.items.drop (covered header))) then
        (.DigestMismatch, .zero)
      else (.Success, expected)

/-- What is left in the outputs of the encoder. -/
structure EncodeOutcome where
  status : TargetEvidenceSnapshotCodecStatus
  written : U32
  output : List U8

namespace Wire

/-- The header and the payload, copied to the output piece by piece. -/
def copyPackage (header : TargetEvidenceSnapshotWireHeader) (snapshot : TargetEvidenceSnapshot)
    (cpuSamples : List CpuMatrixSample) (vmxSamples : List VmxCapabilitySample)
    (output : List U8) : List U8 :=
  let behindHeader := kTargetEvidenceSnapshotWireHeaderSize.toNat
  let behindSnapshot := behindHeader + snapshotLayout.size
  let behindCpuSamples := behindSnapshot + cpuSamples.length * cpuSampleLayout.size
  let output := Layout.overwrite output 0 (headerLayout.encode header)
  let output := Layout.overwrite output behindHeader (snapshotLayout.encode snapshot)
  let output := Layout.overwrite output behindSnapshot (cpuSampleLayout.encodeAll cpuSamples)
  Layout.overwrite output behindCpuSamples (vmxSampleLayout.encodeAll vmxSamples)

end Wire

def encodeTargetEvidenceSnapshotPackage (sha256 : Sha256) (snapshot : Option TargetEvidenceSnapshot)
    (cpuSamples : Samples CpuMatrixSample) (vmxSamples : Samples VmxCapabilitySample)
    (output : Samples U8) : EncodeOutcome :=
  match snapshot with
  | none => ⟨.InvalidArgument, 0, output.items⟩
  | some snapshot =>
    if output.isNull || isMissing cpuSamples cpuSamples.count ||
        isMissing vmxSamples vmxSamples.count then
      ⟨.InvalidArgument, 0, output.items⟩
    else
      let envelopeSize := getTargetEvidenceSnapshotWireSize cpuSamples.count vmxSamples.count
      if envelopeSize == 0 then ⟨.InvalidLength, 0, output.items⟩
      else if output.count < envelopeSize then ⟨.BufferTooSmall, 0, output.items⟩
      else if !isTargetEvidenceSnapshotValid (some snapshot) cpuSamples vmxSamples then
        ⟨.SnapshotInvalid, 0, output.items⟩
      else
        let header := initializeHeader cpuSamples.count vmxSamples.count
        let package := copyPackage header snapshot cpuSamples.items vmxSamples.items output.items
        match computeSha256 sha256 (package.take (covered header)) with
        | none =>
          ⟨.DigestUnavailable, 0,
            Layout.overwrite package 0 (List.replicate envelopeSize.toNat 0)⟩
        | some digest =>
          ⟨.Success, envelopeSize,
            Layout.overwrite package (covered header) (digestLayout.encode digest)⟩

/-- What is left in the outputs of the decoder, with the arrays of the caller. -/
structure DecodeOutcome where
  status : TargetEvidenceSnapshotCodecStatus
  snapshot : TargetEvidenceSnapshot
  cpuSamples : List CpuMatrixSample
  cpuSampleCount : U32
  vmxSamples : List VmxCapabilitySample
  vmxSampleCount : U32

namespace Wire

/-- The outputs when they are cleared at the start. -/
def cleared (status : TargetEvidenceSnapshotCodecStatus) (cpuSamples : Samples CpuMatrixSample)
    (vmxSamples : Samples VmxCapabilitySample) : DecodeOutcome :=
  ⟨status, snapshotLayout.zero, cpuSamples.items, 0, vmxSamples.items, 0⟩

/-- The payload, read piece by piece behind a header that is valid. -/
def readPayload (header : TargetEvidenceSnapshotWireHeader) (input : List U8)
    (cpuBuffer : Samples CpuMatrixSample) (vmxBuffer : Samples VmxCapabilitySample) :
    DecodeOutcome :=
  let payload := input.drop header.headerSize.toNat
  let decoded := snapshotLayout.decode payload
  let behindSnapshot := payload.drop snapshotLayout.size
  let cpuCount := header.cpuSampleCount.toNat
  let cpuSamples := Layout.overwrite cpuBuffer.items 0
    (cpuSampleLayout.decodeAll cpuCount behindSnapshot)
  let behindCpuSamples := behindSnapshot.drop (cpuCount * cpuSampleLayout.size)
  let vmxCount := header.vmxSampleCount.toNat
  let vmxSamples := Layout.overwrite vmxBuffer.items 0
    (vmxSampleLayout.decodeAll vmxCount behindCpuSamples)
  if !isTargetEvidenceSnapshotValid (some decoded)
      (passOn cpuBuffer cpuSamples header.cpuSampleCount)
      (passOn vmxBuffer vmxSamples header.vmxSampleCount) then
    ⟨.SnapshotInvalid, snapshotLayout.zero,
      Layout.overwrite cpuSamples 0 (List.replicate cpuCount cpuSampleLayout.zero), 0,
      Layout.overwrite vmxSamples 0 (List.replicate vmxCount vmxSampleLayout.zero), 0⟩
  else
    ⟨.Success, decoded, cpuSamples, header.cpuSampleCount, vmxSamples, header.vmxSampleCount⟩

end Wire

def decodeTargetEvidenceSnapshotPackage (sha256 : Sha256) (input : Samples U8)
    (cpuBuffer : Samples CpuMatrixSample) (vmxBuffer : Samples VmxCapabilitySample) :
    DecodeOutcome :=
  let (status, header) := inspectTargetEvidenceSnapshotPackage input
  if status != .Success then cleared status cpuBuffer vmxBuffer
  else if cpuBuffer.count < header.cpuSampleCount || vmxBuffer.count < header.vmxSampleCount ||
      isMissing cpuBuffer header.cpuSampleCount || isMissing vmxBuffer header.vmxSampleCount then
    cleared .BufferTooSmall cpuBuffer vmxBuffer
  else
    match computeSha256 sha256 (input.items.take (covered header)) with
    | none => cleared .DigestUnavailable cpuBuffer vmxBuffer
    | some expected =>
      if !isDigestEqual expected (digestLayout.decode (input.items.drop (covered header))) then
        cleared .DigestMismatch cpuBuffer vmxBuffer
      else readPayload header input.items cpuBuffer vmxBuffer

end Knhv.Evidence
