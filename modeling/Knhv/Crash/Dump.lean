import Knhv.Abi

namespace Knhv.Crash

/-- The reasons a bugcheck callback can be called for, as far as this one tells
them apart. -/
inductive CallbackReason
  | secondaryMultiPartDumpData | other
  deriving DecidableEq, Repr

structure Guid where
  data1 : U32
  data2 : U16
  data3 : U16
  data4 : List U8
  deriving DecidableEq, Repr

def kCrashBlobGuid : Guid :=
  { data1 := 0xC6A3D9F0, data2 := 0x2F6F, data3 := 0x4E4A,
    data4 := [0xA5, 0x9E, 0x61, 0x34, 0x12, 0x88, 0x4B, 0xE6] }

/-- `Flags` of the dump data, by the names of its bits. -/
structure DumpFlags where
  additionalData : Bool
  noDeviceAccess : Bool
  deriving DecidableEq, Repr

def DumpFlags.empty : DumpFlags := { additionalData := false, noDeviceAccess := true }

structure BugcheckParameters where
  code : U64
  parameter1 : U64
  parameter2 : U64
  parameter3 : U64
  parameter4 : U64
  deriving DecidableEq, Repr

/-- `KBUGCHECK_SECONDARY_DUMP_DATA_EX`, which the dump writer fills in and the
callback answers in. Pointers are addresses, null is 0. -/
structure SecondaryDumpData where
  maximumAllowed : U32
  bugCheck : BugcheckParameters
  guid : Guid
  outBuffer : U64
  outBufferLength : U32
  flags : DumpFlags
  context : U64
  deriving DecidableEq, Repr

def hvCrashBlobCaptureIdle : U32 := 0
def hvCrashBlobCaptureWriting : U32 := 1
def hvCrashBlobCaptureCommitted : U32 := 2

def maxUlong : U64 := 0xFFFFFFFF

/-- The globals of the dump callback and the memory they point into. `captures`
records the calls of `CaptureHvCrashBlob`, oldest first. -/
structure CrashGlobals where
  hvCrashBlob : U64
  hvCrashBlobSize : U64
  hvCrashBlobCaptured : U32
  memory : U64 → U8
  captures : List BugcheckParameters

/-- `CaptureHvCrashBlob`: what it writes over the blob it finds is a parameter,
the callback only passes it on. -/
def captureHvCrashBlob (fill : BugcheckParameters → (U64 → U8) → U64 → U8)
    (bugCheck : BugcheckParameters) (s : CrashGlobals) : CrashGlobals :=
  let called := { s with captures := s.captures ++ [bugCheck] }
  if s.hvCrashBlob = 0 then called
  else { called with memory := fill bugCheck s.memory }

/-- The answer that carries no data and ends the transaction. -/
def answerEmpty (outBuffer : U64) (data : SecondaryDumpData) : SecondaryDumpData :=
  { data with
    guid := kCrashBlobGuid, outBuffer := outBuffer, outBufferLength := 0, flags := .empty,
    context := 0 }

/-- The answer once the blob is committed. -/
def answerChunk (s : CrashGlobals) (data : SecondaryDumpData) : SecondaryDumpData :=
  let base := s.hvCrashBlob
  let cursor := data.context
  if s.hvCrashBlob = 0 ∨ s.hvCrashBlobSize = 0 then answerEmpty 0 data
  else if s.hvCrashBlobSize ≤ cursor then answerEmpty (base + s.hvCrashBlobSize) data
  else
    let maxAllowed := data.maximumAllowed
    let remaining : U32 :=
      (if s.hvCrashBlobSize - cursor < maxUlong then s.hvCrashBlobSize - cursor
        else maxUlong).setWidth 32
    if maxAllowed = 0 ∧ remaining ≠ 0 then answerEmpty 0 data
    else
      let copyLength := if remaining ≤ maxAllowed then remaining else maxAllowed
      let answer : SecondaryDumpData :=
        { data with
          guid := kCrashBlobGuid, outBuffer := base + cursor, outBufferLength := copyLength,
          flags := .empty }
      if copyLength < remaining then
        { answer with
          flags := { DumpFlags.empty with additionalData := true }
          context := cursor + copyLength.setWidth 64 }
      else { answer with context := 0 }

/-- `dataSize` is the size of the structure that the dump writer passes. -/
def hvSecondaryDumpDataCallback (fill : BugcheckParameters → (U64 → U8) → U64 → U8)
    (dataSize : U32) (reason : CallbackReason) (reasonSpecificData : Option SecondaryDumpData)
    (reasonSpecificDataLength : U32) (s : CrashGlobals) :
    Option SecondaryDumpData × CrashGlobals :=
  if reason ≠ .secondaryMultiPartDumpData then (reasonSpecificData, s)
  else
    match reasonSpecificData with
    | none => (none, s)
    | some data =>
      if reasonSpecificDataLength < dataSize then (some data, s)
      else if s.hvCrashBlobCaptured = hvCrashBlobCaptureIdle then
        let writing := { s with hvCrashBlobCaptured := hvCrashBlobCaptureWriting }
        let captured := captureHvCrashBlob fill data.bugCheck writing
        let committed := { captured with hvCrashBlobCaptured := hvCrashBlobCaptureCommitted }
        (some (answerChunk committed data), committed)
      else if s.hvCrashBlobCaptured = hvCrashBlobCaptureWriting then (some (answerEmpty 0 data), s)
      else if s.hvCrashBlobCaptured ≠ hvCrashBlobCaptureCommitted then
        (some (answerEmpty 0 data), s)
      else (some (answerChunk s data), s)

/-- The dump writer: it calls again with the context it got back for as long as
there is additional data, at most `fuel` times. Request `k` is what it passes in
its call number `k`. -/
def collectDump (fill : BugcheckParameters → (U64 → U8) → U64 → U8) (dataSize : U32)
    (requests : Nat → SecondaryDumpData) :
    Nat → Nat → U64 → CrashGlobals → Option (List SecondaryDumpData × CrashGlobals)
  | 0, _, _, _ => none
  | fuel + 1, call, context, s =>
    let data := { requests call with context := context }
    match hvSecondaryDumpDataCallback fill dataSize .secondaryMultiPartDumpData (some data)
      dataSize s with
    | (none, now) => some ([], now)
    | (some answer, now) =>
      if answer.flags.additionalData then
        match collectDump fill dataSize requests fuel (call + 1) answer.context now with
        | none => none
        | some (rest, after) => some (answer :: rest, after)
      else some ([answer], now)

end Knhv.Crash
