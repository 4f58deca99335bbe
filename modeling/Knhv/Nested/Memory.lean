import Knhv.Nested.Types

namespace Knhv.Nested

variable {σ : Type}

/-- The word that a little-endian processor loads from these bytes. -/
def loadWord (width : Nat) (bytes : List U8) : BitVec width :=
  bytes.foldr (fun byte word => (word <<< 8) ||| byte.setWidth width) 0

/-- The bytes that a little-endian processor stores for a 64-bit word. -/
def storeWord (value : U64) : List U8 :=
  (List.range 8).map fun index => (value >>> (8 * index)).setWidth 8

def translateLinear (memory : NestedMemory σ) (linear : U64) (access : NestedMemoryAccess) :
    Option U64 × σ :=
  match memory.translate with
  | none => (none, memory.context)
  | some translate => translate memory.context linear access

/-- How much of `remaining` lies on the linear page of `current`. -/
def pageChunk (current : U64) (remaining : U32) : U32 :=
  let pageOffset : U32 := (current &&& (kNestedPageSize.setWidth 64 - 1)).setWidth 32
  if remaining < kNestedPageSize - pageOffset then remaining else kNestedPageSize - pageOffset

/-- The page-splitting loop that `ReadLinear` and `WriteLinear` share. The
callback `transfer` moves one chunk: it sees how many bytes are done, the
chunk length and the translated address. Each round moves at least one byte,
so a `fuel` of `remaining` never runs out. -/
def transferLoop (memory : NestedMemory σ) (access : NestedMemoryAccess)
    (transfer : Nat → U32 → U64 → σ → Option (List U8) × σ) (fuel : Nat) (done : Nat)
    (remaining : U32) (current : U64) (context : σ) : Option (List U8) × σ :=
  if remaining = 0 then (some [], context) else
  match fuel with
  | 0 => (none, context)
  | fuel + 1 =>
    match translateLinear { memory with context := context } current access with
    | (none, context) => (none, context)
    | (some guestPhysical, context) =>
      let chunk := pageChunk current remaining
      if chunk = 0 then (none, context) else
      match transfer done chunk guestPhysical context with
      | (none, context) => (none, context)
      | (some bytes, context) =>
        -- the source only advances the address when another round follows
        if remaining - chunk ≠ 0 ∧ ~~~0 - chunk.setWidth 64 < current then (none, context) else
        match transferLoop memory access transfer fuel (done + chunk.toNat) (remaining - chunk)
            (current + chunk.setWidth 64) context with
        | (none, context) => (none, context)
        | (some rest, context) => (some (bytes ++ rest), context)

def readLinear (memory : NestedMemory σ) (linear : U64) (length : U32)
    (access : NestedMemoryAccess) : Option (List U8) × σ :=
  match memory.read with
  | none => (none, memory.context)
  | some read =>
    if length = 0 ∨ memory.translate.isNone then (none, memory.context) else
    transferLoop memory access
      (fun _ chunk guestPhysical context =>
        match read context guestPhysical chunk with
        | (none, context) => (none, context)
        | (some bytes, context) => (some ((List.range chunk.toNat).map bytes), context))
      length.toNat 0 length linear memory.context

def writeLinear (memory : NestedMemory σ) (linear : U64) (buffer : List U8) (length : U32) :
    Bool × σ :=
  match memory.write with
  | none => (false, memory.context)
  | some write =>
    if length = 0 ∨ memory.translate.isNone then (false, memory.context) else
    match transferLoop memory .Write
        (fun done chunk guestPhysical context =>
          match write context guestPhysical ((buffer.drop done).take chunk.toNat) with
          | (false, context) => (none, context)
          | (true, context) => (some [], context))
        length.toNat 0 length linear memory.context with
    | (none, context) => (false, context)
    | (some _, context) => (true, context)

end Knhv.Nested
