import Mathlib.Algebra.Group.Nat.Defs
import Mathlib.Data.List.GetD
import Mathlib.Logic.Equiv.Defs
import Mathlib.Tactic.Ring

universe u v

/-- A value of fixed size in memory: its bytes, and the value that any bytes
stand for. Every value has one encoding, and every byte string of the size is
one. -/
structure Layout (α : Type u) where
  size : Nat
  encode : α → List (BitVec 8)
  decode : List (BitVec 8) → α
  length_encode : ∀ value, (encode value).length = size
  decode_append : ∀ value rest, decode (encode value ++ rest) = value
  encode_decode : ∀ bytes, size ≤ bytes.length → encode (decode bytes) = bytes.take size

namespace Layout

variable {α : Type u} {β : Type v}

/-- The value of no bytes: missing bytes are zero. -/
def zero (layout : Layout α) : α := layout.decode []

/-- The value of bytes with the lowest first. -/
def ofBytes : List (BitVec 8) → Nat
  | [] => 0
  | byte :: bytes => byte.toNat + 256 * ofBytes bytes

/-- The lowest bytes of a value, lowest first. -/
def toBytes : Nat → Nat → List (BitVec 8)
  | 0, _ => []
  | count + 1, value => BitVec.ofNat 8 value :: toBytes count (value / 256)

theorem length_toBytes (count value : Nat) : (toBytes count value).length = count := by
  induction count generalizing value with
  | zero => rfl
  | succ count ih => rw [toBytes, List.length_cons, ih]

theorem ofBytes_toBytes (count value : Nat) :
    ofBytes (toBytes count value) = value % 256 ^ count := by
  induction count generalizing value with
  | zero => rw [toBytes, ofBytes, pow_zero, Nat.mod_one]
  | succ count ih =>
    have low : (BitVec.ofNat 8 value).toNat = value % 256 := BitVec.toNat_ofNat value 8
    rw [toBytes, ofBytes, ih, low, pow_succ', Nat.mod_mul]

theorem toBytes_ofBytes (bytes : List (BitVec 8)) :
    toBytes bytes.length (ofBytes bytes) = bytes := by
  induction bytes with
  | nil => rfl
  | cons byte bytes ih =>
    have bound := byte.isLt
    have low : BitVec.ofNat 8 (byte.toNat + 256 * ofBytes bytes) = byte := by
      apply BitVec.eq_of_toNat_eq
      rw [BitVec.toNat_ofNat]
      omega
    have high : (byte.toNat + 256 * ofBytes bytes) / 256 = ofBytes bytes := by omega
    rw [List.length_cons, ofBytes, toBytes, low, high, ih]

theorem ofBytes_lt (bytes : List (BitVec 8)) : ofBytes bytes < 256 ^ bytes.length := by
  induction bytes with
  | nil => decide
  | cons byte bytes ih =>
    have bound := byte.isLt
    rw [ofBytes, List.length_cons, pow_succ']
    omega

/-- A little endian word. -/
def word (width count : Nat) (bits : 2 ^ width = 256 ^ count) : Layout (BitVec width) where
  size := count
  encode value := toBytes count value.toNat
  decode bytes := BitVec.ofNat width (ofBytes (bytes.take count))
  length_encode value := length_toBytes count value.toNat
  decode_append value rest := by
    have taken : (toBytes count value.toNat ++ rest).take count = toBytes count value.toNat :=
      List.take_left' (length_toBytes count value.toNat)
    apply BitVec.eq_of_toNat_eq
    rw [taken, ofBytes_toBytes, BitVec.toNat_ofNat, ← bits, Nat.mod_mod]
    exact Nat.mod_eq_of_lt value.isLt
  encode_decode bytes enough := by
    have length : (bytes.take count).length = count := List.length_take_of_le enough
    have bound := ofBytes_lt (bytes.take count)
    rw [length, ← bits] at bound
    rw [BitVec.toNat_ofNat, Nat.mod_eq_of_lt bound]
    exact (congrArg (toBytes · _) length.symm).trans (toBytes_ofBytes (bytes.take count))

/-- An array of bytes. -/
def bytes (count : Nat) : Layout (Fin count → BitVec 8) where
  size := count
  encode value := List.ofFn value
  decode bytes := fun index => bytes.getD index.val 0
  length_encode value := List.length_ofFn
  decode_append value rest := by
    funext index
    have inside : index.val < (List.ofFn value).length := by
      rw [List.length_ofFn]
      exact index.isLt
    rw [List.getD_append _ _ _ _ inside, List.getD_eq_getElem _ _ inside, List.getElem_ofFn]
  encode_decode bytes enough := by
    apply List.ext_getElem
    · rw [List.length_ofFn, List.length_take_of_le enough]
    · intro index inside _
      rw [List.length_ofFn] at inside
      rw [List.getElem_ofFn, List.getElem_take]
      exact List.getD_eq_getElem _ _ (inside.trans_le enough)

/-- Two values one behind the other. -/
def pair (first : Layout α) (second : Layout β) : Layout ((_ : α) × β) where
  size := first.size + second.size
  encode value := first.encode value.1 ++ second.encode value.2
  decode bytes := ⟨first.decode bytes, second.decode (bytes.drop first.size)⟩
  length_encode value := by
    rw [List.length_append, first.length_encode, second.length_encode]
  decode_append value rest := by
    have dropped : (first.encode value.1 ++ (second.encode value.2 ++ rest)).drop first.size =
        second.encode value.2 ++ rest :=
      List.drop_left' (first.length_encode value.1)
    rw [List.append_assoc, first.decode_append, dropped, second.decode_append]
  encode_decode bytes enough := by
    have behind : second.size ≤ (bytes.drop first.size).length := by
      rw [List.length_drop]
      omega
    rw [first.encode_decode bytes (by omega), second.encode_decode _ behind, List.take_add]

/-- The same bytes for an equivalent type. -/
def map (layout : Layout α) (same : α ≃ β) : Layout β where
  size := layout.size
  encode value := layout.encode (same.symm value)
  decode bytes := same (layout.decode bytes)
  length_encode value := layout.length_encode (same.symm value)
  decode_append value rest := by
    rw [layout.decode_append, same.apply_symm_apply]
  encode_decode bytes enough := by
    rw [same.symm_apply_apply, layout.encode_decode bytes enough]

/-- The bytes of a list, one value behind the other. -/
def encodeAll (layout : Layout α) (values : List α) : List (BitVec 8) :=
  values.flatMap layout.encode

/-- As many values as are asked for, one behind the other. -/
def decodeAll (layout : Layout α) : Nat → List (BitVec 8) → List α
  | 0, _ => []
  | count + 1, bytes => layout.decode bytes :: layout.decodeAll count (bytes.drop layout.size)

theorem length_encodeAll (layout : Layout α) (values : List α) :
    (layout.encodeAll values).length = values.length * layout.size := by
  induction values with
  | nil => rw [encodeAll, List.flatMap_nil, List.length_nil, List.length_nil, Nat.zero_mul]
  | cons value values ih =>
    rw [encodeAll, List.flatMap_cons, List.length_append, layout.length_encode, List.length_cons,
      ← encodeAll, ih]
    ring

theorem length_decodeAll (layout : Layout α) (count : Nat) (bytes : List (BitVec 8)) :
    (layout.decodeAll count bytes).length = count := by
  induction count generalizing bytes with
  | zero => rfl
  | succ count ih => rw [decodeAll, List.length_cons, ih]

theorem decodeAll_append (layout : Layout α) (values : List α) (rest : List (BitVec 8)) :
    layout.decodeAll values.length (layout.encodeAll values ++ rest) = values := by
  induction values with
  | nil => rfl
  | cons value values ih =>
    have dropped : (layout.encode value ++ (layout.encodeAll values ++ rest)).drop layout.size =
        layout.encodeAll values ++ rest :=
      List.drop_left' (layout.length_encode value)
    rw [encodeAll, List.flatMap_cons, List.append_assoc, List.length_cons, decodeAll,
      layout.decode_append, ← encodeAll, dropped, ih]

theorem encodeAll_decodeAll (layout : Layout α) (count : Nat) (bytes : List (BitVec 8))
    (enough : count * layout.size ≤ bytes.length) :
    layout.encodeAll (layout.decodeAll count bytes) = bytes.take (count * layout.size) := by
  induction count generalizing bytes with
  | zero => rw [Nat.zero_mul, List.take_zero]; rfl
  | succ count ih =>
    rw [Nat.add_mul, Nat.one_mul] at enough
    have behind : count * layout.size ≤ (bytes.drop layout.size).length := by
      rw [List.length_drop]
      omega
    rw [decodeAll, encodeAll, List.flatMap_cons, ← encodeAll, ih _ behind,
      layout.encode_decode bytes (by omega), Nat.add_mul, Nat.one_mul, Nat.add_comm, List.take_add]

/-- A value is read from its own bytes only. -/
theorem decode_take (layout : Layout α) {bytes : List (BitVec 8)}
    (enough : layout.size ≤ bytes.length) :
    layout.decode (bytes.take layout.size) = layout.decode bytes := by
  have back := layout.decode_append (layout.decode bytes) []
  rw [List.append_nil, layout.encode_decode bytes enough] at back
  exact back

/-- Values are read from their own bytes only. -/
theorem decodeAll_take (layout : Layout α) {count : Nat} {bytes : List (BitVec 8)}
    (enough : count * layout.size ≤ bytes.length) :
    layout.decodeAll count (bytes.take (count * layout.size)) = layout.decodeAll count bytes := by
  have back := layout.decodeAll_append (layout.decodeAll count bytes) []
  rw [List.append_nil, layout.encodeAll_decodeAll count bytes enough,
    layout.length_decodeAll] at back
  exact back

/-- Bytes that are copied over others from a position on. -/
def overwrite (target : List α) (position : Nat) (source : List α) : List α :=
  target.take position ++ source ++ target.drop (position + source.length)

/-- Copying on behind what has been copied. -/
theorem overwrite_behind {front rest source : List α} {position : Nat}
    (behind : front.length = position) :
    overwrite (front ++ rest) position source = front ++ source ++ rest.drop source.length := by
  subst behind
  rw [overwrite, List.take_left, List.drop_length_add_append]

end Layout

/-- A type with a layout. A structure has the fields in the order of their
declaration, without padding: it is read off its equivalence with the sum of
its fields. -/
class HasLayout (α : Type u) where
  layout : Layout α

namespace HasLayout

variable {α : Type u} {β : Type v}

instance : HasLayout (BitVec 32) := ⟨.word 32 4 (by decide)⟩

instance : HasLayout (BitVec 64) := ⟨.word 64 8 (by decide)⟩

instance (count : Nat) : HasLayout (Fin count → BitVec 8) := ⟨.bytes count⟩

instance [HasLayout α] [HasLayout β] : HasLayout ((_ : α) × β) := ⟨.pair layout layout⟩

abbrev ofEquiv [HasLayout α] (same : α ≃ β) : HasLayout β := ⟨layout.map same⟩

end HasLayout
