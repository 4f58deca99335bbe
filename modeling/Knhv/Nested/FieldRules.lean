import Knhv.Nested.Types
import Mathlib.Data.Fin.Tuple.Basic

namespace Knhv.Nested

/-! Field encodings of the virtual VMCS and the rule table that gives each of
them its width, its writability and its checks. -/

def kVmcsFieldVpid : U32 := 0x0000
def kVmcsFieldEptpIndex : U32 := 0x0004
def kVmcsFieldIoBitmapA : U32 := 0x2000
def kVmcsFieldIoBitmapB : U32 := 0x2002
def kVmcsFieldMsrBitmap : U32 := 0x2004
def kVmcsFieldEptPointer : U32 := 0x201A
def kVmcsFieldVpidAddress : U32 := 0x201C
def kVmcsFieldPinControls : U32 := 0x4000
def kVmcsFieldPrimaryControls : U32 := 0x4002
def kVmcsFieldExceptionBitmap : U32 := 0x4004
def kVmcsFieldExitControls : U32 := 0x400C
def kVmcsFieldEntryControls : U32 := 0x4012
def kVmcsFieldSecondaryControls : U32 := 0x401E
def kVmcsFieldInstructionError : U32 := 0x4400
def kVmcsFieldExitReason : U32 := 0x4402
def kVmcsFieldExitQualification : U32 := 0x6400
def kVmcsFieldGuestCr0 : U32 := 0x6800
def kVmcsFieldGuestCr3 : U32 := 0x6802
def kVmcsFieldGuestCr4 : U32 := 0x6804
def kVmcsFieldGuestRsp : U32 := 0x681C
def kVmcsFieldGuestRip : U32 := 0x681E
def kVmcsFieldGuestRflags : U32 := 0x6820
def kVmcsFieldHostCr0 : U32 := 0x6C00
def kVmcsFieldHostCr3 : U32 := 0x6C02
def kVmcsFieldHostCr4 : U32 := 0x6C04
def kVmcsFieldHostRsp : U32 := 0x6C14
def kVmcsFieldHostRip : U32 := 0x6C16

inductive FieldControlKind
  | None | Pin | Primary | Secondary | Exit | Entry
  deriving DecidableEq, Repr

structure FieldRule where
  encoding : U32
  width : U8
  writable : Bool
  controlKind : FieldControlKind
  cleanGroup : U8
  reservedZeroMask : U64
  reservedOneMask : U64
  deriving DecidableEq

def kMask16 : U64 := ~~~0xFFFF
def kMask32 : U64 := ~~~0xFFFFFFFF

def kFieldRules : List FieldRule :=
  [⟨kVmcsFieldVpid, 2, true, .None, 0, kMask16, 0⟩,
   ⟨kVmcsFieldEptpIndex, 2, true, .None, 0, kMask16, 0⟩,
   ⟨kVmcsFieldIoBitmapA, 8, true, .None, 1, 0, 0⟩,
   ⟨kVmcsFieldIoBitmapB, 8, true, .None, 1, 0, 0⟩,
   ⟨kVmcsFieldMsrBitmap, 8, true, .None, 1, 0, 0⟩,
   ⟨kVmcsFieldEptPointer, 8, true, .None, 1, 0xFFF, 0⟩,
   ⟨kVmcsFieldVpidAddress, 8, true, .None, 1, 0xFFF, 0⟩,
   ⟨kVmcsFieldPinControls, 4, true, .Pin, 0, kMask32, 0⟩,
   ⟨kVmcsFieldPrimaryControls, 4, true, .Primary, 0, kMask32, 0⟩,
   ⟨kVmcsFieldExceptionBitmap, 4, true, .None, 0, kMask32, 0⟩,
   ⟨kVmcsFieldExitControls, 4, true, .Exit, 0, kMask32, 0⟩,
   ⟨kVmcsFieldEntryControls, 4, true, .Entry, 0, kMask32, 0⟩,
   ⟨kVmcsFieldSecondaryControls, 4, true, .Secondary, 0, kMask32, 0⟩,
   ⟨kVmcsFieldInstructionError, 4, false, .None, 0, kMask32, 0⟩,
   ⟨kVmcsFieldExitReason, 4, false, .None, 0, kMask32, 0⟩,
   ⟨kVmcsFieldExitQualification, 8, false, .None, 0, 0, 0⟩,
   ⟨kVmcsFieldGuestCr0, 8, true, .None, 2, 0, 0⟩,
   ⟨kVmcsFieldGuestCr3, 8, true, .None, 2, 0, 0⟩,
   ⟨kVmcsFieldGuestCr4, 8, true, .None, 2, 0, 0⟩,
   ⟨kVmcsFieldGuestRsp, 8, true, .None, 2, 0, 0⟩,
   ⟨kVmcsFieldGuestRip, 8, true, .None, 2, 0, 0⟩,
   ⟨kVmcsFieldGuestRflags, 8, true, .None, 2, 0, 0⟩,
   ⟨kVmcsFieldHostCr0, 8, true, .None, 3, 0, 0⟩,
   ⟨kVmcsFieldHostCr3, 8, true, .None, 3, 0, 0⟩,
   ⟨kVmcsFieldHostCr4, 8, true, .None, 3, 0, 0⟩,
   ⟨kVmcsFieldHostRsp, 8, true, .None, 3, 0, 0⟩,
   ⟨kVmcsFieldHostRip, 8, true, .None, 3, 0, 0⟩,
   ⟨0x2800, 8, true, .None, 1, 0, 0⟩,
   ⟨0x2802, 8, true, .None, 1, 0, 0⟩,
   ⟨0x2804, 8, true, .None, 1, 0, 0⟩,
   ⟨0x2806, 8, true, .None, 1, 0, 0⟩,
   ⟨0x2808, 8, true, .None, 1, 0, 0⟩,
   ⟨0x4006, 4, true, .None, 0, kMask32, 0⟩,
   ⟨0x4008, 4, true, .None, 0, kMask32, 0⟩,
   ⟨0x400A, 4, true, .None, 0, kMask32, 0⟩,
   ⟨0x4014, 4, true, .None, 0, kMask32, 0⟩,
   ⟨0x4016, 4, true, .None, 0, kMask32, 0⟩,
   ⟨0x4018, 4, true, .None, 0, kMask32, 0⟩,
   ⟨0x401A, 4, true, .None, 0, kMask32, 0⟩,
   ⟨0x401C, 4, true, .None, 0, kMask32, 0⟩,
   ⟨0x4404, 4, false, .None, 0, kMask32, 0⟩,
   ⟨0x4406, 4, false, .None, 0, kMask32, 0⟩,
   ⟨0x4408, 4, false, .None, 0, kMask32, 0⟩,
   ⟨0x440A, 4, false, .None, 0, kMask32, 0⟩,
   ⟨0x440C, 4, false, .None, 0, kMask32, 0⟩,
   ⟨0x440E, 4, false, .None, 0, kMask32, 0⟩,
   ⟨0x4800, 4, true, .None, 0, kMask32, 0⟩,
   ⟨0x4802, 4, true, .None, 0, kMask32, 0⟩,
   ⟨0x4804, 4, true, .None, 0, kMask32, 0⟩,
   ⟨0x4806, 4, true, .None, 0, kMask32, 0⟩,
   ⟨0x4808, 4, true, .None, 0, kMask32, 0⟩,
   ⟨0x480A, 4, true, .None, 0, kMask32, 0⟩,
   ⟨0x4824, 4, true, .None, 0, kMask32, 0⟩,
   ⟨0x4826, 4, true, .None, 0, kMask32, 0⟩,
   ⟨0x6806, 8, true, .None, 2, 0, 0⟩,
   ⟨0x6808, 8, true, .None, 2, 0, 0⟩,
   ⟨0x680A, 8, true, .None, 2, 0, 0⟩,
   ⟨0x680C, 8, true, .None, 2, 0, 0⟩,
   ⟨0x680E, 8, true, .None, 2, 0, 0⟩,
   ⟨0x6810, 8, true, .None, 2, 0, 0⟩,
   ⟨0x681A, 8, true, .None, 2, 0, 0⟩,
   ⟨0x6822, 8, true, .None, 2, 0, 0⟩]

def kFieldRuleCount : Nat := kFieldRules.length

/-- A pointer into the rule table. -/
abbrev FieldRulePtr := Fin kFieldRuleCount

def fieldRule (rule : FieldRulePtr) : FieldRule := kFieldRules.get rule

def findFieldRule (encoding : U32) : Option FieldRulePtr :=
  Fin.find? fun rule => (fieldRule rule).encoding == encoding

/-- The slot of a rule's value. The table is shorter than the slot's field
array, so the out-of-range result of the source does not arise. -/
def fieldIndex (rule : FieldRulePtr) : Fin kNestedVmcsFields :=
  ⟨rule.val, lt_of_lt_of_le rule.isLt (by decide)⟩

def fieldMask (width : U8) : U64 :=
  if width = 2 then 0xFFFF else if width = 4 then 0xFFFFFFFF else ~~~0

theorem fieldRule_encoding_injective {first second : FieldRulePtr}
    (same : (fieldRule first).encoding = (fieldRule second).encoding) : first = second := by
  have table : ∀ i j : FieldRulePtr, (fieldRule i).encoding = (fieldRule j).encoding → i = j := by
    decide +kernel
  exact table first second same

theorem findFieldRule_eq_some {encoding : U32} {rule : FieldRulePtr} :
    findFieldRule encoding = some rule ↔ (fieldRule rule).encoding = encoding := by
  simp only [findFieldRule, Fin.find?_eq_some_iff, beq_iff_eq]
  constructor
  · exact fun found => found.1
  · intro same
    refine ⟨same, fun earlier before => ?_⟩
    rw [beq_eq_false_iff_ne]
    intro equal
    exact before.ne (fieldRule_encoding_injective (equal.trans same.symm))

-- from here on a lookup is known by what it finds: unfolding the search of a
-- symbolic encoding is a chain of 62 comparisons
attribute [irreducible] findFieldRule

theorem fieldIndex_injective {first second : FieldRulePtr}
    (same : fieldIndex first = fieldIndex second) : first = second := by
  have values : (fieldIndex first).val = (fieldIndex second).val := congrArg Fin.val same
  exact Fin.ext values

/-- No rule demands a bit: the reserved-one masks are all empty. -/
theorem fieldRule_reservedOneMask (rule : FieldRulePtr) : (fieldRule rule).reservedOneMask = 0 := by
  have table : ∀ rule : FieldRulePtr, (fieldRule rule).reservedOneMask = 0 := by decide +kernel
  exact table rule

end Knhv.Nested
