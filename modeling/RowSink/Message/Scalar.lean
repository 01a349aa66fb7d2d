import RowSink.Number.DecimalText
import RowSink.Text.Quoted
import RowSink.Wire.Region

/-!
# Scalars

The values a protobuf field can hold on its own, the encodings they are declared with, and reading
and writing them. Floating-point numbers are kept as bit patterns, so no value is ever rounded by
being carried along.
-/

namespace RowSink

open Wire

/-- The declared encodings of scalar fields. -/
inductive ScalarKind where
  | double
  | float
  | int32
  | int64
  | uint32
  | uint64
  | sint32
  | sint64
  | fixed32
  | fixed64
  | sfixed32
  | sfixed64
  | bool
  | string
  | bytes
  deriving DecidableEq, Repr

inductive Scalar where
  | double (bits : UInt64)
  | float (bits : UInt32)
  | int32 (value : Int32)
  | int64 (value : Int64)
  | uint32 (value : UInt32)
  | uint64 (value : UInt64)
  | bool (value : Bool)
  | string (value : String)
  | bytes (value : Bytes)
  deriving DecidableEq

namespace ScalarKind

def wireType : ScalarKind → WireType
  | double | fixed64 | sfixed64 => .sixtyFourBit
  | float | fixed32 | sfixed32 => .thirtyTwoBit
  | string | bytes => .lengthDelimited
  | _ => .varint

/-- Whether a repeated field of this kind may come packed into one region. -/
def isPackable (kind : ScalarKind) : Bool :=
  kind.wireType != .lengthDelimited

/-- The value of a field that is not there. -/
def default : ScalarKind → Scalar
  | double => .double 0
  | float => .float 0
  | int32 | sint32 | sfixed32 => .int32 0
  | int64 | sint64 | sfixed64 => .int64 0
  | uint32 | fixed32 => .uint32 0
  | uint64 | fixed64 => .uint64 0
  | bool => .bool false
  | string => .string ""
  | bytes => .bytes []

/-- The integer of which a word is the zigzag form: 0, -1, 1, -2, 2 and so on. -/
def unzigzag (word : Nat) : Int :=
  if word % 2 = 0 then (word / 2 : Nat) else -((word / 2 : Nat) : Int) - 1

/-- The value of a variable-length word. -/
def ofWord : ScalarKind → Nat → Scalar
  | int32, word => .int32 (Int32.ofNat word)
  | int64, word => .int64 (Int64.ofNat word)
  | uint32, word => .uint32 (UInt32.ofNat word)
  | uint64, word => .uint64 (UInt64.ofNat word)
  | sint32, word => .int32 (Int32.ofInt (unzigzag (word % UInt32.size)))
  | sint64, word => .int64 (Int64.ofInt (unzigzag word))
  | bool, word => .bool (word != 0)
  | kind, _ => kind.default

/-- The value of a fixed-width word. -/
def ofFixed : ScalarKind → Nat → Scalar
  | double, word => .double (UInt64.ofNat word)
  | float, word => .float (UInt32.ofNat word)
  | fixed32, word => .uint32 (UInt32.ofNat word)
  | fixed64, word => .uint64 (UInt64.ofNat word)
  | sfixed32, word => .int32 (Int32.ofNat word)
  | sfixed64, word => .int64 (Int64.ofNat word)
  | kind, _ => kind.default

/-- The value of a delimited region. -/
def ofRegion : ScalarKind → Bytes → Except DecodeError Scalar
  | string, content =>
    match Bytes.toText? content with
    | some text => .ok (.string text)
    | none => fail .invalidText
  | bytes, content => .ok (.bytes content)
  | kind, _ => .ok kind.default

/-- Reads a value whose wire type has been checked. -/
def readValue (kind : ScalarKind) (input : Bytes) : Read Scalar :=
  match kind.wireType with
  | .varint =>
    match readVarint input with
    | .error error => .error error
    | .ok (word, rest) => .ok (kind.ofWord word, rest)
  | .thirtyTwoBit =>
    match readFixed 4 input with
    | .error error => .error error
    | .ok (word, rest) => .ok (kind.ofFixed word, rest)
  | .sixtyFourBit =>
    match readFixed 8 input with
    | .error error => .error error
    | .ok (word, rest) => .ok (kind.ofFixed word, rest)
  | _ =>
    match readDelimited input with
    | .error error => .error error
    | .ok (content, rest) =>
      match kind.ofRegion content with
      | .error error => .error error
      | .ok value => .ok (value, rest)

/-- Reads a value of the given wire type. -/
def read (kind : ScalarKind) (wireType : WireType) (input : Bytes) : Read Scalar :=
  match expectWireType kind.wireType wireType with
  | .error error => .error error
  | .ok () => kind.readValue input

end ScalarKind

namespace Scalar

/-- The encoding a value is written with. Zigzag and fixed-width integers are only ever read. -/
def kind : Scalar → ScalarKind
  | double _ => .double
  | float _ => .float
  | int32 _ => .int32
  | int64 _ => .int64
  | uint32 _ => .uint32
  | uint64 _ => .uint64
  | bool _ => .bool
  | string _ => .string
  | bytes _ => .bytes

/-- Whether a field without presence counts as absent with this value. A negative zero does. -/
def isDefault : Scalar → Bool
  | double bits => bits == 0 || bits == 0x8000000000000000
  | float bits => bits == 0 || bits == 0x80000000
  | int32 value => value == 0
  | int64 value => value == 0
  | uint32 value => value == 0
  | uint64 value => value == 0
  | bool value => !value
  | string value => value == ""
  | bytes value => value.isEmpty

/-- The bytes of a value, without a key. A negative integer is written as its 64-bit word. -/
def write : Scalar → Bytes
  | double bits => Bytes.littleEndian 8 bits.toNat
  | float bits => Bytes.littleEndian 4 bits.toNat
  | int32 value => writeVarint value.toInt64.toUInt64.toNat
  | int64 value => writeVarint value.toUInt64.toNat
  | uint32 value => writeVarint value.toNat
  | uint64 value => writeVarint value.toNat
  | bool value => writeVarint value.toNat
  | string value => writeDelimited (Bytes.ofText value)
  | bytes value => writeDelimited value

/-- The integer a value stands for, if it is one. -/
def toInt? : Scalar → Option Int
  | int32 value => some value.toInt
  | int64 value => some value.toInt
  | uint32 value => some value.toNat
  | uint64 value => some value.toNat
  | _ => none

/-- The double-precision pattern of a floating-point value. A single-precision one is widened
through its shortest decimal. -/
def toDouble? : Scalar → Option UInt64
  | double bits => some bits
  | float bits => some (UInt64.ofNat (Number.widen bits.toNat))
  | _ => none

/-- A value as it is named in messages: its type and its content. -/
def detail : Scalar → String
  | double bits => "F64(" ++ Number.textOfBits Number.binary64 Number.detailStyle bits.toNat ++ ")"
  | float bits => "F32(" ++ Number.textOfBits Number.binary32 Number.detailStyle bits.toNat ++ ")"
  | int32 value => "I32(" ++ String.ofList (Number.signed value.toInt) ++ ")"
  | int64 value => "I64(" ++ String.ofList (Number.signed value.toInt) ++ ")"
  | uint32 value => "U32(" ++ String.ofList (Number.digits value.toNat) ++ ")"
  | uint64 value => "U64(" ++ String.ofList (Number.digits value.toNat) ++ ")"
  | bool value => if value then "Bool(true)" else "Bool(false)"
  | string value => "String(" ++ Text.quote value ++ ")"
  | bytes value => "Bytes(" ++ Text.quoteBytes value ++ ")"

/-- Reading a value that has been written gives it back. -/
theorem readValue_write (value : Scalar) (rest : Bytes)
    (hlength : ∀ content, value = .bytes content → content.length < UInt64.size)
    (htext : ∀ text, value = .string text → (Bytes.ofText text).length < UInt64.size) :
    value.kind.readValue (value.write ++ rest) = .ok (value, rest) := by
  cases value with
  | double bits =>
    have hword := readFixed_littleEndian 8 bits.toNat rest bits.toNat_lt_size
    simp [kind, ScalarKind.readValue, ScalarKind.wireType, write, hword, ScalarKind.ofFixed]
  | float bits =>
    have hword := readFixed_littleEndian 4 bits.toNat rest bits.toNat_lt_size
    simp [kind, ScalarKind.readValue, ScalarKind.wireType, write, hword, ScalarKind.ofFixed]
  | int32 value =>
    have hword := readVarint_writeVarint value.toInt64.toUInt64.toNat rest
      value.toInt64.toUInt64.toNat_lt_size
    have hback : Int32.ofNat value.toInt64.toUInt64.toNat = value := by
      apply Int32.toBitVec_inj.mp
      change BitVec.ofNat 32 (value.toBitVec.signExtend 64).toNat = value.toBitVec
      apply BitVec.eq_of_getLsbD_eq
      intro index hindex
      simp only [BitVec.ofNat_toNat, BitVec.getLsbD_setWidth, BitVec.getLsbD_signExtend, hindex,
        decide_true, Bool.true_and, if_true]
      simp only [show index < 64 by omega, decide_true, Bool.true_and]
    simp [kind, ScalarKind.readValue, ScalarKind.wireType, write, hword, ScalarKind.ofWord, hback]
  | int64 value =>
    have hword := readVarint_writeVarint value.toUInt64.toNat rest value.toUInt64.toNat_lt_size
    have hback : Int64.ofNat value.toUInt64.toNat = value := by
      apply Int64.toBitVec_inj.mp
      simp
    simp [kind, ScalarKind.readValue, ScalarKind.wireType, write, hword, ScalarKind.ofWord, hback]
  | uint32 value =>
    have hword := readVarint_writeVarint value.toNat rest
      (Nat.lt_trans value.toNat_lt_size (by decide))
    simp [kind, ScalarKind.readValue, ScalarKind.wireType, write, hword, ScalarKind.ofWord]
  | uint64 value =>
    have hword := readVarint_writeVarint value.toNat rest value.toNat_lt_size
    simp [kind, ScalarKind.readValue, ScalarKind.wireType, write, hword, ScalarKind.ofWord]
  | bool value =>
    have hword := readVarint_writeVarint value.toNat rest (by cases value <;> decide)
    simp only [kind, ScalarKind.readValue, ScalarKind.wireType, write, hword, ScalarKind.ofWord]
    cases value <;> rfl
  | string value =>
    have hregion := readDelimited_writeDelimited (Bytes.ofText value) rest (htext value rfl)
    simp [kind, ScalarKind.readValue, ScalarKind.wireType, write, hregion, ScalarKind.ofRegion,
      Bytes.toText?_ofText]
  | bytes value =>
    have hregion := readDelimited_writeDelimited value rest (hlength value rfl)
    simp [kind, ScalarKind.readValue, ScalarKind.wireType, write, hregion, ScalarKind.ofRegion]

end Scalar

end RowSink
