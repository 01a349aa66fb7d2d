import RowSink.Message.Scalar
import RowSink.Row.ConversionError
import RowSink.Row.Instant
import RowSink.Table.RowType

/-!
# Coercion of scalars

A scalar is stored in a column of another kind where the kind can represent it: an integer exactly
or not at all, a floating-point number only if it is finite, and either one as text.
-/

namespace RowSink

/-- The text of an integer. -/
def integerText (value : Int) : String :=
  String.ofList (Number.signed value)

namespace Column

def invalidValue (column : Column) (reason : String) : ConversionError :=
  .invalidValue column.name reason

def mismatch (column : Column) (reason : String) : ConversionError :=
  .mismatch column.name reason

/-- The error of a value whose kind the column cannot hold. -/
def cannotStore (column : Column) (value : Scalar) : ConversionError :=
  column.mismatch
    ("cannot store " ++ value.detail ++ " in a " ++ column.kind.display ++ " column")

def outOfRange (column : Column) (value : Int) : ConversionError :=
  column.invalidValue
    (integerText value ++ " is out of range for a " ++ column.kind.display ++ " column")

end Column

/-- Whether an integer has a signed form of that many bits. -/
def fitsSigned (bits : Nat) (value : Int) : Bool :=
  -(Nat.pow 2 (bits - 1) : Int) ≤ value && value < (Nat.pow 2 (bits - 1) : Int)

namespace Scalar

/-- Whether the value is a floating-point number without a finite value. -/
def isNonFinite (value : Scalar) : Bool :=
  match value.toDouble? with
  | some bits => !Number.binary64.isFinite bits.toNat
  | none => false

/-- The nearest double-precision number of a number. -/
def asDouble? (value : Scalar) : Option Scalar :=
  match value.toDouble? with
  | some bits => some (.double bits)
  | none => value.toInt?.map fun int => .double (UInt64.ofNat (Number.binary64.ofInt int))

/-- A text as it is, a number as its text. -/
def asText? (value : Scalar) : Option Scalar :=
  match value with
  | .string text => some (.string text)
  | other =>
    match other.toDouble? with
    | some bits =>
      some (.string (Number.textOfBits Number.binary64 Number.plainStyle bits.toNat))
    | none => other.toInt?.map fun int => .string (integerText int)

def asBytes? : Scalar → Option Scalar
  | .bytes content => some (.bytes content)
  | .string text => some (.bytes (Bytes.ofText text))
  | _ => none

def asBool? : Scalar → Option Scalar
  | .bool flag => some (.bool flag)
  | _ => none

end Scalar

namespace Column

/-- Stores an integer if the column is wide enough. -/
def narrow (column : Column) (bits : Nat) (wrap : Int → Scalar) (value : Scalar) :
    Except ConversionError Scalar :=
  match value.toInt? with
  | none => .error (column.cannotStore value)
  | some int => if fitsSigned bits int then .ok (wrap int) else .error (column.outOfRange int)

/-- Stores a value that has been brought to the kind of the column, if it could be. -/
def storing (column : Column) (value : Scalar) (coerced : Option Scalar) :
    Except ConversionError Scalar :=
  match coerced with
  | some stored => .ok stored
  | none => .error (column.cannotStore value)

/-- The value as the column stores it. -/
def coerce (column : Column) (value : Scalar) : Except ConversionError Scalar :=
  if value.isNonFinite then
    .error (column.invalidValue
      (Number.textOfBits Number.binary64 Number.plainStyle ((value.toDouble?.getD 0).toNat) ++
        " is not a finite number"))
  else
    match column.kind with
    | .double => column.storing value value.asDouble?
    | .bool => column.storing value value.asBool?
    | .string => column.storing value value.asText?
    | .bytes => column.storing value value.asBytes?
    | .int64 => column.narrow 64 (fun int => .int64 (Int64.ofInt int)) value
    | .int32 => column.narrow 32 (fun int => .int32 (Int32.ofInt int)) value
    | .record _ => .error (column.cannotStore value)

end Column

end RowSink
