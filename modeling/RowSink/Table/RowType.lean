import RowSink.Table.Schema
import RowSink.Text.LowerCase

/-!
# Row types

The type of the rows of a table: a record of columns, numbered from one in the order of the table
schema and named in lower case. Every column type of the service is written as one of a few kinds
on the wire, and a record column holds a row type of its own.
-/

namespace RowSink

inductive Cardinality where
  | optional
  | required
  | repeated
  deriving DecidableEq, Repr

mutual

/-- How the values of a column are written. -/
inductive ColumnKind where
  | bool
  | bytes
  | int32
  | int64
  | double
  | string
  | record (type : RowType)

structure Column where
  number : Nat
  name : String
  cardinality : Cardinality
  kind : ColumnKind

/-- A record type under its full name. -/
structure RowType where
  name : String
  columns : List Column

end

namespace Column

def isRepeated (column : Column) : Bool :=
  column.cardinality == .repeated

end Column

namespace ColumnKind

/-- The kind as it is named in messages. -/
def display : ColumnKind → String
  | bool => "bool"
  | bytes => "bytes"
  | int32 => "int32"
  | int64 => "int64"
  | double => "double"
  | string => "string"
  | record type => type.name

end ColumnKind

namespace RowType

def column? (type : RowType) (name : String) : Option Column :=
  type.columns.find? (·.name == name)

def columnNames (type : RowType) : List String :=
  type.columns.map (·.name)

end RowType

/-- Why a table schema has no row type. -/
inductive SchemaError where
  | noColumns
  | tooManyColumns (scope : String)
  | unknownType (number : Int32) (column : String)
  | emptyRecord (column : String)
  | unsupportedType (type : ColumnType) (column : String)
  | duplicateName (name : String)
  | duplicateJsonName
  deriving DecidableEq

namespace SchemaError

def message : SchemaError → String
  | noColumns => "table schema has no fields"
  | tooManyColumns scope => "too many columns in ." ++ scope
  | unknownType number column =>
    "unknown type " ++ toString number.toInt ++ " for column " ++ column
  | emptyRecord column => "record column " ++ column ++ " has no fields"
  | unsupportedType type column => "unsupported type " ++ type.name ++ " for column " ++ column
  | duplicateName name =>
    "invalid descriptor for table schema: name '" ++ name ++ "' is defined twice"
  | duplicateJsonName =>
    "invalid descriptor for table schema: a field with JSON name '' is already defined"

end SchemaError

/-- The full name of the type of a whole row. -/
def rootName : String := "__ROOT__"

/-- The name of the type of a record column, within the type that has the column. -/
def recordName (column : String) : String := "Struct_" ++ column

/-- The greatest number that a column can have. -/
def maxColumnNumber : Nat := 2147483647

/-- A mode without a name counts as nullable. -/
def cardinalityOf (mode : Int32) : Cardinality :=
  match ColumnMode.ofNumber? mode.toInt with
  | some .repeated => .repeated
  | some .required => .required
  | _ => .optional

/-- The kind of a column that is not a record. -/
def scalarKindOf? : ColumnType → Option ColumnKind
  | .bool => some .bool
  | .bytes => some .bytes
  | .date => some .int32
  | .int64 | .timestamp | .datetime | .time => some .int64
  | .double => some .double
  | .string | .numeric | .bignumeric | .geography | .json | .interval => some .string
  | .struct | .range | .unspecified => none

mutual

/-- The kind of a column of the type `scope`. -/
def columnKindOf (scope : String) : ColumnSchema → Except SchemaError ColumnKind
  | ⟨name, type, _, fields, _, _, _, _, _⟩ =>
    let lowered := Text.lowerCase name
    match ColumnType.ofNumber? type.toInt with
    | none => .error (.unknownType type lowered)
    | some .struct =>
      if fields.isEmpty then .error (.emptyRecord lowered)
      else
        let full := scope ++ "." ++ recordName lowered
        (columnsOf full 1 fields).map fun columns => .record ⟨full, columns⟩
    | some other =>
      match scalarKindOf? other with
      | some kind => .ok kind
      | none => .error (.unsupportedType other lowered)

/-- The columns of the type `scope`, the first one getting the number `number`. -/
def columnsOf (scope : String) (number : Nat) : List ColumnSchema → Except SchemaError (List Column)
  | [] => .ok []
  | column :: rest =>
    if maxColumnNumber < number then .error (.tooManyColumns scope)
    else
      match columnKindOf scope column with
      | .error error => .error error
      | .ok kind =>
        match columnsOf scope (number + 1) rest with
        | .error error => .error error
        | .ok columns =>
          .ok (⟨number, Text.lowerCase column.name, cardinalityOf column.mode, kind⟩ :: columns)

end

end RowSink
