import RowSink.Message.Decode
import RowSink.Table.Descriptor

/-!
# Resolution of descriptors

The message types that a description of messages declares, under their full names. They are what a
reader of rows goes by: a field keeps track of whether it is set, and repeated ones are not packed.
-/

namespace RowSink

namespace ColumnKind

/-- What a reader takes the values of a column for. -/
def elementKind : ColumnKind → ElementKind
  | bool => .scalar .bool
  | bytes => .scalar .bytes
  | int32 => .scalar .int32
  | int64 => .scalar .int64
  | double => .scalar .double
  | string => .scalar .string
  | record type => .message type.name

end ColumnKind

/-- The field that a column is to a reader. -/
def Column.field (column : Column) : Field where
  number := column.number
  name := column.name
  kind := column.kind.elementKind
  shape := if column.isRepeated then .repeated else .single true

/-- The message type that a row type is to a reader. -/
def RowType.messageType (type : RowType) : MessageType where
  name := type.name
  fields := type.columns.map Column.field

mutual

/-- The record types of a row type: its own and those of its record columns at any depth. -/
def RowType.records : RowType → List RowType
  | ⟨name, columns⟩ => ⟨name, columns⟩ :: recordsOf columns

def recordsOf : List Column → List RowType
  | [] => []
  | ⟨_, _, _, kind⟩ :: rest => kind.records ++ recordsOf rest

def ColumnKind.records : ColumnKind → List RowType
  | .record type => type.records
  | _ => []

end

namespace FieldDescriptor

/-- The kind of the elements; the numbers are those of the description language. The full name of a
message starts with a dot there. -/
def elementKind? (field : FieldDescriptor) : Option ElementKind :=
  match field.typeCode with
  | 1 => some (.scalar .double)
  | 2 => some (.scalar .float)
  | 3 => some (.scalar .int64)
  | 4 => some (.scalar .uint64)
  | 5 => some (.scalar .int32)
  | 6 => some (.scalar .fixed64)
  | 7 => some (.scalar .fixed32)
  | 8 => some (.scalar .bool)
  | 9 => some (.scalar .string)
  | 11 => field.typeName.map fun name => .message (String.ofList (name.toList.drop 1))
  | 12 => some (.scalar .bytes)
  | 13 => some (.scalar .uint32)
  | 15 => some (.scalar .sfixed32)
  | 16 => some (.scalar .sfixed64)
  | 17 => some (.scalar .sint32)
  | 18 => some (.scalar .sint64)
  | _ => none

def shape (field : FieldDescriptor) : FieldShape :=
  match field.cardinality with
  | .repeated => .repeated
  | _ => .single true

/-- The declared field, unless it has a type that no column is written as. -/
def field? (field : FieldDescriptor) : Option Field :=
  field.elementKind?.map fun kind =>
    { number := field.number, name := field.name, kind, shape := field.shape }

end FieldDescriptor

namespace Descriptor

mutual

/-- The types of a description and of those nested in it. -/
def messageTypes (scope : String) : Descriptor → List MessageType
  | ⟨name, fields, nested⟩ =>
    { name := qualify scope name, fields := fields.filterMap FieldDescriptor.field? } ::
      messageTypesOf (qualify scope name) nested

def messageTypesOf (scope : String) : List Descriptor → List MessageType
  | [] => []
  | descriptor :: rest => descriptor.messageTypes scope ++ messageTypesOf scope rest

end

/-- The pool of a description that stands on its own. -/
def pool (descriptor : Descriptor) : Pool :=
  { messages := descriptor.messageTypes "" }

/-- Reads a message of the described type. -/
def decode (descriptor : Descriptor) (bytes : Bytes) : Except Wire.DecodeError Message :=
  RowSink.decode descriptor.pool (descriptor.pool.messageType descriptor.name) bytes

end Descriptor

end RowSink
