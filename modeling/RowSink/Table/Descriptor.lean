import RowSink.Message.Encode
import RowSink.Protocol.Messages
import RowSink.Table.RowType

/-!
# Row descriptors

The description of a row type that is sent to the service, as a message type with the types of its
record columns nested in it. The full names in it must be distinct, and so must be the names that
the fields of one message take in JSON; a table schema has a row type only if they are.
-/

namespace RowSink

structure FieldDescriptor where
  name : String
  number : Nat
  cardinality : Cardinality
  /-- The number of the wire type in the description language. -/
  typeCode : Nat
  typeName : Option String
  deriving DecidableEq

structure Descriptor where
  name : String
  fields : List FieldDescriptor
  nested : List Descriptor

namespace ColumnKind

def typeCode : ColumnKind → Nat
  | double => 1
  | int64 => 3
  | int32 => 5
  | bool => 8
  | string => 9
  | record _ => 11
  | bytes => 12

def typeName? : ColumnKind → Option String
  | record type => some ("." ++ type.name)
  | _ => none

end ColumnKind

namespace Column

def descriptor (column : Column) : FieldDescriptor where
  name := column.name
  number := column.number
  cardinality := column.cardinality
  typeCode := column.kind.typeCode
  typeName := column.kind.typeName?

end Column

mutual

/-- The description of a row type under the simple name `name`. -/
def RowType.descriptor (name : String) : RowType → Descriptor
  | ⟨_, columns⟩ => ⟨name, columns.map Column.descriptor, nestedDescriptors columns⟩

def nestedDescriptors : List Column → List Descriptor
  | [] => []
  | ⟨_, name, _, kind⟩ :: rest => kind.descriptors (recordName name) ++ nestedDescriptors rest

def ColumnKind.descriptors (name : String) : ColumnKind → List Descriptor
  | .record type => [type.descriptor name]
  | _ => []

end

/-- A name within a scope; the outermost scope has no name. -/
def qualify (scope name : String) : String :=
  if scope.isEmpty then name else scope ++ "." ++ name

mutual

/-- The full names that a description defines: its own, those of its fields, then those of the
descriptions nested in it. -/
def Descriptor.definedNames (scope : String) : Descriptor → List String
  | ⟨name, fields, nested⟩ =>
    qualify scope name :: fields.map (fun field => qualify (qualify scope name) field.name) ++
      definedNamesOf (qualify scope name) nested

def definedNamesOf (scope : String) : List Descriptor → List String
  | [] => []
  | descriptor :: rest => descriptor.definedNames scope ++ definedNamesOf scope rest

end

/-- The JSON name of a field: underscores are dropped and an ASCII letter after one is
capitalised. -/
def jsonChars (capitalise : Bool) : List Char → List Char
  | [] => []
  | '_' :: rest => jsonChars true rest
  | char :: rest => (if capitalise then char.toUpper else char) :: jsonChars false rest

def jsonName (name : String) : String :=
  String.ofList (jsonChars false name.toList)

mutual

/-- The JSON names of the fields of each message of a description. -/
def Descriptor.jsonNames : Descriptor → List (List String)
  | ⟨_, fields, nested⟩ => fields.map (fun field => jsonName field.name) :: jsonNamesOf nested

def jsonNamesOf : List Descriptor → List (List String)
  | [] => []
  | descriptor :: rest => descriptor.jsonNames ++ jsonNamesOf rest

end

/-- The first name that occurs among the ones before it. -/
def firstRepeated (seen : List String) : List String → Option String
  | [] => none
  | name :: rest => if seen.contains name then some name else firstRepeated (name :: seen) rest

/-- Refuses a description in which names collide. -/
def Descriptor.check (descriptor : Descriptor) : Except SchemaError Unit :=
  match firstRepeated [] (descriptor.definedNames "") with
  | some name => .error (.duplicateName name)
  | none =>
    if descriptor.jsonNames.any fun names => (firstRepeated [] names).isSome then
      .error .duplicateJsonName
    else .ok ()

/-- The row type of a table. -/
def RowType.ofTable (schema : TableSchema) : Except SchemaError RowType :=
  if schema.fields.isEmpty then .error .noColumns
  else
    match columnsOf rootName 1 schema.fields with
    | .error error => .error error
    | .ok columns =>
      let type : RowType := ⟨rootName, columns⟩
      (type.descriptor rootName).check.map fun _ => type

namespace Cardinality

/-- The number of the label in the description language. -/
def labelCode : Cardinality → Nat
  | optional => 1
  | required => 2
  | repeated => 3

end Cardinality

namespace FieldDescriptor

def toMessage (field : FieldDescriptor) : Message :=
  ⟨"FieldDescriptorProto",
    [⟨1, "name", .single (.scalar (.string field.name))⟩,
      ⟨3, "number", .single (.scalar (.int32 (Int32.ofNat field.number)))⟩,
      ⟨4, "label", .single (.scalar (.int32 (Int32.ofNat field.cardinality.labelCode)))⟩,
      ⟨5, "type", .single (.scalar (.int32 (Int32.ofNat field.typeCode)))⟩] ++
      (match field.typeName with
      | some name => [⟨6, "type_name", .single (.scalar (.string name))⟩]
      | none => []), []⟩

end FieldDescriptor

mutual

def Descriptor.toMessage : Descriptor → Message
  | ⟨name, fields, nested⟩ =>
    ⟨"DescriptorProto",
      ⟨1, "name", .single (.scalar (.string name))⟩ ::
        Protocol.listEntry 2 "field" (fields.map fun field => .message field.toMessage) ++
        Protocol.listEntry 3 "nested_type" (descriptorValues nested), []⟩

def descriptorValues : List Descriptor → List Value
  | [] => []
  | descriptor :: rest => .message descriptor.toMessage :: descriptorValues rest

end

/-- The writer schema that goes with rows of a type. -/
def RowType.writerSchema (type : RowType) : Message :=
  ⟨"ProtoSchema",
    [⟨1, "proto_descriptor", .single (.message (type.descriptor rootName).toMessage)⟩], []⟩

end RowSink
