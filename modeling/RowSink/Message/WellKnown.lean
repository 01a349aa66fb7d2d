import RowSink.Message.Type

/-!
# Well-known types

The message types of the package `google.protobuf` that records may refer to.
-/

namespace RowSink.WellKnown

def timestampName : String := "google.protobuf.Timestamp"

def structName : String := "google.protobuf.Struct"

def valueName : String := "google.protobuf.Value"

def listValueName : String := "google.protobuf.ListValue"

def nullValueName : String := "google.protobuf.NullValue"

def plain (number : Nat) (name : String) (kind : ScalarKind) : Field :=
  { number, name, kind := .scalar kind, shape := .single false }

/-- A member of the group of the kinds of a value. -/
def kindMember (number : Nat) (name : String) (kind : ElementKind) : Field :=
  { number, name, kind, shape := .single true, oneof := some "kind" }

/-- A message around a single scalar. -/
def wrapper (name : String) (kind : ScalarKind) : MessageType :=
  { name := "google.protobuf." ++ name, fields := [plain 1 "value" kind] }

def messages : List MessageType :=
  [ { name := timestampName, fields := [plain 1 "seconds" .int64, plain 2 "nanos" .int32] },
    { name := "google.protobuf.Duration",
      fields := [plain 1 "seconds" .int64, plain 2 "nanos" .int32] },
    { name := "google.protobuf.Any",
      fields := [plain 1 "type_url" .string, plain 2 "value" .bytes] },
    { name := "google.protobuf.Empty", fields := [] },
    { name := "google.protobuf.FieldMask",
      fields := [{ number := 1, name := "paths", kind := .scalar .string, shape := .repeated }] },
    { name := structName,
      fields :=
        [{ number := 1, name := "fields", kind := .message valueName, shape := .map .string }] },
    { name := structName ++ ".FieldsEntry",
      fields :=
        [plain 1 "key" .string,
          { number := 2, name := "value", kind := .message valueName, shape := .single true }]
      isMapEntry := true },
    { name := valueName,
      fields :=
        [kindMember 1 "null_value" (.enumeration nullValueName),
          kindMember 2 "number_value" (.scalar .double),
          kindMember 3 "string_value" (.scalar .string),
          kindMember 4 "bool_value" (.scalar .bool),
          kindMember 5 "struct_value" (.message structName),
          kindMember 6 "list_value" (.message listValueName)] },
    { name := listValueName,
      fields :=
        [{ number := 1, name := "values", kind := .message valueName, shape := .repeated }] },
    wrapper "DoubleValue" .double,
    wrapper "FloatValue" .float,
    wrapper "Int64Value" .int64,
    wrapper "UInt64Value" .uint64,
    wrapper "Int32Value" .int32,
    wrapper "UInt32Value" .uint32,
    wrapper "BoolValue" .bool,
    wrapper "StringValue" .string,
    wrapper "BytesValue" .bytes ]

def enums : List EnumType :=
  [{ name := nullValueName, values := [("NULL_VALUE", 0)] }]

end RowSink.WellKnown
