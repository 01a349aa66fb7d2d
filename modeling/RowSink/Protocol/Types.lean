import RowSink.Message.Type

/-!
# Message types of the service protocol

The layout of every message exchanged with the storage service, of the messages nested in them, and
of message descriptors, which a writer sends to say how its rows are laid out.
-/

namespace RowSink.Protocol

/-- A field that is left out with its default value. -/
def plain (number : Nat) (name : String) (kind : ScalarKind) : Field :=
  { number, name, kind := .scalar kind, shape := .single false }

/-- A scalar field that may be absent. -/
def optional (number : Nat) (name : String) (kind : ScalarKind) : Field :=
  { number, name, kind := .scalar kind, shape := .single true }

/-- A scalar field that no message lacks. -/
def required (number : Nat) (name : String) (kind : ScalarKind) : Field :=
  { number, name, kind := .scalar kind, shape := .single true, always := true }

def listed (number : Nat) (name : String) (kind : ScalarKind) : Field :=
  { number, name, kind := .scalar kind, shape := .repeated }

def nested (number : Nat) (name message : String) : Field :=
  { number, name, kind := .message message, shape := .single true }

def nestedList (number : Nat) (name message : String) : Field :=
  { number, name, kind := .message message, shape := .repeated }

/-- A member of a group of which a message holds at most one. -/
def choice (group : String) (number : Nat) (name message : String) : Field :=
  { number, name, kind := .message message, shape := .single true, oneof := some group }

def labelled (name : String) (fields : List Field) : MessageType :=
  { name, fields, label := some name, keepsUnknown := false }

/-- A wrapped 64-bit integer, whose only field is not mentioned in errors. -/
def int64Value : MessageType :=
  { name := "Int64Value", fields := [plain 1 "value" .int64], keepsUnknown := false }

def timestamp : MessageType :=
  labelled "Timestamp" [plain 1 "seconds" .int64, plain 2 "nanos" .int32]

def any : MessageType :=
  labelled "Any" [plain 1 "type_url" .string, plain 2 "value" .bytes]

def status : MessageType :=
  labelled "Status" [plain 1 "code" .int32, plain 2 "message" .string, nestedList 3 "details" "Any"]

def tableSchema : MessageType :=
  labelled "TableSchema" [nestedList 1 "fields" "TableFieldSchema"]

def columnSchema : MessageType :=
  labelled "TableFieldSchema"
    [plain 1 "name" .string, plain 2 "type" .int32, plain 3 "mode" .int32,
      nestedList 4 "fields" "TableFieldSchema", plain 6 "description" .string,
      plain 7 "max_length" .int64, plain 8 "precision" .int64, plain 9 "scale" .int64,
      plain 10 "default_value_expression" .string]

def writeStream : MessageType :=
  labelled "WriteStream"
    [plain 1 "name" .string, plain 2 "type" .int32, nested 3 "create_time" "Timestamp",
      nested 4 "commit_time" "Timestamp", nested 5 "table_schema" "TableSchema",
      plain 7 "write_mode" .int32, plain 8 "location" .string]

def appendRowsRequest : MessageType :=
  labelled "AppendRowsRequest"
    [plain 1 "write_stream" .string, nested 2 "offset" "Int64Value",
      choice "rows" 4 "proto_rows" "ProtoData", plain 6 "trace_id" .string]

def protoData : MessageType :=
  labelled "ProtoData" [nested 1 "writer_schema" "ProtoSchema", nested 2 "rows" "ProtoRows"]

def protoSchema : MessageType :=
  labelled "ProtoSchema" [nested 1 "proto_descriptor" "DescriptorProto"]

def protoRows : MessageType :=
  labelled "ProtoRows" [listed 1 "serialized_rows" .bytes]

def appendRowsResponse : MessageType :=
  labelled "AppendRowsResponse"
    [choice "response" 1 "append_result" "AppendResult", choice "response" 2 "error" "Status",
      nested 3 "updated_schema" "TableSchema", nestedList 4 "row_errors" "RowError",
      plain 5 "write_stream" .string]

def appendResult : MessageType :=
  labelled "AppendResult" [nested 1 "offset" "Int64Value"]

def rowError : MessageType :=
  labelled "RowError" [plain 1 "index" .int64, plain 2 "code" .int32, plain 3 "message" .string]

/-- The message types of message descriptors. -/
def descriptorTypes : List MessageType :=
  [ labelled "DescriptorProto"
      [optional 1 "name" .string, nestedList 2 "field" "FieldDescriptorProto",
        nestedList 3 "nested_type" "DescriptorProto", nestedList 4 "enum_type" "EnumDescriptorProto",
        nestedList 5 "extension_range" "ExtensionRange",
        nestedList 6 "extension" "FieldDescriptorProto", nested 7 "options" "MessageOptions",
        nestedList 8 "oneof_decl" "OneofDescriptorProto",
        nestedList 9 "reserved_range" "ReservedRange", listed 10 "reserved_name" .string],
    labelled "ExtensionRange"
      [optional 1 "start" .int32, optional 2 "end" .int32,
        nested 3 "options" "ExtensionRangeOptions"],
    labelled "ReservedRange" [optional 1 "start" .int32, optional 2 "end" .int32],
    labelled "ExtensionRangeOptions" [nestedList 999 "uninterpreted_option" "UninterpretedOption"],
    labelled "FieldDescriptorProto"
      [optional 1 "name" .string, optional 2 "extendee" .string, optional 3 "number" .int32,
        optional 4 "label" .int32, optional 5 "type" .int32, optional 6 "type_name" .string,
        optional 7 "default_value" .string, nested 8 "options" "FieldOptions",
        optional 9 "oneof_index" .int32, optional 10 "json_name" .string,
        optional 17 "proto3_optional" .bool],
    labelled "OneofDescriptorProto" [optional 1 "name" .string, nested 2 "options" "OneofOptions"],
    labelled "EnumDescriptorProto"
      [optional 1 "name" .string, nestedList 2 "value" "EnumValueDescriptorProto",
        nested 3 "options" "EnumOptions", nestedList 4 "reserved_range" "EnumReservedRange",
        listed 5 "reserved_name" .string],
    labelled "EnumReservedRange" [optional 1 "start" .int32, optional 2 "end" .int32],
    labelled "EnumValueDescriptorProto"
      [optional 1 "name" .string, optional 2 "number" .int32, nested 3 "options" "EnumValueOptions"],
    labelled "MessageOptions"
      [optional 1 "message_set_wire_format" .bool,
        optional 2 "no_standard_descriptor_accessor" .bool, optional 3 "deprecated" .bool,
        optional 7 "map_entry" .bool, nestedList 999 "uninterpreted_option" "UninterpretedOption"],
    labelled "FieldOptions"
      [optional 1 "ctype" .int32, optional 2 "packed" .bool, optional 3 "deprecated" .bool,
        optional 5 "lazy" .bool, optional 6 "jstype" .int32, optional 10 "weak" .bool,
        nestedList 999 "uninterpreted_option" "UninterpretedOption"],
    labelled "OneofOptions" [nestedList 999 "uninterpreted_option" "UninterpretedOption"],
    labelled "EnumOptions"
      [optional 2 "allow_alias" .bool, optional 3 "deprecated" .bool,
        nestedList 999 "uninterpreted_option" "UninterpretedOption"],
    labelled "EnumValueOptions"
      [optional 1 "deprecated" .bool, nestedList 999 "uninterpreted_option" "UninterpretedOption"],
    labelled "UninterpretedOption"
      [nestedList 2 "name" "NamePart", optional 3 "identifier_value" .string,
        optional 4 "positive_int_value" .uint64, optional 5 "negative_int_value" .int64,
        optional 6 "double_value" .double, optional 7 "string_value" .bytes,
        optional 8 "aggregate_value" .string],
    labelled "NamePart" [required 1 "name_part" .string, required 2 "is_extension" .bool] ]

def pool : Pool where
  messages :=
    [int64Value, timestamp, any, status, tableSchema, columnSchema, writeStream, appendRowsRequest,
      protoData, protoSchema, protoRows, appendRowsResponse, appendResult, rowError] ++
      descriptorTypes

end RowSink.Protocol
