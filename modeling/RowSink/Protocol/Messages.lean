import RowSink.Message.Decode
import RowSink.Message.Encode
import RowSink.Protocol.Types
import RowSink.Table.Schema

/-!
# Messages of the service protocol

The requests and answers of the storage service as values of their own, and their passage to and
from messages on the wire.
-/

namespace RowSink.Protocol

/-- A detail of a status, of any type. -/
structure Detail where
  typeUrl : String
  value : Bytes
  deriving DecidableEq

/-- A status inside an answer. Its code need not be one of the canonical ones. -/
structure RemoteStatus where
  code : Int32
  message : String
  details : List Detail := []
  deriving DecidableEq

/-- What became of a batch. -/
inductive Verdict where
  | appended (offset : Option Int64)
  | failed (status : RemoteStatus)
  deriving DecidableEq

structure RowError where
  index : Int64
  code : Int32
  message : String
  deriving DecidableEq

/-- The answer to an append. -/
structure AppendResponse where
  verdict : Option Verdict := none
  updatedSchema : Option TableSchema := none
  rowErrors : List RowError := []
  writeStream : String := ""

/-- The rows of an append, with the writer schema if it is sent along. -/
structure RowData where
  writerSchema : Option Message
  rows : Option (List Bytes)

structure AppendRequest where
  writeStream : String := ""
  offset : Option Int64 := none
  rows : Option RowData := none
  traceId : String := ""

structure Instant where
  seconds : Int64
  nanos : Int32
  deriving DecidableEq

structure WriteStream where
  name : String := ""
  type : Int32 := 0
  createTime : Option Instant := none
  commitTime : Option Instant := none
  tableSchema : Option TableSchema := none
  writeMode : Int32 := 0
  location : String := ""

section Entries

/-- An entry for a value that is left out when it is the default. -/
def scalarEntry (number : Nat) (name : String) (value : Scalar) : List Entry :=
  if value.isDefault then [] else [⟨number, name, .single (.scalar value)⟩]

def messageEntry (number : Nat) (name : String) : Option Message → List Entry
  | none => []
  | some message => [⟨number, name, .single (.message message)⟩]

def listEntry (number : Nat) (name : String) : List Value → List Entry
  | [] => []
  | items => [⟨number, name, .list items⟩]

end Entries

section Access

def scalarAt? (message : Message) (number : Nat) : Option Scalar :=
  match message.content? number with
  | some (.single (.scalar value)) => some value
  | _ => none

def textAt (message : Message) (number : Nat) : String :=
  match scalarAt? message number with
  | some (.string value) => value
  | _ => ""

def int32At (message : Message) (number : Nat) : Int32 :=
  match scalarAt? message number with
  | some (.int32 value) => value
  | _ => 0

def int64At (message : Message) (number : Nat) : Int64 :=
  match scalarAt? message number with
  | some (.int64 value) => value
  | _ => 0

def bytesAt (message : Message) (number : Nat) : Bytes :=
  match scalarAt? message number with
  | some (.bytes value) => value
  | _ => []

def messageAt? (message : Message) (number : Nat) : Option Message :=
  match message.content? number with
  | some (.single (.message value)) => some value
  | _ => none

def itemsAt (message : Message) (number : Nat) : List Value :=
  match message.content? number with
  | some (.list items) => items
  | _ => []

def elementMessage? : Value → Option Message
  | .message message => some message
  | _ => none

def elementBytes? : Value → Option Bytes
  | .scalar (.bytes bytes) => some bytes
  | _ => none

def messagesAt (message : Message) (number : Nat) : List Message :=
  (itemsAt message number).filterMap elementMessage?

end Access

/-- An integer in a message of its own, so that zero differs from absence. -/
def wrapInt64 (value : Int64) : Message :=
  ⟨"Int64Value", scalarEntry 1 "value" (.int64 value), []⟩

def unwrapInt64 (message : Message) : Int64 :=
  int64At message 1

section Schema

mutual

def columnMessage : ColumnSchema → Message
  | ⟨name, type, mode, fields, description, maxLength, precision, scale, defaultValue⟩ =>
    ⟨"TableFieldSchema",
      scalarEntry 1 "name" (.string name) ++ scalarEntry 2 "type" (.int32 type) ++
        scalarEntry 3 "mode" (.int32 mode) ++ listEntry 4 "fields" (columnValues fields) ++
        scalarEntry 6 "description" (.string description) ++
        scalarEntry 7 "max_length" (.int64 maxLength) ++
        scalarEntry 8 "precision" (.int64 precision) ++ scalarEntry 9 "scale" (.int64 scale) ++
        scalarEntry 10 "default_value_expression" (.string defaultValue),
      []⟩

def columnValues : List ColumnSchema → List Value
  | [] => []
  | column :: rest => .message (columnMessage column) :: columnValues rest

end

mutual

def columnOfMessage : Message → ColumnSchema
  | ⟨_, entries, _⟩ => columnOfEntries entries { name := "", type := 0, mode := 0 }

/-- Sets the properties of a column one entry at a time. -/
def columnOfEntries : List Entry → ColumnSchema → ColumnSchema
  | [], column => column
  | ⟨number, _, content⟩ :: rest, column =>
    columnOfEntries rest
      (match number, content with
      | 1, .single (.scalar (.string value)) => { column with name := value }
      | 2, .single (.scalar (.int32 value)) => { column with type := value }
      | 3, .single (.scalar (.int32 value)) => { column with mode := value }
      | 4, .list items => { column with fields := columnsOfValues items }
      | 6, .single (.scalar (.string value)) => { column with description := value }
      | 7, .single (.scalar (.int64 value)) => { column with maxLength := value }
      | 8, .single (.scalar (.int64 value)) => { column with precision := value }
      | 9, .single (.scalar (.int64 value)) => { column with scale := value }
      | 10, .single (.scalar (.string value)) => { column with defaultValueExpression := value }
      | _, _ => column)

def columnsOfValues : List Value → List ColumnSchema
  | [] => []
  | .message message :: rest => columnOfMessage message :: columnsOfValues rest
  | _ :: rest => columnsOfValues rest

end

def schemaMessage (schema : TableSchema) : Message :=
  ⟨"TableSchema", listEntry 1 "fields" (columnValues schema.fields), []⟩

def schemaOfMessage (message : Message) : TableSchema :=
  ⟨columnsOfValues (itemsAt message 1)⟩

end Schema

section Status

def detailMessage (detail : Detail) : Message :=
  ⟨"Any",
    scalarEntry 1 "type_url" (.string detail.typeUrl) ++
      scalarEntry 2 "value" (.bytes detail.value), []⟩

def detailOfMessage (message : Message) : Detail :=
  ⟨textAt message 1, bytesAt message 2⟩

def statusMessage (status : RemoteStatus) : Message :=
  ⟨"Status",
    scalarEntry 1 "code" (.int32 status.code) ++ scalarEntry 2 "message" (.string status.message) ++
      listEntry 3 "details" (status.details.map fun detail => .message (detailMessage detail)), []⟩

def statusOfMessage (message : Message) : RemoteStatus :=
  ⟨int32At message 1, textAt message 2, (messagesAt message 3).map detailOfMessage⟩

end Status

section Answer

def rowErrorMessage (rowError : RowError) : Message :=
  ⟨"RowError",
    scalarEntry 1 "index" (.int64 rowError.index) ++ scalarEntry 2 "code" (.int32 rowError.code) ++
      scalarEntry 3 "message" (.string rowError.message), []⟩

def rowErrorOfMessage (message : Message) : RowError :=
  ⟨int64At message 1, int32At message 2, textAt message 3⟩

def verdictEntries : Option Verdict → List Entry
  | none => []
  | some (.appended offset) =>
    messageEntry 1 "append_result"
      (some ⟨"AppendResult", messageEntry 1 "offset" (offset.map wrapInt64), []⟩)
  | some (.failed status) => messageEntry 2 "error" (some (statusMessage status))

def verdictOfMessage (message : Message) : Option Verdict :=
  match messageAt? message 1 with
  | some result => some (.appended ((messageAt? result 1).map unwrapInt64))
  | none => (messageAt? message 2).map fun status => .failed (statusOfMessage status)

def responseMessage (response : AppendResponse) : Message :=
  ⟨"AppendRowsResponse",
    verdictEntries response.verdict ++
      messageEntry 3 "updated_schema" (response.updatedSchema.map schemaMessage) ++
      listEntry 4 "row_errors"
        (response.rowErrors.map fun rowError => .message (rowErrorMessage rowError)) ++
      scalarEntry 5 "write_stream" (.string response.writeStream), []⟩

def responseOfMessage (message : Message) : AppendResponse where
  verdict := verdictOfMessage message
  updatedSchema := (messageAt? message 3).map schemaOfMessage
  rowErrors := (messagesAt message 4).map rowErrorOfMessage
  writeStream := textAt message 5

end Answer

section Request

def rowsMessage (rows : List Bytes) : Message :=
  ⟨"ProtoRows", listEntry 1 "serialized_rows" (rows.map fun row => .scalar (.bytes row)), []⟩

def rowsOfMessage (message : Message) : List Bytes :=
  (itemsAt message 1).filterMap elementBytes?

def rowDataMessage (data : RowData) : Message :=
  ⟨"ProtoData",
    messageEntry 1 "writer_schema" data.writerSchema ++
      messageEntry 2 "rows" (data.rows.map rowsMessage), []⟩

def rowDataOfMessage (message : Message) : RowData :=
  ⟨messageAt? message 1, (messageAt? message 2).map rowsOfMessage⟩

def requestMessage (request : AppendRequest) : Message :=
  ⟨"AppendRowsRequest",
    scalarEntry 1 "write_stream" (.string request.writeStream) ++
      messageEntry 2 "offset" (request.offset.map wrapInt64) ++
      messageEntry 4 "proto_rows" (request.rows.map rowDataMessage) ++
      scalarEntry 6 "trace_id" (.string request.traceId), []⟩

def requestOfMessage (message : Message) : AppendRequest where
  writeStream := textAt message 1
  offset := (messageAt? message 2).map unwrapInt64
  rows := (messageAt? message 4).map rowDataOfMessage
  traceId := textAt message 6

end Request

section Stream

def instantMessage (instant : Instant) : Message :=
  ⟨"Timestamp",
    scalarEntry 1 "seconds" (.int64 instant.seconds) ++
      scalarEntry 2 "nanos" (.int32 instant.nanos), []⟩

def instantOfMessage (message : Message) : Instant :=
  ⟨int64At message 1, int32At message 2⟩

def writeStreamMessage (stream : WriteStream) : Message :=
  ⟨"WriteStream",
    scalarEntry 1 "name" (.string stream.name) ++ scalarEntry 2 "type" (.int32 stream.type) ++
      messageEntry 3 "create_time" (stream.createTime.map instantMessage) ++
      messageEntry 4 "commit_time" (stream.commitTime.map instantMessage) ++
      messageEntry 5 "table_schema" (stream.tableSchema.map schemaMessage) ++
      scalarEntry 7 "write_mode" (.int32 stream.writeMode) ++
      scalarEntry 8 "location" (.string stream.location), []⟩

def writeStreamOfMessage (message : Message) : WriteStream where
  name := textAt message 1
  type := int32At message 2
  createTime := (messageAt? message 3).map instantOfMessage
  commitTime := (messageAt? message 4).map instantOfMessage
  tableSchema := (messageAt? message 5).map schemaOfMessage
  writeMode := int32At message 7
  location := textAt message 8

end Stream

end RowSink.Protocol

namespace RowSink

open Wire

def TableSchema.encode (schema : TableSchema) : Bytes :=
  (Protocol.schemaMessage schema).encode

def TableSchema.decode (bytes : Bytes) : Except DecodeError TableSchema :=
  (RowSink.decode Protocol.pool Protocol.tableSchema bytes).map Protocol.schemaOfMessage

namespace Protocol

def RemoteStatus.encode (value : RemoteStatus) : Bytes :=
  (statusMessage value).encode

def RemoteStatus.decode (bytes : Bytes) : Except DecodeError RemoteStatus :=
  (RowSink.decode pool status bytes).map statusOfMessage

def AppendResponse.encode (response : AppendResponse) : Bytes :=
  (responseMessage response).encode

def AppendResponse.decode (bytes : Bytes) : Except DecodeError AppendResponse :=
  (RowSink.decode pool appendRowsResponse bytes).map responseOfMessage

def AppendRequest.encode (request : AppendRequest) : Bytes :=
  (requestMessage request).encode

def AppendRequest.decode (bytes : Bytes) : Except DecodeError AppendRequest :=
  (RowSink.decode pool appendRowsRequest bytes).map requestOfMessage

def WriteStream.encode (stream : WriteStream) : Bytes :=
  (writeStreamMessage stream).encode

def WriteStream.decode (bytes : Bytes) : Except DecodeError WriteStream :=
  (RowSink.decode pool writeStream bytes).map writeStreamOfMessage

end Protocol

end RowSink
