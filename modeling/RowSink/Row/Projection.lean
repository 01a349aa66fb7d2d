import RowSink.Message.Encode
import RowSink.Message.Json
import RowSink.Row.Coercion

/-!
# Projection on a row type

A message is turned into a row field by field. A field goes to the column whose name is the
lower-case name of the field, and fields without such a column are dropped. Rows are built the same
way at every depth, except that only the row itself has a partition column, which accepts fewer
instants than other columns.
-/

namespace RowSink

structure Projection where
  /-- The name of the partition column. -/
  partitionKey : Option String
  partitionWindow : TimestampWindow

namespace Projection

/-- The projection at a given time. -/
def atTime (partitionKey : Option String) (now : Instant) : Projection :=
  ⟨partitionKey, .partition now⟩

end Projection

section Timestamps

/-- The microseconds of a timestamp, the nanoseconds past them cut off. -/
def timestampMicros (column : Column) (seconds : Int64) (nanos : Int32) :
    Except ConversionError Int :=
  let whole := seconds.toInt * Instant.microsPerSecond
  let micros := whole + nanos.toInt.tdiv 1000
  if fitsSigned 64 whole && fitsSigned 64 micros then .ok micros
  else
    .error (column.invalidValue ("timestamp " ++ integerText seconds.toInt ++ "s overflows"))

/-- The instant if it lies in the window. -/
def TimestampWindow.check (window : TimestampWindow) (field : String) (micros : Int) :
    Except ConversionError Int :=
  if window.contains micros then .ok micros
  else .error (.invalidValue field (window.reason micros))

/-- The seconds of a timestamp message. -/
def timestampSeconds (entries : List Entry) : Int64 :=
  match Message.find? 1 entries with
  | some (.single (.scalar (.int64 seconds))) => seconds
  | _ => 0

def timestampNanos (entries : List Entry) : Int32 :=
  match Message.find? 2 entries with
  | some (.single (.scalar (.int32 nanos))) => nanos
  | _ => 0

/-- A timestamp as a column stores it. -/
def Column.storeTimestamp (column : Column) (window : TimestampWindow) (entries : List Entry) :
    Except ConversionError Scalar :=
  match timestampMicros column (timestampSeconds entries) (timestampNanos entries) with
  | .error error => .error error
  | .ok micros =>
    match window.check column.name micros with
    | .error error => .error error
    | .ok instant => column.coerce (.int64 (Int64.ofInt instant))

end Timestamps

/-- A free-form structure as a column stores it: its JSON text. -/
def Column.storeStruct (column : Column) (message : Message) : Except ConversionError Scalar :=
  match message.toJson with
  | .error reason => .error (.unserializable column.name reason)
  | .ok text => column.coerce (.string text)

/-- The number of an enumeration is its name in a text column, its digits if it has no name. -/
def Column.storeNumber (column : Column) (number : Int32) (name : Option String) :
    Except ConversionError Scalar :=
  match column.kind with
  | .string => .ok (.string (name.getD (integerText number.toInt)))
  | _ => column.coerce (.int32 number)

/-- Sets a column of a row. -/
def Message.putColumn (row : Message) (column : Column) (content : Content) : Message :=
  row.put column.number column.name content

/-- Sets the column of that name, if the type has it. -/
def Message.fill (record : Message) (type : RowType) (name : String)
    (store : Column → Except ConversionError Value) : Except ConversionError Message :=
  match type.column? name with
  | none => .ok record
  | some column =>
    match store column with
    | .error error => .error error
    | .ok stored => .ok (record.putColumn column (.single stored))

mutual

/-- The row of a message. Below the top level no column is the partition column. -/
def Message.project (projection : Projection) (top : Bool) (target : RowType) :
    Message → Except ConversionError Message
  | ⟨_, entries, _⟩ => projectEntries projection top target (.empty target.name) entries

def projectEntries (projection : Projection) (top : Bool) (target : RowType) (row : Message) :
    List Entry → Except ConversionError Message
  | [] => .ok row
  | ⟨_, name, content⟩ :: rest =>
    match target.column? (Text.lowerCase name) with
    | none => projectEntries projection top target row rest
    | some column =>
      match content.project projection (top && projection.partitionKey == some column.name)
          column with
      | .error error => .error error
      | .ok stored => projectEntries projection top target (row.putColumn column stored) rest

/-- The content of a column. A map goes to a repeated record column, in whose records its entries
come as they come in the map, a list to a repeated column and a single element to one that is not
repeated. -/
def Content.project (projection : Projection) (partition : Bool) (column : Column) :
    Content → Except ConversionError Content
  | .map pairs =>
    match column.kind with
    | .record entryType =>
      if column.isRepeated then
        match projectPairs projection entryType pairs with
        | .error error => .error error
        | .ok records => .ok (.list (records.map .message))
      else .error (column.mismatch "map value for a column that is not a repeated record")
    | _ => .error (column.mismatch "map value for a column that is not a repeated record")
  | .list items =>
    if column.isRepeated then
      match projectItems projection column items with
      | .error error => .error error
      | .ok values => .ok (.list values)
    else .error (column.mismatch "repeated value for a non-repeated column")
  | .single value =>
    if column.isRepeated then .error (column.mismatch "single value for a repeated column")
    else
      match value.project projection partition column with
      | .error error => .error error
      | .ok stored => .ok (.single stored)

def projectItems (projection : Projection) (column : Column) :
    List Value → Except ConversionError (List Value)
  | [] => .ok []
  | value :: rest =>
    match value.project projection false column with
    | .error error => .error error
    | .ok stored =>
      match projectItems projection column rest with
      | .error error => .error error
      | .ok values => .ok (stored :: values)

/-- The records of a map. The columns that an entry fills are called `key` and `value`; either one
may be missing. -/
def projectPairs (projection : Projection) (entryType : RowType) :
    List Pair → Except ConversionError (List Message)
  | [] => .ok []
  | ⟨key, value⟩ :: rest =>
    match (Message.empty entryType.name).fill entryType "key"
        fun column => (column.coerce key).map .scalar with
    | .error error => .error error
    | .ok keyed =>
      match keyed.fill entryType "value" fun column => value.project projection false column with
      | .error error => .error error
      | .ok record =>
        match projectPairs projection entryType rest with
        | .error error => .error error
        | .ok records => .ok (record :: records)

/-- One element as a column stores it. Timestamps and free-form structures are single values, any
other message is a record. -/
def Value.project (projection : Projection) (partition : Bool) (column : Column) :
    Value → Except ConversionError Value
  | .scalar value => (column.coerce value).map .scalar
  | .enumeration number name => (column.storeNumber number name).map .scalar
  | .message ⟨typeName, entries, unknown⟩ =>
    if typeName = WellKnown.timestampName then
      (column.storeTimestamp
        (if partition then projection.partitionWindow else .absolute) entries).map .scalar
    else if typeName = WellKnown.structName then
      (column.storeStruct ⟨typeName, entries, unknown⟩).map .scalar
    else
      match column.kind with
      | .record target =>
        (projectEntries projection false target (.empty target.name) entries).map .message
      | _ => .error (column.mismatch "record value for a scalar column")

end

/-- The row of a record. -/
def Projection.row (projection : Projection) (target : RowType) (record : Message) :
    Except ConversionError Message :=
  record.project projection true target

end RowSink
