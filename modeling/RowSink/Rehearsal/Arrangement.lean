import RowSink.Batch.Payload
import RowSink.Table.Resolution

/-!
# Arrangement of rows

The entries of a map come in no order, and neither do the records made of them. What a rehearsal
shows must not depend on it, so the records of a column that belongs to a map field are shown in the
order of their bytes, those deeper down first. What counts is the type of the source: a column that
a map field could have filled is arranged even if another field of the same column did.
-/

namespace RowSink.Rehearsal

def record? : Value → Option Message
  | .message record => some record
  | _ => none

/-- The bytes of a record. -/
def recordBytes (value : Value) : Bytes :=
  ((record? value).map Message.encode).getD []

/-- Puts records in the order of their bytes; a list of anything else stays as it is. -/
def sortRecords (items : List Value) : List Value :=
  if items.all fun value => (record? value).isSome then
    items.mergeSort fun left right => Bytes.precedes (recordBytes left) (recordBytes right)
  else items

/-- The fields of some types that belong to a column. -/
def fieldsOfColumn (types : List MessageType) (column : String) : List Field :=
  types.flatMap fun type => type.fields.filter fun field => Text.lowerCase field.name == column

mutual

/-- Arranges a row whose source has one of the types. -/
def arrangeMessage (pool : Pool) (types : List MessageType) : Message → Message
  | ⟨name, entries, unknown⟩ => ⟨name, arrangeEntries pool types entries, unknown⟩

def arrangeEntries (pool : Pool) (types : List MessageType) : List Entry → List Entry
  | [] => []
  | ⟨number, name, content⟩ :: rest =>
    ⟨number, name, arrangeContent pool (fieldsOfColumn types name) content⟩ ::
      arrangeEntries pool types rest

/-- Arranges the content of a column that belongs to some fields. -/
def arrangeContent (pool : Pool) (fields : List Field) : Content → Content
  | .single value => .single (arrangeValue pool (fields.flatMap pool.elementTypes) value)
  | .list items =>
    let arranged := arrangeItems pool (fields.flatMap pool.elementTypes) items
    .list (if fields.any Field.isMap then sortRecords arranged else arranged)
  | .map pairs => .map pairs

def arrangeItems (pool : Pool) (types : List MessageType) : List Value → List Value
  | [] => []
  | value :: rest => arrangeValue pool types value :: arrangeItems pool types rest

def arrangeValue (pool : Pool) (types : List MessageType) : Value → Value
  | .message record => .message (arrangeMessage pool types record)
  | .scalar value => .scalar value
  | .enumeration number name => .enumeration number name

end

/-- Arranges a row of a type as far as it can be read back. -/
def arrangeRow (reader : RecordReader) (type : RowType) (bytes : Bytes) : Bytes :=
  match (type.descriptor rootName).decode bytes with
  | .ok row => (arrangeMessage reader.pool [reader.type] row).encode
  | .error _ => bytes

/-- Arranges the rows of a payload that were made for a type. -/
def arrangePayload (reader : RecordReader) (type : RowType) (payload : Payload) : Payload :=
  { payload with rows := payload.rows.map (arrangeRow reader type) }

end RowSink.Rehearsal
