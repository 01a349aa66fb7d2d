import RowSink.Configuration
import RowSink.Row.Projection

/-!
# Metadata

What is known about an input message beside its record, and its injection into the row: into the
columns of the row itself, or into those of one record column.
-/

namespace RowSink

inductive MetadataValue where
  | text (value : String)
  | integer (value : Int64)
  | instant (value : Instant)
  deriving DecidableEq

/-- Named values; of several with one name the last one counts. -/
abbrev Metadata := List (String × MetadataValue)

namespace Metadata

def get? (name : String) : Metadata → Option MetadataValue
  | [] => none
  | (other, value) :: rest =>
    match get? name rest with
    | some later => some later
    | none => if other = name then some value else none

end Metadata

/-- The scalar a metadata value is injected as. An instant of any year from one to 9999 is
accepted. -/
def MetadataValue.toScalar (name : String) : MetadataValue → Except ConversionError Scalar
  | .text value => .ok (.string value)
  | .integer value => .ok (.int64 value)
  | .instant value =>
    match TimestampWindow.absolute.check name value.micros with
    | .error error => .error error
    | .ok micros => .ok (.int64 (Int64.ofInt micros))

namespace Column

/-- A metadata value as the column stores it. -/
def storeMetadata (column : Column) (name : String) (value : MetadataValue) :
    Except ConversionError Value :=
  match value.toScalar name with
  | .error error => .error error
  | .ok scalar => (column.coerce scalar).map .scalar

end Column

namespace Message

/-- Sets the column of each listed name that has a metadata value. -/
def injectColumns (type : RowType) (metadata : Metadata) (row : Message) :
    List String → Except ConversionError Message
  | [] => .ok row
  | name :: rest =>
    match metadata.get? name with
    | none => row.injectColumns type metadata rest
    | some value =>
      match row.fill type (Text.lowerCase name) fun column => column.storeMetadata name value with
      | .error error => .error error
      | .ok filled => filled.injectColumns type metadata rest

/-- Sets the metadata of a message in its row. A namespace column takes nothing but metadata. -/
def inject (type : RowType) (config : MetadataConfig) (metadata : Metadata) (row : Message) :
    Except ConversionError Message :=
  match config.namespaceColumn with
  | none => row.injectColumns type metadata config.columns
  | some name =>
    match type.column? (Text.lowerCase name) with
    | none => .ok row
    | some column =>
      match column.kind with
      | .record target =>
        if column.isRepeated then
          .error (column.mismatch "metadata namespace column is repeated")
        else
          match (Message.empty target.name).injectColumns target metadata config.columns with
          | .error error => .error error
          | .ok record => .ok (row.putColumn column (.single (.message record)))
      | _ => .error (column.mismatch "metadata namespace column is not a record")

end Message

end RowSink
