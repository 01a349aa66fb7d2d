import RowSink.Configuration
import RowSink.Message.Decode
import RowSink.Message.UnknownPaths
import RowSink.Row.Metadata

/-!
# Records

An input message and the record in it. A strict reader refuses a record in which any message
carries a field that its type does not declare.
-/

namespace RowSink

/-- A message handed to the sink. Its identity is its position in the batch. -/
structure InputMessage where
  key : Bytes := []
  value : Bytes := []
  metadata : Metadata := []

/-- What takes the record out of an input message. -/
abbrev RecordParser := InputMessage → Except ConversionError Message

/-- How the records of a sink are read. -/
structure RecordReader where
  pool : Pool
  type : MessageType
  mode : MessageMode
  allowUnknownFields : Bool

namespace RecordReader

/-- The reader for a message class of the pool. -/
def ofClass (pool : Pool) (messageClass : String) (mode : MessageMode)
    (allowUnknownFields : Bool) : Except ConfigError RecordReader :=
  match pool.withMaps.resolve? messageClass with
  | none => .error (.unknownClass messageClass)
  | some type => .ok { pool := pool.withMaps, type, mode, allowUnknownFields }

/-- The part of an input message that holds the record. -/
def payload (reader : RecordReader) (input : InputMessage) : Bytes :=
  match reader.mode with
  | .logMessage => input.value
  | .logKey => input.key

def parse (reader : RecordReader) : RecordParser := fun input =>
  if (reader.payload input).isEmpty then .error .emptyRecord
  else
    match decode reader.pool reader.type (reader.payload input) with
    | .error error => .error (.undecodable error.description)
    | .ok record =>
      if reader.allowUnknownFields then .ok record
      else
        match record.unknownPaths reader.type.name with
        | [] => .ok record
        | paths => .error (.unknownFields reader.type.name (", ".intercalate paths))

end RecordReader

/-- What a batch is converted with. -/
structure Conversion where
  parser : RecordParser
  config : ConverterConfig
  target : RowType

namespace Conversion

/-- The row of one input message at a given time. -/
def row (conversion : Conversion) (now : Instant) (input : InputMessage) :
    Except ConversionError Message :=
  match conversion.parser input with
  | .error error => .error error
  | .ok record =>
    match (Projection.atTime conversion.config.partitionKey now).row conversion.target record with
    | .error error => .error error
    | .ok row =>
      match conversion.config.metadata with
      | none => .ok row
      | some metadata => row.inject conversion.target metadata input.metadata

/-- The bytes of the row of one input message. -/
def rowBytes (conversion : Conversion) (now : Instant) (input : InputMessage) :
    Except ConversionError Bytes :=
  (conversion.row now input).map Message.encode

end Conversion

end RowSink
