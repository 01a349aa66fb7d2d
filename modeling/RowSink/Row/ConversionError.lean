import RowSink.Failure
import RowSink.Wire.Fault

/-!
# Conversion errors

Why a single record cannot be turned into a row, and the kind of failure it is reported as.
-/

namespace RowSink

inductive ConversionError where
  | unknownFields (type : String) (paths : String)
  | emptyRecord
  | invalidValue (field : String) (reason : String)
  | undecodable (description : String)
  | mismatch (field : String) (reason : String)
  | unserializable (field : String) (reason : String)
  deriving DecidableEq

namespace ConversionError

def message : ConversionError → String
  | unknownFields type paths => "message " ++ type ++ " has unknown fields in " ++ paths
  | emptyRecord => "message payload is empty"
  | invalidValue field reason => "invalid value for " ++ field ++ ": " ++ reason
  | undecodable description =>
    "failed to decode message: " ++ Wire.DecodeError.heading ++ description
  | mismatch field reason => "cannot convert " ++ field ++ ": " ++ reason
  | unserializable field reason => "failed to serialize " ++ field ++ ": " ++ reason

def kind : ConversionError → ErrorKind
  | unknownFields _ _ => .unknownFields
  | emptyRecord | invalidValue _ _ => .invalidMessage
  | undecodable _ | mismatch _ _ | unserializable _ _ => .deserialization

/-- What is reported for the record. -/
def info (error : ConversionError) : ErrorInfo :=
  ⟨error.message, error.kind⟩

end ConversionError

end RowSink
