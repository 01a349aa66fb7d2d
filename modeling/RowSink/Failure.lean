import RowSink.ByIndex
import RowSink.Status

/-!
# Failures

A `SinkError` is a condition under which an operation of the sink cannot go on. What goes wrong
with a single record is never raised: it is an `ErrorInfo`, with a kind that says whether sending
the record again can help.
-/

namespace RowSink

inductive SinkError where
  | config (reason : String)
  | schema (reason : String)
  | stream (reason : String)
  | call (status : Status)
  /-- Rows refused before they were sent, with a reason for each refused row position. -/
  | rejected (code : StatusCode) (reason : String) (rows : ByIndex String)
  | lostResponse (reason : String)
  deriving DecidableEq

namespace SinkError

def message : SinkError → String
  | config reason => "Config Error - " ++ reason
  | schema reason => "Schema Error - " ++ reason
  | stream reason => "Stream Error - " ++ reason
  | call status => "gRPC Error - " ++ status.display
  | rejected code reason _ => "Append Serialization Error - " ++ code.name ++ ": " ++ reason
  | lostResponse reason => "OneShot Receiver Error - " ++ reason

/-- The code of the remote call. An error that did not come from a call has an unknown one. -/
def statusCode : SinkError → StatusCode
  | call status => status.code
  | rejected code _ _ => code
  | _ => .unknown

/-- The reasons attached to single rows, by row position. -/
def rowErrors : SinkError → ByIndex String
  | rejected _ _ rows => rows
  | _ => []

end SinkError

/-- Classes of failed records, in the order in which they are counted. -/
inductive ErrorKind where
  | unknownFields
  | invalidMessage
  | deserialization
  | sink4xx
  | sink5xx
  | sinkRetryable
  | sinkUnknown
  deriving DecidableEq, Repr

namespace ErrorKind

def all : List ErrorKind :=
  [unknownFields, invalidMessage, deserialization, sink4xx, sink5xx, sinkRetryable, sinkUnknown]

def name : ErrorKind → String
  | unknownFields => "UNKNOWN_FIELDS_ERROR"
  | invalidMessage => "INVALID_MESSAGE_ERROR"
  | deserialization => "DESERIALIZATION_ERROR"
  | sink4xx => "SINK_4XX_ERROR"
  | sink5xx => "SINK_5XX_ERROR"
  | sinkRetryable => "SINK_RETRYABLE_ERROR"
  | sinkUnknown => "SINK_UNKNOWN_ERROR"

/-- Whether the caller may send the record again. -/
def isRetryable : ErrorKind → Bool
  | sink5xx | sinkRetryable => true
  | _ => false

end ErrorKind

/-- The failure reported for one record. -/
structure ErrorInfo where
  cause : String
  kind : ErrorKind
  deriving DecidableEq

namespace ErrorInfo

def message (info : ErrorInfo) : String :=
  info.kind.name ++ ": " ++ info.cause

end ErrorInfo

/-- Failures by the position of their record. -/
abbrev ErrorsByIndex := ByIndex ErrorInfo

end RowSink
