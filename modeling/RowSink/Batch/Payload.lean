import RowSink.Batch.Record

/-!
# Payloads

The rows of a batch with the outcome of every input message. A message that fails has no row, so
positions of rows and positions of messages drift apart after the first failure; the payload keeps
the way back from one to the other.
-/

namespace RowSink

/-- What became of one input message. -/
structure Outcome where
  index : Nat
  failure : Option ErrorInfo
  /-- Whether the message has a row. -/
  isValid : Bool
  deriving DecidableEq

structure Payload where
  outcomes : List Outcome
  rows : List Bytes
  /-- The position of the input message of each row, by the position of the row. -/
  inputByRow : ByIndex Nat
  deriving DecidableEq

namespace Payload

def empty : Payload := ⟨[], [], []⟩

/-- Adds the result of converting the message at a position. -/
def push (payload : Payload) (index : Nat) : Except ConversionError Bytes → Payload
  | .ok row =>
    { outcomes := payload.outcomes ++ [⟨index, none, true⟩]
      rows := payload.rows ++ [row]
      inputByRow := payload.inputByRow.insert payload.rows.length index }
  | .error error =>
    { payload with outcomes := payload.outcomes ++ [⟨index, some error.info, false⟩] }

/-- Adds results for the messages from a position on. -/
def pushAll (payload : Payload) (index : Nat) : List (Except ConversionError Bytes) → Payload
  | [] => payload
  | result :: rest => (payload.push index result).pushAll (index + 1) rest

/-- The payload of a batch from the result of each of its messages. -/
def ofResults (results : List (Except ConversionError Bytes)) : Payload :=
  empty.pushAll 0 results

def isEmpty (payload : Payload) : Bool :=
  payload.rows.isEmpty

def validCount (payload : Payload) : Nat :=
  payload.rows.length

/-- The number of bytes in the rows. -/
def byteSize (payload : Payload) : Nat :=
  payload.rows.foldl (fun size row => size + row.length) 0

/-- The positions of the input messages that have a row, in the order of the rows. -/
def inputs (payload : Payload) : List Nat :=
  payload.inputByRow.map (·.2)

/-- The position of the input message of a row. -/
def inputIndex? (payload : Payload) (row : Int) : Option Nat :=
  payload.inputByRow.get? row

def failures (payload : Payload) : List Outcome :=
  payload.outcomes.filter fun outcome => !outcome.isValid

/-- The failures of the conversion by input position. -/
def conversionErrors (payload : Payload) : ErrorsByIndex :=
  .ofList (payload.failures.filterMap fun outcome =>
    outcome.failure.map fun info => ((outcome.index : Int), info))

end Payload

namespace Conversion

/-- Converts a batch. Every message is converted on its own, all of them at the same time. -/
def payload (conversion : Conversion) (now : Instant) (batch : List InputMessage) : Payload :=
  .ofResults (batch.map (conversion.rowBytes now))

end Conversion

end RowSink
