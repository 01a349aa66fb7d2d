import RowSink.Batch.Payload
import RowSink.Metrics
import RowSink.Protocol.Messages
import RowSink.Stream.Program
import RowSink.Table.Descriptor

/-!
# The writer of a table

The one stream of a table is shared by all who write to it. Looking at the stream, replacing it and
submitting rows happen in sections of which no two overlap, so rows are submitted in order; waiting
for an answer happens outside of them.

A stream is replaced when the service reports another schema or has ended it. The old stream is
closed before a new one is opened, and if opening fails the writer is broken until a later submission
opens a stream with the same row type. Closing is final.
-/

namespace RowSink

/-- An open stream and the type of its rows. -/
structure ActiveStream where
  type : RowType
  handle : Nat

inductive WriterState where
  | uninitialized
  | ready (stream : ActiveStream)
  /-- The former stream is gone and no new one could be opened yet. -/
  | broken (type : RowType)
  /-- The last row type is kept, so batches can still be converted. -/
  | closed (type : Option RowType)

/-- What a section of a writer asks for. -/
inductive StreamCall where
  /-- The present schema of the table. -/
  | fetchSchema
  | openStream (type : RowType)
  /-- The schema that the service reported on a stream after it was opened. -/
  | updatedSchema (handle : Nat)
  /-- Whether the service has ended a stream. -/
  | isClosed (handle : Nat)
  /-- Submits rows; the answer is a ticket for the response. -/
  | submit (handle : Nat) (rows : List Bytes)
  | closeStream (handle : Nat)
  /-- The milliseconds on a clock that never goes back. -/
  | clock
  | record (observation : Observation)
  /-- Leaves the writer in a state. -/
  | keep (state : WriterState)

namespace StreamCall

def Answer : StreamCall → Type
  | fetchSchema => Except SinkError TableSchema
  | openStream _ => Except SinkError Nat
  | updatedSchema _ => Option TableSchema
  | isClosed _ => Bool
  | submit _ _ => Except SinkError Nat
  | closeStream _ => Unit
  | clock => Nat
  | record _ => Unit
  | keep _ => Unit

end StreamCall

/-- A part of a section that ends with a value. -/
abbrev Steps (α : Type) := Program StreamCall StreamCall.Answer α

namespace Writer

def closedMessage : String := "stream writer is permanently closed"

def uninitializedMessage : String := "stream writer is not initialized"

/-- The answer to rows that come after the writer was closed. -/
def closedResponse : Protocol.AppendResponse :=
  { verdict :=
      some (.failed { code := Int32.ofNat StatusCode.failedPrecondition.number,
                      message := closedMessage }) }

def rowTypeOf (schema : TableSchema) : Except SinkError RowType :=
  (RowType.ofTable schema).mapError fun error => .schema error.message

/-- Opens a stream and leaves the writer with it. Only an open that succeeds is timed. -/
def openWith (type : RowType) : Steps (Except SinkError ActiveStream) :=
  .ask .clock fun (start : Nat) =>
  .ask (.openStream type) fun
    | .error error => .done (.error error)
    | .ok handle =>
      .ask .clock fun (finish : Nat) =>
      .ask (.record (.operation .createStream (finish - start))) fun _ =>
      .ask (.keep (.ready ⟨type, handle⟩)) fun _ =>
      .done (.ok ⟨type, handle⟩)

/-- Closes a stream and times it. -/
def closeHandle (handle : Nat) : Steps Unit :=
  .ask .clock fun (start : Nat) =>
  .ask (.closeStream handle) fun _ =>
  .ask .clock fun (finish : Nat) =>
  .ask (.record (.operation .closeStream (finish - start))) fun _ =>
  .done ()

/-- Fetches the schema of the table and opens the first stream. -/
def start (state : WriterState) : Steps (Except SinkError Unit) :=
  match state with
  | .ready _ | .broken _ => .done (.ok ())
  | .closed _ => .done (.error (.stream closedMessage))
  | .uninitialized =>
    .ask .fetchSchema fun
      | .error error => .done (.error error)
      | .ok schema =>
        match rowTypeOf schema with
        | .error error => .done (.error error)
        | .ok type => (openWith type).map fun opened => opened.map fun _ => ()

/-- The type that rows must have at present. -/
def rowType (state : WriterState) : Except SinkError RowType :=
  match state with
  | .ready stream => .ok stream.type
  | .broken type => .ok type
  | .closed (some type) => .ok type
  | .closed none => .error (.stream closedMessage)
  | .uninitialized => .error (.stream uninitializedMessage)

/-- Opens a stream in place of one that is gone. A stream that was closed is never kept, even if the
new one cannot be opened. -/
def reopen (type : RowType) : Steps (Except SinkError ActiveStream) :=
  .ask (.keep (.broken type)) fun _ => openWith type

/-- The stream to submit rows to, replaced first if it has to be. -/
def refresh (stream : ActiveStream) : Steps (Except SinkError ActiveStream) :=
  .ask (.updatedSchema stream.handle) fun
    | some schema =>
      match rowTypeOf schema with
      | .error error => .done (.error error)
      | .ok type => (closeHandle stream.handle).bind fun _ => reopen type
    | none =>
      .ask (.isClosed stream.handle) fun
        | true => reopen stream.type
        | false => .done (.ok stream)

/-- What became of a submission: answered at once, or pending under a ticket. -/
inductive Submission where
  | answered (response : Protocol.AppendResponse)
  | pending (ticket : Nat)

/-- Submits rows to a stream that is fit for them. -/
def submitTo (payload : Payload) (stream : ActiveStream) : Steps (Except SinkError Submission) :=
  .ask (.record (.submission payload.validCount payload.byteSize)) fun _ =>
  .ask (.submit stream.handle payload.rows) fun
    | .error error => .done (.error error)
    | .ok ticket => .done (.ok (.pending ticket))

/-- Submits the rows of a payload. -/
def submit (payload : Payload) (state : WriterState) : Steps (Except SinkError Submission) :=
  let submitIfOpen : Except SinkError ActiveStream → Steps (Except SinkError Submission)
    | .error error => .done (.error error)
    | .ok stream => submitTo payload stream
  match state with
  | .closed _ => .done (.ok (.answered closedResponse))
  | .uninitialized => .done (.error (.stream uninitializedMessage))
  | .ready stream => (refresh stream).bind submitIfOpen
  | .broken type => (reopen type).bind submitIfOpen

/-- Closes the stream for good. -/
def close (state : WriterState) : Steps Unit :=
  match state with
  | .ready stream =>
    (closeHandle stream.handle).bind fun _ =>
      .ask (.keep (.closed (some stream.type))) fun _ => .done ()
  | .broken type => .ask (.keep (.closed (some type))) fun _ => .done ()
  | .closed type => .ask (.keep (.closed type)) fun _ => .done ()
  | .uninitialized => .ask (.keep (.closed none)) fun _ => .done ()

end Writer

end RowSink
