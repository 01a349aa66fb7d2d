import RowSink.Batch.Report
import RowSink.Stream.Writer

/-!
# The client of a table

Pushing a batch: convert it with the row type of the present stream, submit the rows that converted,
wait for the answer, and report what failed by the position of its message.
-/

namespace RowSink

/-- The sections of a writer. -/
inductive WriterSection where
  | start
  | rowType
  | submit (payload : Payload)
  | close

namespace WriterSection

def Answer : WriterSection → Type
  | start => Except SinkError Unit
  | rowType => Except SinkError RowType
  | submit _ => Except SinkError Writer.Submission
  | close => Unit

/-- What a section does in a state of the writer. -/
def steps : (part : WriterSection) → WriterState → Steps part.Answer
  | start, state => Writer.start state
  | rowType, state => .done (Writer.rowType state)
  | submit payload, state => Writer.submit payload state
  | close, state => Writer.close state

end WriterSection

/-- What a client asks for. -/
inductive ClientCall where
  /-- A section of the writer, with no other section meanwhile. -/
  | perform (part : WriterSection)
  /-- The response to a submission. -/
  | await (ticket : Nat)
  /-- The milliseconds on a clock that never goes back. -/
  | clock
  /-- The time of day. -/
  | now
  | record (observation : Observation)

namespace ClientCall

def Answer : ClientCall → Type
  | perform part => part.Answer
  | await _ => AppendOutcome
  | clock => Nat
  | now => Instant
  | record _ => Unit

end ClientCall

/-- A part of the work of a client that ends with a value. -/
abbrev Task (α : Type) := Program ClientCall ClientCall.Answer α

namespace Writer

/-- Waits for the response to a submission and times it. -/
def awaitResponse (ticket : Nat) : Task AppendOutcome :=
  .ask .clock fun (start : Nat) =>
  .ask (.await ticket) fun outcome =>
  .ask .clock fun (finish : Nat) =>
  .ask (.record (.operation .append (finish - start))) fun _ =>
  .done outcome

/-- Submits the rows of a payload and waits for the response. -/
def append (payload : Payload) : Task AppendOutcome :=
  .ask (.perform (.submit payload)) fun
    | .error error => .done (.error error)
    | .ok (.answered response) => .done (.ok response)
    | .ok (.pending ticket) => awaitResponse ticket

end Writer

/-- A client converts with a parser and a configuration and knows the codes worth a retry. -/
structure Client where
  parser : RecordParser
  config : ConverterConfig
  retryableCodes : List StatusCode

namespace Client

/-- Counts failures, kind by kind. -/
def recordFailures : List (ErrorKind × Nat) → Task Unit
  | [] => .done ()
  | (kind, count) :: rest =>
    .ask (.record (.failures kind count)) fun _ => recordFailures rest

/-- Appends the rows of a payload, if it has any, and says which messages failed. -/
def deliver (client : Client) (payload : Payload) : Task ErrorsByIndex :=
  if payload.isEmpty then .done payload.conversionErrors
  else (Writer.append payload).map (payload.report client.retryableCodes)

/-- Writes a batch and says which of its messages failed. The batch itself fails only if there never
was a stream. -/
def push (client : Client) (batch : List InputMessage) : Task (Except SinkError ErrorsByIndex) :=
  if batch.isEmpty then .done (.ok [])
  else
    .ask (.perform .rowType) fun
      | .error error => .done (.error error)
      | .ok target =>
        .ask .now fun now =>
          (client.deliver (Conversion.payload ⟨client.parser, client.config, target⟩ now batch)).bind
            fun errors => (recordFailures errors.countByKind).bind fun _ => .done (.ok errors)

/-- Opens the first stream. -/
def start : Task (Except SinkError Unit) :=
  .ask (.perform .start) .done

def close : Task Unit :=
  .ask (.perform .close) .done

end Client

end RowSink
