import RowSink.Batch.Report
import RowSink.Stream.Program
import RowSink.Table.Descriptor

/-!
# Connections

One call to the service over which rows are appended. Requests go through a channel of limited room,
and responses are matched to submissions in their order: the first submission that waits gets the
next response. When the call ends, all submissions that wait get the status it ended with. Closing a
connection stops sending and gives the service some time to end the call.
-/

namespace RowSink

open Protocol

/-- The bytes that a row may have. -/
def maxRowBytes : Nat := 10485760

/-- The milliseconds that closing waits for the service. -/
def Connection.closeTimeout : Nat := 10000

/-- The rows that are too large, with the reason. -/
def oversizedRows (rows : List Bytes) : ByIndex String :=
  rows.zipIdx.filterMap fun (row, index) =>
    if maxRowBytes < row.length then
      some ((index : Int), "row of " ++ String.ofList (Number.digits row.length) ++
        " bytes exceeds the " ++ String.ofList (Number.digits maxRowBytes) ++ " bytes limit")
    else none

/-- Refuses rows of which one is too large. -/
def checkRowSizes (rows : List Bytes) : Except SinkError Unit :=
  match oversizedRows rows with
  | [] => .ok ()
  | oversized =>
    .error (.rejected .invalidArgument
      (String.ofList (Number.digits oversized.length) ++ " rows exceed the row size limit")
      oversized)

/-- A submission by its ticket, and what it is answered with. -/
abbrev Resolution := Nat × AppendOutcome

structure Connection where
  streamName : String
  writerSchema : Message
  /-- The number of requests that the channel holds. -/
  capacity : Nat
  /-- Whether the next request is the first one. -/
  atFirst : Bool := true
  /-- Whether the sending end of the channel is there. -/
  sending : Bool := true
  /-- Whether the receiving end of the channel is there. -/
  receiving : Bool := true
  /-- The requests in the channel. -/
  queue : List AppendRequest := []
  /-- The tickets of the submissions that wait, in their order. -/
  pending : List Nat := []
  /-- The status the call ended with. -/
  terminated : Option Status := none
  /-- The last schema reported with a response. -/
  updatedSchema : Option TableSchema := none

namespace Connection

/-- A connection for rows of a type to the default stream of a table. -/
def ofType (table : TableName) (type : RowType) (capacity : Nat) : Connection :=
  { streamName := table.defaultStream, writerSchema := type.writerSchema, capacity }

section Sending

/-- The next request. Only the first one carries the name of the stream and the writer schema. -/
def nextRequest (connection : Connection) (rows : List Bytes) : AppendRequest :=
  if connection.atFirst then
    { writeStream := connection.streamName
      rows := some { writerSchema := some connection.writerSchema, rows := some rows } }
  else { rows := some { writerSchema := none, rows := some rows } }

/-- Takes a place among the submissions that wait and makes out the request, without sending it. -/
def register (connection : Connection) (ticket : Nat) (rows : List Bytes) :
    Except SinkError (Connection × AppendRequest) :=
  match checkRowSizes rows with
  | .error error => .error error
  | .ok () =>
    if connection.sending then
      match connection.terminated with
      | some status => .error (.call status)
      | none =>
        .ok ({ connection with pending := connection.pending ++ [ticket], atFirst := false },
          connection.nextRequest rows)
    else .error (.stream "append stream is closed")

/-- Whether a request can be sent without waiting. -/
def hasRoom (connection : Connection) : Bool :=
  connection.queue.length < connection.capacity

/-- Sends a request, unless nobody receives any more. -/
def send (connection : Connection) (request : AppendRequest) : Except SinkError Connection :=
  if connection.receiving then .ok { connection with queue := connection.queue ++ [request] }
  else .error (.stream "failed to submit rows: channel closed")

/-- Submits rows: registers them and sends the request. A place that was taken is kept even if the
request cannot be sent. -/
def submit (connection : Connection) (ticket : Nat) (rows : List Bytes) :
    Connection × Except SinkError Unit :=
  match connection.register ticket rows with
  | .error error => (connection, .error error)
  | .ok (registered, request) =>
    match registered.send request with
    | .error error => (registered, .error error)
    | .ok sent => (sent, .ok ())

/-- Stops sending. -/
def hangUp (connection : Connection) : Connection :=
  { connection with sending := false }

end Sending

section Receiving

/-- The schema to go on with after a response. A schema without columns is no report. -/
def reportedSchema (known : Option TableSchema) (response : AppendResponse) :
    Option TableSchema :=
  match response.updatedSchema with
  | some schema => if schema.fields.isEmpty then known else some schema
  | none => known

/-- Takes in a response: the first submission that waits is answered with it. -/
def complete (connection : Connection) (response : AppendResponse) :
    Connection × List Resolution :=
  let informed :=
    { connection with updatedSchema := reportedSchema connection.updatedSchema response }
  match connection.pending with
  | [] => (informed, [])
  | ticket :: rest => ({ informed with pending := rest }, [(ticket, .ok response)])

/-- Takes in the end of the call: every submission that waits fails with the status. The first
status is kept. -/
def terminate (connection : Connection) (status : Status) : Connection × List Resolution :=
  ({ connection with
      pending := []
      terminated := some (connection.terminated.getD status) },
    connection.pending.map fun ticket => (ticket, .error (.call status)))

/-- Nobody takes requests off the channel any more. -/
def stopReceiving (connection : Connection) : Connection :=
  { connection with receiving := false }

/-- The call is over for both sides. -/
def fail (connection : Connection) (status : Status) : Connection × List Resolution :=
  let (terminated, resolutions) := connection.terminate status
  (terminated.stopReceiving, resolutions)

/-- The status of a call that the service ended without an error. -/
def endedStatus : Status := { code := .unavailable, message := "append stream ended" }

/-- The status of a call that was given up when it did not end in time. -/
def abandonedStatus : Status := { code := .cancelled, message := "append stream was closed" }

/-- What the submissions that wait get when the connection is dropped. -/
def lostOutcome : AppendOutcome :=
  .error (.lostResponse "append response dropped: channel closed")

/-- Drops the connection with everything in it. -/
def drop (connection : Connection) : Connection × List Resolution :=
  ({ connection with pending := [], sending := false, receiving := false, queue := [] },
    connection.pending.map fun ticket => (ticket, lostOutcome))

def isTerminated (connection : Connection) : Bool :=
  connection.terminated.isSome

end Receiving

section Routing

/-- Whether a byte may stand in a header: a tab or a visible one. -/
def isHeaderByte (byte : UInt8) : Bool :=
  byte == 9 || (32 ≤ byte && byte != 127)

/-- The header by which a request for a stream is routed. -/
def routingHeader (streamName : String) : Except SinkError String :=
  let header := "write_stream=" ++ streamName
  if (Bytes.ofText header).all isHeaderByte then .ok header
  else
    .error (.stream ("invalid routing header for " ++ streamName ++
      ": failed to parse metadata value"))

/-- A new connection for rows of a type, and the header that its call carries. -/
def dial (table : TableName) (type : RowType) (capacity : Nat) :
    Except SinkError (Connection × String) :=
  (routingHeader table.defaultStream).map fun header => (ofType table type capacity, header)

end Routing

section Closing

/-- What closing a connection asks for. -/
inductive ClosingCall where
  | hangUp
  /-- Waits until the call has ended, but no longer than some milliseconds. -/
  | awaitEnd (millis : Nat)
  /-- Gives the call up, with a status for the submissions that wait. -/
  | abandon (status : Status)

/-- Waiting for the end tells whether the call has ended. -/
def ClosingCall.Answer : ClosingCall → Type
  | hangUp => Unit
  | awaitEnd _ => Bool
  | abandon _ => Unit

/-- Stops sending and waits for the call to end. A call that takes too long is given up, and a
connection that was closed before is left alone. -/
def closing (connection : Connection) : Program ClosingCall ClosingCall.Answer Unit :=
  if connection.sending then
    .ask .hangUp fun _ =>
    .ask (.awaitEnd closeTimeout) fun
      | true => .done ()
      | false => .ask (.abandon abandonedStatus) fun _ => .done ()
  else .done ()

end Closing

end Connection

end RowSink
