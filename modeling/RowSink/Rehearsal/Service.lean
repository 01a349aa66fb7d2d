import RowSink.Rehearsal.Play

/-!
# A service in memory

The far side of the connections: it hands out schemas, and plays a list of actions on each
connection. When its actions are used up, a connection acknowledges every further request.
-/

namespace RowSink.Rehearsal

open Protocol

/-- What the service does on a connection. The first three do not wait for a request. -/
inductive ServiceAction where
  /-- Answers without a request. -/
  | extra (response : AppendResponse)
  /-- Ends the call before it reads anything. -/
  | reject (status : Status)
  /-- Reads all that comes and never ends the call. -/
  | hang
  | reply (response : AppendResponse)
  /-- Leaves a request without an answer. -/
  | hold
  | fail (status : Status)
  /-- Ends the call without an error. -/
  | finish

/-- How the service answers a request for a stream. -/
inductive StreamReply where
  | stream (schema : Option TableSchema)
  | failed (status : Status)

/-- A connection together with the far side of it. -/
structure Link where
  connection : Connection
  /-- The header that the call carries. -/
  header : String
  /-- The number of the call, once it was made. -/
  call : Option Nat := none
  /-- What the service does next. -/
  actions : List ServiceAction := []
  /-- The requests received so far. -/
  received : Nat := 0
  hanging : Bool := false
  /-- Whether the service has seen that no more requests come. -/
  seenEnd : Bool := false

structure Service where
  /-- The answers to the next requests for a stream. -/
  replies : List StreamReply := []
  /-- The actions on the next connections. -/
  scripts : List (List ServiceAction) := []
  /-- Whether no call gets through. -/
  refuses : Bool := false
  /-- The number of requests that the channel of a connection holds. -/
  capacity : Nat := 100
  /-- The number of calls made so far. -/
  calls : Nat := 0
  /-- All connections, in the order in which they were opened. -/
  links : List Link := []
  /-- The number of submissions so far. -/
  tickets : Nat := 0
  resolutions : List Resolution := []

/-- The status of a call that does not get through. -/
def Service.refusedStatus : Status := { code := .unavailable, message := "refused" }

/-- A part of what the service does. -/
abbrev Acting := StateM (Scene Service)

namespace Link

def see (entry : LogEntry) : Acting Unit :=
  modify (·.note entry)

def resolve (resolutions : List Resolution) : Acting Unit :=
  modify fun scene =>
    { scene with
      cast := { scene.cast with resolutions := scene.cast.resolutions ++ resolutions } }

/-- Passes a response to the connection. -/
def respond (link : Link) (response : AppendResponse) : Acting Link := do
  let (connection, resolutions) := link.connection.complete response
  resolve resolutions
  return { link with connection }

/-- Ends the call with a status. -/
def endCall (link : Link) (status : Status) : Acting Link := do
  let (connection, resolutions) := link.connection.fail status
  resolve resolutions
  return { link with connection }

/-- Ends the call with a status, of which `ok` is no error. -/
def endWith (link : Link) (status : Status) : Acting Link :=
  link.endCall (if status.code = .ok then Connection.endedStatus else status)

/-- Makes the call of the connection. -/
def makeCall (link : Link) : Acting Link := do
  let service := (← get).cast
  if service.refuses then link.endCall Service.refusedStatus
  else
    let number := service.calls + 1
    see (.called number link.header)
    modify fun scene =>
      { scene with
        cast := { scene.cast with calls := number, scripts := service.scripts.drop 1 } }
    return { link with call := some number, actions := service.scripts.headD [] }

/-- Takes a request off the channel. -/
def receive (link : Link) (request : AppendRequest) (rest : List AppendRequest) :
    Acting Link := do
  see (.requested (link.call.getD 0) request)
  return { link with
    connection := { link.connection with queue := rest }
    received := link.received + 1 }

/-- The response that acknowledges a request. -/
def acknowledgment (offset : Nat) : AppendResponse :=
  { verdict := some (.appended (some (Int64.ofNat offset))) }

/-- Acknowledges requests, each with the number of those before it. -/
def acknowledge : List AppendRequest → Link → Acting Link
  | [], link => return link
  | request :: rest, link => do
    let received ← link.receive request rest
    acknowledge rest (← received.respond (acknowledgment link.received))

/-- Plays actions as far as there are requests for them. -/
def playActions : List ServiceAction → Link → Acting Link
  | [], link => acknowledge link.connection.queue { link with actions := [] }
  | .extra response :: actions, link => do playActions actions (← link.respond response)
  | .reject status :: _, link => link.endWith status
  | .hang :: _, link => return { link with actions := [.hang], hanging := true }
  | action :: actions, link =>
    match link.connection.queue with
    | [] => return { link with actions := action :: actions }
    | request :: rest => do
      let received ← link.receive request rest
      match action with
      | .reply response => playActions actions (← received.respond response)
      | .fail status => received.endWith status
      | .finish => received.endCall Connection.endedStatus
      | _ => playActions actions received

/-- Reads without a word. -/
def discard (link : Link) : Link :=
  { link with connection := { link.connection with queue := [] } }

/-- Sees that no more requests come. The call ends with that unless it hangs. -/
def seeEnd (link : Link) : Acting Link := do
  if link.connection.sending || link.seenEnd then return link
  see (.halfClosed (link.call.getD 0))
  let link := { link with seenEnd := true }
  if link.hanging then return link else link.endCall Connection.endedStatus

/-- Does what can be done on a connection unless the call is over. -/
def ifGoingOn (act : Link → Acting Link) (link : Link) : Acting Link :=
  if link.connection.isTerminated then return link else act link

/-- Does all that can be done on a connection. -/
def settle (link : Link) : Acting Link := do
  let called ← ifGoingOn (fun link => if link.call.isNone then link.makeCall else return link) link
  let played ← ifGoingOn (fun link => playActions link.actions link) called
  ifGoingOn seeEnd (if played.hanging then played.discard else played)

end Link

namespace Service

open Play

/-- Does all that can be done on the connections, in the order in which they were opened. -/
def settle (scene : Scene Service) : Scene Service :=
  let (links, settled) := (scene.cast.links.mapM Link.settle).run scene
  { settled with cast := { settled.cast with links } }

/-- The answer to a request for a stream. -/
def answerOf : StreamReply → Except Status WriteStream
  | .stream schema => .ok { tableSchema := schema }
  | .failed status =>
    if status.code = .ok then
      .error { code := .internal, message := "Missing response message." }
    else .error status

def answerSourceCall : (call : SourceCall) → Play Service call.Answer
  | .getStream request => do
    let service := (← look).cast
    if service.refuses then return .error refusedStatus
    note (.streamRequested request)
    changeCast fun service => { service with replies := service.replies.drop 1 }
    return answerOf (service.replies.headD (.stream none))

def fetchSchema (table : TableName) : Play Service (Except SinkError TableSchema) :=
  table.currentSchema.interpret answerSourceCall

def openStream (table : TableName) (type : RowType) : Play Service (Except SinkError Nat) := do
  let service := (← look).cast
  match Connection.dial table type service.capacity with
  | .error error => return .error error
  | .ok (connection, header) =>
    changeCast fun service => { service with links := service.links ++ [{ connection, header }] }
    return .ok service.links.length

def connection? (service : Service) (handle : Nat) : Option Connection :=
  service.links[handle]?.map Link.connection

/-- Changes the connection of a handle. -/
def modifyConnection (service : Service) (handle : Nat)
    (update : Connection → Connection × List Resolution) : Service :=
  match service.links[handle]? with
  | none => service
  | some link =>
    let (connection, resolutions) := update link.connection
    { service with
      links := service.links.set handle { link with connection }
      resolutions := service.resolutions ++ resolutions }

def updatedSchema (handle : Nat) : Play Service (Option TableSchema) := do
  return ((← look).cast.connection? handle).bind Connection.updatedSchema

def isClosed (handle : Nat) : Play Service Bool := do
  return ((← look).cast.connection? handle).any Connection.isTerminated

def submit (handle : Nat) (rows : List Bytes) : Play Service (Except SinkError Nat) := do
  let service := (← look).cast
  match service.connection? handle with
  | none => return .error (.stream "append stream is closed")
  | some connection =>
    let (submitted, outcome) := connection.submit service.tickets rows
    changeCast fun service =>
      { service.modifyConnection handle (fun _ => (submitted, [])) with
        tickets := service.tickets + 1 }
    return outcome.map fun _ => service.tickets

/-- Whether the call of a connection has ended, with time for the service to end it. -/
def hasEnded (handle : Nat) : Play Service Bool := do
  change settle
  isClosed handle

def answerClosingCall (handle : Nat) : (call : Connection.ClosingCall) → Play Service call.Answer
  | .hangUp =>
    changeCast (·.modifyConnection handle fun connection => (connection.hangUp, []))
  | .awaitEnd millis => do
    if ← hasEnded handle then return true
    sleep millis
    hasEnded handle
  | .abandon status => changeCast (·.modifyConnection handle (·.fail status))

def closeStream (handle : Nat) : Play Service Unit := do
  match (← look).cast.connection? handle with
  | none => return ()
  | some connection => connection.closing.interpret (answerClosingCall handle)

/-- Drops a handle and all that waits for it. -/
def dropHandle (handle : Nat) : Play Service Unit :=
  changeCast (·.modifyConnection handle Connection.drop)

def await (ticket : Nat) : Play Service AppendOutcome := do
  change settle
  match (← look).cast.resolutions.lookup ticket with
  | some outcome => return outcome
  | none =>
    wait .forever
    return Connection.lostOutcome

/-- The service as the collaborators of the writer of a table. -/
def company (table : TableName) : Company Service where
  fetchSchema := fetchSchema table
  openStream := openStream table
  updatedSchema := updatedSchema
  isClosed := isClosed
  submit := submit
  closeStream := closeStream
  await := await
  finish := settle

end Service

end RowSink.Rehearsal
