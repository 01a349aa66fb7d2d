import Mathlib.Logic.Relation
import RowSink.Stream.Connection

/-!
# A connection in use

The owner of a connection submits rows and in the end closes it, one thing at a time. A submission
takes its place among those that wait for a response, and then waits until the channel has room for
its request. All the while requests leave the channel, responses are read, the call may end, and
those who wait for a response may leave.

What went over the connection is kept, so that one can tell which request a response answers.
-/

namespace RowSink

open Protocol

/-- What the owner of a connection is in the midst of. -/
inductive Occupation where
  | idle
  /-- A submission has its place and waits for room for its request. -/
  | sending (ticket : Nat) (request : AppendRequest)
  /-- No more requests come, and the end of the call is waited for. -/
  | closing
  | closed

structure Exchange where
  connection : Connection
  occupation : Occupation := .idle
  /-- Whether responses are read, which goes on until the call has ended. -/
  reading : Bool := true
  /-- The rows of the submissions that took a place. The ticket of each is its position. -/
  submissions : List (List Bytes) := []
  /-- The requests that went into the channel, with the tickets of their submissions. -/
  sent : List (Nat × AppendRequest) := []
  /-- The number of requests that left the channel for the service. -/
  received : Nat := 0
  /-- The responses that were read. -/
  responses : List AppendResponse := []
  resolutions : List Resolution := []
  /-- The tickets that nobody waits for any more. -/
  left : List Nat := []

namespace Exchange

def start (table : TableName) (type : RowType) (capacity : Nat) : Exchange :=
  { connection := .ofType table type capacity }

/-- The request that waits for room, if there is one. -/
def waiting (exchange : Exchange) : List (Nat × AppendRequest) :=
  match exchange.occupation with
  | .sending ticket request => [(ticket, request)]
  | _ => []

/-- The responses that submissions were answered with. -/
def answers (exchange : Exchange) : List AppendResponse :=
  exchange.resolutions.filterMap fun resolution => resolution.2.toOption

/-- One thing that happens to a connection. Every submission goes on to its end; one that is refused
changes nothing. -/
inductive Step : Exchange → Exchange → Prop where
  | register {exchange : Exchange} {rows : List Bytes} {registered : Connection}
      {request : AppendRequest} (hidle : exchange.occupation = .idle)
      (hregister : exchange.connection.register exchange.submissions.length rows =
        .ok (registered, request)) :
      Step exchange
        { exchange with
          connection := registered
          occupation := .sending exchange.submissions.length request
          submissions := exchange.submissions ++ [rows] }
  | send {exchange : Exchange} {ticket : Nat} {request : AppendRequest} {later : Connection}
      (hsending : exchange.occupation = .sending ticket request)
      (hroom : exchange.connection.hasRoom = true)
      (hsend : exchange.connection.send request = .ok later) :
      Step exchange
        { exchange with
          connection := later
          occupation := .idle
          sent := exchange.sent ++ [(ticket, request)] }
  /-- A request that nobody receives. The place of its submission is kept. -/
  | misfire {exchange : Exchange} {ticket : Nat} {request : AppendRequest} {error : SinkError}
      (hsending : exchange.occupation = .sending ticket request)
      (hsend : exchange.connection.send request = .error error) :
      Step exchange { exchange with occupation := .idle }
  | receive {exchange : Exchange} {request : AppendRequest} {rest : List AppendRequest}
      (hreceiving : exchange.connection.receiving = true)
      (hqueue : exchange.connection.queue = request :: rest) :
      Step exchange
        { exchange with
          connection := { exchange.connection with queue := rest }
          received := exchange.received + 1 }
  | stopReceiving {exchange : Exchange} :
      Step exchange { exchange with connection := exchange.connection.stopReceiving }
  | read {exchange : Exchange} (hreading : exchange.reading = true) (response : AppendResponse) :
      Step exchange
        { exchange with
          connection := (exchange.connection.complete response).1
          responses := exchange.responses ++ [response]
          resolutions := exchange.resolutions ++ (exchange.connection.complete response).2 }
  /-- The end or the failure of the call, after which nothing is read. -/
  | finish {exchange : Exchange} (hreading : exchange.reading = true) (status : Status) :
      Step exchange
        { exchange with
          connection := (exchange.connection.terminate status).1
          reading := false
          resolutions := exchange.resolutions ++ (exchange.connection.terminate status).2 }
  | leave {exchange : Exchange} {ticket : Nat} (hticket : ticket < exchange.submissions.length) :
      Step exchange { exchange with left := exchange.left ++ [ticket] }
  | hangUp {exchange : Exchange} (hidle : exchange.occupation = .idle) :
      Step exchange
        { exchange with connection := exchange.connection.hangUp, occupation := .closing }
  /-- Closing ends in time: the call has ended and nothing is read any more. -/
  | close {exchange : Exchange} (hclosing : exchange.occupation = .closing)
      (hreading : exchange.reading = false) :
      Step exchange { exchange with occupation := .closed }
  /-- Closing took too long, and the call is given up. A response may still be read meanwhile. -/
  | expire {exchange : Exchange} (hclosing : exchange.occupation = .closing) :
      Step exchange
        { exchange with
          connection := (exchange.connection.terminate Connection.abandonedStatus).1
          occupation := .closed
          resolutions := exchange.resolutions ++
            (exchange.connection.terminate Connection.abandonedStatus).2 }

/-- A step, or a submission that is given up while it waits for room. Its place is kept. -/
inductive LooseStep : Exchange → Exchange → Prop where
  | step {exchange later : Exchange} (hstep : Step exchange later) : LooseStep exchange later
  | giveUp {exchange : Exchange} {ticket : Nat} {request : AppendRequest}
      (hsending : exchange.occupation = .sending ticket request) :
      LooseStep exchange { exchange with occupation := .idle }

/-- The service answers the requests that it received, each once and in their order: there never
are more responses than requests that were received. -/
def Served (step : Exchange → Exchange → Prop) (exchange later : Exchange) : Prop :=
  step exchange later ∧ later.responses.length ≤ later.received

/-- An exchange that comes out of the opening of a connection. -/
def Reachable (step : Exchange → Exchange → Prop) (exchange : Exchange) : Prop :=
  ∃ table type capacity, Relation.ReflTransGen step (start table type capacity) exchange

end Exchange

end RowSink
