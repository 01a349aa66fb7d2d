import RowSink.Stream.Connection
import RowSink.Stream.Interleaving

/-!
# The streams of a writer over time

The streams that a writer has opened go on by themselves: responses are read on them, and they end,
at any moment, also between two calls of one section. A timeline puts the calls of the writer and
what goes on on its streams into one order, and the writer learns of a stream what its connection
knows at the moment of the question.
-/

namespace RowSink

open Protocol

/-- One thing that a writer does or that happens on a stream. -/
inductive Moment where
  /-- A call of the writer that was answered. -/
  | called (event : StreamEvent)
  /-- A response that was read on a stream. -/
  | read (handle : Nat) (response : AppendResponse)
  /-- The end of the call that a stream is. -/
  | ended (handle : Nat) (status : Status)

namespace Moment

def call? : Moment → Option StreamEvent
  | called event => some event
  | _ => none

/-- Whether a stream was opened. -/
def opens : Moment → Bool
  | called ⟨.openStream _, .ok _⟩ => true
  | _ => false

/-- The response that was read on a stream. -/
def readOn? (handle : Nat) : Moment → Option AppendResponse
  | read target response => if target = handle then some response else none
  | _ => none

/-- The connection of a stream after a moment. -/
def connect (table : TableName) (capacity handle : Nat) (connection : Option Connection) :
    Moment → Option Connection
  | called ⟨.openStream type, .ok opened⟩ =>
    if opened = handle then some (.ofType table type capacity) else connection
  | called ⟨.submit target rows, .ok ticket⟩ =>
    if target = handle then connection.map fun present => (present.submit ticket rows).1
    else connection
  | called ⟨.closeStream target, _⟩ =>
    if target = handle then connection.map Connection.hangUp else connection
  | read target response =>
    if target = handle then connection.map fun present => (present.complete response).1
    else connection
  | ended target status =>
    if target = handle then connection.map fun present => (present.terminate status).1
    else connection
  | _ => connection

/-- What the writer is told of a stream is what its connection knows. -/
def Honest (connections : Nat → Option Connection) : Moment → Prop
  | called ⟨.updatedSchema handle, report⟩ =>
    (connections handle).map Connection.updatedSchema = some report
  | called ⟨.isClosed handle, answer⟩ =>
    (connections handle).map Connection.isTerminated = some answer
  | _ => True

end Moment

abbrev Timeline := List Moment

namespace Timeline

/-- The calls of the writer. -/
def calls (timeline : Timeline) : List StreamEvent :=
  timeline.filterMap Moment.call?

/-- The responses that were read on a stream. -/
def readOn (timeline : Timeline) (handle : Nat) : List AppendResponse :=
  timeline.filterMap (Moment.readOn? handle)

/-- The connections after a moment. -/
def advance (table : TableName) (capacity : Nat) (connections : Nat → Option Connection)
    (moment : Moment) (handle : Nat) : Option Connection :=
  moment.connect table capacity handle (connections handle)

/-- Every question is answered honestly. -/
def Honest (table : TableName) (capacity : Nat) (connections : Nat → Option Connection) :
    Timeline → Prop
  | [] => True
  | moment :: rest =>
    moment.Honest connections ∧
      Honest table capacity (advance table capacity connections moment) rest

/-- A timeline of everything that happened in a world. -/
structure Tells (table : TableName) (capacity : Nat) (world : World) (timeline : Timeline) :
    Prop where
  calls_eq : timeline.calls = world.history.events
  honest : timeline.Honest table capacity fun _ => none

end Timeline

/-- The last schema that was reported with a response. A schema without columns is no report. -/
def lastReported (responses : List AppendResponse) : Option TableSchema :=
  (responses.filterMap fun response =>
    response.updatedSchema.filter fun schema => !schema.fields.isEmpty).getLast?

end RowSink
