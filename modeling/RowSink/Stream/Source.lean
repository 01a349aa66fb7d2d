import RowSink.Protocol.Messages
import RowSink.Stream.Connection

/-!
# The source of schemas

The present schema of a table is read from its default stream. The request asks for the full view
of the stream, since the schema is left out of any other.
-/

namespace RowSink

/-- A request for a stream. -/
structure StreamRequest where
  name : String
  /-- The number of the view, which says how much is told about the stream. -/
  view : Nat
  /-- The header by which the request is routed. -/
  header : String

/-- The view of a stream that has its schema. -/
def fullView : Nat := 2

/-- What a source of schemas asks the service for. -/
inductive SourceCall where
  | getStream (request : StreamRequest)

def SourceCall.Answer : SourceCall → Type
  | getStream _ => Except Status Protocol.WriteStream

namespace TableName

/-- The schema in the answer to a request for the stream of a table. -/
def schemaOf (table : TableName) :
    Except Status Protocol.WriteStream → Except SinkError TableSchema
  | .error status => .error (.call status)
  | .ok stream =>
    match stream.tableSchema with
    | some schema => .ok schema
    | none => .error (.schema ("no table schema returned for " ++ table.display))

/-- Asks for the present schema of a table. -/
def currentSchema (table : TableName) :
    Program SourceCall SourceCall.Answer (Except SinkError TableSchema) :=
  match Connection.routingHeader table.defaultStream with
  | .error error => .done (.error error)
  | .ok header =>
    .ask (.getStream ⟨table.defaultStream, fullView, header⟩) fun answer =>
      .done (table.schemaOf answer)

end TableName

end RowSink
