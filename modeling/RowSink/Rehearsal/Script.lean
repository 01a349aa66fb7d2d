import RowSink.Rehearsal.Play
import RowSink.Stream.Connection

/-!
# Scripted collaborators

A source of schemas and a factory of streams that do what they were told beforehand: how long they
take, which opens and appends fail, and what is reported on the stream that is open.
-/

namespace RowSink.Rehearsal

/-- What becomes of an append. -/
inductive AppendScript where
  /-- The submission itself fails. -/
  | refused (error : SinkError)
  /-- The outcome comes after some milliseconds. -/
  | answered (delay : Nat) (outcome : AppendOutcome)

namespace AppendScript

/-- What becomes of an append if nothing else was scripted. -/
def standard : AppendScript :=
  .answered 0 (.ok { verdict := some (.appended (some 0)) })

end AppendScript

/-- An accepted submission: the gate that it waits at, and then what it waits for. -/
structure Ticket where
  gate : Option Nat
  delay : Nat
  outcome : AppendOutcome

structure Script where
  /-- What the source of schemas answers. -/
  schema : Except SinkError TableSchema
  openDelay : Nat := 0
  closeDelay : Nat := 0
  /-- The errors with which the next opens fail. -/
  openFailures : List SinkError := []
  appends : List AppendScript := []
  /-- The schema that is reported as a new one. -/
  drift : Option TableSchema := none
  /-- Whether the open stream is reported as ended. -/
  ended : Bool := false
  gate : Option Nat := none
  /-- The number of streams opened so far. -/
  opened : Nat := 0
  tickets : List Ticket := []

namespace Script

open Play

/-- The names of the columns of a type, in order. -/
def columnNames (type : RowType) : List String :=
  type.columns.map Column.name

def openStream (table : TableName) (type : RowType) : Play Script (Except SinkError Nat) := do
  let scene ← look
  let failures := scene.cast.openFailures
  changeCast fun script => { script with openFailures := script.openFailures.drop 1 }
  sleep scene.cast.openDelay
  match failures with
  | error :: _ =>
    note (.openFailed table (columnNames type))
    return .error error
  | [] =>
    changeCast fun script =>
      { script with opened := script.opened + 1, drift := none, ended := false }
    let scene ← look
    note (.opened scene.cast.opened table (columnNames type))
    return .ok scene.cast.opened

def submit (stream : Nat) (rows : List Bytes) : Play Script (Except SinkError Nat) := do
  note (.appended stream rows)
  let script := (← look).cast
  changeCast fun script => { script with appends := script.appends.drop 1 }
  match script.appends.headD .standard with
  | .refused error => return .error error
  | .answered delay outcome =>
    changeCast fun script =>
      { script with tickets := script.tickets ++ [⟨script.gate, delay, outcome⟩] }
    return .ok script.tickets.length

def await (number : Nat) : Play Script AppendOutcome := do
  match (← look).cast.tickets[number]? with
  | none => return Connection.lostOutcome
  | some ticket =>
    if let some gate := ticket.gate then wait (.permit gate)
    sleep ticket.delay
    return ticket.outcome

/-- The collaborators of the writer of a table. -/
def company (table : TableName) : Company Script where
  fetchSchema := do
    note (.schemaFetched table)
    return (← look).cast.schema
  openStream := openStream table
  updatedSchema _ := do return (← look).cast.drift
  isClosed _ := do return (← look).cast.ended
  submit := submit
  closeStream stream := do
    sleep (← look).cast.closeDelay
    note (.closed stream)
  await := await

end Script

/-- A change of the script between two steps. -/
inductive Control where
  | setSchema (schema : Except SinkError TableSchema)
  | drift (schema : Option TableSchema)
  | endStream
  | failOpens (errors : List SinkError)
  | scriptAppends (appends : List AppendScript)
  | setDelays (openDelay closeDelay : Option Nat)
  /-- From now on appends wait at a new gate, which has no permits. -/
  | newGate

namespace Control

def apply (scene : Scene Script) : Control → Scene Script
  | setSchema schema => { scene with cast := { scene.cast with schema } }
  | drift schema => { scene with cast := { scene.cast with drift := schema } }
  | endStream => { scene with cast := { scene.cast with ended := true } }
  | failOpens errors =>
    { scene with cast := { scene.cast with openFailures := scene.cast.openFailures ++ errors } }
  | scriptAppends appends =>
    { scene with cast := { scene.cast with appends := scene.cast.appends ++ appends } }
  | setDelays openDelay closeDelay =>
    { scene with
      cast :=
        { scene.cast with
          openDelay := openDelay.getD scene.cast.openDelay
          closeDelay := closeDelay.getD scene.cast.closeDelay } }
  | newGate =>
    { scene with
      permits := scene.permits ++ [0]
      cast := { scene.cast with gate := some scene.permits.length } }

end Control

end RowSink.Rehearsal
