import RowSink.Rehearsal.Report
import RowSink.Rehearsal.Service

/-!
# Rehearsals of connections

The source of schemas and the connections of a table, driven step by step against a service in
memory. At most one connection is held; opening another one drops it.
-/

namespace RowSink.Rehearsal

inductive StreamStep where
  | schema
  | open (schema : TableSchema)
  /-- Submits rows, to be awaited under a name. -/
  | submit (name : String) (rows : List Bytes)
  | await (name : String)
  | updatedSchema
  | isClosed
  | close
  | drop

structure StreamRehearsal where
  stage : Stage Service StepResult
  /-- The connection that is held. -/
  handle : Option Nat := none
  /-- The tickets that can be awaited. -/
  tickets : List (String × Nat) := []

namespace StreamRehearsal

open Play

/-- Drops a connection if there is one. -/
def dropIfAny : Option Nat → Play Service Unit
  | none => return ()
  | some handle => Service.dropHandle handle

def playStep (rehearsal : StreamRehearsal) (play : Play Service StepResult) :
    StreamRehearsal × StepResult :=
  let (stage, result) := rehearsal.stage.playStep play
  ({ rehearsal with stage }, result)

/-- Plays a step that needs a connection. -/
def withHandle (rehearsal : StreamRehearsal)
    (act : Nat → StreamRehearsal × StepResult) : StreamRehearsal × StepResult :=
  match rehearsal.handle with
  | none => (rehearsal, .remark "no handle")
  | some handle => act handle

/-- Runs a play that yields a number, to be kept by the rehearsal if there is one. -/
def playNumber (rehearsal : StreamRehearsal) (play : Play Service (Except SinkError Nat))
    (keep : StreamRehearsal → Nat → StreamRehearsal) : StreamRehearsal × StepResult :=
  match play.advance rehearsal.stage.scene with
  | (.finished (.ok number), scene) =>
    (keep { rehearsal with stage := { rehearsal.stage with scene } } number, .ended (.ok ()))
  | (.finished (.error error), scene) =>
    ({ rehearsal with stage := { rehearsal.stage with scene } }, .ended (.error error))
  | (.waiting _ _, scene) =>
    ({ rehearsal with stage := { rehearsal.stage with scene } }, .blocked)

/-- Opens a connection in place of the one that is held. -/
def openStream (rehearsal : StreamRehearsal) (table : TableName) (schema : TableSchema) :
    StreamRehearsal × StepResult :=
  match Writer.rowTypeOf schema with
  | .error error => (rehearsal, .ended (.error error))
  | .ok type =>
    rehearsal.playNumber
      (do
        let opened ← Service.openStream table type
        if opened.isOk then dropIfAny rehearsal.handle
        return opened)
      fun rehearsal handle => { rehearsal with handle := some handle }

def act (rehearsal : StreamRehearsal) (table : TableName) :
    StreamStep → StreamRehearsal × StepResult
  | .schema => rehearsal.playStep ((Service.fetchSchema table).map .schema)
  | .open schema => rehearsal.openStream table schema
  | .submit name rows =>
    rehearsal.withHandle fun handle =>
      rehearsal.playNumber (Service.submit handle rows) fun rehearsal ticket =>
        { rehearsal with
          tickets := (name, ticket) :: rehearsal.tickets.filter fun (other, _) => other != name }
  | .await name =>
    match rehearsal.tickets.lookup name with
    | none => (rehearsal, .remark "no submission")
    | some ticket =>
      ({ rehearsal with
          tickets := rehearsal.tickets.filter fun (other, _) => other != name }).playStep
        ((Service.await ticket).map .appended)
  | .updatedSchema =>
    rehearsal.withHandle fun handle =>
      rehearsal.playStep ((Service.updatedSchema handle).map .updatedSchema)
  | .isClosed =>
    rehearsal.withHandle fun handle =>
      rehearsal.playStep ((Service.isClosed handle).map .flag)
  | .close =>
    rehearsal.withHandle fun handle =>
      rehearsal.playStep do
        let start ← look
        Service.closeStream handle
        let finish ← look
        return .waited (finish.time - start.time)
  | .drop =>
    let (dropped, result) :=
      rehearsal.playStep ((dropIfAny rehearsal.handle).map fun _ => .nothing)
    ({ dropped with handle := none }, result)

def runSteps (table : TableName) : List StreamStep → StreamRehearsal → List StepReport
  | [], _ => []
  | step :: rest, rehearsal =>
    let (acted, result) := rehearsal.act table step
    let (stage, report) := acted.stage.endStep (Service.company table) result
    report :: runSteps table rest { acted with stage }

/-- Rehearses the connections of a table. -/
def run (table : TableName) (service : Service) (now : Instant) (steps : List StreamStep) :
    List StepReport :=
  runSteps table steps { stage := { scene := { now, cast := service } } }

end StreamRehearsal

end RowSink.Rehearsal
