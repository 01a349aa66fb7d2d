import RowSink.Rehearsal.Report
import RowSink.Rehearsal.Script

/-!
# Rehearsals of a writer

A writer with scripted collaborators, driven step by step. Appends may run as tasks beside the steps.
-/

namespace RowSink.Rehearsal

inductive WriterStep where
  | start
  /-- The columns that rows must have at present. -/
  | columns
  | table
  | append (payload : Payload)
  /-- An append as a task with a name. -/
  | spawn (name : String) (payload : Payload)
  /-- Adds permits to the gate. -/
  | release (count : Nat)
  /-- Waits for a task. -/
  | join (name : String)
  | close
  | metrics
  | control (control : Control)

structure WriterRehearsal where
  stage : Stage Script StepResult
  /-- The threads of the tasks that can be joined. -/
  tasks : List (String × Nat) := []

namespace WriterRehearsal

open Play

def appendPlay (table : TableName) (payload : Payload) : Play Script StepResult :=
  ((Script.company table).play (Writer.append payload)).map .appended

/-- The tasks that did not end yet, in the order of their names. -/
def running (rehearsal : WriterRehearsal) : StepResult :=
  .running (((rehearsal.tasks.filter fun (_, id) => (rehearsal.stage.value? id).isNone).map
    Prod.fst).mergeSort fun left right => decide (left ≤ right))

/-- Drops the name of a task. -/
def forget (rehearsal : WriterRehearsal) (name : String) : WriterRehearsal :=
  { rehearsal with tasks := rehearsal.tasks.filter fun (other, _) => other != name }

def spawn (rehearsal : WriterRehearsal) (table : TableName) (name : String) (payload : Payload) :
    WriterRehearsal :=
  let (entered, id) := rehearsal.stage.enter (appendPlay table payload)
  { stage := entered.settle, tasks := (rehearsal.forget name).tasks ++ [(name, id)] }

/-- Adds permits to the present gate. -/
def release (rehearsal : WriterRehearsal) (count : Nat) : WriterRehearsal :=
  let opened := rehearsal.stage.change fun scene =>
    match scene.cast.gate with
    | none => scene
    | some gate => scene.release gate count
  { rehearsal with stage := opened.settle }

/-- Waits for a task. Whether it ends in time or not, it cannot be joined again. -/
def join (rehearsal : WriterRehearsal) (name : String) : WriterRehearsal × StepResult :=
  match rehearsal.tasks.lookup name with
  | none => (rehearsal, .remark "no task")
  | some id =>
    let (stage, value) := rehearsal.stage.waitFor id
    ({ rehearsal.forget name with stage }, value.getD .blocked)

def playStep (rehearsal : WriterRehearsal) (play : Play Script StepResult) :
    WriterRehearsal × StepResult :=
  let (stage, result) := rehearsal.stage.playStep play
  ({ rehearsal with stage }, result)

def act (rehearsal : WriterRehearsal) (table : TableName) :
    WriterStep → WriterRehearsal × StepResult
  | .start => rehearsal.playStep (((Script.company table).playSection .start).map .ended)
  | .columns =>
    rehearsal.playStep (((Script.company table).playSection .rowType).map fun outcome =>
      .columns (outcome.map Script.columnNames))
  | .table => (rehearsal, .remark table.display)
  | .append payload => rehearsal.playStep (appendPlay table payload)
  | .spawn name payload =>
    let spawned := rehearsal.spawn table name payload
    (spawned, spawned.running)
  | .release count =>
    let released := rehearsal.release count
    (released, released.running)
  | .join name => rehearsal.join name
  | .close =>
    rehearsal.playStep (((Script.company table).playSection .close).map fun _ => .nothing)
  | .metrics => (rehearsal, rehearsal.stage.metrics table)
  | .control control =>
    ({ rehearsal with stage := rehearsal.stage.change fun scene => control.apply scene }, .nothing)

def runSteps (table : TableName) : List WriterStep → WriterRehearsal → List StepReport
  | [], _ => []
  | step :: rest, rehearsal =>
    let (acted, result) := rehearsal.act table step
    let (stage, report) := acted.stage.endStep (Script.company table) result
    report :: runSteps table rest { acted with stage }

/-- Rehearses the writer of a table. -/
def run (table : TableName) (script : Script) (now : Instant) (steps : List WriterStep) :
    List StepReport :=
  runSteps table steps { stage := { scene := { now, cast := script } } }

end WriterRehearsal

end RowSink.Rehearsal
