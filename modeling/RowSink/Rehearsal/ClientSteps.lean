import RowSink.Rehearsal.Report

/-!
# Rehearsals of a client

A client driven step by step, with any company.
-/

namespace RowSink.Rehearsal

inductive ClientAction (Cast : Type) where
  | start
  | push (batch : List InputMessage)
  | close
  | metrics
  /-- Changes the surroundings. -/
  | change (update : Scene Cast → Scene Cast)

structure ClientStep (Cast : Type) where
  /-- The time of day from this step on, if it changes. -/
  now : Option Instant
  action : ClientAction Cast

structure ClientRehearsal (Cast : Type) where
  table : TableName
  client : Client
  company : Company Cast

namespace ClientRehearsal

variable {Cast : Type}

def act (rehearsal : ClientRehearsal Cast) (stage : Stage Cast StepResult) :
    ClientAction Cast → Stage Cast StepResult × StepResult
  | .start => stage.playStep ((rehearsal.company.play Client.start).map .ended)
  | .push batch =>
    stage.playStep ((rehearsal.company.play (rehearsal.client.push batch)).map .reported)
  | .close => stage.playStep ((rehearsal.company.play Client.close).map fun _ => .nothing)
  | .metrics => (stage, stage.metrics rehearsal.table)
  | .change update => (stage.change update, .nothing)

def runSteps (rehearsal : ClientRehearsal Cast) :
    List (ClientStep Cast) → Stage Cast StepResult → List StepReport
  | [], _ => []
  | step :: rest, stage =>
    let timed := stage.change fun scene => { scene with now := step.now.getD scene.now }
    let (acted, result) := rehearsal.act timed step.action
    let (next, report) := acted.endStep rehearsal.company result
    report :: rehearsal.runSteps rest next

/-- Rehearses a client. -/
def run (rehearsal : ClientRehearsal Cast) (cast : Cast) (now : Instant)
    (steps : List (ClientStep Cast)) : List StepReport :=
  rehearsal.runSteps steps { scene := { now, cast } }

end ClientRehearsal

end RowSink.Rehearsal
