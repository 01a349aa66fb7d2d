import RowSink.Rehearsal.Stage

/-!
# What a rehearsal shows

The result of each step, and what the surroundings saw up to its end.
-/

namespace RowSink.Rehearsal

inductive StepResult where
  | nothing
  | ended (outcome : Except SinkError Unit)
  | columns (outcome : Except SinkError (List String))
  | schema (outcome : Except SinkError TableSchema)
  | updatedSchema (schema : Option TableSchema)
  | appended (outcome : AppendOutcome)
  | reported (outcome : Except SinkError ErrorsByIndex)
  | metrics (readings : List (String × Metrics.Reading))
  /-- The tasks that did not end yet. -/
  | running (tasks : List String)
  | waited (millis : Nat)
  | flag (value : Bool)
  | remark (text : String)

/-- The result of a step that waits for something that never comes. -/
def StepResult.blocked : StepResult := .remark "blocked"

structure StepReport where
  result : StepResult
  log : List LogEntry

namespace Stage

variable {Cast : Type}

/-- Plays a step. -/
def playStep (stage : Stage Cast StepResult) (play : Play Cast StepResult) :
    Stage Cast StepResult × StepResult :=
  let (played, value) := stage.perform play
  (played, value.getD .blocked)

/-- Finishes what still goes on after a step, and reports the step. -/
def endStep (stage : Stage Cast StepResult) (company : Company Cast) (result : StepResult) :
    Stage Cast StepResult × StepReport :=
  let (next, log) := (stage.settle.change company.finish).takeLog
  (next, { result, log })

/-- The metrics of a table after all that happened. -/
def metrics (stage : Stage Cast StepResult) (table : TableName) : StepResult :=
  .metrics (Metrics.changes table stage.scene.observations)

end Stage

end RowSink.Rehearsal
