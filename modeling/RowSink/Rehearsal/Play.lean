import RowSink.Metrics
import RowSink.Stream.Client
import RowSink.Stream.Source

/-!
# Plays

A rehearsal runs a writer or a client where everything around it is scripted, on a clock that moves
only when nobody can go on. A play is what one thread of a rehearsal does: it looks at the scene,
changes it, and waits.
-/

namespace RowSink.Rehearsal

/-- What the scripted surroundings see. -/
inductive LogEntry where
  | schemaFetched (table : TableName)
  | openFailed (table : TableName) (columns : List String)
  | opened (stream : Nat) (table : TableName) (columns : List String)
  | appended (stream : Nat) (rows : List Bytes)
  | closed (stream : Nat)
  | streamRequested (request : StreamRequest)
  /-- A call to append rows. -/
  | called (connection : Nat) (params : String)
  | requested (connection : Nat) (request : Protocol.AppendRequest)
  /-- No more requests will come over a connection. -/
  | halfClosed (connection : Nat)

/-- What a thread waits for. -/
inductive Wait where
  /-- Its turn to be the only one in a section of the writer. -/
  | turn
  /-- A permit of a gate. -/
  | permit (gate : Nat)
  | until (time : Nat)
  | forever

/-- The surroundings of the threads, with a cast of scripted collaborators. -/
structure Scene (Cast : Type) where
  /-- The milliseconds since the rehearsal began. -/
  time : Nat := 0
  /-- The time of day. -/
  now : Instant
  /-- The thread that is in a section of the writer. -/
  inSection : Option Nat := none
  /-- The permits that each gate has left. -/
  permits : List Nat := []
  writer : WriterState := .uninitialized
  observations : List Observation := []
  log : List LogEntry := []
  cast : Cast

namespace Scene

variable {Cast : Type}

/-- Whether a thread that waits can go on. -/
def allows (scene : Scene Cast) : Wait → Bool
  | .turn => scene.inSection.isNone
  | .permit gate => 0 < scene.permits.getD gate 0
  | .until time => time ≤ scene.time
  | .forever => false

/-- The scene after a thread went on: a turn is taken, a permit is used up. -/
def grant (scene : Scene Cast) (thread : Nat) : Wait → Scene Cast
  | .turn => { scene with inSection := some thread }
  | .permit gate => { scene with permits := scene.permits.modify gate (· - 1) }
  | .until _ | .forever => scene

/-- Adds permits to a gate. -/
def release (scene : Scene Cast) (gate count : Nat) : Scene Cast :=
  { scene with permits := scene.permits.modify gate (· + count) }

def note (scene : Scene Cast) (entry : LogEntry) : Scene Cast :=
  { scene with log := scene.log ++ [entry] }

end Scene

inductive SceneCall (Cast : Type) where
  | look
  | change (update : Scene Cast → Scene Cast)
  | wait (reason : Wait)

def SceneCall.Answer {Cast : Type} : SceneCall Cast → Type
  | look => Scene Cast
  | change _ => Unit
  | wait _ => Unit

abbrev Play (Cast : Type) : Type → Type :=
  Program (SceneCall Cast) SceneCall.Answer

namespace Play

variable {Cast : Type}

def look : Play Cast (Scene Cast) :=
  .ask .look .done

def change (update : Scene Cast → Scene Cast) : Play Cast Unit :=
  .ask (.change update) .done

def changeCast (update : Cast → Cast) : Play Cast Unit :=
  change fun scene => { scene with cast := update scene.cast }

def note (entry : LogEntry) : Play Cast Unit :=
  change (·.note entry)

def wait (reason : Wait) : Play Cast Unit :=
  .ask (.wait reason) .done

/-- Lets an amount of time pass. -/
def sleep (millis : Nat) : Play Cast Unit := do
  if 0 < millis then
    let scene ← look
    wait (.until (scene.time + millis))

end Play

/-- The collaborators of a writer. -/
structure Company (Cast : Type) where
  fetchSchema : Play Cast (Except SinkError TableSchema)
  openStream : RowType → Play Cast (Except SinkError Nat)
  updatedSchema : Nat → Play Cast (Option TableSchema)
  isClosed : Nat → Play Cast Bool
  submit : Nat → List Bytes → Play Cast (Except SinkError Nat)
  closeStream : Nat → Play Cast Unit
  await : Nat → Play Cast AppendOutcome
  /-- Shows the rows of a payload, made for a type, in a definite order. -/
  arrange : RowType → Payload → Payload := fun _ payload => payload
  /-- Finishes everything that goes on without being waited for. -/
  finish : Scene Cast → Scene Cast := id

namespace Company

open Play

variable {Cast : Type}

def answerStreamCall (company : Company Cast) : (call : StreamCall) → Play Cast call.Answer
  | .fetchSchema => company.fetchSchema
  | .openStream type => company.openStream type
  | .updatedSchema handle => company.updatedSchema handle
  | .isClosed handle => company.isClosed handle
  | .submit handle rows => company.submit handle rows
  | .closeStream handle => company.closeStream handle
  | .clock => look.map Scene.time
  | .record observation =>
    change fun scene => { scene with observations := scene.observations ++ [observation] }
  | .keep state => change fun scene => { scene with writer := state }

/-- Waits for its turn and plays a section of the writer. -/
def playSection (company : Company Cast) (part : WriterSection) : Play Cast part.Answer := do
  wait .turn
  let scene ← look
  let answer ← (part.steps scene.writer).interpret company.answerStreamCall
  change fun scene => { scene with inSection := none }
  return answer

/-- A payload as it is shown, if the writer has a type for its rows. -/
def arranged (company : Company Cast) (payload : Payload) (scene : Scene Cast) : Payload :=
  match Writer.rowType scene.writer with
  | .ok type => company.arrange type payload
  | .error _ => payload

def answerClientCall (company : Company Cast) : (call : ClientCall) → Play Cast call.Answer
  | .perform (.submit payload) => do
    let scene ← look
    company.playSection (.submit (company.arranged payload scene))
  | .perform part => company.playSection part
  | .await ticket => company.await ticket
  | .clock => look.map Scene.time
  | .now => look.map Scene.now
  | .record observation =>
    change fun scene => { scene with observations := scene.observations ++ [observation] }

def play {α : Type} (company : Company Cast) (task : Task α) : Play Cast α :=
  task.interpret company.answerClientCall

end Company

end RowSink.Rehearsal
