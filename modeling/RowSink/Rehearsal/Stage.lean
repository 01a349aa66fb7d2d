import RowSink.Rehearsal.Play

/-!
# Stages

The threads of a rehearsal and the scene they share. Of the threads that can go on, the one that has
waited longest does, until none can; then time moves to the next moment for which one waits.
-/

namespace RowSink.Rehearsal

/-- How far a thread came: to its end, or to the next thing it waits for. -/
inductive Progress (Cast α : Type) where
  | finished (value : α)
  | waiting (reason : Wait) (rest : Play Cast α)

/-- Plays until the thread has to wait. -/
def Play.advance {Cast α : Type} : Play Cast α → Scene Cast → Progress Cast α × Scene Cast
  | .done value, scene => (.finished value, scene)
  | .ask .look next, scene => Play.advance (next scene) scene
  | .ask (.change update) next, scene => Play.advance (next ()) (update scene)
  | .ask (.wait reason) next, scene => (.waiting reason (next ()), scene)

/-- A thread that waits, and how it goes on. -/
structure Thread (Cast α : Type) where
  id : Nat
  reason : Wait
  rest : Play Cast α

structure Stage (Cast α : Type) where
  scene : Scene Cast
  /-- The threads that wait, the one that has waited longest first. -/
  waiting : List (Thread Cast α) := []
  finished : List (Nat × α) := []
  nextId : Nat := 0

namespace Stage

variable {Cast α : Type}

/-- Lets a thread play until it waits or ends. -/
def run (stage : Stage Cast α) (id : Nat) (play : Play Cast α) : Stage Cast α :=
  match play.advance stage.scene with
  | (.finished value, scene) =>
    { stage with scene, finished := stage.finished ++ [(id, value)] }
  | (.waiting reason rest, scene) =>
    { stage with scene, waiting := stage.waiting ++ [{ id, reason, rest }] }

/-- Brings in a new thread. -/
def enter (stage : Stage Cast α) (play : Play Cast α) : Stage Cast α × Nat :=
  (({ stage with nextId := stage.nextId + 1 } : Stage Cast α).run stage.nextId play, stage.nextId)

/-- The first thread that can go on, and the others. -/
def pickReady (scene : Scene Cast) :
    List (Thread Cast α) → Option (Thread Cast α × List (Thread Cast α))
  | [] => none
  | thread :: rest =>
    if scene.allows thread.reason then some (thread, rest)
    else (pickReady scene rest).map fun (picked, others) => (picked, thread :: others)

/-- Lets the first thread that can go on do so. -/
def step? (stage : Stage Cast α) : Option (Stage Cast α) :=
  (pickReady stage.scene stage.waiting).map fun (thread, others) =>
    let granted := stage.scene.grant thread.id thread.reason
    ({ stage with scene := granted, waiting := others } : Stage Cast α).run thread.id thread.rest

/-- More steps than the threads at hand can make: none waits more than sixteen times. -/
def stepBound (stage : Stage Cast α) : Nat :=
  16 * (stage.waiting.length + 1)

def settleWithin : Nat → Stage Cast α → Stage Cast α
  | 0, stage => stage
  | steps + 1, stage =>
    match stage.step? with
    | none => stage
    | some next => settleWithin steps next

/-- Lets threads go on until none can. -/
def settle (stage : Stage Cast α) : Stage Cast α :=
  settleWithin stage.stepBound stage

/-- The next moment for which a thread waits. -/
def nextTime? (stage : Stage Cast α) : Option Nat :=
  (stage.waiting.filterMap fun thread =>
    match thread.reason with
    | .until time => some time
    | _ => none).min?

def value? (stage : Stage Cast α) (id : Nat) : Option α :=
  stage.finished.lookup id

def playWithin (id deadline : Nat) : Nat → Stage Cast α → Stage Cast α
  | 0, stage => stage.settle
  | steps + 1, stage =>
    let settled := stage.settle
    match settled.value? id, settled.nextTime? with
    | none, some time =>
      if time ≤ deadline then
        playWithin id deadline steps { settled with scene := { settled.scene with time := time } }
      else settled
    | _, _ => settled

/-- The milliseconds after which a wait counts as one without end. -/
def patience : Nat := 3600000

/-- Lets time pass until a thread ends, and gives its value. If it does not end in time, the clock
stands at the deadline. -/
def waitFor (stage : Stage Cast α) (id : Nat) : Stage Cast α × Option α :=
  let deadline := stage.scene.time + patience
  let played := playWithin id deadline stage.stepBound stage
  match played.value? id with
  | some value =>
    ({ played with finished := played.finished.filter fun (other, _) => other != id }, some value)
  | none => ({ played with scene := { played.scene with time := deadline } }, none)

/-- Removes a thread. If it was in a section of the writer, the section is free again. -/
def cancel (stage : Stage Cast α) (id : Nat) : Stage Cast α :=
  { stage with
    waiting := stage.waiting.filter fun thread => thread.id != id
    scene :=
      if stage.scene.inSection = some id then { stage.scene with inSection := none }
      else stage.scene }

/-- Plays to the end, or gives up after waiting too long. -/
def perform (stage : Stage Cast α) (play : Play Cast α) : Stage Cast α × Option α :=
  let (entered, id) := stage.enter play
  match entered.waitFor id with
  | (played, some value) => (played, some value)
  | (played, none) => ((played.cancel id).settle, none)

/-- The entries since the log was last taken. -/
def takeLog (stage : Stage Cast α) : Stage Cast α × List LogEntry :=
  ({ stage with scene := { stage.scene with log := [] } }, stage.scene.log)

/-- Changes the scene. -/
def change (stage : Stage Cast α) (update : Scene Cast → Scene Cast) : Stage Cast α :=
  { stage with scene := update stage.scene }

end Stage

end RowSink.Rehearsal
