import Mathlib.Logic.Relation
import RowSink.Stream.Client

/-!
# Threads that share a writer

Any number of threads work with one writer at the same time. Between two of their sections, and
while one of them waits for a response, the others go on. A thread may also be given up wherever it
waits: for its turn, for a response, or in the midst of a section, which then stays unfinished.

What happened is kept in a history, so that one can tell what a thread did and what others did
between two of its steps.
-/

namespace RowSink

abbrev StreamEvent := Program.Event StreamCall StreamCall.Answer

abbrev ClientEvent := Program.Event ClientCall ClientCall.Answer

/-- Whether a section waits for an answer, so that it may be given up there. -/
def StreamCall.waits : StreamCall → Bool
  | fetchSchema | openStream _ | submit _ _ | closeStream _ => true
  | _ => false

namespace WriterState

def note (state : WriterState) : StreamEvent → WriterState
  | ⟨.keep kept, _⟩ => kept
  | _ => state

/-- The state that a writer is in after some calls of a section. -/
def after (state : WriterState) (events : List StreamEvent) : WriterState :=
  events.foldl note state

end WriterState

/-- What a thread may be started for. -/
inductive Request where
  | start
  | push (batch : List InputMessage)
  /-- An append without a client. -/
  | append (payload : Payload)
  | close

namespace Request

def Result : Request → Type
  | start => Except SinkError Unit
  | push _ => Except SinkError ErrorsByIndex
  | append _ => AppendOutcome
  | close => Unit

def task (client : Client) : (request : Request) → Task request.Result
  | start => Client.start
  | push batch => client.push batch
  | append payload => Writer.append payload
  | close => Client.close

end Request

structure Thread where
  request : Request
  /-- What is left to do, unless the thread was given up. -/
  rest : Option (Task request.Result)

/-- What may happen to a thread. -/
inductive Happening where
  | asked (call : ClientCall) (answer : call.Answer)
  | performed (part : WriterSection) (events : List StreamEvent) (answer : part.Answer)
  /-- A section that was given up while it waited for an answer. -/
  | interrupted (part : WriterSection) (events : List StreamEvent) (pending : StreamCall)

namespace Happening

def call : Happening → ClientCall
  | asked call _ => call
  | performed part _ _ | interrupted part _ _ => .perform part

/-- The call with its answer, if it got one. -/
def answered? : Happening → Option ClientEvent
  | asked call answer => some ⟨call, answer⟩
  | performed part _ answer => some ⟨.perform part, answer⟩
  | interrupted _ _ _ => none

/-- The calls that a section made and that were answered. -/
def events : Happening → List StreamEvent
  | asked _ _ => []
  | performed _ events _ | interrupted _ events _ => events

end Happening

/-- What happened, with the threads that it happened to. -/
abbrev History := List (Nat × Happening)

namespace History

def events (history : History) : List StreamEvent :=
  history.flatMap fun entry => entry.2.events

/-- What happened to one thread. -/
def of (history : History) (index : Nat) : List Happening :=
  history.filterMap fun (thread, happening) => if thread = index then some happening else none

end History

structure World where
  writer : WriterState := .uninitialized
  threads : List Thread := []
  history : History := []

namespace World

/-- The world after something happened to a thread. -/
def happen (world : World) (index : Nat) (thread : Thread) (happening : Happening)
    (writer : WriterState) : World where
  writer := writer
  threads := world.threads.set index thread
  history := world.history ++ [(index, happening)]

/-- One step of some thread, or the start of a new one. -/
inductive Step (client : Client) : World → World → Prop where
  | begin (world : World) (request : Request) :
      Step client world
        { world with threads := world.threads ++ [⟨request, some (request.task client)⟩] }
  | ask {world : World} (index : Nat) {request : Request} (call : ClientCall)
      {next : call.Answer → Task request.Result}
      (hthread : world.threads[index]? = some ⟨request, some (.ask call next)⟩)
      (hown : ∀ part, call ≠ .perform part) (answer : call.Answer) :
      Step client world
        (world.happen index ⟨request, some (next answer)⟩ (.asked call answer) world.writer)
  | perform {world : World} (index : Nat) {request : Request} {part : WriterSection}
      {next : part.Answer → Task request.Result} {events : List StreamEvent}
      {answer : part.Answer}
      (hthread : world.threads[index]? = some ⟨request, some (.ask (.perform part) next)⟩)
      (hruns : (part.steps world.writer).Runs events answer) :
      Step client world
        (world.happen index ⟨request, some (next answer)⟩ (.performed part events answer)
          (world.writer.after events))
  | interrupt {world : World} (index : Nat) {request : Request} {part : WriterSection}
      {next : part.Answer → Task request.Result} {events : List StreamEvent}
      {pending : StreamCall} {continuation : pending.Answer → Steps part.Answer}
      (hthread : world.threads[index]? = some ⟨request, some (.ask (.perform part) next)⟩)
      (hreaches : (part.steps world.writer).Reaches events (.ask pending continuation))
      (hwaits : pending.waits) :
      Step client world
        (world.happen index ⟨request, none⟩ (.interrupted part events pending)
          (world.writer.after events))
  | giveUp {world : World} (index : Nat) {request : Request} {rest : Task request.Result}
      (hthread : world.threads[index]? = some ⟨request, some rest⟩) :
      Step client world { world with threads := world.threads.set index ⟨request, none⟩ }

/-- A world that may come out of one in which nothing happened yet. -/
def Reachable (client : Client) (world : World) : Prop :=
  Relation.ReflTransGen (Step client) {} world

end World

end RowSink
