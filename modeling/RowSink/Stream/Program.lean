/-!
# Programs

A computation that asks its surroundings for things and goes on with their answers. What a program
does is the list of its calls; who answers them, and when, is left open.
-/

namespace RowSink

inductive Program (Call : Type) (Answer : Call → Type) (α : Type) where
  | done (value : α)
  | ask (call : Call) (next : Answer call → Program Call Answer α)

namespace Program

variable {Call : Type} {Answer : Call → Type} {α β : Type}

def bind (program : Program Call Answer α) (next : α → Program Call Answer β) :
    Program Call Answer β :=
  match program with
  | done value => next value
  | ask call continuation => ask call fun answer => (continuation answer).bind next

def map (function : α → β) (program : Program Call Answer α) : Program Call Answer β :=
  program.bind fun value => done (function value)

/-- The program in which every call is made by a program of its own, over calls of another kind. -/
def interpret {Act : Type} {Result : Act → Type}
    (handler : (call : Call) → Program Act Result (Answer call)) :
    Program Call Answer α → Program Act Result α
  | done value => done value
  | ask call next => (handler call).bind fun answer => (next answer).interpret handler

instance : Monad (Program Call Answer) where
  pure := done
  bind := bind

/-- A call together with the answer it got. -/
abbrev Event (Call : Type) (Answer : Call → Type) := (call : Call) × Answer call

/-- What may happen when a program is run: its calls with their answers, and its result. -/
inductive Runs : Program Call Answer α → List (Event Call Answer) → α → Prop where
  | done (value : α) : Runs (.done value) [] value
  | ask {call : Call} {next : Answer call → Program Call Answer α} {answer : Answer call}
      {events : List (Event Call Answer)} {value : α} (hrest : Runs (next answer) events value) :
      Runs (.ask call next) (⟨call, answer⟩ :: events) value

theorem runs_bind {program : Program Call Answer α} {next : α → Program Call Answer β}
    {first second : List (Event Call Answer)} {middle : α} {value : β}
    (hfirst : Runs program first middle) (hsecond : Runs (next middle) second value) :
    Runs (program.bind next) (first ++ second) value := by
  induction hfirst with
  | done middle => exact hsecond
  | ask _ ih => exact .ask (ih hsecond)

/-- A program never gets stuck while its calls are answered. -/
theorem exists_runs [∀ call, Nonempty (Answer call)] (program : Program Call Answer α) :
    ∃ events value, Runs program events value := by
  induction program with
  | done value => exact ⟨[], value, .done value⟩
  | ask call next ih =>
    obtain ⟨answer⟩ : Nonempty (Answer call) := inferInstance
    obtain ⟨events, value, hruns⟩ := ih answer
    exact ⟨⟨call, answer⟩ :: events, value, .ask hruns⟩

/-- What may have happened at some point of a run: the calls so far, and the program that is
left. -/
inductive Reaches : Program Call Answer α → List (Event Call Answer) → Program Call Answer α →
    Prop where
  | here (program : Program Call Answer α) : Reaches program [] program
  | ask {call : Call} {next : Answer call → Program Call Answer α} {answer : Answer call}
      {events : List (Event Call Answer)} {rest : Program Call Answer α}
      (hrest : Reaches (next answer) events rest) :
      Reaches (.ask call next) (⟨call, answer⟩ :: events) rest

theorem Reaches.concat {program : Program Call Answer α} {events : List (Event Call Answer)}
    {call : Call} {next : Answer call → Program Call Answer α}
    (hreaches : Reaches program events (.ask call next)) (answer : Answer call) :
    Reaches program (events ++ [⟨call, answer⟩]) (next answer) := by
  generalize hrest : Program.ask call next = rest at hreaches
  induction hreaches with
  | here program =>
    subst hrest
    exact .ask (.here _)
  | ask _ ih => exact .ask (ih hrest)

theorem Reaches.runs {program : Program Call Answer α} {events : List (Event Call Answer)}
    {value : α} (hreaches : Reaches program events (.done value)) : Runs program events value := by
  generalize hrest : Program.done value = rest at hreaches
  induction hreaches with
  | here program =>
    subst hrest
    exact .done value
  | ask _ ih => exact .ask (ih hrest)

theorem Runs.reaches {program : Program Call Answer α} {events : List (Event Call Answer)}
    {value : α} (hruns : Runs program events value) : Reaches program events (.done value) := by
  induction hruns with
  | done value => exact .here _
  | ask _ ih => exact .ask ih

/-- Before a call was answered it was made. -/
theorem Reaches.exists_ask {program rest : Program Call Answer α}
    {past later : List (Event Call Answer)} {event : Event Call Answer}
    (hreaches : Reaches program (past ++ event :: later) rest) :
    ∃ next, Reaches program past (.ask event.1 next) := by
  induction past generalizing program with
  | nil =>
    cases hreaches
    exact ⟨_, .here _⟩
  | cons first past ih =>
    cases hreaches with
    | ask hrest =>
      obtain ⟨next, hnext⟩ := ih hrest
      exact ⟨next, .ask hnext⟩

end Program

end RowSink
