import RowSink.Stream.Program

/-!
# Whatever the answers are

A program is reasoned about call by call, for all answers at once. What its calls come to is kept in
a state of the reasoner's choice; each call has to be allowed in the state in which it is made, and
the value has to fit the state at the end. Both then hold in every run, whoever answers.
-/

namespace RowSink

namespace Program

variable {Call : Type} {Answer : Call → Type} {α β : Type} {State : Type}
  {advance : State → Event Call Answer → State} {allowed : State → Call → Prop}

/-- Whatever the answers are, each call is allowed in the state in which it is made, and the value
fits the state in which it is returned. -/
inductive Ensures (advance : State → Event Call Answer → State) (allowed : State → Call → Prop)
    (ends : State → α → Prop) : State → Program Call Answer α → Prop where
  | done {state : State} {value : α} (hends : ends state value) :
      Ensures advance allowed ends state (.done value)
  | ask {state : State} {call : Call} {next : Answer call → Program Call Answer α}
      (hallowed : allowed state call)
      (hnext : ∀ answer,
        Ensures advance allowed ends (advance state ⟨call, answer⟩) (next answer)) :
      Ensures advance allowed ends state (.ask call next)

namespace Ensures

variable {ends : State → α → Prop} {state : State} {program : Program Call Answer α}
  {events : List (Event Call Answer)}

theorem of_reaches (hensures : Ensures advance allowed ends state program)
    {rest : Program Call Answer α} (hreaches : Reaches program events rest) :
    Ensures advance allowed ends (events.foldl advance state) rest := by
  induction hreaches generalizing state with
  | here program => exact hensures
  | ask _ ih =>
    cases hensures with
    | ask _ hnext => exact ih (hnext _)

theorem allowed_of_reaches (hensures : Ensures advance allowed ends state program) {call : Call}
    {next : Answer call → Program Call Answer α}
    (hreaches : Reaches program events (.ask call next)) :
    allowed (events.foldl advance state) call := by
  cases hensures.of_reaches hreaches with
  | ask hallowed _ => exact hallowed

theorem ends_of_runs (hensures : Ensures advance allowed ends state program) {value : α}
    (hruns : Runs program events value) : ends (events.foldl advance state) value := by
  induction hruns generalizing state with
  | done value =>
    cases hensures with
    | done hends => exact hends
  | ask _ ih =>
    cases hensures with
    | ask _ hnext => exact ih (hnext _)

theorem bind {next : α → Program Call Answer β} {last : State → β → Prop}
    (hensures : Ensures advance allowed ends state program)
    (hnext : ∀ state value, ends state value → Ensures advance allowed last state (next value)) :
    Ensures advance allowed last state (program.bind next) := by
  induction hensures with
  | done hends => exact hnext _ _ hends
  | ask hallowed _ ih => exact .ask hallowed ih

theorem imp_allowed (hensures : Ensures advance allowed ends state program)
    {others : State → Call → Prop} (himp : ∀ state call, allowed state call → others state call) :
    Ensures advance others ends state program := by
  induction hensures with
  | done hends => exact .done hends
  | ask hallowed _ ih => exact .ask (himp _ _ hallowed) ih

theorem imp_ends (hensures : Ensures advance allowed ends state program)
    {others : State → α → Prop} (himp : ∀ state value, ends state value → others state value) :
    Ensures advance allowed others state program := by
  induction hensures with
  | done hends => exact .done (himp _ _ hends)
  | ask hallowed _ ih => exact .ask hallowed ih

end Ensures

end Program

end RowSink
