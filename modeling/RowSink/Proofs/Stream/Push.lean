import RowSink.Proofs.Stream.Ensures
import RowSink.Stream.Interleaving

/-!
# The calls of a push

A push reads the row type, then the time of day, and then submits at most once: the rows that its
batch converts to with these two. Its result is the report on what came back.
-/

namespace RowSink

namespace Client

variable {client : Client} {payload : Payload} {batch : List InputMessage}

/-- The calls and the result of a delivery. -/
inductive Delivered (client : Client) (payload : Payload) :
    List ClientEvent → ErrorsByIndex → Prop where
  | nothing (hrows : payload.isEmpty = true) : Delivered client payload [] payload.conversionErrors
  | failed (hrows : payload.isEmpty = false) (error : SinkError) :
      Delivered client payload [⟨.perform (.submit payload), Except.error error⟩]
        (payload.report client.retryableCodes (.error error))
  | answered (hrows : payload.isEmpty = false) (response : Protocol.AppendResponse) :
      Delivered client payload [⟨.perform (.submit payload), Except.ok (.answered response)⟩]
        (payload.report client.retryableCodes (.ok response))
  | awaited (hrows : payload.isEmpty = false) (ticket start finish : Nat)
      (outcome : AppendOutcome) :
      Delivered client payload
        [⟨.perform (.submit payload), Except.ok (.pending ticket)⟩, ⟨.clock, start⟩,
          ⟨.await ticket, outcome⟩, ⟨.clock, finish⟩,
          ⟨.record (.operation .append (finish - start)), ()⟩]
        (payload.report client.retryableCodes outcome)

/-- The call asks nothing of the writer or the service. -/
def Quiet (event : ClientEvent) : Prop :=
  ∃ observation, event = ⟨.record observation, ()⟩

/-- The calls and the result of a push. -/
inductive Pushed (client : Client) (batch : List InputMessage) :
    List ClientEvent → Except SinkError ErrorsByIndex → Prop where
  | nothing (hbatch : batch.isEmpty = true) : Pushed client batch [] (.ok [])
  | unready (hbatch : batch.isEmpty = false) (error : SinkError) :
      Pushed client batch [⟨.perform .rowType, Except.error error⟩] (.error error)
  | delivered (hbatch : batch.isEmpty = false) (target : RowType) (now : Instant)
      {events later : List ClientEvent} {errors : ErrorsByIndex}
      (hdelivered : Delivered client
        (Conversion.payload ⟨client.parser, client.config, target⟩ now batch) events errors)
      (hlater : ∀ event ∈ later, Quiet event) :
      Pushed client batch
        (⟨.perform .rowType, Except.ok target⟩ :: ⟨.now, now⟩ :: events ++ later) (.ok errors)

/-- A task is reasoned about by its calls so far. -/
abbrev Tells {α : Type} (allowed : List ClientEvent → ClientCall → Prop)
    (ends : List ClientEvent → α → Prop) : List ClientEvent → Task α → Prop :=
  Program.Ensures (fun past event => past ++ [event]) allowed ends

theorem foldl_concat (past events : List ClientEvent) :
    events.foldl (fun past event => past ++ [event]) past = past ++ events := by
  induction events generalizing past with
  | nil => simp
  | cons event rest ih => simp [ih]

/-- The calls before the submission of a payload are those of `past`. -/
def SubmitsAt (past : List ClientEvent) (payload : Payload) (present : List ClientEvent)
    (call : ClientCall) : Prop :=
  ∀ submitted, call = .perform (.submit submitted) → present = past ∧ submitted = payload

theorem deliver_tells (client : Client) (payload : Payload) (past : List ClientEvent) :
    Tells (SubmitsAt past payload)
      (fun present errors => ∃ events, present = past ++ events ∧
        Delivered client payload events errors) past (client.deliver payload) := by
  rw [deliver]
  split
  · rename_i hrows
    exact .done ⟨[], (List.append_nil past).symm, .nothing hrows⟩
  · rename_i hrows
    simp only [Bool.not_eq_true] at hrows
    apply Program.Ensures.ask
    · intro submitted hsubmitted
      cases hsubmitted
      exact ⟨rfl, rfl⟩
    · intro answer
      match answer with
      | .error error => exact .done ⟨_, rfl, .failed hrows error⟩
      | .ok (.answered response) => exact .done ⟨_, rfl, .answered hrows response⟩
      | .ok (.pending ticket) =>
        apply Program.Ensures.ask nofun
        intro start
        apply Program.Ensures.ask nofun
        intro outcome
        apply Program.Ensures.ask nofun
        intro finish
        apply Program.Ensures.ask nofun
        intro _
        refine .done ⟨_, ?_, .awaited hrows ticket start finish outcome⟩
        simp only [List.append_assoc, List.cons_append, List.nil_append]
        rfl

theorem recordFailures_tells (past : List ClientEvent) (counts : List (ErrorKind × Nat)) :
    Tells (fun _ call => ∀ submitted, call ≠ .perform (.submit submitted))
      (fun present _ => ∃ later, present = past ++ later ∧ ∀ event ∈ later, Quiet event) past
      (recordFailures counts) := by
  induction counts generalizing past with
  | nil => exact .done ⟨[], (List.append_nil past).symm, nofun⟩
  | cons entry rest ih =>
    obtain ⟨kind, count⟩ := entry
    apply Program.Ensures.ask nofun
    intro answer
    apply (ih _).imp_ends
    intro present _ hpresent
    obtain ⟨later, rfl, hlater⟩ := hpresent
    refine ⟨⟨.record (.failures kind count), answer⟩ :: later, List.append_assoc _ _ _, ?_⟩
    exact List.forall_mem_cons.mpr ⟨⟨_, rfl⟩, hlater⟩

theorem push_tells (client : Client) (batch : List InputMessage) :
    Tells
      (fun past call => ∀ submitted, call = .perform (.submit submitted) →
        ∃ (target : RowType) (now : Instant),
          past = [⟨.perform .rowType, Except.ok target⟩, ⟨.now, now⟩] ∧
          submitted = Conversion.payload ⟨client.parser, client.config, target⟩ now batch)
      (Pushed client batch) [] (client.push batch) := by
  rw [push]
  split
  · rename_i hbatch
    exact .done (.nothing hbatch)
  · rename_i hbatch
    simp only [Bool.not_eq_true] at hbatch
    apply Program.Ensures.ask nofun
    intro answer
    match answer with
    | .error error => exact .done (.unready hbatch error)
    | .ok target =>
      apply Program.Ensures.ask nofun
      intro (now : Instant)
      apply Program.Ensures.bind ((deliver_tells client _ _).imp_allowed _)
      · intro present errors hpresent
        obtain ⟨events, rfl, hdelivered⟩ := hpresent
        apply Program.Ensures.bind ((recordFailures_tells _ _).imp_allowed _)
        · intro present _ hpresent
          obtain ⟨later, rfl, hlater⟩ := hpresent
          exact .done (.delivered hbatch target now hdelivered hlater)
        · intro past call hother submitted hcall
          exact absurd hcall (hother submitted)
      · intro past call hsubmits submitted hcall
        obtain ⟨hpast, hsubmitted⟩ := hsubmits submitted hcall
        exact ⟨target, now, hpast, hsubmitted⟩

/-- A push that ended made the calls of one that delivered its batch, or that could not. -/
theorem pushed_of_runs {events : List ClientEvent} {result : Except SinkError ErrorsByIndex}
    (hruns : (client.push batch).Runs events result) : Pushed client batch events result := by
  have hpushed := (push_tells client batch).ends_of_runs hruns
  rwa [foldl_concat, List.nil_append] at hpushed

/-- A push submits the rows of its batch, converted with the row type and the time it read. -/
theorem submits_of_reaches {events : List ClientEvent} {call : ClientCall}
    {next : call.Answer → Task (Except SinkError ErrorsByIndex)}
    (hreaches : (client.push batch).Reaches events (.ask call next)) {submitted : Payload}
    (hcall : call = .perform (.submit submitted)) :
    ∃ (target : RowType) (now : Instant),
      events = [⟨.perform .rowType, Except.ok target⟩, ⟨.now, now⟩] ∧
      submitted = Conversion.payload ⟨client.parser, client.config, target⟩ now batch := by
  have hallowed := (push_tells client batch).allowed_of_reaches hreaches submitted hcall
  rwa [foldl_concat, List.nil_append] at hallowed

end Client

end RowSink
