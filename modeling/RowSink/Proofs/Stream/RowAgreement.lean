import RowSink.Proofs.Stream.Push
import RowSink.Proofs.Stream.Threads

/-!
# Rows and the type of their stream

A push converts its batch with the row type that it read, and submits it in a later section. In
between, and even at the start of that section, the service may report another schema, and then the
rows go to a stream of another type. Without such a report they go to a stream of their own type.
-/

namespace RowSink

open Ledger

/-- At some point of what happened, after the calls in `past`, rows were handed to a stream. -/
inductive Happening.Submits : Happening → List StreamEvent → Nat → List Bytes → Prop where
  | performed {part : WriterSection} {past later : List StreamEvent} {handle : Nat}
      {rows : List Bytes} {answer : Except SinkError Nat} {value : part.Answer} :
      Submits (.performed part (past ++ ⟨.submit handle rows, answer⟩ :: later) value)
        past handle rows
  | answered {part : WriterSection} {past later : List StreamEvent} {handle : Nat}
      {rows : List Bytes} {answer : Except SinkError Nat} {pending : StreamCall} :
      Submits (.interrupted part (past ++ ⟨.submit handle rows, answer⟩ :: later) pending)
        past handle rows
  | interrupted {part : WriterSection} {past : List StreamEvent} {handle : Nat}
      {rows : List Bytes} :
      Submits (.interrupted part past (.submit handle rows)) past handle rows

namespace Ledger

theorem mem_reports_note {ledger : Ledger} {event : StreamEvent} {schema : TableSchema}
    (hmem : schema ∈ (ledger.note event).reports) :
    schema ∈ ledger.reports ∨ ∃ handle, event = ⟨.updatedSchema handle, some schema⟩ := by
  obtain ⟨call, answer⟩ := event
  cases call with
  | openStream type => cases answer <;> exact .inl hmem
  | updatedSchema handle =>
    cases answer with
    | none => exact .inl hmem
    | some found =>
      obtain hknown | hfound := List.mem_append.mp hmem
      · exact .inl hknown
      · obtain rfl := List.mem_singleton.mp hfound
        exact .inr ⟨handle, rfl⟩
  | _ => exact .inl hmem

/-- A report in the ledger was there before or is one of the answers since. -/
theorem mem_reports_follow {ledger : Ledger} {events : List StreamEvent} {schema : TableSchema}
    (hmem : schema ∈ (ledger.follow events).reports) :
    schema ∈ ledger.reports ∨
      ∃ handle, (⟨.updatedSchema handle, some schema⟩ : StreamEvent) ∈ events := by
  induction events generalizing ledger with
  | nil => exact .inl hmem
  | cons event rest ih =>
    obtain hnoted | ⟨handle, hrest⟩ := ih hmem
    · obtain hknown | ⟨handle, rfl⟩ := mem_reports_note hnoted
      · exact .inl hknown
      · exact .inr ⟨handle, List.mem_cons_self⟩
    · exact .inr ⟨handle, List.mem_cons_of_mem _ hrest⟩

end Ledger

/-- A section is about to hand rows to a stream: they are the rows of its payload, and the stream is
the one that the writer then has. -/
structure Submitting (part : WriterSection) (start ledger : Ledger) (payload : Payload)
    (type : RowType) (handle : Nat) (rows : List Bytes) : Prop where
  part_eq : part = .submit payload
  rows_eq : rows = payload.rows
  ready : ledger.writer = .ready ⟨type, handle⟩
  turns : Turns start ledger

theorem exists_submitting {part : WriterSection} {ledger : Ledger} {past : List StreamEvent}
    {handle : Nat} {rows : List Bytes} {next : Except SinkError Nat → Steps part.Answer}
    (hreaches : (part.steps ledger.writer).Reaches past (.ask (.submit handle rows) next)) :
    ∃ payload type, Submitting part ledger (ledger.follow past) payload type handle rows := by
  have hwaiting := (part.steps_ending ledger).allowed_of_reaches hreaches rfl
  obtain ⟨payload, type, hpart, hrows, hready⟩ := hwaiting.submits handle rows rfl
  exact ⟨payload, type, hpart, hrows, hready, hwaiting.turns⟩

namespace Happening.Submits

variable {happening : Happening} {past : List StreamEvent} {handle : Nat} {rows : List Bytes}

theorem exists_reaches (hsubmits : happening.Submits past handle rows) {writer : WriterState}
    (hfits : happening.Fits writer) :
    ∃ (part : WriterSection) (next : Except SinkError Nat → Steps part.Answer),
      happening.call = .perform part ∧
      (part.steps writer).Reaches past (.ask (.submit handle rows) next) := by
  cases hsubmits with
  | performed =>
    cases hfits with
    | performed hruns =>
      obtain ⟨next, hreaches⟩ := hruns.reaches.exists_ask
      exact ⟨_, next, rfl, hreaches⟩
  | answered =>
    cases hfits with
    | interrupted hreaches _ =>
      obtain ⟨next, hreaches⟩ := hreaches.exists_ask
      exact ⟨_, next, rfl, hreaches⟩
  | interrupted =>
    cases hfits with
    | interrupted hreaches _ => exact ⟨_, _, rfl, hreaches⟩

/-- Rows are handed to the stream that was opened last. -/
theorem exists_opened (hsubmits : happening.Submits past handle rows) {before : History}
    (hbefore : before.Valid .uninitialized)
    (hfits : happening.Fits (WriterState.uninitialized.after before.events)) :
    ∃ payload type, happening.call = .perform (.submit payload) ∧ rows = payload.rows ∧
      WriterState.uninitialized.after (before.events ++ past) = .ready ⟨type, handle⟩ ∧
      (Ledger.follow {} (before.events ++ past)).opened = some ⟨type, handle⟩ := by
  obtain ⟨part, next, hcall, hreaches⟩ := hsubmits.exists_reaches hfits
  have hwriter : (Ledger.follow {} before.events).writer =
      WriterState.uninitialized.after before.events :=
    writer_follow {} before.events
  rw [← hwriter] at hreaches
  obtain ⟨payload, type, hsubmitting⟩ := exists_submitting hreaches
  have hstart : Ledger.Sound {} := nofun
  have hsound := hsubmitting.turns.preserve Turn.sound (hstart.follow hbefore)
  have hopened := hsound _ hsubmitting.ready
  have hready := hsubmitting.ready
  rw [← follow_append] at hopened hready
  rw [writer_follow] at hready
  rw [hsubmitting.part_eq] at hcall
  exact ⟨payload, type, hcall, hsubmitting.rows_eq, hready, hopened⟩

/-- After a reading of the row type, rows are handed to a stream of the type that was read or of one
that was reported since. -/
theorem type_eq_or_reported (hsubmits : happening.Submits past handle rows) {writer : WriterState}
    {target : RowType} (htarget : Writer.rowType writer = .ok target) {between : History}
    (hbetween : between.Valid writer) (hfits : happening.Fits (writer.after between.events))
    {type : RowType} (hready : writer.after (between.events ++ past) = .ready ⟨type, handle⟩) :
    type = target ∨ ∃ stream schema,
      (⟨.updatedSchema stream, some schema⟩ : StreamEvent) ∈ between.events ++ past ∧
      Writer.rowTypeOf schema = .ok type := by
  -- A ledger that begins with the reading, so that it has only the reports since.
  let start : Ledger := { writer }
  have hstart : start.Typed target := ⟨target, htarget, .inl rfl⟩
  obtain ⟨part, next, _, hreaches⟩ := hsubmits.exists_reaches hfits
  have hwriter : (start.follow between.events).writer = writer.after between.events :=
    writer_follow start between.events
  rw [← hwriter] at hreaches
  obtain ⟨_, _, hsubmitting⟩ := exists_submitting hreaches
  have htyped := hsubmitting.turns.preserve Turn.typed (hstart.follow hbetween)
  rw [← follow_append] at htyped
  obtain ⟨found, hfound, hknown⟩ := htyped
  rw [writer_follow, hready] at hfound
  obtain rfl := Except.ok.inj hfound
  apply hknown.imp_right
  intro hreported
  obtain ⟨schema, hmem, hschema⟩ := hreported
  obtain hnone | ⟨stream, hevent⟩ := mem_reports_follow hmem
  · contradiction
  · exact ⟨stream, schema, hevent, hschema⟩

end Happening.Submits

namespace World

variable {client : Client} {world : World}

/-- A push that submits has read a row type before, and the time after it; the rows are those that
its batch converts to with the two. -/
theorem exists_reading (hreachable : world.Reachable client) {before after : History} {index : Nat}
    {happening : Happening} (hhistory : world.history = before ++ (index, happening) :: after)
    {payload : Payload} (hcall : happening.call = .perform (.submit payload))
    {batch : List InputMessage} {rest : Option (Task (Request.push batch).Result)}
    (hthread : world.threads[index]? = some ⟨.push batch, rest⟩) :
    ∃ (earlier between : History) (target : RowType) (now : Instant),
      before = earlier ++ (index, .performed .rowType [] (.ok target)) :: between ∧
      Writer.rowType (WriterState.uninitialized.after earlier.events) = .ok target ∧
      (index, Happening.asked .now now) ∈ between ∧
      payload = Conversion.payload ⟨client.parser, client.config, target⟩ now batch := by
  have htraced := traced_of_reachable hreachable
  obtain ⟨request, _, calls, next, hrequest, hshows, hreaches⟩ :=
    htraced.called before index happening after hhistory
  rw [hthread, Option.some.injEq] at hrequest
  cases hrequest
  obtain ⟨target, now, rfl, hpayload⟩ := Client.submits_of_reaches hreaches hcall
  obtain ⟨earlier, reading, between, rfl, _, hreading, hbetween⟩ := hshows.exists_split
  obtain ⟨first, clock, second, rfl, _, hclock, _⟩ := hbetween.exists_split
  have hvalid := htraced.valid
  rw [hhistory, History.valid_append_iff, History.valid_append_iff] at hvalid
  obtain ⟨⟨_, hreads, _⟩, _⟩ := hvalid
  obtain ⟨rfl, htarget⟩ := hreads.reads hreading
  obtain rfl := Happening.eq_asked hclock nofun
  refine ⟨earlier, _, target, now, rfl, htarget, ?_, hpayload⟩
  exact List.mem_append_right first List.mem_cons_self

/-- The rows that a push submits are those that its batch converts to with the row type that the
writer had when the push read it. They go to the stream that was opened last, and its type is the
one that was read, unless the service reported the schema of another type in between. -/
theorem submitted_rows_type (hreachable : world.Reachable client) {before after : History}
    {index : Nat} {happening : Happening}
    (hhistory : world.history = before ++ (index, happening) :: after)
    {past : List StreamEvent} {handle : Nat} {rows : List Bytes}
    (hsubmits : happening.Submits past handle rows)
    {batch : List InputMessage} {rest : Option (Task (Request.push batch).Result)}
    (hthread : world.threads[index]? = some ⟨.push batch, rest⟩) :
    ∃ (earlier between : History) (target : RowType) (now : Instant) (type : RowType),
      before = earlier ++ (index, .performed .rowType [] (.ok target)) :: between ∧
      Writer.rowType (WriterState.uninitialized.after earlier.events) = .ok target ∧
      (index, Happening.asked .now now) ∈ between ∧
      rows = (Conversion.payload ⟨client.parser, client.config, target⟩ now batch).rows ∧
      (Ledger.follow {} (before.events ++ past)).opened = some ⟨type, handle⟩ ∧
      (type = target ∨ ∃ stream schema,
        (⟨.updatedSchema stream, some schema⟩ : StreamEvent) ∈ between.events ++ past ∧
        Writer.rowTypeOf schema = .ok type) := by
  have hvalid := (traced_of_reachable hreachable).valid
  rw [hhistory, History.valid_append_iff] at hvalid
  obtain ⟨hbefore, hfits, _⟩ := hvalid
  obtain ⟨payload, type, hcall, hrows, hready, hopened⟩ := hsubmits.exists_opened hbefore hfits
  obtain ⟨earlier, between, target, now, rfl, htarget, hnow, rfl⟩ :=
    exists_reading hreachable hhistory hcall hthread
  refine ⟨earlier, between, target, now, type, rfl, htarget, hnow, hrows, hopened, ?_⟩
  -- The reading itself makes no calls.
  have hevents : History.events
      (earlier ++ (index, .performed .rowType [] (.ok target)) :: between) =
      earlier.events ++ between.events := by
    rw [History.events_append]
    rfl
  rw [hevents, WriterState.after_append] at hfits
  rw [hevents, List.append_assoc, WriterState.after_append] at hready
  rw [History.valid_append_iff] at hbefore
  obtain ⟨_, _, hbetween⟩ := hbefore
  exact hsubmits.type_eq_or_reported htarget hbetween hfits hready

end World

namespace ColumnSwap

open Writer

def schema (first second : String) : TableSchema :=
  ⟨[{ name := first, type := 1, mode := 1 }, { name := second, type := 1, mode := 1 }]⟩

def type (first second : String) : RowType :=
  ⟨rootName, [⟨1, first, .optional, .string⟩, ⟨2, second, .optional, .string⟩]⟩

/-- A client for which every message says that the letter a is an x. -/
def client : Client where
  parser _ := .ok ⟨"Letters", [⟨1, "a", .single (.scalar (.string "x"))⟩], []⟩
  config := {}
  retryableCodes := []

theorem rowTypeOf_schema :
    Writer.rowTypeOf (schema "a" "b") = .ok (type "a" "b") ∧
      Writer.rowTypeOf (schema "b" "a") = .ok (type "b" "a") :=
  ⟨rfl, rfl⟩

/-- The payload of one message for a table with the columns a and b. -/
def payload : Payload :=
  Conversion.payload ⟨client.parser, client.config, type "a" "b"⟩ ⟨0, 0⟩ [{}]

def history : History :=
  [(0, .performed .start
      (⟨.fetchSchema, Except.ok (schema "a" "b")⟩ :: openingEvents (type "a" "b") 0)
      (Except.ok ())),
    (1, .performed .rowType [] (Except.ok (type "a" "b"))),
    (1, .asked .now (⟨0, 0⟩ : Instant))]

/-- The calls that replace the stream after the columns were swapped. -/
def replacement : List StreamEvent :=
  replacingEvents 0 (schema "b" "a") (type "b" "a") 1 ++
    [⟨.record (.submission payload.validCount payload.byteSize), ()⟩]

/-- The submission of the payload to the new stream. -/
def submission : Happening :=
  .performed (.submit payload) (replacement ++ [⟨.submit 1 payload.rows, Except.ok 0⟩])
    (Except.ok (.pending 0))

theorem submits_submission : submission.Submits replacement 1 payload.rows :=
  .performed

/-- The columns of a table may be swapped while a push is between its reading and its
submission. -/
theorem exists_world :
    ∃ world rest, World.Reachable client world ∧
      world.history = history ++ (1, submission) :: [] ∧
      world.threads[1]? = some ⟨.push [{}], rest⟩ := by
  obtain ⟨hfirst, hsecond⟩ := rowTypeOf_schema
  have hempty : World.Reachable client {} := .refl
  have hstarted := (hempty.tail (.begin _ .start)).tail
    (.perform 0 rfl (runs_start hfirst 0))
  have hread := (hstarted.tail (.begin _ (.push [{}]))).tail
    (.perform 1 rfl (runs_rowType _))
  have hclocked := hread.tail (.ask 1 .now rfl nofun (⟨0, 0⟩ : Instant))
  have hsubmitted := hclocked.tail
    (.perform 1 rfl (runs_submit_reported payload _ hsecond 1 0))
  exact ⟨_, _, hsubmitted, rfl, rfl⟩

/-- The rows of a push need not go to a stream of the type that they were converted with. -/
theorem not_rows_of_opened_type :
    ¬ ∀ (client : Client) (world : World) (before after : History) (index : Nat)
        (happening : Happening) (past : List StreamEvent) (handle : Nat) (rows : List Bytes)
        (batch : List InputMessage) (rest : Option (Task (Request.push batch).Result)),
      world.Reachable client → world.history = before ++ (index, happening) :: after →
      happening.Submits past handle rows →
      world.threads[index]? = some ⟨.push batch, rest⟩ →
      ∃ (type : RowType) (now : Instant),
        (Ledger.follow {} (before.events ++ past)).opened = some ⟨type, handle⟩ ∧
        rows = (Conversion.payload ⟨client.parser, client.config, type⟩ now batch).rows := by
  intro hclaim
  obtain ⟨world, rest, hreachable, hhistory, hthread⟩ := exists_world
  obtain ⟨opened, now, hopened, hrows⟩ := hclaim client world history [] 1 submission _ 1 _ [{}]
    rest hreachable hhistory submits_submission hthread
  have hlast : (Ledger.follow {} (history.events ++ replacement)).opened =
      some ⟨type "b" "a", 1⟩ := rfl
  rw [hlast, Option.some.injEq, ActiveStream.mk.injEq] at hopened
  obtain ⟨rfl, _⟩ := hopened
  have hsubmitted : payload.rows = [[10, 1, 120]] := rfl
  have hexpected : (Conversion.payload ⟨client.parser, client.config, type "b" "a"⟩ now
      [{}]).rows = [[18, 1, 120]] := rfl
  rw [hsubmitted, hexpected] at hrows
  contradiction

theorem submitted_rows_type_of_world :
    ∃ (world : World) (rest : Option (Task (Request.push [{}]).Result)),
      world.Reachable client ∧ world.history = history ++ (1, submission) :: [] ∧
      world.threads[1]? = some ⟨.push [{}], rest⟩ ∧
      ∃ (earlier between : History) (target : RowType) (now : Instant) (opened : RowType),
        history = earlier ++ (1, .performed .rowType [] (.ok target)) :: between ∧
        Writer.rowType (WriterState.uninitialized.after earlier.events) = .ok target ∧
        (1, Happening.asked .now now) ∈ between ∧
        payload.rows =
          (Conversion.payload ⟨client.parser, client.config, target⟩ now [{}]).rows ∧
        (Ledger.follow {} (history.events ++ replacement)).opened = some ⟨opened, 1⟩ ∧
        (opened = target ∨ ∃ stream reported,
          (⟨.updatedSchema stream, some reported⟩ : StreamEvent) ∈
            between.events ++ replacement ∧
          Writer.rowTypeOf reported = .ok opened) := by
  obtain ⟨world, rest, hreachable, hhistory, hthread⟩ := exists_world
  exact ⟨world, rest, hreachable, hhistory, hthread,
    World.submitted_rows_type hreachable hhistory submits_submission hthread⟩

end ColumnSwap

end RowSink
