import RowSink.Proofs.Stream.Custody
import RowSink.Proofs.Stream.Exchanges
import RowSink.Proofs.Stream.Threads
import RowSink.Stream.Timeline

/-!
# The type of the next stream

A stream that takes the place of another one has the type of the last schema that was reported on
the former stream before the writer asked for it, and the writer asks once for each stream that it
replaces. Responses go on to be read on the former stream until it is gone. A schema that comes with
one of those after the question is not taken up.
-/

namespace RowSink

open Protocol

namespace Connection

theorem updatedSchema_submit (connection : Connection) (ticket : Nat) (rows : List Bytes) :
    (connection.submit ticket rows).1.updatedSchema = connection.updatedSchema := by
  rw [submit]
  split
  · rfl
  · rename_i registered request hregister
    obtain ⟨_, _, rfl⟩ := register_eq_ok hregister
    split
    · rfl
    · rename_i sent hsend
      obtain ⟨_, rfl⟩ := send_eq_ok hsend
      rfl

theorem foldl_reportedSchema (responses : List AppendResponse) :
    responses.foldl reportedSchema none = lastReported responses := by
  induction responses using List.reverseRecOn with
  | nil => rfl
  | append_singleton responses response ih =>
    rw [List.foldl_append, ih]
    simp only [List.foldl_cons, List.foldl_nil, lastReported, List.filterMap_append,
      List.filterMap_cons, List.filterMap_nil, reportedSchema]
    cases response.updatedSchema with
    | none => simp
    | some schema => cases hempty : schema.fields.isEmpty <;> simp [Option.filter, hempty]

end Connection

/-- What becomes of the last answer while a stream stays the one that was opened last. -/
theorem Custody.note_report {custody : Custody} {stream : ActiveStream} {event : StreamEvent}
    (hstream : custody.stream = some stream) (horderly : custody.Orderly event.1)
    (hopened : (Moment.called event).opens = false) :
    (custody.note event).stream = some stream ∧
      ((custody.note event).report = custody.report ∧
          (∀ other answer, event ≠ ⟨.updatedSchema other, answer⟩) ∨
        ∃ answer, event = ⟨.updatedSchema stream.handle, answer⟩ ∧
          (custody.note event).report = some answer) := by
  obtain ⟨call, answer⟩ := event
  cases call with
  | openStream type =>
    cases answer with
    | error error => exact ⟨hstream, .inl ⟨rfl, nofun⟩⟩
    | ok found => contradiction
  | updatedSchema handle =>
    obtain ⟨type, hlive⟩ := horderly
    obtain rfl := Option.some.inj (hstream.symm.trans hlive.opened)
    exact ⟨hstream, .inr ⟨answer, rfl, rfl⟩⟩
  | fetchSchema | isClosed | submit | closeStream | clock | record | keep =>
    exact ⟨hstream, .inl ⟨rfl, nofun⟩⟩

namespace Timeline

variable {table : TableName} {capacity handle : Nat}

section Connections

variable {connections : Nat → Option Connection} {connection : Option Connection}
  {moment : Moment} {known : Option TableSchema}

/-- A connection learns of a schema when a response is read, and in no other way. -/
theorem updatedSchema_connect (hknown : connection.map Connection.updatedSchema = some known)
    (hopened : moment.opens = false) :
    (moment.connect table capacity handle connection).map Connection.updatedSchema =
      some ((moment.readOn? handle).elim known (Connection.reportedSchema known)) := by
  obtain ⟨present, rfl, rfl⟩ := Option.map_eq_some_iff.mp hknown
  cases moment with
  | read target response =>
    by_cases htarget : target = handle
    · simp [Moment.connect, Moment.readOn?, htarget, Connection.complete_fst]
    · simp [Moment.connect, Moment.readOn?, htarget]
  | ended target status =>
    by_cases htarget : target = handle <;>
      simp [Moment.connect, Moment.readOn?, htarget, Connection.terminate]
  | called event =>
    obtain ⟨call, answer⟩ := event
    cases call with
    | openStream type =>
      cases answer with
      | error error => rfl
      | ok opened => contradiction
    | submit target rows =>
      cases answer with
      | error error => rfl
      | ok ticket =>
        by_cases htarget : target = handle <;>
          simp [Moment.connect, Moment.readOn?, htarget, Connection.updatedSchema_submit]
    | closeStream target =>
      by_cases htarget : target = handle <;>
        simp [Moment.connect, Moment.readOn?, htarget, Connection.hangUp]
    | fetchSchema | updatedSchema | isClosed | clock | record | keep => rfl

/-- From its opening on, the connection of a stream knows the schemas of the responses that were
read on it. -/
theorem updatedSchema_foldl {timeline : Timeline}
    (hknown : (connections handle).map Connection.updatedSchema = some known)
    (hopened : ∀ moment ∈ timeline, moment.opens = false) :
    (timeline.foldl (advance table capacity) connections handle).map Connection.updatedSchema =
      some ((timeline.readOn handle).foldl Connection.reportedSchema known) := by
  induction timeline generalizing connections known with
  | nil => exact hknown
  | cons moment rest ih =>
    obtain ⟨hmoment, hrest⟩ := List.forall_mem_cons.mp hopened
    rw [List.foldl_cons, ih (updatedSchema_connect hknown hmoment) hrest]
    cases hread : moment.readOn? handle <;> simp [readOn, hread]

theorem Honest.of_split {before after : Timeline}
    (hhonest : Honest table capacity connections (before ++ moment :: after)) :
    moment.Honest (before.foldl (advance table capacity) connections) := by
  induction before generalizing connections with
  | nil => exact hhonest.1
  | cons first rest ih => exact ih hhonest.2

/-- The answer to a question for an updated schema is the last one that was reported on the stream
since it was opened. -/
theorem Honest.report_eq {timeline first earlier later : Timeline} {old : RowType}
    {report : Option TableSchema} (hhonest : Honest table capacity connections timeline)
    (hsplit : timeline = first ++ .called ⟨.openStream old, .ok handle⟩ ::
      (earlier ++ .called ⟨.updatedSchema handle, report⟩ :: later))
    (hopened : ∀ moment ∈ earlier, moment.opens = false) :
    report = lastReported (earlier.readOn handle) := by
  rw [hsplit, ← List.cons_append, ← List.append_assoc] at hhonest
  have hanswer : (_ : Option _) = some report := hhonest.of_split
  rw [List.foldl_append, List.foldl_cons] at hanswer
  rw [updatedSchema_foldl ?_ hopened, Connection.foldl_reportedSchema] at hanswer
  · exact (Option.some.inj hanswer).symm
  · simp [advance, Moment.connect, Connection.ofType]

end Connections

/-- The writer asked a stream for an updated schema, got the answer, and did not ask again. -/
def Asked (timeline : Timeline) (handle : Nat) (report : Option TableSchema) : Prop :=
  ∃ earlier between, timeline = earlier ++ .called ⟨.updatedSchema handle, report⟩ :: between ∧
    ∀ other answer, Moment.called ⟨.updatedSchema other, answer⟩ ∉ between

section Questions

variable {timeline : Timeline} {moment : Moment} {report : Option TableSchema}

theorem Asked.concat (hasked : timeline.Asked handle report)
    (hmoment : ∀ other answer, moment ≠ .called ⟨.updatedSchema other, answer⟩) :
    Asked (timeline ++ [moment]) handle report := by
  obtain ⟨earlier, between, rfl, hbetween⟩ := hasked
  refine ⟨earlier, between ++ [moment], by rw [List.append_assoc, List.cons_append], ?_⟩
  intro other answer hmem
  obtain hknown | hlast := List.mem_append.mp hmem
  · exact hbetween other answer hknown
  · exact hmoment other answer (List.mem_singleton.mp hlast).symm

theorem calls_concat (timeline : Timeline) (event : StreamEvent) :
    calls (timeline ++ [.called event]) = timeline.calls ++ [event] :=
  List.filterMap_append

theorem calls_concat_of_none (timeline : Timeline) (hmoment : moment.call? = none) :
    calls (timeline ++ [moment]) = timeline.calls := by
  simp [calls, List.filterMap_append, hmoment]

/-- The custody after a timeline, from one of its calls on. -/
theorem follow_calls_split (first later : Timeline) (event : StreamEvent) :
    Custody.follow {} (calls (first ++ .called event :: later)) =
      ((Custody.follow {} first.calls).note event).follow later.calls := by
  calc
    _ = Custody.follow {} (first.calls ++ event :: later.calls) :=
      congrArg _ List.filterMap_append
    _ = (Custody.follow {} first.calls).follow (event :: later.calls) :=
      Custody.follow_append _ _ _
    _ = ((Custody.follow {} first.calls).note event).follow later.calls := rfl

/-- What a custody knows of the stream that was opened last, as long as no other one is opened: the
stream itself, and the answer to the last question. -/
theorem asked_of_orderly {custody : Custody} {stream : ActiveStream}
    (hstream : custody.stream = some stream) (hreport : custody.report = none)
    (horderly : ∀ (earlier later : Timeline) (event : StreamEvent),
      timeline = earlier ++ .called event :: later →
      (custody.follow earlier.calls).Orderly event.1)
    (hlast : ∀ moment ∈ timeline, moment.opens = false) :
    (custody.follow timeline.calls).stream = some stream ∧
      ∀ report, (custody.follow timeline.calls).report = some report →
        timeline.Asked stream.handle report := by
  induction timeline using List.reverseRecOn with
  | nil =>
    refine ⟨hstream, fun report hasked => ?_⟩
    exact absurd (hreport.symm.trans hasked) nofun
  | append_singleton past moment ih =>
    have hearlier : ∀ (earlier later : Timeline) (event : StreamEvent),
        past = earlier ++ .called event :: later →
        (custody.follow earlier.calls).Orderly event.1 := by
      intro earlier later event hsplit
      apply horderly earlier (later ++ [moment]) event
      rw [hsplit, List.append_assoc, List.cons_append]
    obtain ⟨hsame, hasked⟩ := ih hearlier fun earlier hmem =>
      hlast earlier (List.mem_append_left _ hmem)
    cases moment with
    | read | ended =>
      rw [calls_concat_of_none past rfl]
      exact ⟨hsame, fun report hreport => (hasked report hreport).concat nofun⟩
    | called event =>
      have hopened := hlast (.called event) (List.mem_append_right past List.mem_cons_self)
      obtain ⟨hstream, hreport⟩ := Custody.note_report hsame (horderly past [] event rfl) hopened
      rw [calls_concat, Custody.follow_append]
      refine ⟨hstream, ?_⟩
      intro report hfound
      obtain ⟨hkept, hother⟩ | ⟨answer, rfl, hanswer⟩ := hreport
      · apply (hasked report (hkept.symm.trans hfound)).concat
        intro other answer hmoment
        exact hother other answer (Moment.called.inj hmoment)
      · obtain rfl := Option.some.inj (hanswer.symm.trans hfound)
        exact ⟨past, [], rfl, fun _ _ => List.not_mem_nil⟩

end Questions

section Worlds

variable {client : Client} {world : World} {timeline : Timeline}

/-- Every call on a timeline of what happened is in order. -/
theorem Tells.orderly (htells : Tells table capacity world timeline)
    (hreachable : world.Reachable client) {before after : Timeline} {event : StreamEvent}
    (hsplit : timeline = before ++ .called event :: after) :
    (Custody.follow {} before.calls).Orderly event.1 := by
  have hkept : Custody.Kept {} := rfl
  have hevents : world.history.events = before.calls ++ event :: after.calls := by
    rw [← htells.calls_eq, hsplit]
    exact List.filterMap_append
  exact hkept.orderly_of_events (World.traced_of_reachable hreachable).valid hevents

theorem Tells.orderly_after (htells : Tells table capacity world timeline)
    (hreachable : world.Reachable client) {first later earlier after : Timeline}
    {event next : StreamEvent} (htimeline : timeline = first ++ .called event :: later)
    (hsplit : later = earlier ++ .called next :: after) :
    (((Custody.follow {} first.calls).note event).follow earlier.calls).Orderly next.1 := by
  rw [← follow_calls_split]
  apply htells.orderly hreachable
  rw [htimeline, hsplit, List.append_assoc]
  rfl

/-- A stream is opened in place of another one with the type of the last schema that had been
reported on that one when the writer asked for it last, or with its type if there had been none. -/
theorem replacement_type (hreachable : world.Reachable client)
    (htells : Tells table capacity world timeline) {first rest after : Timeline}
    {old type : RowType} {answer : Except SinkError Nat}
    (htimeline : timeline = first ++ .called ⟨.openStream old, .ok handle⟩ ::
      (rest ++ .called ⟨.openStream type, answer⟩ :: after))
    (hlast : ∀ moment ∈ rest, moment.opens = false) :
    ∃ earlier between report,
      rest = earlier ++ .called ⟨.updatedSchema handle, report⟩ :: between ∧
      (∀ other found, Moment.called ⟨.updatedSchema other, found⟩ ∉ between) ∧
      report = lastReported (readOn earlier handle) ∧
      (∀ schema, report = some schema → Writer.rowTypeOf schema = .ok type) ∧
      (report = none → type = old) := by
  have horderly : ∀ (earlier later : Timeline) (event : StreamEvent),
      rest = earlier ++ .called event :: later →
      (((Custody.follow {} first.calls).note ⟨.openStream old, .ok handle⟩).follow
        earlier.calls).Orderly event.1 := by
    intro earlier later event hsplit
    apply htells.orderly_after hreachable htimeline
    rw [hsplit, List.append_assoc, List.cons_append]
  obtain ⟨hstream, hasked⟩ := asked_of_orderly rfl rfl horderly hlast
  have hreplaceable := htells.orderly_after hreachable htimeline rfl
  obtain ⟨_, report, hreport, hreported, hnone⟩ := hreplaceable _ hstream
  obtain ⟨earlier, between, rfl, hbetween⟩ := hasked report hreport
  refine ⟨earlier, between, report, rfl, hbetween, ?_, hreported, hnone⟩
  rw [List.append_assoc, List.cons_append] at htimeline
  apply htells.honest.report_eq htimeline
  intro moment hmem
  exact hlast moment (List.mem_append_left _ hmem)

end Worlds

end Timeline

namespace LateReport

open Timeline Writer

def schema (names : List String) : TableSchema :=
  ⟨names.map fun name => { name, type := 1, mode := 1 }⟩

def type (names : List String) : RowType :=
  ⟨rootName, names.zipIdx.map fun (name, index) => ⟨index + 1, name, .optional, .string⟩⟩

theorem rowTypeOf_schema :
    rowTypeOf (schema ["a"]) = .ok (type ["a"]) ∧
      rowTypeOf (schema ["a", "b"]) = .ok (type ["a", "b"]) ∧
      rowTypeOf (schema ["a", "b", "c"]) = .ok (type ["a", "b", "c"]) :=
  ⟨rfl, rfl, rfl⟩

def client : Client where
  parser _ := .error .emptyRecord
  config := {}
  retryableCodes := []

/-- A response with the report of a schema. -/
def reporting (names : List String) : AppendResponse :=
  { updatedSchema := some (schema names) }

def payload : Payload := Payload.empty.push 0 (.ok [10, 1, 120])

/-- The calls of an append to a stream that nothing speaks against. -/
def appending (ticket : Nat) : Timeline :=
  [.called ⟨.updatedSchema 0, none⟩, .called ⟨.isClosed 0, false⟩,
    .called ⟨.record (.submission payload.validCount payload.byteSize), ()⟩,
    .called ⟨.submit 0 payload.rows, Except.ok ticket⟩]

def first : Timeline :=
  [.called ⟨.fetchSchema, Except.ok (schema ["a"])⟩, .called ⟨.clock, (0 : Nat)⟩]

/-- What goes on while the first stream is the last one: two appends, the response to the first one,
and at the third append the question for an updated schema. The response to the second append is
read while the stream is being closed. -/
def rest : Timeline :=
  [.called ⟨.clock, (0 : Nat)⟩, .called ⟨.record (.operation .createStream 0), ()⟩,
    .called ⟨.keep (.ready ⟨type ["a"], 0⟩), ()⟩] ++ appending 0 ++ appending 1 ++
  [.read 0 (reporting ["a", "b"]), .called ⟨.updatedSchema 0, some (schema ["a", "b"])⟩,
    .called ⟨.clock, (0 : Nat)⟩, .read 0 (reporting ["a", "b", "c"]),
    .ended 0 Connection.endedStatus, .called ⟨.closeStream 0, ()⟩, .called ⟨.clock, (0 : Nat)⟩,
    .called ⟨.record (.operation .closeStream 0), ()⟩,
    .called ⟨.keep (.broken (type ["a", "b"])), ()⟩, .called ⟨.clock, (0 : Nat)⟩]

def after : Timeline :=
  [.called ⟨.clock, (0 : Nat)⟩, .called ⟨.record (.operation .createStream 0), ()⟩,
    .called ⟨.keep (.ready ⟨type ["a", "b"], 1⟩), ()⟩,
    .called ⟨.record (.submission payload.validCount payload.byteSize), ()⟩,
    .called ⟨.submit 1 payload.rows, Except.ok 2⟩]

def timeline : Timeline :=
  first ++ .called ⟨.openStream (type ["a"]), Except.ok 0⟩ ::
    (rest ++ .called ⟨.openStream (type ["a", "b"]), Except.ok 1⟩ :: after)

theorem honest_timeline :
    timeline.Honest ⟨"p", "d", "t"⟩ 10 fun _ => none :=
  ⟨trivial, trivial, trivial, trivial, trivial, trivial, rfl, rfl, trivial, trivial, rfl, rfl,
    trivial, trivial, trivial, rfl, trivial, trivial, trivial, trivial, trivial, trivial, trivial,
    trivial, trivial, trivial, trivial, trivial, trivial, trivial, trivial⟩

theorem exists_world :
    ∃ world : World, world.Reachable client ∧ Tells ⟨"p", "d", "t"⟩ 10 world timeline := by
  obtain ⟨hfirst, hsecond, _⟩ := rowTypeOf_schema
  have hempty : World.Reachable client {} := .refl
  have hstarted := (hempty.tail (.begin _ .start)).tail (.perform 0 rfl (runs_start hfirst 0))
  have hone := (hstarted.tail (.begin _ (.append payload))).tail
    (.perform 1 rfl (runs_submit_fit payload ⟨type ["a"], 0⟩ 0))
  have htwo := (hone.tail (.begin _ (.append payload))).tail
    (.perform 2 rfl (runs_submit_fit payload ⟨type ["a"], 0⟩ 1))
  have hthree := (htwo.tail (.begin _ (.append payload))).tail
    (.perform 3 rfl (runs_submit_reported payload ⟨type ["a"], 0⟩ hsecond 1 2))
  exact ⟨_, hthree, rfl, honest_timeline⟩

theorem opens_rest : ∀ moment ∈ rest, moment.opens = false := by
  have hnone : rest.all (fun moment => !moment.opens) = true := rfl
  simpa only [List.all_eq_true, Bool.not_eq_true'] using hnone

/-- A schema that was read before the opening of the next stream may be lost. -/
theorem not_last_report_taken :
    ¬ ∀ (client : Client) (world : World) (table : TableName) (capacity : Nat)
        (timeline first rest after : Timeline) (old type expected : RowType) (handle : Nat)
        (answer : Except SinkError Nat) (schema : TableSchema),
      world.Reachable client → Tells table capacity world timeline →
      timeline = first ++ .called ⟨.openStream old, .ok handle⟩ ::
        (rest ++ .called ⟨.openStream type, answer⟩ :: after) →
      (∀ moment ∈ rest, moment.opens = false) →
      lastReported (rest.readOn handle) = some schema → rowTypeOf schema = .ok expected →
      type = expected := by
  intro hclaim
  obtain ⟨world, hreachable, htells⟩ := exists_world
  have hsame := hclaim client world _ _ timeline first rest after (type ["a"]) (type ["a", "b"])
    (type ["a", "b", "c"]) 0 (.ok 1) (schema ["a", "b", "c"]) hreachable htells rfl opens_rest rfl
    rowTypeOf_schema.2.2
  have hnames := congrArg RowType.columnNames hsame
  contradiction

theorem replacement_type_of_world :
    ∃ world : World, world.Reachable client ∧ Tells ⟨"p", "d", "t"⟩ 10 world timeline ∧
      ∃ earlier between report,
        rest = earlier ++ .called ⟨.updatedSchema 0, report⟩ :: between ∧
        report = lastReported (readOn earlier 0) ∧
        ∀ schema, report = some schema → rowTypeOf schema = .ok (type ["a", "b"]) := by
  obtain ⟨world, hreachable, htells⟩ := exists_world
  obtain ⟨earlier, between, report, hrest, _, hreport, htype, _⟩ :=
    replacement_type hreachable htells rfl opens_rest
  exact ⟨world, hreachable, htells, earlier, between, report, hrest, hreport, htype⟩

end LateReport

end RowSink
