import RowSink.Proofs.Stream.Ensures
import RowSink.Stream.Interleaving

/-!
# What a section does

A section is reasoned about call by call, over all answers. What its calls come to is kept in a
ledger: the state of the writer, the stream that was opened last, the schemas that were reported and
the submissions. All sections but the first start change the ledger in few ways, one turn at a time,
and they do so even if they are given up before their end.
-/

namespace RowSink

/-- Rows that were handed to a stream, with the answer. -/
structure Submitted where
  handle : Nat
  rows : List Bytes
  answer : Except SinkError Nat

/-- What the calls of sections come to. -/
structure Ledger where
  writer : WriterState := .uninitialized
  /-- The stream that was opened last. -/
  opened : Option ActiveStream := none
  /-- The schemas that were reported on streams. -/
  reports : List TableSchema := []
  submissions : List Submitted := []

namespace Ledger

def note (ledger : Ledger) : StreamEvent → Ledger
  | ⟨.keep state, _⟩ => { ledger with writer := state }
  | ⟨.openStream type, .ok handle⟩ => { ledger with opened := some ⟨type, handle⟩ }
  | ⟨.updatedSchema _, some schema⟩ => { ledger with reports := ledger.reports ++ [schema] }
  | ⟨.submit handle rows, answer⟩ =>
    { ledger with submissions := ledger.submissions ++ [⟨handle, rows, answer⟩] }
  | _ => ledger

def follow (ledger : Ledger) (events : List StreamEvent) : Ledger :=
  events.foldl note ledger

theorem follow_append (ledger : Ledger) (first second : List StreamEvent) :
    ledger.follow (first ++ second) = (ledger.follow first).follow second :=
  List.foldl_append

/-- The ledger after a stream was opened and kept. -/
def withStream (ledger : Ledger) (stream : ActiveStream) : Ledger :=
  { ledger with writer := .ready stream, opened := some stream }

def withSubmission (ledger : Ledger) (submitted : Submitted) : Ledger :=
  { ledger with submissions := ledger.submissions ++ [submitted] }

def withReport (ledger : Ledger) (schema : TableSchema) : Ledger :=
  { ledger with reports := ledger.reports ++ [schema] }

/-- One change that a section makes. -/
inductive Turn (ledger : Ledger) : Ledger → Prop where
  | reported (schema : TableSchema) : Turn ledger (ledger.withReport schema)
  | broke {stream : ActiveStream} {type : RowType} (hready : ledger.writer = .ready stream)
      (htype : type = stream.type ∨ ∃ schema ∈ ledger.reports, Writer.rowTypeOf schema = .ok type) :
      Turn ledger { ledger with writer := .broken type }
  | opened {type : RowType} (hbroken : ledger.writer = .broken type) (handle : Nat) :
      Turn ledger (ledger.withStream ⟨type, handle⟩)
  | submitted {stream : ActiveStream} (hready : ledger.writer = .ready stream) (rows : List Bytes)
      (answer : Except SinkError Nat) :
      Turn ledger (ledger.withSubmission ⟨stream.handle, rows, answer⟩)
  | closed : Turn ledger { ledger with writer := .closed (Writer.rowType ledger.writer).toOption }

/-- A ledger that comes out of another one, turn by turn. -/
abbrev Turns : Ledger → Ledger → Prop := Relation.ReflTransGen Turn

end Ledger

namespace Writer

open Ledger

/-- Nothing is said about a section at calls that do not wait. -/
abbrev Holds {α : Type} (pending : Ledger → StreamCall → Prop) (ends : Ledger → α → Prop) :
    Ledger → Steps α → Prop :=
  Program.Ensures Ledger.note (fun ledger call => call.waits → pending ledger call) ends

variable {pending : Ledger → StreamCall → Prop} {ledger : Ledger}

section Calls

variable {α : Type} {ends : Ledger → α → Prop} {call : StreamCall} {next : call.Answer → Steps α}

theorem holds_quiet (hquiet : call.waits = false)
    (hnext : ∀ answer, Holds pending ends (ledger.note ⟨call, answer⟩) (next answer)) :
    Holds pending ends ledger (.ask call next) := by
  refine .ask ?_ hnext
  intro hwaits
  rw [hquiet] at hwaits
  contradiction

theorem holds_waiting (hpending : pending ledger call)
    (hnext : ∀ answer, Holds pending ends (ledger.note ⟨call, answer⟩) (next answer)) :
    Holds pending ends ledger (.ask call next) :=
  .ask (fun _ => hpending) hnext

end Calls

/-- What has to hold around the opening of a stream. -/
structure Opening (pending : Ledger → StreamCall → Prop)
    (ends : Ledger → Except SinkError ActiveStream → Prop) (ledger : Ledger) (type : RowType) :
    Prop where
  waits : pending ledger (.openStream type)
  failed : ∀ error, ends ledger (.error error)
  opened : ∀ handle, ends (ledger.withStream ⟨type, handle⟩) (.ok ⟨type, handle⟩)

section Parts

variable {ends : Ledger → Except SinkError ActiveStream → Prop} {type : RowType}

theorem openWith_holds (hopening : Opening pending ends ledger type) :
    Holds pending ends ledger (openWith type) := by
  apply holds_quiet rfl
  intro start
  apply holds_waiting hopening.waits
  intro answer
  cases answer with
  | error error => exact .done (hopening.failed error)
  | ok handle =>
    apply holds_quiet rfl
    intro finish
    apply holds_quiet rfl
    intro _
    apply holds_quiet rfl
    intro _
    exact .done (hopening.opened handle)

theorem closeHandle_holds {handle : Nat} (last : Ledger → Unit → Prop)
    (hwaits : pending ledger (.closeStream handle)) (hends : last ledger ()) :
    Holds pending last ledger (closeHandle handle) := by
  apply holds_quiet rfl
  intro start
  apply holds_waiting hwaits
  intro _
  apply holds_quiet rfl
  intro finish
  apply holds_quiet rfl
  intro _
  exact .done hends

theorem reopen_holds (hopening : Opening pending ends { ledger with writer := .broken type } type) :
    Holds pending ends ledger (reopen type) := by
  apply holds_quiet rfl
  intro _
  exact openWith_holds hopening

/-- A stream stays when nothing speaks against it. It is replaced when the service reported a schema
that can be converted or ended the stream, and only then. -/
theorem refresh_holds {stream : ActiveStream} (hfit : ends ledger (.ok stream))
    (hrefused : ∀ schema error, rowTypeOf schema = .error error →
      ends (ledger.withReport schema) (.error error))
    (hreported : ∀ schema type, rowTypeOf schema = .ok type →
      pending (ledger.withReport schema) (.closeStream stream.handle) ∧
      Opening pending ends { ledger.withReport schema with writer := .broken type } type)
    (hended : Opening pending ends { ledger with writer := .broken stream.type } stream.type) :
    Holds pending ends ledger (refresh stream) := by
  apply holds_quiet rfl
  intro answer
  cases answer with
  | none =>
    apply holds_quiet rfl
    intro closed
    cases closed with
    | true => exact reopen_holds hended
    | false => exact .done hfit
  | some schema =>
    cases htype : rowTypeOf schema with
    | error error => simpa only [htype] using .done (hrefused schema error htype)
    | ok type =>
      obtain ⟨hclosing, hopening⟩ := hreported schema type htype
      have hclosed := closeHandle_holds (fun state _ => state = ledger.withReport schema)
        hclosing rfl
      simp only [htype]
      apply hclosed.bind
      intro state _ hstate
      subst hstate
      exact reopen_holds hopening

end Parts

end Writer

/-- What an append submits, by its answer. An append without an accepted submission is never
answered with a ticket. -/
inductive Settles (payload : Payload) :
    List Submitted → Except SinkError Writer.Submission → Prop where
  | closed : Settles payload [] (.ok (.answered Writer.closedResponse))
  | failed (error : SinkError) : Settles payload [] (.error error)
  | refused (handle : Nat) (error : SinkError) :
      Settles payload [⟨handle, payload.rows, .error error⟩] (.error error)
  | accepted (handle ticket : Nat) :
      Settles payload [⟨handle, payload.rows, .ok ticket⟩] (.ok (.pending ticket))

namespace WriterSection

open Ledger Writer

/-- What holds while a section waits. -/
structure Waiting (part : WriterSection) (start ledger : Ledger) (call : StreamCall) : Prop where
  turns : Turns start ledger
  submits : ∀ handle rows, call = .submit handle rows → ∃ payload type,
    part = .submit payload ∧ rows = payload.rows ∧ ledger.writer = .ready ⟨type, handle⟩

/-- What holds at the end of a section. -/
inductive Ending (start : Ledger) : (part : WriterSection) → Ledger → part.Answer → Prop where
  | started {type : RowType} (hwriter : start.writer = .uninitialized) (handle : Nat) :
      Ending start .start (start.withStream ⟨type, handle⟩) (.ok ())
  | unchanged {type : RowType} (htype : Writer.rowType start.writer = .ok type) :
      Ending start .start start (.ok ())
  | unstarted (error : SinkError) : Ending start .start start (.error error)
  | read : Ending start .rowType start (Writer.rowType start.writer)
  | submitted {payload : Payload} {ledger : Ledger} {added : List Submitted}
      {answer : Except SinkError Submission} (hturns : Turns start ledger)
      (hadded : ledger.submissions = start.submissions ++ added)
      (hsettles : Settles payload added answer) : Ending start (.submit payload) ledger answer
  | closed {ledger : Ledger} (hturns : Turns start ledger) : Ending start .close ledger ()

/-- What holds between the replacement of a stream and the submission to it. -/
structure Readied (start ledger : Ledger) (opened : Except SinkError ActiveStream) : Prop where
  turns : Turns start ledger
  submissions_eq : ledger.submissions = start.submissions
  ready : ∀ stream, opened = .ok stream → ledger.writer = .ready stream

variable {part : WriterSection} {start ledger : Ledger}

theorem Waiting.of_turns {call : StreamCall} (hturns : Turns start ledger)
    (hcall : ∀ handle rows, call ≠ .submit handle rows) : part.Waiting start ledger call :=
  ⟨hturns, fun handle rows hsubmit => absurd hsubmit (hcall handle rows)⟩

theorem opening_readied {type : RowType} (hturns : Turns start ledger)
    (hsubmissions : ledger.submissions = start.submissions)
    (hbroken : ledger.writer = .broken type) :
    Opening (part.Waiting start) (Readied start) ledger type where
  waits := .of_turns hturns nofun
  failed error := ⟨hturns, hsubmissions, nofun⟩
  opened handle :=
    { turns := hturns.tail (.opened hbroken handle)
      submissions_eq := hsubmissions
      ready := by
        intro stream hopened
        cases hopened
        rfl }

theorem refresh_readied {stream : ActiveStream} (hready : start.writer = .ready stream) :
    Holds (part.Waiting start) (Readied start) start (refresh stream) := by
  apply refresh_holds
  · refine ⟨.refl, rfl, ?_⟩
    intro found hfound
    cases hfound
    exact hready
  · intro schema error _
    exact ⟨.single (.reported schema), rfl, nofun⟩
  · intro schema type htype
    have hreported : Turns start (start.withReport schema) := .single (.reported schema)
    have hmem : schema ∈ (start.withReport schema).reports := by simp [withReport]
    have hbroken := hreported.tail (.broke hready (.inr ⟨schema, hmem, htype⟩))
    exact ⟨.of_turns hreported nofun, opening_readied hbroken rfl rfl⟩
  · exact opening_readied (.single (.broke hready (.inl rfl))) rfl rfl

theorem submitTo_ending {payload : Payload} {stream : ActiveStream}
    (hreadied : Readied start ledger (.ok stream)) :
    Holds (Waiting (.submit payload) start) (Ending start (.submit payload)) ledger
      (submitTo payload stream) := by
  have hready := hreadied.ready stream rfl
  have hsubmitted (answer : Except SinkError Nat) :
      Turns start (ledger.withSubmission ⟨stream.handle, payload.rows, answer⟩) :=
    hreadied.turns.tail (.submitted hready payload.rows answer)
  have hadded (answer : Except SinkError Nat) :
      (ledger.withSubmission ⟨stream.handle, payload.rows, answer⟩).submissions =
        start.submissions ++ [⟨stream.handle, payload.rows, answer⟩] := by
    rw [withSubmission, hreadied.submissions_eq]
  apply holds_quiet rfl
  intro _
  apply holds_waiting
  · refine ⟨hreadied.turns, ?_⟩
    intro handle rows hsubmit
    cases hsubmit
    exact ⟨payload, stream.type, rfl, rfl, hready⟩
  · intro answer
    cases answer with
    | error error => exact .done (.submitted (hsubmitted _) (hadded _) (.refused _ error))
    | ok ticket => exact .done (.submitted (hsubmitted _) (hadded _) (.accepted _ ticket))

/-- An append that could not replace the stream fails, and any other one goes on to its
submission. -/
theorem readied_ending {payload : Payload} {steps : Steps (Except SinkError ActiveStream)}
    (hreadies : Holds (Waiting (.submit payload) start) (Readied start) ledger steps)
    {next : Except SinkError ActiveStream → Steps (Except SinkError Submission)}
    (hfailed : ∀ error, next (.error error) = .done (.error error))
    (hopened : ∀ stream, next (.ok stream) = submitTo payload stream) :
    Holds (Waiting (.submit payload) start) (Ending start (.submit payload)) ledger
      (steps.bind next) := by
  apply hreadies.bind
  intro ledger opened hreadied
  cases opened with
  | error error =>
    rw [hfailed]
    refine .done (.submitted hreadied.turns ?_ (.failed error))
    rw [hreadied.submissions_eq, List.append_nil]
  | ok stream =>
    rw [hopened]
    exact submitTo_ending hreadied

theorem submit_ending (payload : Payload) (start : Ledger) :
    Holds (Waiting (.submit payload) start) (Ending start (.submit payload)) start
      (Writer.submit payload start.writer) := by
  have hnothing : start.submissions = start.submissions ++ [] := (List.append_nil _).symm
  cases hwriter : start.writer with
  | uninitialized => exact .done (.submitted .refl hnothing (.failed _))
  | closed type => exact .done (.submitted .refl hnothing .closed)
  | ready stream =>
    exact readied_ending (refresh_readied hwriter) (fun _ => rfl) (fun _ => rfl)
  | broken type =>
    have hsame : { start with writer := .broken type } = start := by rw [← hwriter]
    have hopening : Opening (Waiting (.submit payload) start) (Readied start)
        { start with writer := .broken type } type := by
      rw [hsame]
      exact opening_readied .refl rfl hwriter
    exact readied_ending (reopen_holds hopening) (fun _ => rfl) (fun _ => rfl)

theorem start_ending (start : Ledger) :
    Holds (Waiting .start start) (Ending start .start) start (Writer.start start.writer) := by
  cases hwriter : start.writer with
  | ready stream => exact .done (.unchanged (by rw [hwriter]; rfl))
  | broken type => exact .done (.unchanged (by rw [hwriter]; rfl))
  | closed type => exact .done (.unstarted _)
  | uninitialized =>
    apply holds_waiting (.of_turns .refl nofun)
    intro answer
    cases answer with
    | error error => exact .done (.unstarted error)
    | ok schema =>
      cases htype : rowTypeOf schema with
      | error error => simpa only [htype] using .done (.unstarted error)
      | ok type =>
        simp only [htype]
        have hopened : Holds (Waiting .start start)
            (fun ledger opened => Ending start .start ledger (opened.map fun _ => ())) start
            (openWith type) :=
          openWith_holds ⟨.of_turns .refl nofun, .unstarted, .started hwriter⟩
        apply hopened.bind
        intro ledger opened hends
        exact .done hends

theorem close_ending (start : Ledger) :
    Holds (Waiting .close start) (Ending start .close) start (Writer.close start.writer) := by
  have hkept {type : Option RowType} (htype : (Writer.rowType start.writer).toOption = type) :
      Holds (Waiting .close start) (Ending start .close) start
        (.ask (.keep (.closed type)) fun _ => .done ()) := by
    subst htype
    apply holds_quiet rfl
    intro _
    exact .done (.closed (.single .closed))
  cases hwriter : start.writer with
  | ready stream =>
    have hclosed := closeHandle_holds (fun ledger _ => ledger = start)
      (.of_turns .refl nofun : Waiting .close start start (.closeStream stream.handle)) rfl
    apply hclosed.bind
    intro ledger _ hledger
    subst hledger
    exact hkept (by rw [hwriter]; rfl)
  | broken type => exact hkept (by rw [hwriter]; rfl)
  | closed type => exact hkept (by rw [hwriter]; cases type <;> rfl)
  | uninitialized => exact hkept (by rw [hwriter]; rfl)

/-- What every section does to the ledger, whether it ends or is given up. -/
theorem steps_ending (part : WriterSection) (start : Ledger) :
    Holds (part.Waiting start) (Ending start part) start (part.steps start.writer) :=
  match part with
  | .start => start_ending start
  | .rowType => .done .read
  | .submit payload => submit_ending payload start
  | .close => close_ending start

end WriterSection

namespace Writer

/-- The calls that open a stream and keep it. -/
def openingEvents (type : RowType) (handle : Nat) : List StreamEvent :=
  [⟨.clock, (0 : Nat)⟩, ⟨.openStream type, Except.ok handle⟩, ⟨.clock, (0 : Nat)⟩,
    ⟨.record (.operation .createStream 0), ()⟩, ⟨.keep (.ready ⟨type, handle⟩), ()⟩]

/-- The calls that replace a stream after the report of a schema. -/
def replacingEvents (old : Nat) (schema : TableSchema) (type : RowType) (handle : Nat) :
    List StreamEvent :=
  [⟨.updatedSchema old, some schema⟩, ⟨.clock, (0 : Nat)⟩, ⟨.closeStream old, ()⟩,
    ⟨.clock, (0 : Nat)⟩, ⟨.record (.operation .closeStream 0), ()⟩, ⟨.keep (.broken type), ()⟩] ++
    openingEvents type handle

theorem runs_openWith (type : RowType) (handle : Nat) :
    (Writer.openWith type).Runs (openingEvents type handle) (.ok ⟨type, handle⟩) :=
  .ask (.ask (.ask (.ask (.ask (.done _)))))

theorem runs_start {schema : TableSchema} {type : RowType}
    (htype : Writer.rowTypeOf schema = .ok type) (handle : Nat) :
    (WriterSection.start.steps .uninitialized).Runs
      (⟨.fetchSchema, Except.ok schema⟩ :: openingEvents type handle) (Except.ok ()) := by
  refine .ask ?_
  simp only [htype]
  rw [← List.append_nil (openingEvents type handle)]
  exact Program.runs_bind (runs_openWith type handle) (.done _)

theorem runs_rowType (state : WriterState) :
    (WriterSection.rowType.steps state).Runs [] (Writer.rowType state) :=
  .done _

theorem runs_refresh (stream : ActiveStream) {schema : TableSchema} {type : RowType}
    (htype : Writer.rowTypeOf schema = .ok type) (handle : Nat) :
    (Writer.refresh stream).Runs (replacingEvents stream.handle schema type handle)
      (.ok ⟨type, handle⟩) := by
  refine .ask ?_
  simp only [htype]
  exact .ask (.ask (.ask (.ask (.ask (runs_openWith type handle)))))

/-- Rows that are submitted to a stream that nothing speaks against. -/
theorem runs_submit_fit (payload : Payload) (stream : ActiveStream) (ticket : Nat) :
    ((WriterSection.submit payload).steps (.ready stream)).Runs
      [⟨.updatedSchema stream.handle, none⟩, ⟨.isClosed stream.handle, false⟩,
        ⟨.record (.submission payload.validCount payload.byteSize), ()⟩,
        ⟨.submit stream.handle payload.rows, Except.ok ticket⟩]
      (Except.ok (.pending ticket)) :=
  .ask (.ask (.ask (.ask (.done _))))

/-- Rows that are submitted right after the report of a schema go to a stream of its type. -/
theorem runs_submit_reported (payload : Payload) (stream : ActiveStream) {schema : TableSchema}
    {type : RowType} (htype : Writer.rowTypeOf schema = .ok type) (handle ticket : Nat) :
    ((WriterSection.submit payload).steps (.ready stream)).Runs
      (replacingEvents stream.handle schema type handle ++
        [⟨.record (.submission payload.validCount payload.byteSize), ()⟩,
          ⟨.submit handle payload.rows, Except.ok ticket⟩])
      (Except.ok (.pending ticket)) :=
  Program.runs_bind (runs_refresh stream htype handle) (.ask (.ask (.done _)))

end Writer

end RowSink
