import Mathlib.Data.List.Induction
import RowSink.Proofs.Stream.Histories

/-!
# Who has the stream

A writer has at most one stream, and only the stream that was opened last. It asks, closes and
submits to a stream as long as the stream is live, closes it once, and opens another one when it has
closed the last one or the service has ended it. What the calls come to in this respect is kept in
a custody, every call is judged by the custody it is made in, and no section ever makes a call that
is out of order.
-/

namespace RowSink

/-- The stream that a call is about. -/
def StreamCall.handle? : StreamCall → Option Nat
  | updatedSchema handle | isClosed handle | submit handle _ | closeStream handle => some handle
  | _ => none

/-- What became of the stream that was opened last. -/
structure Custody where
  writer : WriterState := .uninitialized
  stream : Option ActiveStream := none
  /-- Whether the stream was closed. -/
  closed : Bool := false
  /-- Whether the service said that it had ended the stream. -/
  ended : Bool := false
  /-- The last answer to the question for an updated schema. -/
  report : Option (Option TableSchema) := none

namespace Custody

def note (custody : Custody) : StreamEvent → Custody
  | ⟨.keep state, _⟩ => { custody with writer := state }
  | ⟨.openStream type, .ok handle⟩ =>
    { writer := custody.writer, stream := some ⟨type, handle⟩ }
  | ⟨.updatedSchema _, report⟩ => { custody with report := some report }
  | ⟨.isClosed _, ended⟩ => { custody with ended := custody.ended || ended }
  | ⟨.closeStream _, _⟩ => { custody with closed := true }
  | _ => custody

def follow (custody : Custody) (events : List StreamEvent) : Custody :=
  events.foldl note custody

/-- A stream that was opened last and is still there. -/
structure Live (custody : Custody) (stream : ActiveStream) : Prop where
  opened : custody.stream = some stream
  unclosed : custody.closed = false
  unended : custody.ended = false

/-- A stream of the type may be opened: if there was one before, it is gone, and the type is that of
the schema it had reported when it was asked last, or its own type if there was none. -/
def Replaceable (custody : Custody) (type : RowType) : Prop :=
  ∀ stream, custody.stream = some stream →
    (custody.closed = true ∨ custody.ended = true) ∧
    ∃ report, custody.report = some report ∧
      (∀ schema, report = some schema → Writer.rowTypeOf schema = .ok type) ∧
      (report = none → type = stream.type)

/-- Whether a call is in order. -/
def Orderly (custody : Custody) : StreamCall → Prop
  | .fetchSchema => custody.stream = none
  | .openStream type => custody.Replaceable type
  | .updatedSchema handle | .isClosed handle | .submit handle _ | .closeStream handle =>
    ∃ type, custody.Live ⟨type, handle⟩
  | .clock | .record _ | .keep _ => True

/-- What holds between the sections of a writer. -/
def Kept (custody : Custody) : Prop :=
  match custody.writer with
  | .uninitialized => custody.stream = none
  | .ready stream => custody.Live stream
  | .broken type => custody.Replaceable type
  | .closed _ => True

theorem follow_append (custody : Custody) (first second : List StreamEvent) :
    custody.follow (first ++ second) = (custody.follow first).follow second :=
  List.foldl_append

theorem writer_note (custody : Custody) (event : StreamEvent) :
    (custody.note event).writer = custody.writer.note event := by
  obtain ⟨call, answer⟩ := event
  cases call with
  | openStream type => cases answer <;> rfl
  | _ => rfl

theorem writer_follow (custody : Custody) (events : List StreamEvent) :
    (custody.follow events).writer = custody.writer.after events := by
  induction events generalizing custody with
  | nil => rfl
  | cons event rest ih =>
    rw [follow, List.foldl_cons, ← follow, ih, writer_note]
    rfl

section Keeping

variable {custody : Custody}

theorem Live.kept {stream : ActiveStream} (hlive : custody.Live stream)
    (hwriter : custody.writer = .ready stream) : custody.Kept := by
  rwa [Kept, hwriter]

theorem Kept.live {stream : ActiveStream} (hkept : custody.Kept)
    (hwriter : custody.writer = .ready stream) : custody.Live stream := by
  rwa [Kept, hwriter] at hkept

theorem Kept.replaceable {type : RowType} (hkept : custody.Kept)
    (hwriter : custody.writer = .broken type) : custody.Replaceable type := by
  rwa [Kept, hwriter] at hkept

theorem Kept.stream_eq_none (hkept : custody.Kept) (hwriter : custody.writer = .uninitialized) :
    custody.stream = none := by
  rwa [Kept, hwriter] at hkept

theorem replaceable_of_none (hstream : custody.stream = none) (type : RowType) :
    custody.Replaceable type := by
  intro stream hsome
  rw [hstream] at hsome
  contradiction

end Keeping

section Lasting

variable {custody : Custody} {stream : ActiveStream} {call : StreamCall} {handle : Nat}

theorem Orderly.exists_live (horderly : custody.Orderly call)
    (hhandle : call.handle? = some handle) : ∃ type, custody.Live ⟨type, handle⟩ := by
  cases call with
  | updatedSchema | isClosed | submit | closeStream =>
    obtain rfl := Option.some.inj hhandle
    exact horderly
  | fetchSchema | openStream | clock | record | keep => contradiction

/-- A stream that is live was opened just now or was live before. -/
theorem Live.of_note {event : StreamEvent} (hlive : (custody.note event).Live stream) :
    event = ⟨.openStream stream.type, .ok stream.handle⟩ ∨ custody.Live stream := by
  obtain ⟨hopened, hunclosed, hunended⟩ := hlive
  obtain ⟨call, answer⟩ := event
  cases call with
  | openStream type =>
    cases answer with
    | error error => exact .inr ⟨hopened, hunclosed, hunended⟩
    | ok handle =>
      obtain rfl := Option.some.inj hopened
      exact .inl rfl
  | closeStream handle => contradiction
  | isClosed handle => exact .inr ⟨hopened, hunclosed, (Bool.or_eq_false_iff.mp hunended).1⟩
  | fetchSchema | updatedSchema | submit | clock | record | keep =>
    exact .inr ⟨hopened, hunclosed, hunended⟩

theorem Live.of_follow {events : List StreamEvent} (hlive : (custody.follow events).Live stream) :
    (⟨.openStream stream.type, .ok stream.handle⟩ : StreamEvent) ∈ events ∨
      custody.Live stream := by
  induction events generalizing custody with
  | nil => exact .inr hlive
  | cons event rest ih =>
    obtain hlater | hnoted := ih hlive
    · exact .inl (List.mem_cons_of_mem _ hlater)
    · obtain rfl | hbefore := hnoted.of_note
      · exact .inl List.mem_cons_self
      · exact .inr hbefore

/-- Between the closing of a stream and any further call about it lies another opening. -/
theorem Orderly.exists_opening {earlier middle : List StreamEvent}
    (horderly : (custody.follow (earlier ++ ⟨.closeStream handle, ()⟩ :: middle)).Orderly call)
    (hhandle : call.handle? = some handle) :
    ∃ type, (⟨.openStream type, .ok handle⟩ : StreamEvent) ∈ middle := by
  obtain ⟨type, hlive⟩ := horderly.exists_live hhandle
  rw [follow_append] at hlive
  have hlater : (((custody.follow earlier).note ⟨.closeStream handle, ()⟩).follow middle).Live
      ⟨type, handle⟩ := hlive
  obtain hopened | hkept := hlater.of_follow
  · exact ⟨type, hopened⟩
  · exact absurd hkept.unclosed nofun

end Lasting

end Custody

namespace Writer

open Custody

/-- Every call is in order, and what holds between sections holds where one may be given up. -/
abbrev Guards {α : Type} (ends : Custody → α → Prop) : Custody → Steps α → Prop :=
  Program.Ensures Custody.note
    (fun custody call => custody.Orderly call ∧ (call.waits → custody.Kept)) ends

/-- What holds after a stream was looked for. -/
structure Provided (custody : Custody) (opened : Except SinkError ActiveStream) : Prop where
  kept : custody.Kept
  ready : ∀ stream, opened = .ok stream → custody.writer = .ready stream

section Parts

variable {custody : Custody} {type : RowType}

theorem openWith_guards (hkept : custody.Kept) (hreplaceable : custody.Replaceable type) :
    Guards Provided custody (openWith type) := by
  apply Program.Ensures.ask ⟨trivial, nofun⟩
  intro start
  apply Program.Ensures.ask ⟨hreplaceable, fun _ => hkept⟩
  intro answer
  cases answer with
  | error error => exact .done ⟨hkept, nofun⟩
  | ok handle =>
    apply Program.Ensures.ask ⟨trivial, nofun⟩
    intro finish
    apply Program.Ensures.ask ⟨trivial, nofun⟩
    intro _
    apply Program.Ensures.ask ⟨trivial, nofun⟩
    intro _
    refine .done ⟨⟨rfl, rfl, rfl⟩, ?_⟩
    intro stream hopened
    exact congrArg WriterState.ready (Except.ok.inj hopened)

theorem closeHandle_guards {stream : ActiveStream} (hkept : custody.Kept)
    (hlive : custody.Live stream) :
    Guards (fun later _ => later = { custody with closed := true }) custody
      (closeHandle stream.handle) := by
  apply Program.Ensures.ask ⟨trivial, nofun⟩
  intro start
  apply Program.Ensures.ask ⟨⟨stream.type, hlive⟩, fun _ => hkept⟩
  intro _
  apply Program.Ensures.ask ⟨trivial, nofun⟩
  intro finish
  apply Program.Ensures.ask ⟨trivial, nofun⟩
  intro _
  exact .done rfl

theorem reopen_guards (hreplaceable : custody.Replaceable type) :
    Guards Provided custody (reopen type) := by
  apply Program.Ensures.ask ⟨trivial, nofun⟩
  intro _
  exact openWith_guards hreplaceable hreplaceable

theorem refresh_guards {stream : ActiveStream} (hready : custody.writer = .ready stream)
    (hkept : custody.Kept) : Guards Provided custody (refresh stream) := by
  have hlive := hkept.live hready
  have hopened := hlive.opened
  have hasked (report : Option TableSchema) :
      Live { custody with report := some report } stream :=
    ⟨hopened, hlive.unclosed, hlive.unended⟩
  have hkeeps (report : Option TableSchema) : Kept { custody with report := some report } :=
    (hasked report).kept hready
  apply Program.Ensures.ask ⟨⟨stream.type, hlive⟩, nofun⟩
  intro report
  cases report with
  | none =>
    apply Program.Ensures.ask ⟨⟨stream.type, hasked none⟩, nofun⟩
    intro ended
    cases ended with
    | true =>
      apply reopen_guards
      intro found hfound
      obtain rfl := Option.some.inj (hopened.symm.trans hfound)
      exact ⟨.inr (Bool.or_true _), none, rfl, nofun, fun _ => rfl⟩
    | false =>
      have hlast : Live { custody with report := some none, ended := custody.ended || false }
          stream := ⟨hopened, hlive.unclosed, (Bool.or_false _).trans hlive.unended⟩
      refine .done ⟨hlast.kept hready, ?_⟩
      intro found hfound
      obtain rfl := Except.ok.inj hfound
      exact hready
  | some schema =>
    cases htype : rowTypeOf schema with
    | error error => simpa only [htype] using .done ⟨hkeeps (some schema), nofun⟩
    | ok type =>
      simp only [htype]
      apply (closeHandle_guards (hkeeps (some schema)) (hasked (some schema))).bind
      intro later _ hlater
      subst hlater
      apply reopen_guards
      intro found hfound
      refine ⟨.inl rfl, some schema, rfl, ?_, nofun⟩
      intro reported hreported
      obtain rfl := Option.some.inj hreported
      exact htype

theorem submitTo_guards (payload : Payload) {stream : ActiveStream}
    (hprovided : Provided custody (.ok stream)) :
    Guards (fun later _ => later.Kept) custody (submitTo payload stream) := by
  have hlive := hprovided.kept.live (hprovided.ready stream rfl)
  apply Program.Ensures.ask ⟨trivial, nofun⟩
  intro _
  apply Program.Ensures.ask ⟨⟨stream.type, hlive⟩, fun _ => hprovided.kept⟩
  intro answer
  cases answer with
  | error error => exact .done hprovided.kept
  | ok ticket => exact .done hprovided.kept

/-- Rows are submitted to the stream that was provided for them, if there is one. -/
theorem provided_guards (payload : Payload) {steps : Steps (Except SinkError ActiveStream)}
    (hprovides : Guards Provided custody steps)
    {next : Except SinkError ActiveStream → Steps (Except SinkError Submission)}
    (hfailed : ∀ error, next (.error error) = .done (.error error))
    (hopened : ∀ stream, next (.ok stream) = submitTo payload stream) :
    Guards (fun later _ => later.Kept) custody (steps.bind next) := by
  apply hprovides.bind
  intro later opened hprovided
  cases opened with
  | error error =>
    rw [hfailed]
    exact .done hprovided.kept
  | ok stream =>
    rw [hopened]
    exact submitTo_guards payload hprovided

end Parts

end Writer

namespace WriterSection

open Custody Writer

variable {custody : Custody}

theorem start_guards (hkept : custody.Kept) :
    Guards (fun later _ => later.Kept) custody (Writer.start custody.writer) := by
  cases hwriter : custody.writer with
  | ready stream => exact .done hkept
  | broken type => exact .done hkept
  | closed type => exact .done hkept
  | uninitialized =>
    have hnone := hkept.stream_eq_none hwriter
    apply Program.Ensures.ask ⟨hnone, fun _ => hkept⟩
    intro answer
    cases answer with
    | error error => exact .done hkept
    | ok schema =>
      cases htype : rowTypeOf schema with
      | error error => simpa only [htype] using .done hkept
      | ok type =>
        simp only [htype]
        apply (openWith_guards hkept (replaceable_of_none hnone type)).bind
        intro later opened hprovided
        exact .done hprovided.kept

theorem submit_guards (payload : Payload) (hkept : custody.Kept) :
    Guards (fun later _ => later.Kept) custody (Writer.submit payload custody.writer) := by
  cases hwriter : custody.writer with
  | uninitialized => exact .done hkept
  | closed type => exact .done hkept
  | ready stream =>
    exact provided_guards payload (refresh_guards hwriter hkept) (fun _ => rfl) (fun _ => rfl)
  | broken type =>
    have hreopens := reopen_guards (hkept.replaceable hwriter)
    exact provided_guards payload hreopens (fun _ => rfl) (fun _ => rfl)

theorem close_guards (hkept : custody.Kept) :
    Guards (fun later _ => ∃ type, later.writer = .closed type) custody
      (Writer.close custody.writer) := by
  have hfinal (present : Custody) (type : Option RowType) :
      Guards (fun later _ => ∃ type, later.writer = .closed type) present
        (.ask (.keep (.closed type)) fun _ => .done ()) := by
    apply Program.Ensures.ask ⟨trivial, nofun⟩
    intro _
    exact .done ⟨type, rfl⟩
  cases hwriter : custody.writer with
  | ready stream =>
    apply (closeHandle_guards hkept (hkept.live hwriter)).bind
    intro later _ _
    exact hfinal later _
  | broken type => exact hfinal custody _
  | closed type => exact hfinal custody _
  | uninitialized => exact hfinal custody _

/-- No section makes a call that is out of order. -/
theorem steps_guards (part : WriterSection) (hkept : custody.Kept) :
    Guards (fun later _ => later.Kept) custody (part.steps custody.writer) :=
  match part with
  | .start => start_guards hkept
  | .rowType => .done hkept
  | .submit payload => submit_guards payload hkept
  | .close => by
    apply (close_guards hkept).imp_ends
    intro later _ hclosed
    obtain ⟨type, hwriter⟩ := hclosed
    rw [Custody.Kept, hwriter]
    trivial

end WriterSection

/-- At some point of what happened, after the calls in `past`, a call was made. -/
inductive Happening.Makes : Happening → List StreamEvent → StreamCall → Prop where
  | performed {part : WriterSection} {past later : List StreamEvent} {call : StreamCall}
      {answer : call.Answer} {value : part.Answer} :
      Makes (.performed part (past ++ ⟨call, answer⟩ :: later) value) past call
  | answered {part : WriterSection} {past later : List StreamEvent} {call : StreamCall}
      {answer : call.Answer} {pending : StreamCall} :
      Makes (.interrupted part (past ++ ⟨call, answer⟩ :: later) pending) past call
  | pending {part : WriterSection} {past : List StreamEvent} {call : StreamCall} :
      Makes (.interrupted part past call) past call

theorem Happening.Makes.exists_reaches {happening : Happening} {past : List StreamEvent}
    {call : StreamCall} (hmakes : happening.Makes past call) {writer : WriterState}
    (hfits : happening.Fits writer) :
    ∃ (part : WriterSection) (next : call.Answer → Steps part.Answer),
      (part.steps writer).Reaches past (.ask call next) := by
  cases hmakes with
  | performed =>
    cases hfits with
    | performed hruns => exact ⟨_, hruns.reaches.exists_ask⟩
  | answered =>
    cases hfits with
    | interrupted hreaches _ => exact ⟨_, hreaches.exists_ask⟩
  | pending =>
    cases hfits with
    | interrupted hreaches _ => exact ⟨_, _, hreaches⟩

theorem Happening.makes_of_events {happening : Happening} {past later : List StreamEvent}
    {event : StreamEvent} (hevents : happening.events = past ++ event :: later) :
    happening.Makes past event.1 := by
  cases happening with
  | asked call answer =>
    have hempty : [] = past ++ event :: later := hevents
    simp at hempty
  | performed part events answer =>
    have hsplit : events = past ++ event :: later := hevents
    subst hsplit
    exact .performed
  | interrupted part events pending =>
    have hsplit : events = past ++ event :: later := hevents
    subst hsplit
    exact .answered

namespace Custody

section Histories

variable {custody : Custody} {happening : Happening}

/-- Whatever happens leaves what holds between sections. -/
theorem Kept.happen (hkept : custody.Kept) (hfits : happening.Fits custody.writer) :
    (custody.follow happening.events).Kept := by
  cases hfits with
  | asked hown answer => exact hkept
  | performed hruns => exact (WriterSection.steps_guards _ hkept).ends_of_runs hruns
  | interrupted hreaches hwaits =>
    exact ((WriterSection.steps_guards _ hkept).allowed_of_reaches hreaches).2 hwaits

theorem Kept.orderly (hkept : custody.Kept) (hfits : happening.Fits custody.writer)
    {past : List StreamEvent} {call : StreamCall} (hmakes : happening.Makes past call) :
    (custody.follow past).Orderly call := by
  obtain ⟨part, next, hreaches⟩ := hmakes.exists_reaches hfits
  exact ((WriterSection.steps_guards part hkept).allowed_of_reaches hreaches).1

theorem Kept.follow {history : History} (hkept : custody.Kept)
    (hvalid : history.Valid custody.writer) : (custody.follow history.events).Kept := by
  induction history generalizing custody with
  | nil => exact hkept
  | cons entry rest ih =>
    obtain ⟨hfits, hrest⟩ := hvalid
    rw [← writer_follow] at hrest
    rw [History.events, List.flatMap_cons, follow_append]
    exact ih (hkept.happen hfits) hrest

/-- Every call of a history is in order, whether it was answered or not. -/
theorem Kept.orderly_of_split {before after : History} {index : Nat} (hkept : custody.Kept)
    (hvalid : History.Valid custody.writer (before ++ (index, happening) :: after))
    {past : List StreamEvent} {call : StreamCall} (hmakes : happening.Makes past call) :
    (custody.follow (before.events ++ past)).Orderly call := by
  obtain ⟨hbefore, hfits, _⟩ := History.valid_append_iff.mp hvalid
  rw [← writer_follow] at hfits
  rw [follow_append]
  exact (hkept.follow hbefore).orderly hfits hmakes

/-- Every call that was answered is in order after the calls before it. -/
theorem Kept.orderly_of_events {history : History} (hkept : custody.Kept)
    (hvalid : history.Valid custody.writer) {past later : List StreamEvent} {event : StreamEvent}
    (hevents : history.events = past ++ event :: later) :
    (custody.follow past).Orderly event.1 := by
  induction history generalizing custody past with
  | nil => simp [History.events] at hevents
  | cons entry rest ih =>
    obtain ⟨hfits, hrest⟩ := hvalid
    rw [← writer_follow] at hrest
    rw [History.events, List.flatMap_cons, ← History.events] at hevents
    obtain ⟨inner, rfl, hinner⟩ | ⟨inner, hhappened, hinner⟩ :=
      List.append_eq_append_iff.mp hevents
    · rw [follow_append]
      exact ih (hkept.happen hfits) hrest hinner
    · cases inner with
      | nil =>
        rw [List.append_nil] at hhappened
        rw [List.nil_append] at hinner
        have hlast : History.events rest = [] ++ event :: later := hinner.symm
        rw [← hhappened]
        exact ih (hkept.happen hfits) hrest hlast
      | cons first inner =>
        obtain ⟨rfl, _⟩ := List.cons.inj hinner
        exact hkept.orderly hfits (Happening.makes_of_events hhappened)

end Histories

/-- The streams that were opened and are still there: the writer did not close them, and the service
did not say that it had ended them. -/
def hold (handles : List Nat) : StreamEvent → List Nat
  | ⟨.openStream _, .ok handle⟩ => handles ++ [handle]
  | ⟨.closeStream handle, _⟩ => handles.filter (· ≠ handle)
  | ⟨.isClosed handle, true⟩ => handles.filter (· ≠ handle)
  | _ => handles

def held (events : List StreamEvent) : List Nat :=
  events.foldl hold []

/-- No stream is held, or only the one that was opened last. -/
def Covers (custody : Custody) (handles : List Nat) : Prop :=
  handles = [] ∨ ∃ stream, custody.Live stream ∧ handles = [stream.handle]

section Holding

variable {custody : Custody} {handles : List Nat}

theorem Covers.eq_nil (hcovers : custody.Covers handles)
    (hgone : ∀ stream, ¬ custody.Live stream) : handles = [] := by
  obtain hnone | ⟨stream, hlive, _⟩ := hcovers
  · exact hnone
  · exact absurd hlive (hgone stream)

/-- What leaves a live stream live leaves the streams that are held. -/
theorem Covers.keep {later : Custody} (hcovers : custody.Covers handles)
    (hlive : ∀ stream, custody.Live stream → later.Live stream) : later.Covers handles :=
  hcovers.imp_right fun ⟨stream, hstream, hhandles⟩ => ⟨stream, hlive stream hstream, hhandles⟩

theorem Covers.filter (hcovers : custody.Covers handles) {type : RowType} {handle : Nat}
    (hlive : custody.Live ⟨type, handle⟩) (later : Custody) :
    later.Covers (handles.filter (· ≠ handle)) := by
  obtain rfl | ⟨stream, hstream, rfl⟩ := hcovers
  · exact .inl rfl
  · obtain rfl := Option.some.inj (hstream.opened.symm.trans hlive.opened)
    left
    simp

theorem Covers.note (hcovers : custody.Covers handles) {event : StreamEvent}
    (horderly : custody.Orderly event.1) : (custody.note event).Covers (hold handles event) := by
  obtain ⟨call, answer⟩ := event
  cases call with
  | openStream type =>
    cases answer with
    | error error => exact hcovers
    | ok handle =>
      have hgone : ∀ stream, ¬ custody.Live stream := by
        intro stream hlive
        obtain ⟨hclosed | hended, _⟩ := horderly stream hlive.opened
        · exact Bool.noConfusion (hlive.unclosed.symm.trans hclosed)
        · exact Bool.noConfusion (hlive.unended.symm.trans hended)
      obtain rfl := hcovers.eq_nil hgone
      exact .inr ⟨⟨type, handle⟩, ⟨rfl, rfl, rfl⟩, rfl⟩
  | closeStream handle =>
    obtain ⟨type, hlive⟩ := horderly
    exact hcovers.filter hlive _
  | isClosed handle =>
    obtain ⟨type, hlive⟩ := horderly
    cases answer with
    | true => exact hcovers.filter hlive _
    | false =>
      apply hcovers.keep
      intro stream hstream
      exact ⟨hstream.opened, hstream.unclosed, (Bool.or_false _).trans hstream.unended⟩
  | updatedSchema handle =>
    exact hcovers.keep fun _ hstream => ⟨hstream.opened, hstream.unclosed, hstream.unended⟩
  | keep state =>
    exact hcovers.keep fun _ hstream => ⟨hstream.opened, hstream.unclosed, hstream.unended⟩
  | fetchSchema | submit | clock | record => exact hcovers

/-- At no time is more than one stream held. -/
theorem length_held_le {events : List StreamEvent}
    (horderly : ∀ past event later, events = past ++ event :: later →
      (Custody.follow {} past).Orderly event.1) : (held events).length ≤ 1 := by
  have hcovers : (Custody.follow {} events).Covers (held events) := by
    induction events using List.reverseRecOn with
    | nil => exact .inl rfl
    | append_singleton past event ih =>
      have hpast : (Custody.follow {} past).Covers (held past) := by
        apply ih
        intro earlier found between hsplit
        apply horderly earlier found (between ++ [event])
        rw [hsplit, List.append_assoc, List.cons_append]
      have hlast := hpast.note (horderly past event [] rfl)
      rwa [follow_append, held, List.foldl_append, ← held]
  obtain hnone | ⟨stream, _, hone⟩ := hcovers
  · rw [hnone]
    exact Nat.zero_le 1
  · rw [hone]
    exact Nat.le_refl 1

end Holding

end Custody

end RowSink
