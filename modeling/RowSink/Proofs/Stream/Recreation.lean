import RowSink.Proofs.Stream.Closing

/-!
# When a stream cannot be replaced

A section may fail at every call that it makes. What it then has done, and in which state it leaves
the writer, is listed here outcome by outcome. From this it follows that a report which does not
convert changes nothing, that a stream which could not be opened is asked for again by the next
append, and that the row type of a writer is that of the last stream it asked for.
-/

namespace RowSink

open Writer

/-- The calls of a section that matter to streams, and the state of the writer. -/
structure Trail where
  writer : WriterState
  calls : List StreamEvent := []

namespace Trail

def note (trail : Trail) : StreamEvent → Trail
  | ⟨.keep state, _⟩ => { trail with writer := state }
  | ⟨.isClosed _, _⟩ | ⟨.clock, _⟩ | ⟨.record _, _⟩ => trail
  | event => { trail with calls := trail.calls ++ [event] }

end Trail

/-- Whether a call matters to streams. The question whether a stream was ended changes nothing. -/
def StreamCall.isNotable : StreamCall → Bool
  | fetchSchema | openStream _ | updatedSchema _ | submit _ _ | closeStream _ => true
  | isClosed _ | clock | record _ | keep _ => false

def notable (events : List StreamEvent) : List StreamEvent :=
  events.filter fun event => event.1.isNotable

theorem foldl_note (trail : Trail) (events : List StreamEvent) :
    events.foldl Trail.note trail =
      ⟨trail.writer.after events, trail.calls ++ notable events⟩ := by
  induction events generalizing trail with
  | nil => simp [notable, WriterState.after]
  | cons event rest ih =>
    obtain ⟨call, answer⟩ := event
    rw [List.foldl_cons, ih]
    cases call <;> simp [Trail.note, notable, StreamCall.isNotable, WriterState.after,
      WriterState.note]

/-- The calls before a stream is opened in place of one that is gone. -/
inductive Replaces : WriterState → RowType → List StreamEvent → Prop where
  | broken (type : RowType) : Replaces (.broken type) type []
  | ended (stream : ActiveStream) :
      Replaces (.ready stream) stream.type [⟨.updatedSchema stream.handle, none⟩]
  | drifted {stream : ActiveStream} {schema : TableSchema} {type : RowType}
      (htype : rowTypeOf schema = .ok type) :
      Replaces (.ready stream) type
        [⟨.updatedSchema stream.handle, some schema⟩, ⟨.closeStream stream.handle, ()⟩]

/-- How an append comes by a stream: the state before, the calls, the state after and the stream. -/
inductive Provides : WriterState → List StreamEvent → WriterState →
    Except SinkError ActiveStream → Prop where
  | unconverted {stream : ActiveStream} {schema : TableSchema} {error : SinkError}
      (hschema : rowTypeOf schema = .error error) :
      Provides (.ready stream) [⟨.updatedSchema stream.handle, some schema⟩] (.ready stream)
        (.error error)
  | fit (stream : ActiveStream) :
      Provides (.ready stream) [⟨.updatedSchema stream.handle, none⟩] (.ready stream) (.ok stream)
  | unopened {state : WriterState} {type : RowType} {events : List StreamEvent}
      (hreplaces : Replaces state type events) (error : SinkError) :
      Provides state (events ++ [⟨.openStream type, .error error⟩]) (.broken type) (.error error)
  | opened {state : WriterState} {type : RowType} {events : List StreamEvent}
      (hreplaces : Replaces state type events) (handle : Nat) :
      Provides state (events ++ [⟨.openStream type, .ok handle⟩]) (.ready ⟨type, handle⟩)
        (.ok ⟨type, handle⟩)

/-- How an append submits the rows of a payload. -/
inductive Appends (payload : Payload) : WriterState → List StreamEvent → WriterState →
    Except SinkError Submission → Prop where
  | uninitialized :
      Appends payload .uninitialized [] .uninitialized (.error (.stream uninitializedMessage))
  | closed (type : Option RowType) :
      Appends payload (.closed type) [] (.closed type) (.ok (.answered closedResponse))
  | failed {state later : WriterState} {events : List StreamEvent} {error : SinkError}
      (hprovides : Provides state events later (.error error)) :
      Appends payload state events later (.error error)
  | submitted {state later : WriterState} {events : List StreamEvent} {stream : ActiveStream}
      (hprovides : Provides state events later (.ok stream)) (answer : Except SinkError Nat) :
      Appends payload state (events ++ [⟨.submit stream.handle payload.rows, answer⟩]) later
        (answer.map .pending)

/-- Where an append may be given up. -/
inductive Suspends (payload : Payload) : WriterState → List StreamEvent → WriterState →
    StreamCall → Prop where
  | closing {stream : ActiveStream} {schema : TableSchema} {type : RowType}
      (htype : rowTypeOf schema = .ok type) :
      Suspends payload (.ready stream) [⟨.updatedSchema stream.handle, some schema⟩]
        (.ready stream) (.closeStream stream.handle)
  | opening {state : WriterState} {type : RowType} {events : List StreamEvent}
      (hreplaces : Replaces state type events) :
      Suspends payload state events (.broken type) (.openStream type)
  | submitting {state later : WriterState} {events : List StreamEvent} {stream : ActiveStream}
      (hprovides : Provides state events later (.ok stream)) :
      Suspends payload state events later (.submit stream.handle payload.rows)

/-- A section is reasoned about by its trail. Nothing is said about it at calls that do not wait. -/
abbrev Trails {α : Type} (pending : List StreamEvent → WriterState → StreamCall → Prop)
    (ends : List StreamEvent → WriterState → α → Prop) : Trail → Steps α → Prop :=
  Program.Ensures Trail.note
    (fun trail call => call.waits → pending trail.calls trail.writer call)
    (fun trail value => ends trail.calls trail.writer value)

section Appending

variable {payload : Payload} {state : WriterState} {type : RowType} {events : List StreamEvent}

theorem openWith_trails (hreplaces : Replaces state type events) :
    Trails (Suspends payload state) (Provides state) ⟨.broken type, events⟩ (openWith type) := by
  apply Program.Ensures.ask nofun
  intro start
  apply Program.Ensures.ask fun _ => .opening hreplaces
  intro answer
  cases answer with
  | error error => exact .done (.unopened hreplaces error)
  | ok handle =>
    apply Program.Ensures.ask nofun
    intro finish
    apply Program.Ensures.ask nofun
    intro _
    apply Program.Ensures.ask nofun
    intro _
    exact .done (.opened hreplaces handle)

theorem reopen_trails {writer : WriterState} (hreplaces : Replaces state type events) :
    Trails (Suspends payload state) (Provides state) ⟨writer, events⟩ (reopen type) := by
  apply Program.Ensures.ask nofun
  intro _
  exact openWith_trails hreplaces

theorem refresh_trails (stream : ActiveStream) :
    Trails (Suspends payload (.ready stream)) (Provides (.ready stream)) ⟨.ready stream, []⟩
      (refresh stream) := by
  apply Program.Ensures.ask nofun
  intro report
  cases report with
  | none =>
    apply Program.Ensures.ask nofun
    intro ended
    cases ended with
    | true => exact reopen_trails (.ended stream)
    | false => exact .done (.fit stream)
  | some schema =>
    cases htype : rowTypeOf schema with
    | error error => simpa only [htype] using .done (.unconverted htype)
    | ok type =>
      simp only [htype, closeHandle]
      apply Program.Ensures.ask nofun
      intro start
      apply Program.Ensures.ask fun _ => .closing htype
      intro _
      apply Program.Ensures.ask nofun
      intro finish
      apply Program.Ensures.ask nofun
      intro _
      exact reopen_trails (.drifted htype)

theorem submitTo_trails {writer : WriterState} {stream : ActiveStream}
    (hprovides : Provides state events writer (.ok stream)) :
    Trails (Suspends payload state) (Appends payload state) ⟨writer, events⟩
      (submitTo payload stream) := by
  apply Program.Ensures.ask nofun
  intro _
  apply Program.Ensures.ask fun _ => .submitting hprovides
  intro answer
  cases answer with
  | error error => exact .done (.submitted hprovides (.error error))
  | ok ticket => exact .done (.submitted hprovides (.ok ticket))

/-- An append that comes by no stream fails, and any other one goes on to its submission. -/
theorem provided_trails {trail : Trail} {steps : Steps (Except SinkError ActiveStream)}
    (hsteps : Trails (Suspends payload state) (Provides state) trail steps)
    {next : Except SinkError ActiveStream → Steps (Except SinkError Submission)}
    (hfailed : ∀ error, next (.error error) = .done (.error error))
    (hopened : ∀ stream, next (.ok stream) = submitTo payload stream) :
    Trails (Suspends payload state) (Appends payload state) trail (steps.bind next) := by
  apply hsteps.bind
  intro later opened hprovides
  cases opened with
  | error error =>
    rw [hfailed]
    exact .done (.failed hprovides)
  | ok stream =>
    rw [hopened]
    exact submitTo_trails hprovides

theorem submit_trails (payload : Payload) (state : WriterState) :
    Trails (Suspends payload state) (Appends payload state) ⟨state, []⟩ (submit payload state) := by
  cases state with
  | uninitialized => exact .done .uninitialized
  | closed type => exact .done (.closed type)
  | ready stream => exact provided_trails (refresh_trails stream) (fun _ => rfl) (fun _ => rfl)
  | broken type =>
    exact provided_trails (reopen_trails (.broken type)) (fun _ => rfl) (fun _ => rfl)

end Appending

/-- How a writer is started. -/
inductive Begins : WriterState → List StreamEvent → WriterState → Except SinkError Unit → Prop where
  | ready (stream : ActiveStream) : Begins (.ready stream) [] (.ready stream) (.ok ())
  | broken (type : RowType) : Begins (.broken type) [] (.broken type) (.ok ())
  | closed (type : Option RowType) :
      Begins (.closed type) [] (.closed type) (.error (.stream closedMessage))
  | unfetched (error : SinkError) :
      Begins .uninitialized [⟨.fetchSchema, .error error⟩] .uninitialized (.error error)
  | unconverted {schema : TableSchema} {error : SinkError}
      (hschema : rowTypeOf schema = .error error) :
      Begins .uninitialized [⟨.fetchSchema, .ok schema⟩] .uninitialized (.error error)
  | unopened {schema : TableSchema} {type : RowType} (htype : rowTypeOf schema = .ok type)
      (error : SinkError) :
      Begins .uninitialized [⟨.fetchSchema, .ok schema⟩, ⟨.openStream type, .error error⟩]
        .uninitialized (.error error)
  | opened {schema : TableSchema} {type : RowType} (htype : rowTypeOf schema = .ok type)
      (handle : Nat) :
      Begins .uninitialized [⟨.fetchSchema, .ok schema⟩, ⟨.openStream type, .ok handle⟩]
        (.ready ⟨type, handle⟩) (.ok ())

theorem start_trails (state : WriterState) :
    Trails (fun _ later _ => later = .uninitialized) (Begins state) ⟨state, []⟩ (start state) := by
  cases state with
  | ready stream => exact .done (.ready stream)
  | broken type => exact .done (.broken type)
  | closed type => exact .done (.closed type)
  | uninitialized =>
    apply Program.Ensures.ask fun _ => rfl
    intro answer
    cases answer with
    | error error => exact .done (.unfetched error)
    | ok schema =>
      cases htype : rowTypeOf schema with
      | error error => simpa only [htype] using .done (.unconverted htype)
      | ok type =>
        simp only [htype, openWith]
        apply Program.Ensures.ask nofun
        intro start
        apply Program.Ensures.ask fun _ => rfl
        intro answer
        cases answer with
        | error error => exact .done (.unopened htype error)
        | ok handle =>
          apply Program.Ensures.ask nofun
          intro finish
          apply Program.Ensures.ask nofun
          intro _
          apply Program.Ensures.ask nofun
          intro _
          exact .done (.opened htype handle)

/-- How a writer is closed. -/
inductive Closes : WriterState → List StreamEvent → WriterState → Prop where
  | ready (stream : ActiveStream) :
      Closes (.ready stream) [⟨.closeStream stream.handle, ()⟩] (.closed (some stream.type))
  | idle {state : WriterState} (hidle : ∀ stream, state ≠ .ready stream) :
      Closes state [] (.closed (rowType state).toOption)

theorem close_trails (state : WriterState) :
    Trails (fun events later call => events = [] ∧ later = state ∧
        ∃ handle, call = .closeStream handle)
      (fun events later _ => Closes state events later) ⟨state, []⟩ (close state) := by
  cases state with
  | ready stream =>
    apply Program.Ensures.ask nofun
    intro start
    apply Program.Ensures.ask fun _ => ⟨rfl, rfl, stream.handle, rfl⟩
    intro _
    apply Program.Ensures.ask nofun
    intro finish
    apply Program.Ensures.ask nofun
    intro _
    apply Program.Ensures.ask nofun
    intro _
    exact .done (.ready stream)
  | broken type => exact .ask nofun fun _ => .done (.idle nofun)
  | closed type =>
    cases type with
    | none => exact .ask nofun fun _ => .done (.idle nofun)
    | some type => exact .ask nofun fun _ => .done (.idle nofun)
  | uninitialized => exact .ask nofun fun _ => .done (.idle nofun)

namespace StreamCall

def opening? : StreamCall → Option RowType
  | openStream type => some type
  | _ => none

def closing? : StreamCall → Option Nat
  | closeStream handle => some handle
  | _ => none

def submission? : StreamCall → Option (List Bytes)
  | submit _ rows => some rows
  | _ => none

end StreamCall

/-- The schema that was reported on a stream, if there was one. -/
def reported? : StreamEvent → Option TableSchema
  | ⟨.updatedSchema _, report⟩ => report
  | _ => none

def fetched? : StreamEvent → Option TableSchema
  | ⟨.fetchSchema, .ok schema⟩ => some schema
  | _ => none

/-- The reported schemas that rows can be converted to. -/
def convertible (events : List StreamEvent) : List TableSchema :=
  (events.filterMap reported?).filter fun schema => (rowTypeOf schema).isOk

namespace Happening

/-- The calls that a section made, the one at which it was given up included. -/
def made : Happening → List StreamCall
  | asked _ _ => []
  | performed _ events _ => events.map (·.1)
  | interrupted _ events pending => events.map (·.1) ++ [pending]

def openings (happening : Happening) : List RowType :=
  happening.made.filterMap StreamCall.opening?

def closings (happening : Happening) : List Nat :=
  happening.made.filterMap StreamCall.closing?

def submitted (happening : Happening) : List (List Bytes) :=
  happening.made.filterMap StreamCall.submission?

/-- The schemas that a section accepted: the one that was fetched for a start that succeeded, and
one that was reported before an append and that converts. An append that is given up while it closes
the stream has accepted nothing yet. -/
def accepted : Happening → List TableSchema
  | performed .start events (.ok _) => events.filterMap fetched?
  | performed (.submit _) events _ => convertible events
  | interrupted (.submit _) _ (.closeStream _) => []
  | interrupted (.submit _) events _ => convertible events
  | _ => []

end Happening

namespace History

/-- The types for which a stream was asked for, in order. -/
def openings (history : History) : List RowType :=
  history.flatMap fun entry => entry.2.openings

def accepted (history : History) : List TableSchema :=
  history.flatMap fun entry => entry.2.accepted

/-- The state that a writer is in after what happened. -/
def writer (history : History) : WriterState :=
  WriterState.uninitialized.after history.events

end History

section Notable

variable {β : Type}

theorem filterMap_notable {pick : StreamEvent → Option β}
    (hquiet : ∀ event, event.1.isNotable = false → pick event = none) (events : List StreamEvent) :
    (notable events).filterMap pick = events.filterMap pick := by
  rw [notable, List.filterMap_filter]
  apply List.filterMap_congr
  intro event _
  cases hnotable : event.1.isNotable with
  | true => rfl
  | false => rw [hquiet event hnotable, ite_self]

theorem filterMap_map_notable {pick : StreamCall → Option β}
    (hquiet : ∀ call, call.isNotable = false → pick call = none) (events : List StreamEvent) :
    ((notable events).map (·.1)).filterMap pick = (events.map (·.1)).filterMap pick := by
  rw [List.filterMap_map, List.filterMap_map]
  exact filterMap_notable (fun event => hquiet event.1) events

variable {pick : StreamCall → Option β} {part : WriterSection} {events : List StreamEvent}

theorem filterMap_made_performed (hquiet : ∀ call, call.isNotable = false → pick call = none)
    (answer : part.Answer) : (Happening.performed part events answer).made.filterMap pick =
      ((notable events).map (·.1)).filterMap pick :=
  (filterMap_map_notable hquiet events).symm

theorem filterMap_made_interrupted (hquiet : ∀ call, call.isNotable = false → pick call = none)
    (pending : StreamCall) : (Happening.interrupted part events pending).made.filterMap pick =
      ((notable events).map (·.1)).filterMap pick ++ [pending].filterMap pick := by
  rw [Happening.made, List.filterMap_append, filterMap_map_notable hquiet]

theorem opening?_of_quiet {call : StreamCall} (hquiet : call.isNotable = false) :
    call.opening? = none := by
  cases call <;> trivial

theorem closing?_of_quiet {call : StreamCall} (hquiet : call.isNotable = false) :
    call.closing? = none := by
  cases call <;> trivial

theorem submission?_of_quiet {call : StreamCall} (hquiet : call.isNotable = false) :
    call.submission? = none := by
  cases call <;> trivial

theorem reported?_of_quiet {event : StreamEvent} (hquiet : event.1.isNotable = false) :
    reported? event = none := by
  obtain ⟨call, answer⟩ := event
  cases call <;> trivial

theorem fetched?_of_quiet {event : StreamEvent} (hquiet : event.1.isNotable = false) :
    fetched? event = none := by
  obtain ⟨call, answer⟩ := event
  cases call <;> trivial

theorem convertible_notable (events : List StreamEvent) :
    convertible (notable events) = convertible events := by
  rw [convertible, filterMap_notable (fun _ => reported?_of_quiet), ← convertible]

end Notable

section Outcomes

variable {payload : Payload} {state later : WriterState} {type : RowType}
  {events : List StreamEvent} {happening : Happening}

theorem Happening.Fits.appends {answer : Except SinkError Submission}
    (hfits : Happening.Fits state (.performed (.submit payload) events answer)) :
    Appends payload state (notable events) (state.after events) answer := by
  cases hfits with
  | performed hruns =>
    have hends := (submit_trails payload state).ends_of_runs hruns
    rwa [foldl_note] at hends

theorem Happening.Fits.suspends {pending : StreamCall}
    (hfits : Happening.Fits state (.interrupted (.submit payload) events pending)) :
    Suspends payload state (notable events) (state.after events) pending := by
  cases hfits with
  | interrupted hreaches hwaits =>
    have hpending := (submit_trails payload state).allowed_of_reaches hreaches hwaits
    rwa [foldl_note] at hpending

theorem Happening.Fits.begins {answer : Except SinkError Unit}
    (hfits : Happening.Fits state (.performed .start events answer)) :
    Begins state (notable events) (state.after events) answer := by
  cases hfits with
  | performed hruns =>
    have hends := (start_trails state).ends_of_runs hruns
    rwa [foldl_note] at hends

theorem Happening.Fits.unstarted {pending : StreamCall}
    (hfits : Happening.Fits state (.interrupted .start events pending)) :
    state.after events = .uninitialized := by
  cases hfits with
  | interrupted hreaches hwaits =>
    have hpending := (start_trails state).allowed_of_reaches hreaches hwaits
    rwa [foldl_note] at hpending

theorem Happening.Fits.unclosed {pending : StreamCall}
    (hfits : Happening.Fits state (.interrupted .close events pending)) :
    notable events = [] ∧ state.after events = state ∧ ∃ handle, pending = .closeStream handle := by
  cases hfits with
  | interrupted hreaches hwaits =>
    have hpending := (close_trails state).allowed_of_reaches hreaches hwaits
    rwa [foldl_note] at hpending

theorem Happening.Fits.closes {answer : Unit}
    (hfits : Happening.Fits state (.performed .close events answer)) :
    Closes state (notable events) (state.after events) := by
  cases hfits with
  | performed hruns =>
    have hends := (close_trails state).ends_of_runs hruns
    rwa [foldl_note] at hends

end Outcomes

/-- The row type of a writer is that of the last stream that was asked for, and what the schema that
was accepted last converts to. -/
def Current (writer : WriterState) (openings : List RowType) (accepted : List TableSchema) : Prop :=
  ∀ type, rowType writer = .ok type → openings.getLast? = some type ∧
    ∃ schema, accepted.getLast? = some schema ∧ rowTypeOf schema = .ok type

theorem Current.append_nil {writer : WriterState} {openings : List RowType}
    {accepted : List TableSchema} (hcurrent : Current writer openings accepted) :
    Current writer (openings ++ []) (accepted ++ []) := by
  rwa [List.append_nil, List.append_nil]

section Currency

variable {payload : Payload} {state later : WriterState} {type : RowType}
  {events : List StreamEvent} {openings : List RowType} {accepted : List TableSchema}

theorem isOk_of_rowTypeOf {schema : TableSchema} (htype : rowTypeOf schema = .ok type) :
    (rowTypeOf schema).isOk = true := by
  rw [htype]
  rfl

theorem Replaces.opening?_eq (hreplaces : Replaces state type events) :
    (events.map (·.1)).filterMap StreamCall.opening? = [] := by
  cases hreplaces <;> rfl

theorem Replaces.exists_accepted (hreplaces : Replaces state type events)
    (hcurrent : Current state openings accepted) :
    ∃ schema, (accepted ++ convertible events).getLast? = some schema ∧
      rowTypeOf schema = .ok type := by
  cases hreplaces with
  | broken type =>
    rw [show convertible [] = [] from rfl, List.append_nil]
    exact (hcurrent type rfl).2
  | ended stream =>
    rw [show convertible [⟨.updatedSchema stream.handle, none⟩] = [] from rfl, List.append_nil]
    exact (hcurrent stream.type rfl).2
  | drifted htype =>
    rename_i stream schema
    have hconvertible : convertible [⟨.updatedSchema stream.handle, some schema⟩,
        ⟨.closeStream stream.handle, ()⟩] = [schema] :=
      List.filter_cons_of_pos (isOk_of_rowTypeOf htype)
    exact ⟨schema, by rw [hconvertible, List.getLast?_concat], htype⟩

/-- Once a stream is asked for, its type is that of the writer. -/
theorem Replaces.current (hreplaces : Replaces state type events)
    (hcurrent : Current state openings accepted) (hlater : rowType later = .ok type) :
    Current later (openings ++ [type]) (accepted ++ convertible events) := by
  intro found hfound
  obtain rfl := Except.ok.inj (hlater.symm.trans hfound)
  exact ⟨List.getLast?_concat, hreplaces.exists_accepted hcurrent⟩

/-- The openings that were asked for with some calls. -/
abbrev openingsIn (events : List StreamEvent) : List RowType :=
  (events.map (·.1)).filterMap StreamCall.opening?

theorem filterMap_singleton (call : StreamCall) :
    [call].filterMap StreamCall.opening? = call.opening?.toList := by
  cases call <;> rfl

theorem openingsIn_concat (events : List StreamEvent) (event : StreamEvent) :
    openingsIn (events ++ [event]) = openingsIn events ++ event.1.opening?.toList := by
  rw [openingsIn, List.map_append, List.filterMap_append, List.map_singleton, ← openingsIn,
    filterMap_singleton]

theorem reported_concat_of_none (events : List StreamEvent) {event : StreamEvent}
    (hnone : reported? event = none) :
    (events ++ [event]).filterMap reported? = events.filterMap reported? := by
  rw [List.filterMap_append, List.filterMap_cons_none hnone]
  exact List.append_nil _

theorem convertible_concat_of_none (events : List StreamEvent) {event : StreamEvent}
    (hnone : reported? event = none) : convertible (events ++ [event]) = convertible events := by
  rw [convertible, reported_concat_of_none events hnone, ← convertible]

theorem Provides.current {opened : Except SinkError ActiveStream}
    (hprovides : Provides state events later opened)
    (hcurrent : Current state openings accepted) :
    Current later (openings ++ openingsIn events) (accepted ++ convertible events) := by
  cases hprovides with
  | unconverted hschema =>
    rename_i stream schema error
    have hnothing : convertible [⟨.updatedSchema stream.handle, some schema⟩] = [] := by
      refine List.filter_cons_of_neg ?_
      rw [hschema]
      exact Bool.false_ne_true
    rw [hnothing]
    exact hcurrent.append_nil
  | fit stream => exact hcurrent.append_nil
  | unopened hreplaces error =>
    rw [openingsIn_concat, convertible_concat_of_none _ rfl, openingsIn, hreplaces.opening?_eq]
    exact hreplaces.current hcurrent rfl
  | opened hreplaces handle =>
    rw [openingsIn_concat, convertible_concat_of_none _ rfl, openingsIn, hreplaces.opening?_eq]
    exact hreplaces.current hcurrent rfl

theorem Appends.current {answer : Except SinkError Submission}
    (happends : Appends payload state events later answer)
    (hcurrent : Current state openings accepted) :
    Current later (openings ++ openingsIn events) (accepted ++ convertible events) := by
  cases happends with
  | uninitialized => exact nofun
  | closed type => exact hcurrent.append_nil
  | failed hprovides => exact hprovides.current hcurrent
  | submitted hprovides answer =>
    rw [openingsIn_concat, convertible_concat_of_none _ rfl]
    exact (List.append_nil (openingsIn _)).symm ▸ hprovides.current hcurrent

theorem Suspends.current {pending : StreamCall}
    (hsuspends : Suspends payload state (notable events) later pending)
    (hcurrent : Current state openings accepted) :
    Current later (openings ++ (Happening.interrupted (.submit payload) events pending).openings)
      (accepted ++ (Happening.interrupted (.submit payload) events pending).accepted) := by
  rw [Happening.openings, filterMap_made_interrupted fun _ => opening?_of_quiet]
  generalize hcalls : notable events = calls at hsuspends
  cases hsuspends with
  | closing htype => exact hcurrent.append_nil
  | opening hreplaces =>
    rw [Happening.accepted, ← convertible_notable, hcalls, hreplaces.opening?_eq]
    · exact hreplaces.current hcurrent rfl
    · exact nofun
  | submitting hprovides =>
    rw [Happening.accepted, ← convertible_notable, hcalls]
    · exact (List.append_nil (openingsIn _)).symm ▸ hprovides.current hcurrent
    · exact nofun

theorem Begins.current {answer : Except SinkError Unit}
    (hbegins : Begins state (notable events) later answer)
    (hcurrent : Current state openings accepted) :
    Current later (openings ++ openingsIn (notable events))
      (accepted ++ (Happening.performed .start events answer).accepted) := by
  have hfetched (answer : Unit) : (Happening.performed .start events (.ok answer)).accepted =
      (notable events).filterMap fetched? := (filterMap_notable (fun _ => fetched?_of_quiet) _).symm
  generalize hcalls : notable events = calls at hbegins hfetched
  cases hbegins with
  | ready | broken =>
    rw [hfetched]
    exact hcurrent.append_nil
  | closed type => exact hcurrent.append_nil
  | unfetched | unconverted | unopened => exact nofun
  | opened htype handle =>
    rw [hfetched]
    intro found hfound
    obtain rfl := Except.ok.inj hfound
    exact ⟨List.getLast?_concat, _, List.getLast?_concat, htype⟩

theorem Closes.current (hcloses : Closes state events later)
    (hcurrent : Current state openings accepted) :
    Current later (openings ++ openingsIn events) (accepted ++ []) := by
  intro type htype
  cases hcloses with
  | ready stream => exact hcurrent.append_nil type htype
  | idle hidle =>
    refine hcurrent.append_nil type ?_
    cases hbefore : rowType state with
    | error error =>
      rw [hbefore] at htype
      contradiction
    | ok found =>
      rw [hbefore] at htype
      exact htype

end Currency

section Histories

variable {writer : WriterState} {happening : Happening} {openings : List RowType}
  {accepted : List TableSchema}

theorem Happening.Fits.current (hfits : happening.Fits writer)
    (hcurrent : Current writer openings accepted) :
    Current (writer.after happening.events) (openings ++ happening.openings)
      (accepted ++ happening.accepted) := by
  cases happening with
  | asked call answer => exact hcurrent.append_nil
  | performed part events answer =>
    rw [Happening.openings, filterMap_made_performed fun _ => opening?_of_quiet]
    cases part with
    | start => exact hfits.begins.current hcurrent
    | submit payload =>
      have happends := hfits.appends.current hcurrent
      rwa [convertible_notable] at happends
    | close => exact hfits.closes.current hcurrent
    | rowType =>
      cases hfits with
      | performed hruns =>
        cases hruns
        exact hcurrent.append_nil
  | interrupted part events pending =>
    cases part with
    | submit payload => exact hfits.suspends.current hcurrent
    | rowType =>
      cases hfits with
      | interrupted hreaches => cases hreaches
    | start =>
      intro type htype
      rw [Happening.events, hfits.unstarted] at htype
      contradiction
    | close =>
      obtain ⟨hcalls, hlater, handle, rfl⟩ := hfits.unclosed
      rw [Happening.events, hlater, Happening.openings,
        filterMap_made_interrupted fun _ => opening?_of_quiet, hcalls]
      exact hcurrent.append_nil

/-- At every time the row type of a writer is that of the last stream that was asked for, and what
the last accepted schema converts to. -/
theorem History.Valid.current {history : History} (hvalid : history.Valid writer)
    (hcurrent : Current writer openings accepted) :
    Current (writer.after history.events) (openings ++ history.openings)
      (accepted ++ history.accepted) := by
  induction history generalizing writer openings accepted with
  | nil => exact hcurrent.append_nil
  | cons entry rest ih =>
    obtain ⟨hfits, hrest⟩ := hvalid
    have hlater := ih hrest (hfits.current hcurrent)
    rwa [List.append_assoc, List.append_assoc, ← WriterState.after_append] at hlater

end Histories

section Failures

variable {payload : Payload} {state later : WriterState} {type : RowType}
  {events : List StreamEvent} {happening : Happening} {schema : TableSchema} {error : SinkError}
  {handle : Nat}

theorem mem_reported {event : StreamEvent} (hevent : event ∈ events)
    (hreported : reported? event = some schema) :
    schema ∈ (notable events).filterMap reported? := by
  rw [filterMap_notable fun _ => reported?_of_quiet]
  exact List.mem_filterMap.mpr ⟨event, hevent, hreported⟩

theorem Replaces.converts (hreplaces : Replaces state type events)
    (hreported : schema ∈ events.filterMap reported?) : ∃ type, rowTypeOf schema = .ok type := by
  cases hreplaces with
  | broken | ended => cases hreported
  | drifted htype =>
    obtain rfl := List.mem_singleton.mp hreported
    exact ⟨_, htype⟩

/-- A report that does not convert leaves an append without a stream and the writer as it was. -/
theorem Provides.of_unconverted {opened : Except SinkError ActiveStream}
    (hprovides : Provides state events later opened)
    (hreported : schema ∈ events.filterMap reported?) (herror : rowTypeOf schema = .error error) :
    opened = .error error ∧ ∃ stream, state = .ready stream ∧ later = .ready stream ∧
      events = [⟨.updatedSchema stream.handle, some schema⟩] := by
  cases hprovides with
  | unconverted hschema =>
    obtain rfl := List.mem_singleton.mp hreported
    obtain rfl := Except.error.inj (herror.symm.trans hschema)
    exact ⟨rfl, _, rfl, rfl, rfl⟩
  | fit => cases hreported
  | unopened hreplaces | opened hreplaces =>
    rw [reported_concat_of_none _ rfl] at hreported
    obtain ⟨type, htype⟩ := hreplaces.converts hreported
    rw [htype] at herror
    contradiction

theorem Appends.of_unconverted {answer : Except SinkError Submission}
    (happends : Appends payload state events later answer)
    (hreported : schema ∈ events.filterMap reported?) (herror : rowTypeOf schema = .error error) :
    answer = .error error ∧ ∃ stream, state = .ready stream ∧ later = .ready stream ∧
      events = [⟨.updatedSchema stream.handle, some schema⟩] := by
  cases happends with
  | uninitialized | closed => cases hreported
  | failed hprovides =>
    obtain ⟨hopened, hkept⟩ := hprovides.of_unconverted hreported herror
    exact ⟨congrArg Except.error (Except.error.inj hopened), hkept⟩
  | submitted hprovides =>
    rw [reported_concat_of_none _ rfl] at hreported
    exact nomatch (hprovides.of_unconverted hreported herror).1

theorem Suspends.converts {pending : StreamCall}
    (hsuspends : Suspends payload state events later pending)
    (hreported : schema ∈ events.filterMap reported?) : ∃ type, rowTypeOf schema = .ok type := by
  cases hsuspends with
  | closing htype =>
    obtain rfl := List.mem_singleton.mp hreported
    exact ⟨_, htype⟩
  | opening hreplaces => exact hreplaces.converts hreported
  | submitting hprovides =>
    cases hschema : rowTypeOf schema with
    | ok type => exact ⟨type, rfl⟩
    | error error => exact nomatch (hprovides.of_unconverted hreported hschema).1

theorem Happening.answered?_of_eq {answer found : Except SinkError Submission}
    (hanswer : answer = found) :
    (Happening.performed (.submit payload) events answer).answered? =
      some ⟨.perform (.submit payload), found⟩ := by
  rw [hanswer]
  rfl

/-- An append to which a schema is reported that does not convert fails, asks for nothing more and
leaves the writer with the stream that it had. -/
theorem Happening.Fits.of_unconverted (hfits : happening.Fits state)
    (hcall : happening.call = .perform (.submit payload))
    (hevent : (⟨.updatedSchema handle, some schema⟩ : StreamEvent) ∈ happening.events)
    (herror : rowTypeOf schema = .error error) :
    happening.answered? = some ⟨.perform (.submit payload), Except.error error⟩ ∧
    (∃ stream, state = .ready stream ∧ state.after happening.events = .ready stream) ∧
    happening.openings = [] ∧ happening.closings = [] ∧ happening.submitted = [] := by
  have hreported := mem_reported hevent rfl
  cases happening with
  | asked call answer => cases hevent
  | performed part events answer =>
    cases hcall
    obtain ⟨hanswer, stream, hstate, hlater, hcalls⟩ :=
      hfits.appends.of_unconverted hreported herror
    refine ⟨answered?_of_eq hanswer, ⟨stream, hstate, hlater⟩, ?_, ?_, ?_⟩
    · rw [openings, filterMap_made_performed fun _ => opening?_of_quiet, hcalls]
      rfl
    · rw [closings, filterMap_made_performed fun _ => closing?_of_quiet, hcalls]
      rfl
    · rw [submitted, filterMap_made_performed fun _ => submission?_of_quiet, hcalls]
      rfl
  | interrupted part events pending =>
    cases hcall
    obtain ⟨type, htype⟩ := hfits.suspends.converts hreported
    rw [htype] at herror
    contradiction

theorem Replaces.not_mem_openStream (hreplaces : Replaces state type events) {asked : RowType}
    {answer : Except SinkError Nat} :
    (⟨.openStream asked, answer⟩ : StreamEvent) ∉ events := by
  intro hevent
  have hopening : asked ∈ (events.map (·.1)).filterMap StreamCall.opening? :=
    List.mem_filterMap.mpr ⟨_, List.mem_map_of_mem hevent, rfl⟩
  rw [hreplaces.opening?_eq] at hopening
  contradiction

theorem Provides.of_unopened {opened : Except SinkError ActiveStream}
    (hprovides : Provides state events later opened)
    (hevent : (⟨.openStream type, .error error⟩ : StreamEvent) ∈ events) :
    opened = .error error ∧ later = .broken type ∧
      (events.map (·.1)).filterMap StreamCall.submission? = [] := by
  cases hprovides with
  | unconverted | fit => cases List.mem_singleton.mp hevent
  | unopened hreplaces last =>
    obtain hearlier | hlast := List.mem_append.mp hevent
    · exact absurd hearlier hreplaces.not_mem_openStream
    · cases List.mem_singleton.mp hlast
      refine ⟨rfl, rfl, ?_⟩
      cases hreplaces <;> rfl
  | opened hreplaces handle =>
    obtain hearlier | hlast := List.mem_append.mp hevent
    · exact absurd hearlier hreplaces.not_mem_openStream
    · cases List.mem_singleton.mp hlast

theorem Appends.of_unopened {answer : Except SinkError Submission}
    (happends : Appends payload state events later answer)
    (hevent : (⟨.openStream type, .error error⟩ : StreamEvent) ∈ events) :
    answer = .error error ∧ later = .broken type ∧
      (events.map (·.1)).filterMap StreamCall.submission? = [] := by
  cases happends with
  | uninitialized | closed => cases hevent
  | failed hprovides =>
    obtain ⟨hopened, hkept⟩ := hprovides.of_unopened hevent
    exact ⟨congrArg Except.error (Except.error.inj hopened), hkept⟩
  | submitted hprovides =>
    obtain hearlier | hlast := List.mem_append.mp hevent
    · exact nomatch (hprovides.of_unopened hearlier).1
    · cases List.mem_singleton.mp hlast

theorem Suspends.not_mem_unopened {pending : StreamCall}
    (hsuspends : Suspends payload state events later pending) :
    (⟨.openStream type, .error error⟩ : StreamEvent) ∉ events := by
  intro hevent
  cases hsuspends with
  | closing => cases List.mem_singleton.mp hevent
  | opening hreplaces => exact hreplaces.not_mem_openStream hevent
  | submitting hprovides => exact nomatch (hprovides.of_unopened hevent).1

/-- An append for which no stream can be opened fails, submits nothing and leaves the writer without
a stream, but with the type of the one that was asked for. -/
theorem Happening.Fits.of_unopened (hfits : happening.Fits state)
    (hcall : happening.call = .perform (.submit payload))
    (hevent : (⟨.openStream type, .error error⟩ : StreamEvent) ∈ happening.events) :
    happening.answered? = some ⟨.perform (.submit payload), Except.error error⟩ ∧
    state.after happening.events = .broken type ∧ happening.submitted = [] := by
  have hnotable : (⟨.openStream type, .error error⟩ : StreamEvent) ∈ notable happening.events :=
    List.mem_filter.mpr ⟨hevent, rfl⟩
  cases happening with
  | asked call answer => cases hevent
  | performed part events answer =>
    cases hcall
    obtain ⟨hanswer, hlater, hsubmissions⟩ := hfits.appends.of_unopened hnotable
    refine ⟨answered?_of_eq hanswer, hlater, ?_⟩
    rw [submitted, filterMap_made_performed fun _ => submission?_of_quiet, hsubmissions]
  | interrupted part events pending =>
    cases hcall
    exact absurd hnotable hfits.suspends.not_mem_unopened

theorem Provides.of_broken {opened : Except SinkError ActiveStream}
    (hprovides : Provides (.broken type) events later opened) :
    ∃ answer, events = [⟨.openStream type, answer⟩] := by
  cases hprovides with
  | unopened hreplaces | opened hreplaces =>
    cases hreplaces
    exact ⟨_, rfl⟩

/-- While a writer is without a stream, an append asks for one stream of the same type and closes
none. -/
theorem Happening.Fits.of_broken (hfits : happening.Fits (.broken type))
    (hcall : happening.call = .perform (.submit payload)) :
    happening.openings = [type] ∧ happening.closings = [] := by
  cases happening with
  | asked call answer =>
    cases hfits with
    | asked hown => exact absurd hcall (hown _)
  | performed part events answer =>
    cases hcall
    have happends := hfits.appends
    rw [openings, filterMap_made_performed fun _ => opening?_of_quiet, closings,
      filterMap_made_performed fun _ => closing?_of_quiet]
    generalize notable events = calls, (WriterState.broken type).after events = later at happends
    cases happends with
    | failed hprovides | submitted hprovides =>
      obtain ⟨answer, rfl⟩ := hprovides.of_broken
      exact ⟨rfl, rfl⟩
  | interrupted part events pending =>
    cases hcall
    have hsuspends := hfits.suspends
    rw [openings, filterMap_made_interrupted fun _ => opening?_of_quiet, closings,
      filterMap_made_interrupted fun _ => closing?_of_quiet]
    generalize notable events = calls, (WriterState.broken type).after events = later at hsuspends
    cases hsuspends with
    | opening hreplaces =>
      cases hreplaces
      exact ⟨rfl, rfl⟩
    | submitting hprovides =>
      obtain ⟨answer, rfl⟩ := hprovides.of_broken
      exact ⟨rfl, rfl⟩

/-- Only appends and a closing change a writer without a stream. -/
theorem Happening.Fits.after_broken (hfits : happening.Fits (.broken type))
    (hclose : happening.call ≠ .perform .close)
    (hsubmit : ∀ payload, happening.call ≠ .perform (.submit payload)) :
    (WriterState.broken type).after happening.events = .broken type := by
  cases hfits with
  | asked hown answer => rfl
  | performed hruns =>
    rename_i part events answer
    cases part with
    | start | rowType =>
      cases hruns
      rfl
    | submit payload => exact absurd rfl (hsubmit payload)
    | close => exact absurd rfl hclose
  | interrupted hreaches hwaits =>
    rename_i part events pending continuation
    cases part with
    | start | rowType => cases hreaches
    | submit payload => exact absurd rfl (hsubmit payload)
    | close => exact absurd rfl hclose

end Failures

/-- A writer without a stream stays so until the next append or closing. -/
theorem History.Valid.after_broken {type : RowType} {history : History}
    (hvalid : history.Valid (.broken type))
    (hquiet : ∀ entry ∈ history, entry.2.call ≠ .perform .close ∧
      ∀ payload, entry.2.call ≠ .perform (.submit payload)) :
    (WriterState.broken type).after history.events = .broken type := by
  induction history with
  | nil => rfl
  | cons entry rest ih =>
    obtain ⟨hfits, hrest⟩ := hvalid
    obtain ⟨hclose, hsubmit⟩ := hquiet entry List.mem_cons_self
    have hsame := hfits.after_broken hclose hsubmit
    rw [hsame] at hrest
    rw [History.events, List.flatMap_cons, WriterState.after_append, hsame]
    exact ih hrest fun other hother => hquiet other (List.mem_cons_of_mem _ hother)

namespace World

variable {client : Client} {world : World} {before after : History} {index : Nat}
  {happening : Happening} {payload : Payload}

/-- Waiting for a response asks for no section. -/
theorem awaitResponse_own (ticket : Nat) :
    Program.Ensures (fun (_ : Unit) (_ : ClientEvent) => ())
      (fun _ call => ∀ part, call ≠ .perform part) (fun _ _ => True) () (awaitResponse ticket) := by
  apply Program.Ensures.ask nofun
  intro start
  apply Program.Ensures.ask nofun
  intro outcome
  apply Program.Ensures.ask nofun
  intro finish
  apply Program.Ensures.ask nofun
  intro _
  exact .done trivial

/-- An append performs its one section first. -/
theorem append_reaches {asked : Payload} {calls : List ClientEvent} {call : ClientCall}
    {next : call.Answer → Task AppendOutcome}
    (hreaches : (Writer.append asked).Reaches calls (.ask call next))
    (hcall : call = .perform (.submit payload)) : asked = payload ∧ calls = [] := by
  subst hcall
  cases hreaches with
  | here => exact ⟨rfl, rfl⟩
  | ask hrest =>
    rename_i answer
    match answer with
    | .error error => cases hrest
    | .ok (.answered response) => cases hrest
    | .ok (.pending ticket) =>
      exact absurd rfl ((awaitResponse_own ticket).allowed_of_reaches hrest (.submit payload))

/-- What happened to a thread before anything else did is the first of its calls. -/
theorem exists_eq_cons_of_shows {history : History} {event : ClientEvent}
    {calls : List ClientEvent} (hhistory : history = before ++ (index, happening) :: after)
    (hbefore : before.Shows index []) (hanswered : happening.answered? = some event)
    (hshows : history.Shows index calls) : ∃ more, calls = event :: more := by
  have hnone : before.of index = [] := List.map_eq_nil_iff.mp hbefore
  have hof : history.of index = happening :: History.of after index := by
    rw [hhistory, History.of_append, hnone, List.nil_append]
    exact List.filterMap_cons_some (if_pos rfl)
  rw [History.Shows, hof, List.map_cons, hanswered] at hshows
  obtain ⟨first, more, rfl, hfirst, _⟩ := List.map_eq_cons_iff.mp hshows.symm
  exact ⟨more, by rw [Option.some.inj hfirst]⟩

/-- An append fails when its section does. -/
theorem Traced.append_fails (htraced : world.Traced client)
    (hhistory : world.history = before ++ (index, happening) :: after) {error : SinkError}
    (hanswered : happening.answered? = some ⟨.perform (.submit payload), Except.error error⟩)
    {asked : Payload} {rest : Task (Request.append asked).Result}
    (hthread : world.threads[index]? = some ⟨.append asked, some rest⟩) :
    rest = .done (Except.error error) := by
  obtain ⟨request, kept, earlier, next, hfound, hbefore, hreaches⟩ :=
    htraced.called before index happening after hhistory
  rw [hthread, Option.some.injEq] at hfound
  cases hfound
  obtain ⟨calls, hshows, hleads⟩ := htraced.reaches index _ rest hthread
  have hcall : happening.call = .perform (.submit payload) := by
    cases happening with
    | asked | performed =>
      cases hanswered
      rfl
    | interrupted => contradiction
  obtain ⟨rfl, rfl⟩ := append_reaches hreaches hcall
  obtain ⟨more, rfl⟩ := exists_eq_cons_of_shows hhistory hbefore hanswered hshows
  cases hleads with
  | ask hrest =>
    cases hrest
    rfl

theorem writer_concat (history : History) (entry : Nat × Happening) :
    History.writer (history ++ [entry]) = history.writer.after entry.2.events := by
  rw [History.writer, History.events_append, WriterState.after_append, ← History.writer]
  simp [History.events]

/-- What is not lost when a stream cannot be replaced. Once a writer was started, its row type is
always that of the last stream that was asked for, and what the schema that was accepted last
converts to. An append to which a schema is reported that does not convert fails, and the writer
keeps its stream. An append for which no stream could be opened fails and submits nothing, and the
next append asks for a stream of that same type, once and without closing anything. -/
theorem failed_recreation_retried (hreachable : world.Reachable client) :
    (∀ before after : History, world.history = before ++ after → before.Started →
      ∃ type schema, rowType before.writer = .ok type ∧ before.openings.getLast? = some type ∧
        before.accepted.getLast? = some schema ∧ rowTypeOf schema = .ok type ∧
        ∀ reader events answer later,
          after = (reader, .performed .rowType events answer) :: later → answer = .ok type) ∧
    (∀ (before after : History) (index : Nat) (happening : Happening) (payload : Payload)
      (handle : Nat) (schema : TableSchema) (error : SinkError),
      world.history = before ++ (index, happening) :: after →
      happening.call = .perform (.submit payload) →
      (⟨.updatedSchema handle, some schema⟩ : StreamEvent) ∈ happening.events →
      rowTypeOf schema = .error error →
      happening.answered? = some ⟨.perform (.submit payload), Except.error error⟩ ∧
      (∃ stream, before.writer = .ready stream ∧
        History.writer (before ++ [(index, happening)]) = .ready stream) ∧
      happening.openings = [] ∧ happening.closings = [] ∧ happening.submitted = [] ∧
      ∀ asked (rest : Task (Request.append asked).Result),
        world.threads[index]? = some ⟨.append asked, some rest⟩ →
        rest = .done (Except.error error)) ∧
    ∀ (before after : History) (index : Nat) (happening : Happening) (payload : Payload)
      (type : RowType) (error : SinkError),
      world.history = before ++ (index, happening) :: after →
      happening.call = .perform (.submit payload) →
      (⟨.openStream type, .error error⟩ : StreamEvent) ∈ happening.events →
      happening.answered? = some ⟨.perform (.submit payload), Except.error error⟩ ∧
      happening.submitted = [] ∧
      (∀ asked (rest : Task (Request.append asked).Result),
        world.threads[index]? = some ⟨.append asked, some rest⟩ →
        rest = .done (Except.error error)) ∧
      ∀ (middle later : History) (other : Nat) (next : Happening) (retried : Payload),
        after = middle ++ (other, next) :: later →
        (∀ entry ∈ middle, entry.2.call ≠ .perform .close ∧
          ∀ payload, entry.2.call ≠ .perform (.submit payload)) →
        next.call = .perform (.submit retried) →
        next.openings = [type] ∧ next.closings = [] := by
  have htraced := traced_of_reachable hreachable
  refine ⟨?current, ?unconverted, ?unopened⟩
  case current =>
    intro before after hhistory hstarted
    have hvalid := htraced.valid
    rw [hhistory, History.valid_append_iff] at hvalid
    obtain ⟨hbefore, hafter⟩ := hvalid
    obtain ⟨type, htype⟩ := hbefore.exists_rowType_iff.mpr hstarted
    have hnothing : Current .uninitialized [] [] := nofun
    obtain ⟨hopening, schema, haccepted, hconverts⟩ := hbefore.current hnothing type htype
    refine ⟨type, schema, htype, hopening, haccepted, hconverts, ?_⟩
    rintro reader events answer later rfl
    obtain ⟨_, hread⟩ := hafter.1.reads rfl
    exact hread.symm.trans htype
  case unconverted =>
    intro before after index happening payload handle schema error hhistory hcall hevent herror
    have hvalid := htraced.valid
    rw [hhistory, History.valid_append_iff] at hvalid
    obtain ⟨hanswered, ⟨stream, hstate, hlater⟩, hmade⟩ :=
      hvalid.2.1.of_unconverted hcall hevent herror
    refine ⟨hanswered, ⟨stream, hstate, ?_⟩, hmade.1, hmade.2.1, hmade.2.2, ?_⟩
    · rw [writer_concat]
      exact hlater
    · exact fun asked rest hthread => htraced.append_fails hhistory hanswered hthread
  case unopened =>
    intro before after index happening payload type error hhistory hcall hevent
    have hvalid := htraced.valid
    rw [hhistory, History.valid_append_iff] at hvalid
    obtain ⟨_, hfits, hafter⟩ := hvalid
    obtain ⟨hanswered, hbroken, hsubmitted⟩ := hfits.of_unopened hcall hevent
    refine ⟨hanswered, hsubmitted,
      fun asked rest hthread => htraced.append_fails hhistory hanswered hthread, ?_⟩
    rintro middle later other next retried rfl hquiet hnext
    rw [hbroken, History.valid_append_iff] at hafter
    obtain ⟨hmiddle, hretry, _⟩ := hafter
    rw [hmiddle.after_broken hquiet] at hretry
    exact hretry.of_broken hnext

end World

namespace FailedReopening

def schema (names : List String) : TableSchema :=
  ⟨names.map fun name => { name, type := 1, mode := 1 }⟩

def type (name : String) : RowType := ⟨rootName, [⟨1, name, .optional, .string⟩]⟩

def client : Client where
  parser _ := .error .emptyRecord
  config := {}
  retryableCodes := []

def refusal : SinkError := .stream "refused"

theorem exists_unconverted : ∃ error, rowTypeOf (schema ["c", "c"]) = .error error :=
  ⟨_, rfl⟩

def started : Nat × Happening :=
  (0, .performed .start
    (⟨.fetchSchema, Except.ok (schema ["a"])⟩ :: openingEvents (type "a") 0) (Except.ok ()))

/-- The stream is closed for a schema that was reported, and no other one can be opened. -/
def failing : List StreamEvent :=
  [⟨.updatedSchema 0, some (schema ["b"])⟩, ⟨.clock, (0 : Nat)⟩, ⟨.closeStream 0, ()⟩,
    ⟨.clock, (0 : Nat)⟩, ⟨.record (.operation .closeStream 0), ()⟩,
    ⟨.keep (.broken (type "b")), ()⟩, ⟨.clock, (0 : Nat)⟩,
    ⟨.openStream (type "b"), Except.error refusal⟩]

theorem mem_failing :
    (⟨.openStream (type "b"), Except.error refusal⟩ : StreamEvent) ∈ failing :=
  List.mem_of_getLast? rfl

theorem runs_failing :
    ((WriterSection.submit .empty).steps (.ready ⟨type "a", 0⟩)).Runs failing
      (Except.error refusal) := by
  have htype : rowTypeOf (schema ["b"]) = .ok (type "b") := rfl
  refine .ask ?_
  simp only [htype]
  exact .ask (.ask (.ask (.ask (.ask (.ask (.ask (.done _)))))))

def retrying : List StreamEvent :=
  ⟨.keep (.broken (type "b")), ()⟩ :: openingEvents (type "b") 1 ++
    [⟨.record (.submission Payload.empty.validCount Payload.empty.byteSize), ()⟩,
      ⟨.submit 1 [], Except.ok 0⟩]

theorem runs_retrying :
    ((WriterSection.submit .empty).steps (.broken (type "b"))).Runs retrying
      (Except.ok (.pending 0)) :=
  Program.runs_bind (.ask (runs_openWith (type "b") 1)) (.ask (.ask (.done _)))

theorem runs_unconverted {error : SinkError}
    (herror : rowTypeOf (schema ["c", "c"]) = .error error) :
    ((WriterSection.submit .empty).steps (.ready ⟨type "b", 1⟩)).Runs
      [⟨.updatedSchema 1, some (schema ["c", "c"])⟩] (Except.error error) := by
  refine .ask ?_
  simp only [herror]
  exact .done _

def failed : Happening :=
  .performed (.submit .empty) failing (Except.error refusal)

def retried : Happening :=
  .performed (.submit .empty) retrying (Except.ok (.pending 0))

def unconverted (error : SinkError) : Happening :=
  .performed (.submit .empty) [⟨.updatedSchema 1, some (schema ["c", "c"])⟩] (Except.error error)

def history (error : SinkError) : History :=
  [started, (1, failed), (2, retried), (3, unconverted error)]

/-- A stream cannot be replaced, the next append tries again, and then a schema is reported that
does not convert. -/
theorem exists_world {error : SinkError} (herror : rowTypeOf (schema ["c", "c"]) = .error error) :
    ∃ world, World.Reachable client world ∧ world.history = history error ∧
      (∃ rest, world.threads[1]? = some ⟨.append .empty, some rest⟩) ∧
      ∃ rest, world.threads[3]? = some ⟨.append .empty, some rest⟩ := by
  have hempty : World.Reachable client {} := .refl
  have hstarted := (hempty.tail (.begin _ .start)).tail
    (.perform 0 rfl (runs_start (rfl : rowTypeOf (schema ["a"]) = .ok (type "a")) 0))
  have hfailed := (hstarted.tail (.begin _ (.append .empty))).tail (.perform 1 rfl runs_failing)
  have hretried := (hfailed.tail (.begin _ (.append .empty))).tail (.perform 2 rfl runs_retrying)
  have hreported := (hretried.tail (.begin _ (.append .empty))).tail
    (.perform 3 rfl (runs_unconverted herror))
  exact ⟨_, hreported, rfl, ⟨_, rfl⟩, ⟨_, rfl⟩⟩

theorem failed_recreation_retried_of_world :
    ∃ (world : World) (error : SinkError), world.Reachable client ∧ world.history = history error ∧
      (∃ schema, world.history.accepted.getLast? = some schema ∧
        rowTypeOf schema = .ok (type "b")) ∧
      retried.openings = [type "b"] ∧
      world.threads[1]? = some ⟨.append .empty, some (.done (Except.error refusal))⟩ ∧
      world.threads[3]? = some ⟨.append .empty, some (.done (Except.error error))⟩ := by
  obtain ⟨error, herror⟩ := exists_unconverted
  obtain ⟨world, hreachable, hhistory, ⟨first, hfirst⟩, last, hlast⟩ := exists_world herror
  obtain ⟨hcurrent, hunconverted, hunopened⟩ := World.failed_recreation_retried hreachable
  have hstarted : world.history.Started := ⟨started, hhistory ▸ List.mem_cons_self, .performed _⟩
  obtain ⟨target, accepted, _, hopened, haccepted, hconverts, _⟩ :=
    hcurrent world.history [] (List.append_nil _).symm hstarted
  have htarget : world.history.openings.getLast? = some (type "b") := by
    rw [hhistory]
    rfl
  obtain rfl := Option.some.inj (hopened.symm.trans htarget)
  obtain ⟨_, _, hfails, hretries⟩ :=
    hunopened [started] _ 1 failed .empty (type "b") refusal hhistory rfl mem_failing
  obtain ⟨hopenings, _⟩ := hretries [] _ 2 retried .empty rfl nofun rfl
  obtain ⟨_, _, _, _, _, hrefused⟩ :=
    hunconverted [started, (1, failed), (2, retried)] [] 3 (unconverted error) .empty 1
      (schema ["c", "c"]) error hhistory rfl List.mem_cons_self herror
  obtain rfl := hfails .empty first hfirst
  obtain rfl := hrefused .empty last hlast
  exact ⟨world, error, hreachable, hhistory, ⟨accepted, haccepted, hconverts⟩, hopenings, hfirst,
    hlast⟩

end FailedReopening

end RowSink
