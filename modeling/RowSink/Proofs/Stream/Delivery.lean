import RowSink.Proofs.Batch.Precedence
import RowSink.Proofs.Stream.Push
import RowSink.Proofs.Stream.Threads

/-!
# What a push accounts for

The result of a push says of every message of its batch whether its row was written. A row counts as
written if it was in the one submission of the push, this submission was accepted, and the response
to it neither fails as a whole nor names the row. Whatever the writer did on the way, and whatever
other threads did in between, the result says neither more nor less.
-/

namespace RowSink

open Ledger

def submitted? : StreamEvent → Option Submitted
  | ⟨.submit handle rows, answer⟩ => some ⟨handle, rows, answer⟩
  | _ => none

theorem submissions_follow (ledger : Ledger) (events : List StreamEvent) :
    (ledger.follow events).submissions = ledger.submissions ++ events.filterMap submitted? := by
  induction events generalizing ledger with
  | nil => simp [Ledger.follow]
  | cons event rest ih =>
    have hnote : (ledger.note event).submissions =
        ledger.submissions ++ (submitted? event).toList := by
      obtain ⟨call, answer⟩ := event
      cases call with
      | openStream type => cases answer <;> simp [note, submitted?]
      | updatedSchema handle => cases answer <;> simp [note, submitted?]
      | _ => simp [note, submitted?]
    rw [Ledger.follow, List.foldl_cons, ← Ledger.follow, ih, hnote, List.append_assoc]
    cases hsubmitted : submitted? event <;> simp [hsubmitted]

namespace Happening

/-- The submissions in what happened that were answered. -/
def submissions (happening : Happening) : List Submitted :=
  happening.events.filterMap submitted?

/-- The response that was waited for, with its ticket. -/
def response? : Happening → Option (Nat × AppendOutcome)
  | asked (.await ticket) outcome => some (ticket, outcome)
  | _ => none

/-- What happens to a thread that asks for no section. -/
theorem eq_map_asked {happenings : List Happening} {calls : List ClientEvent}
    (hanswered : happenings.map answered? = calls.map some)
    (hown : ∀ event ∈ calls, ∀ part, event.1 ≠ .perform part) :
    happenings = calls.map fun event => asked event.1 event.2 := by
  induction calls generalizing happenings with
  | nil => exact List.map_eq_nil_iff.mp hanswered
  | cons event rest ih =>
    obtain ⟨happening, others, rfl, hfirst, hrest⟩ := List.map_eq_cons_iff.mp hanswered
    rw [List.map_cons, ih hrest fun other hother => hown other (List.mem_cons_of_mem _ hother),
      eq_asked hfirst (hown event List.mem_cons_self)]

theorem submissions_map_asked (calls : List ClientEvent) :
    (calls.map fun event => asked event.1 event.2).flatMap submissions = [] := by
  rw [List.flatMap_map, List.flatMap_eq_nil_iff]
  exact fun event _ => rfl

variable {happening : Happening}

theorem Fits.settles {writer : WriterState} (hfits : happening.Fits writer) {payload : Payload}
    {answer : Except SinkError Writer.Submission}
    (hanswered : happening.answered? = some ⟨.perform (.submit payload), answer⟩) :
    Settles payload happening.submissions answer ∧ happening.response? = none := by
  obtain ⟨events, rfl, hruns⟩ := hfits.exists_performed hanswered
  have hending := ((WriterSection.submit payload).steps_ending { writer }).ends_of_runs hruns
  refine ⟨?_, rfl⟩
  cases hending with
  | submitted _ hadded hsettles =>
    rw [← Ledger.follow, submissions_follow] at hadded
    obtain rfl := List.append_cancel_left hadded
    exact hsettles

end Happening

namespace History

/-- What happened before anything happened to a thread. -/
def before (history : History) (index : Nat) : History :=
  history.takeWhile fun entry => entry.1 ≠ index

/-- The submissions of a thread that were answered. -/
def submissionsOf (history : History) (index : Nat) : List Submitted :=
  (history.of index).flatMap Happening.submissions

/-- The responses that a thread waited for. -/
def responsesOf (history : History) (index : Nat) : List (Nat × AppendOutcome) :=
  (history.of index).filterMap Happening.response?

theorem Valid.exists_fits {writer : WriterState} {history : History}
    (hvalid : history.Valid writer) {entry : Nat × Happening} (hentry : entry ∈ history) :
    ∃ state, entry.2.Fits state := by
  induction history generalizing writer with
  | nil => contradiction
  | cons first rest ih =>
    obtain ⟨hfits, hrest⟩ := hvalid
    obtain rfl | hmem := List.mem_cons.mp hentry
    · exact ⟨writer, hfits⟩
    · exact ih hrest hmem

end History

namespace Client

variable {client : Client} {payload : Payload} {batch : List InputMessage}

/-- What is behind the result of a delivery: its submissions and the responses it waited for. -/
inductive Accounted (client : Client) (payload : Payload) :
    List Submitted → List (Nat × AppendOutcome) → ErrorsByIndex → Prop where
  | nothing (hrows : payload.isEmpty = true) :
      Accounted client payload [] [] payload.conversionErrors
  | failed (hrows : payload.isEmpty = false) {error : SinkError} {submissions : List Submitted}
      (hsettles : Settles payload submissions (.error error)) :
      Accounted client payload submissions []
        (payload.report client.retryableCodes (.error error))
  | answered (hrows : payload.isEmpty = false) {response : Protocol.AppendResponse}
      {submissions : List Submitted}
      (hsettles : Settles payload submissions (.ok (.answered response))) :
      Accounted client payload submissions []
        (payload.report client.retryableCodes (.ok response))
  | awaited (hrows : payload.isEmpty = false) {ticket : Nat} {submissions : List Submitted}
      (hsettles : Settles payload submissions (.ok (.pending ticket))) (outcome : AppendOutcome) :
      Accounted client payload submissions [(ticket, outcome)]
        (payload.report client.retryableCodes outcome)

/-- What happened to a thread that asked for a submission and then for no other section. -/
theorem settles_of_answered {answer : Except SinkError Writer.Submission}
    {calls : List ClientEvent} {happenings : List Happening}
    (hanswered : happenings.map Happening.answered? =
      (⟨.perform (.submit payload), answer⟩ :: calls).map some)
    (hown : ∀ event ∈ calls, ∀ part, event.1 ≠ .perform part)
    (hfits : ∀ happening ∈ happenings, ∃ writer, happening.Fits writer) :
    Settles payload (happenings.flatMap Happening.submissions) answer ∧
      happenings.filterMap Happening.response? =
        (calls.map fun event => Happening.asked event.1 event.2).filterMap Happening.response? := by
  obtain ⟨first, rest, rfl, hfirst, hrest⟩ := List.map_eq_cons_iff.mp hanswered
  obtain ⟨writer, hfirstFits⟩ := hfits first List.mem_cons_self
  obtain ⟨hsettles, hnone⟩ := hfirstFits.settles hfirst
  obtain rfl := Happening.eq_map_asked hrest hown
  constructor
  · rw [List.flatMap_cons, Happening.submissions_map_asked, List.append_nil]
    exact hsettles
  · rw [List.filterMap_cons_none hnone]

theorem Delivered.accounted {events : List ClientEvent} {errors : ErrorsByIndex}
    (hdelivered : Delivered client payload events errors) {happenings : List Happening}
    (hanswered : happenings.map Happening.answered? = events.map some)
    (hfits : ∀ happening ∈ happenings, ∃ writer, happening.Fits writer) :
    Accounted client payload (happenings.flatMap Happening.submissions)
      (happenings.filterMap Happening.response?) errors := by
  cases hdelivered with
  | nothing hrows =>
    obtain rfl := List.map_eq_nil_iff.mp hanswered
    exact .nothing hrows
  | failed hrows error =>
    obtain ⟨hsettles, hresponses⟩ := settles_of_answered hanswered (List.forall_mem_nil _) hfits
    rw [hresponses]
    exact .failed hrows hsettles
  | answered hrows response =>
    obtain ⟨hsettles, hresponses⟩ := settles_of_answered hanswered (List.forall_mem_nil _) hfits
    rw [hresponses]
    exact .answered hrows hsettles
  | awaited hrows ticket start finish outcome =>
    obtain ⟨hsettles, hresponses⟩ := settles_of_answered hanswered (by simp) hfits
    rw [hresponses]
    exact .awaited hrows hsettles outcome

theorem Pushed.nothing_of_nil {events : List ClientEvent} {errors : ErrorsByIndex}
    (hpushed : Pushed client [] events (.ok errors)) {happenings : List Happening}
    (hanswered : happenings.map Happening.answered? = events.map some) :
    errors = [] ∧ happenings = [] := by
  cases hpushed with
  | nothing _ => exact ⟨rfl, List.map_eq_nil_iff.mp hanswered⟩
  | delivered hbatch _ _ _ _ => contradiction

theorem responses_of_quiet {calls : List ClientEvent} (hquiet : ∀ event ∈ calls, Quiet event) :
    (calls.map fun event => Happening.asked event.1 event.2).filterMap Happening.response? =
      [] := by
  rw [List.filterMap_map, List.filterMap_eq_nil_iff]
  intro event hevent
  obtain ⟨observation, rfl⟩ := hquiet event hevent
  rfl

/-- A push of a batch that is not empty, and that is not refused, delivers the payload that it makes
of the batch with the row type and the time it read. -/
theorem Pushed.accounted {events : List ClientEvent} {errors : ErrorsByIndex}
    (hpushed : Pushed client batch events (.ok errors)) (hbatch : batch ≠ [])
    {happenings : List Happening}
    (hanswered : happenings.map Happening.answered? = events.map some)
    (hfits : ∀ happening ∈ happenings, ∃ writer, happening.Fits writer) :
    ∃ (target : RowType) (now : Instant),
      .performed .rowType [] (.ok target) ∈ happenings ∧ .asked .now now ∈ happenings ∧
      Accounted client (Conversion.payload ⟨client.parser, client.config, target⟩ now batch)
        (happenings.flatMap Happening.submissions)
        (happenings.filterMap Happening.response?) errors := by
  cases hpushed with
  | nothing hempty => exact absurd (List.isEmpty_iff.mp hempty) hbatch
  | delivered _ target now hdelivered hlater =>
    rename_i calls later
    rw [List.cons_append, List.cons_append, List.map_cons, List.map_cons] at hanswered
    obtain ⟨first, rest, rfl, hfirst, hrest⟩ := List.map_eq_cons_iff.mp hanswered
    obtain ⟨second, rest, rfl, hsecond, hrest⟩ := List.map_eq_cons_iff.mp hrest
    rw [List.map_append, List.map_eq_append_iff] at hrest
    obtain ⟨delivery, quiet, rfl, hdelivery, hquiet⟩ := hrest
    obtain ⟨writer, hfirstFits⟩ := hfits first List.mem_cons_self
    obtain ⟨rfl, _⟩ := hfirstFits.reads hfirst
    obtain rfl := Happening.eq_asked hsecond nofun
    have hown : ∀ event ∈ later, ∀ part, event.1 ≠ .perform part := by
      intro event hevent part hcall
      obtain ⟨observation, rfl⟩ := hlater event hevent
      contradiction
    obtain rfl := Happening.eq_map_asked hquiet hown
    have haccounted := hdelivered.accounted hdelivery fun happening hmem =>
      hfits happening (by simp [hmem])
    refine ⟨target, now, by simp, by simp, ?_⟩
    rw [List.flatMap_cons, List.flatMap_cons, List.flatMap_append, Happening.submissions_map_asked,
      List.append_nil, List.filterMap_cons_none rfl, List.filterMap_cons_none rfl,
      List.filterMap_append, responses_of_quiet hlater, List.append_nil]
    exact haccounted

end Client

namespace Payload

/-- The row of the message at a position was written: it was in the one submission that there was,
which was accepted, and the response to it neither fails as a whole nor names the row. -/
def Written (payload : Payload) (submissions : List Submitted)
    (responses : List (Nat × AppendOutcome)) (position : Nat) : Prop :=
  ∃ (row : Int) (handle ticket : Nat) (response : Protocol.AppendResponse),
    payload.inputIndex? row = some position ∧
    submissions = [⟨handle, payload.rows, .ok ticket⟩] ∧
    responses = [(ticket, .ok response)] ∧
    (∀ status, response.verdict ≠ some (.failed status)) ∧
    ∀ rowError ∈ response.rowErrors, rowError.index.toInt ≠ row

theorem blanket?_eq_none_iff {retryable : List StatusCode} {outcome : AppendOutcome} :
    blanket? retryable outcome = none ↔ ∃ response, outcome = .ok response ∧
      ∀ status, response.verdict ≠ some (.failed status) := by
  cases outcome with
  | error error => simp [blanket?]
  | ok response =>
    simp only [blanket?, Except.ok.injEq, exists_eq_left']
    split <;> simp_all

section Rows

variable {payload : Payload} {results : List (Except ConversionError Bytes)}
  {submissions : List Submitted} {responses : List (Nat × AppendOutcome)} {position : Nat}

/-- Without a response nothing was written. -/
theorem not_written_of_no_response : ¬ payload.Written submissions [] position := by
  intro hwritten
  obtain ⟨_, _, _, _, _, _, hresponses, _⟩ := hwritten
  contradiction

/-- A message that does not convert has no row that could be written. -/
theorem not_written_of_failed (hdescribes : payload.Describes results) {error : ConversionError}
    (hfailed : results[position]? = some (.error error)) :
    ¬ payload.Written submissions responses position := by
  intro hwritten
  obtain ⟨row, _, _, _, hrow, _⟩ := hwritten
  obtain ⟨bytes, hconverted⟩ := hdescribes.exists_result_of_inputIndex? hrow
  simp [hfailed] at hconverted

/-- A row of an accepted submission is written unless the response says something else. -/
theorem written_iff_of_accepted (hdescribes : payload.Describes results) {row : Int}
    (hrow : payload.inputIndex? row = some position) (retryable : List StatusCode)
    (handle ticket : Nat) (outcome : AppendOutcome) :
    payload.Written [⟨handle, payload.rows, .ok ticket⟩] [(ticket, outcome)] position ↔
      (rowErrors outcome).lookup row = none ∧ blanket? retryable outcome = none := by
  rw [lookup_eq_none_iff, blanket?_eq_none_iff]
  constructor
  · intro hwritten
    obtain ⟨named, _, _, response, hnamed, _, hresponses, hverdict, hunnamed⟩ := hwritten
    obtain rfl := hdescribes.row_unique hrow hnamed
    simp only [List.cons.injEq, Prod.mk.injEq, and_true] at hresponses
    obtain ⟨_, rfl⟩ := hresponses
    refine ⟨?_, response, rfl, hverdict⟩
    simp only [rowErrors, List.forall_mem_map]
    intro rowError hmem hsame
    exact hunnamed rowError hmem hsame.symm
  · intro hsilent
    obtain ⟨hunnamed, response, rfl, hverdict⟩ := hsilent
    refine ⟨row, handle, ticket, response, hrow, rfl, rfl, hverdict, ?_⟩
    intro rowError hmem hsame
    exact hunnamed _ (List.mem_map_of_mem hmem) hsame.symm

end Rows

end Payload

namespace Client.Accounted

variable {client : Client} {payload : Payload} {results : List (Except ConversionError Bytes)}
  {submissions : List Submitted} {responses : List (Nat × AppendOutcome)} {errors : ErrorsByIndex}

theorem length_submissions_le
    (haccounted : Accounted client payload submissions responses errors) :
    submissions.length ≤ 1 := by
  cases haccounted with
  | nothing _ => simp
  | failed _ hsettles => cases hsettles <;> simp
  | answered _ hsettles => cases hsettles; simp
  | awaited _ hsettles outcome => cases hsettles; simp

theorem submissions_eq_nil
    (haccounted : Accounted client payload submissions responses errors)
    (hrows : payload.rows = []) : submissions = [] := by
  have hempty : payload.isEmpty = true := by simp [Payload.isEmpty, hrows]
  cases haccounted with
  | nothing _ => rfl
  | failed hnonempty _ => simp [hempty] at hnonempty
  | answered hnonempty _ => simp [hempty] at hnonempty
  | awaited hnonempty _ outcome => simp [hempty] at hnonempty

/-- The errors are a report on some outcome, whatever came of the delivery. -/
theorem exists_report (haccounted : Accounted client payload submissions responses errors) :
    ∃ outcome, errors = payload.report client.retryableCodes outcome := by
  cases haccounted with
  | nothing hrows => exact ⟨.ok {}, by simp [Payload.report, hrows]⟩
  | failed _ _ => exact ⟨_, rfl⟩
  | answered _ _ => exact ⟨_, rfl⟩
  | awaited _ _ outcome => exact ⟨_, rfl⟩

/-- No error is reported for a message if and only if its row was written. -/
theorem get?_eq_none_iff (haccounted : Accounted client payload submissions responses errors)
    (hdescribes : payload.Describes results) {position : Nat}
    (hposition : position < results.length) :
    errors.get? position = none ↔ payload.Written submissions responses position := by
  have hresult : results[position]? = some results[position] := List.getElem?_eq_getElem hposition
  cases hconverted : results[position] with
  | error error =>
    rw [hconverted] at hresult
    obtain ⟨outcome, rfl⟩ := haccounted.exists_report
    apply iff_of_false
    · rw [Payload.get?_report_of_failed hdescribes hresult]
      exact nofun
    · exact Payload.not_written_of_failed hdescribes hresult
  | ok bytes =>
    rw [hconverted] at hresult
    obtain ⟨row, hrow, hbytes⟩ := hdescribes.hasRow_iff.mpr hresult
    cases haccounted with
    | nothing hrows =>
      rw [List.isEmpty_iff.mp hrows] at hbytes
      contradiction
    | failed _ hsettles =>
      apply iff_of_false
      · rw [Payload.get?_report_of_row hdescribes hrow]
        simp [Payload.blanket?]
      · exact Payload.not_written_of_no_response
    | answered _ hsettles =>
      cases hsettles
      apply iff_of_false
      · rw [Payload.get?_report_of_row hdescribes hrow]
        simp [Payload.blanket?, Writer.closedResponse]
      · exact Payload.not_written_of_no_response
    | awaited _ hsettles outcome =>
      rename_i ticket
      cases hsettles with
      | accepted handle =>
        rw [Payload.get?_report_of_row hdescribes hrow, Option.or_eq_none_iff,
          Option.map_eq_none_iff]
        exact (Payload.written_iff_of_accepted hdescribes hrow _ handle ticket outcome).symm

end Client.Accounted

namespace World

variable {client : Client} {world : World} {index : Nat} {batch : List InputMessage}

/-- A row type can be read if and only if some start succeeded before. -/
theorem Traced.started_iff_of_shows (htraced : world.Traced client)
    {answer : Except SinkError RowType} {calls : List ClientEvent}
    (hshows : world.history.Shows index (⟨.perform .rowType, answer⟩ :: calls)) :
    (world.history.before index).Started ↔
      ∃ type, answer = .ok type := by
  obtain ⟨earlier, reading, later, hhistory, hearlier, hreading, _⟩ := hshows.exists_split
  have hvalid := htraced.valid
  rw [hhistory, History.valid_append_iff] at hvalid
  obtain ⟨hvalid, hfits, _⟩ := hvalid
  obtain ⟨_, htype⟩ := hfits.reads hreading
  have hbefore : world.history.before index = earlier := by
    rw [History.before, hhistory, List.takeWhile_append_of_pos (by simpa using hearlier),
      List.takeWhile_cons_of_neg (by simp), List.append_nil]
  rw [hbefore, ← hvalid.exists_rowType_iff, htype]

/-- A push is refused if and only if there is something in its batch and no start succeeded before
it began. -/
theorem Traced.refused_iff (htraced : world.Traced client) {calls : List ClientEvent}
    (hshows : world.history.Shows index calls) {result : Except SinkError ErrorsByIndex}
    (hpushed : Client.Pushed client batch calls result) :
    (∃ error, result = .error error) ↔
      batch ≠ [] ∧ ¬ (world.history.before index).Started := by
  cases hpushed with
  | nothing hbatch => simp [List.isEmpty_iff.mp hbatch]
  | unready hbatch error =>
    have hnonempty : batch ≠ [] := by simpa [List.isEmpty_iff] using hbatch
    simp [htraced.started_iff_of_shows hshows, hnonempty]
  | delivered hbatch target now hdelivered hlater =>
    simp [htraced.started_iff_of_shows hshows]

/-- What a push that ended accounts for. It is refused if and only if its batch is not empty and no
start succeeded before it began. Otherwise it made at most one submission, none if it had no row to
submit, and it reports no error for a message if and only if the row of the message was written.
A push can always be run to its end. -/
theorem push_accounts (hreachable : world.Reachable client)
    {rest : Task (Request.push batch).Result}
    (hthread : world.threads[index]? = some ⟨.push batch, some rest⟩) :
    (∃ later result, Relation.ReflTransGen (Step client) world later ∧
      later.threads[index]? = some ⟨.push batch, some (.done result)⟩) ∧
    ∀ result : Except SinkError ErrorsByIndex, rest = .done result →
      ((∃ error, result = .error error) ↔ batch ≠ [] ∧
        ¬ (world.history.before index).Started) ∧
      ∀ errors, result = .ok errors →
        (∀ entry ∈ errors, 0 ≤ entry.1 ∧ entry.1 < batch.length) ∧
        (world.history.submissionsOf index).length ≤ 1 ∧
        (batch = [] → world.history.submissionsOf index = []) ∧
        (batch ≠ [] → ∃ (target : RowType) (now : Instant),
          (index, .performed .rowType [] (.ok target)) ∈ world.history ∧
          (index, .asked .now now) ∈ world.history ∧
          let payload := Conversion.payload ⟨client.parser, client.config, target⟩ now batch
          (payload.rows = [] → world.history.submissionsOf index = []) ∧
          ∀ position < batch.length, errors.get? position = none ↔
            payload.Written (world.history.submissionsOf index)
              (world.history.responsesOf index) position) := by
  constructor
  · exact exists_end hthread
  intro result hresult
  subst hresult
  have htraced := traced_of_reachable hreachable
  obtain ⟨calls, hshows, hreaches⟩ := htraced.reaches index _ _ hthread
  have hpushed := Client.pushed_of_runs hreaches.runs
  constructor
  · exact htraced.refused_iff hshows hpushed
  intro errors hresult
  subst hresult
  by_cases hbatch : batch = []
  · subst hbatch
    obtain ⟨rfl, hnothing⟩ := hpushed.nothing_of_nil hshows
    have hsubmissions : world.history.submissionsOf index = [] := by
      rw [History.submissionsOf, hnothing, List.flatMap_nil]
    refine ⟨nofun, ?_, fun _ => hsubmissions, fun hnonempty => absurd rfl hnonempty⟩
    rw [hsubmissions]
    exact Nat.zero_le 1
  · have hfits : ∀ happening ∈ world.history.of index, ∃ writer, happening.Fits writer := by
      intro happening hmem
      exact htraced.valid.exists_fits (History.mem_of_iff.mp hmem)
    obtain ⟨target, now, hreading, hnow, haccounted⟩ := hpushed.accounted hbatch hshows hfits
    rw [History.mem_of_iff] at hreading hnow
    have hbounds : ∀ entry ∈ errors, 0 ≤ entry.1 ∧ entry.1 < batch.length := by
      obtain ⟨outcome, rfl⟩ := haccounted.exists_report
      intro entry hentry
      exact Conversion.mem_report_bounds hentry
    refine ⟨hbounds, haccounted.length_submissions_le, fun hempty => absurd hempty hbatch, ?_⟩
    intro _
    refine ⟨target, now, hreading, hnow, haccounted.submissions_eq_nil, ?_⟩
    intro position hposition
    apply haccounted.get?_eq_none_iff (Conversion.describes_payload _ _ _)
    rwa [List.length_map]

end World

namespace WrittenRow

open Writer

def schema : TableSchema := ⟨[{ name := "a", type := 1, mode := 1 }]⟩

def type : RowType := ⟨rootName, [⟨1, "a", .optional, .string⟩]⟩

/-- A client for which every message says that the column a is an x. -/
def client : Client where
  parser _ := .ok ⟨"Letter", [⟨1, "a", .single (.scalar (.string "x"))⟩], []⟩
  config := {}
  retryableCodes := []

def payload : Payload :=
  Conversion.payload ⟨client.parser, client.config, type⟩ ⟨0, 0⟩ [{}]

/-- A push may write the row of its one message. -/
theorem exists_world :
    ∃ world, World.Reachable client world ∧
      world.threads[1]? = some ⟨.push [{}], some (.done (Except.ok []))⟩ := by
  have hempty : World.Reachable client {} := .refl
  have hstarted := (hempty.tail (.begin _ .start)).tail
    (.perform 0 rfl (runs_start (rfl : rowTypeOf schema = .ok type) 0))
  have hread := (hstarted.tail (.begin _ (.push [{}]))).tail (.perform 1 rfl (runs_rowType _))
  have hclocked := hread.tail (.ask 1 .now rfl nofun (⟨0, 0⟩ : Instant))
  have hsubmitted := hclocked.tail (.perform 1 rfl (runs_submit_fit payload ⟨type, 0⟩ 0))
  have hawaited := ((hsubmitted.tail (.ask 1 .clock rfl nofun (0 : Nat))).tail
    (.ask 1 (.await 0) rfl nofun (Except.ok {}))).tail (.ask 1 .clock rfl nofun (0 : Nat))
  have hended := hawaited.tail (.ask 1 (.record (.operation .append 0)) rfl nofun ())
  exact ⟨_, hended, rfl⟩

theorem push_accounts_of_world :
    ∃ world : World, world.Reachable client ∧
      world.threads[1]? = some ⟨.push [{}], some (.done (Except.ok []))⟩ ∧
      ∃ (target : RowType) (now : Instant),
        (Conversion.payload ⟨client.parser, client.config, target⟩ now [{}]).Written
          (world.history.submissionsOf 1) (world.history.responsesOf 1) 0 := by
  obtain ⟨world, hreachable, hthread⟩ := exists_world
  obtain ⟨_, haccounts⟩ := World.push_accounts hreachable hthread
  obtain ⟨_, _, _, hwritten⟩ := (haccounts _ rfl).2 [] rfl
  obtain ⟨target, now, _, _, _, hiff⟩ := hwritten (by simp)
  exact ⟨world, hreachable, hthread, target, now, (hiff 0 (by simp)).mp rfl⟩

end WrittenRow

end RowSink
