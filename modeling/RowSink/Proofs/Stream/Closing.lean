import RowSink.Proofs.Stream.Custody
import RowSink.Proofs.Stream.Threads

/-!
# A writer that was closed

Closing is final. Once a writer was closed, nothing is asked of the service any more: appends are
answered at once, starts fail, and closing again changes nothing. Together with the custody of the
stream before that, this says what a writer does with its streams over a whole run.
-/

namespace RowSink

open Writer

/-- What may happen to a writer that was closed. -/
inductive Happening.Refused : Happening → Prop where
  | asked {call : ClientCall} (hown : ∀ part, call ≠ .perform part) (answer : call.Answer) :
      Refused (.asked call answer)
  | started : Refused (.performed .start [] (.error (.stream closedMessage)))
  | read (answer : Except SinkError RowType) : Refused (.performed .rowType [] answer)
  | submitted (payload : Payload) :
      Refused (.performed (.submit payload) [] (.ok (.answered closedResponse)))
  | closed (type : Option RowType) :
      Refused (.performed .close [⟨.keep (.closed type), ()⟩] ())

namespace Happening

variable {happening : Happening} {type : Option RowType}

/-- What was refused asked nothing of the service. -/
theorem Refused.waits_eq_false (hrefused : happening.Refused) {past : List StreamEvent}
    {call : StreamCall} (hmakes : happening.Makes past call) : call.waits = false := by
  cases hrefused with
  | asked hown answer => cases hmakes
  | started | read | submitted =>
    generalize hevents : ([] : List StreamEvent) = events at hmakes
    cases hmakes
    simp at hevents
  | closed type =>
    generalize hevents : ([⟨.keep (.closed type), ()⟩] : List StreamEvent) = events at hmakes
    cases hmakes with
    | performed =>
      rename_i later answer
      cases past with
      | nil =>
        obtain ⟨hfirst, _⟩ := List.cons.inj hevents
        cases hfirst
        rfl
      | cons first past => simp at hevents

theorem Refused.append_done (hrefused : happening.Refused) {payload : Payload}
    {answer : Except SinkError Submission}
    (hanswered : happening.answered? = some ⟨.perform (.submit payload), answer⟩) :
    answer = .ok (.answered closedResponse) := by
  cases hrefused with
  | asked hown found =>
    cases hanswered
    exact absurd rfl (hown _)
  | submitted =>
    cases hanswered
    rfl
  | started | read | closed => cases hanswered

theorem Refused.start_done (hrefused : happening.Refused) {answer : Except SinkError Unit}
    (hanswered : happening.answered? = some ⟨.perform .start, answer⟩) :
    answer = .error (.stream closedMessage) := by
  cases hrefused with
  | asked hown found =>
    cases hanswered
    exact absurd rfl (hown _)
  | started =>
    cases hanswered
    rfl
  | submitted | read | closed => cases hanswered

theorem Fits.refused (hfits : happening.Fits (.closed type)) :
    happening.Refused ∧
      ∃ kept, (WriterState.closed type).after happening.events = .closed kept := by
  cases hfits with
  | asked hown answer => exact ⟨.asked hown answer, type, rfl⟩
  | performed hruns =>
    rename_i part events answer
    cases part with
    | start =>
      cases hruns
      exact ⟨.started, type, rfl⟩
    | rowType =>
      cases hruns
      exact ⟨.read _, type, rfl⟩
    | submit payload =>
      cases hruns
      exact ⟨.submitted payload, type, rfl⟩
    | close =>
      cases hruns with
      | ask hrest =>
        cases hrest
        exact ⟨.closed type, type, rfl⟩
  | interrupted hreaches hwaits =>
    rename_i part events pending continuation
    cases part with
    | start | rowType | submit => cases hreaches
    | close =>
      cases hreaches with
      | here => contradiction
      | ask hrest => cases hrest

end Happening

namespace History

/-- A closed writer stays closed, and refuses whatever comes. -/
theorem Valid.refused {history : History} {type : Option RowType}
    (hvalid : history.Valid (.closed type)) : ∀ entry ∈ history, entry.2.Refused := by
  induction history generalizing type with
  | nil => exact fun entry hentry => absurd hentry List.not_mem_nil
  | cons first rest ih =>
    obtain ⟨hfits, hrest⟩ := hvalid
    obtain ⟨hrefused, kept, hkept⟩ := hfits.refused
    rw [hkept] at hrest
    intro entry hentry
    obtain rfl | hlater := List.mem_cons.mp hentry
    · exact hrefused
    · exact ih hrest entry hlater

theorem Valid.refused_of_close {before after : History} {index : Nat} {events : List StreamEvent}
    (hvalid : Valid .uninitialized (before ++ (index, .performed .close events ()) :: after)) :
    ∀ entry ∈ after, entry.2.Refused := by
  obtain ⟨hbefore, hfits, hafter⟩ := valid_append_iff.mp hvalid
  have hkept : Custody.Kept {} := rfl
  have hpresent := hkept.follow hbefore
  have hwriter : (Custody.follow {} before.events).writer =
      WriterState.uninitialized.after before.events := Custody.writer_follow {} before.events
  rw [← hwriter] at hfits hafter
  cases hfits with
  | performed hruns =>
    obtain ⟨type, hclosed⟩ := (WriterSection.close_guards hpresent).ends_of_runs hruns
    rw [← Custody.follow, Custody.writer_follow] at hclosed
    have hlater : after.Valid (.closed type) := hclosed ▸ hafter
    exact hlater.refused

end History

namespace World

variable {client : Client} {world later : World}

theorem Step.history_isPrefix (hstep : Step client world later) :
    world.history <+: later.history := by
  cases hstep with
  | begin | giveUp => exact List.prefix_refl _
  | ask | perform | interrupt => exact List.prefix_append _ _

theorem history_isPrefix_of_steps (hsteps : Relation.ReflTransGen (Step client) world later) :
    world.history <+: later.history := by
  induction hsteps with
  | refl => exact List.prefix_refl _
  | tail _ hlast ih => exact ih.trans hlast.history_isPrefix

/-- A thread has done nothing yet, or its first call was answered. -/
theorem Traced.eq_task_or_answered (htraced : world.Traced client) {index : Nat}
    {request : Request} {rest : Task request.Result} {call : ClientCall}
    {next : call.Answer → Task request.Result}
    (hthread : world.threads[index]? = some ⟨request, some rest⟩)
    (htask : request.task client = .ask call next) :
    rest = .ask call next ∨ ∃ (happening : Happening) (answer : call.Answer)
      (calls : List ClientEvent), (index, happening) ∈ world.history ∧
        happening.answered? = some ⟨call, answer⟩ ∧ (next answer).Reaches calls rest := by
  obtain ⟨calls, hshows, hreaches⟩ := htraced.reaches index request rest hthread
  rw [htask] at hreaches
  cases hreaches with
  | here => exact .inl rfl
  | ask hrest =>
    obtain ⟨earlier, happening, after, hhistory, _, hanswered, _⟩ := hshows.exists_split
    refine .inr ⟨happening, _, _, ?_, hanswered, hrest⟩
    rw [hhistory]
    exact List.mem_append_right earlier List.mem_cons_self

section Closed

variable {before after : History} {closer index : Nat} {events : List StreamEvent}
  {request : Request} {rest : Task request.Result} {part : WriterSection}
  {next : part.Answer → Task request.Result}

/-- A thread that had done nothing when the writer was closed has still done nothing, or the closed
writer gave the answer to its first call. -/
theorem Traced.refused_of_fresh (htraced : world.Traced client)
    (hhistory : world.history = before ++ (closer, .performed .close events ()) :: after)
    (hfresh : ∀ entry ∈ before, entry.1 ≠ index)
    (hthread : world.threads[index]? = some ⟨request, some rest⟩)
    (htask : request.task client = .ask (.perform part) next) (hpart : part ≠ .close) :
    rest = request.task client ∨ ∃ (happening : Happening) (answer : part.Answer)
      (calls : List ClientEvent), happening.Refused ∧
        happening.answered? = some ⟨.perform part, answer⟩ ∧ (next answer).Reaches calls rest := by
  obtain hnothing | ⟨happening, answer, calls, hmem, hanswered, hreaches⟩ :=
    htraced.eq_task_or_answered hthread htask
  · exact .inl (hnothing.trans htask.symm)
  · refine .inr ⟨happening, answer, calls, ?_, hanswered, hreaches⟩
    have hvalid := htraced.valid
    rw [hhistory] at hmem hvalid
    obtain hearlier | hlater := List.mem_append.mp hmem
    · exact absurd rfl (hfresh _ hearlier)
    obtain hclose | hlast := List.mem_cons.mp hlater
    · obtain ⟨_, rfl⟩ := Prod.mk.inj hclose
      cases hanswered
      exact absurd rfl hpart
    · exact hvalid.refused_of_close _ hlast

variable {result : request.Result}

theorem Traced.eq_task_or_done (htraced : world.Traced client)
    (hhistory : world.history = before ++ (closer, .performed .close events ()) :: after)
    (hfresh : ∀ entry ∈ before, entry.1 ≠ index)
    (hthread : world.threads[index]? = some ⟨request, some rest⟩)
    (htask : request.task client = .ask (.perform part) next) (hpart : part ≠ .close)
    (hrefuses : ∀ (happening : Happening) (answer : part.Answer), happening.Refused →
      happening.answered? = some ⟨.perform part, answer⟩ → next answer = .done result) :
    rest = request.task client ∨ rest = .done result := by
  obtain hnothing | ⟨happening, answer, calls, hrefused, hanswered, hreaches⟩ :=
    htraced.refused_of_fresh hhistory hfresh hthread htask hpart
  · exact .inl hnothing
  · rw [hrefuses happening answer hrefused hanswered] at hreaches
    cases hreaches
    exact .inr rfl

/-- A thread that ends when its first call is refused has not begun yet or has ended, and it
comes to that end. -/
theorem late_call_ends (hreachable : world.Reachable client)
    (hhistory : world.history = before ++ (closer, .performed .close events ()) :: after)
    (hfresh : ∀ entry ∈ before, entry.1 ≠ index)
    (hthread : world.threads[index]? = some ⟨request, some rest⟩)
    (htask : request.task client = .ask (.perform part) next) (hpart : part ≠ .close)
    (hrefuses : ∀ (happening : Happening) (answer : part.Answer), happening.Refused →
      happening.answered? = some ⟨.perform part, answer⟩ → next answer = .done result) :
    (rest = request.task client ∨ rest = .done result) ∧
      ∃ later, Relation.ReflTransGen (Step client) world later ∧
        later.threads[index]? = some ⟨request, some (.done result)⟩ := by
  constructor
  · exact (traced_of_reachable hreachable).eq_task_or_done hhistory hfresh hthread htask hpart
      hrefuses
  · obtain ⟨later, found, hleads, hlater⟩ := exists_end hthread
    obtain ⟨more, hmore⟩ := history_isPrefix_of_steps hleads
    rw [hhistory, List.append_assoc, List.cons_append] at hmore
    have htraced := traced_of_reachable (hreachable.trans hleads)
    obtain hnothing | hdone :=
      htraced.eq_task_or_done hmore.symm hfresh hlater htask hpart hrefuses
    · rw [htask] at hnothing
      contradiction
    · exact ⟨later, hleads, hdone ▸ hlater⟩

end Closed

section Calls

variable {before after : History} {index : Nat} {happening : Happening} {past : List StreamEvent}
  {call : StreamCall}

/-- Every call is in order, whether it was answered or not. -/
theorem orderly_of_makes (hreachable : world.Reachable client)
    (hhistory : world.history = before ++ (index, happening) :: after)
    (hmakes : happening.Makes past call) :
    (Custody.follow {} (before.events ++ past)).Orderly call := by
  have hkept : Custody.Kept {} := rfl
  have hvalid := (traced_of_reachable hreachable).valid
  rw [hhistory] at hvalid
  exact hkept.orderly_of_split hvalid hmakes

/-- A call about a stream that was closed is about another one, opened since under its number. -/
theorem exists_opening_of_makes (hreachable : world.Reachable client)
    (hhistory : world.history = before ++ (index, happening) :: after)
    (hmakes : happening.Makes past call) {handle : Nat} (hhandle : call.handle? = some handle)
    {earlier middle : List StreamEvent}
    (hclosed : before.events ++ past = earlier ++ ⟨.closeStream handle, ()⟩ :: middle) :
    ∃ type, (⟨.openStream type, .ok handle⟩ : StreamEvent) ∈ middle := by
  have horderly := orderly_of_makes hreachable hhistory hmakes
  rw [hclosed] at horderly
  exact horderly.exists_opening hhandle

theorem length_held_le (hreachable : world.Reachable client) {events : List StreamEvent}
    (hinitial : events <+: world.history.events) : (Custody.held events).length ≤ 1 := by
  obtain ⟨more, hmore⟩ := hinitial
  have hkept : Custody.Kept {} := rfl
  apply Custody.length_held_le
  intro past event later hevents
  apply @Custody.Kept.orderly_of_events _ _ hkept (traced_of_reachable hreachable).valid past
    (later ++ more)
  rw [← hmore, hevents, List.append_assoc, List.cons_append]

end Calls

/-- What a writer does with its streams. Every call that it makes is in order: it asks, closes and
submits to the stream that it opened last as long as that stream is live, and opens one only if
there is none or the last one is gone. So a stream that was closed is not called any more, and no
two are held at a time. After a closing there are no calls to the service, and the appends and
starts that come then are refused and come to their end. Calls are judged by the calls that were
answered before; where no section is given up midway, these are all. -/
theorem streams_in_custody (hreachable : world.Reachable client) :
    (∀ (before after : History) (index : Nat) (happening : Happening)
      (past : List StreamEvent) (call : StreamCall),
      world.history = before ++ (index, happening) :: after → happening.Makes past call →
      (Custody.follow {} (before.events ++ past)).Orderly call) ∧
    (∀ (before after : History) (index : Nat) (happening : Happening)
      (past earlier middle : List StreamEvent) (call : StreamCall) (handle : Nat),
      world.history = before ++ (index, happening) :: after → happening.Makes past call →
      call.handle? = some handle →
      before.events ++ past = earlier ++ ⟨.closeStream handle, ()⟩ :: middle →
      ∃ type, (⟨.openStream type, .ok handle⟩ : StreamEvent) ∈ middle) ∧
    (∀ events, events <+: world.history.events → (Custody.held events).length ≤ 1) ∧
    (∀ (before after : History) (closer : Nat) (events : List StreamEvent),
      world.history = before ++ (closer, .performed .close events ()) :: after →
      (∀ entry ∈ after, entry.2.Refused) ∧
      (∀ entry ∈ after, ∀ past call, entry.2.Makes past call → call.waits = false) ∧
      (∀ index payload (rest : Task (Request.append payload).Result),
        (∀ entry ∈ before, entry.1 ≠ index) →
        world.threads[index]? = some ⟨.append payload, some rest⟩ →
        (rest = Writer.append payload ∨ rest = .done (Except.ok closedResponse)) ∧
        ∃ later, Relation.ReflTransGen (Step client) world later ∧
          later.threads[index]? =
            some ⟨.append payload, some (.done (Except.ok closedResponse))⟩) ∧
      ∀ index (rest : Task Request.start.Result), (∀ entry ∈ before, entry.1 ≠ index) →
        world.threads[index]? = some ⟨.start, some rest⟩ →
        (rest = Client.start ∨ rest = .done (Except.error (.stream closedMessage))) ∧
        ∃ later, Relation.ReflTransGen (Step client) world later ∧
          later.threads[index]? =
            some ⟨.start, some (.done (Except.error (.stream closedMessage)))⟩) := by
  refine ⟨?_, ?_, ?_, ?_⟩
  · intro before after index happening past call hhistory hmakes
    exact orderly_of_makes hreachable hhistory hmakes
  · intro before after index happening past earlier middle call handle hhistory hmakes hhandle
      hclosed
    exact exists_opening_of_makes hreachable hhistory hmakes hhandle hclosed
  · intro events hinitial
    exact length_held_le hreachable hinitial
  · intro before after closer events hhistory
    have hvalid := (traced_of_reachable hreachable).valid
    rw [hhistory] at hvalid
    have hrefused := hvalid.refused_of_close
    refine ⟨hrefused, ?_, ?_, ?_⟩
    · intro entry hentry past call hmakes
      exact (hrefused entry hentry).waits_eq_false hmakes
    · intro index payload rest hfresh hthread
      apply late_call_ends hreachable hhistory hfresh hthread rfl nofun
      intro happening answer hrefusal hanswered
      obtain rfl := hrefusal.append_done hanswered
      rfl
    · intro index rest hfresh hthread
      apply late_call_ends hreachable hhistory hfresh hthread rfl nofun
      intro happening answer hrefusal hanswered
      obtain rfl := hrefusal.start_done hanswered
      rfl

end World

namespace ClosedWriter

def schema (name : String) : TableSchema := ⟨[{ name, type := 1, mode := 1 }]⟩

def type (name : String) : RowType := ⟨rootName, [⟨1, name, .optional, .string⟩]⟩

def client : Client where
  parser _ := .error .emptyRecord
  config := {}
  retryableCodes := []

def closing : List StreamEvent :=
  [⟨.clock, (0 : Nat)⟩, ⟨.closeStream 1, ()⟩, ⟨.clock, (0 : Nat)⟩,
    ⟨.record (.operation .closeStream 0), ()⟩, ⟨.keep (.closed (some (type "b"))), ()⟩]

theorem runs_closing :
    (WriterSection.close.steps (.ready ⟨type "b", 1⟩)).Runs closing () :=
  .ask (.ask (.ask (.ask (.ask (.done _)))))

/-- The calls of an append that replace the stream. -/
def replacement : List StreamEvent :=
  replacingEvents 0 (schema "b") (type "b") 1 ++
    [⟨.record (.submission Payload.empty.validCount Payload.empty.byteSize), ()⟩]

def submission : Happening :=
  .performed (.submit .empty) (replacement ++ [⟨.submit 1 [], Except.ok 0⟩])
    (Except.ok (.pending 0))

theorem makes_submission : submission.Makes replacement (.submit 1 []) :=
  .performed

def first : Nat × Happening :=
  (0, .performed .start
    (⟨.fetchSchema, Except.ok (schema "a")⟩ :: openingEvents (type "a") 0) (Except.ok ()))

/-- A stream is replaced, the writer is closed, and then there are a start and an append more. -/
theorem exists_world :
    ∃ world after, World.Reachable client world ∧
      world.history =
        [first, (1, submission)] ++ (2, .performed .close closing ()) :: after ∧
      world.threads[3]? = some ⟨.append .empty, some (Writer.append .empty)⟩ ∧
      world.threads[4]? = some ⟨.start, some Client.start⟩ := by
  have hempty : World.Reachable client {} := .refl
  have hstarted := (hempty.tail (.begin _ .start)).tail
    (.perform 0 rfl (runs_start (rfl : rowTypeOf (schema "a") = .ok (type "a")) 0))
  have happended := (hstarted.tail (.begin _ (.append .empty))).tail
    (.perform 1 rfl (runs_submit_reported .empty ⟨type "a", 0⟩
      (rfl : rowTypeOf (schema "b") = .ok (type "b")) 1 0))
  have hclosed := (happended.tail (.begin _ .close)).tail (.perform 2 rfl runs_closing)
  have hlast := (hclosed.tail (.begin _ (.append .empty))).tail (.begin _ .start)
  exact ⟨_, [], hlast, rfl, rfl, rfl⟩

theorem streams_in_custody_of_world :
    ∃ world : World, world.Reachable client ∧
      (Custody.held world.history.events).length ≤ 1 ∧
      (Custody.follow {} (History.events [first] ++ replacement)).Orderly (.submit 1 []) ∧
      (∃ later, Relation.ReflTransGen (World.Step client) world later ∧
        later.threads[3]? =
          some ⟨.append .empty, some (.done (Except.ok closedResponse))⟩) ∧
      ∃ later, Relation.ReflTransGen (World.Step client) world later ∧
        later.threads[4]? =
          some ⟨.start, some (.done (Except.error (.stream closedMessage)))⟩ := by
  obtain ⟨world, after, hreachable, hhistory, happend, hstart⟩ := exists_world
  obtain ⟨horderly, _, hheld, hclosed⟩ := World.streams_in_custody hreachable
  obtain ⟨_, _, happended, hstarted⟩ := hclosed [first, (1, submission)] after 2 closing hhistory
  have hfresh (index : Nat) (hindex : 1 < index) :
      ∀ entry ∈ [first, (1, submission)], entry.1 ≠ index := by
    intro entry hentry
    simp only [first, List.mem_cons, List.not_mem_nil, or_false] at hentry
    obtain rfl | rfl := hentry <;> simp only <;> omega
  refine ⟨world, hreachable, hheld _ (List.prefix_refl _), ?_, ?_, ?_⟩
  · exact horderly [first] _ 1 submission replacement _ hhistory makes_submission
  · exact (happended 3 .empty _ (hfresh 3 (by omega)) happend).2
  · exact (hstarted 4 _ (hfresh 4 (by omega)) hstart).2

end ClosedWriter

end RowSink
