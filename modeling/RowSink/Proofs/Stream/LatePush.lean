import RowSink.Proofs.Stream.Closing
import RowSink.Proofs.Stream.Delivery

/-!
# Batches after the end

A batch that is pushed after the client was closed is still converted, with the row type that was
kept. Its rows are not written, and each is reported with the one reason that the closed writer
gives. As for every failure of a whole append, the configured codes decide first whether the records
may be sent again, and only then the code of the reason.
-/

namespace RowSink

open Writer

/-- The kind of failure of a row that comes after the writer was closed. -/
def lateKind (retryable : List StatusCode) : ErrorKind :=
  if .failedPrecondition ∈ retryable then .sinkRetryable else .sink4xx

/-- What is reported for a message that comes after the writer was closed. -/
def lateFailure (retryable : List StatusCode) : Except ConversionError Bytes → ErrorInfo
  | .error error => ⟨error.message, error.kind⟩
  | .ok _ => ⟨closedMessage, lateKind retryable⟩

section Reports

variable {retryable : List StatusCode}

theorem blanket?_closedResponse (retryable : List StatusCode) :
    Payload.blanket? retryable (.ok closedResponse) =
      some ⟨closedMessage, lateKind retryable⟩ := by
  have hcode : classifyAnswer retryable .failedPrecondition = lateKind retryable := by
    simp only [classifyAnswer, lateKind, List.contains_iff_mem]
    rfl
  rw [← hcode]
  rfl

/-- The report on a batch that comes after the writer was closed has an entry for each message. -/
theorem get?_report_closed (conversion : Conversion) (now : Instant) (batch : List InputMessage)
    {position : Nat} (hposition : position < batch.length) :
    ((conversion.payload now batch).report retryable (.ok closedResponse)).get? position =
      some (lateFailure retryable (conversion.rowBytes now batch[position])) := by
  have hdescribes := conversion.describes_payload now batch
  have hresult : (batch.map (conversion.rowBytes now))[position]? =
      some (conversion.rowBytes now batch[position]) := by
    rw [List.getElem?_map, List.getElem?_eq_getElem hposition, Option.map_some]
  cases hconverted : conversion.rowBytes now batch[position] with
  | error error =>
    rw [hconverted] at hresult
    exact Payload.get?_report_of_failed hdescribes hresult
  | ok bytes =>
    rw [hconverted] at hresult
    obtain ⟨row, hrow, _⟩ := hdescribes.hasRow_iff.mpr hresult
    have hnone : (Payload.rowErrors (.ok closedResponse)).lookup (row : Int) = none := rfl
    rw [Payload.get?_report_of_row hdescribes hrow, hnone, Option.map_none, Option.none_or,
      blanket?_closedResponse]
    rfl

/-- A record that does not convert is not worth sending again. -/
theorem ConversionError.isRetryable_kind (error : ConversionError) :
    error.kind.isRetryable = false := by
  cases error <;> rfl

theorem isRetryable_lateFailure_iff {result : Except ConversionError Bytes} :
    (lateFailure retryable result).kind.isRetryable = true ↔
      .failedPrecondition ∈ retryable ∧ ∃ bytes, result = .ok bytes := by
  cases result with
  | error error => simp [lateFailure, error.isRetryable_kind]
  | ok bytes =>
    simp only [lateFailure, lateKind]
    split
    · rename_i hconfigured
      exact iff_of_true rfl ⟨hconfigured, bytes, rfl⟩
    · rename_i hother
      exact iff_of_false nofun fun hretryable => hother hretryable.1

/-- A record that comes after the writer was closed may be sent again if and only if it converts and
the code of the reason is configured as worth a retry. -/
theorem mem_retryable_report_closed_iff (retryable : List StatusCode) (conversion : Conversion)
    (now : Instant) (batch : List InputMessage) (index : Int) :
    index ∈ ErrorsByIndex.retryable
        ((conversion.payload now batch).report retryable (.ok closedResponse)) ↔
      .failedPrecondition ∈ retryable ∧ ∃ (position : Nat) (hposition : position < batch.length),
        index = position ∧ ∃ bytes, conversion.rowBytes now batch[position] = .ok bytes := by
  simp only [ErrorsByIndex.retryable, List.mem_map, List.mem_filter, Prod.exists, exists_and_right,
    exists_eq_right]
  constructor
  · rintro ⟨info, hmem, hretryable⟩
    obtain ⟨hfirst, hlast⟩ := Conversion.mem_report_bounds hmem
    obtain ⟨position, rfl⟩ := Int.eq_ofNat_of_zero_le hfirst
    have hposition : position < batch.length := Int.ofNat_lt.mp hlast
    rw [← ByIndex.get?_eq_some_iff Payload.ascending_report,
      get?_report_closed conversion now batch hposition, Option.some.injEq] at hmem
    rw [← hmem, isRetryable_lateFailure_iff] at hretryable
    exact ⟨hretryable.1, position, hposition, rfl, hretryable.2⟩
  · rintro ⟨hconfigured, position, hposition, rfl, hconverts⟩
    refine ⟨_, ?_, isRetryable_lateFailure_iff.mpr ⟨hconfigured, hconverts⟩⟩
    rw [← ByIndex.get?_eq_some_iff Payload.ascending_report,
      get?_report_closed conversion now batch hposition]

end Reports

/-- A delivery to a closed writer is reported with its answer, also if there is no row to submit. -/
theorem Client.Delivered.eq_report_closed {client : Client} {payload : Payload}
    {calls : List ClientEvent} {errors : ErrorsByIndex}
    (hdelivered : Client.Delivered client payload calls errors)
    (hclosed : ∀ answer, (⟨.perform (.submit payload), answer⟩ : ClientEvent) ∈ calls →
      answer = Except.ok (.answered closedResponse)) :
    errors = payload.report client.retryableCodes (.ok closedResponse) := by
  cases hdelivered with
  | nothing hrows => simp only [Payload.report, hrows, if_true]
  | failed hrows error => cases hclosed _ List.mem_cons_self
  | answered hrows response =>
    obtain rfl := Submission.answered.inj (Except.ok.inj (hclosed _ List.mem_cons_self))
    rfl
  | awaited hrows => cases hclosed _ List.mem_cons_self

/-- Nothing starts a writer that was closed. -/
theorem Happening.Refused.not_starts {happening : Happening} (hrefused : happening.Refused) :
    ¬ happening.Starts := by
  cases hrefused <;> exact nofun

/-- Every call of a thread happened to it. -/
theorem History.Shows.exists_mem {history : History} {index : Nat} {calls : List ClientEvent}
    (hshows : history.Shows index calls) {event : ClientEvent} (hevent : event ∈ calls) :
    ∃ happening, (index, happening) ∈ history ∧ happening.answered? = some event := by
  have hanswered : some event ∈ (history.of index).map Happening.answered? := by
    rw [hshows]
    exact List.mem_map_of_mem hevent
  obtain ⟨happening, hmem, hanswered⟩ := List.mem_map.mp hanswered
  exact ⟨happening, History.mem_of_iff.mp hmem, hanswered⟩

namespace World

variable {client : Client} {world : World} {before after : History} {closer index : Nat}
  {events : List StreamEvent}

/-- What a thread asks of a writer that was closed before it began is refused. -/
theorem Traced.refused_of_mem (htraced : world.Traced client)
    (hhistory : world.history = before ++ (closer, .performed .close events ()) :: after)
    (hfresh : ∀ entry ∈ before, entry.1 ≠ index) {calls : List ClientEvent}
    (hshows : world.history.Shows index calls) {event : ClientEvent} (hevent : event ∈ calls)
    (hother : event.1 ≠ .perform .close) :
    ∃ happening : Happening, happening.Refused ∧ happening.answered? = some event := by
  obtain ⟨happening, hmem, hanswered⟩ := hshows.exists_mem hevent
  refine ⟨happening, ?_, hanswered⟩
  have hvalid := htraced.valid
  rw [hhistory] at hmem hvalid
  obtain hearlier | hlater := List.mem_append.mp hmem
  · exact absurd rfl (hfresh _ hearlier)
  obtain hclose | hlast := List.mem_cons.mp hlater
  · obtain ⟨_, rfl⟩ := Prod.mk.inj hclose
    obtain rfl := Option.some.inj hanswered
    exact absurd rfl hother
  · exact hvalid.refused_of_close _ hlast

/-- A start that succeeded came before the closing, and so before a thread that began after it. -/
theorem Traced.started_before (htraced : world.Traced client)
    (hhistory : world.history = before ++ (closer, .performed .close events ()) :: after)
    (hfresh : ∀ entry ∈ before, entry.1 ≠ index) (hstarted : world.history.Started) :
    (world.history.before index).Started := by
  have hvalid := htraced.valid
  rw [hhistory] at hvalid
  obtain ⟨entry, hentry, hstarts⟩ := hstarted
  refine ⟨entry, ?_, hstarts⟩
  rw [hhistory] at hentry
  obtain hearlier | hlater := List.mem_append.mp hentry
  · rw [History.before, hhistory, List.takeWhile_append_of_pos (by simpa using hfresh)]
    exact List.mem_append_left _ hearlier
  obtain rfl | hlast := List.mem_cons.mp hlater
  · cases hstarts
  · exact absurd hstarts (hvalid.refused_of_close _ hlast).not_starts

/-- What comes of a batch that is pushed after the writer was closed. -/
theorem Traced.late_push_done (htraced : world.Traced client)
    (hhistory : world.history = before ++ (closer, .performed .close events ()) :: after)
    (hfresh : ∀ entry ∈ before, entry.1 ≠ index) (hstarted : world.history.Started)
    {batch : List InputMessage} {result : Except SinkError ErrorsByIndex}
    (hthread : world.threads[index]? = some ⟨.push batch, some (.done result)⟩) :
    batch = [] ∧ result = .ok [] ∨
    ∃ (target : RowType) (now : Instant),
      (index, .performed .rowType [] (.ok target)) ∈ world.history ∧
      (index, .asked .now now) ∈ world.history ∧
      result = .ok ((Conversion.payload ⟨client.parser, client.config, target⟩ now batch).report
        client.retryableCodes (.ok closedResponse)) := by
  obtain ⟨calls, hshows, hreaches⟩ := htraced.reaches index _ _ hthread
  have hpushed := Client.pushed_of_runs hreaches.runs
  cases hpushed with
  | nothing hbatch => exact .inl ⟨List.isEmpty_iff.mp hbatch, rfl⟩
  | unready hbatch error =>
    obtain ⟨type, hread⟩ := (htraced.started_iff_of_shows hshows).mp
      (htraced.started_before hhistory hfresh hstarted)
    contradiction
  | delivered hbatch target now hdelivered hlater =>
    rename_i delivery later errors
    obtain ⟨reading, hreading, hread⟩ := hshows.exists_mem List.mem_cons_self
    obtain ⟨clocking, hclocking, htime⟩ :=
      hshows.exists_mem (List.mem_cons_of_mem _ List.mem_cons_self)
    obtain ⟨writer, hfits⟩ := htraced.valid.exists_fits hreading
    obtain ⟨rfl, _⟩ := hfits.reads hread
    obtain rfl := Happening.eq_asked htime nofun
    refine .inr ⟨target, now, hreading, hclocking, congrArg Except.ok ?_⟩
    apply hdelivered.eq_report_closed
    intro answer hsubmitted
    have hcall : (⟨.perform (.submit _), answer⟩ : ClientEvent) ∈
        ⟨.perform .rowType, .ok target⟩ :: ⟨.now, now⟩ :: delivery ++ later :=
      List.mem_append_left _ (List.mem_cons_of_mem _ (List.mem_cons_of_mem _ hsubmitted))
    obtain ⟨happening, hrefused, hanswered⟩ :=
      htraced.refused_of_mem hhistory hfresh hshows hcall nofun
    exact hrefused.append_done hanswered

/-- A batch that is pushed after the writer was closed is always reported on. Each message that does
not convert has the error of its conversion, and each other one the reason of the closed writer. No
record may be sent again, unless the code of that reason is configured as worth a retry; then all
records that convert may. -/
theorem late_push_reports (hreachable : world.Reachable client)
    (hhistory : world.history = before ++ (closer, .performed .close events ()) :: after)
    (hstarted : world.history.Started) (hfresh : ∀ entry ∈ before, entry.1 ≠ index)
    {batch : List InputMessage} {rest : Task (Request.push batch).Result}
    (hthread : world.threads[index]? = some ⟨.push batch, some rest⟩) :
    (∃ later errors, Relation.ReflTransGen (Step client) world later ∧
      later.threads[index]? = some ⟨.push batch, some (.done (Except.ok errors))⟩) ∧
    ∀ result : Except SinkError ErrorsByIndex, rest = .done result →
      ∃ errors : ErrorsByIndex, result = .ok errors ∧
        (batch = [] → errors = []) ∧
        (∀ entry ∈ errors, 0 ≤ entry.1 ∧ entry.1 < batch.length) ∧
        (batch ≠ [] → ∃ (target : RowType) (now : Instant),
          (index, .performed .rowType [] (.ok target)) ∈ world.history ∧
          (index, .asked .now now) ∈ world.history ∧
          let conversion : Conversion := ⟨client.parser, client.config, target⟩
          (∀ (position : Nat) (hposition : position < batch.length),
            errors.get? position = some (lateFailure client.retryableCodes
              (conversion.rowBytes now batch[position]))) ∧
          ∀ retried, retried ∈ errors.retryable ↔
            .failedPrecondition ∈ client.retryableCodes ∧
              ∃ (position : Nat) (hposition : position < batch.length), retried = position ∧
                ∃ bytes, conversion.rowBytes now batch[position] = .ok bytes) ∧
        (.failedPrecondition ∉ client.retryableCodes → errors.retryable = []) := by
  constructor
  · obtain ⟨later, result, hleads, hlater⟩ := exists_end hthread
    obtain ⟨more, hmore⟩ := history_isPrefix_of_steps hleads
    have hlonger := hmore.symm
    rw [hhistory, List.append_assoc, List.cons_append] at hlonger
    have hkept : later.history.Started := by
      obtain ⟨entry, hentry, hstarts⟩ := hstarted
      exact ⟨entry, hmore ▸ List.mem_append_left more hentry, hstarts⟩
    have htraced := traced_of_reachable (hreachable.trans hleads)
    obtain ⟨_, rfl⟩ | ⟨target, now, _, _, rfl⟩ :=
      htraced.late_push_done hlonger hfresh hkept hlater
    · exact ⟨later, _, hleads, hlater⟩
    · exact ⟨later, _, hleads, hlater⟩
  · rintro result rfl
    obtain ⟨rfl, rfl⟩ | ⟨target, now, hread, hclocked, rfl⟩ :=
      (traced_of_reachable hreachable).late_push_done hhistory hfresh hstarted hthread
    · exact ⟨[], rfl, fun _ => rfl, nofun, fun hnonempty => absurd rfl hnonempty, fun _ => rfl⟩
    · have hretryable := mem_retryable_report_closed_iff client.retryableCodes
        ⟨client.parser, client.config, target⟩ now batch
      refine ⟨_, rfl, ?empty, fun entry => Conversion.mem_report_bounds, fun _ =>
        ⟨target, now, hread, hclocked, ?_, hretryable⟩, ?_⟩
      case empty =>
        rintro rfl
        rfl
      · exact fun position => get?_report_closed _ _ _
      · intro hother
        apply List.eq_nil_iff_forall_not_mem.mpr
        exact fun retried hmem => hother ((hretryable retried).mp hmem).1

end World

namespace ConfiguredRetry

def schema : TableSchema := ⟨[{ name := "a", type := 1, mode := 1 }]⟩

def type : RowType := ⟨rootName, [⟨1, "a", .optional, .string⟩]⟩

/-- A client for which every message says that the column a is an x, and that tries again after some
codes. -/
def client (retryableCodes : List StatusCode) : Client where
  parser _ := .ok ⟨"Letter", [⟨1, "a", .single (.scalar (.string "x"))⟩], []⟩
  config := {}
  retryableCodes := retryableCodes

def closing : List StreamEvent :=
  [⟨.clock, (0 : Nat)⟩, ⟨.closeStream 0, ()⟩, ⟨.clock, (0 : Nat)⟩,
    ⟨.record (.operation .closeStream 0), ()⟩, ⟨.keep (.closed (some type)), ()⟩]

theorem runs_closing : (WriterSection.close.steps (.ready ⟨type, 0⟩)).Runs closing () :=
  .ask (.ask (.ask (.ask (.ask (.done _)))))

def first : Nat × Happening :=
  (0, .performed .start
    (⟨.fetchSchema, Except.ok schema⟩ :: openingEvents type 0) (Except.ok ()))

/-- The client is started and closed, and then a batch of one message is pushed. -/
theorem exists_world (retryableCodes : List StatusCode) (kind : ErrorKind)
    (hkind : retryableCodes = [] ∧ kind = .sink4xx ∨
      retryableCodes = [.failedPrecondition] ∧ kind = .sinkRetryable) :
    ∃ world after, World.Reachable (client retryableCodes) world ∧
      world.history = [first] ++ (1, .performed .close closing ()) :: after ∧
      world.threads[2]? =
        some ⟨.push [{}], some (.done (Except.ok [(0, ⟨closedMessage, kind⟩)]))⟩ := by
  have hempty : World.Reachable (client retryableCodes) {} := .refl
  have hstarted := (hempty.tail (.begin _ .start)).tail
    (.perform 0 rfl (runs_start (rfl : rowTypeOf schema = .ok type) 0))
  have hclosed := (hstarted.tail (.begin _ .close)).tail (.perform 1 rfl runs_closing)
  have hread := (hclosed.tail (.begin _ (.push [{}]))).tail (.perform 2 rfl (runs_rowType _))
  have hclocked := hread.tail (.ask 2 .now rfl nofun (⟨0, 0⟩ : Instant))
  obtain ⟨rfl, rfl⟩ | ⟨rfl, rfl⟩ := hkind
  · have hsubmitted := hclocked.tail (.perform 2 rfl (.done _))
    have hended := hsubmitted.tail (.ask 2 (.record (.failures .sink4xx 1)) rfl nofun ())
    exact ⟨_, _, hended, rfl, rfl⟩
  · have hsubmitted := hclocked.tail (.perform 2 rfl (.done _))
    have hended := hsubmitted.tail (.ask 2 (.record (.failures .sinkRetryable 1)) rfl nofun ())
    exact ⟨_, _, hended, rfl, rfl⟩

theorem started_of_history {world : World} {after : History} {closer : Nat}
    (hhistory : world.history = [first] ++ (closer, .performed .close closing ()) :: after) :
    world.history.Started := by
  refine ⟨first, ?_, .performed _⟩
  rw [hhistory]
  exact List.mem_append_left _ List.mem_cons_self

theorem fresh_first : ∀ entry ∈ [first], entry.1 ≠ 2 := by
  intro entry hentry
  obtain rfl := List.mem_singleton.mp hentry
  exact Nat.zero_ne_add_one 1

/-- A record that was pushed after the client was closed may be reported as worth a retry. -/
theorem not_late_push_lost :
    ¬ ∀ (client : Client) (world : World) (before after : History) (closer index : Nat)
      (events : List StreamEvent) (batch : List InputMessage) (errors : ErrorsByIndex),
      world.Reachable client →
      world.history = before ++ (closer, .performed .close events ()) :: after →
      world.history.Started → (∀ entry ∈ before, entry.1 ≠ index) →
      world.threads[index]? = some ⟨.push batch, some (.done (Except.ok errors))⟩ →
      errors.retryable = [] := by
  intro hclaim
  obtain ⟨world, after, hreachable, hhistory, hthread⟩ :=
    exists_world [.failedPrecondition] .sinkRetryable (.inr ⟨rfl, rfl⟩)
  have hnone := hclaim _ world [first] after 1 2 closing [{}] _ hreachable hhistory
    (started_of_history hhistory) fresh_first hthread
  contradiction

theorem late_push_reports_of_world :
    ∃ world : World, world.Reachable (client []) ∧
      world.threads[2]? =
        some ⟨.push [{}], some (.done (Except.ok [(0, ⟨closedMessage, .sink4xx⟩)]))⟩ ∧
      ∃ (target : RowType) (now : Instant),
        (2, .performed .rowType [] (.ok target)) ∈ world.history ∧
        some ⟨closedMessage, .sink4xx⟩ = some (lateFailure []
          (Conversion.rowBytes ⟨(client []).parser, (client []).config, target⟩ now {})) := by
  obtain ⟨world, after, hreachable, hhistory, hthread⟩ := exists_world [] .sink4xx (.inl ⟨rfl, rfl⟩)
  obtain ⟨_, hdone⟩ := World.late_push_reports hreachable hhistory (started_of_history hhistory)
    fresh_first hthread
  obtain ⟨errors, herrors, _, _, hreports, _⟩ := hdone _ rfl
  obtain rfl := Except.ok.inj herrors
  obtain ⟨target, now, hread, _, hentries, _⟩ := hreports nofun
  exact ⟨world, hreachable, hthread, target, now, hread, hentries 0 Nat.zero_lt_one⟩

end ConfiguredRetry

end RowSink
