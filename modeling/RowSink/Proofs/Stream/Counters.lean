import Mathlib.Algebra.GroupWithZero.Nat
import RowSink.Proofs.Stream.Delivery

/-!
# What is counted

Rows and bytes are counted right before a batch is handed to a stream, whatever the stream then says
to it. So the counters tell how much was handed over: what streams accepted, and also what they
refused and what was given up before they had answered. Nothing is counted for a batch that never
gets as far as a stream.
-/

namespace RowSink

section Handovers

/-- What came of a batch that was handed to a stream. -/
inductive Reception where
  | accepted
  | refused
  /-- The caller gave up before the stream answered. -/
  | abandoned
  deriving DecidableEq

/-- A batch that was handed to a stream. -/
structure Handover where
  rows : List Bytes
  reception : Reception

/-- The number of rows, and the number of bytes in them. -/
def batchSize (rows : List Bytes) : Nat × Nat :=
  (rows.length, (rows.map List.length).sum)

/-- The rows that a call hands to a stream. -/
def StreamCall.rows? : StreamCall → Option (List Bytes)
  | submit _ rows => some rows
  | _ => none

def handover? : StreamEvent → Option Handover
  | ⟨.submit _ rows, .ok _⟩ => some ⟨rows, .accepted⟩
  | ⟨.submit _ rows, .error _⟩ => some ⟨rows, .refused⟩
  | _ => none

def observation? : StreamEvent → Option Observation
  | ⟨.record observation, _⟩ => some observation
  | _ => none

/-- The rows and bytes that an observation adds to the counters of submissions. -/
def Observation.submission? : Observation → Option (Nat × Nat)
  | submission rows bytes => some (rows, bytes)
  | _ => none

def ClientCall.submission? : ClientCall → Option (Nat × Nat)
  | record observation => observation.submission?
  | _ => none

namespace Happening

/-- The batches that were handed to a stream. -/
def handovers : Happening → List Handover
  | asked _ _ => []
  | performed _ events _ => events.filterMap handover?
  | interrupted _ events pending =>
    events.filterMap handover? ++ pending.rows?.toList.map fun rows => ⟨rows, .abandoned⟩

/-- What was added to the metrics of the table. -/
def observations : Happening → List Observation
  | asked (.record observation) _ => [observation]
  | asked _ _ => []
  | performed _ events _ | interrupted _ events _ => events.filterMap observation?

end Happening

namespace History

def handovers (history : History) : List Handover :=
  history.flatMap fun entry => entry.2.handovers

def observations (history : History) : List Observation :=
  history.flatMap fun entry => entry.2.observations

/-- The rows in the batches that had a reception. -/
def rowsHanded (history : History) (reception : Reception) : Nat :=
  ((history.handovers.filter (·.reception = reception)).map fun handover =>
    handover.rows.length).sum

/-- The bytes in the batches that had a reception. -/
def bytesHanded (history : History) (reception : Reception) : Nat :=
  ((history.handovers.filter (·.reception = reception)).map fun handover =>
    (handover.rows.map List.length).sum).sum

end History

end Handovers

/-- What the calls of a section come to, as far as it is counted. -/
structure Tally where
  counted : List (Nat × Nat) := []
  handed : List (Nat × Nat) := []

namespace Tally

def note (tally : Tally) : StreamEvent → Tally
  | ⟨.record (.submission rows bytes), _⟩ =>
    { tally with counted := tally.counted ++ [(rows, bytes)] }
  | ⟨.submit _ rows, _⟩ => { tally with handed := tally.handed ++ [batchSize rows] }
  | _ => tally

/-- Each batch that was handed over was counted, and nothing else was. -/
def Balanced (tally : Tally) : Prop :=
  tally.counted = tally.handed

/-- While a section waits, what it may just be handing over is counted too. -/
def Allows (tally : Tally) (call : StreamCall) : Prop :=
  call.waits → tally.counted = tally.handed ++ (call.rows?.map batchSize).toList

theorem Balanced.allows {tally : Tally} (hbalanced : tally.Balanced) {call : StreamCall}
    (hrows : call.rows? = none) : tally.Allows call := by
  intro _
  rw [hrows, Option.map_none, Option.toList_none, List.append_nil]
  exact hbalanced

theorem note_eq (tally : Tally) (event : StreamEvent) :
    tally.note event =
      ⟨tally.counted ++ ((observation? event).bind Observation.submission?).toList,
        tally.handed ++ (handover? event).toList.map fun handover => batchSize handover.rows⟩ := by
  obtain ⟨call, answer⟩ := event
  cases call with
  | record observation =>
    cases observation <;> simp [note, observation?, Observation.submission?, handover?]
  | submit handle rows => cases answer <;> simp [note, observation?, handover?]
  | _ => simp [note, observation?, handover?]

theorem foldl_note (tally : Tally) (events : List StreamEvent) :
    events.foldl note tally =
      ⟨tally.counted ++ (events.filterMap observation?).filterMap Observation.submission?,
        tally.handed ++
          (events.filterMap handover?).map fun handover => batchSize handover.rows⟩ := by
  induction events generalizing tally with
  | nil => simp
  | cons event rest ih =>
    rw [List.foldl_cons, ih, note_eq, List.filterMap_filterMap, List.filterMap_filterMap,
      List.append_assoc, List.append_assoc]
    congr 2
    · cases hcounted : (observation? event).bind Observation.submission? <;> simp [hcounted]
    · cases hhanded : handover? event <;> simp [hhanded]

end Tally

section Sections

theorem foldl_length_eq (rows : List Bytes) (size : Nat) :
    rows.foldl (fun size row => size + row.length) size = size + (rows.map List.length).sum := by
  induction rows generalizing size with
  | nil => rfl
  | cons row rest ih => rw [List.foldl_cons, ih, List.map_cons, List.sum_cons, Nat.add_assoc]

/-- What a payload says of its size is the size of its rows. -/
theorem Payload.size_eq (payload : Payload) :
    (payload.validCount, payload.byteSize) = batchSize payload.rows := by
  rw [validCount, byteSize, foldl_length_eq, Nat.zero_add, batchSize]

namespace Writer

/-- What a section counts is what it hands over, at its end and wherever it waits. -/
abbrev Counts {α : Type} (tally : Tally) (steps : Steps α) : Prop :=
  Program.Ensures Tally.note Tally.Allows (fun later _ => later.Balanced) tally steps

variable {tally : Tally}

theorem openWith_counts (hbalanced : tally.Balanced) (type : RowType) :
    Counts tally (openWith type) := by
  apply Program.Ensures.ask (hbalanced.allows rfl)
  intro start
  apply Program.Ensures.ask (hbalanced.allows rfl)
  intro answer
  cases answer with
  | error error => exact .done hbalanced
  | ok handle =>
    apply Program.Ensures.ask (hbalanced.allows rfl)
    intro finish
    apply Program.Ensures.ask (hbalanced.allows rfl)
    intro _
    apply Program.Ensures.ask (hbalanced.allows rfl)
    intro _
    exact .done hbalanced

theorem closeHandle_counts (hbalanced : tally.Balanced) (handle : Nat) :
    Counts tally (closeHandle handle) := by
  apply Program.Ensures.ask (hbalanced.allows rfl)
  intro start
  apply Program.Ensures.ask (hbalanced.allows rfl)
  intro _
  apply Program.Ensures.ask (hbalanced.allows rfl)
  intro finish
  apply Program.Ensures.ask (hbalanced.allows rfl)
  intro _
  exact .done hbalanced

theorem reopen_counts (hbalanced : tally.Balanced) (type : RowType) :
    Counts tally (reopen type) := by
  apply Program.Ensures.ask (hbalanced.allows rfl)
  intro _
  exact openWith_counts hbalanced type

theorem refresh_counts (hbalanced : tally.Balanced) (stream : ActiveStream) :
    Counts tally (refresh stream) := by
  apply Program.Ensures.ask (hbalanced.allows rfl)
  intro report
  cases report with
  | none =>
    apply Program.Ensures.ask (hbalanced.allows rfl)
    intro ended
    cases ended with
    | true => exact reopen_counts hbalanced stream.type
    | false => exact .done hbalanced
  | some schema =>
    cases htype : rowTypeOf schema with
    | error error => simpa only [htype] using .done hbalanced
    | ok type =>
      simp only [htype]
      apply (closeHandle_counts hbalanced stream.handle).bind
      intro later _ hlater
      exact reopen_counts hlater type

/-- The rows are counted before the stream can say anything to them. -/
theorem submitTo_counts (hbalanced : tally.Balanced) (payload : Payload) (stream : ActiveStream) :
    Counts tally (submitTo payload stream) := by
  have hcounted : tally.counted ++ [(payload.validCount, payload.byteSize)] =
      tally.handed ++ [batchSize payload.rows] := by
    rw [hbalanced, payload.size_eq]
  apply Program.Ensures.ask (hbalanced.allows rfl)
  intro _
  apply Program.Ensures.ask fun _ => hcounted
  intro answer
  cases answer with
  | error error => exact .done hcounted
  | ok ticket => exact .done hcounted

theorem start_counts (hbalanced : tally.Balanced) (state : WriterState) :
    Counts tally (start state) := by
  cases state with
  | ready stream => exact .done hbalanced
  | broken type => exact .done hbalanced
  | closed type => exact .done hbalanced
  | uninitialized =>
    apply Program.Ensures.ask (hbalanced.allows rfl)
    intro answer
    cases answer with
    | error error => exact .done hbalanced
    | ok schema =>
      cases htype : rowTypeOf schema with
      | error error => simpa only [htype] using .done hbalanced
      | ok type =>
        simp only [htype]
        apply (openWith_counts hbalanced type).bind
        intro later opened hlater
        exact .done hlater

theorem submit_counts (hbalanced : tally.Balanced) (payload : Payload) (state : WriterState) :
    Counts tally (submit payload state) := by
  have hopened {steps : Steps (Except SinkError ActiveStream)} (hsteps : Counts tally steps)
      {next : Except SinkError ActiveStream → Steps (Except SinkError Submission)}
      (hfailed : ∀ error, next (.error error) = .done (.error error))
      (hready : ∀ stream, next (.ok stream) = submitTo payload stream) :
      Counts tally (steps.bind next) := by
    apply hsteps.bind
    intro later opened hlater
    cases opened with
    | error error =>
      rw [hfailed]
      exact .done hlater
    | ok stream =>
      rw [hready]
      exact submitTo_counts hlater payload stream
  cases state with
  | uninitialized => exact .done hbalanced
  | closed type => exact .done hbalanced
  | ready stream =>
    exact hopened (refresh_counts hbalanced stream) (fun _ => rfl) (fun _ => rfl)
  | broken type => exact hopened (reopen_counts hbalanced type) (fun _ => rfl) (fun _ => rfl)

theorem close_counts (hbalanced : tally.Balanced) (state : WriterState) :
    Counts tally (close state) := by
  have hfinal {later : Tally} (hlater : later.Balanced) (type : Option RowType) :
      Counts later (.ask (.keep (.closed type)) fun _ => .done ()) := by
    apply Program.Ensures.ask (hlater.allows rfl)
    intro _
    exact .done hlater
  cases state with
  | ready stream =>
    apply (closeHandle_counts hbalanced stream.handle).bind
    intro later _ hlater
    exact hfinal hlater _
  | broken type => exact hfinal hbalanced _
  | closed type => exact hfinal hbalanced _
  | uninitialized => exact hfinal hbalanced _

end Writer

/-- No section counts anything but what it hands over. -/
theorem WriterSection.steps_counts {tally : Tally} (hbalanced : tally.Balanced)
    (part : WriterSection) (state : WriterState) : Writer.Counts tally (part.steps state) :=
  match part with
  | .start => Writer.start_counts hbalanced state
  | .rowType => .done hbalanced
  | .submit payload => Writer.submit_counts hbalanced payload state
  | .close => Writer.close_counts hbalanced state

end Sections

section Tasks

/-- Outside of the sections of a writer no submission is counted. -/
abbrev CountsElsewhere {α : Type} (task : Task α) : Prop :=
  Program.Ensures (fun _ _ => ()) (fun _ call => call.submission? = none) (fun _ _ => True) () task

theorem Writer.append_countsElsewhere (payload : Payload) :
    CountsElsewhere (Writer.append payload) := by
  refine .ask rfl ?_
  intro answer
  cases answer with
  | error error => exact .done trivial
  | ok submission =>
    cases submission with
    | answered response => exact .done trivial
    | pending ticket =>
      refine .ask rfl ?_
      intro start
      refine .ask rfl ?_
      intro outcome
      refine .ask rfl ?_
      intro finish
      refine .ask rfl ?_
      intro _
      exact .done trivial

namespace Client

theorem recordFailures_countsElsewhere (counts : List (ErrorKind × Nat)) :
    CountsElsewhere (recordFailures counts) := by
  induction counts with
  | nil => exact .done trivial
  | cons entry rest ih =>
    obtain ⟨kind, count⟩ := entry
    refine .ask rfl ?_
    intro _
    exact ih

theorem deliver_countsElsewhere (client : Client) (payload : Payload) :
    CountsElsewhere (client.deliver payload) := by
  rw [deliver]
  split
  · exact .done trivial
  · apply (Writer.append_countsElsewhere payload).bind
    intro _ outcome _
    exact .done trivial

theorem push_countsElsewhere (client : Client) (batch : List InputMessage) :
    CountsElsewhere (client.push batch) := by
  rw [push]
  split
  · exact .done trivial
  · refine .ask rfl ?_
    intro answer
    cases answer with
    | error error => exact .done trivial
    | ok target =>
      refine .ask rfl ?_
      intro now
      apply (deliver_countsElsewhere client _).bind
      intro _ errors _
      apply (recordFailures_countsElsewhere _).bind
      intro _ _ _
      exact .done trivial

end Client

theorem Request.task_countsElsewhere (client : Client) :
    (request : Request) → CountsElsewhere (request.task client)
  | .start => .ask rfl fun _ => .done trivial
  | .push batch => client.push_countsElsewhere batch
  | .append payload => Writer.append_countsElsewhere payload
  | .close => .ask rfl fun _ => .done trivial

end Tasks

section Histories

/-- What happens is counted as what is handed over. -/
theorem Happening.counted_eq {happening : Happening} {writer : WriterState}
    (hfits : happening.Fits writer) (helsewhere : happening.call.submission? = none) :
    happening.observations.filterMap Observation.submission? =
      happening.handovers.map fun handover => batchSize handover.rows := by
  have hempty : Tally.Balanced {} := rfl
  cases hfits with
  | asked hown answer =>
    rename_i call
    cases call with
    | record observation =>
      have hnone : observation.submission? = none := helsewhere
      rw [observations, List.filterMap_cons_none hnone]
      rfl
    | perform part => exact absurd rfl (hown part)
    | _ => rfl
  | performed hruns =>
    have hbalanced := (WriterSection.steps_counts hempty _ writer).ends_of_runs hruns
    rwa [Tally.foldl_note, Tally.Balanced] at hbalanced
  | interrupted hreaches hwaits =>
    rename_i part events pending continuation
    have hcounted :=
      (WriterSection.steps_counts hempty part writer).allowed_of_reaches hreaches hwaits
    rw [Tally.foldl_note] at hcounted
    rw [observations, handovers, List.map_append]
    cases hrows : pending.rows? <;> simpa [hrows] using hcounted

/-- Whatever is counted belongs to a batch that is handed over at that point. -/
theorem World.counted_eq {client : Client} {world : World} (hreachable : world.Reachable client)
    {stretch : History} (hstretch : stretch <:+: world.history) :
    stretch.observations.filterMap Observation.submission? =
      stretch.handovers.map fun handover => batchSize handover.rows := by
  have htraced := traced_of_reachable hreachable
  rw [History.observations, History.handovers, List.filterMap_flatMap, List.map_flatMap]
  apply List.flatMap_congr
  intro entry hmem
  have hentry := hstretch.subset hmem
  obtain ⟨before, after, hhistory⟩ := List.mem_iff_append.mp hentry
  obtain ⟨state, hfits⟩ := htraced.valid.exists_fits hentry
  obtain ⟨request, rest, calls, next, -, -, hreaches⟩ :=
    htraced.called before entry.1 entry.2 after hhistory
  exact entry.2.counted_eq hfits
    ((request.task_countsElsewhere client).allowed_of_reaches hreaches)

/-- A counter of submissions adds up the part of each that it counts. -/
theorem Metrics.total_eq_sum {amount : Observation → Nat} {part : Nat × Nat → Nat}
    (hamount : ∀ observation : Observation,
      amount observation = (observation.submission?.map part).getD 0)
    (observations : List Observation) :
    Metrics.total amount observations =
      ((observations.filterMap Observation.submission?).map part).sum := by
  induction observations with
  | nil => rfl
  | cons observation rest ih =>
    rw [Metrics.total, ih, hamount]
    cases hsubmission : observation.submission? <;> simp [hsubmission]

/-- Every batch that was handed over had one of the three receptions. -/
theorem Handover.sum_eq (size : Handover → Nat) (handovers : List Handover) :
    (handovers.map size).sum =
      ((handovers.filter (·.reception = .accepted)).map size).sum +
        ((handovers.filter (·.reception = .refused)).map size).sum +
        ((handovers.filter (·.reception = .abandoned)).map size).sum := by
  induction handovers with
  | nil => rfl
  | cons handover rest ih =>
    rw [List.map_cons, List.sum_cons, ih]
    cases hreception : handover.reception <;> simp [hreception] <;> omega

namespace World

/-- What the counters of submissions tell. Over any stretch of what happens they grow by the rows,
and by the bytes in them, of all batches that are handed to a stream there, whether the stream
accepts or refuses them or the caller gives up before it answers. So the rows that they tell are the
accepted ones if and only if none was refused or given up, and a call that ends before it hands
anything over leaves them as they are. -/
theorem counters_exact {client : Client} {world : World} (hreachable : world.Reachable client)
    {stretch : History} (hstretch : stretch <:+: world.history) :
    Metrics.rowsSubmitted stretch.observations =
        stretch.rowsHanded .accepted + stretch.rowsHanded .refused +
          stretch.rowsHanded .abandoned ∧
      Metrics.bytesSubmitted stretch.observations =
        stretch.bytesHanded .accepted + stretch.bytesHanded .refused +
          stretch.bytesHanded .abandoned := by
  have hcounted := counted_eq hreachable hstretch
  constructor
  · have hrows (observation : Observation) :
        observation.rows = (observation.submission?.map Prod.fst).getD 0 := by
      cases observation <;> rfl
    rw [Metrics.rowsSubmitted, Metrics.total_eq_sum hrows, hcounted, List.map_map]
    exact Handover.sum_eq _ _
  · have hbytes (observation : Observation) :
        observation.bytes = (observation.submission?.map Prod.snd).getD 0 := by
      cases observation <;> rfl
    rw [Metrics.bytesSubmitted, Metrics.total_eq_sum hbytes, hcounted, List.map_map]
    exact Handover.sum_eq _ _

end World

end Histories

namespace RefusedBatch

open Writer

def schema : TableSchema := ⟨[{ name := "a", type := 1, mode := 1 }]⟩

def type : RowType := ⟨rootName, [⟨1, "a", .optional, .string⟩]⟩

def client : Client where
  parser _ := .error .emptyRecord
  config := {}
  retryableCodes := []

/-- A payload of one row. -/
def payload (row : Bytes) : Payload := Payload.empty.push 0 (.ok row)

def refusal : SinkError := .stream "append stream is closed"

/-- What a submission asks for before it hands its rows over. -/
def preparation (row : Bytes) : List StreamEvent :=
  [⟨.updatedSchema 0, none⟩, ⟨.isClosed 0, false⟩,
    ⟨.record (.submission (payload row).validCount (payload row).byteSize), ()⟩]

theorem runs_refused (row : Bytes) :
    ((WriterSection.submit (payload row)).steps (.ready ⟨type, 0⟩)).Runs
      (preparation row ++ [⟨.submit 0 (payload row).rows, Except.error refusal⟩])
      (Except.error refusal) :=
  .ask (.ask (.ask (.ask (.done _))))

theorem reaches_handover (row : Bytes) :
    ∃ continuation, ((WriterSection.submit (payload row)).steps (.ready ⟨type, 0⟩)).Reaches
      (preparation row) (.ask (.submit 0 (payload row).rows) continuation) :=
  ⟨_, .ask (.ask (.ask (.here _)))⟩

/-- Of three batches the stream accepts the first and refuses the second, and the third is given
up before the stream has answered. -/
theorem exists_world :
    ∃ world, World.Reachable client world ∧
      world.history.rowsHanded .accepted = 1 ∧ world.history.bytesHanded .accepted = 3 ∧
      world.history.rowsHanded .refused = 1 ∧ world.history.bytesHanded .refused = 2 ∧
      world.history.rowsHanded .abandoned = 1 ∧ world.history.bytesHanded .abandoned = 1 := by
  have hempty : World.Reachable client {} := .refl
  have hstarted := (hempty.tail (.begin _ .start)).tail
    (.perform 0 rfl (runs_start (rfl : rowTypeOf schema = .ok type) 0))
  have haccepted := (hstarted.tail (.begin _ (.append (payload [10, 1, 120])))).tail
    (.perform 1 rfl (runs_submit_fit (payload [10, 1, 120]) ⟨type, 0⟩ 0))
  have hrefused := (haccepted.tail (.begin _ (.append (payload [10, 0])))).tail
    (.perform 2 rfl (runs_refused [10, 0]))
  obtain ⟨continuation, hreaches⟩ := reaches_handover [10]
  have hgiven := (hrefused.tail (.begin _ (.append (payload [10])))).tail
    (.interrupt 3 rfl hreaches rfl)
  exact ⟨_, hgiven, rfl, rfl, rfl, rfl, rfl, rfl⟩

theorem counters_exact_of_world :
    ∃ world, World.Reachable client world ∧
      Metrics.rowsSubmitted world.history.observations = 3 ∧
      Metrics.bytesSubmitted world.history.observations = 6 := by
  obtain ⟨world, hreachable, hrows, hbytes, hrefusedRows, hrefusedBytes, hgivenRows, hgivenBytes⟩ :=
    exists_world
  obtain ⟨hcountedRows, hcountedBytes⟩ :=
    World.counters_exact hreachable (List.infix_refl world.history)
  refine ⟨world, hreachable, ?_, ?_⟩
  · rw [hcountedRows, hrows, hrefusedRows, hgivenRows]
  · rw [hcountedBytes, hbytes, hrefusedBytes, hgivenBytes]

/-- The rows that a stream refuses are counted, although they were not submitted to it. -/
theorem not_only_accepted_counted :
    ¬ ∀ (client : Client) (world : World), world.Reachable client →
      Metrics.rowsSubmitted world.history.observations = world.history.rowsHanded .accepted ∧
      Metrics.bytesSubmitted world.history.observations =
        world.history.bytesHanded .accepted := by
  intro hclaim
  have hempty : World.Reachable client {} := .refl
  have hstarted := (hempty.tail (.begin _ .start)).tail
    (.perform 0 rfl (runs_start (rfl : rowTypeOf schema = .ok type) 0))
  have hrefused := (hstarted.tail (.begin _ (.append (payload [10, 1, 120])))).tail
    (.perform 1 rfl (runs_refused [10, 1, 120]))
  obtain ⟨hrows, _⟩ := hclaim client _ hrefused
  contradiction

end RefusedBatch

end RowSink
