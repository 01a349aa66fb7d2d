import RowSink.Proofs.Stream.Exchanges

/-!
# The requests of one connection

The rows that are submitted over one connection go out in one request each, and only the first
request says to which stream they go and how to read them. Here the calls that submit rows are kept
with their results. A call that is refused leaves the connection as it was, so the next one still
sends what the first request has to say.
-/

namespace RowSink

open Protocol

section Requests

variable {table : TableName} {type : RowType}

/-- The request that opens the stream of a table. -/
def openingRequest (table : TableName) (type : RowType) (rows : List Bytes) : AppendRequest :=
  { writeStream := "projects/" ++ table.project ++ "/datasets/" ++ table.dataset ++ "/tables/" ++
      table.table ++ "/streams/_default"
    rows := some { writerSchema := some type.writerSchema, rows := some rows } }

def followingRequest (rows : List Bytes) : AppendRequest :=
  { rows := some { writerSchema := none, rows := some rows } }

/-- The requests for submissions that all go over one connection. -/
def requestsOf (table : TableName) (type : RowType) : List (List Bytes) → List AppendRequest
  | [] => []
  | first :: later => openingRequest table type first :: later.map followingRequest

/-- The request for rows after those that were submitted before. -/
def requestAfter (table : TableName) (type : RowType) (submissions : List (List Bytes))
    (rows : List Bytes) : AppendRequest :=
  if submissions.isEmpty then openingRequest table type rows else followingRequest rows

theorem requestsOf_concat (submissions : List (List Bytes)) (rows : List Bytes) :
    requestsOf table type (submissions ++ [rows]) =
      requestsOf table type submissions ++ [requestAfter table type submissions rows] := by
  cases submissions with
  | nil => rfl
  | cons first later =>
    simp only [List.cons_append, requestsOf, List.map_append, List.map_cons, List.map_nil]
    rfl

theorem filterMap_carried_requestsOf (submissions : List (List Bytes)) :
    (requestsOf table type submissions).filterMap AppendRequest.carried = submissions := by
  cases submissions with
  | nil => rfl
  | cons first later =>
    have hfollowing : AppendRequest.carried ∘ followingRequest = some := rfl
    have hopening : (openingRequest table type first).carried = some first := rfl
    rw [requestsOf, List.filterMap_cons_some hopening, List.filterMap_map, hfollowing,
      List.filterMap_some]

theorem length_requestsOf (submissions : List (List Bytes)) :
    (requestsOf table type submissions).length = submissions.length := by
  cases submissions with
  | nil => rfl
  | cons first later => simp only [requestsOf, List.length_cons, List.length_map]

end Requests

section Refusals

variable {connection : Connection} {ticket : Nat} {rows : List Bytes}

theorem checkRowSizes_eq_ok_iff :
    checkRowSizes rows = .ok () ↔ ∀ row ∈ rows, row.length ≤ maxRowBytes := by
  have hnone : oversizedRows rows = [] ↔ ∀ row ∈ rows, row.length ≤ maxRowBytes := by
    simp only [oversizedRows, List.filterMap_eq_nil_iff, Prod.forall, ite_eq_right_iff,
      reduceCtorEq, imp_false, Nat.not_lt, List.mem_zipIdx_iff_getElem?]
    constructor
    · intro hfit row hrow
      obtain ⟨index, hindex⟩ := List.getElem?_of_mem hrow
      exact hfit row index hindex
    · exact fun hfit row index hindex => hfit row (List.mem_of_getElem? hindex)
  rw [← hnone, checkRowSizes]
  cases oversizedRows rows with
  | nil => exact iff_of_true rfl rfl
  | cons first rest => exact iff_of_false nofun nofun

/-- Rows that a connection takes: none is too large, nobody closed the connection and the call goes
on. -/
structure Connection.Admits (connection : Connection) (rows : List Bytes) : Prop where
  fit : ∀ row ∈ rows, row.length ≤ maxRowBytes
  sending : connection.sending = true
  going : connection.terminated = none

theorem Connection.Admits.register_eq (hadmits : connection.Admits rows) :
    connection.register ticket rows =
      .ok ({ connection with pending := connection.pending ++ [ticket], atFirst := false },
        connection.nextRequest rows) := by
  obtain ⟨hfit, hsending, hgoing⟩ := hadmits
  simp only [register, checkRowSizes_eq_ok_iff.mpr hfit, if_pos hsending, hgoing]

theorem Connection.admits_of_register {taken : Connection × AppendRequest}
    (hregister : connection.register ticket rows = .ok taken) : connection.Admits rows := by
  obtain ⟨hgoing, _⟩ := register_eq_ok hregister
  simp only [register] at hregister
  cases hsizes : checkRowSizes rows with
  | error error => simp only [hsizes, reduceCtorEq] at hregister
  | ok _ =>
    refine ⟨checkRowSizes_eq_ok_iff.mp hsizes, ?_, hgoing⟩
    by_contra hclosed
    simp only [hsizes, if_neg hclosed, reduceCtorEq] at hregister

theorem Connection.exists_register_eq_error_iff (ticket : Nat) :
    (∃ error, connection.register ticket rows = .error error) ↔ ¬ connection.Admits rows := by
  constructor
  · rintro ⟨error, herror⟩ hadmits
    rw [hadmits.register_eq] at herror
    contradiction
  · intro hrefused
    cases hregister : connection.register ticket rows with
    | error error => exact ⟨error, rfl⟩
    | ok taken => exact absurd (admits_of_register hregister) hrefused

theorem Connection.not_admits_iff :
    ¬ connection.Admits rows ↔ (∃ row ∈ rows, maxRowBytes < row.length) ∨
      connection.sending = false ∨ connection.terminated.isSome := by
  constructor
  · intro hrefused
    by_contra hnone
    simp only [not_or, not_exists, not_and, Nat.not_lt, Bool.not_eq_false, Bool.not_eq_true,
      Option.isSome_eq_false_iff, Option.isNone_iff_eq_none] at hnone
    exact hrefused ⟨hnone.1, hnone.2.1, hnone.2.2⟩
  · rintro (⟨row, hrow, hlarge⟩ | hclosed | hended) hadmits
    · exact absurd (hadmits.fit row hrow) (Nat.not_le.mpr hlarge)
    · exact absurd (hclosed.symm.trans hadmits.sending) Bool.false_ne_true
    · rw [hadmits.going] at hended
      contradiction

/-- A submission that takes no place leaves the connection as it was. -/
theorem Connection.submit_of_register {error : SinkError}
    (hregister : connection.register ticket rows = .error error) :
    connection.submit ticket rows = (connection, .error error) := by
  simp only [submit, hregister]

theorem Connection.Admits.submit_eq (hadmits : connection.Admits rows)
    (hreceiving : connection.receiving = true) :
    connection.submit ticket rows =
      ({ connection with
          pending := connection.pending ++ [ticket]
          atFirst := false
          queue := connection.queue ++ [connection.nextRequest rows] }, .ok ()) := by
  simp only [submit, hadmits.register_eq, send, hreceiving, if_true]

theorem Connection.Admits.submit_eq_error (hadmits : connection.Admits rows)
    (hreceiving : connection.receiving = false) :
    connection.submit ticket rows =
      ({ connection with pending := connection.pending ++ [ticket], atFirst := false },
        .error (.stream "failed to submit rows: channel closed")) := by
  simp only [submit, hadmits.register_eq, send, hreceiving, Bool.false_eq_true, if_false]

end Refusals

namespace Exchange

/-- The rows that a call submits and its result. -/
abbrev Attempt := List Bytes × Except SinkError Unit

def accepted (attempts : List Attempt) : List (List Bytes) :=
  (attempts.filter fun attempt => attempt.2.isOk).map Prod.fst

/-- The calls that submitted rows on the way to an exchange, in the order in which they ended. -/
inductive Attempted (table : TableName) (type : RowType) (capacity : Nat) :
    Exchange → List Attempt → Prop where
  | start : Attempted table type capacity (start table type capacity) []
  /-- A call that takes no place among the submissions. -/
  | refuse {exchange : Exchange} {attempts : List Attempt} {rows : List Bytes} {error : SinkError}
      (hattempted : Attempted table type capacity exchange attempts)
      (hfree : ∀ ticket request, exchange.occupation ≠ .sending ticket request)
      (hrefused : exchange.connection.register exchange.submissions.length rows = .error error) :
      Attempted table type capacity
        { exchange with
          connection := (exchange.connection.submit exchange.submissions.length rows).1 }
        (attempts ++ [(rows, .error error)])
  /-- The call whose submission waited for room comes to its end. -/
  | finish {exchange later : Exchange} {attempts : List Attempt} {ticket : Nat}
      {request : AppendRequest} {rows : List Bytes}
      (hattempted : Attempted table type capacity exchange attempts)
      (hsending : exchange.occupation = .sending ticket request)
      (hrows : exchange.submissions[ticket]? = some rows) (hstep : Step exchange later)
      (hidle : later.occupation = .idle) :
      Attempted table type capacity later
        (attempts ++ [(rows, (exchange.connection.send request).map fun _ => ())])
  | other {exchange later : Exchange} {attempts : List Attempt}
      (hattempted : Attempted table type capacity exchange attempts)
      (hstep : Step exchange later)
      (hkept : ∀ ticket request, exchange.occupation = .sending ticket request →
        later.occupation = .sending ticket request) :
      Attempted table type capacity later attempts

section Attempts

theorem accepted_concat_ok (attempts : List Attempt) (rows : List Bytes) :
    accepted (attempts ++ [(rows, .ok ())]) = accepted attempts ++ [rows] := by
  simp [accepted, Except.isOk, Except.toBool]

theorem accepted_concat_error (attempts : List Attempt) (rows : List Bytes) (error : SinkError) :
    accepted (attempts ++ [(rows, .error error)]) = accepted attempts := by
  simp [accepted, Except.isOk, Except.toBool]

end Attempts

section Steps

variable {exchange later : Exchange} {ticket : Nat} {request : AppendRequest}

/-- A submission that waited for room ends by sending its request, or because nobody receives. -/
theorem Step.of_finish (hsending : exchange.occupation = .sending ticket request)
    (hstep : Step exchange later) (hidle : later.occupation = .idle) :
    (∃ connection, exchange.connection.send request = .ok connection ∧
      later =
        { exchange with
          connection
          occupation := .idle
          sent := exchange.sent ++ [(ticket, request)] }) ∨
    (∃ error, exchange.connection.send request = .error error ∧
      later = { exchange with occupation := .idle }) := by
  cases hstep with
  | send hsame hroom hsend =>
    obtain ⟨rfl, rfl⟩ := Occupation.sending.inj (hsending.symm.trans hsame)
    exact .inl ⟨_, hsend, rfl⟩
  | misfire hsame hsend =>
    obtain ⟨rfl, rfl⟩ := Occupation.sending.inj (hsending.symm.trans hsame)
    exact .inr ⟨_, hsend, rfl⟩
  | register hother | hangUp hother => exact nomatch hsending.symm.trans hother
  | receive | stopReceiving | read | finish | leave => exact nomatch hsending.symm.trans hidle
  | close | expire => exact nomatch hidle

theorem Step.of_sending (hsending : exchange.occupation = .sending ticket request)
    (hstep : Step exchange later) :
    later.occupation = .idle ∨ later.occupation = .sending ticket request := by
  cases hstep with
  | send | misfire => exact .inl rfl
  | receive | stopReceiving | read | finish | leave => exact .inr hsending
  | register hother | hangUp hother | close hother | expire hother =>
    exact nomatch hsending.symm.trans hother

/-- Until the submission that waits for room ends, nothing is sent. -/
theorem Step.of_kept (hstep : Step exchange later)
    (hkept : ∀ ticket request, exchange.occupation = .sending ticket request →
      later.occupation = .sending ticket request) :
    later.sent = exchange.sent ∧ exchange.submissions <+: later.submissions := by
  cases hstep with
  | send hsending | misfire hsending => exact nomatch hkept _ _ hsending
  | register => exact ⟨rfl, List.prefix_append _ _⟩
  | receive | stopReceiving | read | finish | leave | hangUp | close | expire =>
    exact ⟨rfl, List.prefix_refl _⟩

end Steps

/-- The requests that were sent are those for the first submissions, and while requests are received
the one that waits for room is the next of them. -/
structure Headed (table : TableName) (type : RowType) (exchange : Exchange) : Prop where
  streamName : exchange.connection.streamName = table.defaultStream
  writerSchema : exchange.connection.writerSchema = type.writerSchema
  atFirst : exchange.connection.atFirst = exchange.submissions.isEmpty
  sent : exchange.sent.map Prod.snd =
    requestsOf table type (exchange.submissions.take exchange.sent.length)
  whole : exchange.connection.receiving = true →
    (exchange.sent ++ exchange.waiting).map Prod.snd = requestsOf table type exchange.submissions
  queue : exchange.connection.queue = (exchange.sent.map Prod.snd).drop exchange.received

section Heads

variable {table : TableName} {type : RowType} {exchange later : Exchange}

theorem headed_start (table : TableName) (type : RowType) (capacity : Nat) :
    Headed table type (start table type capacity) :=
  ⟨rfl, rfl, rfl, rfl, fun _ => rfl, rfl⟩

theorem Headed.nextRequest_eq (hheaded : Headed table type exchange) (rows : List Bytes) :
    exchange.connection.nextRequest rows = requestAfter table type exchange.submissions rows := by
  rw [Connection.nextRequest, hheaded.atFirst, hheaded.streamName, hheaded.writerSchema]
  rfl

theorem Headed.length_sent_le (hheaded : Headed table type exchange) :
    exchange.sent.length ≤ exchange.submissions.length := by
  have hsent := congrArg List.length hheaded.sent
  rw [List.length_map, length_requestsOf, List.length_take] at hsent
  omega

/-- While requests are received, every submission sent its request or waits for room. -/
theorem Headed.length_eq (hheaded : Headed table type exchange)
    (hreceiving : exchange.connection.receiving = true) :
    (exchange.sent ++ exchange.waiting).length = exchange.submissions.length := by
  have hlength := congrArg List.length (hheaded.whole hreceiving)
  rwa [List.length_map, length_requestsOf] at hlength

/-- A step that keeps what was sent and what waits. -/
theorem Headed.keep (hheaded : Headed table type exchange)
    (hconnection : later.connection.streamName = exchange.connection.streamName ∧
      later.connection.writerSchema = exchange.connection.writerSchema ∧
      later.connection.atFirst = exchange.connection.atFirst)
    (hsent : later.sent = exchange.sent) (hsubmissions : later.submissions = exchange.submissions)
    (hwaiting : later.connection.receiving = true →
      exchange.connection.receiving = true ∧ later.waiting = exchange.waiting)
    (hqueue : later.connection.queue = (exchange.sent.map Prod.snd).drop later.received) :
    Headed table type later where
  streamName := hconnection.1.trans hheaded.streamName
  writerSchema := hconnection.2.1.trans hheaded.writerSchema
  atFirst := by rw [hconnection.2.2, hheaded.atFirst, hsubmissions]
  sent := by rw [hsent, hsubmissions, hheaded.sent]
  whole hlater := by
    obtain ⟨hreceiving, hsame⟩ := hwaiting hlater
    rw [hsent, hsame, hsubmissions, hheaded.whole hreceiving]
  queue := by rw [hqueue, hsent]

theorem Headed.step (hqueued : exchange.Queued) (hheaded : Headed table type exchange)
    (hstep : Step exchange later) : Headed table type later := by
  cases hstep with
  | register hidle hregister =>
    have hadmits := Connection.admits_of_register hregister
    obtain ⟨rfl, rfl⟩ := Prod.mk.inj (Except.ok.inj (hadmits.register_eq.symm.trans hregister))
    have hbefore : exchange.waiting = [] := waiting_eq_nil (by simp [hidle])
    refine ⟨hheaded.streamName, hheaded.writerSchema, ?_, ?_, fun hreceiving => ?_, hheaded.queue⟩
    · simp
    · rw [List.take_append_of_le_length hheaded.length_sent_le]
      exact hheaded.sent
    · have hwhole := hheaded.whole hreceiving
      rw [hbefore, List.append_nil] at hwhole
      simp only [waiting, List.map_append, List.map_cons, List.map_nil, hwhole, requestsOf_concat,
        hheaded.nextRequest_eq]
  | send hsending hroom hsend =>
    obtain ⟨hreceiving, rfl⟩ := Connection.send_eq_ok hsend
    have hwhole := hheaded.whole hreceiving
    have hlength := hheaded.length_eq hreceiving
    rw [waiting_eq_singleton hsending] at hwhole hlength
    refine ⟨hheaded.streamName, hheaded.writerSchema, hheaded.atFirst, ?_, fun _ => ?_, ?_⟩
    · rw [hlength, List.take_length, hwhole]
    · simpa only [waiting, List.append_nil] using hwhole
    · have hreceived := hqueued.received_add
      have hle : exchange.received ≤ (exchange.sent.map Prod.snd).length := by
        rw [List.length_map]
        omega
      rw [List.map_append, List.drop_append_of_le_length hle, hheaded.queue]
      rfl
  | misfire hsending hsend =>
    refine hheaded.keep ⟨rfl, rfl, rfl⟩ rfl rfl (fun hreceiving => ?_) hheaded.queue
    cases hreceiving.symm.trans (Connection.send_eq_error hsend)
  | receive hreceiving hqueue =>
    refine hheaded.keep ⟨rfl, rfl, rfl⟩ rfl rfl (fun hreceiving => ⟨hreceiving, rfl⟩) ?_
    rw [← List.tail_drop, ← hheaded.queue, hqueue, List.tail_cons]
  | read hreading response =>
    simp only [Connection.complete_fst]
    exact hheaded.keep ⟨rfl, rfl, rfl⟩ rfl rfl (fun hreceiving => ⟨hreceiving, rfl⟩) hheaded.queue
  | stopReceiving =>
    refine hheaded.keep ⟨rfl, rfl, rfl⟩ rfl rfl (fun hreceiving => ?_) hheaded.queue
    cases hreceiving
  | hangUp hidle =>
    exact hheaded.keep ⟨rfl, rfl, rfl⟩ rfl rfl
      (fun hreceiving => ⟨hreceiving, (waiting_eq_nil (by simp [hidle])).symm⟩) hheaded.queue
  | close hclosing | expire hclosing =>
    exact hheaded.keep ⟨rfl, rfl, rfl⟩ rfl rfl
      (fun hreceiving => ⟨hreceiving, (waiting_eq_nil (by simp [hclosing])).symm⟩) hheaded.queue
  | finish | leave =>
    exact hheaded.keep ⟨rfl, rfl, rfl⟩ rfl rfl (fun hreceiving => ⟨hreceiving, rfl⟩) hheaded.queue

end Heads

/-- The calls that were accepted are the first submissions, as many as sent their requests. -/
structure Recorded (table : TableName) (type : RowType) (exchange : Exchange)
    (attempts : List Attempt) : Prop where
  reachable : Reachable Step exchange
  headed : Headed table type exchange
  take_eq : exchange.submissions.take exchange.sent.length = accepted attempts

section Records

variable {table : TableName} {type : RowType} {capacity : Nat} {exchange later : Exchange}
  {attempts : List Attempt}

theorem Reachable.tail (hreachable : Reachable Step exchange) (hstep : Step exchange later) :
    Reachable Step later := by
  obtain ⟨table, type, capacity, hsteps⟩ := hreachable
  exact ⟨table, type, capacity, hsteps.tail hstep⟩

theorem Recorded.finish (hrecorded : Recorded table type exchange attempts) {ticket : Nat}
    {request : AppendRequest} {rows : List Bytes}
    (hsending : exchange.occupation = .sending ticket request)
    (hrows : exchange.submissions[ticket]? = some rows) (hstep : Step exchange later)
    (hidle : later.occupation = .idle) :
    later.submissions.take later.sent.length =
      accepted (attempts ++ [(rows, (exchange.connection.send request).map fun _ => ())]) := by
  obtain ⟨hreachable, hheaded, htake⟩ := hrecorded
  obtain ⟨connection, hsend, rfl⟩ | ⟨error, hsend, rfl⟩ := hstep.of_finish hsending hidle
  · have hlast := hreachable.loosen.queued.waiting_last _ _ hsending
    have hlength := hheaded.length_eq (Connection.send_eq_ok hsend).1
    rw [waiting_eq_singleton hsending, List.length_append, List.length_singleton] at hlength
    obtain rfl : ticket = exchange.sent.length := by omega
    rw [hsend, Except.map, accepted_concat_ok, List.length_append, List.length_singleton,
      List.take_add_one, htake, hrows, Option.toList_some]
  · rw [hsend, Except.map, accepted_concat_error, htake]

theorem Attempted.recorded (hattempted : Attempted table type capacity exchange attempts) :
    Recorded table type exchange attempts := by
  induction hattempted with
  | start => exact ⟨⟨_, _, _, .refl⟩, headed_start _ _ _, rfl⟩
  | refuse _ _ hrefused ih =>
    rw [Connection.submit_of_register hrefused]
    exact ⟨ih.reachable, ih.headed, by rw [accepted_concat_error, ih.take_eq]⟩
  | finish _ hsending hrows hstep hidle ih =>
    refine ⟨ih.reachable.tail hstep, ih.headed.step ih.reachable.loosen.queued hstep, ?_⟩
    exact ih.finish hsending hrows hstep hidle
  | other _ hstep hkept ih =>
    refine ⟨ih.reachable.tail hstep, ih.headed.step ih.reachable.loosen.queued hstep, ?_⟩
    obtain ⟨hsent, rest, hrest⟩ := hstep.of_kept hkept
    rw [hsent, ← hrest, List.take_append_of_le_length ih.headed.length_sent_le, ih.take_eq]

/-- While requests are received, the submissions are those that were accepted and the one that waits
for room. -/
theorem Recorded.submissions_eq (hrecorded : Recorded table type exchange attempts)
    (hreceiving : exchange.connection.receiving = true) :
    exchange.submissions = accepted attempts ++
      (exchange.waiting.map Prod.snd).filterMap AppendRequest.carried := by
  obtain ⟨_, hheaded, htake⟩ := hrecorded
  calc exchange.submissions
      = ((exchange.sent ++ exchange.waiting).map Prod.snd).filterMap AppendRequest.carried := by
        rw [hheaded.whole hreceiving, filterMap_carried_requestsOf]
    _ = (exchange.sent.map Prod.snd).filterMap AppendRequest.carried ++
          (exchange.waiting.map Prod.snd).filterMap AppendRequest.carried := by
        rw [List.map_append, List.filterMap_append]
    _ = _ := by rw [hheaded.sent, filterMap_carried_requestsOf, htake]

/-- Every way of using a connection has its calls. -/
theorem Reachable.exists_attempted (hreachable : Reachable Step exchange) :
    ∃ table type capacity attempts, Attempted table type capacity exchange attempts := by
  apply hreachable.preserve (motive := fun exchange =>
    ∃ table type capacity attempts, Attempted table type capacity exchange attempts)
  · exact fun table type capacity => ⟨table, type, capacity, [], .start⟩
  · rintro exchange later hstep ⟨table, type, capacity, attempts, hattempted⟩
    by_cases hends : ∃ ticket request, exchange.occupation = .sending ticket request ∧
        later.occupation = .idle
    · obtain ⟨ticket, request, hsending, hidle⟩ := hends
      have hlast := hattempted.recorded.reachable.loosen.queued.waiting_last _ _ hsending
      have hrows := List.getElem?_eq_getElem (show ticket < exchange.submissions.length by omega)
      exact ⟨table, type, capacity, _, hattempted.finish hsending hrows hstep hidle⟩
    · refine ⟨table, type, capacity, attempts, hattempted.other hstep ?_⟩
      intro ticket request hsending
      refine (hstep.of_sending hsending).resolve_left fun hidle => ?_
      exact hends ⟨ticket, request, hsending, hidle⟩

/-- The requests that were sent are those for the rows of the accepted calls, in their order. A call
is refused if a row is too large, if the connection is closed or if the call to the service ended,
and it then changes nothing. A call is refused as well if nobody receives requests any more. Nothing
is sent then, but the submission keeps its place and the first request is taken to be out. -/
theorem requests_of_attempts (hattempted : Attempted table type capacity exchange attempts) :
    exchange.sent.map Prod.snd = requestsOf table type (accepted attempts) ∧
    exchange.connection.queue =
      (requestsOf table type (accepted attempts)).drop exchange.received ∧
    exchange.resolutions.map Prod.fst ++ exchange.connection.pending =
      List.range exchange.submissions.length ∧
    (exchange.connection.receiving = true →
      exchange.submissions = accepted attempts ++
        (exchange.waiting.map Prod.snd).filterMap AppendRequest.carried) ∧
    exchange.connection.atFirst = exchange.submissions.isEmpty ∧
    ∀ ticket rows,
      ((∃ row ∈ rows, maxRowBytes < row.length) ∨ exchange.connection.sending = false ∨
          exchange.connection.terminated.isSome →
        ∃ error, exchange.connection.submit ticket rows = (exchange.connection, .error error)) ∧
      (exchange.connection.Admits rows → exchange.connection.receiving = true →
        exchange.connection.submit ticket rows =
          ({ exchange.connection with
              pending := exchange.connection.pending ++ [ticket]
              atFirst := false
              queue := exchange.connection.queue ++
                [requestAfter table type exchange.submissions rows] }, .ok ())) ∧
      (exchange.connection.Admits rows → exchange.connection.receiving = false →
        exchange.connection.submit ticket rows =
          ({ exchange.connection with
              pending := exchange.connection.pending ++ [ticket]
              atFirst := false }, .error (.stream "failed to submit rows: channel closed"))) := by
  have hrecorded := hattempted.recorded
  have hheaded := hrecorded.headed
  have hsent : exchange.sent.map Prod.snd = requestsOf table type (accepted attempts) := by
    rw [hheaded.sent, hrecorded.take_eq]
  refine ⟨hsent, hsent ▸ hheaded.queue, hrecorded.reachable.loosen.matched.map_fst_append,
    hrecorded.submissions_eq, hheaded.atFirst, fun ticket rows => ⟨?refused, ?taken, ?lost⟩⟩
  case refused =>
    intro hreason
    obtain ⟨error, herror⟩ := (Connection.exists_register_eq_error_iff ticket).mpr
      (Connection.not_admits_iff.mpr hreason)
    exact ⟨error, Connection.submit_of_register herror⟩
  case taken =>
    intro hadmits hreceiving
    rw [hadmits.submit_eq hreceiving, hheaded.nextRequest_eq]
  case lost => exact fun hadmits => hadmits.submit_eq_error

end Records

end Exchange

namespace RefusedRows

open Exchange

def table : TableName := ⟨"p", "d", "t"⟩

def type : RowType := ⟨"__ROOT__", []⟩

def large : List Bytes := [List.replicate (maxRowBytes + 1) 0]

/-- The first of four calls has too large a row, and the last one comes after the end of the call to
the service. -/
theorem exists_attempted :
    ∃ exchange attempts, Attempted table type 2 exchange attempts ∧
      accepted attempts = [[], [[1]]] ∧ attempts.length = 4 ∧ exchange.received = 1 ∧
      exchange.connection.terminated.isSome := by
  have hlarge : ¬ (Connection.ofType table type 2).Admits large := by
    refine Connection.not_admits_iff.mpr (.inl ⟨_, List.mem_singleton_self _, ?_⟩)
    rw [List.length_replicate]
    exact Nat.lt_succ_self maxRowBytes
  obtain ⟨error, herror⟩ := (Connection.exists_register_eq_error_iff 0).mpr hlarge
  have hrefused : Attempted table type 2 (start table type 2) [(large, .error error)] := by
    have hafter := @Attempted.refuse table type 2 _ [] large error .start nofun herror
    have hsame : (start table type 2).connection.submit 0 large =
        ((start table type 2).connection, .error error) := Connection.submit_of_register herror
    rwa [show (start table type 2).submissions.length = 0 from rfl, hsame] at hafter
  have hfirst := (hrefused.other (@Step.register _ [] _ _ rfl rfl) nofun).finish rfl rfl
    (.send rfl rfl rfl) rfl
  have hsecond := (hfirst.other (@Step.register _ [[1]] _ _ rfl rfl) nofun).finish rfl rfl
    (.send rfl rfl rfl) rfl
  have hended := (hsecond.other (.receive rfl rfl) nofun).other
    (.finish rfl Connection.endedStatus) nofun
  have hlast := hended.refuse nofun (show Connection.register _ _ [] = .error _ from rfl)
  exact ⟨_, _, hlast, rfl, rfl, rfl, rfl⟩

theorem requests_of_attempts_of_exchange :
    ∃ exchange attempts, Attempted table type 2 exchange attempts ∧ attempts.length = 4 ∧
      exchange.sent.map Prod.snd = [openingRequest table type [], followingRequest [[1]]] ∧
      exchange.connection.queue = [followingRequest [[1]]] ∧
      ∃ error, exchange.connection.submit 2 [] = (exchange.connection, .error error) := by
  obtain ⟨exchange, attempts, hattempted, haccepted, hlength, hreceived, hended⟩ :=
    exists_attempted
  obtain ⟨hsent, hqueue, _, _, _, hcalls⟩ := requests_of_attempts hattempted
  rw [haccepted] at hsent hqueue
  rw [hreceived] at hqueue
  exact ⟨exchange, attempts, hattempted, hlength, hsent, hqueue,
    (hcalls 2 []).1 (.inr (.inr hended))⟩

end RefusedRows

end RowSink
