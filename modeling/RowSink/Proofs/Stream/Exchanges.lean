import Mathlib.Data.List.Induction
import RowSink.Stream.Exchange

/-!
# Invariants of a connection in use

Each section states one law of an exchange, shows that every step keeps it, and concludes for all
exchanges that can be reached: answers go to the first submissions in their order, requests are sent
in that order too, every submission sends its request while somebody receives, and closing leaves a
call that has ended.
-/

namespace RowSink

open Protocol

/-- The rows that a request carries. -/
def Protocol.AppendRequest.carried (request : AppendRequest) : Option (List Bytes) :=
  request.rows.bind RowData.rows

namespace Connection

variable {connection registered : Connection} {ticket : Nat} {rows : List Bytes}
  {request : AppendRequest}

theorem carried_nextRequest (connection : Connection) (rows : List Bytes) :
    (connection.nextRequest rows).carried = some rows := by
  rw [nextRequest]
  split <;> rfl

theorem register_eq_ok (hregister : connection.register ticket rows = .ok (registered, request)) :
    connection.terminated = none ∧ request.carried = some rows ∧
      registered =
        { connection with pending := connection.pending ++ [ticket], atFirst := false } := by
  simp only [register] at hregister
  split at hregister
  · contradiction
  · split at hregister
    · split at hregister
      · contradiction
      · rename_i hterminated
        obtain ⟨rfl, rfl⟩ := Prod.mk.inj (Except.ok.inj hregister)
        exact ⟨hterminated, carried_nextRequest connection rows, rfl⟩
    · contradiction

/-- After the end of the call no submission takes a place. -/
theorem exists_register_eq_error (hterminated : connection.terminated.isSome) (ticket : Nat)
    (rows : List Bytes) : ∃ error, connection.register ticket rows = .error error := by
  cases hregister : connection.register ticket rows with
  | error error => exact ⟨error, rfl⟩
  | ok taken =>
    obtain ⟨registered, request⟩ := taken
    obtain ⟨hgoing, _⟩ := register_eq_ok hregister
    rw [hgoing] at hterminated
    contradiction

theorem send_eq_ok {later : Connection} (hsend : connection.send request = .ok later) :
    connection.receiving = true ∧
      later = { connection with queue := connection.queue ++ [request] } := by
  simp only [send] at hsend
  split at hsend
  · rename_i hreceiving
    exact ⟨hreceiving, (Except.ok.inj hsend).symm⟩
  · contradiction

theorem send_eq_error {error : SinkError} (hsend : connection.send request = .error error) :
    connection.receiving = false := by
  simp only [send] at hsend
  split at hsend
  · contradiction
  · rename_i hreceiving
    exact Bool.eq_false_iff.mpr hreceiving

theorem complete_of_nil (hpending : connection.pending = []) (response : AppendResponse) :
    connection.complete response =
      ({ connection with
          updatedSchema := reportedSchema connection.updatedSchema response }, []) := by
  simp only [complete, hpending]

theorem complete_of_cons {rest : List Nat} (hpending : connection.pending = ticket :: rest)
    (response : AppendResponse) :
    connection.complete response =
      ({ connection with
          updatedSchema := reportedSchema connection.updatedSchema response
          pending := rest }, [(ticket, .ok response)]) := by
  simp only [complete, hpending]

/-- A response changes nothing but the schema that is known and who waits. -/
theorem complete_fst (connection : Connection) (response : AppendResponse) :
    (connection.complete response).1 =
      { connection with
        updatedSchema := reportedSchema connection.updatedSchema response
        pending := connection.pending.tail } := by
  cases hpending : connection.pending with
  | nil => rw [complete_of_nil hpending, List.tail_nil, ← hpending]
  | cons ticket rest => rw [complete_of_cons hpending, List.tail_cons]

/-- After the end of the call a submission fails and leaves everything as it was. -/
theorem exists_submit_eq_error (hterminated : connection.terminated.isSome) (ticket : Nat)
    (rows : List Bytes) :
    ∃ error, connection.submit ticket rows = (connection, .error error) := by
  obtain ⟨error, herror⟩ := exists_register_eq_error hterminated ticket rows
  refine ⟨error, ?_⟩
  simp only [submit, herror]

end Connection

namespace Exchange

/-- Each answer goes to the submission at its position. -/
def deliveries (answers : List AppendResponse) : List Resolution :=
  answers.zipIdx.map fun (response, ticket) => (ticket, .ok response)

def failures (status : Status) (tickets : List Nat) : List Resolution :=
  tickets.map fun ticket => (ticket, .error (.call status))

/-- The tickets of the submissions after the first ones. -/
def ticketsFrom (exchange : Exchange) (first : Nat) : List Nat :=
  List.range' first (exchange.submissions.length - first)

/-- Answers went to the first submissions, and all later ones still wait or failed with the end of
the call. -/
structure Matched (exchange : Exchange) (answers : List AppendResponse) : Prop where
  length_le : answers.length ≤ exchange.submissions.length
  sublist : answers.Sublist exchange.responses
  going : exchange.connection.terminated = none →
    exchange.resolutions = deliveries answers ∧
      exchange.connection.pending = exchange.ticketsFrom answers.length
  ended : ∀ status, exchange.connection.terminated = some status →
    exchange.resolutions =
      deliveries answers ++ failures status (exchange.ticketsFrom answers.length) ∧
      exchange.connection.pending = []

section Deliveries

theorem deliveries_concat (answers : List AppendResponse) (response : AppendResponse) :
    deliveries (answers ++ [response]) =
      deliveries answers ++ [(answers.length, .ok response)] := by
  simp [deliveries, List.zipIdx_append]

theorem mem_failures_iff {status : Status} {tickets : List Nat} {ticket : Nat}
    {outcome : AppendOutcome} :
    (ticket, outcome) ∈ failures status tickets ↔
      ticket ∈ tickets ∧ outcome = .error (.call status) := by
  simp only [failures, List.mem_map, Prod.mk.injEq]
  constructor
  · rintro ⟨_, hticket, rfl, rfl⟩
    exact ⟨hticket, rfl⟩
  · rintro ⟨hticket, rfl⟩
    exact ⟨ticket, hticket, rfl, rfl⟩

theorem map_fst_failures (status : Status) (tickets : List Nat) :
    (failures status tickets).map Prod.fst = tickets := by
  simp [failures, Function.comp_def]

theorem mem_deliveries_iff {answers : List AppendResponse} {ticket : Nat}
    {outcome : AppendOutcome} :
    (ticket, outcome) ∈ deliveries answers ↔
      ∃ response, answers[ticket]? = some response ∧ outcome = .ok response := by
  simp only [deliveries, List.mem_map, Prod.exists, List.mem_zipIdx_iff_getElem?, Prod.mk.injEq]
  constructor
  · rintro ⟨response, _, hresponse, rfl, rfl⟩
    exact ⟨response, hresponse, rfl⟩
  · rintro ⟨response, hresponse, rfl⟩
    exact ⟨response, ticket, hresponse, rfl, rfl⟩

theorem map_fst_deliveries (answers : List AppendResponse) :
    (deliveries answers).map Prod.fst = List.range answers.length := by
  induction answers using List.reverseRecOn with
  | nil => rfl
  | append_singleton answers response ih =>
    rw [deliveries_concat, List.map_append, ih]
    simp [List.range_succ]

theorem filterMap_deliveries (answers : List AppendResponse) :
    (deliveries answers).filterMap (fun resolution => resolution.2.toOption) = answers := by
  induction answers using List.reverseRecOn with
  | nil => rfl
  | append_singleton answers response ih =>
    rw [deliveries_concat, List.filterMap_append, ih]
    rfl

theorem filterMap_failures (status : Status) (tickets : List Nat) :
    (failures status tickets).filterMap (fun resolution => resolution.2.toOption) = [] := by
  simp [failures, Except.toOption]

end Deliveries

section Matching

variable {exchange later : Exchange} {answers : List AppendResponse}

theorem Matched.answers_eq (hmatched : exchange.Matched answers) : exchange.answers = answers := by
  cases hterminated : exchange.connection.terminated with
  | none => rw [Exchange.answers, (hmatched.going hterminated).1, filterMap_deliveries]
  | some status =>
    rw [Exchange.answers, (hmatched.ended status hterminated).1, List.filterMap_append,
      filterMap_deliveries, filterMap_failures, List.append_nil]

/-- Every submission has its place in the order in which places were taken: answered, failed or
still waiting. -/
theorem Matched.map_fst_append (hmatched : exchange.Matched answers) :
    exchange.resolutions.map Prod.fst ++ exchange.connection.pending =
      List.range exchange.submissions.length := by
  have hall : List.range answers.length ++ exchange.ticketsFrom answers.length =
      List.range exchange.submissions.length := by
    have hsplit := List.range'_append_1 (s := 0) (m := answers.length)
      (n := exchange.submissions.length - answers.length)
    rwa [Nat.zero_add, Nat.add_sub_cancel' hmatched.length_le, ← List.range_eq_range',
      ← List.range_eq_range'] at hsplit
  cases hterminated : exchange.connection.terminated with
  | none =>
    obtain ⟨hresolutions, hpending⟩ := hmatched.going hterminated
    rw [hresolutions, hpending, map_fst_deliveries, hall]
  | some status =>
    obtain ⟨hresolutions, hpending⟩ := hmatched.ended status hterminated
    rw [hresolutions, hpending, List.map_append, map_fst_deliveries, map_fst_failures,
      List.append_nil, hall]

theorem Matched.mem_ok_iff (hmatched : exchange.Matched answers) {ticket : Nat}
    {response : AppendResponse} :
    (ticket, .ok response) ∈ exchange.resolutions ↔ answers[ticket]? = some response := by
  have hanswered : (ticket, .ok response) ∈ deliveries answers ↔
      answers[ticket]? = some response := by
    simp only [mem_deliveries_iff, Except.ok.injEq]
    exact ⟨fun ⟨_, hfound, hsame⟩ => hsame ▸ hfound, fun hfound => ⟨_, hfound, rfl⟩⟩
  cases hterminated : exchange.connection.terminated with
  | none => rw [(hmatched.going hterminated).1, hanswered]
  | some status =>
    rw [(hmatched.ended status hterminated).1, List.mem_append, hanswered, mem_failures_iff]
    simp only [reduceCtorEq, and_false, or_false]

theorem Matched.mem_error (hmatched : exchange.Matched answers) {status : Status}
    (hterminated : exchange.connection.terminated = some status) {ticket : Nat}
    (hunanswered : answers.length ≤ ticket) (hticket : ticket < exchange.submissions.length) :
    (ticket, .error (.call status)) ∈ exchange.resolutions := by
  rw [(hmatched.ended status hterminated).1]
  refine List.mem_append_right _ (mem_failures_iff.mpr ⟨?_, rfl⟩)
  rw [ticketsFrom, List.mem_range'_1]
  omega

theorem matched_start (table : TableName) (type : RowType) (capacity : Nat) :
    (start table type capacity).Matched [] where
  length_le := Nat.zero_le _
  sublist := List.nil_sublist _
  going _ := ⟨rfl, rfl⟩
  ended _ hended := nomatch hended

theorem Matched.register (hmatched : exchange.Matched answers) {rows : List Bytes}
    {registered : Connection} {request : AppendRequest}
    (hregister : exchange.connection.register exchange.submissions.length rows =
      .ok (registered, request)) (occupation : Occupation) :
    Matched
      { exchange with
        connection := registered, occupation, submissions := exchange.submissions ++ [rows] }
      answers := by
  obtain ⟨hgoing, _, rfl⟩ := Connection.register_eq_ok hregister
  obtain ⟨hresolutions, hpending⟩ := hmatched.going hgoing
  have hle := hmatched.length_le
  constructor
  case length_le => simpa using Nat.le_succ_of_le hle
  case sublist => exact hmatched.sublist
  case going =>
    refine fun _ => ⟨hresolutions, ?_⟩
    have hcount : exchange.submissions.length + 1 - answers.length =
        exchange.submissions.length - answers.length + 1 := by omega
    have hlast : answers.length + (exchange.submissions.length - answers.length) =
        exchange.submissions.length := by omega
    simp only [hpending, ticketsFrom, List.length_append, List.length_singleton, hcount,
      List.range'_1_concat, hlast]
  case ended =>
    intro status hended
    rw [hgoing] at hended
    contradiction

/-- Nobody waits after the end of the call. -/
theorem Matched.going_of_pending (hmatched : exchange.Matched answers) {ticket : Nat}
    {rest : List Nat} (hpending : exchange.connection.pending = ticket :: rest) :
    exchange.connection.terminated = none := by
  cases hterminated : exchange.connection.terminated with
  | none => rfl
  | some status =>
    rw [(hmatched.ended status hterminated).2] at hpending
    contradiction

/-- A response for which nobody waits. -/
theorem Matched.read_nil (hmatched : exchange.Matched answers)
    (hpending : exchange.connection.pending = []) (response : AppendResponse) :
    Matched
      { exchange with
        connection := (exchange.connection.complete response).1
        responses := exchange.responses ++ [response]
        resolutions := exchange.resolutions ++ (exchange.connection.complete response).2 }
      answers := by
  rw [Connection.complete_of_nil hpending, List.append_nil]
  have hmore := hmatched.sublist.trans (List.sublist_append_left exchange.responses [response])
  exact ⟨hmatched.length_le, hmore, hmatched.going, hmatched.ended⟩

/-- A response goes to the first submission that waits, and that is the first one that was not
answered before. -/
theorem Matched.read_cons (hmatched : exchange.Matched answers) {ticket : Nat} {rest : List Nat}
    (hpending : exchange.connection.pending = ticket :: rest) (response : AppendResponse) :
    Matched
      { exchange with
        connection := (exchange.connection.complete response).1
        responses := exchange.responses ++ [response]
        resolutions := exchange.resolutions ++ (exchange.connection.complete response).2 }
      (answers ++ [response]) := by
  have hterminated := hmatched.going_of_pending hpending
  obtain ⟨hresolutions, hwaiting⟩ := hmatched.going hterminated
  rw [hpending, ticketsFrom] at hwaiting
  obtain ⟨count, hcount⟩ : ∃ count,
      exchange.submissions.length - answers.length = count + 1 := by
    refine Nat.exists_eq_succ_of_ne_zero fun hnone => ?_
    rw [hnone] at hwaiting
    contradiction
  rw [hcount, List.range'_succ] at hwaiting
  obtain ⟨rfl, rfl⟩ := List.cons.inj hwaiting
  rw [Connection.complete_of_cons hpending]
  constructor
  case length_le =>
    simp only [List.length_append, List.length_singleton]
    omega
  case sublist => exact hmatched.sublist.append (List.Sublist.refl _)
  case going =>
    have hrest : exchange.submissions.length - (answers.length + 1) = count := by omega
    refine fun _ => ⟨?_, ?_⟩
    · rw [hresolutions, deliveries_concat]
    · simp only [ticketsFrom, List.length_append, List.length_singleton, hrest]
  case ended =>
    intro status hended
    exact absurd (hterminated.symm.trans hended) nofun

theorem Matched.terminate (hmatched : exchange.Matched answers) (status : Status)
    (occupation : Occupation) (reading : Bool) :
    Matched
      { exchange with
        connection := (exchange.connection.terminate status).1, occupation, reading
        resolutions := exchange.resolutions ++ (exchange.connection.terminate status).2 }
      answers := by
  refine ⟨hmatched.length_le, hmatched.sublist, nofun, ?_⟩
  intro first hfirst
  simp only [Connection.terminate, Option.some.injEq] at hfirst ⊢
  refine ⟨?_, trivial⟩
  cases hterminated : exchange.connection.terminated with
  | none =>
    obtain ⟨hresolutions, hpending⟩ := hmatched.going hterminated
    rw [hterminated, Option.getD_none] at hfirst
    subst hfirst
    rw [hresolutions, hpending]
    rfl
  | some kept =>
    obtain ⟨hresolutions, hpending⟩ := hmatched.ended kept hterminated
    rw [hterminated, Option.getD_some] at hfirst
    subst hfirst
    rw [hresolutions, hpending, List.map_nil, List.append_nil]
    rfl

/-- What one step does to the answers given so far. -/
inductive Advances (exchange later : Exchange) (answers : List AppendResponse) :
    List AppendResponse → Prop where
  | kept (hresponses : later.responses = exchange.responses)
      (hgoing : later.connection.terminated = none → exchange.connection.terminated = none) :
      Advances exchange later answers answers
  | surplus {response : AppendResponse}
      (hresponses : later.responses = exchange.responses ++ [response])
      (hterminated : later.connection.terminated = exchange.connection.terminated)
      (hpending : later.connection.pending = []) : Advances exchange later answers answers
  | answered {response : AppendResponse}
      (hresponses : later.responses = exchange.responses ++ [response])
      (hgoing : exchange.connection.terminated = none) :
      Advances exchange later answers (answers ++ [response])

theorem Matched.step (hmatched : exchange.Matched answers) (hstep : Step exchange later) :
    ∃ all, later.Matched all ∧ Advances exchange later answers all := by
  cases hstep with
  | register hidle hregister =>
    obtain ⟨hgoing, _⟩ := Connection.register_eq_ok hregister
    exact ⟨answers, hmatched.register hregister _, .kept rfl fun _ => hgoing⟩
  | send hsending hroom hsend =>
    obtain ⟨_, rfl⟩ := Connection.send_eq_ok hsend
    exact ⟨answers, ⟨hmatched.length_le, hmatched.sublist, hmatched.going, hmatched.ended⟩,
      .kept rfl id⟩
  | read hreading response =>
    cases hpending : exchange.connection.pending with
    | nil =>
      refine ⟨answers, hmatched.read_nil hpending response, .surplus rfl ?_ ?_⟩
      · rw [Connection.complete_fst]
      · rw [Connection.complete_of_nil hpending]
        exact hpending
    | cons ticket rest =>
      exact ⟨answers ++ [response], hmatched.read_cons hpending response,
        .answered rfl (hmatched.going_of_pending hpending)⟩
  | finish hreading status =>
    exact ⟨answers, hmatched.terminate status _ _, .kept rfl nofun⟩
  | expire hclosing =>
    exact ⟨answers, hmatched.terminate Connection.abandonedStatus _ _, .kept rfl nofun⟩
  | misfire | receive | stopReceiving | leave | hangUp | close =>
    exact ⟨answers, ⟨hmatched.length_le, hmatched.sublist, hmatched.going, hmatched.ended⟩,
      .kept rfl id⟩

theorem Matched.looseStep (hmatched : exchange.Matched answers)
    (hstep : LooseStep exchange later) :
    ∃ all, later.Matched all ∧ Advances exchange later answers all := by
  cases hstep with
  | step hstep => exact hmatched.step hstep
  | giveUp hsending =>
    exact ⟨answers, ⟨hmatched.length_le, hmatched.sublist, hmatched.going, hmatched.ended⟩,
      .kept rfl id⟩

end Matching

section Runs

variable {step other : Exchange → Exchange → Prop} {exchange : Exchange}

theorem Reachable.preserve {motive : Exchange → Prop}
    (hstart : ∀ table type capacity, motive (start table type capacity))
    (hstep : ∀ exchange later, step exchange later → motive exchange → motive later)
    (hreachable : Reachable step exchange) : motive exchange := by
  obtain ⟨table, type, capacity, hsteps⟩ := hreachable
  induction hsteps with
  | refl => exact hstart table type capacity
  | tail _ hlast ih => exact hstep _ _ hlast ih

theorem Reachable.mono (himp : ∀ exchange later, step exchange later → other exchange later)
    (hreachable : Reachable step exchange) : Reachable other exchange := by
  obtain ⟨table, type, capacity, hsteps⟩ := hreachable
  exact ⟨table, type, capacity, Relation.ReflTransGen.mono himp _ _ hsteps⟩

theorem Reachable.loosen (hreachable : Reachable Step exchange) : Reachable LooseStep exchange :=
  hreachable.mono fun _ _ hstep => .step hstep

theorem Reachable.served_loosen (hreachable : Reachable (Served Step) exchange) :
    Reachable (Served LooseStep) exchange :=
  hreachable.mono fun _ _ hstep => ⟨.step hstep.1, hstep.2⟩

theorem Reachable.of_served (hreachable : Reachable (Served step) exchange) :
    Reachable step exchange :=
  hreachable.mono fun _ _ hstep => hstep.1

theorem Reachable.matched (hreachable : Reachable LooseStep exchange) :
    exchange.Matched exchange.answers := by
  have hmatched : ∃ answers, exchange.Matched answers := by
    apply hreachable.preserve (motive := fun exchange => ∃ answers, exchange.Matched answers)
    · exact fun table type capacity => ⟨[], matched_start table type capacity⟩
    · intro exchange later hstep hmatched
      obtain ⟨answers, hmatched⟩ := hmatched
      obtain ⟨all, hall, _⟩ := hmatched.looseStep hstep
      exact ⟨all, hall⟩
  obtain ⟨answers, hmatched⟩ := hmatched
  rwa [hmatched.answers_eq]

end Runs

/-- Requests were sent in the order in which their submissions took their places, and those that
left the channel are the first ones of them. -/
structure Queued (exchange : Exchange) : Prop where
  ascending : (exchange.sent ++ exchange.waiting).Pairwise fun first second => first.1 < second.1
  lt_length : ∀ request ∈ exchange.sent ++ exchange.waiting, request.1 < exchange.submissions.length
  carried : ∀ request ∈ exchange.sent ++ exchange.waiting,
    request.2.carried = exchange.submissions[request.1]?
  waiting_last : ∀ ticket request, exchange.occupation = .sending ticket request →
    ticket + 1 = exchange.submissions.length
  received_add : exchange.received + exchange.connection.queue.length = exchange.sent.length

section Queue

variable {exchange later : Exchange}

theorem waiting_eq_nil
    (hoccupation : ∀ ticket request, exchange.occupation ≠ .sending ticket request) :
    exchange.waiting = [] := by
  rw [waiting]
  split
  · rename_i ticket request hsending
    exact absurd hsending (hoccupation ticket request)
  · rfl

theorem waiting_eq_singleton {ticket : Nat} {request : AppendRequest}
    (hsending : exchange.occupation = .sending ticket request) :
    exchange.waiting = [(ticket, request)] := by
  rw [waiting, hsending]

theorem queued_start (table : TableName) (type : RowType) (capacity : Nat) :
    (start table type capacity).Queued :=
  ⟨.nil, nofun, nofun, nofun, rfl⟩

/-- A step after which no submission waits for room. -/
theorem Queued.relent (hqueued : exchange.Queued) (hsent : later.sent = exchange.sent)
    (hsubmissions : later.submissions = exchange.submissions)
    (hreceived : later.received + later.connection.queue.length =
      exchange.received + exchange.connection.queue.length)
    (hoccupation : ∀ ticket request, later.occupation ≠ .sending ticket request) :
    later.Queued where
  ascending := by
    rw [waiting_eq_nil hoccupation, List.append_nil, hsent]
    exact hqueued.ascending.sublist (List.sublist_append_left _ _)
  lt_length := by
    rw [waiting_eq_nil hoccupation, List.append_nil, hsent, hsubmissions]
    exact fun request hrequest => hqueued.lt_length request (List.mem_append_left _ hrequest)
  carried := by
    rw [waiting_eq_nil hoccupation, List.append_nil, hsent, hsubmissions]
    exact fun request hrequest => hqueued.carried request (List.mem_append_left _ hrequest)
  waiting_last ticket request hsending := absurd hsending (hoccupation ticket request)
  received_add := by rw [hreceived, hqueued.received_add, hsent]

theorem Queued.step (hqueued : exchange.Queued) (hstep : Step exchange later) : later.Queued := by
  cases hstep with
  | register hidle hregister =>
    obtain ⟨_, hrows, rfl⟩ := Connection.register_eq_ok hregister
    obtain ⟨hascending, hlt, hcarried, _, hreceived⟩ := hqueued
    rw [waiting_eq_nil (by simp [hidle]), List.append_nil] at hascending hlt hcarried
    constructor
    case ascending =>
      refine List.pairwise_append.mpr ⟨hascending, List.pairwise_singleton _ _, ?_⟩
      intro first hfirst second hsecond
      obtain rfl := List.mem_singleton.mp hsecond
      exact hlt first hfirst
    case lt_length =>
      intro request hrequest
      simp only [List.length_append, List.length_singleton]
      obtain hsent | hwaiting := List.mem_append.mp hrequest
      · exact Nat.lt_succ_of_lt (hlt request hsent)
      · obtain rfl := List.mem_singleton.mp hwaiting
        exact Nat.lt_succ_self _
    case carried =>
      intro request hrequest
      obtain hsent | hwaiting := List.mem_append.mp hrequest
      · rw [List.getElem?_append_left (hlt request hsent)]
        exact hcarried request hsent
      · obtain rfl := List.mem_singleton.mp hwaiting
        simp only [hrows, List.getElem?_concat_length]
    case waiting_last =>
      intro ticket request hsending
      obtain ⟨rfl, _⟩ := Occupation.sending.inj hsending
      simp
    case received_add => exact hreceived
  | send hsending hroom hsend =>
    obtain ⟨_, rfl⟩ := Connection.send_eq_ok hsend
    obtain ⟨hascending, hlt, hcarried, _, hreceived⟩ := hqueued
    rw [waiting_eq_singleton hsending] at hascending hlt hcarried
    refine ⟨?_, ?_, ?_, nofun, ?_⟩
    · simpa only [waiting, List.append_nil] using hascending
    · simpa only [waiting, List.append_nil] using hlt
    · simpa only [waiting, List.append_nil] using hcarried
    · simp only [List.length_append, List.length_singleton]
      omega
  | receive hreceiving hqueue =>
    obtain ⟨hascending, hlt, hcarried, hlast, hreceived⟩ := hqueued
    rw [hqueue, List.length_cons] at hreceived
    refine ⟨hascending, hlt, hcarried, hlast, ?_⟩
    simp only
    omega
  | read hreading response =>
    refine ⟨hqueued.ascending, hqueued.lt_length, hqueued.carried, hqueued.waiting_last, ?_⟩
    rw [Connection.complete_fst]
    exact hqueued.received_add
  | misfire | hangUp | close | expire => exact hqueued.relent rfl rfl rfl nofun
  | stopReceiving | finish | leave =>
    exact ⟨hqueued.ascending, hqueued.lt_length, hqueued.carried, hqueued.waiting_last,
      hqueued.received_add⟩

theorem Queued.looseStep (hqueued : exchange.Queued) (hstep : LooseStep exchange later) :
    later.Queued := by
  cases hstep with
  | step hstep => exact hqueued.step hstep
  | giveUp hsending => exact hqueued.relent rfl rfl rfl nofun

theorem Reachable.queued (hreachable : Reachable LooseStep exchange) : exchange.Queued :=
  hreachable.preserve queued_start fun _ _ hstep hqueued => hqueued.looseStep hstep

end Queue

/-- Every submission that took a place also sends its request, as long as requests are received. -/
structure InTurn (exchange : Exchange) : Prop where
  tickets : exchange.sent.map Prod.fst = List.range exchange.sent.length
  complete : exchange.connection.receiving = true →
    (exchange.sent ++ exchange.waiting).length = exchange.submissions.length

section Turns

variable {exchange later : Exchange}

theorem inTurn_start (table : TableName) (type : RowType) (capacity : Nat) :
    (start table type capacity).InTurn :=
  ⟨rfl, fun _ => rfl⟩

/-- A step that keeps what was sent and what waits. -/
theorem InTurn.keep (hturn : exchange.InTurn) (hsent : later.sent = exchange.sent)
    (hsubmissions : later.submissions = exchange.submissions)
    (hwaiting : later.waiting = exchange.waiting)
    (hreceiving : later.connection.receiving = true → exchange.connection.receiving = true) :
    later.InTurn where
  tickets := by rw [hsent, hturn.tickets]
  complete hlater := by rw [hsent, hwaiting, hsubmissions, hturn.complete (hreceiving hlater)]

theorem InTurn.step (hqueued : exchange.Queued) (hturn : exchange.InTurn)
    (hstep : Step exchange later) : later.InTurn := by
  cases hstep with
  | register hidle hregister =>
    obtain ⟨_, _, rfl⟩ := Connection.register_eq_ok hregister
    refine ⟨hturn.tickets, fun hreceiving => ?_⟩
    have hcomplete := hturn.complete hreceiving
    rw [waiting_eq_nil (by simp [hidle]), List.append_nil] at hcomplete
    simp only [waiting, List.length_append, List.length_singleton, hcomplete]
  | send hsending hroom hsend =>
    obtain ⟨hreceiving, rfl⟩ := Connection.send_eq_ok hsend
    have hcomplete := hturn.complete hreceiving
    have hlast := hqueued.waiting_last _ _ hsending
    rw [waiting_eq_singleton hsending, List.length_append, List.length_singleton] at hcomplete
    refine ⟨?_, fun _ => ?_⟩
    · rw [List.map_append, hturn.tickets, List.length_append, List.length_singleton,
        List.range_succ]
      simp only [List.map_cons, List.map_nil]
      congr 2
      omega
    · simpa only [waiting, List.append_nil, List.length_append, List.length_singleton]
        using hcomplete
  | misfire hsending hsend =>
    refine ⟨hturn.tickets, fun hreceiving => ?_⟩
    rw [Connection.send_eq_error hsend] at hreceiving
    contradiction
  | stopReceiving => exact hturn.keep rfl rfl rfl nofun
  | read hreading response =>
    refine hturn.keep rfl rfl rfl fun hreceiving => ?_
    rwa [Connection.complete_fst] at hreceiving
  | hangUp hidle =>
    exact hturn.keep rfl rfl (waiting_eq_nil (by simp [hidle])).symm id
  | close hclosing | expire hclosing =>
    exact hturn.keep rfl rfl (waiting_eq_nil (by simp [hclosing])).symm id
  | receive | finish | leave => exact hturn.keep rfl rfl rfl id

theorem InTurn.ticket_eq (hturn : exchange.InTurn) {position ticket : Nat}
    {request : AppendRequest} (hsent : exchange.sent[position]? = some (ticket, request)) :
    ticket = position := by
  have hticket : (exchange.sent.map Prod.fst)[position]? = some ticket := by
    rw [List.getElem?_map, hsent, Option.map_some]
  rw [hturn.tickets] at hticket
  obtain ⟨_, hposition⟩ := List.getElem?_eq_some_iff.mp hticket
  rw [← hposition, List.getElem_range]

theorem Reachable.inTurn (hreachable : Reachable Step exchange) : exchange.InTurn := by
  refine (hreachable.preserve (motive := fun exchange => exchange.Queued ∧ exchange.InTurn)
    ?_ ?_).2
  · exact fun table type capacity =>
      ⟨queued_start table type capacity, inTurn_start table type capacity⟩
  · rintro exchange later hstep ⟨hqueued, hturn⟩
    exact ⟨hqueued.step hstep, hturn.step hqueued hstep⟩

end Turns

/-- Reading goes on until the call has ended, and closing until nothing is read any more. -/
structure Ended (exchange : Exchange) : Prop where
  of_read : exchange.reading = false → exchange.connection.terminated.isSome
  of_closed : exchange.occupation = .closed → exchange.connection.terminated.isSome

section Endings

variable {exchange later : Exchange}

theorem Ended.step (hended : exchange.Ended) (hstep : Step exchange later) : later.Ended := by
  cases hstep with
  | register hidle hregister =>
    obtain ⟨_, _, rfl⟩ := Connection.register_eq_ok hregister
    exact ⟨hended.of_read, nofun⟩
  | send hsending hroom hsend =>
    obtain ⟨_, rfl⟩ := Connection.send_eq_ok hsend
    exact ⟨hended.of_read, nofun⟩
  | read hreading response =>
    constructor <;> rw [Connection.complete_fst]
    exacts [hended.of_read, hended.of_closed]
  | finish hreading status => exact ⟨fun _ => rfl, fun _ => rfl⟩
  | expire hclosing => exact ⟨fun _ => rfl, fun _ => rfl⟩
  | close hclosing hreading => exact ⟨hended.of_read, fun _ => hended.of_read hreading⟩
  | misfire | hangUp => exact ⟨hended.of_read, nofun⟩
  | receive | stopReceiving | leave => exact ⟨hended.of_read, hended.of_closed⟩

theorem Reachable.ended (hreachable : Reachable Step exchange) : exchange.Ended :=
  hreachable.preserve (fun _ _ _ => ⟨nofun, nofun⟩) fun _ _ hstep hended => hended.step hstep

/-- What is left of an exchange whose call ended with a status: it keeps the status, no submission
takes a place, and all that may still go out is the request that waited for room. -/
structure Spent (status : Status) (exchange later : Exchange) : Prop where
  terminated : later.connection.terminated = some status
  submissions : later.submissions = exchange.submissions
  sent : exchange.sent <+: later.sent
  waiting : later.sent ++ later.waiting <+: exchange.sent ++ exchange.waiting

variable {status : Status}

theorem spent_self (hterminated : exchange.connection.terminated = some status) :
    Spent status exchange exchange :=
  ⟨hterminated, rfl, List.prefix_refl _, List.prefix_refl _⟩

theorem Spent.step {middle : Exchange} (hspent : Spent status exchange middle)
    (hstep : Step middle later) : Spent status exchange later := by
  obtain ⟨hterminated, hsubmissions, hsent, hwaiting⟩ := hspent
  have hkept : middle.sent <+: exchange.sent ++ exchange.waiting :=
    (List.prefix_append _ _).trans hwaiting
  cases hstep with
  | register hidle hregister =>
    obtain ⟨hgoing, _⟩ := Connection.register_eq_ok hregister
    rw [hgoing] at hterminated
    contradiction
  | send hsending hroom hsend =>
    obtain ⟨_, rfl⟩ := Connection.send_eq_ok hsend
    rw [waiting_eq_singleton hsending] at hwaiting
    refine ⟨hterminated, hsubmissions, hsent.trans (List.prefix_append _ _), ?_⟩
    simpa only [Exchange.waiting, List.append_nil] using hwaiting
  | read hreading response =>
    refine ⟨?_, hsubmissions, hsent, hwaiting⟩
    rwa [Connection.complete_fst]
  | finish hreading last =>
    refine ⟨?_, hsubmissions, hsent, hwaiting⟩
    simp only [Connection.terminate, hterminated, Option.getD_some]
  | expire hclosing =>
    refine ⟨?_, hsubmissions, hsent, ?_⟩
    · simp only [Connection.terminate, hterminated, Option.getD_some]
    · simpa only [Exchange.waiting, List.append_nil] using hkept
  | misfire | hangUp | close =>
    refine ⟨hterminated, hsubmissions, hsent, ?_⟩
    simpa only [Exchange.waiting, List.append_nil] using hkept
  | receive | stopReceiving | leave => exact ⟨hterminated, hsubmissions, hsent, hwaiting⟩

theorem spent_of_steps (hterminated : exchange.connection.terminated = some status)
    (hsteps : Relation.ReflTransGen Step exchange later) : Spent status exchange later := by
  induction hsteps with
  | refl => exact spent_self hterminated
  | tail _ hlast ih => exact ih.step hlast

end Endings

end Exchange

end RowSink
