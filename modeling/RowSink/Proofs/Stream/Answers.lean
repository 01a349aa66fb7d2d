import Mathlib.Data.List.Perm.Subperm
import RowSink.Proofs.Stream.Exchanges

/-!
# Which submission a response answers

Responses are matched to submissions by position alone: of the responses that find somebody waiting,
the first one goes to the first submission that took a place, the second one to the second, and so
on, until the end of the call answers all that are left. So a response reaches the submission whose
request it answers exactly as long as every submission that took a place also sent its request.
-/

namespace RowSink

open Protocol

namespace Exchange

/-- The exchange as it were if nobody had left. -/
def forget (exchange : Exchange) : Exchange :=
  { exchange with left := [] }

section Leaving

variable {exchange later : Exchange}

/-- Nothing but the list of those who left depends on it. -/
theorem Step.forget (hstep : Step exchange later) :
    later.forget = exchange.forget ∨ Step exchange.forget later.forget := by
  cases hstep with
  | leave hticket => exact .inl rfl
  | register hidle hregister => exact .inr (.register hidle hregister)
  | send hsending hroom hsend => exact .inr (.send hsending hroom hsend)
  | misfire hsending hsend => exact .inr (.misfire hsending hsend)
  | receive hreceiving hqueue => exact .inr (.receive hreceiving hqueue)
  | stopReceiving => exact .inr .stopReceiving
  | read hreading response =>
    have hforgotten : exchange.forget.reading = true := hreading
    exact .inr (.read hforgotten response)
  | finish hreading status =>
    have hforgotten : exchange.forget.reading = true := hreading
    exact .inr (.finish hforgotten status)
  | hangUp hidle => exact .inr (.hangUp hidle)
  | close hclosing hreading => exact .inr (.close hclosing hreading)
  | expire hclosing => exact .inr (.expire hclosing)

theorem Reachable.forget (hreachable : Reachable Step exchange) :
    Reachable Step exchange.forget := by
  obtain ⟨table, type, capacity, hsteps⟩ := hreachable
  refine ⟨table, type, capacity, ?_⟩
  induction hsteps with
  | refl => exact .refl
  | tail _ hlast ih =>
    obtain hsame | hstep := hlast.forget
    · rwa [hsame]
    · exact ih.tail hstep

end Leaving

section Ascending

variable {numbers : List Nat}

theorem add_le_getElem_of_ascending (hascending : numbers.Pairwise (· < ·)) (position count : Nat)
    (hlt : position + count < numbers.length) :
    numbers[position] + count ≤ numbers[position + count] := by
  induction count with
  | zero => exact Nat.le_refl _
  | succ count ih =>
    have hprevious := ih (by omega)
    have hnext : numbers[position + count] < numbers[position + (count + 1)] :=
      List.pairwise_iff_getElem.mp hascending _ _ (by omega) hlt (by omega)
    omega

/-- Where an ascending list has a number at the position of the same number, it has all smaller
numbers before it. -/
theorem getElem_eq_self_iff_of_ascending (hascending : numbers.Pairwise (· < ·)) (position : Nat)
    (hlt : position < numbers.length) :
    numbers[position] = position ↔ ∀ earlier ≤ position, earlier ∈ numbers := by
  have hle : ∀ index (hindex : index < numbers.length), index ≤ numbers[index] := by
    intro index hindex
    have hgrows := add_le_getElem_of_ascending hascending 0 index (by omega)
    simp only [Nat.zero_add] at hgrows
    omega
  constructor
  · intro hsame earlier hearlier
    have hgrows := add_le_getElem_of_ascending hascending earlier (position - earlier) (by omega)
    have hself : numbers[earlier] = earlier := by
      have hposition : earlier + (position - earlier) = position := by omega
      simp only [hposition, hsame] at hgrows
      exact Nat.le_antisymm (by omega) (hle earlier (by omega))
    exact hself ▸ List.getElem_mem _
  · -- By strong induction: the position itself stands at no earlier position, as those hold
    -- themselves.
    induction position using Nat.strongRecOn with
    | ind position ih =>
      intro hall
      obtain ⟨index, hindex, hfound⟩ := List.getElem_of_mem (hall position (Nat.le_refl _))
      obtain hbefore | hsame := Nat.lt_or_eq_of_le (hfound ▸ hle index hindex)
      · have hself := ih index hbefore hindex fun earlier hearlier =>
          hall earlier (Nat.le_trans hearlier (Nat.le_of_lt hbefore))
        omega
      · subst hsame
        exact hfound

theorem Queued.ascending_tickets {exchange : Exchange} (hqueued : exchange.Queued) :
    (exchange.sent.map Prod.fst).Pairwise (· < ·) :=
  List.pairwise_map.mpr (hqueued.ascending.sublist (List.sublist_append_left _ _))

/-- No more requests are sent than submissions take a place. -/
theorem Queued.length_sent_le {exchange : Exchange} (hqueued : exchange.Queued) :
    exchange.sent.length ≤ exchange.submissions.length := by
  have hnodup : (exchange.sent.map Prod.fst).Nodup :=
    hqueued.ascending_tickets.imp fun hlt => Nat.ne_of_lt hlt
  have hsubset : exchange.sent.map Prod.fst ⊆ List.range exchange.submissions.length := by
    intro ticket hticket
    obtain ⟨request, hrequest, rfl⟩ := List.mem_map.mp hticket
    exact List.mem_range.mpr (hqueued.lt_length request (List.mem_append_left _ hrequest))
  have hlength := (List.subperm_of_subset hnodup hsubset).length_le
  rwa [List.length_map, List.length_range] at hlength

end Ascending

/-- Responses to requests that were received: each of them finds somebody waiting, until the call
has ended. -/
structure Punctual (exchange : Exchange) (answers : List AppendResponse) : Prop where
  isPrefix : answers <+: exchange.responses
  going : exchange.connection.terminated = none → answers = exchange.responses
  le_received : exchange.responses.length ≤ exchange.received

section Service

variable {exchange later : Exchange} {answers all : List AppendResponse}

theorem Punctual.advance (hpunctual : exchange.Punctual answers)
    (hadvances : Advances exchange later answers all) (hmatched : later.Matched all)
    (hqueued : later.Queued) (hserved : later.responses.length ≤ later.received) :
    later.Punctual all := by
  obtain ⟨hinitial, hall, _⟩ := hpunctual
  cases hadvances with
  | kept hresponses hgoing =>
    rw [← hresponses] at hinitial hall
    exact ⟨hinitial, fun hlater => hall (hgoing hlater), hserved⟩
  | answered hresponses hgoing =>
    obtain rfl := hall hgoing
    rw [← hresponses]
    exact ⟨List.prefix_refl _, fun _ => rfl, hserved⟩
  | surplus hresponses hterminated hpending =>
    refine ⟨hresponses ▸ hinitial.trans (List.prefix_append _ _), fun hlater => ?_, hserved⟩
    -- As long as the call goes on, all submissions are answered, and there is one response more.
    have hnone := (hmatched.going hlater).2
    rw [hpending, ticketsFrom] at hnone
    have hcount : later.submissions.length ≤ answers.length := by
      have hlength := congrArg List.length hnone
      rw [List.length_range', List.length_nil] at hlength
      omega
    have hanswers := congrArg List.length (hall (hterminated ▸ hlater))
    have hreceived := hqueued.received_add
    have hsent := hqueued.length_sent_le
    rw [hresponses, List.length_append, List.length_singleton] at hserved
    omega

theorem Punctual.getElem?_responses (hpunctual : exchange.Punctual answers) {position : Nat}
    {response : AppendResponse} (hanswer : answers[position]? = some response) :
    exchange.responses[position]? = some response := by
  obtain ⟨rest, hrest⟩ := hpunctual.isPrefix
  obtain ⟨hlt, _⟩ := List.getElem?_eq_some_iff.mp hanswer
  rw [← hrest, List.getElem?_append_left hlt, hanswer]

/-- Each response either answers the submission at its position, or came when that submission had
failed with the end of the call. -/
theorem Punctual.mem_resolutions (hpunctual : exchange.Punctual answers)
    (hmatched : exchange.Matched answers) (hqueued : exchange.Queued) {position : Nat}
    {response : AppendResponse} (hresponse : exchange.responses[position]? = some response) :
    (position, .ok response) ∈ exchange.resolutions ∨
      ∃ status, exchange.connection.terminated = some status ∧
        (position, .error (.call status)) ∈ exchange.resolutions := by
  cases hterminated : exchange.connection.terminated with
  | none =>
    rw [← hpunctual.going hterminated] at hresponse
    exact .inl (hmatched.mem_ok_iff.mpr hresponse)
  | some status =>
    obtain hanswered | hunanswered := Nat.lt_or_ge position answers.length
    · obtain ⟨rest, hrest⟩ := hpunctual.isPrefix
      rw [← hrest, List.getElem?_append_left hanswered] at hresponse
      exact .inl (hmatched.mem_ok_iff.mpr hresponse)
    · obtain ⟨hlt, _⟩ := List.getElem?_eq_some_iff.mp hresponse
      have hreceived := hqueued.received_add
      have hsent := hqueued.length_sent_le
      have hserved := hpunctual.le_received
      exact .inr ⟨status, rfl, hmatched.mem_error hterminated hunanswered (by omega)⟩

theorem Reachable.punctual (hreachable : Reachable (Served LooseStep) exchange) :
    exchange.Punctual exchange.answers := by
  have hpunctual : exchange.Queued ∧ ∃ answers, exchange.Matched answers ∧
      exchange.Punctual answers := by
    apply hreachable.preserve (motive := fun exchange => exchange.Queued ∧
      ∃ answers, exchange.Matched answers ∧ exchange.Punctual answers)
    · exact fun table type capacity => ⟨queued_start table type capacity, [],
        matched_start table type capacity, List.prefix_refl _, fun _ => rfl, Nat.le_refl _⟩
    · rintro exchange later ⟨hstep, hserved⟩ ⟨hqueued, answers, hmatched, hpunctual⟩
      obtain ⟨all, hall, hadvances⟩ := hmatched.looseStep hstep
      have hlater := hqueued.looseStep hstep
      exact ⟨hlater, all, hall, hpunctual.advance hadvances hall hlater hserved⟩
  obtain ⟨_, answers, hmatched, hpunctual⟩ := hpunctual
  rwa [hmatched.answers_eq]

end Service

section InOrder

variable {exchange : Exchange}

/-- Everything that submissions on one connection are answered with, however submitting, reading,
leaving, the end of the call and closing follow each other. -/
theorem submissions_answered_in_order (hreachable : Reachable Step exchange) :
    exchange.resolutions.map Prod.fst ++ exchange.connection.pending =
      List.range exchange.submissions.length ∧
    exchange.answers.Sublist exchange.responses ∧
    (∀ ticket response, (ticket, .ok response) ∈ exchange.resolutions ↔
      exchange.answers[ticket]? = some response) ∧
    (Reachable (Served Step) exchange →
      (∀ (position ticket : Nat) (request : AppendRequest),
        exchange.sent[position]? = some (ticket, request) →
        ticket = position ∧ request.carried = exchange.submissions[position]?) ∧
      (∀ ticket response, (ticket, .ok response) ∈ exchange.resolutions →
        exchange.responses[ticket]? = some response) ∧
      ∀ position response, exchange.responses[position]? = some response →
        (position, .ok response) ∈ exchange.resolutions ∨
          ∃ status, exchange.connection.terminated = some status ∧
            (position, .error (.call status)) ∈ exchange.resolutions) ∧
    Reachable Step { exchange with left := [] } ∧
    (∀ status, exchange.connection.terminated = some status →
      exchange.connection.pending = [] ∧
      (∀ ticket, exchange.answers.length ≤ ticket → ticket < exchange.submissions.length →
        (ticket, .error (.call status)) ∈ exchange.resolutions) ∧
      ∀ later, Relation.ReflTransGen Step exchange later →
        later.connection.terminated = some status ∧
        later.submissions = exchange.submissions ∧
        exchange.sent <+: later.sent ∧
        later.sent ++ later.waiting <+: exchange.sent ++ exchange.waiting ∧
        ∀ ticket rows, ∃ error,
          later.connection.submit ticket rows = (later.connection, .error error)) ∧
    (exchange.occupation = .closed →
      ∀ ticket < exchange.submissions.length, ∃ outcome,
        (ticket, outcome) ∈ exchange.resolutions) := by
  have hmatched := hreachable.loosen.matched
  have hqueued := hreachable.loosen.queued
  refine ⟨hmatched.map_fst_append, hmatched.sublist, fun _ _ => hmatched.mem_ok_iff, ?served,
    hreachable.forget, ?terminated, ?closed⟩
  case served =>
    intro hserved
    have hpunctual := hserved.served_loosen.punctual
    refine ⟨?_, ?_, ?_⟩
    · intro position ticket request hsent
      obtain rfl := hreachable.inTurn.ticket_eq hsent
      have hmem := List.mem_append_left exchange.waiting (List.mem_of_getElem? hsent)
      exact ⟨rfl, hqueued.carried _ hmem⟩
    · intro ticket response hresolution
      exact hpunctual.getElem?_responses (hmatched.mem_ok_iff.mp hresolution)
    · exact fun position response => hpunctual.mem_resolutions hmatched hqueued
  case terminated =>
    intro status hterminated
    refine ⟨(hmatched.ended status hterminated).2, fun ticket => hmatched.mem_error hterminated,
      ?_⟩
    intro later hsteps
    have hspent := spent_of_steps hterminated hsteps
    refine ⟨hspent.terminated, hspent.submissions, hspent.sent, hspent.waiting, ?_⟩
    exact fun ticket rows => Connection.exists_submit_eq_error (hspent.terminated ▸ rfl) ticket rows
  case closed =>
    intro hclosed ticket hticket
    obtain ⟨status, hterminated⟩ := Option.isSome_iff_exists.mp (hreachable.ended.of_closed hclosed)
    have hall := hmatched.map_fst_append
    rw [(hmatched.ended status hterminated).2, List.append_nil] at hall
    have hmem : ticket ∈ exchange.resolutions.map Prod.fst := hall ▸ List.mem_range.mpr hticket
    obtain ⟨resolution, hresolution, rfl⟩ := List.mem_map.mp hmem
    exact ⟨resolution.2, hresolution⟩

end InOrder

section Abandoning

variable {exchange : Exchange}

/-- With a service that answers every request once and in order, the response a submission is
answered with is the one to its own request exactly if no submission up to it was given up before
its request was sent. -/
theorem answer_reaches_own_iff (hreachable : Reachable (Served LooseStep) exchange) {ticket : Nat}
    {response : AppendResponse} (hresolution : (ticket, .ok response) ∈ exchange.resolutions) :
    exchange.responses[ticket]? = some response ∧
      ∃ own request, exchange.sent[ticket]? = some (own, request) ∧
        (own = ticket ↔ ∀ earlier ≤ ticket, earlier ∈ exchange.sent.map Prod.fst) := by
  have hqueued := hreachable.of_served.queued
  have hpunctual := hreachable.punctual
  have hresponse := hpunctual.getElem?_responses
    (hreachable.of_served.matched.mem_ok_iff.mp hresolution)
  obtain ⟨hlt, _⟩ := List.getElem?_eq_some_iff.mp hresponse
  have hserved := hpunctual.le_received
  have hreceived := hqueued.received_add
  have hsent : ticket < exchange.sent.length := by omega
  refine ⟨hresponse, exchange.sent[ticket].1, exchange.sent[ticket].2,
    List.getElem?_eq_getElem hsent, ?_⟩
  have hown := getElem_eq_self_iff_of_ascending hqueued.ascending_tickets ticket
    (by rwa [List.length_map])
  rwa [List.getElem_map] at hown

end Abandoning

end Exchange

namespace TwoSubmissions

open Exchange

def first : Exchange :=
  start ⟨"p", "d", "t"⟩ ⟨"__ROOT__", []⟩ 2

def response : AppendResponse := {}

/-- The first of two submissions is answered, though nobody waits for it any more, and the second
one fails with the end of the call. -/
theorem exists_exchange :
    ∃ exchange, Reachable (Served Step) exchange ∧ exchange.occupation = .closed ∧
      exchange.submissions.length = 2 ∧ exchange.responses = [response] ∧
      exchange.answers = [response] ∧ exchange.left = [0] ∧
      exchange.connection.terminated = some Connection.endedStatus := by
  have hempty : Relation.ReflTransGen (Served Step) first first := .refl
  have hfirst := (hempty.tail ⟨@Step.register _ [] _ _ rfl rfl, Nat.le_refl 0⟩).tail
    ⟨.send rfl rfl rfl, Nat.le_refl 0⟩
  have hsecond := (hfirst.tail ⟨@Step.register _ [] _ _ rfl rfl, Nat.le_refl 0⟩).tail
    ⟨.send rfl rfl rfl, Nat.le_refl 0⟩
  have hreceived := (hsecond.tail ⟨.receive rfl rfl, Nat.zero_le 1⟩).tail
    ⟨.leave Nat.zero_lt_two, Nat.zero_le 1⟩
  have hread := (hreceived.tail ⟨.read rfl response, Nat.le_refl 1⟩).tail
    ⟨.finish rfl Connection.endedStatus, Nat.le_refl 1⟩
  have hclosed := (hread.tail ⟨.hangUp rfl, Nat.le_refl 1⟩).tail ⟨.close rfl rfl, Nat.le_refl 1⟩
  exact ⟨_, ⟨_, _, _, hclosed⟩, rfl, rfl, rfl, rfl, rfl, rfl⟩

theorem submissions_answered_in_order_of_exchange :
    ∃ exchange, Reachable (Served Step) exchange ∧ exchange.occupation = .closed ∧
      exchange.left = [0] ∧
      exchange.resolutions.map Prod.fst ++ exchange.connection.pending = [0, 1] ∧
      (0, .ok response) ∈ exchange.resolutions ∧
      (1, .error (.call Connection.endedStatus)) ∈ exchange.resolutions ∧
      Reachable Step { exchange with left := [] } ∧
      ∀ later, Relation.ReflTransGen Step exchange later → ∃ error,
        later.connection.submit 2 [] = (later.connection, .error error) := by
  obtain ⟨exchange, hserved, hclosed, hsubmissions, hresponses, hanswers, hleft, hterminated⟩ :=
    exists_exchange
  obtain ⟨hplaces, _, hanswered, _, hforgotten, hended, _⟩ :=
    submissions_answered_in_order hserved.of_served
  rw [hsubmissions] at hplaces
  obtain ⟨_, hfailed, hspent⟩ := hended _ hterminated
  refine ⟨exchange, hserved, hclosed, hleft, hplaces, ?_, ?_, hforgotten, ?_⟩
  · exact (hanswered 0 response).mpr (hanswers ▸ rfl)
  · exact hfailed 1 (hanswers ▸ Nat.le_refl 1) (hsubmissions ▸ Nat.one_lt_two)
  · intro later hsteps
    obtain ⟨_, _, _, _, hrefused⟩ := hspent later hsteps
    exact hrefused 2 []

end TwoSubmissions

namespace AbandonedSubmission

open Exchange

def first : Exchange :=
  start ⟨"p", "d", "t"⟩ ⟨"__ROOT__", []⟩ 1

def response (offset : Int64) : AppendResponse :=
  { verdict := some (.appended (some offset)) }

/-- The second of four submissions is given up while the channel has no room, and three requests
are answered. -/
theorem exists_exchange :
    ∃ exchange, Reachable (Served LooseStep) exchange ∧
      exchange.responses = [response 0, response 1, response 2] ∧
      exchange.sent.map Prod.fst = [0, 2, 3] ∧
      exchange.resolutions =
        [(0, .ok (response 0)), (1, .ok (response 1)), (2, .ok (response 2))] := by
  have hempty : Relation.ReflTransGen (Served LooseStep) first first := .refl
  have hfirst := (hempty.tail ⟨.step (@Step.register _ [] _ _ rfl rfl), Nat.le_refl 0⟩).tail
    ⟨.step (.send rfl rfl rfl), Nat.le_refl 0⟩
  have hgivenUp := (hfirst.tail ⟨.step (@Step.register _ [] _ _ rfl rfl), Nat.le_refl 0⟩).tail
    ⟨.giveUp rfl, Nat.le_refl 0⟩
  have hroom := hgivenUp.tail ⟨.step (.receive rfl rfl), Nat.zero_le 1⟩
  have hthird := ((hroom.tail ⟨.step (@Step.register _ [] _ _ rfl rfl), Nat.zero_le 1⟩).tail
    ⟨.step (.send rfl rfl rfl), Nat.zero_le 1⟩).tail ⟨.step (.receive rfl rfl), Nat.zero_le 2⟩
  have hfourth := ((hthird.tail ⟨.step (@Step.register _ [] _ _ rfl rfl), Nat.zero_le 2⟩).tail
    ⟨.step (.send rfl rfl rfl), Nat.zero_le 2⟩).tail ⟨.step (.receive rfl rfl), Nat.zero_le 3⟩
  have hread := ((hfourth.tail ⟨.step (.read rfl (response 0)), Nat.le_add_left 1 2⟩).tail
    ⟨.step (.read rfl (response 1)), Nat.le_succ 2⟩).tail
    ⟨.step (.read rfl (response 2)), Nat.le_refl 3⟩
  exact ⟨_, ⟨_, _, _, hread⟩, rfl, rfl, rfl⟩

/-- The response to the request of one submission may go to another submission. -/
theorem not_answers_reach_own :
    ¬ ∀ exchange : Exchange, Reachable (Served LooseStep) exchange →
      ∀ (position own ticket : Nat) (request : AppendRequest) (response : AppendResponse),
        exchange.responses[position]? = some response →
        exchange.sent[position]? = some (own, request) →
        exchange.resolutions[position]? = some (ticket, .ok response) → ticket = own := by
  intro hclaim
  obtain ⟨exchange, hreachable, hresponses, hsent, hresolutions⟩ := exists_exchange
  have hthird : (exchange.sent.map Prod.fst)[2]? = some 3 := by rw [hsent]; rfl
  rw [List.getElem?_map, Option.map_eq_some_iff] at hthird
  obtain ⟨⟨own, request⟩, hrequest, rfl⟩ := hthird
  have hsame := hclaim exchange hreachable 2 3 2 request (response 2) (hresponses ▸ rfl) hrequest
    (hresolutions ▸ rfl)
  contradiction

theorem answer_reaches_own_iff_of_exchange :
    ∃ exchange, Reachable (Served LooseStep) exchange ∧
      (2, .ok (response 2)) ∈ exchange.resolutions ∧
      ∃ own request, exchange.sent[2]? = some (own, request) ∧ own ≠ 2 := by
  obtain ⟨exchange, hreachable, _, hsent, hresolutions⟩ := exists_exchange
  have hresolution : (2, .ok (response 2)) ∈ exchange.resolutions := by
    simp [hresolutions]
  obtain ⟨_, own, request, hrequest, hown⟩ := answer_reaches_own_iff hreachable hresolution
  refine ⟨exchange, hreachable, hresolution, own, request, hrequest, fun hsame => ?_⟩
  have hmem := hown.mp hsame 1 (Nat.le_succ 1)
  rw [hsent] at hmem
  contradiction

end AbandonedSubmission

end RowSink
