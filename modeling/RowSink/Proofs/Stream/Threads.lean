import RowSink.Proofs.Stream.Histories

/-!
# What a thread did

Seen alone, each thread of a world runs its own task, with answers that others may have had a part
in. A thread that was given up got no further than the call at which that happened, and a thread
that was not can always be run to its end.
-/

namespace RowSink

namespace History

theorem of_append (first second : History) (index : Nat) :
    of (first ++ second) index = of first index ++ of second index :=
  List.filterMap_append

theorem of_concat_self (history : History) (index : Nat) (happening : Happening) :
    of (history ++ [(index, happening)]) index = of history index ++ [happening] := by
  rw [of_append]
  simp [of]

theorem of_concat_other (history : History) {index other : Nat} (hother : other ≠ index)
    (happening : Happening) :
    of (history ++ [(other, happening)]) index = of history index := by
  rw [of_append]
  simp [of, hother]

theorem mem_of_iff {history : History} {index : Nat} {happening : Happening} :
    happening ∈ history.of index ↔ (index, happening) ∈ history := by
  simp only [of, List.mem_filterMap, Option.ite_none_right_eq_some, Option.some.injEq, Prod.exists]
  constructor
  · intro hfound
    obtain ⟨_, _, hmem, rfl, rfl⟩ := hfound
    exact hmem
  · intro hmem
    exact ⟨index, happening, hmem, rfl, rfl⟩

/-- A thread made some calls, and all of them were answered. -/
def Shows (history : History) (index : Nat) (calls : List ClientEvent) : Prop :=
  (history.of index).map Happening.answered? = calls.map some

theorem Shows.concat {history : History} {index : Nat} {calls : List ClientEvent}
    (hshows : history.Shows index calls) {happening : Happening} {event : ClientEvent}
    (hanswered : happening.answered? = some event) :
    Shows (history ++ [(index, happening)]) index (calls ++ [event]) := by
  calc
    ((history ++ [(index, happening)]).of index).map Happening.answered? =
        (history.of index).map Happening.answered? ++ [happening.answered?] := by
      rw [of_concat_self, List.map_append, List.map_singleton]
    _ = calls.map some ++ [some event] := by
      rw [hshows, hanswered]
    _ = (calls ++ [event]).map some := by
      rw [List.map_append, List.map_singleton]

/-- The first call of a thread, and what happened before and after it. -/
theorem Shows.exists_split {history : History} {index : Nat} {event : ClientEvent}
    {rest : List ClientEvent} (hshows : history.Shows index (event :: rest)) :
    ∃ earlier happening later, history = earlier ++ (index, happening) :: later ∧
      (∀ entry ∈ earlier, entry.1 ≠ index) ∧ happening.answered? = some event ∧
      Shows later index rest := by
  obtain ⟨happening, others, hof, hanswered, hothers⟩ := List.map_eq_cons_iff.mp hshows
  obtain ⟨earlier, ⟨thread, found⟩, later, rfl, hearlier, hfound, hlater⟩ :=
    List.filterMap_eq_cons_iff.mp hof
  simp only [Option.ite_none_right_eq_some, Option.some.injEq] at hfound
  obtain ⟨rfl, rfl⟩ := hfound
  refine ⟨earlier, found, later, rfl, fun entry hentry hsame => ?_, hanswered, ?_⟩
  · simpa [hsame] using hearlier entry hentry
  · rw [Shows, ← hothers]
    exact congrArg _ hlater

theorem Shows.concat_other {history : History} {index other : Nat} {calls : List ClientEvent}
    (hshows : history.Shows index calls) (hother : other ≠ index) (happening : Happening) :
    Shows (history ++ [(other, happening)]) index calls := by
  rw [Shows, of_concat_other history hother]
  exact hshows

end History

namespace World

variable {client : Client} {world later : World}

/-- What the history and the threads of a world have to do with each other. -/
structure Traced (client : Client) (world : World) : Prop where
  writer_eq : world.writer = WriterState.uninitialized.after world.history.events
  valid : world.history.Valid .uninitialized
  /-- A thread that was not given up is where its calls have led it. -/
  reaches : ∀ index request rest, world.threads[index]? = some ⟨request, some rest⟩ →
    ∃ calls, world.history.Shows index calls ∧ (request.task client).Reaches calls rest
  /-- Whatever happened, happened to a thread whose calls had led it there. -/
  called : ∀ before index happening after, world.history = before ++ (index, happening) :: after →
    ∃ request rest calls next, world.threads[index]? = some ⟨request, rest⟩ ∧
      History.Shows before index calls ∧
      (request.task client).Reaches calls (.ask happening.call next)

theorem Traced.lt_length (htraced : world.Traced client) {entry : Nat × Happening}
    (hentry : entry ∈ world.history) : entry.1 < world.threads.length := by
  obtain ⟨before, after, hsplit⟩ := List.mem_iff_append.mp hentry
  obtain ⟨_, _, _, _, hthread, _, _⟩ := htraced.called before entry.1 entry.2 after hsplit
  exact (List.getElem?_eq_some_iff.mp hthread).1

theorem Traced.of_eq_nil (htraced : world.Traced client) :
    world.history.of world.threads.length = [] := by
  apply List.filterMap_eq_nil_iff.mpr
  intro entry hentry
  have hless := htraced.lt_length hentry
  exact if_neg (by omega)

/-- A thread keeps its request whatever becomes of it. -/
theorem exists_thread_set {threads : List Thread} {index other : Nat} {request asked : Request}
    {rest : Option (Task asked.Result)} {old : Option (Task request.Result)}
    (hindex : threads[index]? = some ⟨request, old⟩) (new : Option (Task request.Result))
    (hother : threads[other]? = some ⟨asked, rest⟩) :
    ∃ kept, (threads.set index ⟨request, new⟩)[other]? = some ⟨asked, kept⟩ := by
  by_cases hsame : index = other
  · subst hsame
    rw [hindex, Option.some.injEq] at hother
    cases hother
    exact ⟨new, List.getElem?_set_self (List.getElem?_eq_some_iff.mp hindex).1⟩
  · exact ⟨rest, by rw [List.getElem?_set_ne hsame, hother]⟩

theorem traced_empty : Traced client {} where
  writer_eq := rfl
  valid := trivial
  reaches := by simp
  called := by simp

theorem Traced.begin (htraced : world.Traced client) (request : Request) :
    Traced client
      { world with threads := world.threads ++ [⟨request, some (request.task client)⟩] } where
  writer_eq := htraced.writer_eq
  valid := htraced.valid
  reaches := by
    intro index found rest hthread
    rw [List.getElem?_append] at hthread
    split at hthread
    · exact htraced.reaches index found rest hthread
    · rename_i hlength
      have hindex : index = world.threads.length := by
        have hless := (List.getElem?_eq_some_iff.mp hthread).1
        simp only [List.length_singleton] at hless
        omega
      subst hindex
      simp only [Nat.sub_self, List.getElem?_cons_zero, Option.some.injEq] at hthread
      cases hthread
      refine ⟨[], ?_, .here _⟩
      rw [History.Shows, htraced.of_eq_nil]
      rfl
  called := by
    intro before index happening after hsplit
    obtain ⟨found, rest, calls, next, hthread, hcalls⟩ :=
      htraced.called before index happening after hsplit
    refine ⟨found, rest, calls, next, ?_, hcalls⟩
    rwa [List.getElem?_append_left (List.getElem?_eq_some_iff.mp hthread).1]

theorem Traced.happen (htraced : world.Traced client) {index : Nat} {request : Request}
    (happening : Happening) {next : happening.call.Answer → Task request.Result}
    {rest : Option (Task request.Result)}
    (hthread : world.threads[index]? = some ⟨request, some (.ask happening.call next)⟩)
    (hfits : happening.Fits world.writer)
    (hrest : ∀ program, rest = some program →
      ∃ answer, happening.answered? = some ⟨happening.call, answer⟩ ∧ program = next answer) :
    Traced client (world.happen index ⟨request, rest⟩ happening
      (world.writer.after happening.events)) := by
  obtain ⟨calls, hshows, hreaches⟩ := htraced.reaches index request _ hthread
  have hindex := (List.getElem?_eq_some_iff.mp hthread).1
  constructor
  case writer_eq =>
    rw [World.happen, History.events_append, WriterState.after_append, ← htraced.writer_eq]
    simp [History.events]
  case valid =>
    rw [World.happen, History.valid_append_iff, ← htraced.writer_eq]
    exact ⟨htraced.valid, hfits, trivial⟩
  case reaches =>
    intro other found program hfound
    rw [World.happen, List.getElem?_set] at hfound
    split at hfound
    · rename_i hother
      subst hother
      rw [Option.some.injEq] at hfound
      cases hfound
      obtain ⟨answer, hanswered, rfl⟩ := hrest program rfl
      exact ⟨_, hshows.concat hanswered, hreaches.concat answer⟩
    · rename_i hother
      obtain ⟨seen, hseen, hprogram⟩ := htraced.reaches other found program hfound
      exact ⟨seen, hseen.concat_other hother happening, hprogram⟩
  case called =>
    intro before other found after hsplit
    -- What happened last is new, and everything before it is in the history already.
    simp only [World.happen] at hsplit
    rcases List.eq_nil_or_concat after with rfl | ⟨earlier, last, rfl⟩
    · obtain ⟨rfl, hlast⟩ := List.append_inj' hsplit rfl
      cases hlast
      refine ⟨request, rest, calls, next, ?_, hshows, hreaches⟩
      exact List.getElem?_set_self hindex
    · rw [List.concat_eq_append, ← List.cons_append, ← List.append_assoc] at hsplit
      obtain ⟨hearlier, _⟩ := List.append_inj' hsplit rfl
      obtain ⟨asked, _, seen, continuation, hasked, hcalls⟩ :=
        htraced.called before other found earlier hearlier
      obtain ⟨kept, hkept⟩ := exists_thread_set hthread rest hasked
      exact ⟨asked, kept, seen, continuation, hkept, hcalls⟩

theorem Traced.giveUp (htraced : world.Traced client) {index : Nat} {request : Request}
    {program : Task request.Result}
    (hthread : world.threads[index]? = some ⟨request, some program⟩) :
    Traced client { world with threads := world.threads.set index ⟨request, none⟩ } := by
  refine ⟨htraced.writer_eq, htraced.valid, ?reaches, ?called⟩
  case reaches =>
    intro other found rest hfound
    by_cases hother : index = other
    · subst hother
      rw [List.getElem?_set_self (List.getElem?_eq_some_iff.mp hthread).1,
        Option.some.injEq] at hfound
      cases hfound
    · rw [List.getElem?_set_ne hother] at hfound
      exact htraced.reaches other found rest hfound
  case called =>
    intro before other found after hsplit
    obtain ⟨asked, _, calls, next, hasked, hcalls⟩ :=
      htraced.called before other found after hsplit
    obtain ⟨kept, hkept⟩ := exists_thread_set hthread none hasked
    exact ⟨asked, kept, calls, next, hkept, hcalls⟩

theorem Traced.step (htraced : world.Traced client) (hstep : Step client world later) :
    later.Traced client := by
  cases hstep with
  | begin request => exact htraced.begin request
  | ask index call hthread hown answer =>
    apply htraced.happen (.asked call answer) hthread (.asked hown answer)
    intro program hprogram
    cases hprogram
    exact ⟨answer, rfl, rfl⟩
  | perform index hthread hruns =>
    apply htraced.happen (.performed _ _ _) hthread (.performed hruns)
    intro program hprogram
    cases hprogram
    exact ⟨_, rfl, rfl⟩
  | interrupt index hthread hreaches hwaits =>
    exact htraced.happen (.interrupted _ _ _) hthread (.interrupted hreaches hwaits) nofun
  | giveUp index hthread => exact htraced.giveUp hthread

theorem traced_of_reachable (hreachable : Reachable client world) : world.Traced client := by
  induction hreachable with
  | refl => exact traced_empty
  | tail _ hstep ih => exact ih.step hstep

instance (call : StreamCall) : Nonempty call.Answer :=
  match call with
  | .fetchSchema => ⟨.ok ⟨[]⟩⟩
  | .openStream _ => ⟨.ok 0⟩
  | .updatedSchema _ => ⟨none⟩
  | .isClosed _ => ⟨false⟩
  | .submit _ _ => ⟨.ok 0⟩
  | .closeStream _ => ⟨()⟩
  | .clock => ⟨(0 : Nat)⟩
  | .record _ => ⟨()⟩
  | .keep _ => ⟨()⟩

/-- Whatever a thread asks for may be granted. -/
theorem exists_step (client : Client) {index : Nat} {request : Request} {call : ClientCall}
    {next : call.Answer → Task request.Result}
    (hthread : world.threads[index]? = some ⟨request, some (.ask call next)⟩) :
    ∃ later answer, Step client world later ∧
      later.threads[index]? = some ⟨request, some (next answer)⟩ := by
  have hindex := (List.getElem?_eq_some_iff.mp hthread).1
  have hask (hown : ∀ part, call ≠ .perform part) (answer : call.Answer) :
      ∃ later answer, Step client world later ∧
        later.threads[index]? = some ⟨request, some (next answer)⟩ :=
    ⟨_, answer, .ask index call hthread hown answer, List.getElem?_set_self hindex⟩
  cases call with
  | perform part =>
    obtain ⟨events, answer, hruns⟩ := (part.steps world.writer).exists_runs
    exact ⟨_, answer, .perform index hthread hruns, List.getElem?_set_self hindex⟩
  | await ticket => exact hask nofun (Except.ok {})
  | clock => exact hask nofun (0 : Nat)
  | now => exact hask nofun (⟨0, 0⟩ : Instant)
  | record observation => exact hask nofun ()

/-- No thread ever gets stuck: it can be run to its end, from wherever it is. -/
theorem exists_end {index : Nat} {request : Request} {rest : Task request.Result}
    (hthread : world.threads[index]? = some ⟨request, some rest⟩) :
    ∃ later result, Relation.ReflTransGen (Step client) world later ∧
      later.threads[index]? = some ⟨request, some (.done result)⟩ := by
  induction rest generalizing world with
  | done result => exact ⟨world, result, .refl, hthread⟩
  | ask call next ih =>
    obtain ⟨middle, answer, hstep, hmiddle⟩ := exists_step client hthread
    obtain ⟨later, result, hleads, hlater⟩ := ih answer hmiddle
    exact ⟨later, result, .head hstep hleads, hlater⟩

end World

end RowSink
