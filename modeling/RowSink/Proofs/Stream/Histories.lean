import Mathlib.Data.List.Basic
import RowSink.Proofs.Stream.Sections

/-!
# Histories

What happens to the threads of a world happens in one order. In that order every section runs on the
writer that the sections before it left, so what a section does to the ledger carries over to whole
histories; and each thread, seen alone, runs its own task.
-/

namespace RowSink

open Ledger

/-- A section ran on a writer as its steps say. -/
inductive Happening.Fits (writer : WriterState) : Happening → Prop where
  | asked {call : ClientCall} (hown : ∀ part, call ≠ .perform part) (answer : call.Answer) :
      Fits writer (.asked call answer)
  | performed {part : WriterSection} {events : List StreamEvent} {answer : part.Answer}
      (hruns : (part.steps writer).Runs events answer) : Fits writer (.performed part events answer)
  | interrupted {part : WriterSection} {events : List StreamEvent} {pending : StreamCall}
      {continuation : pending.Answer → Steps part.Answer}
      (hreaches : (part.steps writer).Reaches events (.ask pending continuation))
      (hwaits : pending.waits) : Fits writer (.interrupted part events pending)

theorem Happening.Fits.exists_performed {writer : WriterState} {happening : Happening}
    (hfits : happening.Fits writer) {part : WriterSection} {answer : part.Answer}
    (hanswered : happening.answered? = some ⟨.perform part, answer⟩) :
    ∃ events, happening = .performed part events answer ∧
      (part.steps writer).Runs events answer := by
  cases hfits with
  | asked hown found =>
    cases hanswered
    exact absurd rfl (hown part)
  | performed hruns =>
    cases hanswered
    exact ⟨_, rfl, hruns⟩
  | interrupted _ _ => contradiction

/-- A reading of the row type makes no calls. -/
theorem Happening.Fits.reads {writer : WriterState} {happening : Happening}
    (hfits : happening.Fits writer) {answer : Except SinkError RowType}
    (hanswered : happening.answered? = some ⟨.perform .rowType, answer⟩) :
    happening = .performed .rowType [] answer ∧ Writer.rowType writer = answer := by
  obtain ⟨events, rfl, hruns⟩ := hfits.exists_performed hanswered
  cases hruns
  exact ⟨rfl, rfl⟩

theorem Happening.eq_asked {happening : Happening} {call : ClientCall} {answer : call.Answer}
    (hanswered : happening.answered? = some ⟨call, answer⟩) (hown : ∀ part, call ≠ .perform part) :
    happening = .asked call answer := by
  cases happening with
  | asked found value =>
    cases hanswered
    rfl
  | performed part events value =>
    cases hanswered
    exact absurd rfl (hown part)
  | interrupted part events pending => contradiction

/-- A first start or a start of what is started already, that succeeded. -/
inductive Happening.Starts : Happening → Prop where
  | performed (events : List StreamEvent) : Starts (.performed .start events (.ok ()))

theorem WriterState.after_append (state : WriterState) (first second : List StreamEvent) :
    state.after (first ++ second) = (state.after first).after second :=
  List.foldl_append

namespace History

/-- Every section ran on the writer that those before it left. -/
def Valid (writer : WriterState) : History → Prop
  | [] => True
  | (_, happening) :: rest =>
    happening.Fits writer ∧ Valid (writer.after happening.events) rest

/-- Some start succeeded. -/
def Started (history : History) : Prop :=
  ∃ entry ∈ history, entry.2.Starts

theorem events_append (first second : History) :
    events (first ++ second) = events first ++ events second :=
  List.flatMap_append

theorem valid_append_iff {writer : WriterState} {first second : History} :
    Valid writer (first ++ second) ↔
      Valid writer first ∧ Valid (writer.after first.events) second := by
  induction first generalizing writer with
  | nil => simp [Valid, events, WriterState.after]
  | cons entry rest ih =>
    obtain ⟨index, happening⟩ := entry
    simp only [List.cons_append, Valid, ih, and_assoc, events, List.flatMap_cons,
      WriterState.after_append]

end History

namespace Ledger

theorem writer_note (ledger : Ledger) (event : StreamEvent) :
    (ledger.note event).writer = ledger.writer.note event := by
  obtain ⟨call, answer⟩ := event
  cases call with
  | openStream type => cases answer <;> rfl
  | updatedSchema handle => cases answer <;> rfl
  | _ => rfl

theorem writer_follow (ledger : Ledger) (events : List StreamEvent) :
    (ledger.follow events).writer = ledger.writer.after events := by
  induction events generalizing ledger with
  | nil => rfl
  | cons event rest ih =>
    rw [follow, List.foldl_cons, ← follow, ih, writer_note]
    rfl

theorem follow_cons (ledger : Ledger) (entry : Nat × Happening) (rest : History) :
    ledger.follow (History.events (entry :: rest)) =
      (ledger.follow entry.2.events).follow rest.events := by
  rw [History.events, List.flatMap_cons, follow_append, History.events]

/-- What happens leaves the ledger as it opened the first stream, or else after some turns. -/
theorem follow_of_fits {ledger : Ledger} {happening : Happening}
    (hfits : happening.Fits ledger.writer) :
    (∃ type handle, ledger.writer = .uninitialized ∧ happening.Starts ∧
      ledger.follow happening.events = ledger.withStream ⟨type, handle⟩) ∨
    Turns ledger (ledger.follow happening.events) ∧
      (happening.Starts → ∃ type, Writer.rowType ledger.writer = .ok type) := by
  cases hfits with
  | asked hown answer => exact .inr ⟨.refl, nofun⟩
  | interrupted hreaches hwaits =>
    rename_i part events pending continuation
    have hwaiting := (part.steps_ending ledger).allowed_of_reaches hreaches hwaits
    exact .inr ⟨hwaiting.turns, nofun⟩
  | performed hruns =>
    rename_i part events answer
    have hending := (part.steps_ending ledger).ends_of_runs hruns
    generalize hfollow : events.foldl note ledger = later at hending
    rw [show ledger.follow (Happening.performed part events answer).events = later from hfollow]
    cases hending with
    | started hwriter handle => exact .inl ⟨_, handle, hwriter, .performed events, rfl⟩
    | unchanged htype => exact .inr ⟨.refl, fun _ => ⟨_, htype⟩⟩
    | unstarted error => exact .inr ⟨.refl, nofun⟩
    | read => exact .inr ⟨.refl, nofun⟩
    | submitted hturns _ _ => exact .inr ⟨hturns, nofun⟩
    | closed hturns => exact .inr ⟨hturns, nofun⟩

section Preservation

variable {motive : Ledger → Prop}
  (hturn : ∀ ledger later, Turn ledger later → motive ledger → motive later)
include hturn

/-- What one turn preserves, any number of turns preserves. -/
theorem Turns.preserve {ledger later : Ledger} (hturns : Turns ledger later)
    (hledger : motive ledger) : motive later := by
  induction hturns with
  | refl => exact hledger
  | tail _ hlast ih => exact hturn _ _ hlast ih

/-- What one turn and the opening of the first stream preserve, histories preserve. -/
theorem follow_preserves
    (hopened : ∀ ledger stream, ledger.writer = .uninitialized → motive ledger →
      motive (ledger.withStream stream))
    {ledger : Ledger} {history : History} (hvalid : history.Valid ledger.writer)
    (hledger : motive ledger) : motive (ledger.follow history.events) := by
  induction history generalizing ledger with
  | nil => exact hledger
  | cons entry rest ih =>
    obtain ⟨hfits, hrest⟩ := hvalid
    rw [← writer_follow] at hrest
    rw [follow_cons]
    apply ih hrest
    obtain ⟨type, handle, hwriter, _, hfollow⟩ | ⟨hturns, _⟩ := follow_of_fits hfits
    · rw [hfollow]
      exact hopened ledger ⟨type, handle⟩ hwriter hledger
    · exact hturns.preserve hturn hledger

end Preservation

/-- A writer that is ready has the stream that was opened last. -/
def Sound (ledger : Ledger) : Prop :=
  ∀ stream, ledger.writer = .ready stream → ledger.opened = some stream

/-- The rows of a writer have a type that they had before or that was reported since. -/
def Typed (target : RowType) (ledger : Ledger) : Prop :=
  ∃ type, Writer.rowType ledger.writer = .ok type ∧
    (type = target ∨ ∃ schema ∈ ledger.reports, Writer.rowTypeOf schema = .ok type)

section Invariants

variable {ledger later : Ledger} {target : RowType}

theorem Turn.sound (ledger later : Ledger) (hturn : Turn ledger later) (hsound : ledger.Sound) :
    later.Sound := by
  intro stream hready
  cases hturn with
  | reported schema => exact hsound stream hready
  | broke _ _ => contradiction
  | opened _ handle => exact congrArg some (WriterState.ready.inj hready)
  | submitted _ rows answer => exact hsound stream hready
  | closed => contradiction

theorem Turn.typed (ledger later : Ledger) (hturn : Turn ledger later)
    (htyped : ledger.Typed target) : later.Typed target := by
  obtain ⟨type, htype, hknown⟩ := htyped
  cases hturn with
  | reported schema =>
    refine ⟨type, htype, hknown.imp_right ?_⟩
    intro hreported
    obtain ⟨found, hmem, hfound⟩ := hreported
    exact ⟨found, List.mem_append_left _ hmem, hfound⟩
  | broke hready hbroken =>
    rw [hready] at htype
    obtain rfl := Except.ok.inj htype
    obtain rfl | hreported := hbroken
    · exact ⟨_, rfl, hknown⟩
    · exact ⟨_, rfl, .inr hreported⟩
  | opened hbroken handle =>
    rw [hbroken] at htype
    exact ⟨type, htype, hknown⟩
  | submitted _ rows answer => exact ⟨type, htype, hknown⟩
  | closed =>
    refine ⟨type, ?_, hknown⟩
    rw [htype]
    rfl

/-- Once a writer has a row type it never is without one, and nothing but a start gives it one. -/
theorem Turn.exists_rowType_iff (hturn : Turn ledger later) :
    (∃ type, Writer.rowType later.writer = .ok type) ↔
      ∃ type, Writer.rowType ledger.writer = .ok type := by
  cases hturn with
  | reported schema => rfl
  | broke hready _ => simp [hready, Writer.rowType]
  | opened hbroken handle => simp [hbroken, withStream, Writer.rowType]
  | submitted _ rows answer => rfl
  | closed =>
    cases htype : Writer.rowType ledger.writer <;>
      simp [Except.toOption, Writer.rowType]

theorem Turns.exists_rowType_iff (hturns : Turns ledger later) :
    (∃ type, Writer.rowType later.writer = .ok type) ↔
      ∃ type, Writer.rowType ledger.writer = .ok type :=
  hturns.preserve (fun _ _ hturn hiff => hturn.exists_rowType_iff.trans hiff) Iff.rfl

end Invariants

section Histories

variable {ledger : Ledger} {history : History} {target : RowType}

theorem Sound.follow (hvalid : history.Valid ledger.writer) (hsound : ledger.Sound) :
    (ledger.follow history.events).Sound := by
  apply follow_preserves Turn.sound _ hvalid hsound
  intro ledger stream _ _ found hready
  exact congrArg some (WriterState.ready.inj hready)

theorem Typed.follow (hvalid : history.Valid ledger.writer) (htyped : ledger.Typed target) :
    (ledger.follow history.events).Typed target := by
  apply follow_preserves Turn.typed _ hvalid htyped
  intro ledger stream hwriter htyped
  obtain ⟨type, htype, _⟩ := htyped
  rw [hwriter] at htype
  contradiction

/-- A writer has a row type if and only if it had one before or some start succeeded. -/
theorem exists_rowType_follow_iff (hvalid : history.Valid ledger.writer) :
    (∃ type, Writer.rowType (ledger.follow history.events).writer = .ok type) ↔
      (∃ type, Writer.rowType ledger.writer = .ok type) ∨ history.Started := by
  induction history generalizing ledger with
  | nil => simp [History.events, Ledger.follow, History.Started]
  | cons entry rest ih =>
    obtain ⟨hfits, hrest⟩ := hvalid
    rw [follow_cons]
    rw [← writer_follow] at hrest
    rw [ih hrest]
    simp only [History.Started, List.exists_mem_cons_iff]
    obtain ⟨type, handle, hwriter, hstarts, hfollow⟩ | ⟨hturns, hstarts⟩ := follow_of_fits hfits
    · simp [hfollow, hstarts, withStream, Writer.rowType]
    · rw [hturns.exists_rowType_iff]
      tauto

end Histories

end Ledger

/-- A writer has a row type if and only if some start succeeded. -/
theorem History.Valid.exists_rowType_iff {history : History}
    (hvalid : history.Valid .uninitialized) :
    (∃ type, Writer.rowType (WriterState.uninitialized.after history.events) = .ok type) ↔
      history.Started := by
  have hempty : history.Valid ({} : Ledger).writer := hvalid
  have hiff := exists_rowType_follow_iff hempty
  rw [writer_follow] at hiff
  simpa [Writer.rowType] using hiff

end RowSink
