import RowSink.Proofs.Message.Canonical
import RowSink.Protocol.Messages

/-!
# Messages of the service as slots

Every property of a table schema, a status, an answer or a write stream is a slot of the message
that is written for it: no entry at all if the property is absent or, without presence, the default
one, and else the entry with the number of the property. The slots of a message stand in ascending
order of their numbers, and at most one of them belongs to a group of fields, so the message is
canonical for its type.
-/

namespace RowSink

section Slots

variable {pool : Pool} {type : MessageType}

/-- The entries that one property of a message leads to. -/
def Slot (pool : Pool) (type : MessageType) (number : Nat) (entries : List Entry) : Prop :=
  entries = [] ∨ ∃ name content, entries = [⟨number, name, content⟩] ∧
    entriesCanonical pool type entries

/-- The entries of slots in ascending order, the first of which has at least the number `least`. -/
structure Slots (pool : Pool) (type : MessageType) (least : Nat) (entries : List Entry) : Prop where
  canonical : entriesCanonical pool type entries
  ascending : entries.Pairwise (fun left right => left.number < right.number)
  bounded : ∀ entry ∈ entries, least ≤ entry.number

namespace Slots

variable {number least : Nat} {entries rest : List Entry}

theorem nil (pool : Pool) (type : MessageType) (least : Nat) : Slots pool type least [] :=
  ⟨trivial, .nil, nofun⟩

theorem append (hslot : Slot pool type number entries) (hnumber : least ≤ number)
    (hrest : Slots pool type (number + 1) rest) : Slots pool type least (entries ++ rest) := by
  rcases hslot with rfl | ⟨name, content, rfl, hentry⟩
  · refine ⟨hrest.canonical, hrest.ascending, fun entry hmem => ?_⟩
    have hless := hrest.bounded entry hmem
    omega
  · rw [List.singleton_append]
    refine ⟨?_, List.pairwise_cons.mpr ⟨hrest.bounded, hrest.ascending⟩, ?_⟩
    · rw [entriesCanonical] at hentry ⊢
      exact ⟨hentry.1, hentry.2.1, hentry.2.2.1, hrest.canonical⟩
    · rw [List.forall_mem_cons]
      refine ⟨hnumber, fun entry hmem => ?_⟩
      have hless := hrest.bounded entry hmem
      omega

theorem last (hslot : Slot pool type number entries) (hnumber : least ≤ number) :
    Slots pool type least entries := by
  have hslots := append hslot hnumber (.nil pool type (number + 1))
  rwa [List.append_nil] at hslots

/-- The fields of slots from the number `least` on are in no group if no such field is. -/
theorem ungrouped (hslots : Slots pool type least entries)
    (hgroups : ∀ field ∈ type.fields, least ≤ field.number → field.oneof = none) :
    ∀ entry ∈ entries, ∀ field, type.field? entry.number = some field → field.oneof = none := by
  intro entry hentry field hfield
  have hnumber : field.number = entry.number := by simpa using List.find?_some hfield
  exact hgroups field (List.mem_of_find?_eq_some hfield) (hnumber ▸ hslots.bounded entry hentry)

/-- Slots make a canonical message if at most the first one belongs to a group of fields. -/
theorem canonical_of_tail (hslots : Slots pool type 0 entries)
    (hblank : type.blank pool = .empty type.name)
    (hgroups : ∀ entry ∈ entries.tail, ∀ field, type.field? entry.number = some field →
      field.oneof = none) :
    (Message.mk type.name entries []).Canonical pool type := by
  have hapart : ∀ left : Entry, ∀ right ∈ entries.tail, ∀ field,
      type.field? right.number = some field → left.number ∉ type.siblings field := by
    intro left right hright field hfield
    rw [MessageType.siblings, hgroups right hright field hfield]
    exact List.not_mem_nil
  rw [Message.Canonical]
  refine ⟨rfl, rfl, hblank, hslots.ascending, ?_, hslots.canonical⟩
  cases entries with
  | nil => exact .nil
  | cons first rest =>
    refine List.pairwise_cons.mpr ⟨hapart first, ?_⟩
    exact hslots.ascending.of_cons.imp_of_mem fun _ hright _ => hapart _ _ hright

/-- Slots make a canonical message of a type without groups of fields. -/
theorem canonical_message (hslots : Slots pool type 0 entries)
    (hblank : type.blank pool = .empty type.name)
    (hgroups : ∀ field ∈ type.fields, field.oneof = none) :
    (Message.mk type.name entries []).Canonical pool type :=
  hslots.canonical_of_tail hblank fun entry hentry =>
    hslots.ungrouped (fun field hfield _ => hgroups field hfield) entry
      (List.mem_of_mem_tail hentry)

end Slots

open Protocol

theorem slot_scalarEntry (number : Nat) {name : String} {kind : ScalarKind} {value : Scalar}
    (hfield : type.field? number = some (plain number name kind)) (hkind : value.kind = kind)
    (hpositive : 0 < number) (hnumber : number < Nat.pow 2 29) :
    Slot pool type number (scalarEntry number name value) := by
  rw [scalarEntry]
  split
  · exact .inl rfl
  · rename_i hpresent
    refine .inr ⟨name, .single (.scalar value), rfl, ?_⟩
    rw [entriesCanonical]
    refine ⟨hpositive, hnumber, ⟨_, hfield, rfl, rfl, ?_⟩, trivial⟩
    rw [Content.Canonical, Value.Canonical, hkind]
    exact ⟨false, rfl, rfl, fun _ => by simpa [Value.isDefault] using hpresent⟩

theorem slot_messageEntry (number : Nat) {name typeName : String} {oneof : Option String}
    {message? : Option Message}
    (hfield : type.field? number =
      some { number, name, kind := .message typeName, shape := .single true, oneof })
    (hpositive : 0 < number) (hnumber : number < Nat.pow 2 29)
    (hmessage : ∀ message ∈ message?, message.Canonical pool (pool.messageType typeName)) :
    Slot pool type number (messageEntry number name message?) := by
  cases message? with
  | none => exact .inl rfl
  | some message =>
    refine .inr ⟨name, .single (.message message), rfl, ?_⟩
    rw [messageEntry, entriesCanonical]
    refine ⟨hpositive, hnumber, ⟨_, hfield, rfl, rfl, ?_⟩, trivial⟩
    rw [Content.Canonical, Value.Canonical]
    exact ⟨true, rfl, ⟨typeName, rfl, hmessage message rfl⟩, fun hpresence => by cases hpresence⟩

theorem slot_listEntry (number : Nat) {name typeName : String} {items : List Value}
    (hfield : type.field? number = some (nestedList number name typeName))
    (hpositive : 0 < number) (hnumber : number < Nat.pow 2 29)
    (hitems : itemsCanonical pool (.message typeName) items) :
    Slot pool type number (listEntry number name items) := by
  cases items with
  | nil => exact .inl rfl
  | cons value rest =>
    refine .inr ⟨name, .list (value :: rest), rfl, ?_⟩
    change entriesCanonical pool type [⟨number, name, .list (value :: rest)⟩]
    rw [entriesCanonical]
    refine ⟨hpositive, hnumber, ⟨_, hfield, rfl, rfl, ?_⟩, trivial⟩
    rw [Content.Canonical]
    exact ⟨rfl, List.cons_ne_nil _ _, hitems⟩

/-- The messages made of a list are canonical elements if each of them is canonical. -/
theorem itemsCanonical_map {α : Type} {typeName : String} {make : α → Message} {values : List α}
    (hmake : ∀ value ∈ values, (make value).Canonical pool (pool.messageType typeName)) :
    itemsCanonical pool (.message typeName) (values.map fun value => .message (make value)) := by
  induction values with
  | nil => trivial
  | cons value rest ih =>
    rw [List.forall_mem_cons] at hmake
    rw [List.map_cons, itemsCanonical, Value.Canonical]
    exact ⟨⟨typeName, rfl, hmake.1⟩, ih hmake.2⟩

/-- The message made of a value that may be absent is canonical if it is there. -/
theorem canonical_of_mem_map {α : Type} {typeName : String} {make : α → Message} {value? : Option α}
    (hmake : ∀ value ∈ value?, (make value).Canonical pool (pool.messageType typeName)) :
    ∀ message ∈ value?.map make, message.Canonical pool (pool.messageType typeName) := by
  intro message hmessage
  obtain ⟨value, hvalue, rfl⟩ := Option.map_eq_some_iff.mp hmessage
  exact hmake value hvalue

end Slots

namespace Protocol

section Canonical

theorem canonical_detailMessage (detail : Detail) : (detailMessage detail).Canonical pool any := by
  refine Slots.canonical_message ?_ rfl (by decide)
  refine .append (slot_scalarEntry 1 rfl rfl (by decide) (by decide)) (Nat.zero_le _) ?_
  exact .last (slot_scalarEntry 2 rfl rfl (by decide) (by decide)) (by decide)

theorem canonical_statusMessage (value : RemoteStatus) :
    (statusMessage value).Canonical pool status := by
  refine Slots.canonical_message ?_ rfl (by decide)
  rw [List.append_assoc]
  refine .append (slot_scalarEntry 1 rfl rfl (by decide) (by decide)) (Nat.zero_le _) ?_
  refine .append (slot_scalarEntry 2 rfl rfl (by decide) (by decide)) (by decide) ?_
  refine .last (slot_listEntry 3 rfl (by decide) (by decide) ?_) (by decide)
  exact itemsCanonical_map fun detail _ => canonical_detailMessage detail

mutual

theorem canonical_columnMessage : ∀ column : ColumnSchema,
    (columnMessage column).Canonical pool columnSchema
  | ⟨name, type, mode, fields, description, maxLength, precision, scale, defaultValue⟩ => by
    rw [columnMessage]
    refine Slots.canonical_message ?_ rfl (by decide)
    simp only [List.append_assoc]
    refine .append (slot_scalarEntry 1 rfl rfl (by decide) (by decide)) (Nat.zero_le _) ?_
    refine .append (slot_scalarEntry 2 rfl rfl (by decide) (by decide)) (by decide) ?_
    refine .append (slot_scalarEntry 3 rfl rfl (by decide) (by decide)) (by decide) ?_
    refine .append (slot_listEntry 4 rfl (by decide) (by decide)
      (itemsCanonical_columnValues fields)) (by decide) ?_
    refine .append (slot_scalarEntry 6 rfl rfl (by decide) (by decide)) (by decide) ?_
    refine .append (slot_scalarEntry 7 rfl rfl (by decide) (by decide)) (by decide) ?_
    refine .append (slot_scalarEntry 8 rfl rfl (by decide) (by decide)) (by decide) ?_
    refine .append (slot_scalarEntry 9 rfl rfl (by decide) (by decide)) (by decide) ?_
    exact .last (slot_scalarEntry 10 rfl rfl (by decide) (by decide)) (by decide)
termination_by structural column => column

theorem itemsCanonical_columnValues : ∀ columns : List ColumnSchema,
    itemsCanonical pool (.message "TableFieldSchema") (columnValues columns)
  | [] => trivial
  | column :: rest => by
    rw [columnValues, itemsCanonical, Value.Canonical]
    exact ⟨⟨_, rfl, canonical_columnMessage column⟩, itemsCanonical_columnValues rest⟩
termination_by structural columns => columns

end

theorem canonical_schemaMessage (schema : TableSchema) :
    (schemaMessage schema).Canonical pool tableSchema := by
  refine Slots.canonical_message ?_ rfl (by decide)
  exact .last (slot_listEntry 1 rfl (by decide) (by decide)
    (itemsCanonical_columnValues schema.fields)) (Nat.zero_le _)

theorem canonical_wrapInt64 (value : Int64) : (wrapInt64 value).Canonical pool int64Value := by
  refine Slots.canonical_message ?_ rfl (by decide)
  exact .last (slot_scalarEntry 1 rfl rfl (by decide) (by decide)) (Nat.zero_le _)

theorem canonical_rowErrorMessage (value : RowError) :
    (rowErrorMessage value).Canonical pool rowError := by
  refine Slots.canonical_message ?_ rfl (by decide)
  rw [List.append_assoc]
  refine .append (slot_scalarEntry 1 rfl rfl (by decide) (by decide)) (Nat.zero_le _) ?_
  refine .append (slot_scalarEntry 2 rfl rfl (by decide) (by decide)) (by decide) ?_
  exact .last (slot_scalarEntry 3 rfl rfl (by decide) (by decide)) (by decide)

theorem canonical_instantMessage (instant : Instant) :
    (instantMessage instant).Canonical pool timestamp := by
  refine Slots.canonical_message ?_ rfl (by decide)
  refine .append (slot_scalarEntry 1 rfl rfl (by decide) (by decide)) (Nat.zero_le _) ?_
  exact .last (slot_scalarEntry 2 rfl rfl (by decide) (by decide)) (by decide)

/-- The place of an offset that may be absent. -/
theorem canonical_appendResult (offset : Option Int64) :
    (Message.mk "AppendResult" (messageEntry 1 "offset" (offset.map wrapInt64)) []).Canonical pool
      appendResult := by
  refine Slots.canonical_message ?_ rfl (by decide)
  refine .last (slot_messageEntry 1 rfl (by decide) (by decide) ?_)
    (Nat.zero_le _)
  exact canonical_of_mem_map fun value _ => canonical_wrapInt64 value

/-- What became of a batch is at most one of two properties of an answer. -/
theorem slots_verdictEntries {rest : List Entry} (verdict : Option Verdict)
    (hrest : Slots pool appendRowsResponse 3 rest) :
    Slots pool appendRowsResponse 0 (verdictEntries verdict ++ rest) := by
  cases verdict with
  | none => exact ⟨hrest.canonical, hrest.ascending, fun entry _ => Nat.zero_le _⟩
  | some verdict =>
    cases verdict with
    | appended offset =>
      rw [verdictEntries]
      refine .append (slot_messageEntry 1 rfl (by decide) (by decide) ?_)
        (Nat.zero_le 1) ⟨hrest.canonical, hrest.ascending, fun entry hentry => ?_⟩
      · intro message hmessage
        obtain rfl := Option.some.inj hmessage
        exact canonical_appendResult offset
      · exact Nat.le_of_succ_le (hrest.bounded entry hentry)
    | failed status =>
      rw [verdictEntries]
      refine .append (slot_messageEntry 2 rfl (by decide) (by decide) ?_)
        (Nat.zero_le 2) hrest
      intro message hmessage
      obtain rfl := Option.some.inj hmessage
      exact canonical_statusMessage status

theorem canonical_responseMessage (response : AppendResponse) :
    (responseMessage response).Canonical pool appendRowsResponse := by
  have hrest : Slots pool appendRowsResponse 3
      (messageEntry 3 "updated_schema" (response.updatedSchema.map schemaMessage) ++
        (listEntry 4 "row_errors"
            (response.rowErrors.map fun rowError => .message (rowErrorMessage rowError)) ++
          scalarEntry 5 "write_stream" (.string response.writeStream))) := by
    refine .append (slot_messageEntry 3 rfl (by decide) (by decide) ?_)
      (Nat.le_refl 3) ?_
    · exact canonical_of_mem_map fun schema _ => canonical_schemaMessage schema
    refine .append (slot_listEntry 4 rfl (by decide) (by decide) ?_) (by decide) ?_
    · exact itemsCanonical_map fun rowError _ => canonical_rowErrorMessage rowError
    exact .last (slot_scalarEntry 5 rfl rfl (by decide) (by decide)) (by decide)
  rw [responseMessage]
  simp only [List.append_assoc]
  refine (slots_verdictEntries response.verdict hrest).canonical_of_tail rfl ?_
  intro entry hentry
  refine hrest.ungrouped (by decide) entry ?_
  generalize response.verdict = verdict at hentry
  rcases verdict with _ | offset | status
  · exact List.mem_of_mem_tail hentry
  · exact hentry
  · exact hentry

theorem canonical_writeStreamMessage (stream : WriteStream) :
    (writeStreamMessage stream).Canonical pool writeStream := by
  refine Slots.canonical_message ?_ rfl (by decide)
  simp only [List.append_assoc]
  refine .append (slot_scalarEntry 1 rfl rfl (by decide) (by decide)) (Nat.zero_le _) ?_
  refine .append (slot_scalarEntry 2 rfl rfl (by decide) (by decide)) (by decide) ?_
  refine .append (slot_messageEntry 3 rfl (by decide) (by decide)
    (canonical_of_mem_map fun instant _ => canonical_instantMessage instant)) (by decide) ?_
  refine .append (slot_messageEntry 4 rfl (by decide) (by decide)
    (canonical_of_mem_map fun instant _ => canonical_instantMessage instant)) (by decide) ?_
  refine .append (slot_messageEntry 5 rfl (by decide) (by decide)
    (canonical_of_mem_map fun schema _ => canonical_schemaMessage schema)) (by decide) ?_
  refine .append (slot_scalarEntry 7 rfl rfl (by decide) (by decide)) (by decide) ?_
  exact .last (slot_scalarEntry 8 rfl rfl (by decide) (by decide)) (by decide)

end Canonical

end Protocol

end RowSink
