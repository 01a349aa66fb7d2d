import Mathlib.Data.List.Basic
import RowSink.Row.Projection

/-!
# What a row type sees of a record

Of a record, a row type sees the fields that have a column, and of the records within those that
have one in turn. The row of a record, or the reason why there is none, depends on nothing else.
-/

namespace RowSink

section Visible

mutual

/-- The fields that have a column, and what is seen of them. -/
def visibleEntries (target : RowType) : List Entry → List Entry
  | [] => []
  | ⟨number, name, content⟩ :: rest =>
    match target.column? (Text.lowerCase name) with
    | none => visibleEntries target rest
    | some column => ⟨number, name, content.visible column⟩ :: visibleEntries target rest

/-- What a column sees of a content. Nothing is seen of a map that has no records to go to. -/
def Content.visible (column : Column) : Content → Content
  | .map pairs =>
    match column.kind with
    | .record entryType => .map (visiblePairs entryType pairs)
    | _ => .map []
  | .list items => .list (visibleItems column items)
  | .single value => .single (value.visible column)

def visibleItems (column : Column) : List Value → List Value
  | [] => []
  | value :: rest => value.visible column :: visibleItems column rest

/-- The keys of a map are seen, and the values if there is a column for them. -/
def visiblePairs (entryType : RowType) : List Pair → List Pair
  | [] => []
  | ⟨key, value⟩ :: rest =>
    ⟨key,
      match entryType.column? "value" with
      | none => .scalar (.bool false)
      | some column => value.visible column⟩ :: visiblePairs entryType rest

/-- What a column sees of a value. Timestamps and free-form structures are seen as a whole, and of
any other message the fields that have a column in its record. -/
def Value.visible (column : Column) : Value → Value
  | .scalar value => .scalar value
  | .enumeration number name => .enumeration number name
  | .message ⟨typeName, entries, unknown⟩ =>
    if typeName = WellKnown.timestampName ∨ typeName = WellKnown.structName then
      .message ⟨typeName, entries, unknown⟩
    else
      match column.kind with
      | .record target => .message ⟨typeName, visibleEntries target entries, []⟩
      | _ => .message ⟨typeName, [], []⟩

end

/-- What is seen of a record. -/
def Message.visible (target : RowType) (record : Message) : Message :=
  ⟨record.typeName, visibleEntries target record.entries, []⟩

end Visible

section Erasure

variable {projection : Projection}

/-- Only the column of that name matters to a fill. -/
theorem Message.fill_congr {record : Message} {type : RowType} {name : String}
    {store other : Column → Except ConversionError Value}
    (hsame : ∀ column, type.column? name = some column → store column = other column) :
    record.fill type name store = record.fill type name other := by
  rw [fill, fill]
  cases hcolumn : type.column? name with
  | none => rfl
  | some column =>
    dsimp only
    rw [hsame column hcolumn]

mutual

/-- What is not seen of the fields has no bearing on the row. -/
theorem projectEntries_visible (top : Bool) (target : RowType) :
    ∀ (entries : List Entry) (row : Message),
      projectEntries projection top target row (visibleEntries target entries) =
        projectEntries projection top target row entries
  | [], _ => rfl
  | ⟨_, name, content⟩ :: rest, row => by
    conv_rhs => rw [projectEntries]
    rw [visibleEntries]
    cases hcolumn : target.column? (Text.lowerCase name) with
    | none => exact projectEntries_visible top target rest row
    | some column =>
      dsimp only
      rw [projectEntries, hcolumn]
      dsimp only
      rw [Content.project_visible column content]
      cases content.project projection (top && projection.partitionKey == some column.name)
          column with
      | error error => rfl
      | ok stored => exact projectEntries_visible top target rest _
termination_by structural entries => entries

theorem Content.project_visible (column : Column) :
    ∀ (content : Content) (partition : Bool),
      (content.visible column).project projection partition column =
        content.project projection partition column
  | .map pairs, partition => by
    rw [Content.visible, Content.project]
    cases hkind : column.kind with
    | record entryType =>
      dsimp only
      rw [Content.project, hkind]
      dsimp only
      rw [projectPairs_visible entryType pairs]
    | _ => rw [Content.project, hkind]
  | .list items, partition => by
    rw [Content.visible, Content.project, Content.project, projectItems_visible column items]
  | .single value, partition => by
    rw [Content.visible, Content.project, Content.project, Value.project_visible column value]
termination_by structural content => content

theorem projectItems_visible (column : Column) : ∀ items : List Value,
    projectItems projection column (visibleItems column items) =
      projectItems projection column items
  | [] => rfl
  | value :: rest => by
    rw [visibleItems, projectItems, projectItems, Value.project_visible column value,
      projectItems_visible column rest]
termination_by structural items => items

theorem projectPairs_visible (entryType : RowType) : ∀ pairs : List Pair,
    projectPairs projection entryType (visiblePairs entryType pairs) =
      projectPairs projection entryType pairs
  | [] => rfl
  | ⟨key, value⟩ :: rest => by
    rw [visiblePairs, projectPairs, projectPairs, projectPairs_visible entryType rest]
    cases (Message.empty entryType.name).fill entryType "key"
        fun column => (column.coerce key).map .scalar with
    | error error => rfl
    | ok keyed =>
      dsimp only
      rw [Message.fill_congr fun column hcolumn => ?_]
      rw [hcolumn]
      exact Value.project_visible column value false
termination_by structural pairs => pairs

theorem Value.project_visible (column : Column) : ∀ (value : Value) (partition : Bool),
    (value.visible column).project projection partition column =
      value.project projection partition column
  | .scalar value, _ => rfl
  | .enumeration number name, _ => rfl
  | .message ⟨typeName, entries, unknown⟩, partition => by
    rw [Value.visible]
    split
    · rfl
    · rename_i hrecord
      rw [not_or] at hrecord
      conv_rhs => rw [Value.project, if_neg hrecord.1, if_neg hrecord.2]
      cases hkind : column.kind with
      | record target =>
        dsimp only
        rw [Value.project, if_neg hrecord.1, if_neg hrecord.2, hkind]
        dsimp only
        rw [projectEntries_visible false target entries]
      | _ => rw [Value.project, if_neg hrecord.1, if_neg hrecord.2, hkind]
termination_by structural value => value

end

/-- The row of a record is the row of what is seen of it. -/
theorem Projection.row_visible (target : RowType) (record : Message) :
    projection.row target (record.visible target) = projection.row target record := by
  obtain ⟨typeName, entries, unknown⟩ := record
  exact projectEntries_visible true target entries _

end Erasure

end RowSink
