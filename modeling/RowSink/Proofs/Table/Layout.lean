import Mathlib.Data.List.Range
import RowSink.Table.Resolution

/-!
# Layout of row types

How the columns of a row type follow from the columns of a table schema, and what a reader makes of
the description of a row type: a message type for each of its records under its full name, with a
field for each column. No two of the names are the same, so that a reader finds every record, and
columns are numbered from one on, so that it finds every column.
-/

namespace RowSink

section Layout

/-- The full name of the type of a record column of the type `scope`. -/
def recordScope (scope : String) (column : ColumnSchema) : String :=
  scope ++ "." ++ recordName (Text.lowerCase column.name)

/-- The columns that table columns lead to within the type `scope`, from the number `number` on. -/
inductive Layout : String → Nat → List ColumnSchema → List Column → Prop where
  | nil (scope : String) (number : Nat) : Layout scope number [] []
  | scalar {scope : String} {number : Nat} {column : ColumnSchema} {type : ColumnType}
      {kind : ColumnKind} {rest : List ColumnSchema} {columns : List Column}
      (hnumber : number ≤ maxColumnNumber)
      (htype : ColumnType.ofNumber? column.type.toInt = some type)
      (hkind : scalarKindOf? type = some kind) (hrest : Layout scope (number + 1) rest columns) :
      Layout scope number (column :: rest)
        (⟨number, Text.lowerCase column.name, cardinalityOf column.mode, kind⟩ :: columns)
  | record {scope : String} {number : Nat} {column : ColumnSchema} {rest : List ColumnSchema}
      {fields columns : List Column} (hnumber : number ≤ maxColumnNumber)
      (htype : ColumnType.ofNumber? column.type.toInt = some .struct)
      (hfields : Layout (recordScope scope column) 1 column.fields fields)
      (hrest : Layout scope (number + 1) rest columns) :
      Layout scope number (column :: rest)
        (⟨number, Text.lowerCase column.name, cardinalityOf column.mode,
          .record ⟨recordScope scope column, fields⟩⟩ :: columns)

mutual

theorem columnKindOf_eq_ok {scope : String} {kind : ColumnKind} :
    ∀ column : ColumnSchema, columnKindOf scope column = .ok kind →
      (∃ type, ColumnType.ofNumber? column.type.toInt = some type ∧
        scalarKindOf? type = some kind) ∨
      (ColumnType.ofNumber? column.type.toInt = some .struct ∧ ∃ fields,
        kind = .record ⟨recordScope scope column, fields⟩ ∧
          Layout (recordScope scope column) 1 column.fields fields)
  | ⟨name, type, mode, fields, description, maxLength, precision, scale, default⟩, hkind => by
    rw [columnKindOf] at hkind
    split at hkind
    · cases hkind
    · rename_i hstruct
      split at hkind
      · cases hkind
      · dsimp only at hkind
        cases hcolumns : columnsOf (scope ++ "." ++ recordName (Text.lowerCase name)) 1 fields with
        | error error =>
          rw [hcolumns] at hkind
          cases hkind
        | ok columns =>
          rw [hcolumns] at hkind
          cases hkind
          exact .inr ⟨hstruct, columns, rfl, layout_of_columnsOf fields hcolumns⟩
    · rename_i other _ hother
      split at hkind
      · rename_i scalar hscalar
        cases hkind
        exact .inl ⟨other, hother, hscalar⟩
      · cases hkind
termination_by structural column => column

theorem layout_of_columnsOf {scope : String} {number : Nat} {columns : List Column} :
    ∀ schemas : List ColumnSchema, columnsOf scope number schemas = .ok columns →
      Layout scope number schemas columns
  | [], hcolumns => by
    rw [columnsOf] at hcolumns
    cases hcolumns
    exact .nil scope number
  | column :: rest, hcolumns => by
    rw [columnsOf] at hcolumns
    split at hcolumns
    · cases hcolumns
    · rename_i hsmall
      have hnumber := Nat.le_of_not_lt hsmall
      split at hcolumns
      · cases hcolumns
      · rename_i kind hkind
        split at hcolumns
        · cases hcolumns
        · rename_i more hmore
          cases hcolumns
          rcases columnKindOf_eq_ok column hkind with
            ⟨type, htype, hscalar⟩ | ⟨htype, fields, rfl, hfields⟩
          · exact .scalar hnumber htype hscalar (layout_of_columnsOf rest hmore)
          · exact .record hnumber htype hfields (layout_of_columnsOf rest hmore)
termination_by structural schemas => schemas

end

theorem records_of_scalarKindOf? {type : ColumnType} {kind : ColumnKind}
    (hkind : scalarKindOf? type = some kind) : kind.records = [] := by
  cases type <;> cases hkind <;> rfl

theorem descriptors_of_scalarKindOf? {type : ColumnType} {kind : ColumnKind}
    (hkind : scalarKindOf? type = some kind) (name : String) : kind.descriptors name = [] := by
  cases type <;> cases hkind <;> rfl

namespace Layout

variable {scope : String} {number : Nat} {schemas : List ColumnSchema} {columns : List Column}

theorem map_number (hlayout : Layout scope number schemas columns) :
    columns.map Column.number = List.range' number columns.length := by
  induction hlayout with
  | nil scope number => rfl
  | scalar _ _ _ _ ih => rw [List.map_cons, List.length_cons, List.range'_succ, ih]
  | record _ _ _ _ _ ih => rw [List.map_cons, List.length_cons, List.range'_succ, ih]

/-- The columns of every record within are numbered from one on. -/
theorem map_number_of_mem (hlayout : Layout scope number schemas columns) :
    ∀ record ∈ recordsOf columns,
      record.columns.map Column.number = List.range' 1 record.columns.length := by
  induction hlayout with
  | nil scope number => exact nofun
  | scalar _ _ hkind _ ih =>
    rw [recordsOf, records_of_scalarKindOf? hkind, List.nil_append]
    exact ih
  | record _ _ hfields _ ihFields ihRest =>
    rw [recordsOf, ColumnKind.records, RowType.records, List.cons_append, List.forall_mem_cons]
    refine ⟨hfields.map_number, fun record hrecord => ?_⟩
    rcases List.mem_append.mp hrecord with hwithin | hlater
    · exact ihFields record hwithin
    · exact ihRest record hlater

end Layout

end Layout

section Resolution

/-- A column is resolved to its field. -/
theorem Column.field?_descriptor (column : Column) :
    column.descriptor.field? = some column.field := by
  obtain ⟨number, name, cardinality, kind⟩ := column
  have hshape : (Column.descriptor ⟨number, name, cardinality, kind⟩).shape =
      (Column.field ⟨number, name, cardinality, kind⟩).shape := by
    cases cardinality <;> rfl
  have hkind : (Column.descriptor ⟨number, name, cardinality, kind⟩).elementKind? =
      some kind.elementKind := by
    cases kind with
    | record type =>
      simp [Column.descriptor, FieldDescriptor.elementKind?, ColumnKind.typeCode,
        ColumnKind.typeName?, ColumnKind.elementKind]
    | _ => rfl
  rw [FieldDescriptor.field?, hkind, hshape]
  rfl

theorem RowType.name_descriptor (name : String) (type : RowType) :
    (type.descriptor name).name = name := by
  cases type
  rw [descriptor]

theorem RowType.fields_descriptor (columns : List Column) :
    (columns.map Column.descriptor).filterMap FieldDescriptor.field? =
      columns.map Column.field := by
  rw [List.filterMap_map]
  have hfield : FieldDescriptor.field? ∘ Column.descriptor = some ∘ Column.field :=
    funext Column.field?_descriptor
  rw [hfield, List.filterMap_eq_map]

/-- The description of a row type declares the type itself and what is described within. -/
theorem RowType.messageTypes_descriptor (scope name : String) (type : RowType) :
    (type.descriptor name).messageTypes scope =
      { name := qualify scope name, fields := type.columns.map Column.field } ::
        Descriptor.messageTypesOf (qualify scope name) (nestedDescriptors type.columns) := by
  cases type
  rw [descriptor, Descriptor.messageTypes, fields_descriptor]

theorem qualify_of_ne {scope : String} (hscope : scope ≠ "") (name : String) :
    qualify scope name = scope ++ "." ++ name := by
  rw [qualify, if_neg (by simpa using hscope)]

theorem Descriptor.messageTypesOf_singleton (scope : String) (descriptor : Descriptor) :
    messageTypesOf scope [descriptor] = descriptor.messageTypes scope := by
  rw [messageTypesOf, messageTypesOf, List.append_nil]

theorem Descriptor.messageTypesOf_append (scope : String) (left right : List Descriptor) :
    messageTypesOf scope (left ++ right) =
      messageTypesOf scope left ++ messageTypesOf scope right := by
  induction left with
  | nil => rw [List.nil_append, messageTypesOf, List.nil_append]
  | cons descriptor rest ih =>
    rw [List.cons_append, messageTypesOf, messageTypesOf, ih, List.append_assoc]

namespace Layout

variable {scope : String} {number : Nat} {schemas : List ColumnSchema} {columns : List Column}

/-- The descriptions nested in that of a type declare the records within. -/
theorem messageTypesOf (hlayout : Layout scope number schemas columns) (hscope : scope ≠ "") :
    Descriptor.messageTypesOf scope (nestedDescriptors columns) =
      (recordsOf columns).map RowType.messageType := by
  induction hlayout with
  | nil scope number => rfl
  | scalar _ _ hkind _ ih =>
    rw [nestedDescriptors, descriptors_of_scalarKindOf? hkind, List.nil_append, recordsOf,
      records_of_scalarKindOf? hkind, List.nil_append]
    exact ih hscope
  | @record scope number column rest fields columns _ _ _ _ ihFields ihRest =>
    have hname : qualify scope (recordName (Text.lowerCase column.name)) =
        recordScope scope column := qualify_of_ne hscope _
    have hwithin := ihFields (by simp [recordScope])
    rw [nestedDescriptors, ColumnKind.descriptors, Descriptor.messageTypesOf_append,
      Descriptor.messageTypesOf_singleton, RowType.messageTypes_descriptor, hname, hwithin,
      ihRest hscope]
    rw [recordsOf, ColumnKind.records, RowType.records, List.map_append, List.map_cons]
    rfl

end Layout

end Resolution

section Names

theorem nodup_of_firstRepeated {seen names : List String}
    (hnone : firstRepeated seen names = none) :
    names.Nodup ∧ ∀ name ∈ names, name ∉ seen := by
  induction names generalizing seen with
  | nil => exact ⟨.nil, nofun⟩
  | cons name rest ih =>
    rw [firstRepeated] at hnone
    split at hnone
    · cases hnone
    · rename_i hfresh
      obtain ⟨hnodup, hunseen⟩ := ih hnone
      rw [List.contains_iff_mem] at hfresh
      refine ⟨List.nodup_cons.mpr ⟨fun hrepeated => ?_, hnodup⟩, ?_⟩
      · exact hunseen name hrepeated List.mem_cons_self
      · rw [List.forall_mem_cons]
        exact ⟨hfresh, fun other hother hseen =>
          hunseen other hother (List.mem_cons_of_mem _ hseen)⟩

namespace Descriptor

mutual

theorem names_messageTypes_sublist (scope : String) : ∀ descriptor : Descriptor,
    ((descriptor.messageTypes scope).map MessageType.name).Sublist (descriptor.definedNames scope)
  | ⟨name, fields, nested⟩ => by
    rw [messageTypes, definedNames, List.map_cons, List.cons_append]
    refine .cons_cons _ ?_
    exact (names_messageTypesOf_sublist (qualify scope name) nested).trans
      (List.sublist_append_right _ _)
termination_by structural descriptor => descriptor

theorem names_messageTypesOf_sublist (scope : String) : ∀ descriptors : List Descriptor,
    ((messageTypesOf scope descriptors).map MessageType.name).Sublist
      (definedNamesOf scope descriptors)
  | [] => by
    rw [messageTypesOf, definedNamesOf]
    exact .slnil
  | descriptor :: rest => by
    rw [messageTypesOf, definedNamesOf, List.map_append]
    exact (names_messageTypes_sublist scope descriptor).append
      (names_messageTypesOf_sublist scope rest)
termination_by structural descriptors => descriptors

end

theorem nodup_definedNames {descriptor : Descriptor} (hcheck : descriptor.check = .ok ()) :
    (descriptor.definedNames "").Nodup := by
  rw [check] at hcheck
  split at hcheck
  · cases hcheck
  · rename_i hnone
    exact (nodup_of_firstRepeated hnone).1

/-- No two types in the pool of a description without colliding names have the same name. -/
theorem nodup_of_check {descriptor : Descriptor} (hcheck : descriptor.check = .ok ()) :
    (descriptor.pool.messages.map MessageType.name).Nodup :=
  (nodup_definedNames hcheck).sublist (names_messageTypes_sublist "" descriptor)

end Descriptor

end Names

end RowSink
