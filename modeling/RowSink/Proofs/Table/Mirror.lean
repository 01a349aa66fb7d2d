import Mathlib.Data.List.Nodup
import RowSink.Proofs.Table.Evolution
import RowSink.Proofs.Table.Sent

/-!
# Row types mirror tables

The row type of a table has a column for every column of the table, and so has the type of every
record column for the columns within. The description that is sent along describes the same tree:
its fields stand in the order of the columns, and the full name that a record column refers to is
that of the description of its own columns. The message that is sent says the same, part by part.
Names of records may occur again at another depth. Full names do not, and a name is looked up by its
full form.
-/

namespace RowSink

section Declarations

namespace Descriptor

mutual

/-- The descriptions that a description declares, under their full names. -/
def declarations (scope : String) : Descriptor → List (String × Descriptor)
  | ⟨name, fields, nested⟩ =>
    (qualify scope name, ⟨name, fields, nested⟩) :: declarationsOf (qualify scope name) nested

def declarationsOf (scope : String) : List Descriptor → List (String × Descriptor)
  | [] => []
  | descriptor :: rest => descriptor.declarations scope ++ declarationsOf scope rest

end

/-- The declared description that a type name refers to. Type names start with a dot. -/
def resolve? (root : Descriptor) (typeName : String) : Option Descriptor :=
  ((root.declarations "").find? fun declaration => "." ++ declaration.1 == typeName).map (·.2)

/-- The message type that a declaration declares. -/
def declaredType (declaration : String × Descriptor) : MessageType :=
  { name := declaration.1, fields := declaration.2.fields.filterMap FieldDescriptor.field? }

mutual

theorem messageTypes_eq_map (scope : String) : ∀ descriptor : Descriptor,
    descriptor.messageTypes scope = (descriptor.declarations scope).map declaredType
  | ⟨name, fields, nested⟩ => by
    rw [messageTypes, declarations, List.map_cons, messageTypesOf_eq_map (qualify scope name) nested]
    rfl
termination_by structural descriptor => descriptor

theorem messageTypesOf_eq_map (scope : String) : ∀ descriptors : List Descriptor,
    messageTypesOf scope descriptors = (declarationsOf scope descriptors).map declaredType
  | [] => rfl
  | descriptor :: rest => by
    rw [messageTypesOf, declarationsOf, List.map_append, messageTypes_eq_map scope descriptor,
      messageTypesOf_eq_map scope rest]
termination_by structural descriptors => descriptors

end

variable {root : Descriptor}

/-- A description without colliding names declares every full name once. -/
theorem nodup_declarations (hcheck : root.check = .ok ()) :
    ((root.declarations "").map Prod.fst).Nodup := by
  have hnodup := nodup_of_check hcheck
  rw [pool, messageTypes_eq_map, List.map_map] at hnodup
  exact hnodup

theorem resolve?_eq_some (hcheck : root.check = .ok ()) {full : String} {descriptor : Descriptor}
    (hdeclared : (full, descriptor) ∈ root.declarations "") :
    root.resolve? ("." ++ full) = some descriptor := by
  have hkey : ((root.declarations "").map fun declaration => "." ++ declaration.1).Nodup := by
    have hnodup := nodup_declarations hcheck
    rw [show (fun declaration : String × Descriptor => "." ++ declaration.1) =
      ("." ++ ·) ∘ Prod.fst from rfl, ← List.map_map]
    exact List.Nodup.map (fun _ _ => (String.append_right_inj ".").mp) hnodup
  have hfound := find?_eq_some_of_nodup hkey hdeclared
  rw [resolve?, hfound]
  rfl

end Descriptor

end Declarations

section Mirrors

/-- The cardinality that a mode permits. Modes without a name permit what nullable ones do. -/
inductive Permits : Int32 → Cardinality → Prop where
  | repeated {mode : Int32} (hmode : mode.toInt = ColumnMode.repeated.number) :
      Permits mode .repeated
  | required {mode : Int32} (hmode : mode.toInt = ColumnMode.required.number) :
      Permits mode .required
  | optional {mode : Int32} (hrepeated : mode.toInt ≠ ColumnMode.repeated.number)
      (hrequired : mode.toInt ≠ ColumnMode.required.number) : Permits mode .optional

/-- The kind in which the values of a column type are written, with its number in the language of
descriptions. -/
inductive WrittenAs : ColumnType → ColumnKind → Nat → Prop where
  | bool : WrittenAs .bool .bool 8
  | bytes : WrittenAs .bytes .bytes 12
  | double : WrittenAs .double .double 1
  | date : WrittenAs .date .int32 5
  | int64 : WrittenAs .int64 .int64 3
  | timestamp : WrittenAs .timestamp .int64 3
  | datetime : WrittenAs .datetime .int64 3
  | time : WrittenAs .time .int64 3
  | string : WrittenAs .string .string 9
  | numeric : WrittenAs .numeric .string 9
  | bignumeric : WrittenAs .bignumeric .string 9
  | geography : WrittenAs .geography .string 9
  | json : WrittenAs .json .string 9
  | interval : WrittenAs .interval .string 9

/-- The columns of a table, those of its row type, and the fields that describe them are the same,
numbered from `number` on. For a record this goes on within: the name that its field refers to is
in `root` the full name of the next of the nested descriptions, which is that of its own columns. -/
inductive Mirrors (root : Descriptor) :
    Nat → List ColumnSchema → List Column → List FieldDescriptor → List Descriptor → Prop where
  | nil (number : Nat) : Mirrors root number [] [] [] []
  | scalar {number : Nat} {schema : ColumnSchema} {type : ColumnType} {kind : ColumnKind}
      {typeCode : Nat} {cardinality : Cardinality} {schemas : List ColumnSchema}
      {columns : List Column} {fields : List FieldDescriptor} {nested : List Descriptor}
      (htype : schema.type.toInt = type.number) (hkind : WrittenAs type kind typeCode)
      (hcardinality : Permits schema.mode cardinality)
      (hrest : Mirrors root (number + 1) schemas columns fields nested) :
      Mirrors root number (schema :: schemas)
        (⟨number, Text.lowerCase schema.name, cardinality, kind⟩ :: columns)
        (⟨Text.lowerCase schema.name, number, cardinality, typeCode, none⟩ :: fields) nested
  | record {number : Nat} {schema : ColumnSchema} {record : RowType} {description : Descriptor}
      {cardinality : Cardinality} {schemas : List ColumnSchema} {columns : List Column}
      {fields : List FieldDescriptor} {nested : List Descriptor}
      (htype : schema.type.toInt = ColumnType.struct.number)
      (hcardinality : Permits schema.mode cardinality)
      (hresolve : root.resolve? ("." ++ record.name) = some description)
      (hfields : Mirrors root 1 schema.fields record.columns description.fields description.nested)
      (hrest : Mirrors root (number + 1) schemas columns fields nested) :
      Mirrors root number (schema :: schemas)
        (⟨number, Text.lowerCase schema.name, cardinality, .record record⟩ :: columns)
        (⟨Text.lowerCase schema.name, number, cardinality, 11, some ("." ++ record.name)⟩ :: fields)
        (description :: nested)

theorem ColumnType.number_eq {value : Int} {type : ColumnType}
    (htype : ColumnType.ofNumber? value = some type) : value = type.number := by
  have hfound := List.find?_some htype
  exact (beq_iff_eq.mp hfound).symm

theorem ColumnMode.number_eq {value : Int} {mode : ColumnMode}
    (hmode : ColumnMode.ofNumber? value = some mode) : value = mode.number := by
  have hfound := List.find?_some hmode
  exact (beq_iff_eq.mp hfound).symm

theorem permits_cardinalityOf (mode : Int32) : Permits mode (cardinalityOf mode) := by
  rw [cardinalityOf]
  split
  · rename_i hmode
    exact .repeated (ColumnMode.number_eq hmode)
  · rename_i hmode
    exact .required (ColumnMode.number_eq hmode)
  · rename_i hrepeated hrequired
    refine .optional (fun hmode => hrepeated ?_) fun hmode => hrequired ?_
    · rw [hmode, ColumnMode.ofNumber?_number]
    · rw [hmode, ColumnMode.ofNumber?_number]

theorem writtenAs_of_scalarKindOf? {type : ColumnType} {kind : ColumnKind}
    (hkind : scalarKindOf? type = some kind) : WrittenAs type kind kind.typeCode := by
  cases type <;> cases hkind <;> constructor

theorem typeName?_of_scalarKindOf? {type : ColumnType} {kind : ColumnKind}
    (hkind : scalarKindOf? type = some kind) : kind.typeName? = none := by
  cases type <;> cases hkind <;> rfl

/-- In a description without repeated names the columns have distinct names. -/
theorem RowType.nodup_names {scope name : String} {type : RowType}
    (hnodup : ((type.descriptor name).definedNames scope).Nodup) :
    (type.columns.map Column.name).Nodup := by
  obtain ⟨full, columns⟩ := type
  rw [descriptor, Descriptor.definedNames, List.cons_append, List.nodup_cons,
    List.nodup_append, List.map_map] at hnodup
  refine List.Nodup.of_map (qualify (qualify scope name)) ?_
  rw [List.map_map]
  exact hnodup.2.1

theorem RowType.nodup_nested {scope name : String} {type : RowType}
    (hnodup : ((type.descriptor name).definedNames scope).Nodup) :
    (definedNamesOf (qualify scope name) (nestedDescriptors type.columns)).Nodup := by
  obtain ⟨full, columns⟩ := type
  rw [descriptor, Descriptor.definedNames, List.cons_append, List.nodup_cons,
    List.nodup_append] at hnodup
  exact hnodup.2.2.1

namespace Layout

variable {scope : String} {number : Nat} {schemas : List ColumnSchema} {columns : List Column}

/-- Columns are described within any description that declares what is nested for them. -/
theorem mirrors {root : Descriptor} (hlayout : Layout scope number schemas columns)
    (hscope : scope ≠ "") (hcheck : root.check = .ok ())
    (hdeclared : Descriptor.declarationsOf scope (nestedDescriptors columns) ⊆
      root.declarations "") :
    Mirrors root number schemas columns (columns.map Column.descriptor)
      (nestedDescriptors columns) := by
  induction hlayout with
  | nil scope number => exact .nil number
  | @scalar scope number column type kind rest columns _ htype hkind _ ih =>
    rw [nestedDescriptors, descriptors_of_scalarKindOf? hkind, List.nil_append] at hdeclared ⊢
    rw [List.map_cons, Column.descriptor, typeName?_of_scalarKindOf? hkind]
    exact .scalar (ColumnType.number_eq htype) (writtenAs_of_scalarKindOf? hkind)
      (permits_cardinalityOf _) (ih hscope hdeclared)
  | @record scope number column rest fields columns _ htype _ _ ihFields ihRest =>
    have hname : qualify scope (recordName (Text.lowerCase column.name)) =
        recordScope scope column := qualify_of_ne hscope _
    rw [nestedDescriptors, ColumnKind.descriptors, List.singleton_append, RowType.descriptor,
      Descriptor.declarationsOf, Descriptor.declarations, hname] at hdeclared
    obtain ⟨hrecord, hrest⟩ := List.append_subset.mp hdeclared
    obtain ⟨hself, hwithin⟩ := List.cons_subset.mp hrecord
    rw [nestedDescriptors, ColumnKind.descriptors, List.singleton_append, RowType.descriptor,
      List.map_cons]
    exact .record (ColumnType.number_eq htype) (permits_cardinalityOf _)
      (Descriptor.resolve?_eq_some hcheck hself)
      (ihFields (by simp [recordScope]) hwithin) (ihRest hscope hrest)

/-- The columns of each record have distinct names if all names that are described do. -/
theorem nodup_names (hlayout : Layout scope number schemas columns) (hscope : scope ≠ "")
    (hnodup : (definedNamesOf scope (nestedDescriptors columns)).Nodup) :
    ∀ record ∈ recordsOf columns, (record.columns.map Column.name).Nodup := by
  induction hlayout with
  | nil scope number =>
    intro record hrecord
    cases hrecord
  | scalar _ _ hkind _ ih =>
    rw [nestedDescriptors, descriptors_of_scalarKindOf? hkind, List.nil_append] at hnodup
    rw [recordsOf, records_of_scalarKindOf? hkind, List.nil_append]
    exact ih hscope hnodup
  | @record scope number column rest fields columns _ _ _ _ ihFields ihRest =>
    have hname : qualify scope (recordName (Text.lowerCase column.name)) =
        recordScope scope column := qualify_of_ne hscope _
    rw [nestedDescriptors, ColumnKind.descriptors, List.singleton_append, definedNamesOf,
      List.nodup_append] at hnodup
    obtain ⟨hrecord, hrest, -⟩ := hnodup
    have hnested := RowType.nodup_nested hrecord
    rw [hname] at hnested
    rw [recordsOf, ColumnKind.records, RowType.records, List.cons_append, List.forall_mem_cons,
      List.forall_mem_append]
    refine ⟨RowType.nodup_names hrecord, ihFields ?_ hnested, ihRest hscope hrest⟩
    simp [recordScope]

end Layout

end Mirrors

namespace RowType

variable {schema : TableSchema} {type : RowType}

/-- A column is found by its name, in the row and in every record. -/
theorem column?_name (htype : RowType.ofTable schema = .ok type) {record : RowType}
    (hrecord : record ∈ type.records) {column : Column} (hcolumn : column ∈ record.columns) :
    record.column? column.name = some column := by
  obtain ⟨hname, hlayout, hcheck⟩ := ofTable_eq_ok htype
  have hnodup := Descriptor.nodup_definedNames hcheck
  refine find?_eq_some_of_nodup ?_ hcolumn
  have hnested := nodup_nested hnodup
  have hself := nodup_names hnodup
  obtain ⟨name, columns⟩ := type
  rw [records] at hrecord
  rcases List.mem_cons.mp hrecord with rfl | hwithin
  · exact hself
  · exact hlayout.nodup_names (by decide) hnested record hwithin

theorem nodup_records (htype : RowType.ofTable schema = .ok type) :
    (type.records.map RowType.name).Nodup := by
  obtain ⟨-, -, hcheck⟩ := ofTable_eq_ok htype
  have hnodup := Descriptor.nodup_of_check hcheck
  rw [pool_messages htype, List.map_map] at hnodup
  exact hnodup

/-- The description of the row type of a table is sent as it is. -/
theorem sentAs_writerSchema (htype : RowType.ofTable schema = .ok type) :
    ∃ message, type.writerSchema.content? 1 = some (.single (.message message)) ∧
      (type.descriptor rootName).SentAs message := by
  obtain ⟨-, hlayout, -⟩ := ofTable_eq_ok htype
  obtain ⟨name, columns⟩ := type
  exact ⟨_, rfl, hlayout.sentAs_descriptor hlayout.sentAs_nested rootName name⟩

/-- The row type of a table mirrors it, and so does the description that is sent along: for every
column of the table, at any depth, there is one column and one field at its position, under its
name in lower case, with the cardinality that its mode permits and of the kind of its type. The
type of a record column has its own columns. Its full name is that of no other record, so that the
type is found by its name, and a column is found by its name in the record that has it. The message
that is sent has every part of the description under its number, and nothing else. -/
theorem ofTable_mirrors (htype : RowType.ofTable schema = .ok type) :
    type.name = rootName ∧
      Mirrors (type.descriptor rootName) 1 schema.fields type.columns
        (type.descriptor rootName).fields (type.descriptor rootName).nested ∧
      (∃ message, type.writerSchema.content? 1 = some (.single (.message message)) ∧
        (type.descriptor rootName).SentAs message) ∧
      (type.records.map RowType.name).Nodup ∧
      ∀ record ∈ type.records,
        (type.descriptor rootName).pool.message? record.name = some record.messageType ∧
          ∀ column ∈ record.columns, record.column? column.name = some column := by
  obtain ⟨hname, hlayout, hcheck⟩ := ofTable_eq_ok htype
  refine ⟨hname, ?_, sentAs_writerSchema htype, nodup_records htype, fun record hrecord =>
    ⟨message?_name htype hrecord, fun column hcolumn => column?_name htype hrecord hcolumn⟩⟩
  obtain ⟨name, columns⟩ := type
  have hmirrors := hlayout.mirrors (by decide) hcheck ?_
  · rw [descriptor] at hmirrors ⊢
    exact hmirrors
  · rw [descriptor, Descriptor.declarations]
    exact List.subset_cons_self _ _

end RowType

namespace Addresses

/-- An address has an address within, and an order has another kind of address. -/
def table : TableSchema :=
  ⟨[{ name := "Address", type := 4, mode := 1, fields :=
        [{ name := "Address", type := 4, mode := 3, fields :=
          [{ name := "City", type := 1, mode := 77 }] }] },
    { name := "order", type := 4, mode := 0, fields :=
        [{ name := "address", type := 4, mode := 1, fields :=
          [{ name := "zip", type := 2, mode := 2 }] }] }]⟩

def innerType : RowType :=
  ⟨"__ROOT__.Struct_address.Struct_address", [⟨1, "city", .optional, .string⟩]⟩

def orderAddressType : RowType :=
  ⟨"__ROOT__.Struct_order.Struct_address", [⟨1, "zip", .required, .int64⟩]⟩

def type : RowType :=
  ⟨rootName,
    [⟨1, "address", .optional, .record
        ⟨"__ROOT__.Struct_address", [⟨1, "address", .repeated, .record innerType⟩]⟩⟩,
      ⟨2, "order", .optional, .record
        ⟨"__ROOT__.Struct_order", [⟨1, "address", .optional, .record orderAddressType⟩]⟩⟩]⟩

theorem mirrors_of_addresses :
    RowType.ofTable table = .ok type ∧ type.name = rootName ∧
      Mirrors (type.descriptor rootName) 1 table.fields type.columns
        (type.descriptor rootName).fields (type.descriptor rootName).nested ∧
      (∃ message, type.writerSchema.content? 1 = some (.single (.message message)) ∧
        (type.descriptor rootName).SentAs message) ∧
      (type.records.map RowType.name).Nodup ∧
      ∀ record ∈ type.records,
        (type.descriptor rootName).pool.message? record.name = some record.messageType ∧
          ∀ column ∈ record.columns, record.column? column.name = some column :=
  have htype : RowType.ofTable table = .ok type := rfl
  ⟨htype, RowType.ofTable_mirrors htype⟩

end Addresses

end RowSink
