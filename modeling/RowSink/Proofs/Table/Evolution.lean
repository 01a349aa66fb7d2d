import RowSink.Proofs.Row.ListedForm
import RowSink.Proofs.Table.Layout

/-!
# Evolution of tables

A table may get new columns, in the row itself or in any record within, which come after the
columns that are there. A row made for the table as it was can then be read by what describes the
table as it is: the columns that were there keep their numbers, the records keep their names, and
what is read is what was set.
-/

namespace RowSink

/-- Columns with others added after them, here and in the records within, whatever their modes. -/
inductive Grows : List ColumnSchema → List ColumnSchema → Prop where
  | added (columns : List ColumnSchema) : Grows [] columns
  | kept {column : ColumnSchema} {fields rest more : List ColumnSchema}
      (hfields : Grows column.fields fields) (hrest : Grows rest more) :
      Grows (column :: rest) ({ column with fields } :: more)

section Growth

/-- A record is still there, with other columns after its own. -/
def RowType.KeptIn (records : List RowType) (record : RowType) : Prop :=
  ∃ grown ∈ records, grown.name = record.name ∧
    record.columns.map Column.field <+: grown.columns.map Column.field

theorem RowType.KeptIn.mono {records more : List RowType} {record : RowType}
    (hkept : record.KeptIn records) (hsubset : records ⊆ more) : record.KeptIn more := by
  obtain ⟨grown, hgrown, hname, hcolumns⟩ := hkept
  exact ⟨grown, hsubset hgrown, hname, hcolumns⟩

theorem scalarKindOf?_struct (kind : ColumnKind) : scalarKindOf? .struct ≠ some kind := nofun

/-- Columns that were there keep their places, and so do the records. -/
theorem Grows.kept_layout {old new : List ColumnSchema} (hgrows : Grows old new) {scope : String}
    {number : Nat} {columns grown : List Column} (hlayout : Layout scope number old columns)
    (hgrown : Layout scope number new grown) :
    columns.map Column.field <+: grown.map Column.field ∧
      ∀ record ∈ recordsOf columns, record.KeptIn (recordsOf grown) := by
  induction hgrows generalizing scope number columns grown with
  | added new =>
    cases hlayout
    exact ⟨List.nil_prefix, nofun⟩
  | @kept column fields rest more _ _ ihFields ihRest =>
    cases hlayout with
    | @scalar _ _ _ type kind _ columns _ htype hkind hrest =>
      cases hgrown with
      | @scalar _ _ _ type' kind' _ grown _ htype' hkind' hmore =>
        obtain rfl : type = type' := Option.some.inj (htype.symm.trans htype')
        obtain rfl : kind = kind' := Option.some.inj (hkind.symm.trans hkind')
        obtain ⟨hcolumns, hrecords⟩ := ihRest hrest hmore
        refine ⟨?_, ?_⟩
        · rw [List.map_cons, List.map_cons]
          exact (List.prefix_cons_inj _).mpr hcolumns
        · rw [recordsOf, recordsOf, records_of_scalarKindOf? hkind]
          exact hrecords
      | record _ htype' _ _ =>
        obtain rfl := Option.some.inj (htype.symm.trans htype')
        exact (scalarKindOf?_struct kind hkind).elim
    | @record _ _ _ _ inner columns _ htype hfields hrest =>
      cases hgrown with
      | @scalar _ _ _ type' kind' _ _ _ htype' hkind' _ =>
        obtain rfl := Option.some.inj (htype'.symm.trans htype)
        exact (scalarKindOf?_struct kind' hkind').elim
      | @record _ _ _ _ innerGrown grown _ htype' hfieldsGrown hmore =>
        obtain ⟨hcolumns, hrecords⟩ := ihRest hrest hmore
        obtain ⟨hinner, hwithin⟩ := ihFields hfields hfieldsGrown
        refine ⟨?_, ?_⟩
        · rw [List.map_cons, List.map_cons]
          exact (List.prefix_cons_inj _).mpr hcolumns
        · rw [recordsOf, recordsOf, ColumnKind.records, ColumnKind.records, RowType.records,
            RowType.records, List.cons_append, List.cons_append, List.forall_mem_cons]
          refine ⟨⟨_, List.mem_cons_self, rfl, hinner⟩, fun record hrecord => ?_⟩
          rcases List.mem_append.mp hrecord with hrecord | hrecord
          · refine (hwithin record hrecord).mono fun other hother => ?_
            exact List.mem_cons_of_mem _ (List.mem_append_left _ hother)
          · refine (hrecords record hrecord).mono fun other hother => ?_
            exact List.mem_cons_of_mem _ (List.mem_append_right _ hother)

end Growth

section LookUp

theorem find?_eq_some_of_nodup {α β : Type} [BEq β] [LawfulBEq β] {key : α → β} {items : List α}
    (hnodup : (items.map key).Nodup) {item : α} (hitem : item ∈ items) :
    items.find? (key · == key item) = some item := by
  induction items with
  | nil => cases hitem
  | cons head rest ih =>
    rw [List.map_cons, List.nodup_cons] at hnodup
    rcases List.mem_cons.mp hitem with rfl | hrest
    · rw [List.find?_cons_of_pos (by simp)]
    · have hother : key head ≠ key item := fun hsame =>
        hnodup.1 (hsame ▸ List.mem_map_of_mem hrest)
      rw [List.find?_cons_of_neg (by simpa using hother), ih hnodup.2 hrest]

/-- How the row type of a table is laid out, and that its names are distinct. -/
theorem RowType.ofTable_eq_ok {schema : TableSchema} {type : RowType}
    (htype : RowType.ofTable schema = .ok type) :
    type.name = rootName ∧ Layout rootName 1 schema.fields type.columns ∧
      (type.descriptor rootName).check = .ok () := by
  rw [RowType.ofTable] at htype
  split at htype
  · cases htype
  · split at htype
    · cases htype
    · rename_i columns hcolumns
      dsimp only at htype
      cases hcheck : ((⟨rootName, columns⟩ : RowType).descriptor rootName).check with
      | error error =>
        rw [hcheck] at htype
        cases htype
      | ok _ =>
        rw [hcheck] at htype
        cases htype
        exact ⟨rfl, layout_of_columnsOf _ hcolumns, hcheck⟩

namespace RowType

variable {schema : TableSchema} {type : RowType}

/-- What describes the rows of a table declares the records of their type. -/
theorem pool_messages (htype : RowType.ofTable schema = .ok type) :
    (type.descriptor rootName).pool.messages = type.records.map RowType.messageType := by
  obtain ⟨hname, hlayout, -⟩ := ofTable_eq_ok htype
  obtain ⟨name, columns⟩ := type
  subst hname
  rw [Descriptor.pool, messageTypes_descriptor, records, List.map_cons]
  exact congrArg _ (hlayout.messageTypesOf (by decide))

theorem message?_name (htype : RowType.ofTable schema = .ok type) {record : RowType}
    (hrecord : record ∈ type.records) :
    (type.descriptor rootName).pool.message? record.name = some record.messageType := by
  obtain ⟨-, -, hcheck⟩ := ofTable_eq_ok htype
  have hnodup := Descriptor.nodup_of_check hcheck
  have hmem : record.messageType ∈ type.records.map RowType.messageType :=
    List.mem_map_of_mem hrecord
  rw [← pool_messages htype] at hmem
  exact find?_eq_some_of_nodup hnodup hmem

theorem messageType_eq (htype : RowType.ofTable schema = .ok type) {record : RowType}
    (hrecord : record ∈ type.records) :
    (type.descriptor rootName).pool.messageType record.name = record.messageType := by
  rw [Pool.messageType, message?_name htype hrecord]
  rfl

theorem map_number_of_mem (htype : RowType.ofTable schema = .ok type) {record : RowType}
    (hrecord : record ∈ type.records) :
    record.columns.map Column.number = List.range' 1 record.columns.length := by
  obtain ⟨-, hlayout, -⟩ := ofTable_eq_ok htype
  obtain ⟨name, columns⟩ := type
  rw [records] at hrecord
  rcases List.mem_cons.mp hrecord with rfl | hwithin
  · exact hlayout.map_number
  · exact hlayout.map_number_of_mem record hwithin

/-- A reader finds the field of a column by its number. -/
theorem field?_messageType (htype : RowType.ofTable schema = .ok type) {record : RowType}
    (hrecord : record ∈ type.records) {field : Field} (hfield : field ∈ record.messageType.fields) :
    record.messageType.field? field.number = some field := by
  refine find?_eq_some_of_nodup ?_ hfield
  rw [messageType, List.map_map]
  have hnumbers : record.columns.map (Field.number ∘ Column.field) = _ :=
    map_number_of_mem htype hrecord
  rw [hnumbers]
  exact List.nodup_range'

end RowType

end LookUp

/-- What describes a grown table declares every record of the table as it was. -/
theorem Grows.declaredIn {old new : TableSchema} {type grown : RowType}
    (hgrows : Grows old.fields new.fields) (htype : RowType.ofTable old = .ok type)
    (hgrown : RowType.ofTable new = .ok grown)
    (hcolumns : ∀ record ∈ type.records, record.columns.length < Nat.pow 2 29) :
    ∀ record ∈ type.records, record.DeclaredIn (grown.descriptor rootName).pool := by
  intro record hrecord
  obtain ⟨kept, hkept, hname, hfields⟩ : record.KeptIn grown.records := by
    obtain ⟨hname, hlayout, -⟩ := RowType.ofTable_eq_ok htype
    obtain ⟨hgrownName, hgrownLayout, -⟩ := RowType.ofTable_eq_ok hgrown
    obtain ⟨hfields, hrecords⟩ := hgrows.kept_layout hlayout hgrownLayout
    obtain ⟨name, columns⟩ := type
    obtain ⟨grownName, grownColumns⟩ := grown
    rw [RowType.records] at hrecord ⊢
    rcases List.mem_cons.mp hrecord with rfl | hwithin
    · exact ⟨_, List.mem_cons_self, hgrownName.trans hname.symm, hfields⟩
    · exact (hrecords record hwithin).mono (List.subset_cons_self _ _)
  have hmessage : (grown.descriptor rootName).pool.messageType record.name = kept.messageType := by
    rw [← hname]
    exact RowType.messageType_eq hgrown hkept
  have hnumbers := RowType.map_number_of_mem htype hrecord
  constructor
  case name_eq => rw [hmessage, RowType.messageType, hname]
  case field?_eq =>
    intro column hcolumn
    have hmem : column.field ∈ kept.messageType.fields :=
      hfields.subset (List.mem_map_of_mem hcolumn)
    rw [hmessage]
    exact RowType.field?_messageType hgrown hkept hmem
  case numbered =>
    intro column hcolumn
    have hnumber : column.number ∈ record.columns.map Column.number := List.mem_map_of_mem hcolumn
    have hroom := hcolumns record hrecord
    rw [hnumbers, List.mem_range'_1] at hnumber
    simp only [Nat.pow_eq, Nat.reducePow] at hroom ⊢
    omega
  case optional =>
    intro field hfield
    rw [hmessage] at hfield
    obtain ⟨column, -, rfl⟩ := List.mem_map.mp hfield
    rfl
  case independent =>
    intro field hfield
    rw [hmessage] at hfield
    obtain ⟨column, -, rfl⟩ := List.mem_map.mp hfield
    rfl

/-- Rows outlive the growth of their table. What describes the grown table reads a row made for the
table as it was: the message has the values that were set in the row, at every depth and in their
order. It fits the type that the row was made for, so no added column is set in it and no field is
unknown. A row has bytes that can be read if it nests no deeper than a reader follows, and if its
numbers and its length have a place on the wire. -/
theorem Grows.decode_row {old new : TableSchema} {grown : RowType}
    (hgrows : Grows old.fields new.fields) {conversion : Conversion} {now : Instant}
    {input : InputMessage} {row : Message}
    (htype : RowType.ofTable old = .ok conversion.target)
    (hgrown : RowType.ofTable new = .ok grown)
    (hcolumns : ∀ record ∈ conversion.target.records, record.columns.length < Nat.pow 2 29)
    (hrow : conversion.row now input = .ok row) (hnesting : row.nesting ≤ nestingLimit)
    (hlength : row.encode.length < UInt64.size) :
    ∃ decoded : Message, (grown.descriptor rootName).decode row.encode = .ok decoded ∧
      decoded.Fits conversion.target ∧ decoded.listed = row.listed := by
  have hfits := Conversion.fits_of_row hrow
  have hdecode := hfits.decode (hgrows.declaredIn htype hgrown hcolumns) hnesting hlength
  rw [(RowType.ofTable_eq_ok htype).1] at hdecode
  rw [Descriptor.decode, RowType.name_descriptor]
  exact hdecode

namespace TaggedPoints

/-- A table of points, which take their tags from the metadata. -/
def table : TableSchema :=
  ⟨[{ name := "Point", type := 4, mode := 1, fields := [{ name := "x", type := 2, mode := 3 }] },
    { name := "tag", type := 1, mode := 3 }]⟩

/-- The table with another coordinate for its points and a column of its own. -/
def grownTable : TableSchema :=
  ⟨[{ name := "Point", type := 4, mode := 1, fields :=
        [{ name := "x", type := 2, mode := 3 }, { name := "y", type := 2, mode := 3 }] },
    { name := "tag", type := 1, mode := 3 }, { name := "note", type := 1, mode := 1 }]⟩

def pointType : RowType := ⟨"__ROOT__.Struct_point", [⟨1, "x", .repeated, .int64⟩]⟩

def type : RowType :=
  ⟨rootName, [⟨1, "point", .optional, .record pointType⟩, ⟨2, "tag", .repeated, .string⟩]⟩

def grownType : RowType :=
  ⟨rootName,
    [⟨1, "point", .optional, .record
        ⟨"__ROOT__.Struct_point", [⟨1, "x", .repeated, .int64⟩, ⟨2, "y", .repeated, .int64⟩]⟩⟩,
      ⟨2, "tag", .repeated, .string⟩, ⟨3, "note", .optional, .string⟩]⟩

def xs : Entry := ⟨1, "x", .list [.scalar (.int64 (-1)), .scalar (.int64 7)]⟩

def record : Message :=
  ⟨"test.Place", [⟨1, "point", .single (.message ⟨"test.Point", [xs], []⟩)⟩], []⟩

def conversion : Conversion where
  parser := fun _ => .ok record
  config := { metadata := some ⟨none, ["tag"]⟩ }
  target := type

def input : InputMessage := { metadata := [("tag", .text "t")] }

/-- The row, whose repeated column holds a single value. -/
def row : Message :=
  ⟨rootName,
    [⟨1, "point", .single (.message ⟨pointType.name, [xs], []⟩)⟩,
      ⟨2, "tag", .single (.scalar (.string "t"))⟩], []⟩

/-- What is read is a list. -/
example : (grownType.descriptor rootName).decode row.encode = .ok
    ⟨rootName,
      [⟨1, "point", .single (.message ⟨pointType.name, [xs], []⟩)⟩,
        ⟨2, "tag", .list [.scalar (.string "t")]⟩], []⟩ := by
  rfl

theorem grows : Grows table.fields grownTable.fields :=
  .kept (.kept (.added []) (.added _)) (.kept (.added []) (.added _))

theorem decode_row_of_points :
    conversion.row ⟨0, 0⟩ input = .ok row ∧
      ∃ decoded : Message, (grownType.descriptor rootName).decode row.encode = .ok decoded ∧
        decoded.Fits type ∧ decoded.listed = row.listed := by
  have hrow : conversion.row ⟨0, 0⟩ input = .ok row := rfl
  have hcolumns : ∀ record ∈ type.records, record.columns.length < Nat.pow 2 29 := by
    intro record hrecord
    obtain rfl | rfl : record = type ∨ record = pointType := by
      simpa [type, pointType, RowType.records, recordsOf, ColumnKind.records] using hrecord
    · decide
    · decide
  exact ⟨hrow, grows.decode_row rfl rfl hcolumns hrow (by decide) (by decide)⟩

end TaggedPoints

end RowSink
