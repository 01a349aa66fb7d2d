import RowSink.Proofs.Row.Deposits
import RowSink.Proofs.Row.PartitionWindow
import RowSink.Proofs.Table.Mirror

/-!
# What a row represents

A row has the shape of its record as far as the columns of its type go: each column holds what the
last field of its name was converted to, the letter case of names aside, and so in every record
within, in lists and in maps. Names that differ only in case lead to one column, and of such fields
all but the last are lost.
-/

namespace RowSink

section Relation

/-- The content of the last field that belongs to a column of that name. -/
def lastContent? (name : String) : List Entry → Option Content
  | [] => none
  | entry :: rest =>
    match lastContent? name rest with
    | some later => some later
    | none => if Text.lowerCase entry.name = name then some entry.content else none

theorem lastContent?_eq_none {name : String} {entries : List Entry}
    (hnone : ∀ entry ∈ entries, Text.lowerCase entry.name ≠ name) :
    lastContent? name entries = none := by
  induction entries with
  | nil => rfl
  | cons entry rest ih =>
    obtain ⟨hentry, hrest⟩ := List.forall_mem_cons.mp hnone
    rw [lastContent?, ih hrest]
    exact if_neg hentry

/-- A field is the last of its name if none of the later ones has it. -/
theorem lastContent?_append_cons (before : List Entry) (entry : Entry) {after : List Entry}
    (hlast : ∀ later ∈ after, Text.lowerCase later.name ≠ Text.lowerCase entry.name) :
    lastContent? (Text.lowerCase entry.name) (before ++ entry :: after) = some entry.content := by
  induction before with
  | nil =>
    rw [List.nil_append, lastContent?, lastContent?_eq_none hlast]
    exact if_pos rfl
  | cons earlier rest ih => rw [List.cons_append, lastContent?, ih]

/-- How a value that is no record and the value that is stored for it in a column belong together.
The flag tells whether the value is the whole content of a field of the record itself. -/
abbrev Storage := Bool → Column → Value → Value → Prop

mutual

/-- A row has in each column what the last field of the name has, and nothing where there is none.
What stands for a value that is no record is a matter of `storage`. -/
inductive Represents (storage : Storage) : Bool → RowType → List Entry → Message → Prop where
  | columns {top : Bool} {target : RowType} {entries : List Entry} {row : Message}
      (hholds : ∀ name column, target.column? name = some column →
        Holds storage top column (lastContent? name entries) (row.content? column.number)) :
      Represents storage top target entries row

inductive Holds (storage : Storage) :
    Bool → Column → Option Content → Option Content → Prop where
  | absent (top : Bool) (column : Column) : Holds storage top column none none
  | single {top : Bool} {column : Column} {value stored : Value}
      (hsingle : column.isRepeated = false) (hvalue : Renders storage top column value stored) :
      Holds storage top column (some (.single value)) (some (.single stored))
  | list {top : Bool} {column : Column} {items values : List Value}
      (hrepeated : column.isRepeated = true) (hitems : RendersItems storage column items values) :
      Holds storage top column (some (.list items)) (some (.list values))
  | map {top : Bool} {column : Column} {entryType : RowType} {pairs : List Pair}
      {records : List Message} (hrepeated : column.isRepeated = true)
      (hkind : column.kind = .record entryType)
      (hpairs : RendersPairs storage entryType pairs records) :
      Holds storage top column (some (.map pairs)) (some (.list (records.map .message)))

inductive RendersItems (storage : Storage) : Column → List Value → List Value → Prop where
  | nil (column : Column) : RendersItems storage column [] []
  | cons {column : Column} {value stored : Value} {items values : List Value}
      (hvalue : Renders storage false column value stored)
      (hitems : RendersItems storage column items values) :
      RendersItems storage column (value :: items) (stored :: values)

/-- The entries of a map are records of a key and a value, as far as there are columns for them. -/
inductive RendersPairs (storage : Storage) : RowType → List Pair → List Message → Prop where
  | nil (entryType : RowType) : RendersPairs storage entryType [] []
  | cons {entryType : RowType} {key : Scalar} {value : Value} {pairs : List Pair}
      {record : Message} {records : List Message}
      (hkey : RendersPart storage (entryType.column? "key") (.scalar key) record)
      (hvalue : RendersPart storage (entryType.column? "value") value record)
      (hpairs : RendersPairs storage entryType pairs records) :
      RendersPairs storage entryType (⟨key, value⟩ :: pairs) (record :: records)

inductive RendersPart (storage : Storage) : Option Column → Value → Message → Prop where
  | dropped (value : Value) (record : Message) : RendersPart storage none value record
  | held {column : Column} {value stored : Value} {record : Message}
      (hvalue : Renders storage false column value stored)
      (hheld : record.content? column.number = some (.single stored)) :
      RendersPart storage (some column) value record

inductive Renders (storage : Storage) : Bool → Column → Value → Value → Prop where
  | leaf {top : Bool} {column : Column} {value stored : Value} (hleaf : value.isRecord = false)
      (hstored : storage top column value stored) : Renders storage top column value stored
  | record {top : Bool} {column : Column} {target : RowType} {typeName : String}
      {entries : List Entry} {unknown : List UnknownField} {row : Message}
      (hrecord : (Value.message ⟨typeName, entries, unknown⟩).isRecord = true)
      (hkind : column.kind = .record target) (hrow : Represents storage false target entries row) :
      Renders storage top column (.message ⟨typeName, entries, unknown⟩) (.message row)

end

/-- The fields make a row if each column has what the last of them leads to. -/
theorem represents_of_columns {storage : Storage} {top : Bool} {target : RowType}
    {entries : List Entry} {row : Message}
    (hcolumns : ∀ name column, target.column? name = some column →
      (lastContent? name entries = none → row.content? column.number = none) ∧
        ∀ content, lastContent? name entries = some content →
          Holds storage top column (some content) (row.content? column.number)) :
    Represents storage top target entries row := by
  refine .columns fun name column hcolumn => ?_
  obtain ⟨habsent, hheld⟩ := hcolumns name column hcolumn
  cases hlast : lastContent? name entries with
  | none =>
    rw [habsent hlast]
    exact .absent top column
  | some content => exact hheld content hlast

end Relation

section Columns

/-- Whatever column of a record is found by a name is the only one of its name and number. -/
def Distinct (records : List RowType) : Prop :=
  ∀ record ∈ records, ∀ name column, record.column? name = some column → record.Singles column

theorem Distinct.of_column? {type : RowType} (hdistinct : Distinct type.records) {name : String}
    {column : Column} (hcolumn : type.column? name = some column) : Distinct column.kind.records :=
  fun record hrecord => hdistinct record
    (RowType.mem_records_of_mem (List.mem_of_find?_eq_some hcolumn) hrecord)

theorem Distinct.of_kind {column : Column} {type : RowType}
    (hdistinct : Distinct column.kind.records) (hkind : column.kind = .record type) :
    Distinct type.records := by
  rw [hkind, ColumnKind.records] at hdistinct
  exact hdistinct

theorem RowType.distinct {schema : TableSchema} {type : RowType}
    (htype : RowType.ofTable schema = .ok type) : Distinct type.records := by
  intro record hrecord name column hcolumn
  have hmem := List.mem_of_find?_eq_some hcolumn
  have hnumbers : (record.columns.map Column.number).Nodup := by
    rw [map_number_of_mem htype hrecord]
    exact List.nodup_range'
  exact ⟨column?_name htype hrecord hmem,
    fun other hother hsame => List.inj_on_of_nodup_map hnumbers hother hmem hsame⟩

theorem Message.fill_eq_ok {row filled : Message} {type : RowType} {name : String}
    {store : Column → Except ConversionError Value}
    (hfilled : row.fill type name store = .ok filled) :
    (type.column? name = none ∧ filled = row) ∨
      ∃ column stored, type.column? name = some column ∧ store column = .ok stored ∧
        filled = row.putColumn column (.single stored) := by
  rw [fill] at hfilled
  split at hfilled
  · rename_i hnone
    cases hfilled
    exact .inl ⟨hnone, rfl⟩
  · rename_i column hcolumn
    split at hfilled
    · cases hfilled
    · rename_i stored hstored
      cases hfilled
      exact .inr ⟨column, stored, hcolumn, hstored, rfl⟩

end Columns

section Projection

/-- A value is stored as the projection has it. -/
def Projection.Stores (projection : Projection) : Storage := fun top column value stored =>
  value.project projection (top && projection.partitionKey == some column.name) column = .ok stored

/-- What is stored by one way is stored by the other, records aside. -/
def Storage.Within (storage other : Storage) : Prop :=
  ∀ top column value stored, value.isRecord = false →
    storage top column value stored → other top column value stored

variable {projection : Projection} {storage : Storage}

/-- The record of a map entry has the key and the value of the entry. -/
theorem rendersPairs_cons {entryType : RowType}
    (hdistinct : Distinct entryType.records) {key : Scalar} {value : Value} {keyed record : Message}
    {storeKey storeValue : Column → Except ConversionError Value} {pairs : List Pair}
    {records : List Message}
    (hkeyed : (Message.empty entryType.name).fill entryType "key" storeKey = .ok keyed)
    (hrecord : keyed.fill entryType "value" storeValue = .ok record)
    (hkey : ∀ column stored, entryType.column? "key" = some column → storeKey column = .ok stored →
      Renders storage false column (.scalar key) stored)
    (hvalue : ∀ column stored, entryType.column? "value" = some column →
      storeValue column = .ok stored → Renders storage false column value stored)
    (hpairs : RendersPairs storage entryType pairs records) :
    RendersPairs storage entryType (⟨key, value⟩ :: pairs) (record :: records) := by
  have hself := RowType.mem_records entryType
  have hkeeps : ∀ column, entryType.column? "key" = some column →
      record.content? column.number = keyed.content? column.number := by
    intro column hcolumn
    have hname := RowType.name_of_column? hcolumn
    rcases Message.fill_eq_ok hrecord with ⟨-, rfl⟩ | ⟨other, stored, hother, -, rfl⟩
    · rfl
    · rw [(hdistinct entryType hself _ column hcolumn).content?_putColumn hother,
        if_neg (by rw [hname]; decide)]
  refine .cons ?_ ?_ hpairs
  · rcases Message.fill_eq_ok hkeyed with ⟨hnone, rfl⟩ | ⟨column, stored, hcolumn, hstored, rfl⟩
    · rw [hnone]
      exact .dropped _ _
    · have hname := RowType.name_of_column? hcolumn
      have hheld := hkeeps column hcolumn
      rw [(hdistinct entryType hself _ column hcolumn).content?_putColumn hcolumn,
        if_pos hname.symm] at hheld
      rw [hcolumn]
      exact .held (hkey column stored hcolumn hstored) hheld
  · rcases Message.fill_eq_ok hrecord with ⟨hnone, rfl⟩ | ⟨column, stored, hcolumn, hstored, rfl⟩
    · rw [hnone]
      exact .dropped _ _
    · have hname := RowType.name_of_column? hcolumn
      rw [hcolumn]
      refine .held (hvalue column stored hcolumn hstored) ?_
      rw [(hdistinct entryType hself _ column hcolumn).content?_putColumn hcolumn,
        if_pos hname.symm]

mutual

/-- Once its fields are projected, a column holds what the last field of its name has, or what it
held before if there is no such field. -/
theorem Message.holds_of_projectEntries {top : Bool} {target : RowType} {result : Message}
    (hstores : projection.Stores.Within storage) (hdistinct : Distinct target.records) :
    ∀ (entries : List Entry) (row : Message),
      projectEntries projection top target row entries = .ok result →
        ∀ name column, target.column? name = some column →
          (lastContent? name entries = none →
            result.content? column.number = row.content? column.number) ∧
          ∀ content, lastContent? name entries = some content →
            Holds storage top column (some content) (result.content? column.number)
  | [], row, hresult => by
    rw [projectEntries] at hresult
    cases hresult
    exact fun name column hcolumn => ⟨fun _ => rfl, nofun⟩
  | ⟨_, other, content⟩ :: rest, row, hresult => by
    rw [projectEntries] at hresult
    intro name column hcolumn
    have hsingle := hdistinct target (RowType.mem_records target) name column hcolumn
    have hname := RowType.name_of_column? hcolumn
    rw [lastContent?]
    dsimp only
    split at hresult
    · rename_i hnone
      have hother : Text.lowerCase other ≠ name := by
        rintro rfl
        rw [hcolumn] at hnone
        cases hnone
      obtain ⟨hkept, hheld⟩ :=
        Message.holds_of_projectEntries hstores hdistinct rest row hresult name column hcolumn
      rw [if_neg hother]
      cases hlast : lastContent? name rest with
      | none => exact ⟨fun _ => hkept hlast, nofun⟩
      | some later =>
        rw [hlast] at hheld
        exact ⟨nofun, hheld⟩
    · rename_i found hfound
      split at hresult
      · cases hresult
      · rename_i stored hstored
        obtain ⟨hkept, hheld⟩ :=
          Message.holds_of_projectEntries hstores hdistinct rest _ hresult name column hcolumn
        cases hlast : lastContent? name rest with
        | some later =>
          rw [hlast] at hheld
          exact ⟨nofun, hheld⟩
        | none =>
          dsimp only
          rw [hkept hlast, hsingle.content?_putColumn hfound, hname]
          by_cases hother : Text.lowerCase other = name
          · obtain rfl : found = column := by
              rw [hother, hcolumn] at hfound
              exact (Option.some.inj hfound).symm
            have hrendered :=
              Content.holds_of_project hstores (hdistinct.of_column? hcolumn) content hstored
            rw [if_pos hother, if_pos hother]
            refine ⟨nofun, fun _ hsame => ?_⟩
            cases hsame
            exact hrendered
          · rw [if_neg hother, if_neg hother]
            exact ⟨fun _ => rfl, nofun⟩
termination_by structural entries => entries

theorem Content.holds_of_project {top : Bool} {column : Column} {stored : Content}
    (hstores : projection.Stores.Within storage) (hdistinct : Distinct column.kind.records) :
    ∀ content : Content,
      content.project projection (top && projection.partitionKey == some column.name) column =
          .ok stored →
        Holds storage top column (some content) (some stored)
  | .map pairs, hstored => by
    rw [Content.project] at hstored
    split at hstored
    · rename_i entryType hkind
      split at hstored
      · rename_i hrepeated
        split at hstored
        · cases hstored
        · rename_i records hrecords
          cases hstored
          exact .map hrepeated hkind
            (rendersPairs_of_projectPairs hstores (hdistinct.of_kind hkind) pairs hrecords)
      · cases hstored
    · cases hstored
  | .list items, hstored => by
    rw [Content.project] at hstored
    split at hstored
    · rename_i hrepeated
      split at hstored
      · cases hstored
      · rename_i values hvalues
        cases hstored
        exact .list hrepeated (rendersItems_of_projectItems hstores hdistinct items hvalues)
    · cases hstored
  | .single value, hstored => by
    rw [Content.project] at hstored
    split at hstored
    · cases hstored
    · rename_i hsingle
      split at hstored
      · cases hstored
      · rename_i value' hvalue
        cases hstored
        exact .single (by simpa using hsingle)
          (Value.renders_of_project hstores hdistinct value hvalue)
termination_by structural content => content

theorem rendersItems_of_projectItems {column : Column} {values : List Value}
    (hstores : projection.Stores.Within storage) (hdistinct : Distinct column.kind.records) :
    ∀ items : List Value,
      projectItems projection column items = .ok values →
        RendersItems storage column items values
  | [], hvalues => by
    rw [projectItems] at hvalues
    cases hvalues
    exact .nil column
  | value :: rest, hvalues => by
    rw [projectItems] at hvalues
    split at hvalues
    · cases hvalues
    · rename_i stored hstored
      split at hvalues
      · cases hvalues
      · rename_i more hmore
        cases hvalues
        exact .cons (Value.renders_of_project hstores hdistinct value hstored)
          (rendersItems_of_projectItems hstores hdistinct rest hmore)
termination_by structural items => items

theorem rendersPairs_of_projectPairs {entryType : RowType} {records : List Message}
    (hstores : projection.Stores.Within storage) (hdistinct : Distinct entryType.records) :
    ∀ pairs : List Pair,
      projectPairs projection entryType pairs = .ok records →
        RendersPairs storage entryType pairs records
  | [], hrecords => by
    rw [projectPairs] at hrecords
    cases hrecords
    exact .nil entryType
  | ⟨key, value⟩ :: rest, hrecords => by
    rw [projectPairs] at hrecords
    split at hrecords
    · cases hrecords
    · rename_i keyed hkeyed
      split at hrecords
      · cases hrecords
      · rename_i record hrecord
        split at hrecords
        · cases hrecords
        · rename_i more hmore
          cases hrecords
          refine rendersPairs_cons hdistinct hkeyed hrecord ?_ ?_
            (rendersPairs_of_projectPairs hstores hdistinct rest hmore)
          · intro column stored _ hstored
            refine .leaf rfl (hstores _ _ _ _ rfl ?_)
            rw [Projection.Stores, Value.project]
            exact hstored
          · intro column stored hcolumn hstored
            exact Value.renders_of_project hstores (hdistinct.of_column? hcolumn) value hstored
termination_by structural pairs => pairs

theorem Value.renders_of_project {top : Bool} {column : Column} {stored : Value}
    (hstores : projection.Stores.Within storage) (hdistinct : Distinct column.kind.records) :
    ∀ value : Value,
      value.project projection (top && projection.partitionKey == some column.name) column =
          .ok stored →
        Renders storage top column value stored
  | .scalar value, hstored => .leaf rfl (hstores _ _ _ _ rfl hstored)
  | .enumeration number name, hstored => .leaf rfl (hstores _ _ _ _ rfl hstored)
  | .message ⟨typeName, entries, unknown⟩, hstored => by
    by_cases hleaf : (Value.message ⟨typeName, entries, unknown⟩).isRecord = false
    · exact .leaf hleaf (hstores _ _ _ _ hleaf hstored)
    · have hrecord : (Value.message ⟨typeName, entries, unknown⟩).isRecord = true := by
        simpa using hleaf
      obtain ⟨hinstant, hstruct⟩ := Value.isRecord_message_iff.mp hrecord
      rw [Value.project, if_neg hinstant, if_neg hstruct] at hstored
      split at hstored
      · rename_i target hkind
        cases hrow : projectEntries projection false target (.empty target.name) entries with
        | error error =>
          rw [hrow] at hstored
          cases hstored
        | ok row =>
          rw [hrow] at hstored
          cases hstored
          exact .record hrecord hkind (represents_of_columns
            (Message.holds_of_projectEntries hstores (hdistinct.of_kind hkind) entries _ hrow))
      · cases hstored
termination_by structural value => value

end

/-- The row of a record represents it. -/
theorem Projection.represents_of_row {schema : TableSchema} {target : RowType}
    {record row : Message} (hstores : projection.Stores.Within storage)
    (htype : RowType.ofTable schema = .ok target)
    (hrow : projection.row target record = .ok row) :
    Represents storage true target record.entries row := by
  obtain ⟨typeName, entries, unknown⟩ := record
  rw [Projection.row, Message.project] at hrow
  exact represents_of_columns
    (Message.holds_of_projectEntries hstores (RowType.distinct htype) entries _ hrow)

/-- Of every field of a record that has a column, the column holds the conversion, unless a later
field has the same name in lower case. So it is in every record that is converted within, in lists
and in maps: each column holds the conversion of the last field that belongs to it. -/
theorem Projection.row_holds_last_fields {schema : TableSchema} {target : RowType}
    {record row : Message} (htype : RowType.ofTable schema = .ok target)
    (hrow : projection.row target record = .ok row) :
    (∀ before entry after column, record.entries = before ++ entry :: after →
        target.column? (Text.lowerCase entry.name) = some column →
        (∀ later ∈ after, Text.lowerCase later.name ≠ Text.lowerCase entry.name) →
        Holds projection.Stores true column (some entry.content)
          (row.content? column.number)) ∧
      Represents projection.Stores true target record.entries row := by
  have hrepresents : Represents projection.Stores true target record.entries row :=
    represents_of_row (fun _ _ _ _ _ hstored => hstored) htype hrow
  refine ⟨fun before entry after column hentries hcolumn hlater => ?_, hrepresents⟩
  obtain ⟨hholds⟩ := hrepresents
  have hheld := hholds _ column hcolumn
  rw [hentries, lastContent?_append_cons before entry hlater] at hheld
  exact hheld

end Projection

namespace CasedNames

def table : TableSchema :=
  ⟨[{ name := "id", type := 1, mode := 1 },
    { name := "Owner", type := 4, mode := 1, fields :=
        [{ name := "id", type := 2, mode := 1 }, { name := "tags", type := 1, mode := 3 }] },
    { name := "sizes", type := 4, mode := 3, fields :=
        [{ name := "key", type := 1, mode := 1 }, { name := "value", type := 2, mode := 1 }] }]⟩

def ownerType : RowType :=
  ⟨"__ROOT__.Struct_owner", [⟨1, "id", .optional, .int64⟩, ⟨2, "tags", .repeated, .string⟩]⟩

def sizeType : RowType :=
  ⟨"__ROOT__.Struct_sizes", [⟨1, "key", .optional, .string⟩, ⟨2, "value", .optional, .int64⟩]⟩

def type : RowType :=
  ⟨rootName, [⟨1, "id", .optional, .string⟩, ⟨2, "owner", .optional, .record ownerType⟩,
    ⟨3, "sizes", .repeated, .record sizeType⟩]⟩

/-- A box whose owner has two identities. -/
def box : Message :=
  ⟨"test.Box",
    [⟨1, "Id", .single (.scalar (.string "b"))⟩, ⟨2, "weight", .single (.scalar (.double 0))⟩,
      ⟨3, "owner", .single (.message ⟨"test.Owner",
        [⟨1, "ID", .single (.scalar (.int32 7))⟩, ⟨2, "id", .single (.scalar (.int32 8))⟩,
          ⟨3, "Tags", .list [.scalar (.string "x"), .scalar (.string "y")]⟩], []⟩)⟩,
      ⟨4, "Sizes", .map [⟨.string "w", .scalar (.uint32 30)⟩]⟩], []⟩

def boxRow : Message :=
  ⟨rootName,
    [⟨1, "id", .single (.scalar (.string "b"))⟩,
      ⟨2, "owner", .single (.message ⟨"__ROOT__.Struct_owner",
        [⟨1, "id", .single (.scalar (.int64 8))⟩,
          ⟨2, "tags", .list [.scalar (.string "x"), .scalar (.string "y")]⟩], []⟩)⟩,
      ⟨3, "sizes", .list [.message ⟨"__ROOT__.Struct_sizes",
        [⟨1, "key", .single (.scalar (.string "w"))⟩,
          ⟨2, "value", .single (.scalar (.int64 30))⟩], []⟩]⟩], []⟩

def projection : Projection := .atTime none ⟨1700000000, 0⟩

theorem row_holds_last_fields_of_box :
    RowType.ofTable table = .ok type ∧ projection.row type box = .ok boxRow ∧
      (∀ before entry after column, box.entries = before ++ entry :: after →
        type.column? (Text.lowerCase entry.name) = some column →
        (∀ later ∈ after, Text.lowerCase later.name ≠ Text.lowerCase entry.name) →
        Holds projection.Stores true column (some entry.content)
          (boxRow.content? column.number)) ∧
      Represents projection.Stores true type box.entries boxRow := by
  have htype : RowType.ofTable table = .ok type := rfl
  have hrow : projection.row type box = .ok boxRow := rfl
  exact ⟨htype, hrow, Projection.row_holds_last_fields htype hrow⟩

def users : TableSchema := ⟨[{ name := "userid", type := 2, mode := 1 }]⟩

def userType : RowType := ⟨rootName, [⟨1, "userid", .optional, .int64⟩]⟩

/-- A user with two fields that differ in case. -/
def user : Message :=
  ⟨"test.User", [⟨1, "UserId", .single (.scalar (.int64 1))⟩,
    ⟨2, "userid", .single (.scalar (.int64 2))⟩], []⟩

def userRow : Message := ⟨rootName, [⟨1, "userid", .single (.scalar (.int64 2))⟩], []⟩

/-- A field that has a column may be lost to another field. -/
theorem not_fields_represented :
    ¬ ∀ (schema : TableSchema) (target : RowType) (projection : Projection) (record row : Message)
      (entry : Entry) (column : Column), RowType.ofTable schema = .ok target →
      projection.row target record = .ok row → entry ∈ record.entries →
      target.column? (Text.lowerCase entry.name) = some column →
      Holds projection.Stores true column (some entry.content)
        (row.content? column.number) := by
  intro hclaim
  have hheld := hclaim users userType projection user userRow
    ⟨1, "UserId", .single (.scalar (.int64 1))⟩ ⟨1, "userid", .optional, .int64⟩ rfl rfl
    List.mem_cons_self rfl
  have hcontent : userRow.content? 1 = some (.single (.scalar (.int64 2))) := rfl
  rw [hcontent] at hheld
  cases hheld with
  | single _ hvalue =>
    cases hvalue with
    | leaf _ hstored =>
      have hother : (Value.scalar (.int64 1)).project projection false
          ⟨1, "userid", .optional, .int64⟩ = .ok (.scalar (.int64 1)) := rfl
      cases hother.symm.trans hstored

end CasedNames

end RowSink
