import Mathlib.Data.List.Nodup
import RowSink.Proofs.Table.Evolution

/-!
# The window of the partition column

What the partition column of a row holds was put there last: by a field of the record, by a piece
of metadata, or as the record of all metadata. A timestamp that is the whole content of a field has
to lie in the window of the partition column. Metadata and the timestamps of a list are only held
to the years one to 9999, whatever column they go to.
-/

namespace RowSink

section Supplies

/-- The microseconds of a timestamp, the nanoseconds past them cut off. -/
def Value.instant? : Value → Option Int
  | .message ⟨typeName, entries, _⟩ =>
    if typeName = WellKnown.timestampName then
      some ((timestampSeconds entries).toInt * Instant.microsPerSecond +
        (timestampNanos entries).toInt.tdiv 1000)
    else none
  | _ => none

/-- The values that stand in a column. -/
def Content.values : Content → List Value
  | .single value => [value]
  | .list items => items
  | .map _ => []

def MetadataValue.instant? : MetadataValue → Option Int
  | .instant value => some value.micros
  | _ => none

/-- What is put into a column of the row itself. -/
inductive Supply where
  | field (content : Content)
  | metadata (value : MetadataValue)
  /-- The record of all metadata. -/
  | metadataRecord

namespace Supply

/-- The instants that are put into the column. -/
def instants : Supply → List Int
  | field (.single value) => value.instant?.toList
  | field (.list items) => items.filterMap Value.instant?
  | field (.map _) => []
  | metadata value => value.instant?.toList
  | metadataRecord => []

/-- The instants that the partition column accepts in a supply. -/
def window (now : Instant) : Supply → TimestampWindow
  | field (.single _) => .partition now
  | _ => .absolute

/-- The instants of a supply are accepted and stand in the content of the column. -/
def StoredIn (now : Instant) (column : Column) (content : Content) (supply : Supply) : Prop :=
  ∀ micros ∈ supply.instants, (supply.window now).contains micros = true ∧
    ∃ stored, column.coerce (.int64 (Int64.ofInt micros)) = .ok stored ∧
      Value.scalar stored ∈ content.values

/-- A column holds what was put into it last. -/
inductive Last (now : Instant) (column : Column) : List Supply → Option Content → Prop where
  | untouched : Last now column [] none
  | put {before : List Supply} {supply : Supply} {content : Content}
      (hstored : supply.StoredIn now column content) :
      Last now column (before ++ [supply]) (some content)

end Supply

/-- The fields of a record that go to a column. -/
def fieldSupplies (name : String) (entries : List Entry) : List Supply :=
  (entries.filter fun entry => Text.lowerCase entry.name == name).map fun entry =>
    .field entry.content

/-- The metadata that goes to a column. -/
def metadataSupplies (name : String) (metadata : Metadata) (keys : List String) : List Supply :=
  (keys.filter fun key => Text.lowerCase key == name).filterMap fun key =>
    (metadata.get? key).map .metadata

namespace MetadataConfig

def supplies (name : String) (metadata : Metadata) (config : MetadataConfig) : List Supply :=
  match config.namespaceColumn with
  | none => metadataSupplies name metadata config.columns
  | some key => if Text.lowerCase key = name then [.metadataRecord] else []

end MetadataConfig

/-- All that is put into a column of that name, in the order in which it is. -/
def Conversion.supplies (conversion : Conversion) (name : String) (record : Message)
    (metadata : Metadata) : List Supply :=
  fieldSupplies name record.entries ++
    (conversion.config.metadata.map (MetadataConfig.supplies name metadata)).getD []

end Supplies

section Storing

variable {now : Instant} {column : Column}

theorem TimestampWindow.contains_of_check {window : TimestampWindow} {field : String}
    {micros instant : Int} (hinstant : window.check field micros = .ok instant) :
    window.contains micros = true ∧ instant = micros := by
  rw [check] at hinstant
  split at hinstant
  · rename_i hcontains
    cases hinstant
    exact ⟨hcontains, rfl⟩
  · cases hinstant

theorem Column.storeTimestamp_eq_ok {window : TimestampWindow} {entries : List Entry}
    {stored : Scalar} (hstored : column.storeTimestamp window entries = .ok stored) :
    ∃ micros, micros = (timestampSeconds entries).toInt * Instant.microsPerSecond +
        (timestampNanos entries).toInt.tdiv 1000 ∧
      window.contains micros = true ∧ column.coerce (.int64 (Int64.ofInt micros)) = .ok stored := by
  rw [storeTimestamp] at hstored
  split at hstored
  · cases hstored
  · rename_i micros hmicros
    split at hstored
    · cases hstored
    · rename_i instant hinstant
      obtain ⟨hcontains, rfl⟩ := TimestampWindow.contains_of_check hinstant
      rw [timestampMicros] at hmicros
      split at hmicros
      · cases hmicros
        exact ⟨_, rfl, hcontains, hstored⟩
      · cases hmicros

variable {projection : Projection}

namespace Value

theorem exists_of_instant? {value : Value} {micros : Int}
    (hmicros : value.instant? = some micros) :
    ∃ entries unknown, value = .message ⟨WellKnown.timestampName, entries, unknown⟩ ∧
      micros = (timestampSeconds entries).toInt * Instant.microsPerSecond +
        (timestampNanos entries).toInt.tdiv 1000 := by
  obtain _ | _ | ⟨typeName, entries, unknown⟩ := value
  · cases hmicros
  · cases hmicros
  rw [instant?] at hmicros
  split at hmicros
  case isFalse => cases hmicros
  rename_i htimestamp
  cases hmicros
  exact ⟨entries, unknown, by rw [htimestamp], rfl⟩

theorem project_timestamp (partition : Bool) (entries : List Entry)
    (unknown : List UnknownField) :
    (Value.message ⟨WellKnown.timestampName, entries, unknown⟩).project projection partition
        column =
      (column.storeTimestamp (if partition then projection.partitionWindow else .absolute)
        entries).map .scalar := by
  rw [project, if_pos rfl]

/-- A timestamp is checked against the window of its column, and stored as it is. -/
theorem contains_of_project {partition : Bool} {value stored : Value} {micros : Int}
    (hstored : value.project projection partition column = .ok stored)
    (hmicros : value.instant? = some micros) :
    (if partition then projection.partitionWindow else .absolute).contains micros = true ∧
      ∃ scalar, column.coerce (.int64 (Int64.ofInt micros)) = .ok scalar ∧
        stored = .scalar scalar := by
  obtain ⟨entries, unknown, rfl, rfl⟩ := exists_of_instant? hmicros
  rw [project_timestamp] at hstored
  obtain ⟨scalar, hscalar, rfl⟩ := exists_of_map_scalar hstored
  obtain ⟨_, rfl, hcontains, hcoerced⟩ := Column.storeTimestamp_eq_ok hscalar
  exact ⟨hcontains, scalar, hcoerced, rfl⟩

end Value

theorem mem_of_projectItems {items values : List Value} {micros : Int}
    (hvalues : projectItems projection column items = .ok values)
    (hmicros : micros ∈ items.filterMap Value.instant?) :
    TimestampWindow.absolute.contains micros = true ∧
      ∃ scalar, column.coerce (.int64 (Int64.ofInt micros)) = .ok scalar ∧
        Value.scalar scalar ∈ values := by
  induction items generalizing values with
  | nil => cases hmicros
  | cons value rest ih =>
    rw [projectItems] at hvalues
    split at hvalues
    · cases hvalues
    · rename_i stored hstored
      split at hvalues
      · cases hvalues
      · rename_i more hmore
        cases hvalues
        obtain ⟨item, hitem, hinstant⟩ := List.mem_filterMap.mp hmicros
        rcases List.mem_cons.mp hitem with rfl | hrest
        · obtain ⟨hcontains, scalar, hcoerced, rfl⟩ := Value.contains_of_project hstored hinstant
          exact ⟨hcontains, scalar, hcoerced, List.mem_cons_self⟩
        · obtain ⟨hcontains, scalar, hcoerced, hmem⟩ :=
            ih hmore (List.mem_filterMap.mpr ⟨item, hrest, hinstant⟩)
          exact ⟨hcontains, scalar, hcoerced, List.mem_cons_of_mem _ hmem⟩

namespace Supply

theorem storedIn_of_project {key : String} {content stored : Content}
    (hstored : content.project (.atTime (some key) now) true column = .ok stored) :
    (field content).StoredIn now column stored := by
  intro micros hmicros
  cases content with
  | single value =>
    rw [instants, Option.mem_toList] at hmicros
    rw [Content.project] at hstored
    split at hstored
    · cases hstored
    · split at hstored
      · cases hstored
      · rename_i value' hvalue
        cases hstored
        obtain ⟨hcontains, scalar, hcoerced, rfl⟩ := Value.contains_of_project hvalue hmicros
        exact ⟨hcontains, scalar, hcoerced, List.mem_singleton_self _⟩
  | list items =>
    rw [instants] at hmicros
    rw [Content.project] at hstored
    split at hstored
    · split at hstored
      · cases hstored
      · rename_i values hvalues
        cases hstored
        exact mem_of_projectItems hvalues hmicros
    · cases hstored
  | map pairs => cases hmicros

theorem storedIn_of_storeMetadata {key : String} {value : MetadataValue} {stored : Value}
    (hstored : column.storeMetadata key value = .ok stored) :
    (metadata value).StoredIn now column (.single stored) := by
  intro micros hmicros
  rw [instants, Option.mem_toList] at hmicros
  cases value with
  | text _ => cases hmicros
  | integer _ => cases hmicros
  | instant value =>
    cases hmicros
    rw [Column.storeMetadata, MetadataValue.toScalar] at hstored
    cases hinstant : TimestampWindow.absolute.check key value.micros with
    | error error =>
      rw [hinstant] at hstored
      cases hstored
    | ok instant =>
      rw [hinstant] at hstored
      obtain ⟨hcontains, rfl⟩ := TimestampWindow.contains_of_check hinstant
      obtain ⟨scalar, hscalar, rfl⟩ := exists_of_map_scalar hstored
      exact ⟨hcontains, scalar, hscalar, List.mem_singleton_self _⟩

end Supply

end Storing

section Rows

theorem fieldSupplies_cons (name : String) (entry : Entry) (rest : List Entry) :
    fieldSupplies name (entry :: rest) =
      (if Text.lowerCase entry.name = name then [Supply.field entry.content] else []) ++
        fieldSupplies name rest := by
  rw [fieldSupplies, List.filter_cons]
  by_cases hname : Text.lowerCase entry.name = name
  · rw [if_pos hname, if_pos (beq_iff_eq.mpr hname), List.map_cons]
    rfl
  · rw [if_neg hname, if_neg (by simpa using hname)]
    rfl

theorem metadataSupplies_cons (name : String) (metadata : Metadata) (key : String)
    (rest : List String) :
    metadataSupplies name metadata (key :: rest) =
      (if Text.lowerCase key = name then ((metadata.get? key).map Supply.metadata).toList else []) ++
        metadataSupplies name metadata rest := by
  rw [metadataSupplies, List.filter_cons]
  by_cases hname : Text.lowerCase key = name
  · rw [if_pos hname, if_pos (beq_iff_eq.mpr hname), List.filterMap_cons]
    cases metadata.get? key <;> rfl
  · rw [if_neg hname, if_neg (by simpa using hname)]
    rfl

theorem RowType.name_of_column? {type : RowType} {name : String} {column : Column}
    (hcolumn : type.column? name = some column) : column.name = name := by
  have hfound := List.find?_some hcolumn
  exact beq_iff_eq.mp hfound

/-- A column of the type is the only one with its number. -/
def RowType.Singles (type : RowType) (column : Column) : Prop :=
  type.column? column.name = some column ∧
    ∀ other ∈ type.columns, other.number = column.number → other = column

theorem RowType.singles {schema : TableSchema} {type : RowType} {name : String} {column : Column}
    (htype : RowType.ofTable schema = .ok type) (hcolumn : type.column? name = some column) :
    type.Singles column := by
  have hself : type ∈ type.records := by
    cases type
    rw [records]
    exact List.mem_cons_self
  have hnumbers : (type.columns.map Column.number).Nodup := by
    rw [map_number_of_mem htype hself]
    exact List.nodup_range'
  have hmem := List.mem_of_find?_eq_some hcolumn
  refine ⟨?_, fun other hother hsame => ?_⟩
  · rw [name_of_column? hcolumn]
    exact hcolumn
  · exact List.inj_on_of_nodup_map hnumbers hother hmem hsame

theorem RowType.Singles.ne_of_column? {type : RowType} {column : Column} {name : String}
    (hsingle : type.Singles column) (hnone : type.column? name = none) : name ≠ column.name := by
  rintro rfl
  rw [hsingle.1] at hnone
  cases hnone

theorem RowType.Singles.eq_of_column? {type : RowType} {column other : Column}
    (hsingle : type.Singles column) (hother : type.column? column.name = some other) :
    other = column := by
  rw [hsingle.1] at hother
  exact (Option.some.inj hother).symm

/-- Setting a column changes what is found under its name and nothing else. -/
theorem RowType.Singles.content?_putColumn {type : RowType} {column other : Column} {name : String}
    (hsingle : type.Singles column) (hother : type.column? name = some other) (row : Message)
    (content : Content) :
    (row.putColumn other content).content? column.number =
      if name = column.name then some content else row.content? column.number := by
  rw [Message.putColumn, Message.content?_put]
  by_cases hname : name = column.name
  · rw [hname] at hother
    rw [hsingle.eq_of_column? hother, if_pos rfl, if_pos hname]
  · have hnumber : other.number ≠ column.number := by
      intro hsame
      have hcolumn := hsingle.2 other (List.mem_of_find?_eq_some hother) hsame
      rw [← RowType.name_of_column? hother, hcolumn] at hname
      exact hname rfl
    rw [if_neg hnumber, if_neg hname]

namespace Supply.Last

variable {now : Instant} {column : Column} {type : RowType} {supplies : List Supply}
  {row result : Message}

/-- A column that is set holds what it is set to, and other columns what they held before. -/
theorem putColumn {name : String} {other : Column} {content : Content} {supply : Supply}
    (hlast : Last now column supplies (row.content? column.number)) (hsingle : type.Singles column)
    (hother : type.column? name = some other)
    (hstored : other = column → supply.StoredIn now column content) :
    Last now column (supplies ++ if name = column.name then [supply] else [])
      ((row.putColumn other content).content? column.number) := by
  rw [hsingle.content?_putColumn hother]
  by_cases hname : name = column.name
  · rw [hname] at hother
    rw [if_pos hname, if_pos hname]
    exact .put (hstored (hsingle.eq_of_column? hother))
  · rw [if_neg hname, if_neg hname, List.append_nil]
    exact hlast

theorem projectEntries {entries : List Entry} (hsingle : type.Singles column)
    (hlast : Last now column supplies (row.content? column.number))
    (hresult : RowSink.projectEntries (.atTime (some column.name) now) true type row entries =
      .ok result) :
    Last now column (supplies ++ fieldSupplies column.name entries)
      (result.content? column.number) := by
  induction entries generalizing supplies row with
  | nil =>
    rw [RowSink.projectEntries] at hresult
    cases hresult
    rw [fieldSupplies, List.filter_nil, List.map_nil, List.append_nil]
    exact hlast
  | cons entry rest ih =>
    obtain ⟨number, name, content⟩ := entry
    rw [RowSink.projectEntries] at hresult
    rw [fieldSupplies_cons, ← List.append_assoc]
    split at hresult
    · rename_i hnone
      rw [if_neg (hsingle.ne_of_column? hnone), List.append_nil]
      exact ih hlast hresult
    · rename_i other hother
      split at hresult
      · cases hresult
      · rename_i stored hstored
        refine ih (hlast.putColumn hsingle hother ?_) hresult
        rintro rfl
        rw [Projection.atTime, Bool.true_and, beq_self_eq_true] at hstored
        exact storedIn_of_project hstored

theorem injectColumns {metadata : Metadata} {keys : List String} (hsingle : type.Singles column)
    (hlast : Last now column supplies (row.content? column.number))
    (hresult : row.injectColumns type metadata keys = .ok result) :
    Last now column (supplies ++ metadataSupplies column.name metadata keys)
      (result.content? column.number) := by
  induction keys generalizing supplies row with
  | nil =>
    cases hresult
    rw [metadataSupplies, List.filter_nil, List.filterMap_nil, List.append_nil]
    exact hlast
  | cons key rest ih =>
    rw [Message.injectColumns] at hresult
    rw [metadataSupplies_cons, ← List.append_assoc]
    split at hresult
    · rename_i hnone
      rw [hnone, Option.map_none, Option.toList_none, ite_self, List.append_nil]
      exact ih hlast hresult
    · rename_i value hvalue
      rw [hvalue, Option.map_some, Option.toList_some, Message.fill] at *
      split at hresult
      · cases hresult
      · rename_i filled hfilled
        refine ih ?_ hresult
        split at hfilled
        · rename_i hnone
          cases hfilled
          rw [if_neg (hsingle.ne_of_column? hnone), List.append_nil]
          exact hlast
        · rename_i other hother
          split at hfilled
          · cases hfilled
          · rename_i stored hstored
            cases hfilled
            refine hlast.putColumn hsingle hother ?_
            rintro rfl
            exact storedIn_of_storeMetadata hstored

theorem inject {metadata : Metadata} {config : MetadataConfig} (hsingle : type.Singles column)
    (hlast : Last now column supplies (row.content? column.number))
    (hresult : row.inject type config metadata = .ok result) :
    Last now column (supplies ++ config.supplies column.name metadata)
      (result.content? column.number) := by
  rw [Message.inject] at hresult
  rw [MetadataConfig.supplies]
  cases hkey : config.namespaceColumn with
  | none =>
    rw [hkey] at hresult
    exact hlast.injectColumns hsingle hresult
  | some key =>
    rw [hkey] at hresult
    dsimp only at hresult ⊢
    split at hresult
    · rename_i hnone
      cases hresult
      rw [if_neg (hsingle.ne_of_column? hnone), List.append_nil]
      exact hlast
    · rename_i other hother
      split at hresult
      · split at hresult
        · cases hresult
        · split at hresult
          · cases hresult
          · cases hresult
            refine hlast.putColumn hsingle hother fun _ micros hmicros => ?_
            cases hmicros
      · cases hresult

end Supply.Last

end Rows

/-- What the partition column holds was put there last of all that is put into it, and instants are
stored as they are. The timestamp of a field lies in the window of the partition column. Instants
of metadata, like those in a list, are held to the years one to 9999 alone. -/
theorem Conversion.partition_column_last {schema : TableSchema} {conversion : Conversion}
    {now : Instant} {input : InputMessage} {record row : Message} {key : String}
    {column : Column} (htype : RowType.ofTable schema = .ok conversion.target)
    (hkey : conversion.config.partitionKey = some key)
    (hcolumn : conversion.target.column? key = some column)
    (hrecord : conversion.parser input = .ok record)
    (hrow : conversion.row now input = .ok row) :
    Supply.Last now column (conversion.supplies key record input.metadata)
      (row.content? column.number) := by
  have hsingle := RowType.singles htype hcolumn
  obtain rfl := RowType.name_of_column? hcolumn
  rw [Conversion.row, hrecord, hkey] at hrow
  dsimp only at hrow
  rw [supplies]
  split at hrow
  · cases hrow
  · rename_i projected hprojected
    obtain ⟨name, entries, unknown⟩ := record
    rw [Projection.row, Message.project] at hprojected
    have hlast : Supply.Last now column (fieldSupplies column.name entries)
        (projected.content? column.number) :=
      Supply.Last.untouched.projectEntries hsingle hprojected
    split at hrow
    · rename_i hconfig
      cases hrow
      rw [hconfig, Option.map_none, Option.getD_none, List.append_nil]
      exact hlast
    · rename_i config hconfig
      rw [hconfig, Option.map_some, Option.getD_some]
      exact hlast.inject hsingle hrow

namespace Letters

def table : TableSchema :=
  ⟨[{ name := "id", type := 1, mode := 1 }, { name := "message_timestamp", type := 7, mode := 1 }]⟩

def column : Column := ⟨2, "message_timestamp", .optional, .int64⟩

def type : RowType := ⟨rootName, [⟨1, "id", .optional, .string⟩, column]⟩

/-- The table is partitioned by the time of the message, which metadata may tell. -/
def conversion (record : Message) : Conversion where
  parser _ := .ok record
  config :=
    { partitionKey := some "message_timestamp", metadata := some ⟨none, ["message_timestamp"]⟩ }
  target := type

def letter : Message := ⟨"test.Letter", [⟨1, "id", .single (.scalar (.string "x"))⟩], []⟩

def time : Content :=
  .single (.message ⟨WellKnown.timestampName,
    [⟨1, "seconds", .single (.scalar (.int64 1690000000))⟩], []⟩)

/-- A letter that has a time itself. -/
def datedLetter : Message :=
  ⟨"test.Letter", [⟨1, "id", .single (.scalar (.string "x"))⟩, ⟨4, "Message_Timestamp", time⟩], []⟩

def row (micros : Int64) : Message :=
  ⟨rootName, [⟨1, "id", .single (.scalar (.string "x"))⟩,
    ⟨2, "message_timestamp", .single (.scalar (.int64 micros))⟩], []⟩

def now : Instant := ⟨1700000000, 0⟩

theorem partition_column_last_of_letter :
    RowType.ofTable table = .ok type ∧
      (conversion datedLetter).row now {} = .ok (row 1690000000000000) ∧
      Supply.Last now column [.field time]
        (some (.single (.scalar (.int64 1690000000000000)))) := by
  have htype : RowType.ofTable table = .ok (conversion datedLetter).target := rfl
  have hrow : (conversion datedLetter).row now {} = .ok (row 1690000000000000) := rfl
  exact ⟨htype, hrow, Conversion.partition_column_last htype rfl rfl rfl hrow⟩

/-- Metadata may put an instant into the partition column that lies outside of its window. -/
theorem not_partition_window :
    ¬ ∀ (schema : TableSchema) (conversion : Conversion) (now : Instant) (input : InputMessage)
      (record row : Message) (key : String) (column : Column) (supply : Supply),
      RowType.ofTable schema = .ok conversion.target →
      conversion.config.partitionKey = some key → conversion.target.column? key = some column →
      conversion.parser input = .ok record → conversion.row now input = .ok row →
      (conversion.supplies key record input.metadata).getLast? = some supply →
      ∀ micros ∈ supply.instants, (TimestampWindow.partition now).contains micros = true := by
  intro hclaim
  have hcontains := hclaim table (conversion letter) now
    { metadata := [("message_timestamp", .instant ⟨1000000000, 0⟩)] } letter
    (row 1000000000000000) "message_timestamp" column (.metadata (.instant ⟨1000000000, 0⟩))
    rfl rfl rfl rfl rfl rfl 1000000000000000 List.mem_cons_self
  contradiction

end Letters

end RowSink
