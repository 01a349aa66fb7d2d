import RowSink.Proofs.Batch.Indexing
import RowSink.Proofs.Row.Conformance
import RowSink.Proofs.Row.Steps

/-!
# Required columns

A row is a message of its type, but nobody sees to it that its required columns are set. Whether
they are is up to the source: a column is set if the record has a field of its name, or there is
metadata for it, and a record within is complete if the fields that it is made of are.
-/

namespace RowSink

section Completeness

mutual

/-- No required column is missing in the row nor in any record of it. -/
inductive Initialised : RowType → Message → Prop where
  | columns {type : RowType} {row : Message} (hcolumns : ∀ column ∈ type.columns,
      InitialisedContent column (row.content? column.number)) : Initialised type row

inductive InitialisedContent : Column → Option Content → Prop where
  | absent {column : Column} (hoptional : column.cardinality ≠ .required) :
      InitialisedContent column none
  | single {column : Column} {value : Value} (hvalue : InitialisedValue column.kind value) :
      InitialisedContent column (some (.single value))
  | list {column : Column} {items : List Value}
      (hitems : ∀ value ∈ items, InitialisedValue column.kind value) :
      InitialisedContent column (some (.list items))

inductive InitialisedValue : ColumnKind → Value → Prop where
  | scalar (kind : ColumnKind) (value : Scalar) : InitialisedValue kind (.scalar value)
  | record {type : RowType} {row : Message} (hrow : Initialised type row) :
      InitialisedValue (.record type) (.message row)

end

mutual

/-- There is a field for each required column, and so there is in the records that become records of
the row. Where several fields go to one column, the last one counts. -/
inductive Furnishes : RowType → List Entry → Prop where
  | columns {type : RowType} {entries : List Entry} (hcolumns : ∀ column ∈ type.columns,
      FurnishesContent column (lastContent? column.name entries)) : Furnishes type entries

inductive FurnishesContent : Column → Option Content → Prop where
  | absent {column : Column} (hoptional : column.cardinality ≠ .required) :
      FurnishesContent column none
  | single {column : Column} {value : Value} (hvalue : FurnishesValue column.kind value) :
      FurnishesContent column (some (.single value))
  | list {column : Column} {items : List Value}
      (hitems : ∀ value ∈ items, FurnishesValue column.kind value) :
      FurnishesContent column (some (.list items))
  | map {column : Column} {entryType : RowType} {pairs : List Pair}
      (hkind : column.kind = .record entryType)
      (hpairs : ∀ pair ∈ pairs, Furnishes entryType pair.entries) :
      FurnishesContent column (some (.map pairs))

inductive FurnishesValue : ColumnKind → Value → Prop where
  | leaf (kind : ColumnKind) {value : Value} (hleaf : value.isRecord = false) :
      FurnishesValue kind value
  | record {type : RowType} {typeName : String} {entries : List Entry}
      {unknown : List UnknownField} (hentries : Furnishes type entries) :
      FurnishesValue (.record type) (.message ⟨typeName, entries, unknown⟩)

end

variable {type : RowType} {column : Column} {kind : ColumnKind}

theorem initialised_iff {row : Message} : Initialised type row ↔
    ∀ column ∈ type.columns, InitialisedContent column (row.content? column.number) :=
  ⟨fun ⟨hcolumns⟩ => hcolumns, .columns⟩

theorem initialisedContent_none_iff :
    InitialisedContent column none ↔ column.cardinality ≠ .required :=
  ⟨fun | .absent hoptional => hoptional, .absent⟩

theorem initialisedContent_single_iff {value : Value} :
    InitialisedContent column (some (.single value)) ↔ InitialisedValue column.kind value :=
  ⟨fun | .single hvalue => hvalue, .single⟩

theorem initialisedContent_list_iff {items : List Value} :
    InitialisedContent column (some (.list items)) ↔
      ∀ value ∈ items, InitialisedValue column.kind value :=
  ⟨fun | .list hitems => hitems, .list⟩

theorem initialisedValue_record_iff {row : Message} :
    InitialisedValue (.record type) (.message row) ↔ Initialised type row :=
  ⟨fun | .record hrow => hrow, .record⟩

theorem furnishes_iff {entries : List Entry} : Furnishes type entries ↔
    ∀ column ∈ type.columns, FurnishesContent column (lastContent? column.name entries) :=
  ⟨fun ⟨hcolumns⟩ => hcolumns, .columns⟩

theorem furnishesContent_none_iff :
    FurnishesContent column none ↔ column.cardinality ≠ .required :=
  ⟨fun | .absent hoptional => hoptional, .absent⟩

theorem furnishesContent_single_iff {value : Value} :
    FurnishesContent column (some (.single value)) ↔ FurnishesValue column.kind value :=
  ⟨fun | .single hvalue => hvalue, .single⟩

theorem furnishesContent_list_iff {items : List Value} :
    FurnishesContent column (some (.list items)) ↔
      ∀ value ∈ items, FurnishesValue column.kind value :=
  ⟨fun | .list hitems => hitems, .list⟩

theorem furnishesContent_map_iff {entryType : RowType} {pairs : List Pair}
    (hkind : column.kind = .record entryType) :
    FurnishesContent column (some (.map pairs)) ↔
      ∀ pair ∈ pairs, Furnishes entryType pair.entries := by
  constructor
  · rintro (_ | _ | _ | ⟨hother, hpairs⟩)
    rw [hkind] at hother
    cases hother
    exact hpairs
  · exact .map hkind

theorem furnishesValue_record_iff {typeName : String} {entries : List Entry}
    {unknown : List UnknownField}
    (hrecord : (Value.message ⟨typeName, entries, unknown⟩).isRecord = true) :
    FurnishesValue (.record type) (.message ⟨typeName, entries, unknown⟩) ↔
      Furnishes type entries := by
  constructor
  · rintro (⟨_, hleaf⟩ | hentries)
    · rw [hrecord] at hleaf
      cases hleaf
    · assumption
  · exact .record

end Completeness

section Building

/-- The columns of records are told apart by their names and by their numbers. -/
def Separate (records : List RowType) : Prop :=
  ∀ record ∈ records, ∀ column ∈ record.columns, record.Singles column

theorem RowType.separate {schema : TableSchema} {type : RowType}
    (htype : RowType.ofTable schema = .ok type) : Separate type.records := by
  intro record hrecord column hcolumn
  exact RowType.distinct htype record hrecord _ column (column?_name htype hrecord hcolumn)

theorem Separate.of_column? {type : RowType} (hseparate : Separate type.records) {name : String}
    {column : Column} (hcolumn : type.column? name = some column) : Separate column.kind.records :=
  fun record hrecord => hseparate record
    (RowType.mem_records_of_mem (List.mem_of_find?_eq_some hcolumn) hrecord)

/-- The row so far has what the fields so far furnish, column by column. -/
def Tallies (type : RowType) (before : List Entry) (row : Message) : Prop :=
  ∀ column ∈ type.columns, InitialisedContent column (row.content? column.number) ↔
    FurnishesContent column (lastContent? column.name before)

namespace Tallies

variable {type : RowType} {before : List Entry} {row filled : Message}

theorem empty (type : RowType) (name : String) : Tallies type [] (.empty name) := by
  intro column _
  rw [Message.content?_empty, lastContent?, initialisedContent_none_iff, furnishesContent_none_iff]

theorem initialised_iff (hrow : Tallies type before row) :
    Initialised type row ↔ Furnishes type before := by
  rw [RowSink.initialised_iff, furnishes_iff]
  exact forall₂_congr hrow

/-- A field without a column changes nothing. -/
theorem skip (hrow : Tallies type before row) (entry : Entry)
    (hnone : type.column? (Text.lowerCase entry.name) = none) :
    Tallies type (before ++ [entry]) row := by
  intro column hcolumn
  rw [lastContent?_concat_of_ne (ne_of_column?_eq_none hnone hcolumn)]
  exact hrow column hcolumn

theorem putColumn (hrow : Tallies type before row) (hseparate : Separate type.records)
    (entry : Entry) {column : Column} {stored : Content}
    (hcolumn : type.column? (Text.lowerCase entry.name) = some column)
    (hstored : InitialisedContent column (some stored) ↔
      FurnishesContent column (some entry.content)) :
    Tallies type (before ++ [entry]) (row.putColumn column stored) := by
  intro other hother
  have hsingle := hseparate type (RowType.mem_records type) other hother
  rw [hsingle.content?_putColumn hcolumn]
  by_cases hname : Text.lowerCase entry.name = other.name
  · rw [hname] at hcolumn
    obtain rfl := hsingle.eq_of_column? hcolumn
    rw [if_pos hname, ← hname, lastContent?_concat]
    exact hstored
  · rw [if_neg hname, lastContent?_concat_of_ne hname]
    exact hrow other hother

theorem fill (hrow : Tallies type before row) (hseparate : Separate type.records) (entry : Entry)
    {name : String} {value : Value} {store : Column → Except ConversionError Value}
    (hname : Text.lowerCase entry.name = name) (hcontent : entry.content = .single value)
    (hstore : ∀ column stored, type.column? name = some column → store column = .ok stored →
      (InitialisedValue column.kind stored ↔ FurnishesValue column.kind value))
    (hfilled : row.fill type name store = .ok filled) :
    Tallies type (before ++ [entry]) filled := by
  subst hname
  rcases Message.fill_eq_ok hfilled with ⟨hnone, rfl⟩ | ⟨column, stored, hcolumn, hstored, rfl⟩
  · exact hrow.skip entry hnone
  · apply hrow.putColumn hseparate entry hcolumn
    rw [hcontent, initialisedContent_single_iff, furnishesContent_single_iff]
    exact hstore column stored hcolumn hstored

end Tallies

end Building

section Projection

variable {projection : Projection}

theorem initialisedValue_iff_of_map {result : Except ConversionError Scalar} {kind : ColumnKind}
    {value stored : Value} (hleaf : value.isRecord = false)
    (hstored : result.map .scalar = .ok stored) :
    InitialisedValue kind stored ↔ FurnishesValue kind value := by
  obtain ⟨scalar, -, rfl⟩ := exists_of_map_scalar hstored
  exact iff_of_true (.scalar kind scalar) (.leaf kind hleaf)

mutual

theorem Tallies.projectEntries {top : Bool} {type : RowType} (hseparate : Separate type.records) :
    ∀ (entries : List Entry) {before : List Entry} {row result : Message},
      Tallies type before row →
      RowSink.projectEntries projection top type row entries = .ok result →
        Tallies type (before ++ entries) result
  | [], before, row, result, hrow, hresult => by
    rw [RowSink.projectEntries] at hresult
    cases hresult
    rw [List.append_nil]
    exact hrow
  | ⟨number, name, content⟩ :: rest, before, row, result, hrow, hresult => by
    rw [List.append_cons]
    rcases exists_of_projectEntries_cons hresult with
      ⟨hnone, hrest⟩ | ⟨column, stored, hcolumn, hstored, hrest⟩
    · exact (hrow.skip ⟨number, name, content⟩ hnone).projectEntries hseparate rest hrest
    · have hcontent := Content.initialised_iff (hseparate.of_column? hcolumn) content hstored
      have hset := hrow.putColumn hseparate ⟨number, name, content⟩ hcolumn hcontent
      exact hset.projectEntries hseparate rest hrest
termination_by structural entries => entries

/-- The content of a column is complete if the field that it comes from furnishes what it is made
of. -/
theorem Content.initialised_iff {partition : Bool} {column : Column} {stored : Content}
    (hseparate : Separate column.kind.records) :
    ∀ content : Content, content.project projection partition column = .ok stored →
      (InitialisedContent column (some stored) ↔ FurnishesContent column (some content))
  | .single value, hstored => by
    obtain ⟨kept, hkept, rfl⟩ := exists_of_project_single hstored
    rw [initialisedContent_single_iff, furnishesContent_single_iff]
    exact Value.initialised_iff hseparate value hkept
  | .list items, hstored => by
    obtain ⟨values, hvalues, rfl⟩ := exists_of_project_list hstored
    rw [initialisedContent_list_iff, furnishesContent_list_iff]
    exact forall_initialised_iff_of_projectItems hseparate items hvalues
  | .map pairs, hstored => by
    obtain ⟨entryType, records, hkind, hrecords, rfl⟩ := exists_of_project_map hstored
    rw [hkind, ColumnKind.records] at hseparate
    rw [initialisedContent_list_iff, furnishesContent_map_iff hkind, List.forall_mem_map, hkind]
    simp only [initialisedValue_record_iff]
    exact forall_initialised_iff_of_projectPairs hseparate pairs hrecords
termination_by structural content => content

theorem forall_initialised_iff_of_projectItems {column : Column} {values : List Value}
    (hseparate : Separate column.kind.records) :
    ∀ items : List Value, projectItems projection column items = .ok values →
      ((∀ value ∈ values, InitialisedValue column.kind value) ↔
        ∀ value ∈ items, FurnishesValue column.kind value)
  | [], hvalues => by
    rw [projectItems] at hvalues
    cases hvalues
    exact iff_of_true nofun nofun
  | value :: rest, hvalues => by
    obtain ⟨stored, more, hstored, hmore, rfl⟩ := exists_of_projectItems_cons hvalues
    rw [List.forall_mem_cons, List.forall_mem_cons, Value.initialised_iff hseparate value hstored,
      forall_initialised_iff_of_projectItems hseparate rest hmore]
termination_by structural items => items

theorem forall_initialised_iff_of_projectPairs {entryType : RowType} {records : List Message}
    (hseparate : Separate entryType.records) :
    ∀ pairs : List Pair, projectPairs projection entryType pairs = .ok records →
      ((∀ record ∈ records, Initialised entryType record) ↔
        ∀ pair ∈ pairs, Furnishes entryType pair.entries)
  | [], hrecords => by
    rw [projectPairs] at hrecords
    cases hrecords
    exact iff_of_true nofun nofun
  | ⟨key, value⟩ :: rest, hrecords => by
    obtain ⟨record, more, hrecord, hmore, rfl⟩ := exists_of_projectPairs_cons hrecords
    obtain ⟨keyed, hkeyed, hfilled⟩ := exists_of_bind hrecord
    have hkey := (Tallies.empty entryType entryType.name).fill hseparate
      ⟨1, "key", .single (.scalar key)⟩ lowerCase_key rfl
      (fun _ _ _ => initialisedValue_iff_of_map rfl) hkeyed
    have hpair := hkey.fill hseparate ⟨2, "value", .single value⟩ lowerCase_value rfl
      (fun _ _ hcolumn hstored =>
        Value.initialised_iff (hseparate.of_column? hcolumn) value hstored) hfilled
    rw [List.forall_mem_cons, List.forall_mem_cons,
      forall_initialised_iff_of_projectPairs hseparate rest hmore]
    exact and_congr_left' hpair.initialised_iff
termination_by structural pairs => pairs

theorem Value.initialised_iff {partition : Bool} {column : Column} {stored : Value}
    (hseparate : Separate column.kind.records) :
    ∀ value : Value, value.project projection partition column = .ok stored →
      (InitialisedValue column.kind stored ↔ FurnishesValue column.kind value)
  | .scalar value, hstored => initialisedValue_iff_of_map rfl hstored
  | .enumeration number name, hstored => initialisedValue_iff_of_map rfl hstored
  | .message ⟨typeName, entries, unknown⟩, hstored => by
    rcases exists_of_project_message hstored with
      ⟨hleaf, scalar, rfl, -⟩ | ⟨hrecord, target, row, hkind, hrow, rfl⟩
    · exact iff_of_true (.scalar column.kind scalar) (.leaf column.kind hleaf)
    · rw [hkind, ColumnKind.records] at hseparate
      have htallies := (Tallies.empty target target.name).projectEntries hseparate entries hrow
      rw [hkind, initialisedValue_record_iff, furnishesValue_record_iff hrecord]
      exact htallies.initialised_iff
termination_by structural value => value

end

end Projection

section Metadata

/-- What a piece of metadata is before it is converted. -/
def MetadataValue.scalar : MetadataValue → Scalar
  | .text value => .string value
  | .integer value => .int64 value
  | .instant value => .int64 (Int64.ofInt value.micros)

/-- The metadata of the listed keys as fields of a record. -/
def Metadata.entries (metadata : Metadata) (keys : List String) : List Entry :=
  keys.filterMap fun key =>
    (metadata.get? key).map fun value => ⟨0, key, .single (.scalar value.scalar)⟩

/-- The metadata of the listed keys as one field of that name, which is a record of them. -/
def Metadata.recordEntry (metadata : Metadata) (name : String) (keys : List String) : Entry :=
  ⟨0, name, .single (.message ⟨"", metadata.entries keys, []⟩)⟩

/-- The fields that the metadata of a message adds to its record. -/
def MetadataConfig.entries (metadata : Metadata) (config : MetadataConfig) : List Entry :=
  match config.namespaceColumn with
  | none => metadata.entries config.columns
  | some name => [metadata.recordEntry name config.columns]

/-- All the fields that a row is made of. -/
def Conversion.sources (conversion : Conversion) (record : Message) (metadata : Metadata) :
    List Entry :=
  record.entries ++ (conversion.config.metadata.map (MetadataConfig.entries metadata)).getD []

theorem Column.exists_of_storeMetadata {column : Column} {key : String} {value : MetadataValue}
    {stored : Value} (hstored : column.storeMetadata key value = .ok stored) :
    ∃ scalar, stored = .scalar scalar := by
  rw [storeMetadata] at hstored
  cases hscalar : value.toScalar key with
  | error failure =>
    rw [hscalar] at hstored
    cases hstored
  | ok scalar =>
    rw [hscalar] at hstored
    obtain ⟨coerced, -, rfl⟩ := exists_of_map_scalar hstored
    exact ⟨coerced, rfl⟩

/-- A namespace column is set to a record of metadata, if there is such a column. -/
theorem Message.inject_eq_ok {type : RowType} {config : MetadataConfig} {metadata : Metadata}
    {row result : Message} {name : String} (hname : config.namespaceColumn = some name)
    (hresult : row.inject type config metadata = .ok result) :
    (type.column? (Text.lowerCase name) = none ∧ result = row) ∨
      ∃ column target inner, type.column? (Text.lowerCase name) = some column ∧
        column.kind = .record target ∧
        (Message.empty target.name).injectColumns target metadata config.columns = .ok inner ∧
        result = row.putColumn column (.single (.message inner)) := by
  rw [inject, hname] at hresult
  dsimp only at hresult
  cases hcolumn : type.column? (Text.lowerCase name) with
  | none =>
    rw [hcolumn] at hresult
    cases hresult
    exact .inl ⟨rfl, rfl⟩
  | some column =>
    rw [hcolumn] at hresult
    dsimp only at hresult
    cases hkind : column.kind with
    | record target =>
      rw [hkind] at hresult
      dsimp only at hresult
      by_cases hrepeated : column.isRepeated = true
      · rw [if_pos hrepeated] at hresult
        cases hresult
      · rw [if_neg hrepeated] at hresult
        cases hinner : (Message.empty target.name).injectColumns target metadata
            config.columns with
        | error failure =>
          rw [hinner] at hresult
          cases hresult
        | ok inner =>
          rw [hinner] at hresult
          cases hresult
          exact .inr ⟨column, target, inner, rfl, hkind, hinner, rfl⟩
    | _ =>
      rw [hkind] at hresult
      cases hresult

namespace Tallies

variable {type : RowType} {before : List Entry} {row result : Message} {metadata : Metadata}

theorem injectColumns (hseparate : Separate type.records) {keys : List String}
    (hrow : Tallies type before row)
    (hresult : row.injectColumns type metadata keys = .ok result) :
    Tallies type (before ++ metadata.entries keys) result := by
  induction keys generalizing before row with
  | nil =>
    cases hresult
    rw [Metadata.entries, List.filterMap_nil, List.append_nil]
    exact hrow
  | cons key rest ih =>
    rw [Message.injectColumns] at hresult
    rw [Metadata.entries, List.filterMap_cons]
    cases hvalue : metadata.get? key with
    | none =>
      rw [hvalue] at hresult
      exact ih hrow hresult
    | some value =>
      rw [hvalue] at hresult
      dsimp only at hresult
      cases hfilled : row.fill type (Text.lowerCase key)
          fun column => column.storeMetadata key value with
      | error failure =>
        rw [hfilled] at hresult
        cases hresult
      | ok filled =>
        rw [hfilled] at hresult
        have hkey : Tallies type (before ++ [⟨0, key, .single (.scalar value.scalar)⟩]) filled := by
          apply hrow.fill hseparate ⟨0, key, .single (.scalar value.scalar)⟩ rfl rfl ?_ hfilled
          intro column stored _ hstored
          obtain ⟨scalar, rfl⟩ := Column.exists_of_storeMetadata hstored
          exact iff_of_true (.scalar column.kind scalar) (.leaf column.kind rfl)
        rw [Option.map_some]
        dsimp only
        rw [List.append_cons]
        exact ih hkey hresult

theorem inject (hseparate : Separate type.records) {config : MetadataConfig}
    (hrow : Tallies type before row) (hresult : row.inject type config metadata = .ok result) :
    Tallies type (before ++ config.entries metadata) result := by
  rw [MetadataConfig.entries]
  cases hname : config.namespaceColumn with
  | none =>
    rw [Message.inject, hname] at hresult
    exact hrow.injectColumns hseparate hresult
  | some name =>
    dsimp only
    rcases Message.inject_eq_ok hname hresult with
      ⟨hnone, rfl⟩ | ⟨column, target, inner, hcolumn, hkind, hinner, rfl⟩
    · exact hrow.skip (metadata.recordEntry name config.columns) hnone
    · have htarget := hseparate.of_column? hcolumn
      rw [hkind, ColumnKind.records] at htarget
      have hcomplete := (Tallies.empty target target.name).injectColumns htarget hinner
      apply hrow.putColumn hseparate (metadata.recordEntry name config.columns) hcolumn
      rw [Metadata.recordEntry, initialisedContent_single_iff, furnishesContent_single_iff, hkind,
        initialisedValue_record_iff, furnishesValue_record_iff rfl]
      exact hcomplete.initialised_iff

end Tallies

namespace Conversion

variable {schema : TableSchema} {conversion : Conversion} {now : Instant}

/-- What has become of an input message that has a row. -/
theorem exists_of_row {input : InputMessage} {row : Message}
    (hrow : conversion.row now input = .ok row) :
    ∃ record projected, conversion.parser input = .ok record ∧
      (Projection.atTime conversion.config.partitionKey now).row conversion.target
        record = .ok projected ∧
      ((conversion.config.metadata = none ∧ row = projected) ∨
        ∃ config, conversion.config.metadata = some config ∧
          projected.inject conversion.target config input.metadata = .ok row) := by
  rw [Conversion.row] at hrow
  cases hrecord : conversion.parser input with
  | error failure =>
    rw [hrecord] at hrow
    cases hrow
  | ok record =>
    rw [hrecord] at hrow
    dsimp only at hrow
    cases hprojected : (Projection.atTime conversion.config.partitionKey now).row conversion.target
        record with
    | error failure =>
      rw [hprojected] at hrow
      cases hrow
    | ok projected =>
      rw [hprojected] at hrow
      dsimp only at hrow
      refine ⟨record, projected, rfl, hprojected, ?_⟩
      cases hconfig : conversion.config.metadata with
      | none =>
        rw [hconfig] at hrow
        cases hrow
        exact .inl ⟨rfl, rfl⟩
      | some config =>
        rw [hconfig] at hrow
        exact .inr ⟨config, rfl, hrow⟩

/-- The row tallies with the fields of the record and the metadata after them. -/
theorem tallies_row {input : InputMessage} {row : Message}
    (htype : RowType.ofTable schema = .ok conversion.target)
    (hrow : conversion.row now input = .ok row) :
    ∃ record, conversion.parser input = .ok record ∧
      Tallies conversion.target (conversion.sources record input.metadata) row := by
  have hseparate := RowType.separate htype
  obtain ⟨⟨name, entries, unknown⟩, projected, hrecord, hprojected, hfinished⟩ :=
    exists_of_row hrow
  rw [Projection.row, Message.project] at hprojected
  have hfields : Tallies conversion.target entries projected :=
    (Tallies.empty conversion.target conversion.target.name).projectEntries hseparate entries
      hprojected
  refine ⟨_, hrecord, ?_⟩
  rw [sources]
  rcases hfinished with ⟨hconfig, rfl⟩ | ⟨config, hconfig, hinjected⟩
  · rw [hconfig, Option.map_none, Option.getD_none, List.append_nil]
    exact hfields
  · rw [hconfig, Option.map_some, Option.getD_some]
    exact hfields.inject hseparate hinjected

/-- What is valid has a row of the type of the table. Nobody asks for its required columns, which
are set if there are fields or metadata for them, in the row and in each record of it. -/
theorem valid_row_initialised_iff {batch : List InputMessage} {outcome : Outcome}
    (htype : RowType.ofTable schema = .ok conversion.target)
    (houtcome : outcome ∈ (conversion.payload now batch).outcomes)
    (hvalid : outcome.isValid = true) :
    ∃ input record row, batch[outcome.index]? = some input ∧
      conversion.parser input = .ok record ∧ conversion.row now input = .ok row ∧
      (conversion.payload now batch).HasRow outcome.index row.encode ∧
      row.Fits conversion.target ∧
      (Initialised conversion.target row ↔
        Furnishes conversion.target (conversion.sources record input.metadata)) := by
  have hdescribes := conversion.describes_payload now batch
  obtain ⟨index, result, hresult, rfl⟩ := hdescribes.mem_outcomes_iff.mp houtcome
  obtain ⟨bytes, rfl⟩ := Outcome.ofResult_isValid_iff.mp hvalid
  have hrows := hdescribes.hasRow_iff.mpr hresult
  rw [List.getElem?_map, Option.map_eq_some_iff] at hresult
  obtain ⟨input, hinput, hbytes⟩ := hresult
  obtain ⟨row, hrow, rfl⟩ := exists_of_map hbytes
  obtain ⟨record, hrecord, htallies⟩ := tallies_row htype hrow
  exact ⟨input, record, row, hinput, hrecord, hrow, hrows, fits_of_row hrow,
    htallies.initialised_iff⟩

end Conversion

end Metadata

namespace Parcels

def table : TableSchema :=
  ⟨[{ name := "id", type := 1, mode := 2 },
    { name := "sender", type := 4, mode := 1, fields :=
        [{ name := "name", type := 1, mode := 2 }, { name := "town", type := 1, mode := 1 }] },
    { name := "weights", type := 4, mode := 3, fields :=
        [{ name := "key", type := 1, mode := 2 }, { name := "value", type := 2, mode := 2 }] },
    { name := "meta", type := 4, mode := 1, fields :=
        [{ name := "offset", type := 2, mode := 2 }] }]⟩

def senderType : RowType :=
  ⟨"__ROOT__.Struct_sender", [⟨1, "name", .required, .string⟩, ⟨2, "town", .optional, .string⟩]⟩

def weightType : RowType :=
  ⟨"__ROOT__.Struct_weights", [⟨1, "key", .required, .string⟩, ⟨2, "value", .required, .int64⟩]⟩

def metaType : RowType := ⟨"__ROOT__.Struct_meta", [⟨1, "offset", .required, .int64⟩]⟩

def idColumn : Column := ⟨1, "id", .required, .string⟩

def type : RowType :=
  ⟨rootName, [idColumn, ⟨2, "sender", .optional, .record senderType⟩,
    ⟨3, "weights", .repeated, .record weightType⟩, ⟨4, "meta", .optional, .record metaType⟩]⟩

/-- Rows with the offset of the message in a record of metadata. -/
def conversion (record : Message) : Conversion where
  parser _ := .ok record
  config := { metadata := some ⟨some "Meta", ["offset"]⟩ }
  target := type

/-- A parcel with all that is required, and more. -/
def parcel : Message :=
  ⟨"test.Parcel", [⟨1, "Id", .single (.scalar (.string "p"))⟩,
    ⟨2, "sender", .single (.message
      ⟨"test.Sender", [⟨1, "name", .single (.scalar (.string "s"))⟩], []⟩)⟩,
    ⟨3, "weights", .map [⟨.string "net", .scalar (.int32 7)⟩]⟩], []⟩

def input : InputMessage := { metadata := [("offset", .integer 12)] }

def now : Instant := ⟨1700000000, 0⟩

def outcome : Outcome := ⟨0, none, true⟩

theorem ofTable_table : RowType.ofTable table = .ok type := by
  rfl

theorem outcome_mem {conversion : Conversion} {row : Message}
    (hrow : conversion.row now input = .ok row) :
    outcome ∈ (conversion.payload now [input]).outcomes := by
  rw [Conversion.payload, List.map_singleton, Conversion.rowBytes, hrow]
  exact List.mem_cons_self

def senderRow : Message :=
  ⟨senderType.name, [⟨1, "name", .single (.scalar (.string "s"))⟩], []⟩

def weightRow : Message :=
  ⟨weightType.name, [⟨1, "key", .single (.scalar (.string "net"))⟩,
    ⟨2, "value", .single (.scalar (.int64 7))⟩], []⟩

def metaRow : Message := ⟨metaType.name, [⟨1, "offset", .single (.scalar (.int64 12))⟩], []⟩

def parcelRow : Message :=
  ⟨rootName,
    [⟨1, "id", .single (.scalar (.string "p"))⟩, ⟨2, "sender", .single (.message senderRow)⟩,
      ⟨3, "weights", .list [.message weightRow]⟩, ⟨4, "meta", .single (.message metaRow)⟩], []⟩

theorem initialised_parcelRow : Initialised type parcelRow := by
  have hsender : Initialised senderType senderRow := by
    apply Initialised.columns
    simp only [senderType, List.forall_mem_cons]
    exact ⟨.single (.scalar _ _), .absent (by decide), nofun⟩
  have hweight : Initialised weightType weightRow := by
    apply Initialised.columns
    simp only [weightType, List.forall_mem_cons]
    exact ⟨.single (.scalar _ _), .single (.scalar _ _), nofun⟩
  have hmeta : Initialised metaType metaRow := by
    apply Initialised.columns
    simp only [metaType, List.forall_mem_cons]
    exact ⟨.single (.scalar _ _), nofun⟩
  apply Initialised.columns
  simp only [type, List.forall_mem_cons]
  refine ⟨.single (.scalar _ _), .single (.record hsender), .list ?_,
    .single (.record hmeta), nofun⟩
  exact List.forall_mem_singleton.mpr (.record hweight)

theorem valid_row_initialised_iff_of_parcel :
    RowType.ofTable table = .ok type ∧ (conversion parcel).row now input = .ok parcelRow ∧
      outcome ∈ ((conversion parcel).payload now [input]).outcomes ∧
      ((conversion parcel).payload now [input]).HasRow 0 parcelRow.encode ∧ parcelRow.Fits type ∧
      Initialised type parcelRow ∧
      Furnishes type ((conversion parcel).sources parcel input.metadata) := by
  have htype : RowType.ofTable table = .ok (conversion parcel).target := ofTable_table
  have hrow : (conversion parcel).row now input = .ok parcelRow := rfl
  obtain ⟨same, record, row, hinput, hrecord, hsame, hrows, hfits, hcomplete⟩ :=
    Conversion.valid_row_initialised_iff htype (outcome_mem hrow) rfl
  cases hinput
  cases hrecord
  obtain rfl := Except.ok.inj (hrow.symm.trans hsame)
  exact ⟨htype, hrow, outcome_mem hrow, hrows, hfits, initialised_parcelRow,
    hcomplete.mp initialised_parcelRow⟩

/-- A parcel that lacks what it should be known by. -/
def anonymous : Message :=
  ⟨"test.Parcel", [⟨2, "sender", .single (.message
    ⟨"test.Sender", [⟨1, "name", .single (.scalar (.string "s"))⟩], []⟩)⟩], []⟩

def anonymousRow : Message :=
  ⟨rootName,
    [⟨2, "sender", .single (.message senderRow)⟩, ⟨4, "meta", .single (.message metaRow)⟩], []⟩

/-- What is valid may have a row without a required column. -/
theorem not_valid_rows_initialised :
    ¬ ∀ (schema : TableSchema) (conversion : Conversion) (now : Instant)
      (batch : List InputMessage) (outcome : Outcome) (input : InputMessage) (row : Message),
      RowType.ofTable schema = .ok conversion.target →
      outcome ∈ (conversion.payload now batch).outcomes → outcome.isValid = true →
      batch[outcome.index]? = some input → conversion.row now input = .ok row →
      Initialised conversion.target row := by
  intro hclaim
  have hrow : (conversion anonymous).row now input = .ok anonymousRow := rfl
  have hcomplete : Initialised type anonymousRow :=
    hclaim table (conversion anonymous) now [input] outcome input anonymousRow ofTable_table
      (outcome_mem hrow) rfl rfl hrow
  have hmissing := initialised_iff.mp hcomplete idColumn List.mem_cons_self
  have hunset : anonymousRow.content? idColumn.number = none := rfl
  rw [hunset, initialisedContent_none_iff] at hmissing
  exact hmissing rfl

end Parcels

end RowSink
