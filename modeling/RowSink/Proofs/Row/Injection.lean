import RowSink.Proofs.Row.Steps

/-!
# What metadata do to a row

Metadata are put into columns one key after the other. A key without a value or without a column
does nothing, and a column that several keys name has the value of the last one. All else in the row
stays as it is, with one exception: the record column that takes the metadata, if one is configured
for that, is set to a record of metadata alone, and what a record had put into it is gone.
-/

namespace RowSink

section Frames

/-- Two messages of one type that have the same fields but for those of some numbers. -/
structure Message.SameOutside (touched : Nat → Prop) (row result : Message) : Prop where
  typeName_eq : result.typeName = row.typeName
  unknown_eq : result.unknown = row.unknown
  content?_eq : ∀ number, ¬ touched number → result.content? number = row.content? number

namespace Message.SameOutside

variable {touched others : Nat → Prop} {row middle result : Message}

theorem refl (touched : Nat → Prop) (row : Message) : row.SameOutside touched row :=
  ⟨rfl, rfl, fun _ _ => rfl⟩

theorem trans (hfirst : row.SameOutside touched middle)
    (hsecond : middle.SameOutside touched result) : row.SameOutside touched result where
  typeName_eq := hsecond.typeName_eq.trans hfirst.typeName_eq
  unknown_eq := hsecond.unknown_eq.trans hfirst.unknown_eq
  content?_eq number hnumber :=
    (hsecond.content?_eq number hnumber).trans (hfirst.content?_eq number hnumber)

theorem mono (hsame : row.SameOutside touched result)
    (hsubset : ∀ number, touched number → others number) : row.SameOutside others result where
  typeName_eq := hsame.typeName_eq
  unknown_eq := hsame.unknown_eq
  content?_eq number hnumber :=
    hsame.content?_eq number fun htouched => hnumber (hsubset number htouched)

theorem putColumn (row : Message) (column : Column) (content : Content) :
    row.SameOutside (· = column.number) (row.putColumn column content) where
  typeName_eq := rfl
  unknown_eq := rfl
  content?_eq number hnumber := by
    rw [Message.putColumn, content?_put, if_neg fun hsame => hnumber hsame.symm]

end Message.SameOutside

end Frames

section Keys

namespace Metadata

/-- A key has a value, and its name in lower case is that of a column. -/
structure Fills (metadata : Metadata) (type : RowType) (key : String) (column : Column)
    (value : MetadataValue) : Prop where
  get?_eq : metadata.get? key = some value
  column?_eq : type.column? (Text.lowerCase key) = some column

/-- Every value goes into its column. -/
def Suits (metadata : Metadata) (type : RowType) (keys : List String) : Prop :=
  ∀ key ∈ keys, ∀ column value, metadata.Fills type key column value →
    ∃ stored, column.storeMetadata key value = .ok stored

/-- Whether a column of that number is named by a key that has a value. -/
def Touches (metadata : Metadata) (type : RowType) (keys : List String) (number : Nat) : Prop :=
  ∃ key ∈ keys, ∃ column value, metadata.Fills type key column value ∧ column.number = number

variable {metadata : Metadata} {type : RowType} {key : String} {column other : Column}
  {value another : MetadataValue}

theorem Fills.unique (hfills : metadata.Fills type key column value)
    (hagain : metadata.Fills type key other another) : other = column ∧ another = value :=
  ⟨Option.some.inj (hagain.column?_eq.symm.trans hfills.column?_eq),
    Option.some.inj (hagain.get?_eq.symm.trans hfills.get?_eq)⟩

end Metadata

namespace Message

/-- The row after one key. -/
def injectKey (type : RowType) (metadata : Metadata) (row : Message) (key : String) :
    Except ConversionError Message :=
  match metadata.get? key with
  | none => .ok row
  | some value => row.fill type (Text.lowerCase key) fun column => column.storeMetadata key value

variable {type : RowType} {metadata : Metadata} {row filled result : Message} {key : String}
  {rest : List String}

theorem injectColumns_cons (type : RowType) (metadata : Metadata) (row : Message) (key : String)
    (rest : List String) : row.injectColumns type metadata (key :: rest) =
      (row.injectKey type metadata key).bind fun filled =>
        filled.injectColumns type metadata rest := by
  rw [injectColumns, injectKey]
  cases metadata.get? key with
  | none => rfl
  | some value =>
    dsimp only
    cases row.fill type (Text.lowerCase key) fun column => column.storeMetadata key value <;> rfl

/-- A key that fills no column leaves the row alone. -/
theorem injectKey_of_idle (hidle : ∀ column value, ¬ metadata.Fills type key column value) :
    row.injectKey type metadata key = .ok row := by
  rw [injectKey]
  cases hvalue : metadata.get? key with
  | none => rfl
  | some value =>
    dsimp only
    rw [fill]
    cases hcolumn : type.column? (Text.lowerCase key) with
    | none => rfl
    | some column => exact absurd ⟨hvalue, hcolumn⟩ (hidle column value)

theorem injectKey_of_fills {column : Column} {value : MetadataValue}
    (hfills : metadata.Fills type key column value) (row : Message) :
    row.injectKey type metadata key =
      (column.storeMetadata key value).map fun stored => row.putColumn column (.single stored) := by
  rw [injectKey, hfills.get?_eq]
  exact fill_of_column? row _ hfills.column?_eq

/-- A key sets the column it fills and does nothing else. -/
theorem sameOutside_of_injectKey (hfilled : row.injectKey type metadata key = .ok filled) :
    row.SameOutside (metadata.Touches type (key :: rest)) filled := by
  by_cases hfills : ∃ column value, metadata.Fills type key column value
  · obtain ⟨column, value, hfills⟩ := hfills
    rw [injectKey_of_fills hfills] at hfilled
    obtain ⟨stored, -, rfl⟩ := exists_of_map hfilled
    apply (SameOutside.putColumn row column (.single stored)).mono
    rintro _ rfl
    exact ⟨key, List.mem_cons_self, column, value, hfills, rfl⟩
  · rw [injectKey_of_idle fun column value hidle => hfills ⟨column, value, hidle⟩] at hfilled
    cases hfilled
    exact .refl _ _

/-- Metadata go in if each value goes into its column. -/
theorem exists_injectColumns_iff {keys : List String} :
    (∃ result, row.injectColumns type metadata keys = .ok result) ↔
      metadata.Suits type keys := by
  induction keys generalizing row with
  | nil => exact iff_of_true ⟨row, rfl⟩ (List.forall_mem_nil _)
  | cons key rest ih =>
    rw [injectColumns_cons, Metadata.Suits, List.forall_mem_cons]
    by_cases hfills : ∃ column value, metadata.Fills type key column value
    · obtain ⟨column, value, hfills⟩ := hfills
      rw [injectKey_of_fills hfills]
      cases hstored : column.storeMetadata key value with
      | error failure =>
        refine iff_of_false (fun hresult => ?_) fun hsuits => ?_
        · obtain ⟨result, hresult⟩ := hresult
          cases hresult
        · obtain ⟨stored, hok⟩ := hsuits.1 column value hfills
          rw [hstored] at hok
          cases hok
      | ok stored =>
        refine ih.trans ⟨fun hsuits => ⟨?_, hsuits⟩, And.right⟩
        intro other another hagain
        obtain ⟨rfl, rfl⟩ := hfills.unique hagain
        exact ⟨stored, hstored⟩
    · have hidle : ∀ column value, ¬ metadata.Fills type key column value :=
        fun column value hidle => hfills ⟨column, value, hidle⟩
      rw [injectKey_of_idle hidle]
      refine ih.trans ⟨fun hsuits => ⟨?_, hsuits⟩, And.right⟩
      exact fun column value hsome => absurd hsome (hidle column value)

end Message

end Keys

section Columns

/-- What a row is after metadata were put into its columns: each column that a key with a value
names has the value of the last such key, and all else is as it was. -/
structure Message.Receives (type : RowType) (metadata : Metadata) (keys : List String)
    (row result : Message) : Prop where
  same : row.SameOutside (metadata.Touches type keys) result
  last : ∀ before key after column value, keys = before ++ key :: after →
    metadata.Fills type key column value →
    (∀ later ∈ after, ∀ another, ¬ metadata.Fills type later column another) →
    ∃ stored, column.storeMetadata key value = .ok stored ∧
      result.content? column.number = some (.single stored)

variable {type : RowType} {metadata : Metadata} {row result : Message} {keys : List String}

/-- A column that none of the keys fills has what it had. -/
theorem Message.Receives.content?_of_idle (hreceives : row.Receives type metadata keys result)
    (hdistinct : ∀ name column, type.column? name = some column → type.Singles column)
    {column : Column} (hcolumn : column ∈ type.columns)
    (hidle : ∀ key ∈ keys, ∀ value, ¬ metadata.Fills type key column value) :
    result.content? column.number = row.content? column.number := by
  apply hreceives.same.content?_eq
  rintro ⟨key, hkey, other, value, hfills, hnumber⟩
  have hsame := (hdistinct _ _ hfills.column?_eq).2 column hcolumn hnumber.symm
  rw [hsame] at hidle
  exact hidle key hkey value hfills

/-- Keys put their values into the columns they fill, one after the other. -/
theorem Message.receives_of_injectColumns
    (hdistinct : ∀ name column, type.column? name = some column → type.Singles column)
    (hresult : row.injectColumns type metadata keys = .ok result) :
    row.Receives type metadata keys result := by
  induction keys generalizing row with
  | nil =>
    cases hresult
    refine ⟨.refl _ _, fun before key after column value hkeys => ?_⟩
    cases List.append_eq_nil_iff.mp hkeys.symm |>.2
  | cons key rest ih =>
    rw [injectColumns_cons] at hresult
    obtain ⟨filled, hfilled, hrest⟩ := exists_of_bind hresult
    obtain ⟨hsame, hlast⟩ := ih hrest
    constructor
    case same =>
      refine (sameOutside_of_injectKey hfilled).trans (hsame.mono ?_)
      rintro number ⟨later, hlater, hfills⟩
      exact ⟨later, List.mem_cons_of_mem _ hlater, hfills⟩
    case last =>
      intro before found after column value hkeys hfills hlater
      cases before with
      | cons first before =>
        obtain ⟨-, hrest⟩ := List.cons.inj hkeys
        exact hlast before found after column value hrest hfills hlater
      | nil =>
        -- The key is the first one, and none of the others fills its column.
        obtain ⟨rfl, rfl⟩ := List.cons.inj hkeys
        rw [injectKey_of_fills hfills] at hfilled
        obtain ⟨stored, hstored, rfl⟩ := exists_of_map hfilled
        have hcolumn := List.mem_of_find?_eq_some hfills.column?_eq
        have hkept := Receives.content?_of_idle ⟨hsame, hlast⟩ hdistinct hcolumn hlater
        refine ⟨stored, hstored, hkept.trans ?_⟩
        rw [putColumn, content?_put, if_pos rfl]

end Columns

section Configurations

/-- Whether metadata can be put into rows of a type. -/
def MetadataConfig.Applies (config : MetadataConfig) (type : RowType) (metadata : Metadata) :
    Prop :=
  match config.namespaceColumn with
  | none => metadata.Suits type config.columns
  | some name => ∀ column, type.column? (Text.lowerCase name) = some column →
      ∃ target, column.kind = .record target ∧ column.isRepeated = false ∧
        metadata.Suits target config.columns

/-- What a row is after the configured metadata were put into it. -/
inductive Message.Injected (type : RowType) (config : MetadataConfig) (metadata : Metadata)
    (row : Message) : Message → Prop where
  | columns {result : Message} (hnone : config.namespaceColumn = none)
      (hreceives : row.Receives type metadata config.columns result) :
      Injected type config metadata row result
  | absent {name : String} (hname : config.namespaceColumn = some name)
      (hcolumn : type.column? (Text.lowerCase name) = none) : Injected type config metadata row row
  /-- The record of metadata starts out empty, whatever the column held. -/
  | record {name : String} {column : Column} {target : RowType} {record result : Message}
      (hname : config.namespaceColumn = some name)
      (hcolumn : type.column? (Text.lowerCase name) = some column)
      (hkind : column.kind = .record target) (hsingle : column.isRepeated = false)
      (hreceives : (Message.empty target.name).Receives target metadata config.columns record)
      (hrecord : result.content? column.number = some (.single (.message record)))
      (hsame : row.SameOutside (· = column.number) result) :
      Injected type config metadata row result

namespace Message

variable {type : RowType} {config : MetadataConfig} {metadata : Metadata} {row result : Message}
  {name : String}

theorem inject_of_none (hnone : config.namespaceColumn = none) :
    row.inject type config metadata = row.injectColumns type metadata config.columns := by
  rw [inject, hnone]

theorem inject_of_absent (hname : config.namespaceColumn = some name)
    (hcolumn : type.column? (Text.lowerCase name) = none) :
    row.inject type config metadata = .ok row := by
  rw [inject, hname]
  dsimp only
  rw [hcolumn]

variable {column : Column}

theorem inject_of_record {target : RowType} (hname : config.namespaceColumn = some name)
    (hcolumn : type.column? (Text.lowerCase name) = some column)
    (hkind : column.kind = .record target) (hsingle : column.isRepeated = false) :
    row.inject type config metadata =
      ((Message.empty target.name).injectColumns target metadata config.columns).map fun record =>
        row.putColumn column (.single (.message record)) := by
  rw [inject, hname]
  dsimp only
  rw [hcolumn]
  dsimp only
  rw [hkind]
  dsimp only
  rw [if_neg (by rw [hsingle]; decide)]
  cases (Message.empty target.name).injectColumns target metadata config.columns <;> rfl

/-- Metadata only go into a single record. -/
theorem exists_record_of_inject (hname : config.namespaceColumn = some name)
    (hcolumn : type.column? (Text.lowerCase name) = some column)
    (hresult : row.inject type config metadata = .ok result) :
    ∃ target, column.kind = .record target ∧ column.isRepeated = false := by
  rw [inject, hname] at hresult
  dsimp only at hresult
  rw [hcolumn] at hresult
  dsimp only at hresult
  cases hkind : column.kind with
  | record target =>
    rw [hkind] at hresult
    dsimp only at hresult
    refine ⟨target, rfl, ?_⟩
    by_contra hrepeated
    rw [Bool.not_eq_false] at hrepeated
    rw [if_pos hrepeated] at hresult
    cases hresult
  | _ =>
    rw [hkind] at hresult
    cases hresult

theorem exists_inject_iff : (∃ result, row.inject type config metadata = .ok result) ↔
    config.Applies type metadata := by
  rw [MetadataConfig.Applies]
  cases hname : config.namespaceColumn with
  | none =>
    rw [inject_of_none hname]
    exact exists_injectColumns_iff
  | some name =>
    dsimp only
    constructor
    · rintro ⟨result, hresult⟩ column hcolumn
      obtain ⟨target, hkind, hsingle⟩ := exists_record_of_inject hname hcolumn hresult
      rw [inject_of_record hname hcolumn hkind hsingle] at hresult
      obtain ⟨record, hrecord, -⟩ := exists_of_map hresult
      exact ⟨target, hkind, hsingle, exists_injectColumns_iff.mp ⟨record, hrecord⟩⟩
    · intro happlies
      cases hcolumn : type.column? (Text.lowerCase name) with
      | none => exact ⟨row, inject_of_absent hname hcolumn⟩
      | some column =>
        obtain ⟨target, hkind, hsingle, hsuits⟩ := happlies column hcolumn
        obtain ⟨record, hrecord⟩ : ∃ record, (Message.empty target.name).injectColumns target
            metadata config.columns = .ok record := exists_injectColumns_iff.mpr hsuits
        rw [inject_of_record hname hcolumn hkind hsingle, hrecord]
        exact ⟨_, rfl⟩

/-- Metadata go into a row if each value goes into its column, and they change nothing but these
columns, or nothing but the record that is there for them. That record is made anew. -/
theorem inject_exact {schema : TableSchema} (htype : RowType.ofTable schema = .ok type)
    (config : MetadataConfig) (metadata : Metadata) (row : Message) :
    ((∃ result, row.inject type config metadata = .ok result) ↔ config.Applies type metadata) ∧
      ∀ result, row.inject type config metadata = .ok result →
        row.Injected type config metadata result := by
  refine ⟨exists_inject_iff, fun result hresult => ?_⟩
  have hdistinct := RowType.distinct htype
  have hself : type ∈ type.records := by
    cases type
    rw [RowType.records]
    exact List.mem_cons_self
  cases hname : config.namespaceColumn with
  | none =>
    rw [inject_of_none hname] at hresult
    exact .columns hname (receives_of_injectColumns (hdistinct type hself) hresult)
  | some name =>
    cases hcolumn : type.column? (Text.lowerCase name) with
    | none =>
      rw [inject_of_absent hname hcolumn] at hresult
      cases hresult
      exact .absent hname hcolumn
    | some column =>
      obtain ⟨target, hkind, hsingle⟩ := exists_record_of_inject hname hcolumn hresult
      rw [inject_of_record hname hcolumn hkind hsingle] at hresult
      obtain ⟨record, hrecord, rfl⟩ := exists_of_map hresult
      have htarget : target ∈ column.kind.records := by
        rw [hkind, ColumnKind.records]
        cases target
        rw [RowType.records]
        exact List.mem_cons_self
      have hinner := (hdistinct.of_column? hcolumn) target htarget
      refine .record hname hcolumn hkind hsingle (receives_of_injectColumns hinner hrecord) ?_
        (.putColumn row column _)
      rw [putColumn, content?_put, if_pos rfl]

end Message

end Configurations

namespace Envelopes

def table : TableSchema :=
  ⟨[{ name := "id", type := 1, mode := 1 }, { name := "topic", type := 1, mode := 1 },
    { name := "meta", type := 4, mode := 1, fields :=
        [{ name := "origin", type := 1, mode := 1 }, { name := "topic", type := 1, mode := 1 }] }]⟩

def origin : Column := ⟨1, "origin", .optional, .string⟩

def metaType : RowType := ⟨"__ROOT__.Struct_meta", [origin, ⟨2, "topic", .optional, .string⟩]⟩

def metaColumn : Column := ⟨3, "meta", .optional, .record metaType⟩

def type : RowType :=
  ⟨rootName, [⟨1, "id", .optional, .string⟩, ⟨2, "topic", .optional, .string⟩, metaColumn]⟩

/-- A letter with a record of its own in the column that may be there for metadata. -/
def letter : Message :=
  ⟨"test.Letter", [⟨1, "id", .single (.scalar (.string "x"))⟩,
    ⟨2, "meta", .single (.message
      ⟨"test.Envelope", [⟨1, "origin", .single (.scalar (.string "y"))⟩], []⟩)⟩], []⟩

def envelope : Message := ⟨metaType.name, [⟨1, "origin", .single (.scalar (.string "y"))⟩], []⟩

def letterRow : Message :=
  ⟨rootName,
    [⟨1, "id", .single (.scalar (.string "x"))⟩, ⟨3, "meta", .single (.message envelope)⟩], []⟩

def keys : List String := ["topic", "Topic", "offset"]

def metadata : Metadata := [("topic", .text "t"), ("Topic", .text "u")]

def topRow : Message :=
  ⟨rootName,
    [⟨1, "id", .single (.scalar (.string "x"))⟩, ⟨2, "topic", .single (.scalar (.string "u"))⟩,
      ⟨3, "meta", .single (.message envelope)⟩], []⟩

def stamp : Message := ⟨metaType.name, [⟨2, "topic", .single (.scalar (.string "u"))⟩], []⟩

def stampedRow : Message :=
  ⟨rootName,
    [⟨1, "id", .single (.scalar (.string "x"))⟩, ⟨3, "meta", .single (.message stamp)⟩], []⟩

def projection : Projection := .atTime none ⟨1700000000, 0⟩

/-- The topic goes to the letter itself, or to its envelope. -/
theorem inject_exact_of_letter :
    RowType.ofTable table = .ok type ∧ projection.row type letter = .ok letterRow ∧
      letterRow.inject type ⟨none, keys⟩ metadata = .ok topRow ∧
      letterRow.Injected type ⟨none, keys⟩ metadata topRow ∧
      letterRow.inject type ⟨some "META", keys⟩ metadata = .ok stampedRow ∧
      letterRow.Injected type ⟨some "META", keys⟩ metadata stampedRow := by
  have htype : RowType.ofTable table = .ok type := rfl
  have htop : letterRow.inject type ⟨none, keys⟩ metadata = .ok topRow := rfl
  have hstamped : letterRow.inject type ⟨some "META", keys⟩ metadata = .ok stampedRow := rfl
  exact ⟨htype, rfl, htop, (Message.inject_exact htype _ _ _).2 _ htop, hstamped,
    (Message.inject_exact htype _ _ _).2 _ hstamped⟩

/-- What a record of its own has in the column for metadata does not survive the injection, even
where no key names it. -/
theorem not_record_kept :
    ¬ ∀ (schema : TableSchema) (type target : RowType) (config : MetadataConfig)
      (metadata : Metadata) (projection : Projection) (name : String) (column inner : Column)
      (record row result before after : Message) (content : Content),
      RowType.ofTable schema = .ok type → projection.row type record = .ok row →
      row.inject type config metadata = .ok result → config.namespaceColumn = some name →
      type.column? (Text.lowerCase name) = some column → column.kind = .record target →
      row.content? column.number = some (.single (.message before)) →
      result.content? column.number = some (.single (.message after)) →
      inner ∈ target.columns → before.content? inner.number = some content →
      (∀ key ∈ config.columns, ∀ value, ¬ metadata.Fills target key inner value) →
      after.content? inner.number = some content := by
  intro hclaim
  have hidle : ∀ key ∈ keys, ∀ value, ¬ metadata.Fills metaType key origin value := by
    intro key hkey value hfills
    have hname := RowType.name_of_column? hfills.column?_eq
    have hother : ∀ key ∈ keys, origin.name ≠ Text.lowerCase key := by decide
    exact hother key hkey hname
  have hkept := hclaim table type metaType ⟨some "meta", keys⟩ metadata projection "meta" metaColumn
    origin letter letterRow stampedRow envelope stamp (.single (.scalar (.string "y"))) rfl rfl rfl
    rfl rfl rfl rfl rfl List.mem_cons_self rfl hidle
  cases hkept

end Envelopes

end RowSink
