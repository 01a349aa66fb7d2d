import RowSink.Proofs.Row.Representation

/-!
# Steps of the projection

A record is projected field by field, and each step is taken if the one before it succeeds. A map
entry is projected as a record of its own, whose fields are the key and the value.
-/

namespace RowSink

section Results

variable {α β : Type}

theorem exists_of_bind {result : Except ConversionError α} {f : α → Except ConversionError β}
    {last : β} (hlast : result.bind f = .ok last) : ∃ first, result = .ok first ∧
      f first = .ok last := by
  cases result with
  | error failure => cases hlast
  | ok first => exact ⟨first, rfl, hlast⟩

theorem exists_of_map {result : Except ConversionError α} {f : α → β} {last : β}
    (hlast : result.map f = .ok last) : ∃ first, result = .ok first ∧ f first = last := by
  cases result with
  | error failure => cases hlast
  | ok first => exact ⟨first, rfl, Except.ok.inj hlast⟩

end Results

section Sources

theorem lastContent?_concat (before : List Entry) (entry : Entry) :
    lastContent? (Text.lowerCase entry.name) (before ++ [entry]) = some entry.content :=
  lastContent?_append_cons before entry nofun

theorem lastContent?_concat_of_ne {name : String} {entry : Entry}
    (hname : Text.lowerCase entry.name ≠ name) (before : List Entry) :
    lastContent? name (before ++ [entry]) = lastContent? name before := by
  induction before with
  | nil =>
    rw [List.nil_append, lastContent?, lastContent?]
    exact if_neg hname
  | cons earlier rest ih => rw [List.cons_append, lastContent?, lastContent?, ih]

/-- A field that belongs to no column is not the last of any column's name. -/
theorem ne_of_column?_eq_none {type : RowType} {name : String}
    (hnone : type.column? name = none) {column : Column} (hcolumn : column ∈ type.columns) :
    name ≠ column.name := by
  rintro rfl
  have habsent := List.find?_eq_none.mp hnone column hcolumn
  exact habsent (beq_self_eq_true column.name)

theorem lowerCase_key : Text.lowerCase "key" = "key" := by decide

theorem lowerCase_value : Text.lowerCase "value" = "value" := by decide

/-- The fields that the record of a map entry is made of. -/
def Pair.entries (pair : Pair) : List Entry :=
  [⟨1, "key", .single (.scalar pair.key)⟩, ⟨2, "value", .single pair.value⟩]

end Sources

section Steps

theorem Message.fill_of_column? {type : RowType} {name : String} {column : Column} (row : Message)
    (store : Column → Except ConversionError Value) (hcolumn : type.column? name = some column) :
    row.fill type name store =
      (store column).map fun stored => row.putColumn column (.single stored) := by
  rw [fill, hcolumn]
  dsimp only
  cases store column <;> rfl

variable (projection : Projection)

theorem projectEntries_of_column? {top : Bool} {target : RowType} {column : Column}
    (row : Message) (entry : Entry) (rest : List Entry)
    (hcolumn : target.column? (Text.lowerCase entry.name) = some column) :
    projectEntries projection top target row (entry :: rest) =
      (entry.content.project projection (top && projection.partitionKey == some column.name)
        column).bind fun stored =>
          projectEntries projection top target (row.putColumn column stored) rest := by
  obtain ⟨number, name, content⟩ := entry
  rw [projectEntries, hcolumn]
  dsimp only
  cases content.project projection (top && projection.partitionKey == some column.name)
    column <;> rfl

theorem projectItems_cons (column : Column) (value : Value) (rest : List Value) :
    projectItems projection column (value :: rest) =
      (value.project projection false column).bind fun stored =>
        (projectItems projection column rest).map (stored :: ·) := by
  rw [projectItems]
  cases value.project projection false column with
  | error failure => rfl
  | ok stored =>
    dsimp only
    cases projectItems projection column rest <;> rfl

theorem Content.project_single (partition : Bool) {column : Column} (value : Value)
    (hsingle : ¬ column.isRepeated = true) :
    (Content.single value).project projection partition column =
      (value.project projection partition column).map .single := by
  rw [Content.project, if_neg hsingle]
  cases value.project projection partition column <;> rfl

theorem Content.project_list (partition : Bool) {column : Column} (items : List Value)
    (hrepeated : column.isRepeated = true) :
    (Content.list items).project projection partition column =
      (projectItems projection column items).map .list := by
  rw [Content.project, if_pos hrepeated]
  cases projectItems projection column items <;> rfl

theorem Content.project_map (partition : Bool) {column : Column} {entryType : RowType}
    (pairs : List Pair) (hrepeated : column.isRepeated = true)
    (hkind : column.kind = .record entryType) :
    (Content.map pairs).project projection partition column =
      (projectPairs projection entryType pairs).map fun records =>
        .list (records.map .message) := by
  rw [Content.project, hkind]
  dsimp only
  rw [if_pos hrepeated]
  cases projectPairs projection entryType pairs <;> rfl

/-- The record of a map entry. -/
def Pair.project (entryType : RowType) (pair : Pair) : Except ConversionError Message :=
  ((Message.empty entryType.name).fill entryType "key"
      fun column => (column.coerce pair.key).map .scalar).bind fun keyed =>
    keyed.fill entryType "value" fun column => pair.value.project projection false column

theorem projectPairs_cons (entryType : RowType) (pair : Pair) (rest : List Pair) :
    projectPairs projection entryType (pair :: rest) =
      (pair.project projection entryType).bind fun record =>
        (projectPairs projection entryType rest).map (record :: ·) := by
  obtain ⟨key, value⟩ := pair
  rw [projectPairs, Pair.project]
  cases (Message.empty entryType.name).fill entryType "key"
      fun column => (column.coerce key).map .scalar with
  | error failure => rfl
  | ok keyed =>
    dsimp only [Except.bind]
    cases keyed.fill entryType "value" fun column => value.project projection false column with
    | error failure => rfl
    | ok record =>
      dsimp only
      cases projectPairs projection entryType rest <;> rfl

end Steps

section Successes

/-! What a projection that succeeds has done. -/

variable {projection : Projection} {partition : Bool} {column : Column}

theorem exists_of_projectEntries_cons {top : Bool} {target : RowType} {row result : Message}
    {entry : Entry} {rest : List Entry}
    (hresult : projectEntries projection top target row (entry :: rest) = .ok result) :
    (target.column? (Text.lowerCase entry.name) = none ∧
        projectEntries projection top target row rest = .ok result) ∨
      ∃ column stored, target.column? (Text.lowerCase entry.name) = some column ∧
        entry.content.project projection (top && projection.partitionKey == some column.name)
          column = .ok stored ∧
        projectEntries projection top target (row.putColumn column stored) rest = .ok result := by
  cases hcolumn : target.column? (Text.lowerCase entry.name) with
  | none =>
    obtain ⟨number, name, content⟩ := entry
    rw [projectEntries, hcolumn] at hresult
    exact .inl ⟨rfl, hresult⟩
  | some column =>
    rw [projectEntries_of_column? projection row entry rest hcolumn] at hresult
    obtain ⟨stored, hstored, hrest⟩ := exists_of_bind hresult
    exact .inr ⟨column, stored, rfl, hstored, hrest⟩

theorem exists_of_project_single {value : Value} {stored : Content}
    (hstored : (Content.single value).project projection partition column = .ok stored) :
    ∃ kept, value.project projection partition column = .ok kept ∧ stored = .single kept := by
  by_cases hrepeated : column.isRepeated = true
  · rw [Content.project, if_pos hrepeated] at hstored
    cases hstored
  · rw [Content.project_single projection partition value hrepeated] at hstored
    obtain ⟨kept, hkept, rfl⟩ := exists_of_map hstored
    exact ⟨kept, hkept, rfl⟩

theorem exists_of_project_list {items : List Value} {stored : Content}
    (hstored : (Content.list items).project projection partition column = .ok stored) :
    ∃ values, projectItems projection column items = .ok values ∧ stored = .list values := by
  by_cases hrepeated : column.isRepeated = true
  · rw [Content.project_list projection partition items hrepeated] at hstored
    obtain ⟨values, hvalues, rfl⟩ := exists_of_map hstored
    exact ⟨values, hvalues, rfl⟩
  · rw [Content.project, if_neg hrepeated] at hstored
    cases hstored

theorem exists_of_project_map {pairs : List Pair} {stored : Content}
    (hstored : (Content.map pairs).project projection partition column = .ok stored) :
    ∃ entryType records, column.kind = .record entryType ∧
      projectPairs projection entryType pairs = .ok records ∧
      stored = .list (records.map .message) := by
  cases hkind : column.kind with
  | record entryType =>
    by_cases hrepeated : column.isRepeated = true
    · rw [Content.project_map projection partition pairs hrepeated hkind] at hstored
      obtain ⟨records, hrecords, rfl⟩ := exists_of_map hstored
      exact ⟨entryType, records, rfl, hrecords, rfl⟩
    · rw [Content.project, hkind] at hstored
      dsimp only at hstored
      rw [if_neg hrepeated] at hstored
      cases hstored
  | _ =>
    rw [Content.project, hkind] at hstored
    cases hstored

theorem exists_of_projectItems_cons {value : Value} {rest values : List Value}
    (hvalues : projectItems projection column (value :: rest) = .ok values) :
    ∃ stored more, value.project projection false column = .ok stored ∧
      projectItems projection column rest = .ok more ∧ values = stored :: more := by
  rw [projectItems_cons] at hvalues
  obtain ⟨stored, hstored, hlater⟩ := exists_of_bind hvalues
  obtain ⟨more, hmore, rfl⟩ := exists_of_map hlater
  exact ⟨stored, more, hstored, hmore, rfl⟩

theorem exists_of_projectPairs_cons {entryType : RowType} {pair : Pair} {rest : List Pair}
    {records : List Message}
    (hrecords : projectPairs projection entryType (pair :: rest) = .ok records) :
    ∃ record more, pair.project projection entryType = .ok record ∧
      projectPairs projection entryType rest = .ok more ∧ records = record :: more := by
  rw [projectPairs_cons] at hrecords
  obtain ⟨record, hrecord, hlater⟩ := exists_of_bind hrecords
  obtain ⟨more, hmore, rfl⟩ := exists_of_map hlater
  exact ⟨record, more, hrecord, hmore, rfl⟩

/-- A message becomes a scalar if it is a timestamp or a free-form structure, and a record if it is
not. -/
theorem exists_of_project_message {typeName : String} {entries : List Entry}
    {unknown : List UnknownField} {stored : Value}
    (hstored : (Value.message ⟨typeName, entries, unknown⟩).project projection partition column =
      .ok stored) :
    ((Value.message ⟨typeName, entries, unknown⟩).isRecord = false ∧
        ∃ scalar, stored = .scalar scalar ∧
          ((∃ window, column.storeTimestamp window entries = .ok scalar) ∨
            column.storeStruct ⟨typeName, entries, unknown⟩ = .ok scalar)) ∨
      (Value.message ⟨typeName, entries, unknown⟩).isRecord = true ∧
        ∃ target row, column.kind = .record target ∧
          projectEntries projection false target (.empty target.name) entries = .ok row ∧
          stored = .message row := by
  rw [Value.project] at hstored
  by_cases hinstant : typeName = WellKnown.timestampName
  · rw [if_pos hinstant] at hstored
    obtain ⟨scalar, hscalar, rfl⟩ := exists_of_map_scalar hstored
    exact .inl ⟨by simp [Value.isRecord, hinstant], scalar, rfl, .inl ⟨_, hscalar⟩⟩
  rw [if_neg hinstant] at hstored
  by_cases hstruct : typeName = WellKnown.structName
  · rw [if_pos hstruct] at hstored
    obtain ⟨scalar, hscalar, rfl⟩ := exists_of_map_scalar hstored
    exact .inl ⟨by simp [Value.isRecord, hstruct], scalar, rfl, .inr hscalar⟩
  rw [if_neg hstruct] at hstored
  cases hkind : column.kind with
  | record target =>
    rw [hkind] at hstored
    obtain ⟨row, hrow, rfl⟩ := exists_of_map hstored
    exact .inr ⟨Value.isRecord_message_iff.mpr ⟨hinstant, hstruct⟩, target, row, rfl, hrow, rfl⟩
  | _ =>
    rw [hkind] at hstored
    cases hstored

end Successes

end RowSink
