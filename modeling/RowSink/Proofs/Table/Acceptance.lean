import Mathlib
import RowSink.Proofs.Table.Evolution

/-!
# Tables that have a row type

The names of a well-formed table are identifiers that differ in more than case. No two of the full
names that its description defines are the same then: a name without a dot is one step of a path,
the fields of a record are named in lower case, and the records nested in it are not. What is left
are the names that its fields take in JSON. Underscores do not count in them, so that two columns
that differ in underscores may come to have the same one, and for that the table is refused.
-/

namespace RowSink

section WellFormed

/-- A letter, a digit or an underscore, all in ASCII. -/
def isWordChar (char : Char) : Bool :=
  char.isAlphanum || char == '_'

/-- Word characters of which the first is no digit. -/
def isIdentifier (name : String) : Bool :=
  match name.toList with
  | [] => false
  | first :: rest => isWordChar first && !first.isDigit && rest.all isWordChar

namespace ColumnSchema

/-- Whether rows can have a column of the type. -/
def isSupported (column : ColumnSchema) : Bool :=
  match ColumnType.ofNumber? column.type.toInt with
  | none | some .unspecified | some .range => false
  | some _ => true

/-- The name of the column, case aside. -/
def foldedName (column : ColumnSchema) : List Char :=
  column.name.toList.map Char.toLower

/-- The name that the field of the column takes in JSON. -/
def jsonName (column : ColumnSchema) : String :=
  RowSink.jsonName (Text.lowerCase column.name)

end ColumnSchema

mutual

/-- The columns of a record column, and those of each record within. -/
def ColumnSchema.records : ColumnSchema → List (List ColumnSchema)
  | ⟨_, type, _, fields, _, _, _, _, _⟩ =>
    if ColumnType.ofNumber? type.toInt = some .struct then fields :: schemaRecords fields else []

def schemaRecords : List ColumnSchema → List (List ColumnSchema)
  | [] => []
  | column :: rest => column.records ++ schemaRecords rest

end

theorem ColumnSchema.records_of_struct {column : ColumnSchema}
    (htype : ColumnType.ofNumber? column.type.toInt = some .struct) :
    column.records = column.fields :: schemaRecords column.fields := by
  cases column
  rw [records, if_pos htype]

theorem ColumnSchema.records_of_scalarKindOf? {column : ColumnSchema} {type : ColumnType}
    {kind : ColumnKind} (htype : ColumnType.ofNumber? column.type.toInt = some type)
    (hkind : scalarKindOf? type = some kind) : column.records = [] := by
  cases column
  rw [records, if_neg]
  rw [htype]
  rintro ⟨rfl⟩
  cases hkind

/-- The columns of a table and those of its record columns, at any depth. -/
def TableSchema.records (schema : TableSchema) : List (List ColumnSchema) :=
  schema.fields :: schemaRecords schema.fields

/-- The columns of a record whose rows can be described. -/
structure WellFormed (columns : List ColumnSchema) : Prop where
  inhabited : columns.isEmpty = false
  bounded : columns.length ≤ maxColumnNumber
  supported : ∀ column ∈ columns, column.isSupported = true
  named : ∀ column ∈ columns, isIdentifier column.name = true
  distinct : (columns.map ColumnSchema.foldedName).Nodup

instance (columns : List ColumnSchema) : Decidable (WellFormed columns) :=
  decidable_of_iff
    (columns.isEmpty = false ∧ columns.length ≤ maxColumnNumber ∧
      (∀ column ∈ columns, column.isSupported = true) ∧
      (∀ column ∈ columns, isIdentifier column.name = true) ∧
      (columns.map ColumnSchema.foldedName).Nodup)
    ⟨fun ⟨hinhabited, hbounded, hsupported, hnamed, hdistinct⟩ =>
        ⟨hinhabited, hbounded, hsupported, hnamed, hdistinct⟩,
      fun hwell =>
        ⟨hwell.inhabited, hwell.bounded, hwell.supported, hwell.named, hwell.distinct⟩⟩

end WellFormed

section LowerCase

/-- A text with neither a dot nor an upper-case letter. -/
def IsFieldName (name : String) : Prop :=
  ∀ char ∈ name.toList, char ≠ '.' ∧ char.isUpper = false

theorem lt_of_isWordChar {char : Char} (hword : isWordChar char = true) : char.toNat < 128 := by
  rw [isWordChar, Bool.or_eq_true, beq_iff_eq] at hword
  rcases hword with halphanum | rfl
  · simp only [Char.isAlphanum, Char.isAlpha, Char.isUpper, Char.isLower, Char.isDigit,
      Bool.or_eq_true, Bool.and_eq_true, decide_eq_true_eq, UInt32.le_iff_toNat_le] at halphanum
    change ((65 ≤ char.toNat ∧ char.toNat ≤ 90) ∨ 97 ≤ char.toNat ∧ char.toNat ≤ 122) ∨
      48 ≤ char.toNat ∧ char.toNat ≤ 57 at halphanum
    omega
  · decide

theorem isWordChar_of_isIdentifier {name : String} (hname : isIdentifier name = true) :
    ∀ char ∈ name.toList, isWordChar char = true := by
  rw [isIdentifier] at hname
  split at hname
  · contradiction
  · rename_i first rest hchars
    rw [Bool.and_eq_true, Bool.and_eq_true, List.all_eq_true] at hname
    rw [hchars, List.forall_mem_cons]
    exact ⟨hname.1.1, hname.2⟩

namespace Text

/-- The table of letter case has the letters of ASCII as they should be. -/
theorem lowerChar_ascii (point : Fin 128) :
    isWordChar (Char.ofNat point) = true →
      lowerChar (Char.ofNat point) = [(Char.ofNat point).toLower] ∧ Char.ofNat point ≠ 'Σ' ∧
        (Char.ofNat point).toLower ≠ '.' ∧ (Char.ofNat point).toLower.isUpper = false := by
  revert point
  decide +kernel

theorem lowerChar_of_isWordChar {char : Char} (hword : isWordChar char = true) :
    lowerChar char = [char.toLower] ∧ char ≠ 'Σ' ∧ char.toLower ≠ '.' ∧
      char.toLower.isUpper = false := by
  have hascii := lowerChar_ascii ⟨char.toNat, lt_of_isWordChar hword⟩
  rw [Char.ofNat_toNat] at hascii
  exact hascii hword

theorem lowerCharsAfter_of_isWordChar (before : List Char) {chars : List Char}
    (hwords : ∀ char ∈ chars, isWordChar char = true) :
    lowerCharsAfter before chars = chars.map Char.toLower := by
  induction chars generalizing before with
  | nil => rfl
  | cons char rest ih =>
    rw [List.forall_mem_cons] at hwords
    obtain ⟨hlower, hsigma, -⟩ := lowerChar_of_isWordChar hwords.1
    rw [lowerCharsAfter, if_neg hsigma, hlower, ih _ hwords.2]
    rfl

theorem toList_lowerCase {name : String} (hname : isIdentifier name = true) :
    (lowerCase name).toList = name.toList.map Char.toLower := by
  rw [lowerCase, String.toList_ofList,
    lowerCharsAfter_of_isWordChar [] (isWordChar_of_isIdentifier hname)]

theorem isFieldName_lowerCase {name : String} (hname : isIdentifier name = true) :
    IsFieldName (lowerCase name) := by
  intro char hchar
  rw [toList_lowerCase hname] at hchar
  obtain ⟨original, horiginal, rfl⟩ := List.mem_map.mp hchar
  exact (lowerChar_of_isWordChar (isWordChar_of_isIdentifier hname original horiginal)).2.2

end Text

/-- Columns whose fields have names of their own, none of which could be that of a record. -/
structure Apart (columns : List ColumnSchema) : Prop where
  distinct : (columns.map fun column => Text.lowerCase column.name).Nodup
  fieldNames : ∀ column ∈ columns, IsFieldName (Text.lowerCase column.name)

theorem WellFormed.apart {columns : List ColumnSchema} (hwell : WellFormed columns) :
    Apart columns := by
  constructor
  case fieldNames =>
    exact fun column hcolumn => Text.isFieldName_lowerCase (hwell.named column hcolumn)
  case distinct =>
    have hfolded : columns.map ColumnSchema.foldedName =
        (columns.map fun column => Text.lowerCase column.name).map String.toList := by
      rw [List.map_map]
      refine List.map_congr_left fun column hcolumn => ?_
      exact (Text.toList_lowerCase (hwell.named column hcolumn)).symm
    have hdistinct := hwell.distinct
    rw [hfolded] at hdistinct
    exact List.Nodup.of_map String.toList hdistinct

theorem Apart.tail {column : ColumnSchema} {rest : List ColumnSchema}
    (hapart : Apart (column :: rest)) : Apart rest where
  distinct := (List.nodup_cons.mp hapart.distinct).2
  fieldNames := (List.forall_mem_cons.mp hapart.fieldNames).2

end LowerCase

section Paths

/-- A name is that of a scope or of something within. -/
def Under (scope name : String) : Prop :=
  ∃ tail, name.toList = scope.toList ++ tail ∧ (tail = [] ∨ tail.head? = some '.')

theorem Under.refl (scope : String) : Under scope scope :=
  ⟨[], (List.append_nil _).symm, .inl rfl⟩

theorem Under.step (scope name : String) : Under scope (scope ++ "." ++ name) := by
  refine ⟨'.' :: name.toList, ?_, .inr rfl⟩
  rw [String.toList_append, String.toList_append, List.append_assoc]
  rfl

theorem Under.trans {scope middle name : String} (hmiddle : Under scope middle)
    (hname : Under middle name) : Under scope name := by
  obtain ⟨tail, htail, hstart⟩ := hmiddle
  obtain ⟨more, hmore, hnext⟩ := hname
  refine ⟨tail ++ more, by rw [hmore, htail, List.append_assoc], ?_⟩
  rcases hstart with rfl | hstart
  · exact hnext
  · refine .inr ?_
    rw [List.head?_append, hstart, Option.some_or]

theorem takeWhile_of_step {step tail : List Char} (hstep : '.' ∉ step)
    (htail : tail = [] ∨ tail.head? = some '.') :
    (step ++ tail).takeWhile (· != '.') = step := by
  have hkept : ∀ char ∈ step, (char != '.') = true := by
    intro char hchar
    rw [bne_iff_ne]
    rintro rfl
    exact hstep hchar
  rw [List.takeWhile_append_of_pos hkept]
  rcases htail with rfl | hdot
  · rw [List.takeWhile_nil, List.append_nil]
  · obtain ⟨rest, rfl⟩ := List.head?_eq_some_iff.mp hdot
    rw [List.takeWhile_cons_of_neg (by decide), List.append_nil]

/-- A name within a scope lies under one step from it alone. -/
theorem Under.unique {scope left right name : String} (hleft : '.' ∉ left.toList)
    (hright : '.' ∉ right.toList) (hunderLeft : Under (scope ++ "." ++ left) name)
    (hunderRight : Under (scope ++ "." ++ right) name) : left = right := by
  obtain ⟨tail, htail, hdot⟩ := hunderLeft
  obtain ⟨tail', htail', hdot'⟩ := hunderRight
  have hsame : left.toList ++ tail = right.toList ++ tail' := by
    have hwhole := htail.symm.trans htail'
    simp only [String.toList_append, List.append_assoc, List.append_cancel_left_eq] at hwhole
    exact hwhole
  apply String.toList_inj.mp
  rw [← takeWhile_of_step hleft hdot, hsame, takeWhile_of_step hright hdot']

theorem IsFieldName.ne_recordName {name : String} (hname : IsFieldName name) (column : String) :
    name ≠ recordName column := by
  rintro rfl
  have hupper := (hname 'S' ?_).2
  · contradiction
  · rw [recordName, String.toList_append]
    exact List.mem_append_left _ (by decide)

theorem dot_notMem_recordName {column : String} (hcolumn : IsFieldName column) :
    '.' ∉ (recordName column).toList := by
  rw [recordName, String.toList_append, List.mem_append]
  rintro (hdot | hdot)
  · revert hdot
    decide
  · exact (hcolumn '.' hdot).1 rfl

end Paths

section Names

namespace Layout

variable {scope : String} {number : Nat} {schemas : List ColumnSchema} {columns : List Column}

theorem map_name (hlayout : Layout scope number schemas columns) :
    columns.map Column.name = schemas.map fun column => Text.lowerCase column.name := by
  induction hlayout with
  | nil scope number => rfl
  | scalar _ _ _ _ ih => rw [List.map_cons, List.map_cons, ih]
  | record _ _ _ _ _ ih => rw [List.map_cons, List.map_cons, ih]

/-- What a description under a full name defines lies under this name. -/
theorem under_of_mem {full : String} (hfull : full ≠ "") (fields : List FieldDescriptor)
    {names : List String} (hnames : ∀ name ∈ names, Under full name) :
    ∀ name ∈ full :: fields.map (fun field => qualify full field.name) ++ names,
      Under full name := by
  rw [List.cons_append, List.forall_mem_cons, List.forall_mem_append]
  refine ⟨.refl full, fun name hname => ?_, hnames⟩
  obtain ⟨field, -, rfl⟩ := List.mem_map.mp hname
  rw [qualify_of_ne hfull]
  exact .step full field.name

/-- What is defined for the records of a type lies under the name of one of them. -/
theorem exists_under (hlayout : Layout scope number schemas columns) (hscope : scope ≠ "") :
    ∀ name ∈ definedNamesOf scope (nestedDescriptors columns),
      ∃ column ∈ schemas, Under (recordScope scope column) name := by
  induction hlayout with
  | nil scope number => exact nofun
  | scalar _ _ hkind _ ih =>
    rw [nestedDescriptors, descriptors_of_scalarKindOf? hkind, List.nil_append]
    intro name hname
    obtain ⟨column, hcolumn, hunder⟩ := ih hscope name hname
    exact ⟨column, List.mem_cons_of_mem _ hcolumn, hunder⟩
  | @record scope number column rest fields columns _ _ _ _ ihFields ihRest =>
    have hqualified : qualify scope (recordName (Text.lowerCase column.name)) =
        recordScope scope column := qualify_of_ne hscope _
    have hne : recordScope scope column ≠ "" := by simp [recordScope]
    rw [nestedDescriptors, ColumnKind.descriptors, List.singleton_append, definedNamesOf,
      RowType.descriptor, Descriptor.definedNames, hqualified]
    intro name hname
    rcases List.mem_append.mp hname with hrecord | hlater
    · refine ⟨column, List.mem_cons_self, under_of_mem hne _ (fun inner hinner => ?_) name hrecord⟩
      obtain ⟨field, -, hunder⟩ := ihFields hne inner hinner
      exact Under.trans (.step _ _) hunder
    · obtain ⟨later, hmem, hunder⟩ := ihRest hscope name hlater
      exact ⟨later, List.mem_cons_of_mem _ hmem, hunder⟩

/-- The names of the fields of a record and those within its records are no names of the same. -/
theorem nodup_fields_append (hlayout : Layout scope number schemas columns) (hscope : scope ≠ "")
    (hapart : Apart schemas)
    (hnested : (definedNamesOf scope (nestedDescriptors columns)).Nodup) :
    (scope :: (columns.map Column.descriptor).map (fun field => qualify scope field.name) ++
      definedNamesOf scope (nestedDescriptors columns)).Nodup := by
  have hfields : (columns.map Column.descriptor).map (fun field => qualify scope field.name) =
      schemas.map fun column => scope ++ "." ++ Text.lowerCase column.name := by
    have hnames := congrArg (List.map (qualify scope)) hlayout.map_name
    rw [List.map_map, List.map_map] at hnames
    rw [List.map_map]
    refine hnames.trans (List.map_congr_left fun column _ => ?_)
    exact qualify_of_ne hscope _
  have hdistinct :
      (schemas.map fun column => scope ++ "." ++ Text.lowerCase column.name).Nodup := by
    have hmapped := hapart.distinct.map (f := fun name => scope ++ "." ++ name)
      fun _ _ => (String.append_right_inj (scope ++ ".")).mp
    rw [List.map_map] at hmapped
    exact hmapped
  have hlonger : ∀ step tail : String, scope ≠ scope ++ "." ++ step ++ tail := by
    intro step tail hsame
    have hlength := congrArg String.length hsame
    simp only [String.length_append] at hlength
    have hdot : ".".length = 1 := rfl
    omega
  rw [hfields, List.cons_append, List.nodup_cons, List.nodup_append]
  refine ⟨?_, hdistinct, hnested, ?_⟩
  · rw [List.mem_append]
    rintro (hfield | hwithin)
    · obtain ⟨column, -, hsame⟩ := List.mem_map.mp hfield
      exact hlonger (Text.lowerCase column.name) "" (by rw [String.append_empty]; exact hsame.symm)
    · obtain ⟨column, -, tail, htail, -⟩ := hlayout.exists_under hscope _ hwithin
      refine hlonger (recordName (Text.lowerCase column.name)) (String.ofList tail) ?_
      rw [← String.toList_inj, String.toList_append, String.toList_ofList]
      exact htail
  · intro name hfield other hwithin hsame
    subst hsame
    obtain ⟨column, hcolumn, rfl⟩ := List.mem_map.mp hfield
    obtain ⟨record, hrecord, hunder⟩ := hlayout.exists_under hscope _ hwithin
    have hfieldName := hapart.fieldNames column hcolumn
    refine hfieldName.ne_recordName (Text.lowerCase record.name) ?_
    exact Under.unique (fun hdot => (hfieldName _ hdot).1 rfl)
      (dot_notMem_recordName (hapart.fieldNames record hrecord)) (.refl _) hunder

/-- No name is defined twice within the records of a type. -/
theorem nodup_definedNamesOf (hlayout : Layout scope number schemas columns) (hscope : scope ≠ "")
    (hapart : Apart schemas) (hwithin : ∀ record ∈ schemaRecords schemas, Apart record) :
    (definedNamesOf scope (nestedDescriptors columns)).Nodup := by
  induction hlayout with
  | nil scope number => exact .nil
  | @scalar scope number column type kind rest columns _ _ hkind _ ih =>
    rw [schemaRecords] at hwithin
    rw [nestedDescriptors, descriptors_of_scalarKindOf? hkind, List.nil_append]
    exact ih hscope hapart.tail fun record hrecord =>
      hwithin record (List.mem_append_right _ hrecord)
  | @record scope number column rest fields columns _ htype hfields hrest ihFields ihRest =>
    have hqualified : qualify scope (recordName (Text.lowerCase column.name)) =
        recordScope scope column := qualify_of_ne hscope _
    have hne : recordScope scope column ≠ "" := by simp [recordScope]
    rw [schemaRecords, ColumnSchema.records_of_struct htype, List.cons_append,
      List.forall_mem_cons, List.forall_mem_append] at hwithin
    obtain ⟨hinner, hdeeper, hlater⟩ := hwithin
    rw [nestedDescriptors, ColumnKind.descriptors, List.singleton_append, definedNamesOf,
      RowType.descriptor, Descriptor.definedNames, hqualified, List.nodup_append]
    refine ⟨hfields.nodup_fields_append hne hinner (ihFields hne hinner hdeeper),
      ihRest hscope hapart.tail hlater, ?_⟩
    intro name hrecord other hother hsame
    subst hsame
    have hunder : Under (recordScope scope column) name := by
      refine under_of_mem hne _ (fun inner hmem => ?_) name hrecord
      obtain ⟨field, -, hfield⟩ := hfields.exists_under hne inner hmem
      exact Under.trans (.step _ _) hfield
    obtain ⟨later, hmem, hunderLater⟩ := hrest.exists_under hscope name hother
    have hnames : recordName (Text.lowerCase column.name) =
        recordName (Text.lowerCase later.name) :=
      Under.unique (dot_notMem_recordName (hapart.fieldNames column List.mem_cons_self))
        (dot_notMem_recordName (hapart.tail.fieldNames later hmem)) hunder hunderLater
    refine (List.nodup_cons.mp hapart.distinct).1 (List.mem_map.mpr ⟨later, hmem, ?_⟩)
    exact ((String.append_right_inj _).mp hnames).symm

end Layout

end Names

section Acceptance

theorem scalarKindOf?_of_isSupported {column : ColumnSchema}
    (hsupported : column.isSupported = true) :
    ∃ type, ColumnType.ofNumber? column.type.toInt = some type ∧
      (type = .struct ∨ ∃ kind, scalarKindOf? type = some kind) := by
  rw [ColumnSchema.isSupported] at hsupported
  cases htype : ColumnType.ofNumber? column.type.toInt with
  | none =>
    rw [htype] at hsupported
    contradiction
  | some type =>
    rw [htype] at hsupported
    refine ⟨type, rfl, ?_⟩
    cases type with
    | unspecified => contradiction
    | range => contradiction
    | struct => exact .inl rfl
    | _ => exact .inr ⟨_, rfl⟩

mutual

/-- A column of a supported type has a kind if its records are well-formed. -/
theorem exists_columnKindOf (scope : String) : ∀ column : ColumnSchema,
    column.isSupported = true → (∀ record ∈ column.records, WellFormed record) →
      ∃ kind, columnKindOf scope column = .ok kind
  | ⟨name, type, mode, fields, description, maxLength, precision, scale, default⟩, hsupported,
      hrecords => by
    obtain ⟨columnType, htype, hkind⟩ := scalarKindOf?_of_isSupported hsupported
    rw [columnKindOf, htype]
    rcases hkind with rfl | ⟨kind, hkind⟩
    · rw [ColumnSchema.records, if_pos htype, List.forall_mem_cons] at hrecords
      obtain ⟨hinner, hdeeper⟩ := hrecords
      have hlength := hinner.bounded
      obtain ⟨columns, hcolumns⟩ := exists_columnsOf
        (scope ++ "." ++ recordName (Text.lowerCase name)) 1 fields (by omega) hinner.supported
        hdeeper
      dsimp only
      rw [if_neg (by simp [hinner.inhabited]), hcolumns]
      exact ⟨_, rfl⟩
    · cases columnType <;> cases hkind <;> exact ⟨_, rfl⟩
termination_by structural column => column

theorem exists_columnsOf (scope : String) (number : Nat) : ∀ schemas : List ColumnSchema,
    number + schemas.length ≤ maxColumnNumber + 1 → (∀ column ∈ schemas, column.isSupported = true) →
      (∀ record ∈ schemaRecords schemas, WellFormed record) →
        ∃ columns, columnsOf scope number schemas = .ok columns
  | [], _, _, _ => ⟨[], rfl⟩
  | column :: rest, hbounded, hsupported, hrecords => by
    rw [List.length_cons] at hbounded
    rw [List.forall_mem_cons] at hsupported
    rw [schemaRecords, List.forall_mem_append] at hrecords
    obtain ⟨kind, hkind⟩ := exists_columnKindOf scope column hsupported.1 hrecords.1
    obtain ⟨columns, hcolumns⟩ :=
      exists_columnsOf scope (number + 1) rest (by omega) hsupported.2 hrecords.2
    rw [columnsOf, if_neg (by omega), hkind]
    dsimp only
    rw [hcolumns]
    exact ⟨_, rfl⟩
termination_by structural schemas => schemas

end

theorem firstRepeated_eq_none_iff {seen names : List String} :
    firstRepeated seen names = none ↔ names.Nodup ∧ ∀ name ∈ names, name ∉ seen := by
  refine ⟨nodup_of_firstRepeated, ?_⟩
  rintro ⟨hnodup, hunseen⟩
  induction names generalizing seen with
  | nil => rfl
  | cons name rest ih =>
    rw [List.nodup_cons] at hnodup
    rw [List.forall_mem_cons] at hunseen
    rw [firstRepeated, if_neg (by simpa using hunseen.1)]
    refine ih hnodup.2 fun other hother hseen => ?_
    rcases List.mem_cons.mp hseen with rfl | hbefore
    · exact hnodup.1 hother
    · exact hunseen.2 other hother hbefore

/-- A description whose full names are distinct is refused for its JSON names alone. -/
theorem Descriptor.check_of_nodup {descriptor : Descriptor}
    (hnodup : (descriptor.definedNames "").Nodup) :
    descriptor.check =
      if ∀ names ∈ descriptor.jsonNames, names.Nodup then .ok ()
      else .error .duplicateJsonName := by
  have hfresh : firstRepeated [] (descriptor.definedNames "") = none :=
    firstRepeated_eq_none_iff.mpr ⟨hnodup, fun _ _ => List.not_mem_nil⟩
  have hjson : (descriptor.jsonNames.any fun names => (firstRepeated [] names).isSome) = true ↔
      ¬ ∀ names ∈ descriptor.jsonNames, names.Nodup := by
    rw [List.any_eq_true]
    push Not
    refine exists_congr fun names => and_congr_right fun _ => ?_
    rw [Option.isSome_iff_ne_none, ne_eq, firstRepeated_eq_none_iff]
    exact not_congr (and_iff_left fun _ _ => List.not_mem_nil)
  rw [check, hfresh]
  dsimp only
  by_cases hdistinct : ∀ names ∈ descriptor.jsonNames, names.Nodup
  · rw [if_pos hdistinct, if_neg fun hany => hjson.mp hany hdistinct]
  · rw [if_neg hdistinct, if_pos (hjson.mpr hdistinct)]

theorem RowType.jsonNames_descriptor (name : String) (type : RowType) :
    (type.descriptor name).jsonNames =
      type.columns.map (fun column => RowSink.jsonName column.name) ::
        jsonNamesOf (nestedDescriptors type.columns) := by
  cases type
  rw [descriptor, Descriptor.jsonNames, List.map_map]
  rfl

namespace Layout

variable {scope : String} {number : Nat} {schemas : List ColumnSchema} {columns : List Column}

theorem map_jsonName (hlayout : Layout scope number schemas columns) :
    columns.map (fun column => RowSink.jsonName column.name) =
      schemas.map ColumnSchema.jsonName := by
  have hnames := congrArg (List.map RowSink.jsonName) hlayout.map_name
  rw [List.map_map, List.map_map] at hnames
  exact hnames

/-- The JSON names that the descriptions nested in a type declare, record by record. -/
theorem jsonNamesOf (hlayout : Layout scope number schemas columns) :
    RowSink.jsonNamesOf (nestedDescriptors columns) =
      (schemaRecords schemas).map (List.map ColumnSchema.jsonName) := by
  induction hlayout with
  | nil scope number => rfl
  | scalar _ htype hkind _ ih =>
    rw [nestedDescriptors, descriptors_of_scalarKindOf? hkind, schemaRecords,
      ColumnSchema.records_of_scalarKindOf? htype hkind, List.nil_append, List.nil_append]
    exact ih
  | record _ htype hfields _ ihFields ihRest =>
    rw [nestedDescriptors, ColumnKind.descriptors, List.singleton_append, RowSink.jsonNamesOf,
      RowType.jsonNames_descriptor, hfields.map_jsonName, ihFields, ihRest, schemaRecords,
      ColumnSchema.records_of_struct htype, List.map_append, List.map_cons]

end Layout

/-- The row type of a table whose records are well-formed. It has one exactly if no two columns of
one record have the same name in JSON. -/
theorem RowType.ofTable_of_wellFormed {schema : TableSchema}
    (hwell : ∀ record ∈ schema.records, WellFormed record) :
    ∃ columns, columnsOf rootName 1 schema.fields = .ok columns ∧
      RowType.ofTable schema =
        if ∀ record ∈ schema.records, (record.map ColumnSchema.jsonName).Nodup then
          .ok ⟨rootName, columns⟩
        else .error .duplicateJsonName := by
  have hroot : rootName ≠ "" := by decide
  obtain ⟨hfields, hwithin⟩ := List.forall_mem_cons.mp hwell
  have hlength := hfields.bounded
  obtain ⟨columns, hcolumns⟩ :=
    exists_columnsOf rootName 1 schema.fields (by omega) hfields.supported hwithin
  have hlayout := layout_of_columnsOf schema.fields hcolumns
  have hnested := hlayout.nodup_definedNamesOf hroot hfields.apart fun record hrecord =>
    (hwithin record hrecord).apart
  have hnodup : (RowType.descriptor rootName ⟨rootName, columns⟩).definedNames "" |>.Nodup := by
    rw [descriptor, Descriptor.definedNames]
    exact hlayout.nodup_fields_append hroot hfields.apart hnested
  have hjson : (∀ names ∈ (RowType.descriptor rootName ⟨rootName, columns⟩).jsonNames,
      names.Nodup) ↔ ∀ record ∈ schema.records, (record.map ColumnSchema.jsonName).Nodup := by
    rw [jsonNames_descriptor, hlayout.map_jsonName, hlayout.jsonNamesOf, TableSchema.records,
      List.forall_mem_cons, List.forall_mem_cons, List.forall_mem_map]
  refine ⟨columns, hcolumns, ?_⟩
  rw [ofTable, if_neg (by simp [hfields.inhabited]), hcolumns]
  dsimp only
  rw [Descriptor.check_of_nodup hnodup, if_congr hjson rfl rfl]
  split <;> rfl

end Acceptance

namespace AddressLines

/-- A person has addresses, and an address has the place of a person's name. -/
def table : TableSchema :=
  ⟨[{ name := "Full_Name", type := 1, mode := 2 },
    { name := "address", type := 4, mode := 3, fields :=
        [{ name := "line_1", type := 1, mode := 1 }, { name := "_zip", type := 2, mode := 77 },
          { name := "Address", type := 4, mode := 1, fields :=
            [{ name := "full_name", type := 1, mode := 1 }] }] }]⟩

/-- The two lines of an address differ in an underscore. -/
def unevenTable : TableSchema :=
  ⟨[{ name := "line1", type := 1, mode := 1 }, { name := "line_1", type := 1, mode := 1 }]⟩

theorem ofTable_of_wellFormed_of_addresses :
    (∀ record ∈ table.records, WellFormed record) ∧
      ∃ columns, columnsOf rootName 1 table.fields = .ok columns ∧
        RowType.ofTable table =
          if ∀ record ∈ table.records, (record.map ColumnSchema.jsonName).Nodup then
            .ok ⟨rootName, columns⟩
          else .error .duplicateJsonName := by
  have hwell : ∀ record ∈ table.records, WellFormed record := by decide +kernel
  exact ⟨hwell, RowType.ofTable_of_wellFormed hwell⟩

/-- A well-formed table may be refused. -/
theorem not_row_type_of_wellFormed :
    ¬ ∀ schema : TableSchema, (∀ record ∈ schema.records, WellFormed record) →
      ∃ type, RowType.ofTable schema = .ok type := by
  intro hclaim
  have hwell : ∀ record ∈ unevenTable.records, WellFormed record := by decide +kernel
  obtain ⟨type, htype⟩ := hclaim unevenTable hwell
  have hrefused : RowType.ofTable unevenTable = .error .duplicateJsonName := rfl
  rw [hrefused] at htype
  contradiction

end AddressLines

end RowSink
