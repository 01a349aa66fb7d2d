import RowSink.Proofs.Number.Widening
import RowSink.Proofs.Row.Steps

/-!
# Finite numbers in rows

No number without a finite value gets into a row. A column checks every scalar that is put into it
before it asks whether its kind can hold the scalar, so that such a number makes a record invalid
wherever it stands. Single-precision numbers are checked after they have been widened, which leaves
infinities and what is no number as they are.
-/

namespace RowSink

section Scalars

/-- Whether a scalar is no floating-point number, or one with a finite value. -/
def Scalar.IsFinite : Scalar → Prop
  | .double bits => Number.binary64.isFinite bits.toNat = true
  | .float bits => Number.binary32.isFinite bits.toNat = true
  | _ => True

namespace Scalar

variable {value stored : Scalar}

/-- The check of a number sees through its widening. -/
theorem isNonFinite_eq_false_iff : value.isNonFinite = false ↔ value.IsFinite := by
  cases value with
  | double bits => simp [isNonFinite, toDouble?, IsFinite]
  | float bits =>
    obtain ⟨hfinite, hroom⟩ := Number.isFinite_widen bits.toNat
    have hword : (UInt64.ofNat (Number.widen bits.toNat)).toNat = Number.widen bits.toNat :=
      UInt64.toNat_ofNat_of_lt hroom
    simp [isNonFinite, toDouble?, IsFinite, hword, hfinite]
  | _ => simp [isNonFinite, toDouble?, IsFinite]

theorem natAbs_lt_of_toInt? {int : Int} (hint : value.toInt? = some int) :
    int.natAbs < 2 ^ 64 := by
  cases value with
  | int32 word =>
    have hleast := word.le_toInt
    have hmost := word.toInt_lt
    cases hint
    omega
  | int64 word =>
    have hleast := word.le_toInt
    have hmost := word.toInt_lt
    cases hint
    omega
  | uint32 word =>
    have hmost := word.toNat_lt
    cases hint
    omega
  | uint64 word =>
    have hmost := word.toNat_lt
    cases hint
    omega
  | _ => cases hint

/-- What a number is stored as in a column of doubles is finite if the number is. -/
theorem isFinite_of_asDouble? (hvalue : value.isNonFinite = false)
    (hstored : value.asDouble? = some stored) : stored.IsFinite := by
  rw [asDouble?] at hstored
  cases hbits : value.toDouble? with
  | some bits =>
    rw [hbits] at hstored
    rw [isNonFinite, hbits] at hvalue
    obtain rfl := Option.some.inj hstored
    simpa [IsFinite] using hvalue
  | none =>
    rw [hbits] at hstored
    obtain ⟨int, hint, rfl⟩ := Option.map_eq_some_iff.mp hstored
    obtain ⟨hfinite, hroom⟩ := Number.BinaryFormat.isFinite_ofInt (natAbs_lt_of_toInt? hint)
    have hword : (UInt64.ofNat (Number.binary64.ofInt int)).toNat = Number.binary64.ofInt int :=
      UInt64.toNat_ofNat_of_lt hroom
    rw [IsFinite, hword]
    exact hfinite

/-- Only columns of doubles hold floating-point numbers. -/
theorem isFinite_of_kind (hdouble : stored.kind ≠ .double) (hfloat : stored.kind ≠ .float) :
    stored.IsFinite := by
  cases stored with
  | double bits => exact absurd rfl hdouble
  | float bits => exact absurd rfl hfloat
  | _ => trivial

end Scalar

namespace Column

variable {column : Column} {value stored : Scalar}

/-- A column of any kind refuses a number that is not finite as an invalid value. -/
theorem coerce_of_not_isFinite (column : Column) (hvalue : ¬ value.IsFinite) :
    ∃ reason, column.coerce value = .error (column.invalidValue reason) := by
  rw [← Scalar.isNonFinite_eq_false_iff, Bool.not_eq_false] at hvalue
  rw [coerce, if_pos hvalue]
  exact ⟨_, rfl⟩

theorem isFinite_of_coerce (hstored : column.coerce value = .ok stored) :
    value.IsFinite ∧ stored.IsFinite := by
  have hfits := fits_of_coerce hstored
  rw [Value.Fits] at hfits
  rw [coerce] at hstored
  split at hstored
  · cases hstored
  rename_i hvalue
  rw [Bool.not_eq_true] at hvalue
  refine ⟨Scalar.isNonFinite_eq_false_iff.mp hvalue, ?_⟩
  cases hkind : column.kind with
  | double =>
    rw [hkind] at hstored
    dsimp only at hstored
    cases hdouble : value.asDouble? with
    | none =>
      rw [hdouble] at hstored
      cases hstored
    | some double =>
      rw [hdouble] at hstored
      cases hstored
      exact Scalar.isFinite_of_asDouble? hvalue hdouble
  | _ =>
    rw [hkind] at hfits
    apply Scalar.isFinite_of_kind
    all_goals
      intro hfloat
      rw [hfloat] at hfits
      cases hfits

theorem isFinite_of_storeNumber {number : Int32} {name : Option String}
    (hstored : column.storeNumber number name = .ok stored) : stored.IsFinite := by
  rw [storeNumber] at hstored
  split at hstored
  · cases hstored
    trivial
  · exact (isFinite_of_coerce hstored).2

theorem isFinite_of_storeTimestamp {window : TimestampWindow} {entries : List Entry}
    (hstored : column.storeTimestamp window entries = .ok stored) : stored.IsFinite := by
  obtain ⟨_, -, -, hcoerced⟩ := storeTimestamp_eq_ok hstored
  exact (isFinite_of_coerce hcoerced).2

theorem isFinite_of_storeStruct {message : Message}
    (hstored : column.storeStruct message = .ok stored) : stored.IsFinite := by
  rw [storeStruct] at hstored
  split at hstored
  · cases hstored
  · exact (isFinite_of_coerce hstored).2

end Column

end Scalars

section Rows

mutual

/-- The scalars that stand in a message, at any depth. -/
def Message.scalars : Message → List Scalar
  | ⟨_, entries, _⟩ => entriesScalars entries

def entriesScalars : List Entry → List Scalar
  | [] => []
  | ⟨_, _, content⟩ :: rest => content.scalars ++ entriesScalars rest

def Content.scalars : Content → List Scalar
  | .single value => value.scalars
  | .list items => itemsScalars items
  | .map pairs => pairsScalars pairs

def itemsScalars : List Value → List Scalar
  | [] => []
  | value :: rest => value.scalars ++ itemsScalars rest

def pairsScalars : List Pair → List Scalar
  | [] => []
  | ⟨key, value⟩ :: rest => key :: value.scalars ++ pairsScalars rest

def Value.scalars : Value → List Scalar
  | .scalar value => [value]
  | .enumeration _ _ => []
  | .message record => record.scalars

end

theorem mem_entriesScalars_iff {scalar : Scalar} {entries : List Entry} :
    scalar ∈ entriesScalars entries ↔ ∃ entry ∈ entries, scalar ∈ entry.content.scalars := by
  induction entries with
  | nil => simp [entriesScalars]
  | cons entry rest ih =>
    obtain ⟨number, name, content⟩ := entry
    rw [entriesScalars, List.mem_append, ih, List.exists_mem_cons_iff]

theorem mem_itemsScalars_map_iff {scalar : Scalar} {records : List Message} :
    scalar ∈ itemsScalars (records.map .message) ↔ ∃ record ∈ records, scalar ∈ record.scalars := by
  induction records with
  | nil => simp [itemsScalars]
  | cons record rest ih =>
    rw [List.map_cons, itemsScalars, List.mem_append, ih, List.exists_mem_cons_iff, Value.scalars]

/-- All numbers in a message are finite. -/
def Message.AllFinite (message : Message) : Prop :=
  ∀ scalar ∈ message.scalars, scalar.IsFinite

namespace Message.AllFinite

variable {row filled : Message}

theorem empty (typeName : String) : (Message.empty typeName).AllFinite := by
  simp [AllFinite, Message.empty, scalars, entriesScalars]

theorem putColumn {column : Column} {content : Content} (hrow : row.AllFinite)
    (hcontent : ∀ scalar ∈ content.scalars, scalar.IsFinite) :
    (row.putColumn column content).AllFinite := by
  obtain ⟨name, entries, unknown⟩ := row
  intro scalar hscalar
  rw [Message.putColumn, put, scalars, mem_entriesScalars_iff] at hscalar
  obtain ⟨entry, hentry, hmem⟩ := hscalar
  rcases mem_insertEntry hentry with rfl | hknown
  · exact hcontent scalar hmem
  · apply hrow
    rw [scalars, mem_entriesScalars_iff]
    exact ⟨entry, hknown, hmem⟩

theorem fill {type : RowType} {name : String} {store : Column → Except ConversionError Value}
    (hrow : row.AllFinite)
    (hstore : ∀ column stored, store column = .ok stored →
      ∀ scalar ∈ stored.scalars, scalar.IsFinite)
    (hfilled : row.fill type name store = .ok filled) : filled.AllFinite := by
  rcases Message.fill_eq_ok hfilled with ⟨-, rfl⟩ | ⟨column, stored, -, hstored, rfl⟩
  · exact hrow
  · apply hrow.putColumn
    rw [Content.scalars]
    exact hstore column stored hstored

end Message.AllFinite

/-- What is stored as a finite scalar has no other scalar in it. -/
theorem finite_of_map_scalar {result : Except ConversionError Scalar} {stored : Value}
    (hfinite : ∀ scalar, result = .ok scalar → scalar.IsFinite)
    (hstored : result.map .scalar = .ok stored) : ∀ scalar ∈ stored.scalars, scalar.IsFinite := by
  obtain ⟨scalar, hscalar, rfl⟩ := exists_of_map_scalar hstored
  rw [Value.scalars, List.forall_mem_singleton]
  exact hfinite scalar hscalar

variable {projection : Projection}

mutual

theorem Message.allFinite_of_projectEntries {top : Bool} {target : RowType} {result : Message} :
    ∀ (entries : List Entry) (row : Message), row.AllFinite →
      projectEntries projection top target row entries = .ok result → result.AllFinite
  | [], row, hrow, hresult => by
    rw [projectEntries] at hresult
    cases hresult
    exact hrow
  | ⟨_, _, content⟩ :: rest, row, hrow, hresult => by
    rcases exists_of_projectEntries_cons hresult with
      ⟨-, hrest⟩ | ⟨column, stored, -, hstored, hrest⟩
    · exact Message.allFinite_of_projectEntries rest row hrow hrest
    · have hput : (row.putColumn column stored).AllFinite :=
        hrow.putColumn (Content.finite_of_project content hstored)
      exact Message.allFinite_of_projectEntries rest _ hput hrest
termination_by structural entries => entries

theorem Content.finite_of_project {partition : Bool} {column : Column} {stored : Content} :
    ∀ content : Content, content.project projection partition column = .ok stored →
      ∀ scalar ∈ stored.scalars, scalar.IsFinite
  | .map pairs, hstored => by
    obtain ⟨entryType, records, -, hrecords, rfl⟩ := exists_of_project_map hstored
    intro scalar hscalar
    rw [Content.scalars, mem_itemsScalars_map_iff] at hscalar
    obtain ⟨record, hrecord, hmem⟩ := hscalar
    exact Message.allFinite_of_projectPairs pairs hrecords record hrecord scalar hmem
  | .list items, hstored => by
    obtain ⟨values, hvalues, rfl⟩ := exists_of_project_list hstored
    exact finite_of_projectItems items hvalues
  | .single value, hstored => by
    obtain ⟨kept, hkept, rfl⟩ := exists_of_project_single hstored
    exact Value.finite_of_project value hkept
termination_by structural content => content

theorem finite_of_projectItems {column : Column} {values : List Value} :
    ∀ items : List Value, projectItems projection column items = .ok values →
      ∀ scalar ∈ itemsScalars values, scalar.IsFinite
  | [], hvalues => by
    rw [projectItems] at hvalues
    cases hvalues
    simp [itemsScalars]
  | value :: rest, hvalues => by
    obtain ⟨stored, more, hstored, hmore, rfl⟩ := exists_of_projectItems_cons hvalues
    rw [itemsScalars, List.forall_mem_append]
    exact ⟨Value.finite_of_project value hstored, finite_of_projectItems rest hmore⟩
termination_by structural items => items

theorem Message.allFinite_of_projectPairs {entryType : RowType} {records : List Message} :
    ∀ pairs : List Pair, projectPairs projection entryType pairs = .ok records →
      ∀ record ∈ records, record.AllFinite
  | [], hrecords => by
    rw [projectPairs] at hrecords
    cases hrecords
    exact nofun
  | ⟨key, value⟩ :: rest, hrecords => by
    obtain ⟨record, more, hrecord, hmore, rfl⟩ := exists_of_projectPairs_cons hrecords
    obtain ⟨keyed, hkeyed, hfilled⟩ := exists_of_bind hrecord
    have hkeyedFinite := (Message.AllFinite.empty entryType.name).fill
      (fun _ _ => finite_of_map_scalar fun _ hkey => (Column.isFinite_of_coerce hkey).2) hkeyed
    have hrecordFinite := hkeyedFinite.fill
      (fun _ _ hstored => Value.finite_of_project value hstored) hfilled
    rw [List.forall_mem_cons]
    exact ⟨hrecordFinite, Message.allFinite_of_projectPairs rest hmore⟩
termination_by structural pairs => pairs

theorem Value.finite_of_project {partition : Bool} {column : Column} {stored : Value} :
    ∀ value : Value, value.project projection partition column = .ok stored →
      ∀ scalar ∈ stored.scalars, scalar.IsFinite
  | .scalar value, hstored => by
    rw [Value.project] at hstored
    exact finite_of_map_scalar (fun _ hscalar => (Column.isFinite_of_coerce hscalar).2) hstored
  | .enumeration number name, hstored => by
    rw [Value.project] at hstored
    exact finite_of_map_scalar (fun _ => Column.isFinite_of_storeNumber) hstored
  | .message ⟨typeName, entries, unknown⟩, hstored => by
    rcases exists_of_project_message hstored with
      ⟨-, scalar, rfl, ⟨window, hinstant⟩ | hstruct⟩ | ⟨-, target, row, -, hrow, rfl⟩
    · rw [Value.scalars, List.forall_mem_singleton]
      exact Column.isFinite_of_storeTimestamp hinstant
    · rw [Value.scalars, List.forall_mem_singleton]
      exact Column.isFinite_of_storeStruct hstruct
    · exact Message.allFinite_of_projectEntries entries _ (.empty target.name) hrow
termination_by structural value => value

end

end Rows

section Records

/-- A value comes to a column: as an element of a field that has the column, as the value of an
entry of such a map, or as either in a record that comes to a column of records. -/
inductive Meets : RowType → List Entry → Column → Value → Prop where
  | element {target : RowType} {entries : List Entry} {entry : Entry} {column : Column}
      {value : Value} (hentry : entry ∈ entries)
      (hcolumn : target.column? (Text.lowerCase entry.name) = some column)
      (hvalue : value ∈ entry.content.values) : Meets target entries column value
  | mapped {target entryType : RowType} {entries : List Entry} {entry : Entry}
      {column inner : Column} {pairs : List Pair} {pair : Pair} (hentry : entry ∈ entries)
      (hcolumn : target.column? (Text.lowerCase entry.name) = some column)
      (hcontent : entry.content = .map pairs) (hkind : column.kind = .record entryType)
      (hpair : pair ∈ pairs) (hinner : entryType.column? "value" = some inner) :
      Meets target entries inner pair.value
  | within {target record : RowType} {entries fields : List Entry} {column inner : Column}
      {typeName : String} {unknown : List UnknownField} {value : Value}
      (houter : Meets target entries column (.message ⟨typeName, fields, unknown⟩))
      (hrecord : (Value.message ⟨typeName, fields, unknown⟩).isRecord = true)
      (hkind : column.kind = .record record) (hvalue : Meets record fields inner value) :
      Meets target entries inner value

variable {projection : Projection} {top : Bool} {target : RowType} {column : Column}

theorem exists_of_projectEntries {entries : List Entry} {entry : Entry} {row result : Message}
    (hresult : projectEntries projection top target row entries = .ok result)
    (hentry : entry ∈ entries)
    (hcolumn : target.column? (Text.lowerCase entry.name) = some column) :
    ∃ partition stored, entry.content.project projection partition column = .ok stored := by
  induction entries generalizing row with
  | nil => cases hentry
  | cons head rest ih =>
    rcases exists_of_projectEntries_cons hresult with
      ⟨hnone, hlater⟩ | ⟨found, stored, hfound, hstored, hlater⟩
    · rcases List.mem_cons.mp hentry with rfl | hrest
      · rw [hcolumn] at hnone
        cases hnone
      · exact ih hlater hrest
    · rcases List.mem_cons.mp hentry with rfl | hrest
      · obtain rfl := Option.some.inj (hcolumn.symm.trans hfound)
        exact ⟨_, stored, hstored⟩
      · exact ih hlater hrest

theorem exists_of_projectItems {items values : List Value} {value : Value}
    (hvalues : projectItems projection column items = .ok values) (hvalue : value ∈ items) :
    ∃ stored, value.project projection false column = .ok stored := by
  induction items generalizing values with
  | nil => cases hvalue
  | cons head rest ih =>
    obtain ⟨stored, more, hstored, hmore, -⟩ := exists_of_projectItems_cons hvalues
    rcases List.mem_cons.mp hvalue with rfl | hrest
    · exact ⟨stored, hstored⟩
    · exact ih hmore hrest

theorem exists_of_projectPairs {entryType : RowType} {pairs : List Pair} {pair : Pair}
    {records : List Message} (hrecords : projectPairs projection entryType pairs = .ok records)
    (hpair : pair ∈ pairs) (hcolumn : entryType.column? "value" = some column) :
    ∃ stored, pair.value.project projection false column = .ok stored := by
  induction pairs generalizing records with
  | nil => cases hpair
  | cons head rest ih =>
    obtain ⟨record, more, hrecord, hmore, -⟩ := exists_of_projectPairs_cons hrecords
    rcases List.mem_cons.mp hpair with rfl | hrest
    · obtain ⟨keyed, -, hfilled⟩ := exists_of_bind hrecord
      rw [Message.fill_of_column? keyed _ hcolumn] at hfilled
      obtain ⟨stored, hstored, -⟩ := exists_of_map hfilled
      exact ⟨stored, hstored⟩
    · exact ih hmore hrest

theorem Content.exists_of_project {partition : Bool} {content stored : Content} {value : Value}
    (hstored : content.project projection partition column = .ok stored)
    (hvalue : value ∈ content.values) :
    ∃ partition stored, value.project projection partition column = .ok stored := by
  cases content with
  | single single =>
    obtain rfl := List.mem_singleton.mp hvalue
    obtain ⟨kept, hkept, -⟩ := exists_of_project_single hstored
    exact ⟨partition, kept, hkept⟩
  | list items =>
    obtain ⟨values, hvalues, -⟩ := exists_of_project_list hstored
    exact ⟨false, exists_of_projectItems hvalues hvalue⟩
  | map pairs => cases hvalue

/-- Whatever comes to a column is accepted by it if the record has a row. -/
theorem Meets.exists_stored {entries : List Entry} {value : Value}
    (hmeets : Meets target entries column value) :
    ∀ {top : Bool} {row result : Message},
      projectEntries projection top target row entries = .ok result →
        ∃ partition stored, value.project projection partition column = .ok stored := by
  induction hmeets with
  | element hentry hcolumn hvalue =>
    intro top row result hresult
    obtain ⟨partition, stored, hstored⟩ := exists_of_projectEntries hresult hentry hcolumn
    exact Content.exists_of_project hstored hvalue
  | mapped hentry hcolumn hcontent hkind hpair hinner =>
    intro top row result hresult
    obtain ⟨partition, stored, hstored⟩ := exists_of_projectEntries hresult hentry hcolumn
    rw [hcontent] at hstored
    obtain ⟨other, records, hother, hrecords, -⟩ := exists_of_project_map hstored
    obtain rfl := ColumnKind.record.inj (hkind.symm.trans hother)
    exact ⟨false, exists_of_projectPairs hrecords hpair hinner⟩
  | within houter hrecord hkind hvalue ihouter ihvalue =>
    intro top row result hresult
    obtain ⟨partition, stored, hstored⟩ := ihouter hresult
    rcases exists_of_project_message hstored with
      ⟨hleaf, -⟩ | ⟨-, other, inner, hother, hinner, -⟩
    · rw [hrecord] at hleaf
      cases hleaf
    · obtain rfl := ColumnKind.record.inj (hkind.symm.trans hother)
      exact ihvalue hinner

theorem Deposit.failure?_of_not_isFinite {scalar : Scalar} (hscalar : ¬ scalar.IsFinite) :
    ∃ error : ConversionError, error.kind = .invalidMessage ∧
      (Deposit.put top column (.scalar scalar)).failure? projection = some error := by
  obtain ⟨reason, herror⟩ := column.coerce_of_not_isFinite hscalar
  refine ⟨column.invalidValue reason, rfl, ?_⟩
  rw [Deposit.failure?, Value.project, herror]
  rfl

/-- How numbers without a finite value fare in a record. -/
structure FiniteNumbers (projection : Projection) (target : RowType) (record : Message) :
    Prop where
  /-- If the record has a row, no such number comes to a column. -/
  reads : ∀ row, projection.row target record = .ok row →
    ∀ column scalar, Meets target record.entries column (.scalar scalar) → scalar.IsFinite
  /-- Nor does any stand in the row. -/
  stores : ∀ row, projection.row target record = .ok row → row.AllFinite
  /-- A record is invalid if nothing else in it is refused. -/
  refuses : ∀ top column scalar, .put top column (.scalar scalar) ∈ record.deposits target →
    ¬ scalar.IsFinite →
    (∀ deposit ∈ record.deposits target, deposit.failure? projection ≠ none →
      ∃ top column scalar, deposit = .put top column (.scalar scalar) ∧ ¬ scalar.IsFinite) →
    ∃ error : ConversionError, error.kind = .invalidMessage ∧
      projection.row target record = .error error

/-- Numbers without a finite value neither come to a column nor stand in a row, and where they are
all that is wrong with a record, it is invalid. -/
theorem Projection.numbers_finite (projection : Projection) (target : RowType)
    (record : Message) : FiniteNumbers projection target record where
  reads row hrow column scalar hmeets := by
    obtain ⟨typeName, entries, unknown⟩ := record
    obtain ⟨partition, stored, hstored⟩ := hmeets.exists_stored hrow
    rw [Value.project] at hstored
    obtain ⟨_, hcoerced, -⟩ := exists_of_map_scalar hstored
    exact (Column.isFinite_of_coerce hcoerced).1
  stores row hrow := by
    obtain ⟨typeName, entries, unknown⟩ := record
    exact Message.allFinite_of_projectEntries entries _ (.empty target.name) hrow
  refuses top column scalar hmem hscalar honly := by
    have hrefused : (record.deposits target).findSome? (Deposit.failure? projection) ≠ none := by
      intro hnone
      obtain ⟨_, -, herror⟩ := Deposit.failure?_of_not_isFinite hscalar
      rw [List.findSome?_eq_none_iff.mp hnone _ hmem] at herror
      cases herror
    obtain ⟨error, hfirst⟩ := Option.ne_none_iff_exists'.mp hrefused
    obtain ⟨before, deposit, after, hdeposits, hfailure, -⟩ := List.findSome?_eq_some_iff.mp hfirst
    obtain ⟨_, _, _, rfl, hother⟩ := honly deposit (by simp [hdeposits]) (by simp [hfailure])
    obtain ⟨invalid, hkind, hinvalid⟩ := Deposit.failure?_of_not_isFinite hother
    obtain rfl := Option.some.inj (hfailure.symm.trans hinvalid)
    refine ⟨error, hkind, ?_⟩
    rw [← failure?_eq_some_iff, Projection.failure?_row, hfirst]

/-- A column of texts refuses an infinite weight in a map. -/
example : (Projection.atTime none ⟨1700000000, 0⟩).row
    ⟨rootName, [⟨1, "weights", .repeated, .record ⟨"__ROOT__.Struct_weights",
      [⟨1, "key", .optional, .string⟩, ⟨2, "value", .optional, .string⟩]⟩⟩]⟩
    ⟨"test.Box", [⟨1, "Weights", .map [⟨.string "w", .scalar (.float 0x7f800000)⟩]⟩], []⟩ =
      .error (.invalidValue "value" "inf is not a finite number") := by
  rfl

end Records

end RowSink
