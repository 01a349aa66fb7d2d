import Mathlib.Data.List.Basic
import RowSink.Batch.Record
import RowSink.Table.Resolution

/-!
# Conformance of rows

A row fits its row type: every entry is a column of the type, values are of the kind of their
column, and the records within fit the types of their columns. Whatever an input message is
converted to fits, since nothing but columns is ever set.

One way of setting a column does not ask whether it is repeated, so a repeated column may hold a
single value. It is written as a list of one value is.
-/

namespace RowSink

section Fits

mutual

/-- The row has nothing but columns of the type, at any depth. -/
def Message.Fits (type : RowType) : Message → Prop
  | ⟨name, entries, unknown⟩ =>
    name = type.name ∧ unknown = [] ∧
      entries.Pairwise (fun left right => left.number < right.number) ∧ entriesFit type entries

def entriesFit (type : RowType) : List Entry → Prop
  | [] => True
  | ⟨number, name, content⟩ :: rest =>
    (∃ column ∈ type.columns, column.number = number ∧ column.name = name ∧
      content.Fits column) ∧ entriesFit type rest

def Content.Fits (column : Column) : Content → Prop
  | .single value => value.Fits column.kind
  | .list items => column.isRepeated = true ∧ itemsFit column.kind items
  | .map _ => False

def itemsFit (kind : ColumnKind) : List Value → Prop
  | [] => True
  | value :: rest => value.Fits kind ∧ itemsFit kind rest

def Value.Fits (kind : ColumnKind) : Value → Prop
  | .scalar value => kind.elementKind = .scalar value.kind
  | .enumeration _ _ => False
  | .message record => ∃ type, kind = .record type ∧ record.Fits type

end

theorem entriesFit_iff {type : RowType} {entries : List Entry} :
    entriesFit type entries ↔ ∀ entry ∈ entries, ∃ column ∈ type.columns,
      column.number = entry.number ∧ column.name = entry.name ∧ entry.content.Fits column := by
  induction entries with
  | nil => simp [entriesFit]
  | cons entry rest ih =>
    obtain ⟨number, name, content⟩ := entry
    rw [entriesFit, ih, List.forall_mem_cons]

theorem itemsFit_iff {kind : ColumnKind} {items : List Value} :
    itemsFit kind items ↔ ∀ value ∈ items, value.Fits kind := by
  induction items with
  | nil => simp [itemsFit]
  | cons value rest ih => rw [itemsFit, ih, List.forall_mem_cons]

namespace Message

theorem fits_empty (type : RowType) : (Message.empty type.name).Fits type := by
  rw [empty, Fits]
  exact ⟨rfl, rfl, .nil, trivial⟩

/-- Setting a column keeps a row within its type. -/
theorem Fits.putColumn {row : Message} {type : RowType} {column : Column} {content : Content}
    (hrow : row.Fits type) (hcolumn : column ∈ type.columns) (hcontent : content.Fits column) :
    (row.putColumn column content).Fits type := by
  obtain ⟨name, entries, unknown⟩ := row
  rw [Fits] at hrow
  obtain ⟨hname, hunknown, hascending, hentries⟩ := hrow
  rw [Message.putColumn, put, Fits]
  refine ⟨hname, hunknown, insertEntry_ascending _ _ hascending, ?_⟩
  rw [entriesFit_iff] at hentries ⊢
  intro entry hentry
  rcases mem_insertEntry hentry with rfl | hknown
  · exact ⟨column, hcolumn, rfl, rfl, hcontent⟩
  · exact hentries entry hknown

theorem Fits.fill {row filled : Message} {type : RowType} {name : String}
    {store : Column → Except ConversionError Value} (hrow : row.Fits type)
    (hstore : ∀ column stored, store column = .ok stored → stored.Fits column.kind)
    (hfill : row.fill type name store = .ok filled) : filled.Fits type := by
  rw [Message.fill] at hfill
  split at hfill
  · cases hfill
    exact hrow
  · rename_i column hcolumn
    split at hfill
    · cases hfill
    · rename_i stored hstored
      cases hfill
      refine hrow.putColumn (List.mem_of_find?_eq_some hcolumn) ?_
      rw [Content.Fits]
      exact hstore column stored hstored

end Message

end Fits

section Coercion

namespace Column

variable {column : Column} {value stored : Scalar}

theorem kind_of_storing {coerced : Option Scalar} {kind : ScalarKind}
    (hcoerced : ∀ scalar ∈ coerced, scalar.kind = kind)
    (hstored : column.storing value coerced = .ok stored) : stored.kind = kind := by
  cases coerced with
  | none => cases hstored
  | some scalar =>
    cases hstored
    exact hcoerced _ rfl

theorem kind_of_narrow {bits : Nat} {wrap : Int → Scalar} {kind : ScalarKind}
    (hstored : column.narrow bits wrap value = .ok stored) (hwrap : ∀ int, (wrap int).kind = kind) :
    stored.kind = kind := by
  rw [narrow] at hstored
  split at hstored
  · cases hstored
  · split at hstored
    · cases hstored
      exact hwrap _
    · cases hstored

end Column

namespace Scalar

variable {value coerced : Scalar}

theorem kind_of_asDouble? (hcoerced : coerced ∈ value.asDouble?) : coerced.kind = .double := by
  rw [asDouble?] at hcoerced
  split at hcoerced
  · cases hcoerced
    rfl
  · obtain ⟨int, -, rfl⟩ := Option.map_eq_some_iff.mp hcoerced
    rfl

theorem kind_of_asText? (hcoerced : coerced ∈ value.asText?) : coerced.kind = .string := by
  unfold asText? at hcoerced
  split at hcoerced
  · cases hcoerced
    rfl
  · split at hcoerced
    · cases hcoerced
      rfl
    · obtain ⟨int, -, rfl⟩ := Option.map_eq_some_iff.mp hcoerced
      rfl

theorem kind_of_asBytes? (hcoerced : coerced ∈ value.asBytes?) : coerced.kind = .bytes := by
  cases value <;> cases hcoerced <;> rfl

theorem kind_of_asBool? (hcoerced : coerced ∈ value.asBool?) : coerced.kind = .bool := by
  cases value <;> cases hcoerced
  rfl

end Scalar

namespace Column

variable {column : Column}

/-- A stored scalar is of the kind of its column. -/
theorem fits_of_coerce {value stored : Scalar} (hstored : column.coerce value = .ok stored) :
    (Value.scalar stored).Fits column.kind := by
  rw [Value.Fits]
  rw [coerce] at hstored
  split at hstored
  · cases hstored
  · split at hstored
    · rename_i hkind
      rw [hkind, kind_of_storing (fun _ => Scalar.kind_of_asDouble?) hstored]
      rfl
    · rename_i hkind
      rw [hkind, kind_of_storing (fun _ => Scalar.kind_of_asBool?) hstored]
      rfl
    · rename_i hkind
      rw [hkind, kind_of_storing (fun _ => Scalar.kind_of_asText?) hstored]
      rfl
    · rename_i hkind
      rw [hkind, kind_of_storing (fun _ => Scalar.kind_of_asBytes?) hstored]
      rfl
    · rename_i hkind
      rw [hkind, kind_of_narrow hstored fun _ => rfl]
      rfl
    · rename_i hkind
      rw [hkind, kind_of_narrow hstored fun _ => rfl]
      rfl
    · cases hstored

theorem fits_of_storeTimestamp {window : TimestampWindow} {entries : List Entry} {stored : Scalar}
    (hstored : column.storeTimestamp window entries = .ok stored) :
    (Value.scalar stored).Fits column.kind := by
  rw [storeTimestamp] at hstored
  split at hstored
  · cases hstored
  · split at hstored
    · cases hstored
    · exact fits_of_coerce hstored

theorem fits_of_storeStruct {message : Message} {stored : Scalar}
    (hstored : column.storeStruct message = .ok stored) :
    (Value.scalar stored).Fits column.kind := by
  rw [storeStruct] at hstored
  split at hstored
  · cases hstored
  · exact fits_of_coerce hstored

theorem fits_of_storeNumber {number : Int32} {name : Option String} {stored : Scalar}
    (hstored : column.storeNumber number name = .ok stored) :
    (Value.scalar stored).Fits column.kind := by
  rw [storeNumber] at hstored
  split at hstored
  · rename_i hkind
    cases hstored
    rw [Value.Fits, hkind]
    rfl
  · exact fits_of_coerce hstored

end Column

/-- What a scalar was stored as is a value of the row. -/
theorem exists_of_map_scalar {stored : Except ConversionError Scalar} {value : Value}
    (hvalue : stored.map .scalar = .ok value) :
    ∃ scalar, stored = .ok scalar ∧ value = .scalar scalar := by
  cases stored with
  | error error => cases hvalue
  | ok scalar =>
    cases hvalue
    exact ⟨scalar, rfl, rfl⟩

end Coercion

section Projection

variable {projection : Projection}

mutual

theorem Message.fits_of_projectEntries {top : Bool} {target : RowType} {result : Message} :
    ∀ (entries : List Entry) (row : Message), row.Fits target →
      projectEntries projection top target row entries = .ok result → result.Fits target
  | [], row, hrow, hresult => by
    rw [projectEntries] at hresult
    cases hresult
    exact hrow
  | ⟨_, name, content⟩ :: rest, row, hrow, hresult => by
    rw [projectEntries] at hresult
    split at hresult
    · exact Message.fits_of_projectEntries rest row hrow hresult
    · rename_i column hcolumn
      split at hresult
      · cases hresult
      · rename_i stored hstored
        have hput := hrow.putColumn (List.mem_of_find?_eq_some hcolumn)
          (Content.fits_of_project content hstored)
        exact Message.fits_of_projectEntries rest _ hput hresult
termination_by structural entries => entries

theorem Content.fits_of_project {partition : Bool} {column : Column} {stored : Content} :
    ∀ content : Content, content.project projection partition column = .ok stored →
      stored.Fits column
  | .map pairs, hstored => by
    rw [Content.project] at hstored
    split at hstored
    · rename_i entryType hkind
      split at hstored
      · rename_i hrepeated
        split at hstored
        · cases hstored
        · rename_i records hrecords
          cases hstored
          rw [Content.Fits, itemsFit_iff, List.forall_mem_map]
          refine ⟨hrepeated, fun record hrecord => ?_⟩
          rw [Value.Fits]
          exact ⟨entryType, hkind, Message.fits_of_projectPairs pairs hrecords record hrecord⟩
      · cases hstored
    · cases hstored
  | .list items, hstored => by
    rw [Content.project] at hstored
    split at hstored
    · rename_i hrepeated
      split at hstored
      · cases hstored
      · rename_i values hvalues
        cases hstored
        rw [Content.Fits]
        exact ⟨hrepeated, itemsFit_of_projectItems items hvalues⟩
    · cases hstored
  | .single value, hstored => by
    rw [Content.project] at hstored
    split at hstored
    · cases hstored
    · split at hstored
      · cases hstored
      · rename_i value' hvalue
        cases hstored
        rw [Content.Fits]
        exact Value.fits_of_project value hvalue
termination_by structural content => content

theorem itemsFit_of_projectItems {column : Column} {values : List Value} :
    ∀ items : List Value, projectItems projection column items = .ok values →
      itemsFit column.kind values
  | [], hvalues => by
    rw [projectItems] at hvalues
    cases hvalues
    trivial
  | value :: rest, hvalues => by
    rw [projectItems] at hvalues
    split at hvalues
    · cases hvalues
    · rename_i stored hstored
      split at hvalues
      · cases hvalues
      · rename_i more hmore
        cases hvalues
        rw [itemsFit]
        exact ⟨Value.fits_of_project value hstored, itemsFit_of_projectItems rest hmore⟩
termination_by structural items => items

theorem Message.fits_of_projectPairs {entryType : RowType} {records : List Message} :
    ∀ pairs : List Pair, projectPairs projection entryType pairs = .ok records →
      ∀ record ∈ records, record.Fits entryType
  | [], hrecords => by
    rw [projectPairs] at hrecords
    cases hrecords
    exact nofun
  | ⟨key, value⟩ :: rest, hrecords => by
    rw [projectPairs] at hrecords
    split at hrecords
    · cases hrecords
    · rename_i keyed hkeyed
      split at hrecords
      · cases hrecords
      · rename_i record hrecord
        split at hrecords
        · cases hrecords
        · rename_i more hmore
          cases hrecords
          have hkeyedFits := (Message.fits_empty entryType).fill
            (fun column stored hstored => by
              obtain ⟨scalar, hscalar, rfl⟩ := exists_of_map_scalar hstored
              exact Column.fits_of_coerce hscalar) hkeyed
          have hrecordFits := hkeyedFits.fill
            (fun column stored hstored => Value.fits_of_project value hstored) hrecord
          rw [List.forall_mem_cons]
          exact ⟨hrecordFits, Message.fits_of_projectPairs rest hmore⟩
termination_by structural pairs => pairs

theorem Value.fits_of_project {partition : Bool} {column : Column} {stored : Value} :
    ∀ value : Value, value.project projection partition column = .ok stored →
      stored.Fits column.kind
  | .scalar value, hstored => by
    rw [Value.project] at hstored
    obtain ⟨scalar, hscalar, rfl⟩ := exists_of_map_scalar hstored
    exact Column.fits_of_coerce hscalar
  | .enumeration number name, hstored => by
    rw [Value.project] at hstored
    obtain ⟨scalar, hscalar, rfl⟩ := exists_of_map_scalar hstored
    exact Column.fits_of_storeNumber hscalar
  | .message ⟨typeName, entries, unknown⟩, hstored => by
    rw [Value.project] at hstored
    split at hstored
    · obtain ⟨scalar, hscalar, rfl⟩ := exists_of_map_scalar hstored
      exact Column.fits_of_storeTimestamp hscalar
    · split at hstored
      · obtain ⟨scalar, hscalar, rfl⟩ := exists_of_map_scalar hstored
        exact Column.fits_of_storeStruct hscalar
      · split at hstored
        · rename_i target hkind
          cases hrecord : projectEntries projection false target (.empty target.name) entries with
          | error error =>
            rw [hrecord] at hstored
            cases hstored
          | ok record =>
            rw [hrecord] at hstored
            cases hstored
            rw [Value.Fits]
            exact ⟨target, hkind,
              Message.fits_of_projectEntries entries _ (Message.fits_empty target) hrecord⟩
        · cases hstored
termination_by structural value => value

end

theorem Projection.fits_of_row {target : RowType} {record row : Message}
    (hrow : projection.row target record = .ok row) : row.Fits target := by
  obtain ⟨name, entries, unknown⟩ := record
  rw [Projection.row, Message.project] at hrow
  exact Message.fits_of_projectEntries entries _ (Message.fits_empty target) hrow

end Projection

section Metadata

theorem Column.fits_of_storeMetadata {column : Column} {name : String} {value : MetadataValue}
    {stored : Value} (hstored : column.storeMetadata name value = .ok stored) :
    stored.Fits column.kind := by
  rw [storeMetadata] at hstored
  split at hstored
  · cases hstored
  · obtain ⟨scalar, hscalar, rfl⟩ := exists_of_map_scalar hstored
    exact fits_of_coerce hscalar

namespace Message.Fits

variable {type : RowType} {metadata : Metadata} {row result : Message}

theorem injectColumns {names : List String} (hrow : row.Fits type)
    (hresult : row.injectColumns type metadata names = .ok result) : result.Fits type := by
  induction names generalizing row with
  | nil =>
    cases hresult
    exact hrow
  | cons name rest ih =>
    rw [Message.injectColumns] at hresult
    split at hresult
    · exact ih hrow hresult
    · split at hresult
      · cases hresult
      · rename_i filled hfilled
        exact ih (hrow.fill (fun _ _ => Column.fits_of_storeMetadata) hfilled) hresult

theorem inject {config : MetadataConfig} (hrow : row.Fits type)
    (hresult : row.inject type config metadata = .ok result) : result.Fits type := by
  rw [Message.inject] at hresult
  split at hresult
  · exact hrow.injectColumns hresult
  · split at hresult
    · cases hresult
      exact hrow
    · rename_i column hcolumn
      split at hresult
      · rename_i target hkind
        split at hresult
        · cases hresult
        · split at hresult
          · cases hresult
          · rename_i record hrecord
            cases hresult
            refine hrow.putColumn (List.mem_of_find?_eq_some hcolumn) ?_
            rw [Content.Fits, Value.Fits]
            exact ⟨target, hkind, (fits_empty target).injectColumns hrecord⟩
      · cases hresult

end Message.Fits

end Metadata

/-- Whatever an input message is converted to fits the row type that it is converted for. -/
theorem Conversion.fits_of_row {conversion : Conversion} {now : Instant} {input : InputMessage}
    {row : Message} (hrow : conversion.row now input = .ok row) : row.Fits conversion.target := by
  rw [Conversion.row] at hrow
  split at hrow
  · cases hrow
  · rename_i record hrecord
    split at hrow
    · cases hrow
    · rename_i projected hprojected
      have hfits := Projection.fits_of_row hprojected
      split at hrow
      · cases hrow
        exact hfits
      · exact hfits.inject hrow

end RowSink
