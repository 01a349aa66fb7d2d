import Mathlib
import RowSink.Proofs.Row.Representation

/-!
# Integers in rows

An integer is stored in a column of integers as it is, or refused where the column is too narrow
for it; it is never wrapped or cut. What is written for it reads back as the same integer, whatever
its sign and width, and its text in a column of texts does so too. This goes for the elements of
fields, for the keys and the values of maps, for the numbers of enumerations and for metadata alike,
all of which are stored in the same way.
-/

namespace RowSink

section Ranges

/-- The integers of so many bits, one of which is for the sign. -/
def InRange (bits : Nat) (int : Int) : Prop :=
  -(2 ^ (bits - 1)) ≤ int ∧ int < 2 ^ (bits - 1)

theorem fitsSigned_iff_inRange {bits : Nat} {int : Int} :
    fitsSigned bits int = true ↔ InRange bits int := by
  simp [fitsSigned, InRange]

/-- The bits of the integers that a column holds. -/
def ColumnKind.bits? : ColumnKind → Option Nat
  | .int32 => some 32
  | .int64 => some 64
  | _ => none

/-- The integer that a value is, or the number of an enumeration. -/
def Value.integer? : Value → Option Int
  | .scalar value => value.toInt?
  | .enumeration number _ => some number.toInt
  | .message _ => none

end Ranges

section Bytes

/-- The bytes of a column give the integer to whoever reads them: after the key stands what reads as
that integer in the kind of the column, whatever comes next. -/
def Value.Carries (column : Column) (int : Int) (stored : Value) : Prop :=
  ∃ kind content, column.kind.elementKind = .scalar kind ∧
    stored.encodeAt column.number = Wire.writeKey ⟨column.number, kind.wireType⟩ ++ content ∧
    ∀ rest, ∃ read, kind.readValue (content ++ rest) = .ok (read, rest) ∧ read.toInt? = some int

theorem Value.carries_of_toInt? {column : Column} {int : Int} {scalar : Scalar}
    (hkind : column.kind.elementKind = .scalar scalar.kind) (hint : scalar.toInt? = some int) :
    (Value.scalar scalar).Carries column int := by
  refine ⟨scalar.kind, scalar.write, hkind, rfl, fun rest => ⟨scalar, ?_, hint⟩⟩
  apply scalar.readValue_write rest
  · rintro content rfl
    cases hint
  · rintro text rfl
    cases hint

/-- The text of an integer is its decimal form, and parses as such. -/
theorem toInt?_integerText (int : Int) : (integerText int).toInt? = some int := by
  have hrepr : integerText int = int.repr := by
    cases int with
    | ofNat value =>
      rw [integerText, Number.signed, if_neg (by simp), Int.repr]
      rfl
    | negSucc value =>
      rw [integerText, Number.signed, if_pos (Int.negSucc_lt_zero value), Int.repr]
      apply String.toList_injective
      simp [Nat.repr, Number.digits]
  rw [hrepr, Int.toInt?_repr]

end Bytes

section Storing

namespace Column

variable {column : Column} {value : Scalar} {int : Int} {bits : Nat}

theorem isNonFinite_of_toInt? (hint : value.toInt? = some int) : value.isNonFinite = false := by
  cases value with
  | double bits => cases hint
  | float bits => cases hint
  | _ => rfl

theorem narrow_of_inRange (wrap : Int → Scalar) (hint : value.toInt? = some int)
    (hrange : InRange bits int) : column.narrow bits wrap value = .ok (wrap int) := by
  rw [narrow, hint]
  exact if_pos (fitsSigned_iff_inRange.mpr hrange)

theorem narrow_of_not_inRange (wrap : Int → Scalar) (hint : value.toInt? = some int)
    (hrange : ¬ InRange bits int) :
    column.narrow bits wrap value = .error (column.outOfRange int) := by
  rw [narrow, hint]
  exact if_neg (mt fitsSigned_iff_inRange.mp hrange)

/-- What an integer is stored as in a column of integers, if it is. -/
theorem coerce_of_bits? (hint : value.toInt? = some int) (hbits : column.kind.bits? = some bits) :
    (InRange bits int → ∃ stored, column.coerce value = .ok stored ∧
        column.kind.elementKind = .scalar stored.kind ∧ stored.toInt? = some int) ∧
      (¬ InRange bits int → column.coerce value = .error (column.outOfRange int)) := by
  have hfinite : ¬ value.isNonFinite = true := by simp [isNonFinite_of_toInt? hint]
  rw [coerce, if_neg hfinite]
  cases hkind : column.kind with
  | int32 =>
    rw [hkind] at hbits
    cases hbits
    refine ⟨fun hrange => ⟨_, narrow_of_inRange _ hint hrange, rfl, ?_⟩,
      narrow_of_not_inRange _ hint⟩
    rw [Scalar.toInt?, Int32.toInt_ofInt_of_le hrange.1 hrange.2]
  | int64 =>
    rw [hkind] at hbits
    cases hbits
    refine ⟨fun hrange => ⟨_, narrow_of_inRange _ hint hrange, rfl, ?_⟩,
      narrow_of_not_inRange _ hint⟩
    rw [Scalar.toInt?, Int64.toInt_ofInt_of_le hrange.1 hrange.2]
  | _ =>
    rw [hkind] at hbits
    cases hbits

theorem coerce_of_string (hint : value.toInt? = some int) (hkind : column.kind = .string) :
    column.coerce value = .ok (.string (integerText int)) := by
  have hfinite : ¬ value.isNonFinite = true := by simp [isNonFinite_of_toInt? hint]
  rw [coerce, if_neg hfinite, hkind]
  cases value with
  | int32 word => cases hint; rfl
  | int64 word => cases hint; rfl
  | uint32 word => cases hint; rfl
  | uint64 word => cases hint; rfl
  | _ => cases hint

end Column

/-- How a column fares with an integer that is put into it. -/
structure KeepsExact (column : Column) (int : Int) (fate : Except ConversionError Value) :
    Prop where
  /-- What is in range is kept. -/
  keeps : ∀ bits, column.kind.bits? = some bits → InRange bits int →
    ∃ stored, fate = .ok stored ∧ stored.Carries column int
  /-- What is not is an invalid value. -/
  refuses : ∀ bits, column.kind.bits? = some bits → ¬ InRange bits int →
    ∃ error : ConversionError, error.kind = .invalidMessage ∧ fate = .error error

/-- A column of texts takes an integer as a text that parses as the integer. -/
def KeepsText (column : Column) (int : Int) (fate : Except ConversionError Value) : Prop :=
  column.kind = .string →
    ∃ text, fate = .ok (.scalar (.string text)) ∧ text.toInt? = some int

theorem keepsExact_coerce {column : Column} {value : Scalar} {int : Int}
    (hint : value.toInt? = some int) :
    KeepsExact column int ((column.coerce value).map .scalar) where
  keeps bits hbits hrange := by
    obtain ⟨stored, hstored, hkind, hsame⟩ := (Column.coerce_of_bits? hint hbits).1 hrange
    rw [hstored]
    exact ⟨_, rfl, Value.carries_of_toInt? hkind hsame⟩
  refuses bits hbits hrange := by
    rw [(Column.coerce_of_bits? hint hbits).2 hrange]
    exact ⟨column.outOfRange int, rfl, rfl⟩

theorem keepsText_coerce {column : Column} {value : Scalar} {int : Int}
    (hint : value.toInt? = some int) :
    KeepsText column int ((column.coerce value).map .scalar) := by
  intro hkind
  rw [Column.coerce_of_string hint hkind]
  exact ⟨_, rfl, toInt?_integerText int⟩

variable {projection : Projection}

theorem Value.keepsExact {partition : Bool} {column : Column} {value : Value} {int : Int}
    (hint : value.integer? = some int) :
    KeepsExact column int (value.project projection partition column) := by
  cases value with
  | scalar value =>
    rw [project]
    exact keepsExact_coerce hint
  | enumeration number name =>
    have hnumber : KeepsExact column int ((column.coerce (.int32 number)).map .scalar) :=
      keepsExact_coerce hint
    rw [project, Column.storeNumber]
    cases hkind : column.kind with
    | string =>
      constructor
      · intro bits hbits
        rw [hkind] at hbits
        cases hbits
      · intro bits hbits
        rw [hkind] at hbits
        cases hbits
    | _ => exact hnumber
  | message record => cases hint

end Storing

section Records

/-- In a column of integers stand the integers that came to it, and in one of texts their texts. -/
def KeepsIntegers : Storage := fun _ column value stored =>
  ∀ int, value.integer? = some int →
    (∀ bits, column.kind.bits? = some bits → InRange bits int ∧ stored.Carries column int) ∧
      ∀ scalar, value = .scalar scalar → column.kind = .string →
        ∃ text, stored = .scalar (.string text) ∧ text.toInt? = some int

theorem stores_within_keepsIntegers (projection : Projection) :
    projection.Stores.Within KeepsIntegers := by
  intro top column value stored _ hstored int hint
  rw [Projection.Stores] at hstored
  constructor
  · intro bits hbits
    have hexact : KeepsExact column int (value.project projection
        (top && projection.partitionKey == some column.name) column) :=
      Value.keepsExact hint
    by_cases hrange : InRange bits int
    · obtain ⟨kept, hkept, hcarries⟩ := hexact.keeps bits hbits hrange
      rw [hstored] at hkept
      cases hkept
      exact ⟨hrange, hcarries⟩
    · obtain ⟨error, -, herror⟩ := hexact.refuses bits hbits hrange
      rw [hstored] at herror
      cases herror
  · rintro scalar rfl hkind
    obtain ⟨text, htext, hparses⟩ := keepsText_coerce hint hkind
    rw [Value.project, htext] at hstored
    cases hstored
    exact ⟨text, rfl, hparses⟩

/-- How the integers of a record, and those of metadata, fare in the columns they come to. -/
structure ExactIntegers (projection : Projection) (target : RowType) (record : Message) :
    Prop where
  /-- An integer is kept if it is in the range of the column, and refused otherwise. -/
  values : ∀ top column value int, .put top column value ∈ record.deposits target →
    value.integer? = some int →
    KeepsExact column int
      (value.project projection (top && projection.partitionKey == some column.name) column)
  texts : ∀ top column scalar int, .put top column (.scalar scalar) ∈ record.deposits target →
    scalar.toInt? = some int →
    KeepsText column int ((Value.scalar scalar).project projection
      (top && projection.partitionKey == some column.name) column)
  metadata : ∀ (column : Column) name value,
    KeepsExact column value.toInt (column.storeMetadata name (.integer value)) ∧
      KeepsText column value.toInt (column.storeMetadata name (.integer value))
  /-- A record fails for an integer that is refused, unless it does for what comes before. -/
  fails : ∀ before top column value after int bits,
    record.deposits target = before ++ .put top column value :: after →
    value.integer? = some int → column.kind.bits? = some bits → ¬ InRange bits int →
    (∀ row, projection.row target record ≠ .ok row) ∧
      ((∀ earlier ∈ before, earlier.failure? projection = none) →
        ∃ error : ConversionError, error.kind = .invalidMessage ∧
          projection.row target record = .error error)
  /-- What is kept stands in the row. -/
  stores : ∀ row, projection.row target record = .ok row →
    Represents KeepsIntegers true target record.entries row

variable {projection : Projection} {target : RowType} {record : Message}

/-- A record fails for an integer that its column has no room for. -/
theorem row_of_not_inRange {before after : List Deposit} {top : Bool} {column : Column}
    {value : Value} {int : Int} {bits : Nat}
    (hdeposits : record.deposits target = before ++ .put top column value :: after)
    (hint : value.integer? = some int) (hbits : column.kind.bits? = some bits)
    (hrange : ¬ InRange bits int) :
    (∀ row, projection.row target record ≠ .ok row) ∧
      ((∀ earlier ∈ before, earlier.failure? projection = none) →
        ∃ error : ConversionError, error.kind = .invalidMessage ∧
          projection.row target record = .error error) := by
  have hexact : KeepsExact column int (value.project projection
      (top && projection.partitionKey == some column.name) column) :=
    Value.keepsExact hint
  obtain ⟨error, hkind, herror⟩ := hexact.refuses bits hbits hrange
  have hfailure : (Deposit.put top column value).failure? projection = some error :=
    failure?_eq_some_iff.mpr herror
  constructor
  · intro row hrow
    have hmem : .put top column value ∈ record.deposits target := by
      rw [hdeposits]
      exact List.mem_append_right before List.mem_cons_self
    have hnone := Projection.exists_row_iff.mp ⟨row, hrow⟩ _ hmem
    rw [hfailure] at hnone
    cases hnone
  · intro hbefore
    exact ⟨error, hkind, Projection.row_eq_error hdeposits hbefore hfailure⟩

/-- An integer comes into a column of integers as it is or not at all, and into one of texts as its
decimal form. -/
theorem Projection.integers_exact {schema : TableSchema}
    (htype : RowType.ofTable schema = .ok target) :
    ExactIntegers projection target record where
  values _ _ _ _ _ hint := Value.keepsExact hint
  texts _ _ _ _ _ hint := keepsText_coerce hint
  metadata _ _ _ := ⟨keepsExact_coerce rfl, keepsText_coerce rfl⟩
  fails _ _ _ _ _ _ _ hdeposits hint hbits hrange :=
    row_of_not_inRange hdeposits hint hbits hrange
  stores _ hrow := represents_of_row (stores_within_keepsIntegers projection) htype hrow

end Records

namespace Ledger

def table : TableSchema :=
  ⟨[{ name := "balance", type := 2, mode := 1 }, { name := "due", type := 8, mode := 1 },
    { name := "account", type := 1, mode := 1 }, { name := "steps", type := 2, mode := 3 },
    { name := "counts", type := 4, mode := 3, fields :=
        [{ name := "key", type := 2, mode := 1 }, { name := "value", type := 8, mode := 1 }] }]⟩

def countType : RowType :=
  ⟨"__ROOT__.Struct_counts", [⟨1, "key", .optional, .int64⟩, ⟨2, "value", .optional, .int32⟩]⟩

def type : RowType :=
  ⟨rootName, [⟨1, "balance", .optional, .int64⟩, ⟨2, "due", .optional, .int32⟩,
    ⟨3, "account", .optional, .string⟩, ⟨4, "steps", .repeated, .int64⟩,
    ⟨5, "counts", .repeated, .record countType⟩]⟩

/-- An entry of integers of all widths, some of them the least and the greatest there are. -/
def entry : Message :=
  ⟨"test.Entry",
    [⟨1, "balance", .single (.scalar (.int32 (-1)))⟩,
      ⟨2, "due", .single (.scalar (.int64 (-2147483648)))⟩,
      ⟨3, "account", .single (.scalar (.uint64 18446744073709551615))⟩,
      ⟨4, "steps", .list [.enumeration (-3) (some "BACK"), .scalar (.uint32 4294967295)]⟩,
      ⟨5, "counts", .map [⟨.uint64 9223372036854775807, .scalar (.uint32 2147483647)⟩]⟩], []⟩

def entryRow : Message :=
  ⟨rootName,
    [⟨1, "balance", .single (.scalar (.int64 (-1)))⟩,
      ⟨2, "due", .single (.scalar (.int32 (-2147483648)))⟩,
      ⟨3, "account", .single (.scalar (.string "18446744073709551615"))⟩,
      ⟨4, "steps", .list [.scalar (.int64 (-3)), .scalar (.int64 4294967295)]⟩,
      ⟨5, "counts", .list [.message ⟨countType.name,
        [⟨1, "key", .single (.scalar (.int64 9223372036854775807))⟩,
          ⟨2, "value", .single (.scalar (.int32 2147483647))⟩], []⟩]⟩], []⟩

def projection : Projection := .atTime none ⟨1700000000, 0⟩

theorem integers_exact_of_entry :
    RowType.ofTable table = .ok type ∧ projection.row type entry = .ok entryRow ∧
      ExactIntegers projection type entry := by
  have htype : RowType.ofTable table = .ok type := rfl
  exact ⟨htype, rfl, Projection.integers_exact htype⟩

end Ledger

end RowSink
