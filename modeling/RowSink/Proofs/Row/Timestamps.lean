import RowSink.Proofs.Row.Representation

/-!
# Timestamps of a record

A timestamp goes to a column of 64-bit integers as its microseconds if these lie in the window of
the place it comes from, and fails the record if they do not. The windows lie in the calendar, which
is far within the 64 bits, so that nothing overflows that does not lie outside of its window anyway.
-/

namespace RowSink

section Windows

/-- Whether there is a date text for an instant: the years from -262143 to 262142 have one. -/
def InCalendar (micros : Int) : Prop :=
  -8334601228800000000 ≤ micros ∧ micros < 8210266876800000000
  deriving Decidable

example : CalendarDay.ofDays (-8334601228800000000 / Instant.microsPerDay) = ⟨-262143, 1, 1⟩ := by
  decide +kernel
example : CalendarDay.ofDays (8210266876800000000 / Instant.microsPerDay) = ⟨262143, 1, 1⟩ := by
  decide +kernel

/-- A reading of a clock for which there is a partition window. -/
structure Instant.Readable (now : Instant) : Prop where
  earliest : InCalendar (TimestampWindow.partition now).earliest
  latest : InCalendar (TimestampWindow.partition now).latest

/-- The window for what is put into a column. The whole content of a field of the record itself is
held to the window of the partition column if it goes there. -/
def windowOf (key : Option String) (now : Instant) (top : Bool) (column : Column) :
    TimestampWindow :=
  if top && key == some column.name then .partition now else .absolute

def nanosPerDay : Int := 86400 * 1000000000

/-- The nanoseconds from a reading of the clock to a timestamp. -/
def Instant.nanosUntil (now : Instant) (entries : List Entry) : Int :=
  ((timestampSeconds entries).toInt - now.seconds) * 1000000000 +
    ((timestampNanos entries).toInt - now.nanos)

variable {now : Instant} {key : Option String} {top : Bool} {column : Column}

theorem windowOf_partition (hkey : key = some column.name) :
    windowOf key now true column = .partition now := by
  rw [windowOf, hkey, Bool.true_and, beq_self_eq_true, if_pos rfl]

theorem windowOf_absolute (helsewhere : ¬ (top = true ∧ key = some column.name)) :
    windowOf key now top column = .absolute := by
  rw [windowOf, if_neg]
  rwa [Bool.and_eq_true, beq_iff_eq]

theorem absolute_contains_iff {micros : Int} :
    TimestampWindow.absolute.contains micros = true ↔
      -62135596800000000 ≤ micros ∧ micros ≤ 253402300799999999 :=
  TimestampWindow.contains_iff _ _

theorem fitsSigned_iff {value : Int} :
    fitsSigned 64 value = true ↔ -9223372036854775808 ≤ value ∧ value < 9223372036854775808 := by
  rw [fitsSigned, Bool.and_eq_true, decide_eq_true_iff, decide_eq_true_iff]
  exact Iff.rfl

theorem InCalendar.fitsSigned {micros : Int} (hmicros : InCalendar micros) :
    fitsSigned 64 micros = true := by
  obtain ⟨hleast, hmost⟩ := hmicros
  rw [fitsSigned_iff]
  omega

theorem InCalendar.toInt_ofInt {micros : Int} (hmicros : InCalendar micros) :
    (Int64.ofInt micros).toInt = micros := by
  obtain ⟨hleast, hmost⟩ := hmicros
  exact Int64.toInt_ofInt_of_le (by omega) (by omega)

theorem Instant.Readable.inCalendar (hnow : now.Readable) {micros : Int}
    (hcontains : (windowOf key now top column).contains micros = true) : InCalendar micros := by
  rw [windowOf, TimestampWindow.contains_iff] at hcontains
  split at hcontains
  · exact ⟨Int.le_trans hnow.earliest.1 hcontains.1, Int.lt_of_le_of_lt hcontains.2 hnow.latest.2⟩
  · simp only [TimestampWindow.absolute] at hcontains
    exact ⟨by omega, by omega⟩

/-- The seconds and the microseconds of what a window contains fit in 64 bits. -/
theorem Instant.Readable.timestampMicros_eq (hnow : now.Readable) {seconds : Int64} {nanos : Int32}
    (hcontains : (windowOf key now top column).contains
      (seconds.toInt * Instant.microsPerSecond + nanos.toInt.tdiv 1000) = true) :
    timestampMicros column seconds nanos =
      .ok (seconds.toInt * Instant.microsPerSecond + nanos.toInt.tdiv 1000) := by
  have hmicros := hnow.inCalendar hcontains
  have hbounds := hmicros
  rw [InCalendar] at hbounds
  have hleast := nanos.le_toInt
  have hmost := nanos.toInt_lt
  have hpart := Int.natAbs_tdiv_le_natAbs nanos.toInt 1000
  have hwhole : fitsSigned 64 (seconds.toInt * Instant.microsPerSecond) = true := by
    rw [fitsSigned_iff]
    omega
  rw [timestampMicros, hwhole, hmicros.fitsSigned]
  rfl

end Windows

section Storing

variable {now : Instant} {key : Option String} {top : Bool} {column : Column} {value : Value}
  {micros : Int}

theorem Column.coerce_int64 (hkind : column.kind = .int64)
    (hmicros : InCalendar micros) :
    column.coerce (.int64 (Int64.ofInt micros)) = .ok (.int64 (Int64.ofInt micros)) := by
  have hfinite : (Scalar.int64 (Int64.ofInt micros)).isNonFinite = false := rfl
  have hint : (Scalar.int64 (Int64.ofInt micros)).toInt? = some micros := by
    rw [Scalar.toInt?, hmicros.toInt_ofInt]
  rw [coerce, hfinite, hkind]
  dsimp only
  rw [narrow, hint]
  dsimp only
  rw [if_neg Bool.false_ne_true, if_pos hmicros.fitsSigned]

/-- A timestamp that its window contains is converted to its microseconds. -/
theorem Value.project_of_contains (hnow : now.Readable) (hkind : column.kind = .int64)
    (hmicros : value.instant? = some micros)
    (hcontains : (windowOf key now top column).contains micros = true) :
    value.project (.atTime key now) (top && key == some column.name) column =
      .ok (.scalar (.int64 (Int64.ofInt micros))) := by
  obtain ⟨entries, unknown, rfl, rfl⟩ := exists_of_instant? hmicros
  have hcoerced := Column.coerce_int64 hkind (hnow.inCalendar hcontains)
  rw [project_timestamp, Column.storeTimestamp, hnow.timestampMicros_eq hcontains]
  dsimp only
  rw [windowOf] at hcontains
  rw [TimestampWindow.check, Projection.atTime]
  dsimp only
  rw [if_pos hcontains]
  dsimp only
  rw [hcoerced]
  rfl

/-- A timestamp for anything but the partition column is converted if it is of the years 1 to 9999,
and only then. -/
theorem Value.exists_project_iff_elsewhere (hnow : now.Readable) (hkind : column.kind = .int64)
    (hmicros : value.instant? = some micros)
    (helsewhere : ¬ (top = true ∧ key = some column.name)) :
    (∃ stored, value.project (.atTime key now) (top && key == some column.name) column =
        .ok stored) ↔ -62135596800000000 ≤ micros ∧ micros ≤ 253402300799999999 := by
  rw [← absolute_contains_iff, ← windowOf_absolute helsewhere]
  constructor
  · rintro ⟨stored, hstored⟩
    exact (contains_of_project hstored hmicros).1
  · exact fun hcontains => ⟨_, project_of_contains hnow hkind hmicros hcontains⟩

/-- A timestamp that its window does not contain is an invalid value, be it that it overflows. -/
theorem Value.project_of_not_contains
    (hmicros : value.instant? = some micros)
    (hcontains : (windowOf key now top column).contains micros = false) :
    ∃ reason, value.project (.atTime key now) (top && key == some column.name) column =
      .error (column.invalidValue reason) := by
  obtain ⟨entries, unknown, rfl, rfl⟩ := exists_of_instant? hmicros
  rw [windowOf] at hcontains
  rw [project_timestamp, Column.storeTimestamp, timestampMicros]
  split
  · rename_i error herror
    split at herror
    · cases herror
    · cases herror
      exact ⟨_, rfl⟩
  · rename_i whole hwhole
    split at hwhole
    · cases hwhole
      rw [TimestampWindow.check, Projection.atTime]
      dsimp only
      rw [if_neg (Bool.eq_false_iff.mp hcontains)]
      exact ⟨_, rfl⟩
    · cases hwhole

theorem Value.instant?_timestamp (entries : List Entry) (unknown : List UnknownField) :
    (Value.message ⟨WellKnown.timestampName, entries, unknown⟩).instant? =
      some ((timestampSeconds entries).toInt * Instant.microsPerSecond +
        (timestampNanos entries).toInt.tdiv 1000) := by
  rw [instant?, if_pos rfl]

theorem Value.isRecord_of_instant? (hmicros : value.instant? = some micros) :
    value.isRecord = false := by
  obtain ⟨entries, unknown, rfl, -⟩ := exists_of_instant? hmicros
  rfl

/-- In a column of 64-bit integers stands what a timestamp is converted to. -/
def KeepsInstants (key : Option String) (now : Instant) : Storage := fun top column value stored =>
  ∀ micros, value.instant? = some micros → column.kind = .int64 →
    (windowOf key now top column).contains micros = true ∧
      stored = .scalar (.int64 (Int64.ofInt micros))

theorem stores_within_keepsInstants (hnow : now.Readable) :
    (Projection.atTime key now).Stores.Within (KeepsInstants key now) := by
  intro top column value stored _ hstored micros hmicros hkind
  obtain ⟨hcontains, -⟩ := Value.contains_of_project hstored hmicros
  refine ⟨hcontains, ?_⟩
  have hconverted := Value.project_of_contains hnow hkind hmicros hcontains
  exact Except.ok.inj (hstored.symm.trans hconverted)

end Storing

section Bounds

variable {now : Instant} {entries : List Entry}

/-- The bounds of the partition window and the timestamps it is asked for are both cut to whole
microseconds, downwards, so that nothing within the days is lost. -/
theorem contains_of_nanosUntil (hnanos : 0 ≤ (timestampNanos entries).toInt)
    (hback : -(TimestampWindow.daysBack * nanosPerDay) ≤ now.nanosUntil entries)
    (hahead : now.nanosUntil entries ≤ TimestampWindow.daysAhead * nanosPerDay) :
    (TimestampWindow.partition now).contains
      ((timestampSeconds entries).toInt * Instant.microsPerSecond +
        (timestampNanos entries).toInt.tdiv 1000) = true := by
  rw [TimestampWindow.contains_iff, Int.tdiv_eq_ediv_of_nonneg hnanos]
  simp only [TimestampWindow.partition, Instant.micros, Instant.microsPerSecond,
    Instant.microsPerDay, Instant.nanosUntil, nanosPerDay, TimestampWindow.daysBack,
    TimestampWindow.daysAhead] at hback hahead ⊢
  omega

theorem nanosUntil_of_contains (hnanos : 0 ≤ (timestampNanos entries).toInt)
    (hcontains : (TimestampWindow.partition now).contains
      ((timestampSeconds entries).toInt * Instant.microsPerSecond +
        (timestampNanos entries).toInt.tdiv 1000) = true) :
    -(TimestampWindow.daysBack * nanosPerDay) - 1000 < now.nanosUntil entries ∧
      now.nanosUntil entries < TimestampWindow.daysAhead * nanosPerDay + 1000 := by
  rw [TimestampWindow.contains_iff, Int.tdiv_eq_ediv_of_nonneg hnanos] at hcontains
  simp only [TimestampWindow.partition, Instant.micros, Instant.microsPerSecond,
    Instant.microsPerDay, Instant.nanosUntil, nanosPerDay, TimestampWindow.daysBack,
    TimestampWindow.daysAhead] at hcontains ⊢
  omega

end Bounds

section Records

/-- How the timestamps of a record fare in columns of 64-bit integers. -/
structure ExactInstants (key : Option String) (now : Instant) (target : RowType)
    (record : Message) : Prop where
  /-- Those in their window are converted to their microseconds. -/
  converts : ∀ top (column : Column) (value : Value) micros, column.kind = .int64 →
    value.instant? = some micros →
    (windowOf key now top column).contains micros = true →
    value.project (.atTime key now) (top && key == some column.name) column =
        .ok (.scalar (.int64 (Int64.ofInt micros))) ∧ (Int64.ofInt micros).toInt = micros
  /-- Anywhere but in the partition column the window is that of the years 1 to 9999. -/
  elsewhere : ∀ top (column : Column) (value : Value) micros, column.kind = .int64 →
    value.instant? = some micros → ¬ (top = true ∧ key = some column.name) →
    ((∃ stored, value.project (.atTime key now) (top && key == some column.name) column =
        .ok stored) ↔ -62135596800000000 ≤ micros ∧ micros ≤ 253402300799999999)
  /-- Any other one fails the record as an invalid value, unless what comes before does. -/
  refuses : ∀ before top column value after micros,
    record.deposits target = before ++ .put top column value :: after →
    column.kind = .int64 → value.instant? = some micros →
    (windowOf key now top column).contains micros = false →
    (∀ row, (Projection.atTime key now).row target record ≠ .ok row) ∧
      ∃ error : ConversionError, error.kind = .invalidMessage ∧
        value.project (.atTime key now) (top && key == some column.name) column = .error error ∧
        ((∀ earlier ∈ before, earlier.failure? (.atTime key now) = none) →
          (Projection.atTime key now).row target record = .error error)
  /-- The window of the partition column is for the fields of the record itself, and not for lists,
  maps and the records within. -/
  top_iff : ∀ column value micros, value.instant? = some micros →
    (.put true column value ∈ record.deposits target ↔
      ∃ entry ∈ record.entries, entry.content = .single value ∧
        target.column? (Text.lowerCase entry.name) = some column ∧ column.isRepeated = false)
  /-- The row has what they are converted to. -/
  stores : ∀ row, (Projection.atTime key now).row target record = .ok row →
    Represents (KeepsInstants key now) true target record.entries row
  /-- The partition column accepts all of five years back and one ahead. -/
  accepts : ∀ column entries unknown, column.kind = .int64 → key = some column.name →
    0 ≤ (timestampNanos entries).toInt →
    -(TimestampWindow.daysBack * nanosPerDay) ≤ now.nanosUntil entries →
    now.nanosUntil entries ≤ TimestampWindow.daysAhead * nanosPerDay →
    ∃ stored, (Value.message ⟨WellKnown.timestampName, entries, unknown⟩).project
      (.atTime key now) true column = .ok stored
  /-- What it accepts is less than a microsecond off. -/
  within : ∀ column entries unknown stored, key = some column.name →
    0 ≤ (timestampNanos entries).toInt →
    (Value.message ⟨WellKnown.timestampName, entries, unknown⟩).project
      (.atTime key now) true column = .ok stored →
    -(TimestampWindow.daysBack * nanosPerDay) - 1000 < now.nanosUntil entries ∧
      now.nanosUntil entries < TimestampWindow.daysAhead * nanosPerDay + 1000

variable {key : Option String} {now : Instant} {target : RowType} {record : Message}

/-- A record fails for a timestamp out of its window. -/
theorem row_of_not_contains {before after : List Deposit} {top : Bool} {column : Column}
    {value : Value} {micros : Int}
    (hdeposits : record.deposits target = before ++ .put top column value :: after)
    (hmicros : value.instant? = some micros)
    (hcontains : (windowOf key now top column).contains micros = false) :
    (∀ row, (Projection.atTime key now).row target record ≠ .ok row) ∧
      ∃ error : ConversionError, error.kind = .invalidMessage ∧
        value.project (.atTime key now) (top && key == some column.name) column = .error error ∧
        ((∀ earlier ∈ before, earlier.failure? (.atTime key now) = none) →
          (Projection.atTime key now).row target record = .error error) := by
  obtain ⟨reason, herror⟩ := Value.project_of_not_contains hmicros hcontains
  have hfailure : (Deposit.put top column value).failure? (.atTime key now) =
      some (column.invalidValue reason) :=
    failure?_eq_some_iff.mpr herror
  refine ⟨fun row hrow => ?_, column.invalidValue reason, rfl, herror, fun hbefore =>
    Projection.row_eq_error hdeposits hbefore hfailure⟩
  have hmem : .put top column value ∈ record.deposits target := by
    rw [hdeposits]
    exact List.mem_append_right before List.mem_cons_self
  have hnone := Projection.exists_row_iff.mp ⟨row, hrow⟩ _ hmem
  rw [hfailure] at hnone
  cases hnone

/-- A timestamp is converted to its microseconds if they lie in its window, and fails the record if
they do not. -/
theorem Projection.timestamps_exact {schema : TableSchema}
    (htype : RowType.ofTable schema = .ok target) (hnow : now.Readable) :
    ExactInstants key now target record where
  converts top column value micros hkind hmicros hcontains :=
    ⟨Value.project_of_contains hnow hkind hmicros hcontains,
      (hnow.inCalendar hcontains).toInt_ofInt⟩
  elsewhere top column value micros hkind hmicros :=
    Value.exists_project_iff_elsewhere hnow hkind hmicros
  refuses before top column value after micros hdeposits _ hmicros hcontains :=
    row_of_not_contains hdeposits hmicros hcontains
  top_iff column value micros hmicros :=
    Message.put_top_mem_iff (Value.isRecord_of_instant? hmicros)
  stores row hrow := represents_of_row (stores_within_keepsInstants hnow) htype hrow
  accepts column entries unknown hkind hkey hnanos hback hahead := by
    have hcontains := contains_of_nanosUntil hnanos hback hahead
    rw [← windowOf_partition hkey] at hcontains
    have hconverted := Value.project_of_contains hnow hkind
      (Value.instant?_timestamp entries unknown) hcontains
    rw [hkey, Bool.true_and, beq_self_eq_true] at hconverted
    exact ⟨_, hkey ▸ hconverted⟩
  within column entries unknown stored hkey hnanos hstored := by
    obtain ⟨hcontains, -⟩ :=
      Value.contains_of_project hstored (Value.instant?_timestamp entries unknown)
    exact nanosUntil_of_contains hnanos hcontains

end Records

namespace Visits

def table : TableSchema :=
  ⟨[{ name := "at", type := 7, mode := 1 }, { name := "seen", type := 7, mode := 3 },
    { name := "stay", type := 4, mode := 1, fields := [{ name := "at", type := 7, mode := 1 }] },
    { name := "marks", type := 4, mode := 3, fields :=
        [{ name := "key", type := 1, mode := 1 }, { name := "value", type := 7, mode := 1 }] }]⟩

def stayType : RowType := ⟨"__ROOT__.Struct_stay", [⟨1, "at", .optional, .int64⟩]⟩

def markType : RowType :=
  ⟨"__ROOT__.Struct_marks", [⟨1, "key", .optional, .string⟩, ⟨2, "value", .optional, .int64⟩]⟩

def type : RowType :=
  ⟨rootName, [⟨1, "at", .optional, .int64⟩, ⟨2, "seen", .repeated, .int64⟩,
    ⟨3, "stay", .optional, .record stayType⟩, ⟨4, "marks", .repeated, .record markType⟩]⟩

def time (seconds : Int64) (nanos : Int32) : Value :=
  .message ⟨WellKnown.timestampName,
    [⟨1, "seconds", .single (.scalar (.int64 seconds))⟩,
      ⟨2, "nanos", .single (.scalar (.int32 nanos))⟩], []⟩

/-- A visit of late, with times of long ago and far ahead in it. -/
def visit : Message :=
  ⟨"test.Visit",
    [⟨1, "At", .single (time 1699999999 999999999)⟩, ⟨2, "seen", .list [time (-62135596800) 0]⟩,
      ⟨3, "stay", .single (.message ⟨"test.Stay", [⟨1, "at", .single (time 32503680000 1)⟩], []⟩)⟩,
      ⟨4, "marks", .map [⟨.string "m", time (-1) (-1999)⟩]⟩], []⟩

def micros (value : Int64) : Content := .single (.scalar (.int64 value))

def visitRow : Message :=
  ⟨rootName,
    [⟨1, "at", micros 1699999999999999⟩,
      ⟨2, "seen", .list [.scalar (.int64 (-62135596800000000))]⟩,
      ⟨3, "stay", .single (.message ⟨stayType.name, [⟨1, "at", micros 32503680000000000⟩], []⟩)⟩,
      ⟨4, "marks", .list [.message ⟨markType.name,
        [⟨1, "key", .single (.scalar (.string "m"))⟩, ⟨2, "value", micros (-1000001)⟩], []⟩]⟩], []⟩

def now : Instant := ⟨1700000000, 500⟩

theorem timestamps_exact_of_visit :
    RowType.ofTable table = .ok type ∧ now.Readable ∧
      (Projection.atTime (some "at") now).row type visit = .ok visitRow ∧
      ExactInstants (some "at") now type visit := by
  have htype : RowType.ofTable table = .ok type := rfl
  have hnow : now.Readable := ⟨by decide, by decide⟩
  exact ⟨htype, hnow, rfl, Projection.timestamps_exact htype hnow⟩

end Visits

end RowSink
