import RowSink.Number.DecimalText

/-!
# Instants

Microseconds since the start of 1970 as points of the proleptic Gregorian calendar in universal
time, and the windows of them that a timestamp column accepts.
-/

namespace RowSink

/-- A reading of a clock: the seconds since the start of 1970 and the nanoseconds past them. -/
structure Instant where
  seconds : Int
  nanos : Nat
  deriving DecidableEq

namespace Instant

def microsPerSecond : Int := 1000000

def microsPerDay : Int := 86400 * microsPerSecond

/-- The whole microseconds since the start of 1970. -/
def micros (instant : Instant) : Int :=
  instant.seconds * microsPerSecond + (instant.nanos / 1000 : Nat)

end Instant

/-- A day of the calendar. -/
structure CalendarDay where
  year : Int
  month : Nat
  day : Nat
  deriving DecidableEq

namespace CalendarDay

/-- The day a number of days after the start of 1970. Years are counted from the first of March, so
the leap day comes last, in cycles of four hundred. -/
def ofDays (days : Int) : CalendarDay :=
  let shifted := days + 719468
  let cycle := shifted / 146097
  let dayOfCycle := (shifted % 146097).toNat
  let yearOfCycle :=
    (dayOfCycle - dayOfCycle / 1460 + dayOfCycle / 36524 - dayOfCycle / 146096) / 365
  let dayOfYear := dayOfCycle - (365 * yearOfCycle + yearOfCycle / 4 - yearOfCycle / 100)
  let monthFromMarch := (5 * dayOfYear + 2) / 153
  let month := if monthFromMarch < 10 then monthFromMarch + 3 else monthFromMarch - 9
  { year := yearOfCycle + cycle * 400 + if month ≤ 2 then 1 else 0
    month
    day := dayOfYear - (153 * monthFromMarch + 2) / 5 + 1 }

end CalendarDay

section Text

/-- A number filled up with zeros on the left. -/
def padded (width value : Nat) : String :=
  let text := Number.digits value
  String.ofList (List.replicate (width - text.length) '0' ++ text)

/-- A year of up to four digits is written as it is, any other one with its sign. -/
def yearText (year : Int) : String :=
  if 0 ≤ year && year ≤ 9999 then padded 4 year.toNat
  else (if year < 0 then "-" else "+") ++ padded 4 year.natAbs

/-- The part of a second, in milliseconds if they are exact. -/
def fractionText (micros : Nat) : String :=
  if micros = 0 then ""
  else if micros % 1000 = 0 then "." ++ padded 3 (micros / 1000)
  else "." ++ padded 6 micros

/-- The years that have a date text. -/
def hasDateText (year : Int) : Bool :=
  -262143 ≤ year && year ≤ 262142

/-- The date, the time and the offset, or the bare number for a year too far off. -/
def microsText (micros : Int) : String :=
  let day := CalendarDay.ofDays (micros / Instant.microsPerDay)
  let within := (micros % Instant.microsPerDay).toNat
  let second := within / 1000000
  if hasDateText day.year then
    yearText day.year ++ "-" ++ padded 2 day.month ++ "-" ++ padded 2 day.day ++ "T" ++
      padded 2 (second / 3600) ++ ":" ++ padded 2 (second / 60 % 60) ++ ":" ++
      padded 2 (second % 60) ++ fractionText (within % 1000000) ++ "+00:00"
  else String.ofList (Number.signed micros) ++ "us"

end Text

/-- The instants a timestamp column accepts, in microseconds, bounds included. -/
structure TimestampWindow where
  earliest : Int
  latest : Int
  deriving DecidableEq

namespace TimestampWindow

/-- The years one to 9999. -/
def absolute : TimestampWindow := ⟨-62135596800000000, 253402300799999999⟩

def daysBack : Int := 1825

def daysAhead : Int := 365

/-- What the partition column accepts at a time: five years back and one ahead. -/
def partition (now : Instant) : TimestampWindow :=
  ⟨now.micros - daysBack * Instant.microsPerDay, now.micros + daysAhead * Instant.microsPerDay⟩

def contains (window : TimestampWindow) (micros : Int) : Bool :=
  window.earliest ≤ micros && micros ≤ window.latest

/-- Says that an instant is outside of a window. -/
def reason (window : TimestampWindow) (micros : Int) : String :=
  "timestamp " ++ microsText micros ++ " is outside of [" ++ microsText window.earliest ++ ", " ++
    microsText window.latest ++ "]"

theorem contains_iff (window : TimestampWindow) (micros : Int) :
    window.contains micros = true ↔ window.earliest ≤ micros ∧ micros ≤ window.latest := by
  simp [contains]

end TimestampWindow

example : microsText TimestampWindow.absolute.earliest = "0001-01-01T00:00:00+00:00" := by
  decide +kernel
example : microsText TimestampWindow.absolute.latest = "9999-12-31T23:59:59.999999+00:00" := by
  decide +kernel
example : microsText 951782400500000 = "2000-02-29T00:00:00.500+00:00" := by decide +kernel
example : microsText (-62167219200000001) = "-0001-12-31T23:59:59.999999+00:00" := by
  decide +kernel

end RowSink
