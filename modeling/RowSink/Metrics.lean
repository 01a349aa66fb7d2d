import RowSink.Failure
import RowSink.Number.DecimalText
import RowSink.Table.Schema

/-!
# Metrics

What is counted and timed on the way to a table, and the series that show it: counters of stream
operations, rows, bytes and failed records, and a histogram of the time an operation takes.
-/

namespace RowSink

inductive Operation where
  | createStream
  | append
  | closeStream
  deriving DecidableEq, Repr

namespace Operation

def all : List Operation := [createStream, append, closeStream]

def name : Operation → String
  | createStream => "create_stream"
  | append => "append"
  | closeStream => "close_stream"

end Operation

/-- Something that is added to the metrics of a table. -/
inductive Observation where
  /-- A finished operation and the milliseconds it took. -/
  | operation (kind : Operation) (elapsed : Nat)
  /-- Rows that go to the stream and the bytes in them. -/
  | submission (rows bytes : Nat)
  | failures (kind : ErrorKind) (count : Nat)
  deriving DecidableEq

namespace Observation

def rows : Observation → Nat
  | submission rows _ => rows
  | _ => 0

def bytes : Observation → Nat
  | submission _ bytes => bytes
  | _ => 0

/-- The time of an operation of that kind. -/
def elapsed? (wanted : Operation) : Observation → Option Nat
  | operation kind elapsed => if kind = wanted then some elapsed else none
  | _ => none

def failuresOf (wanted : ErrorKind) : Observation → Nat
  | failures kind count => if kind = wanted then count else 0
  | _ => 0

end Observation

namespace Metrics

/-- A family of series, as it is announced. -/
structure Family where
  name : String
  help : String
  type : String

def operations : Family :=
  ⟨"stream_operation", "Total number of stream operations by type", "counter"⟩

def operationTime : Family :=
  ⟨"stream_operation_time", "Time taken by a stream operation in milliseconds", "histogram"⟩

def appendBytes : Family :=
  ⟨"append_bytes", "Total number of serialized row bytes submitted to the write stream", "counter"⟩

def appendRows : Family :=
  ⟨"append_rows", "Total number of rows submitted to the write stream", "counter"⟩

def recordErrors : Family :=
  ⟨"record_errors", "Total number of records reported as failed, by error type", "counter"⟩

def families : List Family :=
  [operations, operationTime, appendBytes, appendRows, recordErrors]

/-- The name under which a family is published. -/
def Family.fullName (family : Family) : String :=
  "bqsink_" ++ family.name

/-- The lines that announce the families. -/
def announcement : List String :=
  families.flatMap (fun family =>
    ["# HELP " ++ family.fullName ++ " " ++ family.help ++ ".",
      "# TYPE " ++ family.fullName ++ " " ++ family.type]) ++ ["# EOF"]

section Totals

def total (amount : Observation → Nat) : List Observation → Nat
  | [] => 0
  | observation :: rest => amount observation + total amount rest

def rowsSubmitted (observations : List Observation) : Nat :=
  total Observation.rows observations

def bytesSubmitted (observations : List Observation) : Nat :=
  total Observation.bytes observations

def failuresOf (kind : ErrorKind) (observations : List Observation) : Nat :=
  total (Observation.failuresOf kind) observations

/-- The times of the operations of a kind, in the order in which they ended. -/
def timesOf (kind : Operation) (observations : List Observation) : List Nat :=
  observations.filterMap (Observation.elapsed? kind)

end Totals

section Times

open Number

/-- A time in milliseconds as it is observed: its seconds in double precision, times a thousand. -/
def observedTime (millis : Nat) : Nat :=
  let fraction := binary64.ofRatio (millis % 1000 * 1000000) 1000000000
  let seconds := binary64.add (binary64.ofRatio (millis / 1000) 1) fraction
  binary64.scale seconds 1000

/-- The sum of observed times, added one after the other in double precision. -/
def observedSum (times : List Nat) : Nat :=
  times.foldl (fun sum millis => binary64.add sum (observedTime millis)) 0

/-- The upper bounds of the buckets: the powers of two from one to 65536. -/
def bucketBounds : List Nat :=
  (List.range 17).map (Nat.pow 2)

/-- The number of times that do not exceed a bound. -/
def countUpTo (bound : Nat) (times : List Nat) : Nat :=
  (times.filter fun millis =>
    let (numerator, denominator) := binary64.toRatio (observedTime millis)
    numerator ≤ bound * denominator).length

end Times

section Series

/-- The labels of a series of a table, after those of its own. -/
def labels (table : TableName) (first : List (String × String)) (operation : Operation)
    (last : List (String × String)) : String :=
  let pairs :=
    first ++ [("project", table.project), ("dataset", table.dataset), ("table", table.table),
      ("operation", operation.name)] ++ last
  "\x7b" ++ ",".intercalate (pairs.map fun (name, value) => name ++ "=\"" ++ value ++ "\"") ++
    "\x7d"

/-- The value of a series: a count, or the bit pattern of a sum. -/
inductive Reading where
  | count (value : Nat)
  | sum (bits : Nat)
  deriving DecidableEq

namespace Reading

def isZero : Reading → Bool
  | count value => value == 0
  | sum bits => bits == 0

end Reading

def counter (family : Family) (table : TableName) (operation : Operation)
    (last : List (String × String)) (value : Nat) : String × Reading :=
  (family.fullName ++ "_total" ++ labels table [] operation last, .count value)

def histogram (table : TableName) (operation : Operation) (times : List Nat) :
    List (String × Reading) :=
  let name := operationTime.fullName
  let bucket := fun (bound : String) (count : Nat) =>
    (name ++ "_bucket" ++ labels table [("le", bound)] operation [], Reading.count count)
  bucketBounds.map (fun bound =>
      bucket (String.ofList (Number.digits bound) ++ ".0") (countUpTo bound times)) ++
    [bucket "+Inf" times.length,
      (name ++ "_sum" ++ labels table [] operation [], .sum (observedSum times)),
      (name ++ "_count" ++ labels table [] operation [], .count times.length)]

/-- Every series of a table after the observations. -/
def series (table : TableName) (observations : List Observation) : List (String × Reading) :=
  Operation.all.flatMap (fun kind =>
      let times := timesOf kind observations
      counter operations table kind [] times.length :: histogram table kind times) ++
    [counter appendBytes table .append [] (bytesSubmitted observations),
      counter appendRows table .append [] (rowsSubmitted observations)] ++
    ErrorKind.all.map fun kind =>
      counter recordErrors table .append [("error_type", kind.name)] (failuresOf kind observations)

/-- The series that the observations changed, in the order of their texts. -/
def changes (table : TableName) (observations : List Observation) : List (String × Reading) :=
  ((series table observations).filter fun (_, reading) => !reading.isZero).mergeSort
    fun left right => decide (left.1 ≤ right.1)

end Series

end Metrics

end RowSink
