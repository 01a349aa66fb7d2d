import RowSink.Bytes
import RowSink.Number.DecimalText
import RowSink.Text.Quoted

/-!
# Status codes

The canonical codes with which a remote call ends, their numbers and their two spellings, and the
status that a call ends with.
-/

namespace RowSink

inductive StatusCode where
  | ok
  | cancelled
  | unknown
  | invalidArgument
  | deadlineExceeded
  | notFound
  | alreadyExists
  | permissionDenied
  | resourceExhausted
  | failedPrecondition
  | aborted
  | outOfRange
  | unimplemented
  | internal
  | unavailable
  | dataLoss
  | unauthenticated
  deriving DecidableEq, Repr

namespace StatusCode

/-- The codes in the order of their numbers. -/
def all : List StatusCode :=
  [ok, cancelled, unknown, invalidArgument, deadlineExceeded, notFound, alreadyExists,
    permissionDenied, resourceExhausted, failedPrecondition, aborted, outOfRange, unimplemented,
    internal, unavailable, dataLoss, unauthenticated]

def number : StatusCode → Nat
  | ok => 0
  | cancelled => 1
  | unknown => 2
  | invalidArgument => 3
  | deadlineExceeded => 4
  | notFound => 5
  | alreadyExists => 6
  | permissionDenied => 7
  | resourceExhausted => 8
  | failedPrecondition => 9
  | aborted => 10
  | outOfRange => 11
  | unimplemented => 12
  | internal => 13
  | unavailable => 14
  | dataLoss => 15
  | unauthenticated => 16

/-- The code of a number. A number outside of the table stands for an unknown error. -/
def ofInt (value : Int) : StatusCode :=
  (all.find? (fun code => (code.number : Int) == value)).getD unknown

/-- The name used in messages. -/
def name : StatusCode → String
  | ok => "Ok"
  | cancelled => "Cancelled"
  | unknown => "Unknown"
  | invalidArgument => "InvalidArgument"
  | deadlineExceeded => "DeadlineExceeded"
  | notFound => "NotFound"
  | alreadyExists => "AlreadyExists"
  | permissionDenied => "PermissionDenied"
  | resourceExhausted => "ResourceExhausted"
  | failedPrecondition => "FailedPrecondition"
  | aborted => "Aborted"
  | outOfRange => "OutOfRange"
  | unimplemented => "Unimplemented"
  | internal => "Internal"
  | unavailable => "Unavailable"
  | dataLoss => "DataLoss"
  | unauthenticated => "Unauthenticated"

/-- The canonical name used in settings. -/
def canonicalName : StatusCode → String
  | ok => "OK"
  | cancelled => "CANCELLED"
  | unknown => "UNKNOWN"
  | invalidArgument => "INVALID_ARGUMENT"
  | deadlineExceeded => "DEADLINE_EXCEEDED"
  | notFound => "NOT_FOUND"
  | alreadyExists => "ALREADY_EXISTS"
  | permissionDenied => "PERMISSION_DENIED"
  | resourceExhausted => "RESOURCE_EXHAUSTED"
  | failedPrecondition => "FAILED_PRECONDITION"
  | aborted => "ABORTED"
  | outOfRange => "OUT_OF_RANGE"
  | unimplemented => "UNIMPLEMENTED"
  | internal => "INTERNAL"
  | unavailable => "UNAVAILABLE"
  | dataLoss => "DATA_LOSS"
  | unauthenticated => "UNAUTHENTICATED"

/-- The failure code with a canonical name. Success is not a failure code. -/
def ofCanonicalName? (text : String) : Option StatusCode :=
  all.tail.find? (·.canonicalName == text)

end StatusCode

/-- How a remote call ended. -/
structure Status where
  code : StatusCode
  message : String
  details : Bytes := []
  /-- The headers that came with it, in their order. -/
  metadata : List (String × Bytes) := []
  deriving DecidableEq

namespace Status

def displayDetails (details : Bytes) : String :=
  "[" ++ ", ".intercalate (details.map fun byte => String.ofList (Number.digits byte.toNat)) ++ "]"

def displayMetadata (metadata : List (String × Bytes)) : String :=
  let headers := metadata.map fun (name, value) => Text.quote name ++ ": " ++ Text.quoteHeader value
  "MetadataMap \x7b headers: \x7b" ++ ", ".intercalate headers ++ "\x7d \x7d"

/-- The status as it is told in messages. -/
def display (status : Status) : String :=
  "status: " ++ status.code.name ++ ", message: " ++ Text.quote status.message ++
    ", details: " ++ displayDetails status.details ++
    ", metadata: " ++ displayMetadata status.metadata

end Status

end RowSink
