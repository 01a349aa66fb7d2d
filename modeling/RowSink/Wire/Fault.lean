/-!
# Decoding faults

What can be wrong with encoded bytes. Inside the messages of the service protocol a fault carries
the fields that enclose it, the innermost first.
-/

namespace RowSink.Wire

inductive WireType where
  | varint
  | sixtyFourBit
  | lengthDelimited
  | startGroup
  | endGroup
  | thirtyTwoBit
  deriving DecidableEq, Repr

namespace WireType

def code : WireType → Nat
  | varint => 0
  | sixtyFourBit => 1
  | lengthDelimited => 2
  | startGroup => 3
  | endGroup => 4
  | thirtyTwoBit => 5

def ofCode? : Nat → Option WireType
  | 0 => some varint
  | 1 => some sixtyFourBit
  | 2 => some lengthDelimited
  | 3 => some startGroup
  | 4 => some endGroup
  | 5 => some thirtyTwoBit
  | _ => none

def name : WireType → String
  | varint => "Varint"
  | sixtyFourBit => "SixtyFourBit"
  | lengthDelimited => "LengthDelimited"
  | startGroup => "StartGroup"
  | endGroup => "EndGroup"
  | thirtyTwoBit => "ThirtyTwoBit"

theorem ofCode?_code (wireType : WireType) : ofCode? wireType.code = some wireType := by
  cases wireType <;> rfl

theorem code_lt (wireType : WireType) : wireType.code < 8 := by
  cases wireType <;> decide

end WireType

inductive Fault where
  | invalidVarint
  | invalidKey (key : Nat)
  | invalidWireType (code : Nat)
  | invalidTag
  | wrongWireType (actual expected : WireType)
  | underflow
  | lengthExceeded
  | unexpectedEndGroup
  | invalidText
  | recursionLimit
  deriving DecidableEq, Repr

def Fault.message : Fault → String
  | invalidVarint => "invalid varint"
  | invalidKey key => "invalid key value: " ++ toString key
  | invalidWireType code => "invalid wire type value: " ++ toString code
  | invalidTag => "invalid tag value: 0"
  | wrongWireType actual expected =>
    "invalid wire type: " ++ actual.name ++ " (expected " ++ expected.name ++ ")"
  | underflow => "buffer underflow"
  | lengthExceeded => "delimited length exceeded"
  | unexpectedEndGroup => "unexpected end group tag"
  | invalidText => "invalid string value: data is not UTF-8 encoded"
  | recursionLimit => "recursion limit reached"

structure DecodeError where
  fault : Fault
  /-- The enclosing messages and their fields, the innermost first. -/
  path : List (String × String) := []
  deriving DecidableEq, Repr

namespace DecodeError

/-- The path to the fault, from the innermost message, and the fault. -/
def description (error : DecodeError) : String :=
  String.join (error.path.map fun (message, field) => message ++ "." ++ field ++ ": ") ++
    error.fault.message

/-- Introduces the description of an error. -/
def heading : String := "failed to decode Protobuf message: "

def message (error : DecodeError) : String :=
  heading ++ error.description

/-- Notes that the fault lies inside a field of a message. -/
def within (message field : String) (error : DecodeError) : DecodeError :=
  { error with path := error.path ++ [(message, field)] }

end DecodeError

/-- The outcome of reading a value off the front of some bytes: the value and the bytes left. -/
abbrev Read (α : Type) := Except DecodeError (α × List UInt8)

def fail {α : Type} (fault : Fault) : Except DecodeError α :=
  .error { fault }

/-- Succeeds exactly when the wire types agree. -/
def expectWireType (expected actual : WireType) : Except DecodeError Unit :=
  if actual = expected then .ok () else fail (.wrongWireType actual expected)

end RowSink.Wire
