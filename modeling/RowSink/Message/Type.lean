import RowSink.Message.Scalar

/-!
# Message types

What a decoder has to know about messages: the number, the name and the kind of every field. Types
refer to each other by their full names within a pool, so a message may contain itself.
-/

namespace RowSink

/-- What one element of a field is. -/
inductive ElementKind where
  | scalar (kind : ScalarKind)
  | enumeration (name : String)
  | message (name : String)
  /-- A message between a start key and an end key. -/
  | group (name : String)
  deriving DecidableEq

inductive FieldShape where
  /-- At most one element. Without presence, one with the default value counts as absent. -/
  | single (presence : Bool)
  | repeated
  | map (key : ScalarKind)
  deriving DecidableEq

structure Field where
  number : Nat
  name : String
  kind : ElementKind
  shape : FieldShape
  /-- The group of fields of which a message holds at most one. -/
  oneof : Option String := none
  /-- Whether every message has the field, with the default value if nothing else was read. -/
  always : Bool := false
  deriving DecidableEq

structure MessageType where
  name : String
  fields : List Field
  /-- The name under which the message is mentioned in decoding errors, if it is. -/
  label : Option String := none
  /-- Whether fields that the type does not declare are kept or passed over. -/
  keepsUnknown : Bool := true
  /-- Whether the messages are the entries of a map: field one is the key, field two the value. -/
  isMapEntry : Bool := false
  deriving DecidableEq

/-- The named numbers of an enumeration; the first one is its default. -/
structure EnumType where
  name : String
  values : List (String × Int32)
  deriving DecidableEq

structure Pool where
  messages : List MessageType
  enums : List EnumType := []

namespace Field

/-- The name under which a field appears in decoding errors. -/
def traceName (field : Field) : String :=
  match field.oneof with
  | some group => group
  | none => if field.name = "type" then "r#type" else field.name

def isMap (field : Field) : Bool :=
  match field.shape with
  | .map _ => true
  | _ => false

end Field

namespace MessageType

def field? (type : MessageType) (number : Nat) : Option Field :=
  type.fields.find? (·.number == number)

/-- The numbers of the other members of a field's group. -/
def siblings (type : MessageType) (field : Field) : List Nat :=
  match field.oneof with
  | none => []
  | some group =>
    (type.fields.filter fun other => other.oneof == some group && other.number != field.number).map
      (·.number)

/-- Whether the type declares a field of that number. -/
def declares (type : MessageType) (number : Nat) : Bool :=
  (type.field? number).isSome

/-- The type of the entries of a map. -/
def entryOf (key : ScalarKind) (value : ElementKind) : MessageType :=
  { name := ""
    fields :=
      [{ number := 1, name := "key", kind := .scalar key, shape := .single true },
        { number := 2, name := "value", kind := value, shape := .single true }]
    isMapEntry := true }

/-- The kinds of the keys and of the values, if the messages are the entries of a map. -/
def entryKinds? (type : MessageType) : Option (ScalarKind × ElementKind) :=
  if type.isMapEntry then
    match (type.field? 1).map Field.kind, (type.field? 2).map Field.kind with
    | some (.scalar key), some value => some (key, value)
    | _, _ => none
  else none

end MessageType

namespace EnumType

def nameOf? (type : EnumType) (number : Int32) : Option String :=
  (type.values.find? (·.2 == number)).map (·.1)

def defaultNumber (type : EnumType) : Int32 :=
  match type.values with
  | [] => 0
  | (_, number) :: _ => number

end EnumType

namespace Pool

def message? (pool : Pool) (name : String) : Option MessageType :=
  pool.messages.find? (·.name == name)

/-- The type a name refers to. A name may start with a dot, which says that it is a full one. -/
def resolve? (pool : Pool) (name : String) : Option MessageType :=
  match name.toList with
  | '.' :: rest => pool.message? (String.ofList rest)
  | _ => pool.message? name

def enum? (pool : Pool) (name : String) : Option EnumType :=
  pool.enums.find? (·.name == name)

/-- The type of that name, without fields if the pool does not have it. -/
def messageType (pool : Pool) (name : String) : MessageType :=
  (pool.message? name).getD { name, fields := [] }

/-- The types of the messages that a field holds. -/
def elementTypes (pool : Pool) (field : Field) : List MessageType :=
  match field.shape, field.kind with
  | .map key, value => [.entryOf key value]
  | _, .message name | _, .group name => (pool.message? name).toList
  | _, _ => []

def enumName? (pool : Pool) (enum : String) (number : Int32) : Option String :=
  (pool.enum? enum).bind (·.nameOf? number)

def enumDefault (pool : Pool) (enum : String) : Int32 :=
  ((pool.enum? enum).map EnumType.defaultNumber).getD 0

/-- A repeated field of map entries is a map. -/
def withMap (pool : Pool) (field : Field) : Field :=
  match field.shape, field.kind with
  | .repeated, .message name | .repeated, .group name =>
    match (pool.message? name).bind MessageType.entryKinds? with
    | some (key, value) => { field with kind := value, shape := .map key }
    | none => field
  | _, _ => field

/-- The pool in which all repeated fields of map entries are maps. -/
def withMaps (pool : Pool) : Pool :=
  { pool with
    messages := pool.messages.map fun type => { type with fields := type.fields.map pool.withMap } }

end Pool

end RowSink
