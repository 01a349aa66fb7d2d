import RowSink.Message.Value

/-!
# Decoding of messages

Reading a message of a known type off its bytes. A field may come in several parts: a later scalar
replaces an earlier one, a later message is merged into it, elements of a repeated field are
collected, and a later entry of a map replaces one with the same key. Nesting is limited.
-/

namespace RowSink

open Wire

/-- Reads one field whose key has been read into a message under construction. -/
abbrev FieldReader := MessageType → Key → Message → Bytes → Read Message

/-- Reads one field together with its key. -/
def readKeyed (reader : FieldReader) (type : MessageType) (message : Message) (bytes : Bytes) :
    Read Message :=
  match readKey bytes with
  | .error error => .error error
  | .ok (key, rest) => reader type key message rest

/-- Reads a field that the type does not declare, to be kept. A group at depth zero is refused. -/
def readUnknown : Nat → Key → Bytes → Read UnknownValue
  | 0, key, bytes =>
    match key.wireType with
    | .varint => (readVarint bytes).map fun (word, rest) => (.varint word, rest)
    | .sixtyFourBit => (readFixed 8 bytes).map fun (word, rest) => (.fixed64 word, rest)
    | .lengthDelimited => (readDelimited bytes).map fun (content, rest) => (.region content, rest)
    | .thirtyTwoBit => (readFixed 4 bytes).map fun (word, rest) => (.fixed32 word, rest)
    | .startGroup => fail .recursionLimit
    | .endGroup => fail .unexpectedEndGroup
  | depth + 1, key, bytes =>
    match key.wireType with
    | .startGroup =>
      (readGroup
        (fun inner fields rest =>
          (readUnknown depth inner rest).map fun (value, left) =>
            (fields ++ [(⟨inner.number, value⟩ : UnknownField)], left))
        key.number [] bytes).map fun (fields, rest) => (.group fields, rest)
    | .varint => (readVarint bytes).map fun (word, rest) => (.varint word, rest)
    | .sixtyFourBit => (readFixed 8 bytes).map fun (word, rest) => (.fixed64 word, rest)
    | .lengthDelimited => (readDelimited bytes).map fun (content, rest) => (.region content, rest)
    | .thirtyTwoBit => (readFixed 4 bytes).map fun (word, rest) => (.fixed32 word, rest)
    | .endGroup => fail .unexpectedEndGroup

namespace ElementKind

/-- The wire type of one element. -/
def wireType : ElementKind → WireType
  | scalar kind => kind.wireType
  | enumeration _ => .varint
  | message _ => .lengthDelimited
  | group _ => .startGroup

def isPackable (kind : ElementKind) : Bool :=
  kind.wireType != .lengthDelimited && kind.wireType != .startGroup

/-- The element of a map entry that has none. -/
def default (pool : Pool) : ElementKind → Value
  | scalar kind => .scalar kind.default
  | enumeration name =>
    .enumeration (pool.enumDefault name) (pool.enumName? name (pool.enumDefault name))
  | message name => .message (.empty name)
  | group name => .message (.empty name)

end ElementKind

/-- Whether a field without presence counts as absent with this element. -/
def Value.isDefault (pool : Pool) (kind : ElementKind) : Value → Bool
  | .scalar value => value.isDefault
  | .enumeration number _ =>
    match kind with
    | .enumeration name => number == pool.enumDefault name
    | _ => number == 0
  | .message _ => false

/-- The element with which a field is there from the start. -/
def Field.initial? (pool : Pool) (field : Field) : Option Entry :=
  if field.always then some ⟨field.number, field.name, .single (field.kind.default pool)⟩ else none

/-- A message of a type of which nothing has been read. -/
def MessageType.blank (pool : Pool) (type : MessageType) : Message :=
  ⟨type.name, type.fields.filterMap (·.initial? pool), []⟩

/-- The message to merge into. -/
def baseMessage (pool : Pool) (type : MessageType) : Option Value → Message
  | some (.message message) => message
  | _ => type.blank pool

/-- Reads one element. `nested` reads the fields of messages within; there is none when nesting is
exhausted. -/
def readElement (pool : Pool) (nested : Option FieldReader) (kind : ElementKind) (key : Key)
    (current : Option Value) (bytes : Bytes) : Read Value :=
  match expectWireType kind.wireType key.wireType with
  | .error error => .error error
  | .ok () =>
    match kind with
    | .scalar scalar => (scalar.readValue bytes).map fun (value, rest) => (.scalar value, rest)
    | .enumeration name =>
      (readVarint bytes).map fun (word, rest) =>
        (.enumeration (Int32.ofNat word) (pool.enumName? name (Int32.ofNat word)), rest)
    | .message name =>
      match nested with
      | none => fail .recursionLimit
      | some reader =>
        let type := pool.messageType name
        (readRegion (readKeyed reader type) (baseMessage pool type current) bytes).map
          fun (message, rest) => (.message message, rest)
    | .group name =>
      match nested with
      | none => fail .recursionLimit
      | some reader =>
        let type := pool.messageType name
        (readGroup (reader type) key.number (baseMessage pool type current) bytes).map
          fun (message, rest) => (.message message, rest)

/-- Puts a pair among the pairs of a map, replacing one with the same key. -/
def insertPair (pair : Pair) : List Pair → List Pair
  | [] => [pair]
  | other :: rest => if other.key = pair.key then pair :: rest else other :: insertPair pair rest

/-- Reads one field of a map entry. Fields other than key and value are passed over. -/
def readPairField (pool : Pool) (depth : Nat) (nested : Option FieldReader) (keyKind : ScalarKind)
    (valueKind : ElementKind) (pair : Pair) (bytes : Bytes) : Read Pair :=
  match readKey bytes with
  | .error error => .error error
  | .ok (key, rest) =>
    if key.number = 1 then
      (keyKind.read key.wireType rest).map fun (value, left) => ({ pair with key := value }, left)
    else if key.number = 2 then
      (readElement pool nested valueKind key (some pair.value) rest).map fun (value, left) =>
        ({ pair with value := value }, left)
    else (skipField depth key rest).map fun (_, left) => (pair, left)

/-- The single element of a field, if it is populated with one. -/
def Content.single? : Content → Option Value
  | .single value => some value
  | _ => none

/-- The elements of a repeated field. -/
def Content.items : Content → List Value
  | .list items => items
  | _ => []

/-- The entries of a map field. -/
def Content.pairs : Content → List Pair
  | .map pairs => pairs
  | _ => []

/-- Sets a single field. A default value without presence clears it, and the other members of its
group are cleared in any case. -/
def Message.setSingle (pool : Pool) (type : MessageType) (field : Field) (presence : Bool)
    (value : Value) (message : Message) : Message :=
  let cleared := (type.siblings field).foldl Message.remove message
  if !presence && value.isDefault pool field.kind then cleared.remove field.number
  else cleared.put field.number field.name (.single value)

/-- Adds elements to a repeated field. -/
def Message.append (field : Field) (items : List Value) (message : Message) : Message :=
  match items with
  | [] => message
  | _ =>
    let known := ((message.content? field.number).map Content.items).getD []
    message.put field.number field.name (.list (known ++ items))

/-- Reads a declared field. The entry of a map is taken for a delimited region whatever its key
says. -/
def readDeclared (pool : Pool) (depth : Nat) (nested : Option FieldReader) (type : MessageType)
    (field : Field) (key : Key) (message : Message) (bytes : Bytes) : Read Message :=
  match field.shape with
  | .single presence =>
    let current := (message.content? field.number).bind Content.single?
    (readElement pool nested field.kind key current bytes).map fun (value, rest) =>
      (message.setSingle pool type field presence value, rest)
  | .repeated =>
    if field.kind.isPackable && key.wireType == .lengthDelimited then
      (readRegion
        (fun items rest =>
          (readElement pool nested field.kind ⟨key.number, field.kind.wireType⟩ none rest).map
            fun (value, left) => (items ++ [value], left))
        [] bytes).map fun (items, rest) => (message.append field items, rest)
    else
      (readElement pool nested field.kind key none bytes).map fun (value, rest) =>
        (message.append field [value], rest)
  | .map keyKind =>
    (readRegion (readPairField pool depth nested keyKind field.kind)
      ⟨keyKind.default, field.kind.default pool⟩ bytes).map fun (pair, rest) =>
        let known := ((message.content? field.number).map Content.pairs).getD []
        (message.put field.number field.name (.map (insertPair pair known)), rest)

/-- Reads a field of a message. -/
def readFieldWith (pool : Pool) (depth : Nat) (nested : Option FieldReader) : FieldReader :=
  fun type key message bytes =>
    match type.field? key.number with
    | some field =>
      let outcome := readDeclared pool depth nested type field key message bytes
      match type.label with
      | some label => outcome.mapError (·.within label field.traceName)
      | none => outcome
    | none =>
      if type.keepsUnknown then
        (readUnknown depth key bytes).map fun (value, rest) =>
          (message.addUnknown ⟨key.number, value⟩, rest)
      else (skipField depth key bytes).map fun (_, rest) => (message, rest)

/-- Reads a field of a message that may have the given number of further levels within. -/
def readField (pool : Pool) : Nat → FieldReader
  | 0 => readFieldWith pool 0 none
  | depth + 1 => readFieldWith pool (depth + 1) (some (readField pool depth))

/-- The number of levels of messages and groups within a message. -/
def nestingLimit : Nat := 100

/-- The message of a type that the bytes are the encoding of. -/
def decode (pool : Pool) (type : MessageType) (bytes : Bytes) : Except DecodeError Message :=
  readAll (readKeyed (readField pool nestingLimit) type) (type.blank pool) bytes

end RowSink
