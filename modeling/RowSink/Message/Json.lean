import RowSink.Message.Decode
import RowSink.Message.WellKnown
import RowSink.Text.Blank

/-!
# Structured values as JSON

The compact JSON text of a free-form structure: its keys in the order of their bytes, numbers as
doubles, and no value for a member without one. Only finite numbers have a JSON form.

Before it is written, a structure is checked for its depth, each entry of a map counting as a level
beside the value in it.
-/

namespace RowSink

open Wire

section Depth

/-- Refuses undeclared fields whose groups are nested deeper than allowed. -/
def checkUnknown : Nat → List UnknownField → Except DecodeError Unit
  | _, [] => .ok ()
  | 0, _ :: _ => fail .recursionLimit
  | depth + 1, ⟨_, value⟩ :: rest =>
    match value with
    | .group fields =>
      match checkUnknown depth fields with
      | .error error => .error error
      | .ok () => checkUnknown (depth + 1) rest
    | _ => checkUnknown (depth + 1) rest

/-- The short name of a type in decoding errors. -/
def shortTypeName (name : String) : String :=
  String.ofList ((Text.splitChars '.' name.toList).getLastD [])

mutual

/-- Refuses a message that may have `depth` further levels and has more. -/
def Message.checkDepth (depth : Nat) : Message → Except DecodeError Unit
  | ⟨typeName, entries, unknown⟩ =>
    match checkEntriesDepth depth (shortTypeName typeName) entries with
    | .error error => .error error
    | .ok () => checkUnknown depth unknown

def checkEntriesDepth (depth : Nat) (label : String) : List Entry → Except DecodeError Unit
  | [] => .ok ()
  | ⟨_, name, content⟩ :: rest =>
    let field := if label = "Value" then "kind" else name
    match (content.checkDepth depth).mapError (·.within label field) with
    | .error error => .error error
    | .ok () => checkEntriesDepth depth label rest

def Content.checkDepth (depth : Nat) : Content → Except DecodeError Unit
  | .single value => value.checkDepth depth
  | .list items => checkItemsDepth depth items
  | .map pairs =>
    match depth with
    | 0 => if pairs.isEmpty then .ok () else fail .recursionLimit
    | inner + 1 => checkPairsDepth inner pairs

def checkItemsDepth (depth : Nat) : List Value → Except DecodeError Unit
  | [] => .ok ()
  | value :: rest =>
    match value.checkDepth depth with
    | .error error => .error error
    | .ok () => checkItemsDepth depth rest

def checkPairsDepth (depth : Nat) : List Pair → Except DecodeError Unit
  | [] => .ok ()
  | ⟨_, value⟩ :: rest =>
    match value.checkDepth depth with
    | .error error => .error error
    | .ok () => checkPairsDepth depth rest

def Value.checkDepth (depth : Nat) : Value → Except DecodeError Unit
  | .message message =>
    match depth with
    | 0 => fail .recursionLimit
    | inner + 1 => message.checkDepth inner
  | _ => .ok ()

end

end Depth

section Text

def jsonChar (char : Char) : List Char :=
  match char with
  | '"' => ['\\', '"']
  | '\\' => ['\\', '\\']
  | '\n' => ['\\', 'n']
  | '\r' => ['\\', 'r']
  | '\t' => ['\\', 't']
  | '\x08' => ['\\', 'b']
  | '\x0c' => ['\\', 'f']
  | other =>
    if other.toNat < 0x20 then ['\\', 'u', '0', '0'] ++ Text.hexByte (UInt8.ofNat other.toNat)
    else [other]

def jsonString (text : String) : String :=
  String.ofList ('"' :: text.toList.flatMap jsonChar ++ ['"'])

/-- Puts a member among members in ascending order of their keys. -/
def insertMember (key text : String) : List (String × String) → List (String × String)
  | [] => [(key, text)]
  | (other, known) :: rest =>
    if key < other then (key, text) :: (other, known) :: rest
    else (other, known) :: insertMember key text rest

def jsonObject (members : List (String × String)) : String :=
  let sorted := members.foldr (fun (key, text) known => insertMember key text known) []
  "\x7b" ++ ",".intercalate (sorted.map fun (key, text) => jsonString key ++ ":" ++ text) ++ "\x7d"

/-- Says that a number has no JSON form. -/
def nonFiniteReason : String :=
  "cannot serialize non-finite double in google.protobuf.Value"

def jsonNumber (bits : UInt64) : Except String String :=
  if Number.binary64.isFinite bits.toNat then
    .ok (Number.textOfBits Number.binary64 Number.jsonStyle bits.toNat)
  else .error nonFiniteReason

mutual

/-- The JSON text of a structure, a list or a value. -/
def Message.json : Message → Except String String
  | ⟨typeName, entries, _⟩ =>
    if typeName = WellKnown.structName then (membersJson entries).map jsonObject
    else if typeName = WellKnown.listValueName then
      (elementsJson entries).map fun items => "[" ++ ",".intercalate items ++ "]"
    else kindJson entries

/-- The members of a structure. -/
def membersJson : List Entry → Except String (List (String × String))
  | [] => .ok []
  | ⟨_, _, content⟩ :: rest => do
    let members ← content.membersJson
    let others ← membersJson rest
    return members ++ others

def Content.membersJson : Content → Except String (List (String × String))
  | .map pairs => pairsJson pairs
  | _ => .ok []

def pairsJson : List Pair → Except String (List (String × String))
  | [] => .ok []
  | ⟨key, value⟩ :: rest => do
    let text ← value.json
    let others ← pairsJson rest
    match key with
    | .string name => return (name, text) :: others
    | _ => return others

/-- The elements of a list. -/
def elementsJson : List Entry → Except String (List String)
  | [] => .ok []
  | ⟨_, _, content⟩ :: rest => do
    let items ← content.elementsJson
    let others ← elementsJson rest
    return items ++ others

def Content.elementsJson : Content → Except String (List String)
  | .list items => itemsJson items
  | _ => .ok []

def itemsJson : List Value → Except String (List String)
  | [] => .ok []
  | value :: rest => do
    let text ← value.json
    let others ← itemsJson rest
    return text :: others

/-- A value has at most one kind; one without is null. -/
def kindJson : List Entry → Except String String
  | [] => .ok "null"
  | ⟨_, _, content⟩ :: _ => content.kindJson

def Content.kindJson : Content → Except String String
  | .single value => value.json
  | _ => .ok "null"

def Value.json : Value → Except String String
  | .scalar (.double bits) => jsonNumber bits
  | .scalar (.string text) => .ok (jsonString text)
  | .scalar (.bool value) => .ok (if value then "true" else "false")
  | .message message => message.json
  | _ => .ok "null"

end

/-- The JSON text of a structure that is not nested too deeply. -/
def Message.toJson (message : Message) : Except String String :=
  match message.checkDepth nestingLimit with
  | .error error => .error ("error decoding: " ++ error.message)
  | .ok () => message.json

end Text

end RowSink
