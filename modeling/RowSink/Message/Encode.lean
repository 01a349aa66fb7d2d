import RowSink.Message.Value

/-!
# Encoding of messages

The wire form of a message: its fields in the order of their numbers, every populated one written
even with a default value, the elements of a repeated field one by one.
-/

namespace RowSink

open Wire

mutual

def Value.encodeAt (number : Nat) : Value → Bytes
  | .scalar value => writeKey ⟨number, value.kind.wireType⟩ ++ value.write
  | .enumeration value _ => writeKey ⟨number, .varint⟩ ++ (Scalar.int32 value).write
  | .message value => writeKey ⟨number, .lengthDelimited⟩ ++ writeDelimited value.encode

def encodeItems (number : Nat) : List Value → Bytes
  | [] => []
  | value :: rest => value.encodeAt number ++ encodeItems number rest

/-- A map entry is a message with the key as field one and the value as field two. -/
def encodePairs (number : Nat) : List Pair → Bytes
  | [] => []
  | ⟨key, value⟩ :: rest =>
    writeKey ⟨number, .lengthDelimited⟩ ++
        writeDelimited (writeKey ⟨1, key.kind.wireType⟩ ++ key.write ++ value.encodeAt 2) ++
      encodePairs number rest

def Content.encodeAt (number : Nat) : Content → Bytes
  | .single value => value.encodeAt number
  | .list items => encodeItems number items
  | .map pairs => encodePairs number pairs

def encodeEntries : List Entry → Bytes
  | [] => []
  | ⟨number, _, content⟩ :: rest => content.encodeAt number ++ encodeEntries rest

/-- The bytes of a message. Fields its type does not know are not written. -/
def Message.encode : Message → Bytes
  | ⟨_, entries, _⟩ => encodeEntries entries

end

end RowSink
