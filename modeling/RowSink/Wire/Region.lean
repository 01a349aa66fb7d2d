import RowSink.Wire.Key

/-!
# Regions

A region is a stretch of bytes that holds a sequence of items: a length-delimited one ends where
its length says, a group where its end key stands. An item may read past the end of its region,
which only then shows as an error.
-/

namespace RowSink.Wire

/-- Reads items until at most `left` bytes remain, of which there must then be exactly `left`.
Every item takes at least one byte, so the number of bytes bounds the number of items. -/
def readItems {σ : Type} (item : σ → Bytes → Read σ) (left : Nat) : Nat → σ → Bytes → Read σ
  | 0, state, bytes => if bytes.length = left then .ok (state, bytes) else fail .lengthExceeded
  | bound + 1, state, bytes =>
    if bytes.length ≤ left then
      if bytes.length = left then .ok (state, bytes) else fail .lengthExceeded
    else
      match item state bytes with
      | .error error => .error error
      | .ok (next, rest) => readItems item left bound next rest

/-- A length and a region of that length. -/
def readRegion {σ : Type} (item : σ → Bytes → Read σ) (state : σ) (bytes : Bytes) : Read σ :=
  match readVarint bytes with
  | .error error => .error error
  | .ok (length, rest) =>
    if rest.length < length then fail .underflow
    else readItems item (rest.length - length) rest.length state rest

/-- Reads all bytes as items. -/
def readAll {σ : Type} (item : σ → Bytes → Read σ) (state : σ) (bytes : Bytes) :
    Except DecodeError σ :=
  match readItems item 0 bytes.length state bytes with
  | .error error => .error error
  | .ok (final, _) => .ok final

/-- Reads keyed items up to the end key of the group with the given number. -/
def readGroupItems {σ : Type} (item : Key → σ → Bytes → Read σ) (number : Nat) :
    Nat → σ → Bytes → Read σ
  | 0, _, _ => fail .invalidVarint
  | bound + 1, state, bytes =>
    match readKey bytes with
    | .error error => .error error
    | .ok (key, rest) =>
      if key.wireType = .endGroup then
        if key.number = number then .ok (state, rest) else fail .unexpectedEndGroup
      else
        match item key state rest with
        | .error error => .error error
        | .ok (next, rest) => readGroupItems item number bound next rest

/-- Reads a group whose start key has been read. An empty rest has no end key, so one item more
than there are bytes is never reached. -/
def readGroup {σ : Type} (item : Key → σ → Bytes → Read σ) (number : Nat) (state : σ)
    (bytes : Bytes) : Read σ :=
  readGroupItems item number (bytes.length + 1) state bytes

/-- Passes over a field whose key has been read. `depth` counts the groups that may still be
entered; a field at depth zero is refused. -/
def skipField : Nat → Key → Bytes → Read Unit
  | 0, _, _ => fail .recursionLimit
  | depth + 1, key, bytes =>
    match key.wireType with
    | .varint =>
      match readVarint bytes with
      | .error error => .error error
      | .ok (_, rest) => .ok ((), rest)
    | .thirtyTwoBit =>
      match readFixed 4 bytes with
      | .error error => .error error
      | .ok (_, rest) => .ok ((), rest)
    | .sixtyFourBit =>
      match readFixed 8 bytes with
      | .error error => .error error
      | .ok (_, rest) => .ok ((), rest)
    | .lengthDelimited =>
      match readDelimited bytes with
      | .error error => .error error
      | .ok (_, rest) => .ok ((), rest)
    | .startGroup => readGroup (fun inner _ rest => skipField depth inner rest) key.number () bytes
    | .endGroup => fail .unexpectedEndGroup

/-- Unfolds a region one item at a time. -/
theorem readItems_step {σ : Type} {item : σ → Bytes → Read σ} {left bound : Nat} {state next : σ}
    {bytes rest : Bytes} (hmore : left < bytes.length) (hitem : item state bytes = .ok (next, rest)) :
    readItems item left (bound + 1) state bytes = readItems item left bound next rest := by
  rw [readItems, if_neg (Nat.not_le.mpr hmore), hitem]

end RowSink.Wire
