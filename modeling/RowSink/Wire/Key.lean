import RowSink.Wire.Varint

/-!
# Field keys

Before every field stands its number with the wire type in the three low bits. Numbers fit into
29 bits and start at one.
-/

namespace RowSink.Wire

structure Key where
  number : Nat
  wireType : WireType
  deriving DecidableEq, Repr

def writeKey (key : Key) : Bytes :=
  writeVarint (key.number * 8 + key.wireType.code)

def readKey (bytes : Bytes) : Read Key :=
  match readVarint bytes with
  | .error error => .error error
  | .ok (word, rest) =>
    if UInt32.size ≤ word then fail (.invalidKey word)
    else
      match WireType.ofCode? (word % 8) with
      | none => fail (.invalidWireType (word % 8))
      | some wireType =>
        if word / 8 = 0 then fail .invalidTag else .ok (⟨word / 8, wireType⟩, rest)

theorem readKey_writeKey (key : Key) (rest : Bytes)
    (hpositive : 0 < key.number) (hnumber : key.number < Nat.pow 2 29) :
    readKey (writeKey key ++ rest) = .ok (key, rest) := by
  have hcode := key.wireType.code_lt
  have hword : key.number * 8 + key.wireType.code < UInt32.size := by
    simp only [UInt32.size, Nat.pow_eq, Nat.reducePow] at hnumber ⊢
    omega
  have hmod : (key.number * 8 + key.wireType.code) % 8 = key.wireType.code := by omega
  have hdiv : (key.number * 8 + key.wireType.code) / 8 = key.number := by omega
  have hne : ¬ key.number = 0 := by omega
  rw [readKey, writeKey, readVarint_writeVarint _ _ (Nat.lt_trans hword (by decide))]
  simp only [if_neg (Nat.not_le.mpr hword), hmod, hdiv, if_neg hne, WireType.ofCode?_code]

/-- A length and as many bytes. -/
def readDelimited (bytes : Bytes) : Read Bytes :=
  match readVarint bytes with
  | .error error => .error error
  | .ok (length, rest) =>
    if rest.length < length then fail .underflow
    else .ok (rest.take length, rest.drop length)

def writeDelimited (content : Bytes) : Bytes :=
  writeVarint content.length ++ content

theorem readDelimited_writeDelimited (content rest : Bytes) (hlength : content.length < UInt64.size) :
    readDelimited (writeDelimited content ++ rest) = .ok (content, rest) := by
  rw [readDelimited, writeDelimited, List.append_assoc, readVarint_writeVarint _ _ hlength]
  have hroom : ¬ (content ++ rest).length < content.length := by simp
  simp only [hroom, if_false, List.take_left, List.drop_left]

/-- A little-endian word of the given number of bytes. -/
def readFixed (width : Nat) (bytes : Bytes) : Read Nat :=
  if bytes.length < width then fail .underflow
  else .ok (Bytes.ofLittleEndian (bytes.take width), bytes.drop width)

theorem readFixed_littleEndian (width value : Nat) (rest : Bytes) (hvalue : value < Nat.pow 256 width) :
    readFixed width (Bytes.littleEndian width value ++ rest) = .ok (value, rest) := by
  have hlength := Bytes.length_littleEndian width value
  rw [readFixed, if_neg (by simp [hlength])]
  rw [List.take_left' hlength, List.drop_left' hlength,
    Bytes.ofLittleEndian_littleEndian _ _ hvalue]

end RowSink.Wire
