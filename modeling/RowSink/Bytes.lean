/-!
# Byte strings

Byte strings as lists, the bytes of a text, fixed-width little-endian words, and the order of byte
strings.
-/

namespace RowSink

abbrev Bytes := List UInt8

namespace Bytes

/-- The UTF-8 form of a text. -/
def ofText (text : String) : Bytes :=
  text.toUTF8.data.toList

/-- The text of which the bytes are the UTF-8 form. -/
def toText? (bytes : Bytes) : Option String :=
  String.fromUTF8? ⟨bytes.toArray⟩

theorem toText?_ofText (text : String) : toText? (ofText text) = some text := by
  have hvalid : (ByteArray.mk (ofText text).toArray) = text.toByteArray := by
    simp [ofText, String.toUTF8]
  unfold toText? String.fromUTF8?
  rw [hvalid]
  split
  · rfl
  · rename_i hinvalid
    exact absurd (ByteArray.validateUTF8_eq_true_iff.mpr text.isValidUTF8) (by simpa using hinvalid)

/-- The `width` low bytes of a number, the lowest first. -/
def littleEndian : Nat → Nat → Bytes
  | 0, _ => []
  | width + 1, value => UInt8.ofNat value :: littleEndian width (value / 256)

/-- The number of which the bytes are the little-endian digits. -/
def ofLittleEndian : Bytes → Nat
  | [] => 0
  | byte :: rest => byte.toNat + 256 * ofLittleEndian rest

theorem length_littleEndian (width value : Nat) : (littleEndian width value).length = width := by
  induction width generalizing value with
  | zero => rfl
  | succ width ih => simp [littleEndian, ih]

theorem ofLittleEndian_littleEndian (width value : Nat) (hvalue : value < Nat.pow 256 width) :
    ofLittleEndian (littleEndian width value) = value := by
  induction width generalizing value with
  | zero =>
    have : value = 0 := by simpa using hvalue
    simp [littleEndian, ofLittleEndian, this]
  | succ width ih =>
    have hsmall : value / 256 < Nat.pow 256 width := by
      rw [Nat.div_lt_iff_lt_mul (by omega)]
      exact hvalue
    simp only [littleEndian, ofLittleEndian, ih _ hsmall, UInt8.toNat_ofNat']
    omega

/-- The lexicographic order, a proper beginning coming first. -/
def precedes : Bytes → Bytes → Bool
  | [], _ => true
  | _ :: _, [] => false
  | left :: lefts, right :: rights =>
    if left < right then true else if right < left then false else precedes lefts rights

end Bytes

end RowSink
