import RowSink.Bytes
import RowSink.Wire.Fault

/-!
# Variable-length integers

A 64-bit word in groups of seven bits, the lowest first, each but the last marked by the high bit
of its byte. Ten groups hold a word, and the tenth has room for a single bit. Reading undoes
writing, whatever bytes follow.
-/

namespace RowSink.Wire

/-- Writes at most `groups` groups. -/
def writeGroups : Nat → Nat → Bytes
  | 0, _ => []
  | groups + 1, value =>
    if value < 128 then [UInt8.ofNat value]
    else UInt8.ofNat (value % 128 + 128) :: writeGroups groups (value / 128)

def writeVarint (value : Nat) : Bytes :=
  writeGroups 10 value

/-- Reads at most `groups` groups; the last of ten may only be zero or one. -/
def readGroups : Nat → Bytes → Read Nat
  | 0, _ => fail .invalidVarint
  | _ + 1, [] => fail .invalidVarint
  | groups + 1, byte :: rest =>
    if byte.toNat < 128 then
      if groups = 0 ∧ 1 < byte.toNat then fail .invalidVarint else .ok (byte.toNat, rest)
    else
      match readGroups groups rest with
      | .error error => .error error
      | .ok (high, left) => .ok (byte.toNat - 128 + 128 * high, left)

def readVarint (bytes : Bytes) : Read Nat :=
  readGroups 10 bytes

theorem readGroups_writeGroups (groups value : Nat) (rest : Bytes)
    (hvalue : value < 2 * Nat.pow 128 groups) :
    readGroups (groups + 1) (writeGroups (groups + 1) value ++ rest) = .ok (value, rest) := by
  induction groups generalizing value with
  | zero =>
    have hsmall : value < 2 := by simpa using hvalue
    have hlow : value < 128 := by omega
    have hmod : value % 256 = value := by omega
    simp [writeGroups, readGroups, hlow, hmod]
    omega
  | succ groups ih =>
    rw [writeGroups]
    split
    · rename_i hlow
      have hmod : value % 256 = value := by omega
      simp [readGroups, hmod, hlow]
    · rename_i hhigh
      have hquotient : value / 128 < 2 * Nat.pow 128 groups := by
        rw [Nat.div_lt_iff_lt_mul (by omega), Nat.mul_assoc]
        exact hvalue
      have hbyte : (UInt8.ofNat (value % 128 + 128)).toNat = value % 128 + 128 := by
        rw [UInt8.toNat_ofNat']
        omega
      have hmarked : ¬ value % 128 + 128 < 128 := by omega
      rw [List.cons_append, readGroups, hbyte, if_neg hmarked, ih _ hquotient]
      simp only [Except.ok.injEq, Prod.mk.injEq, and_true]
      omega

theorem readVarint_writeVarint (value : Nat) (rest : Bytes) (hvalue : value < UInt64.size) :
    readVarint (writeVarint value ++ rest) = .ok (value, rest) :=
  readGroups_writeGroups 9 value rest hvalue

end RowSink.Wire
