/-!
# Binary floating-point numbers

The two binary interchange formats, as exact integer arithmetic on their bit patterns: what number
a pattern stands for, and which pattern lies nearest to a ratio of integers.
-/

namespace RowSink.Number

/-- The widths of the stored fraction and of the exponent. -/
structure BinaryFormat where
  fractionBits : Nat
  exponentBits : Nat

def binary32 : BinaryFormat := ⟨23, 8⟩

def binary64 : BinaryFormat := ⟨52, 11⟩

/-- What a bit pattern stands for; a finite one stands for `significand * 2 ^ exponent`. -/
inductive Binary where
  | nan
  | infinite (negative : Bool)
  | finite (negative : Bool) (significand : Nat) (exponent : Int)
  deriving DecidableEq, Repr

namespace BinaryFormat

def exponentBias (format : BinaryFormat) : Nat :=
  Nat.pow 2 (format.exponentBits - 1) - 1

/-- The exponent of the least positive number. -/
def leastExponent (format : BinaryFormat) : Int :=
  1 - (format.exponentBias : Int) - format.fractionBits

/-- The pattern of positive infinity. -/
def infinityBits (format : BinaryFormat) : Nat :=
  (Nat.pow 2 format.exponentBits - 1) * Nat.pow 2 format.fractionBits

/-- The weight of the sign bit. -/
def signBit (format : BinaryFormat) : Nat :=
  Nat.pow 2 (format.exponentBits + format.fractionBits)

def isNegative (format : BinaryFormat) (bits : Nat) : Bool :=
  bits / format.signBit % 2 == 1

def isFinite (format : BinaryFormat) (bits : Nat) : Bool :=
  bits % format.signBit < format.infinityBits

def decode (format : BinaryFormat) (bits : Nat) : Binary :=
  let negative := format.isNegative bits
  let magnitude := bits % format.signBit
  let fraction := magnitude % Nat.pow 2 format.fractionBits
  let exponent := magnitude / Nat.pow 2 format.fractionBits
  if magnitude = format.infinityBits then .infinite negative
  else if format.infinityBits < magnitude then .nan
  else if exponent = 0 then .finite negative fraction format.leastExponent
  else
    .finite negative (fraction + Nat.pow 2 format.fractionBits) (format.leastExponent + exponent - 1)

/-- The quotient rounded to the nearest integer, halves to the even one. -/
def roundedQuotient (numerator denominator : Nat) : Nat :=
  let quotient := numerator / denominator
  let twice := 2 * (numerator % denominator)
  if twice < denominator then quotient
  else if denominator < twice then quotient + 1
  else quotient + quotient % 2

/-- `numerator / (denominator * 2 ^ exponent)` as a ratio of natural numbers. -/
def unscale (numerator denominator : Nat) (exponent : Int) : Nat × Nat :=
  match exponent with
  | .ofNat power => (numerator, denominator * Nat.pow 2 power)
  | .negSucc power => (numerator * Nat.pow 2 (power + 1), denominator)

/-- The pattern of the number nearest to a ratio, infinity past the largest one. A significand that
rounds up to a power of two carries into the exponent by itself. -/
def ofRatio (format : BinaryFormat) (numerator denominator : Nat) : Nat :=
  if numerator = 0 then 0
  else
    let estimate : Int :=
      (numerator.log2 : Int) - denominator.log2 - format.fractionBits
    let (scaled, unit) := unscale numerator denominator estimate
    let fitted := if scaled < unit * Nat.pow 2 format.fractionBits then estimate - 1 else estimate
    let exponent := max fitted format.leastExponent
    let (scaled, unit) := unscale numerator denominator exponent
    let significand := roundedQuotient scaled unit
    min format.infinityBits
      ((exponent - format.leastExponent).toNat * Nat.pow 2 format.fractionBits + significand)

/-- Puts the sign on a magnitude. -/
def withSign (format : BinaryFormat) (negative : Bool) (magnitude : Nat) : Nat :=
  if negative then format.signBit + magnitude else magnitude

/-- The pattern nearest to an integer. -/
def ofInt (format : BinaryFormat) (value : Int) : Nat :=
  format.withSign (value < 0) (format.ofRatio value.natAbs 1)

/-- The magnitude of a finite pattern as a ratio of natural numbers; zero for any other one. -/
def toRatio (format : BinaryFormat) (bits : Nat) : Nat × Nat :=
  match format.decode bits with
  | .finite _ significand exponent =>
    match exponent with
    | .ofNat power => (significand * Nat.pow 2 power, 1)
    | .negSucc power => (significand, Nat.pow 2 (power + 1))
  | _ => (0, 1)

/-- The rounded sum of two magnitudes. -/
def add (format : BinaryFormat) (left right : Nat) : Nat :=
  let (leftNumerator, leftDenominator) := format.toRatio left
  let (rightNumerator, rightDenominator) := format.toRatio right
  format.ofRatio (leftNumerator * rightDenominator + rightNumerator * leftDenominator)
    (leftDenominator * rightDenominator)

/-- The rounded product of a magnitude and a factor. -/
def scale (format : BinaryFormat) (bits factor : Nat) : Nat :=
  let (numerator, denominator) := format.toRatio bits
  format.ofRatio (numerator * factor) denominator

end BinaryFormat

example : binary64.ofRatio 1 10 = 0x3fb999999999999a := by decide +kernel
example : binary64.ofInt (-2) = 0xc000000000000000 := by decide +kernel
example : binary64.ofInt (2 ^ 64 - 1) = 0x43f0000000000000 := by decide +kernel
example : binary32.decode 0x80000001 = .finite true 1 (-149) := by decide +kernel

end RowSink.Number
