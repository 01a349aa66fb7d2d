import RowSink.Number.Shortest

/-!
# Decimal text

How a floating-point number is written from its shortest decimal. A style says which numbers are
written positionally and whether an integral number keeps a point.
-/

namespace RowSink.Number

/-- Decisions of a decimal layout. The bounds are on the power of ten of the first digit. -/
structure DecimalStyle where
  leastPositional : Option Int
  greatestPositional : Option Int
  /-- Whether an integral number written positionally ends in `.0`. -/
  keepsPoint : Bool
  /-- Whether a power of ten that is not negative is written with a sign. -/
  signsPower : Bool
  tie : Tie

/-- Every number positionally, integral ones without a point. -/
def plainStyle : DecimalStyle := ⟨none, none, false, false, .up⟩

/-- Positionally from 1e-4 up to below 1e16, with a point. -/
def detailStyle : DecimalStyle := ⟨some (-4), some 15, true, false, .up⟩

/-- Positionally from 1e-5 up to below 1e16, with a point, otherwise with a signed power. -/
def jsonStyle : DecimalStyle := ⟨some (-5), some 15, true, true, .toEven⟩

/-- The decimal digits of a number. -/
def digits (value : Nat) : List Char :=
  Nat.toDigits 10 value

/-- Digits times a power of ten, positionally. -/
def positional (keepsPoint : Bool) (coefficient : List Char) (exponent : Int) : List Char :=
  match exponent with
  | .ofNat zeros =>
    coefficient ++ List.replicate zeros '0' ++ if keepsPoint then ['.', '0'] else []
  | .negSucc before =>
    let places := before + 1
    if places < coefficient.length then
      coefficient.take (coefficient.length - places) ++
        '.' :: coefficient.drop (coefficient.length - places)
    else '0' :: '.' :: List.replicate (places - coefficient.length) '0' ++ coefficient

/-- The decimal digits of an integer after a minus sign if it is negative. -/
def signed (value : Int) : List Char :=
  if value < 0 then '-' :: digits value.natAbs else digits value.natAbs

/-- Digits with a point after the first one, and the power of ten of that digit. -/
def scientific (signsPower : Bool) (coefficient : List Char) (leading : Int) : List Char :=
  let power := if signsPower && 0 ≤ leading then '+' :: signed leading else signed leading
  match coefficient with
  | [] => []
  | [first] => first :: 'e' :: power
  | first :: rest => first :: '.' :: rest ++ 'e' :: power

def Decimal.text (style : DecimalStyle) (decimal : Decimal) : List Char :=
  let coefficient := digits decimal.coefficient
  if decimal.coefficient = 0 then positional style.keepsPoint coefficient 0
  else
    let leading := decimal.exponent + coefficient.length - 1
    if style.leastPositional.all (· ≤ leading) && style.greatestPositional.all (leading ≤ ·) then
      positional style.keepsPoint coefficient decimal.exponent
    else scientific style.signsPower coefficient leading

/-- The text of a bit pattern. -/
def textOfBits (format : BinaryFormat) (style : DecimalStyle) (bits : Nat) : String :=
  match format.decode bits with
  | .nan => "NaN"
  | .infinite negative => if negative then "-inf" else "inf"
  | .finite negative significand exponent =>
    let magnitude := (shortest format style.tie significand exponent).text style
    String.ofList (if negative then '-' :: magnitude else magnitude)

example : textOfBits binary64 plainStyle 0x8000000000000000 = "-0" := by decide +kernel
example : textOfBits binary64 plainStyle 0x444b1ae4d6e2ef50 = "1000000000000000000000" := by
  decide +kernel
example : textOfBits binary64 jsonStyle 0x444b1ae4d6e2ef50 = "1e+21" := by decide +kernel
example : textOfBits binary64 detailStyle 0x4341c37937e08000 = "1e16" := by decide +kernel
example : textOfBits binary64 detailStyle 0x3f1a36e2eb1c432d = "0.0001" := by decide +kernel
example : textOfBits binary32 detailStyle 0x3dcccccd = "0.1" := by decide +kernel

end RowSink.Number
