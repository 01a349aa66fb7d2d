import RowSink.Number.Binary

/-!
# Shortest decimals

The decimal with the fewest digits that reads back as a given binary number, and of those the
nearest one. Decimals are tried on ever finer grids, all in exact integer arithmetic, and on each
grid only the two neighbours of the number can be the nearest.
-/

namespace RowSink.Number

/-- The number `coefficient * 10 ^ exponent`. -/
structure Decimal where
  coefficient : Nat
  exponent : Int
  deriving DecidableEq, Repr

/-- Which neighbour is taken when a number lies half-way between two decimals. -/
inductive Tie where
  | up
  | toEven
  deriving DecidableEq

/-- A binary number in units of a quarter of its last place, with the ends of the interval of the
reals that round to it. -/
structure Neighbourhood where
  centre : Nat
  low : Nat
  high : Nat
  /-- Whether the ends belong to the interval. -/
  closed : Bool
  /-- The unit is two to this power. -/
  exponent : Int

/-- Below a power of two the numbers lie twice as close, so the interval is shorter there. -/
def neighbourhood (format : BinaryFormat) (significand : Nat) (exponent : Int) : Neighbourhood where
  centre := 4 * significand
  low :=
    if significand = Nat.pow 2 format.fractionBits ∧ format.leastExponent < exponent then
      4 * significand - 1
    else 4 * significand - 2
  high := 4 * significand + 2
  closed := significand % 2 == 0
  exponent := exponent - 2

/-- `base ^ exponent` as a ratio of natural numbers. -/
def powerRatio (base : Nat) (exponent : Int) : Nat × Nat :=
  match exponent with
  | .ofNat power => (Nat.pow base power, 1)
  | .negSucc power => (1, Nat.pow base (power + 1))

/-- The nearest coefficient on the grid of a power of ten that lies in the interval. -/
def nearestOnGrid? (tie : Tie) (around : Neighbourhood) (power : Int) : Option Nat :=
  let (unitNum, unitDen) := powerRatio 2 around.exponent
  let (gridNum, gridDen) := powerRatio 10 power
  -- `coefficient * 10 ^ power` compares with `point * 2 ^ exponent` as these two products do
  let onGrid := fun coefficient : Nat => coefficient * (gridNum * unitDen)
  let inUnits := fun point : Nat => point * (unitNum * gridDen)
  let inside := fun coefficient : Nat =>
    if around.closed then
      decide (inUnits around.low ≤ onGrid coefficient ∧ onGrid coefficient ≤ inUnits around.high)
    else
      decide (inUnits around.low < onGrid coefficient ∧ onGrid coefficient < inUnits around.high)
  let below := inUnits around.centre / (gridNum * unitDen)
  let above := below + 1
  match inside below, inside above with
  | false, false => none
  | true, false => some below
  | false, true => some above
  | true, true =>
    let twice := 2 * inUnits around.centre
    let sum := onGrid below + onGrid above
    if twice < sum then some below
    else if sum < twice then some above
    else
      match tie with
      | .up => some above
      | .toEven => if below % 2 = 0 then some below else some above

/-- Tries the grids from a power of ten downwards. -/
def searchGrids (tie : Tie) (around : Neighbourhood) : Nat → Int → Decimal
  | 0, _ => ⟨0, 0⟩
  | steps + 1, power =>
    match nearestOnGrid? tie around power with
    | some coefficient => ⟨coefficient, power⟩
    | none => searchGrids tie around steps (power - 1)

/-- A power of ten above `significand * 2 ^ exponent`, by at most two places: a binary digit is
worth less than 30103 / 100000 of a decimal one. -/
def startPower (significand : Nat) (exponent : Int) : Int :=
  ((significand.log2 : Int) + 1 + exponent) * 30103 / 100000 + 1

/-- The shortest decimal of `significand * 2 ^ exponent`. Seventeen digits always suffice, so the
search ends within twenty-four grids. -/
def shortest (format : BinaryFormat) (tie : Tie) (significand : Nat) (exponent : Int) : Decimal :=
  if significand = 0 then ⟨0, 0⟩
  else
    searchGrids tie (neighbourhood format significand exponent) 24
      (startPower significand exponent)

/-- The binary number nearest to a decimal. -/
def Decimal.toBinary (format : BinaryFormat) (decimal : Decimal) : Nat :=
  let (powerNum, powerDen) := powerRatio 10 decimal.exponent
  format.ofRatio (decimal.coefficient * powerNum) powerDen

/-- A single-precision pattern widened to double precision through its shortest decimal, so that
the written form of the number does not change. -/
def widen (bits : Nat) : Nat :=
  match binary32.decode bits with
  | .nan => binary64.infinityBits + Nat.pow 2 51
  | .infinite negative => binary64.withSign negative binary64.infinityBits
  | .finite negative significand exponent =>
    binary64.withSign negative
      ((shortest binary32 .up significand exponent).toBinary binary64)

example : shortest binary64 .up 1 (-1074) = ⟨5, -324⟩ := by decide +kernel
example : shortest binary64 .up (2 ^ 52) (-52) = ⟨1, 0⟩ := by decide +kernel
example : widen 0x3dcccccd = 0x3fb999999999999a := by decide +kernel

end RowSink.Number
