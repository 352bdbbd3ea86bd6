import Sightline.Decimal.Double

/-! The shortest decimal that reads back as a given number of double precision, and of those the
nearest one; of two that are equally near, the one whose last digit is even.

Everything is compared in quarters of the number's last binary place, brought to one denominator,
so all arithmetic is exact. -/

set_option autoImplicit false

namespace Sightline

structure Decimal where
  digits : Nat
  exponent : Int
  deriving DecidableEq, Repr

namespace Decimal

def tenTo (n : Nat) : Nat := Nat.pow 10 n

/-- Quarters of the last place from a number down and up to where rounding to it ends. Below a power
of two the numbers lie twice as dense. -/
def reach (double : Double) : Nat × Nat :=
  if double.mantissa = Double.mantissaLimit / 2 ∧ Double.leastExponent < double.exponent then (1, 2)
  else (2, 2)

def units (double : Double) (exponent : Int) : Nat × Nat :=
  let quarter := double.exponent - 2
  (tenTo exponent.toNat * Double.twoTo (-quarter).toNat,
    Double.twoTo quarter.toNat * tenTo (-exponent).toNat)

/-- Whether `digits · 10 ^ exponent` is rounded to the given number; of the two ends of what is
rounded to it, both belong to an even mantissa and neither to an odd one. -/
def readsBack (double : Double) (decimal : Decimal) : Bool :=
  let (below, above) := reach double
  let (grid, quarter) := units double decimal.exponent
  let value := decimal.digits * grid
  let low := (4 * double.mantissa - below) * quarter
  let high := (4 * double.mantissa + above) * quarter
  if double.mantissa % 2 = 0 then low ≤ value && value ≤ high else low < value && value < high

/-- The multiple of `10 ^ exponent` that reads back and is nearest, the even one of two that are
equally near, if one reads back. Only the two neighbours of the number on the grid can be it. -/
def onGrid (double : Double) (exponent : Int) : Option Decimal :=
  let (grid, quarter) := units double exponent
  let value := 4 * double.mantissa * quarter
  let below : Decimal := ⟨value / grid, exponent⟩
  let above : Decimal := ⟨value / grid + 1, exponent⟩
  match readsBack double below, readsBack double above with
  | true, true => some ⟨Double.roundEven value grid, exponent⟩
  | true, false => some below
  | false, true => some above
  | false, false => none

/-- Tries finer and finer grids; the first that has a hit has the fewest digits. -/
def search (double : Double) : Nat → Int → Decimal
  | 0, exponent => ⟨0, exponent⟩
  | more + 1, exponent =>
    match onGrid double exponent with
    | some decimal => decimal
    | none => search double more (exponent - 1)

def trim : Nat → Decimal → Decimal
  | 0, decimal => decimal
  | more + 1, decimal =>
    if decimal.digits ≠ 0 ∧ decimal.digits % 10 = 0 then
      trim more ⟨decimal.digits / 10, decimal.exponent + 1⟩
    else decimal

def shortest (double : Double) : Decimal :=
  if double.isZero then ⟨0, 0⟩
  else
    let top := Int.fdiv (((double.mantissa.log2 : Int) + double.exponent + 1) * 30103) 100000 + 1
    trim 20 (search double 22 top)

def leading (decimal : Decimal) : Int :=
  (Nat.repr decimal.digits).length - 1 + decimal.exponent

end Decimal

end Sightline
