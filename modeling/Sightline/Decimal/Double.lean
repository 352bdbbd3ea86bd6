/-! Binary floating-point numbers with 53 digits of precision, in exact arithmetic.

A number is `mantissa · 2 ^ exponent`. `ofRatio` gives the number nearest to a quotient; of two that
are equally near it gives the one whose mantissa is even. -/

set_option autoImplicit false

namespace Sightline

structure Double where
  mantissa : Nat
  exponent : Int
  deriving DecidableEq, Repr

namespace Double

def twoTo (n : Nat) : Nat := Nat.pow 2 n

def mantissaLimit : Nat := twoTo 53

def leastExponent : Int := -1074

def greatestExponent : Int := 971

def zero : Double := ⟨0, leastExponent⟩

def isZero (double : Double) : Bool := double.mantissa == 0

def ratio (double : Double) : Nat × Nat :=
  (double.mantissa * twoTo double.exponent.toNat, twoTo (-double.exponent).toNat)

/-- The integer nearest to a quotient; of two that are equally near, the even one. -/
def roundEven (num den : Nat) : Nat :=
  let whole := num / den
  let twice := 2 * (num % den)
  if twice < den then whole
  else if den < twice then whole + 1
  else whole + whole % 2

def scaled (num den : Nat) (exponent : Int) : Nat :=
  roundEven (num * twoTo (-exponent).toNat) (den * twoTo exponent.toNat)

def exponentOf (num den : Nat) : Int :=
  let guess : Int := (num.log2 : Int) - den.log2 - 52
  -- The guess is right or one too large.
  let small := num * twoTo (-guess).toNat < den * twoTo guess.toNat * twoTo 52
  max leastExponent (if small then guess - 1 else guess)

/-- The number nearest to a quotient; none if it is beyond all numbers. -/
def ofRatio (num den : Nat) : Option Double :=
  if num = 0 then some zero
  else
    let exponent := exponentOf num den
    let mantissa := scaled num den exponent
    let (mantissa, exponent) :=
      if mantissa = mantissaLimit then (mantissaLimit / 2, exponent + 1) else (mantissa, exponent)
    if greatestExponent < exponent then none else some ⟨mantissa, exponent⟩

def mul (a b : Double) : Option Double :=
  let (an, ad) := a.ratio
  let (bn, bd) := b.ratio
  ofRatio (an * bn) (ad * bd)

def div (a b : Double) : Option Double :=
  let (an, ad) := a.ratio
  let (bn, bd) := b.ratio
  ofRatio (an * bd) (ad * bn)

end Double

end Sightline
