import Sightline.Decimal.Shortest

/-! How numbers with a fraction are written: positional notation for numbers of ordinary size, with
`.0` after an integer, and one digit before the point with an exponent for all others. -/

set_option autoImplicit false

namespace Sightline

namespace Decimal

def isPositional (leading : Int) : Bool := -5 ≤ leading && leading < 16

def zeros (count : Nat) : String := String.ofList (List.replicate count '0')

def positional (decimal : Decimal) : String :=
  let digits := (Nat.repr decimal.digits).toList
  let leading := decimal.leading
  if 0 ≤ decimal.exponent then
    String.ofList digits ++ zeros decimal.exponent.toNat ++ ".0"
  else if 0 ≤ leading then
    let whole := leading.toNat + 1
    String.ofList (digits.take whole) ++ "." ++ String.ofList (digits.drop whole)
  else "0." ++ zeros (-leading - 1).toNat ++ String.ofList digits

def exponentText (exponent : Int) : String :=
  (if exponent < 0 then "-" else "+") ++ Nat.repr exponent.natAbs

def exponential (decimal : Decimal) : String :=
  match (Nat.repr decimal.digits).toList with
  | [] => ""
  | first :: [] => toString first ++ "e" ++ exponentText decimal.leading
  | first :: more =>
    toString first ++ "." ++ String.ofList more ++ "e" ++ exponentText decimal.leading

def text (decimal : Decimal) : String :=
  if decimal.digits = 0 then "0.0"
  else if isPositional decimal.leading then decimal.positional
  else decimal.exponential

end Decimal

def Double.text (negative : Bool) (double : Double) : String :=
  (if negative then "-" else "") ++ (Decimal.shortest double).text

end Sightline
