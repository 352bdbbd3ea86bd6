import Sightline.Bytes

/-! Bytes in 64 printable characters: three bytes make four characters, and equals signs fill the last
four up. -/

set_option autoImplicit false

namespace Sightline.Text

def base64Digit (n : Nat) : Char :=
  if n < 26 then Char.ofNat (65 + n)
  else if n < 52 then Char.ofNat (71 + n)
  else if n < 62 then Char.ofNat (n - 4)
  else if n = 62 then '+'
  else '/'

def sextets (n : Nat) : List Char :=
  [base64Digit (n / 262144), base64Digit (n / 4096 % 64), base64Digit (n / 64 % 64),
    base64Digit (n % 64)]

def base64From (written : Array Char) : Bytes → Array Char
  | [] => written
  | [a] => (written ++ (sextets (a.toNat * 65536)).take 2) ++ ['=', '=']
  | [a, b] => (written ++ (sextets (a.toNat * 65536 + b.toNat * 256)).take 3).push '='
  | a :: b :: c :: rest =>
    base64From (written ++ sextets (a.toNat * 65536 + b.toNat * 256 + c.toNat)) rest

def base64 (bytes : Bytes) : String := String.ofList (base64From #[] bytes).toList

end Sightline.Text
