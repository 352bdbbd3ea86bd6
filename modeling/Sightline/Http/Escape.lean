import Sightline.Bytes
import Sightline.Uuid.Parse

/-! Escaped text in addresses: a character that may not stand where it is wanted is written as the
numbers of its bytes, each after a percent sign. -/

set_option autoImplicit false

namespace Sightline.Http

def escapedByte (b : UInt8) : List Char :=
  '%' :: (Uuid.hexDigits 2 b.toNat).map Char.toUpper

def escape (foreign : Char → Bool) (text : List Char) : List Char :=
  text.flatMap fun c =>
    if foreign c then (Bytes.ofText c.toString).flatMap escapedByte else [c]

/-- The bytes of a text in which escaped bytes stand for themselves. A percent sign without two digits
after it is one. -/
def unescapedBytes : List Char → Bytes
  | [] => []
  | '%' :: high :: low :: rest =>
    match Uuid.digitValue? high, Uuid.digitValue? low with
    | some h, some l => UInt8.ofNat (16 * h + l) :: unescapedBytes rest
    | _, _ => Bytes.ofText "%" ++ unescapedBytes (high :: low :: rest)
  | c :: rest => Bytes.ofText c.toString ++ unescapedBytes rest

def unescape? (text : List Char) : Option String := Bytes.text? (unescapedBytes text)

end Sightline.Http
