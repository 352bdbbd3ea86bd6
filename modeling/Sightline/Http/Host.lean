import Sightline.Http.Escape
import Sightline.Http.Letters

/-! Hosts in addresses: names, and the numbers that hosts are known by, which are written as one to
four parts between dots, or in brackets as eight pieces between colons. -/

set_option autoImplicit false

namespace Sightline.Http

inductive Host where
  | name (text : String)
  /-- A number of 32 bits. -/
  | short (number : Nat)
  /-- A number of 128 bits, as it is written in brackets. -/
  | long (text : String)
  deriving DecidableEq, Repr

namespace Host

def ofDigits? (base : Nat) (digits : List Char) : Option Nat :=
  digits.foldl
    (fun sum c => do
      let digit ← Uuid.digitValue? c
      guard (digit < base)
      return base * (← sum) + digit)
    (some 0)

/-- The number that a part between dots spells: in hexadecimal digits after `0x`, in octal ones after a
zero, and else in decimal ones. -/
def part? : List Char → Option Nat
  | [] => none
  | ['0'] => some 0
  | '0' :: mark :: digits =>
    if mark = 'x' || mark = 'X' then ofDigits? 16 digits else ofDigits? 8 (mark :: digits)
  | digits => ofDigits? 10 digits

def parts (text : String) : List String :=
  let parts := text.splitOn "."
  if parts.getLast? = some "" then parts.dropLast else parts

def endsInNumber (text : String) : Bool :=
  match (parts text).getLast? with
  | none => false
  | some last => last ≠ "" && (last.toList.all Char.isDigit || (part? last.toList).isSome)

/-- The number that parts amount to: one byte each, and the last one all bytes that are left. -/
def joined? (bytesLeft : Nat) : List Nat → Option Nat
  | [] => none
  | [last] => if last < Nat.pow 256 bytesLeft then some last else none
  | part :: more => do
    guard (part < 256 && 0 < bytesLeft)
    return part * Nat.pow 256 (bytesLeft - 1) + (← joined? (bytesLeft - 1) more)

def short? (text : String) : Option Nat := do
  guard ((parts text).length ≤ 4)
  joined? 4 (← (parts text).mapM fun part => part? part.toList)

def isPiece (text : String) : Bool :=
  1 ≤ text.length && text.length ≤ 4 && text.toList.all fun c => (Uuid.digitValue? c).isSome

def isQuad (text : String) : Bool :=
  let parts := text.splitOn "."
  parts.length = 4 && parts.all fun part =>
    match ofDigits? 10 part.toList with
    | some byte => byte < 256 && part = Nat.repr byte
    | none => false

def pieces? : List String → Option Nat
  | [] => some 0
  | [last] => if isPiece last then some 1 else if isQuad last then some 2 else none
  | piece :: more => if isPiece piece then (pieces? more).map (· + 1) else none

/-- Whether a text is that of a long number. One gap of pieces that are zero may be left out between
two colons. -/
def isLong (text : String) : Bool :=
  let cut (side : String) : List String := if side = "" then [] else side.splitOn ":"
  match text.splitOn "::" with
  | [whole] => pieces? (cut whole) = some 8
  | [before, after] =>
    match pieces? (cut after) with
    | some count => (cut before).all isPiece && (cut before).length + count ≤ 7
    | none => false
  | _ => false

def isForeign (c : Char) : Bool :=
  c.toNat ≤ 32 || 127 ≤ c.toNat
    || ['"', '#', '<', '>', '%', '/', ':', '?', '@', '[', '\\', ']', '^', '|'].contains c

/-- The host that a text names. Names in letters that count for no plain ones are not read. -/
def ofText? (text : List Char) : Option Host :=
  match text with
  | '[' :: rest =>
    if rest.getLast? = some ']' && isLong (String.ofList rest.dropLast) then
      some (.long (String.ofList rest.dropLast))
    else none
  | _ => do
    let name ← Letters.plainText? (← unescape? text)
    guard (name ≠ "" && name.toList.all fun c => !isForeign c)
    if endsInNumber name then (short? name).map .short else some (.name name)

end Host

end Sightline.Http
