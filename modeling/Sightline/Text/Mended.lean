import Sightline.Bytes

/-! Bytes that should be UTF-8, read as text. Every run of bytes that begins like a character and breaks
off, and every byte that can begin none, gives one replacement character. -/

set_option autoImplicit false

namespace Sightline.Text

def replacement : Char := Char.ofNat 0xfffd

structure Begun where
  bits : Nat
  more : Nat
  /-- The least and the greatest byte that may come next. -/
  low : UInt8 := 0x80
  high : UInt8 := 0xbf
  deriving DecidableEq, Repr

/-- What a byte begins: the second byte of some characters is bounded more narrowly, since no character
has a longer form than it needs, and none is a surrogate or too large. -/
def Begun.ofFirst? (b : UInt8) : Option Begun :=
  if b < 0xc2 then none
  else if b < 0xe0 then some { bits := b.toNat - 0xc0, more := 0 }
  else if b = 0xe0 then some { bits := 0, more := 1, low := 0xa0 }
  else if b = 0xed then some { bits := 0xd, more := 1, high := 0x9f }
  else if b < 0xf0 then some { bits := b.toNat - 0xe0, more := 1 }
  else if b = 0xf0 then some { bits := 0, more := 2, low := 0x90 }
  else if b < 0xf4 then some { bits := b.toNat - 0xf0, more := 2 }
  else if b = 0xf4 then some { bits := 4, more := 2, high := 0x8f }
  else none

structure Mending where
  read : Array Char := #[]
  begun : Option Begun := none

namespace Mending

def first (read : Array Char) (b : UInt8) : Mending :=
  if b < 0x80 then { read := read.push (Char.ofNat b.toNat) }
  else
    match Begun.ofFirst? b with
    | none => { read := read.push replacement }
    | some begun => { read, begun := some begun }

def next (mending : Mending) (b : UInt8) : Mending :=
  match mending.begun with
  | none => first mending.read b
  | some begun =>
    if begun.low ≤ b && b ≤ begun.high then
      let bits := begun.bits * 64 + (b.toNat - 0x80)
      match begun.more with
      | 0 => { read := mending.read.push (Char.ofNat bits) }
      | more + 1 => { mending with begun := some { bits, more } }
    else first (mending.read.push replacement) b

def close (mending : Mending) : Array Char :=
  if mending.begun.isSome then mending.read.push replacement else mending.read

end Mending

def mended (bytes : Bytes) : String :=
  String.ofList (bytes.foldl Mending.next {}).close.toList

end Sightline.Text
