import Sightline.Bytes
import Sightline.Json.Fault

/-! Reading off the front of JSON bytes. What is read always takes at least one byte, and the result
carries the proof, so that readers can be repeated without a bound on their number. -/

set_option autoImplicit false

namespace Sightline.Json

/-! ### The bytes of the grammar -/

def quoteMark : UInt8 := 34
def comma : UInt8 := 44
def minus : UInt8 := 45
def colon : UInt8 := 58
def openList : UInt8 := 91
def escapeMark : UInt8 := 92
def closeList : UInt8 := 93
def openObject : UInt8 := 123
def closeObject : UInt8 := 125

def isBlank (b : UInt8) : Bool := b == 32 || b == 9 || b == 10 || b == 13

def skipBlank (input : Bytes) : Bytes := input.dropWhile isBlank

/-- A value read off the front of an input, and what is left, which is less than the bound. -/
structure Parsed (α : Type) (bound : Nat) where
  value : α
  rest : Bytes
  shorter : rest.length < bound

abbrev Reader (α : Type) := (input : Bytes) → Except Fault (Parsed α input.length)

variable {α β : Type}

theorem length_skipBlank (input : Bytes) : (skipBlank input).length ≤ input.length :=
  (List.dropWhile_suffix isBlank).length_le

theorem length_of_skipBlank {input rest : Bytes} {b : UInt8}
    (h : skipBlank input = b :: rest) : rest.length < input.length := by
  have := length_skipBlank input
  rw [h, List.length_cons] at this
  omega

theorem length_le_of_skipBlank {input rest : Bytes} {b : UInt8}
    (h : skipBlank input = b :: rest) : rest.length ≤ input.length :=
  Nat.le_of_lt (length_of_skipBlank h)

namespace Parsed

def widen {bound larger : Nat} (parsed : Parsed α bound) (h : bound ≤ larger) : Parsed α larger :=
  ⟨parsed.value, parsed.rest, Nat.lt_of_lt_of_le parsed.shorter h⟩

def map {bound : Nat} (f : α → β) (parsed : Parsed α bound) : Parsed β bound :=
  ⟨f parsed.value, parsed.rest, parsed.shorter⟩

end Parsed

def Reader.map (f : α → β) (reader : Reader α) : Reader β :=
  fun input => (reader input).map (·.map f)

end Sightline.Json
