/-! Identifiers of radio services and characteristics, and their written form: 32 lowercase
hexadecimal digits in groups of 8, 4, 4, 4 and 12. -/

set_option autoImplicit false

namespace Sightline

structure Uuid where
  value : BitVec 128
  deriving DecidableEq, Repr

namespace Uuid

def hexDigit (n : Nat) : Char :=
  if n < 10 then Char.ofNat (48 + n) else Char.ofNat (87 + n)

def hexDigits : Nat → Nat → List Char
  | 0, _ => []
  | count + 1, n => hexDigits count (n / 16) ++ [hexDigit (n % 16)]

theorem length_hexDigits (count n : Nat) : (hexDigits count n).length = count := by
  induction count generalizing n with
  | zero => rfl
  | succ count ih => simp [hexDigits, ih]

def groupLengths : List Nat := [8, 4, 4, 4, 12]

def hyphenate : List Nat → List Char → List Char
  | [], rest => rest
  | [length], digits => digits.take length
  | length :: more, digits => digits.take length ++ '-' :: hyphenate more (digits.drop length)

def text (uuid : Uuid) : String :=
  String.ofList (hyphenate groupLengths (hexDigits 32 uuid.value.toNat))

end Uuid

instance : Inhabited Uuid := ⟨⟨0⟩⟩

end Sightline
