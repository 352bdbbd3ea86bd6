import Sightline.Json.Parsed

/-! The words of JSON: `null`, `true` and `false`. Their first letter says which one is meant, so
only the rest is compared. -/

set_option autoImplicit false

namespace Sightline.Json

def expectBytes : Bytes → Bytes → Except Fault Bytes
  | [], input => .ok input
  | _ :: _, [] => .error .endInValue
  | wanted :: more, b :: rest =>
    if b = wanted then expectBytes more rest else .error .expectedIdent

theorem length_of_expectBytes {wanted input rest : Bytes} (h : expectBytes wanted input = .ok rest) :
    rest.length ≤ input.length := by
  induction wanted generalizing input with
  | nil =>
    cases h
    exact Nat.le_refl _
  | cons b more ih =>
    cases input with
    | nil => cases h
    | cons c input =>
      simp only [expectBytes] at h
      split at h
      · exact Nat.le_succ_of_le (ih h)
      · cases h

inductive Word where
  | null
  | true
  | false
  deriving DecidableEq, Repr

def Word.ofInitial? (b : UInt8) : Option Word :=
  if b = 110 then some .null
  else if b = 116 then some .true
  else if b = 102 then some .false
  else none

def Word.tail : Word → Bytes
  | .null => [117, 108, 108]
  | .true => [114, 117, 101]
  | .false => [97, 108, 115, 101]

def Word.read (word : Word) (input : Bytes) : Except Fault (Parsed Unit (input.length + 1)) :=
  match h : expectBytes word.tail input with
  | .error fault => .error fault
  | .ok rest => .ok ⟨(), rest, Nat.lt_succ_of_le (length_of_expectBytes h)⟩

def Word.found : Word → Found
  | .null => .null
  | .true => .bool Bool.true
  | .false => .bool Bool.false

end Sightline.Json
