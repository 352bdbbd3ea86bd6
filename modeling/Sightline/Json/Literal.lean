import Sightline.Json.Parsed
import Sightline.Uuid.Parse

/-! Strings: between quotes, with escapes; a character beyond the sixteen-bit range is escaped as two
units. The text that results has to be well-formed. -/

set_option autoImplicit false

namespace Sightline.Json

def plainEscape? (b : UInt8) : Option UInt8 :=
  if b = quoteMark ∨ b = escapeMark ∨ b = 47 then some b
  else if b = 98 then some 8
  else if b = 102 then some 12
  else if b = 110 then some 10
  else if b = 114 then some 13
  else if b = 116 then some 9
  else none

def unitMark : UInt8 := 117

def readUnit : Bytes → Except Fault (Nat × Bytes)
  | a :: b :: c :: d :: rest =>
    match Uuid.number? ([a, b, c, d].map fun digit => Char.ofNat digit.toNat) with
    | some unit => .ok (unit, rest)
    | none => .error .invalidEscape
  | _ => .error .endInString

def isLeading (unit : Nat) : Bool := 0xd800 ≤ unit && unit ≤ 0xdbff

def isTrailing (unit : Nat) : Bool := 0xdc00 ≤ unit && unit ≤ 0xdfff

def readTrailing : Bytes → Except Fault (Nat × Bytes)
  | [] => .error .endInString
  | mark :: more =>
    if mark ≠ escapeMark then .error .hexEscapeEnd
    else
      match more with
      | [] => .error .endInString
      | letter :: more =>
        if letter ≠ unitMark then .error .hexEscapeEnd
        else
          match readUnit more with
          | .error fault => .error fault
          | .ok (unit, rest) =>
            if isTrailing unit then .ok (unit, rest) else .error .loneSurrogate

def readPoint (input : Bytes) : Except Fault (Nat × Bytes) :=
  match readUnit input with
  | .error fault => .error fault
  | .ok (unit, rest) =>
    if isTrailing unit then .error .loneSurrogate
    else if isLeading unit then
      match readTrailing rest with
      | .error fault => .error fault
      | .ok (low, rest) => .ok ((unit - 0xd800) * 1024 + (low - 0xdc00) + 0x10000, rest)
    else .ok (unit, rest)

theorem length_of_readUnit {input rest : Bytes} {unit : Nat}
    (h : readUnit input = .ok (unit, rest)) : rest.length ≤ input.length := by
  unfold readUnit at h
  split at h
  · split at h
    · cases h
      simp only [List.length_cons]
      omega
    · cases h
  · cases h

theorem length_of_readTrailing {input rest : Bytes} {unit : Nat}
    (h : readTrailing input = .ok (unit, rest)) : rest.length ≤ input.length := by
  unfold readTrailing at h
  split at h
  · cases h
  · split at h
    · cases h
    · split at h
      · cases h
      · split at h
        · cases h
        · split at h
          · cases h
          · next read =>
            have := length_of_readUnit read
            split at h
            · cases h
              simp only [List.length_cons]
              omega
            · cases h

theorem length_of_readPoint {input rest : Bytes} {point : Nat}
    (h : readPoint input = .ok (point, rest)) : rest.length ≤ input.length := by
  unfold readPoint at h
  split at h
  · cases h
  · next read =>
    have := length_of_readUnit read
    split at h
    · cases h
    · split at h
      · split at h
        · cases h
        · next trailing =>
          have := length_of_readTrailing trailing
          cases h
          omega
      · cases h
        exact length_of_readUnit read

def literalFrom (bound : Nat) (text : Array UInt8) (input : Bytes) (fits : input.length ≤ bound) :
    Except Fault (Parsed (Array UInt8) bound) :=
  match input with
  | [] => .error .endInString
  | b :: rest =>
    have short : rest.length < bound := fits
    if b = quoteMark then .ok ⟨text, rest, short⟩
    else if b = escapeMark then
      match rest with
      | [] => .error .endInString
      | letter :: more =>
        have shorter : more.length ≤ bound := by simp only [List.length_cons] at short; omega
        match plainEscape? letter with
        | some plain => literalFrom bound (text.push plain) more shorter
        | none =>
          if letter = unitMark then
            match h : readPoint more with
            | .error fault => .error fault
            | .ok (point, left) =>
              have := length_of_readPoint h
              literalFrom bound (text ++ Bytes.ofText (Char.ofNat point).toString) left
                (Nat.le_trans this shorter)
          else .error .invalidEscape
    else if b < 32 then .error .controlCharacter
    else literalFrom bound (text.push b) rest (Nat.le_of_lt short)
termination_by input.length
decreasing_by all_goals simp only [List.length_cons]; omega

def literal : Reader String := fun input =>
  match literalFrom input.length #[] input (Nat.le_refl _) with
  | .error fault => .error fault
  | .ok parsed =>
    match Bytes.text? parsed.value.toList with
    | some text => .ok (parsed.map fun _ => text)
    | none => .error .invalidCodePoint

/-- Passes over a string up to its closing quote. Escapes are looked at one by one, and what they
spell is not. -/
def skipLiteralFrom (bound : Nat) (input : Bytes) (fits : input.length ≤ bound) :
    Except Fault (Parsed Unit bound) :=
  match input with
  | [] => .error .endInString
  | b :: rest =>
    have short : rest.length < bound := fits
    if b = quoteMark then .ok ⟨(), rest, short⟩
    else if b = escapeMark then
      match rest with
      | [] => .error .endInString
      | letter :: more =>
        have shorter : more.length ≤ bound := by simp only [List.length_cons] at short; omega
        if (plainEscape? letter).isSome then skipLiteralFrom bound more shorter
        else if letter = unitMark then
          match h : readUnit more with
          | .error fault => .error fault
          | .ok (_, left) =>
            have := length_of_readUnit h
            skipLiteralFrom bound left (Nat.le_trans this shorter)
        else .error .invalidEscape
    else if b < 32 then .error .controlCharacter
    else skipLiteralFrom bound rest (Nat.le_of_lt short)
termination_by input.length
decreasing_by all_goals simp only [List.length_cons]; omega

def skipLiteral : Reader Unit := fun input => skipLiteralFrom input.length input (Nat.le_refl _)

end Sightline.Json
