import Sightline.Json.Literal
import Sightline.Json.Number
import Sightline.Json.Word

/-! Passing over a value of any kind. Only the grammar is looked at: what strings spell, and how large
numbers are, does not matter. -/

set_option autoImplicit false

namespace Sightline.Json

def skipExponent (input : Bytes) : Except Fault Bytes :=
  let input := match input with
    | b :: rest => if b = 43 ∨ b = minus then rest else b :: rest
    | [] => []
  match input with
  | b :: rest => if isDigit b then .ok (rest.dropWhile isDigit) else .error .invalidNumber
  | [] => .error .invalidNumber

def skipScale : Bytes → Except Fault Bytes
  | b :: rest => if isExponentMark b then skipExponent rest else .ok (b :: rest)
  | [] => .ok []

def skipFraction : Bytes → Except Fault Bytes
  | b :: rest =>
    if b = 46 then
      match rest with
      | c :: more => if isDigit c then skipScale (more.dropWhile isDigit) else .error .invalidNumber
      | [] => .error .invalidNumber
    else skipScale (b :: rest)
  | [] => .ok []

def skipUnsigned : Bytes → Except Fault Bytes
  | [] => .error .invalidNumber
  | b :: rest =>
    if b = 48 then
      match rest with
      | c :: more => if isDigit c then .error .invalidNumber else skipFraction (c :: more)
      | [] => skipFraction []
    else if isDigit b then skipFraction (rest.dropWhile isDigit)
    else .error .invalidNumber

theorem length_of_skipExponent {input rest : Bytes} (h : skipExponent input = .ok rest) :
    rest.length ≤ input.length := by
  have drop : ∀ (b : UInt8) (tail : Bytes),
      (if isDigit b then Except.ok (tail.dropWhile isDigit) else .error Fault.invalidNumber)
        = .ok rest → rest.length ≤ tail.length := by
    intro b tail h
    split at h
    · cases h
      exact length_dropWhile_le isDigit tail
    · cases h
  unfold skipExponent at h
  cases input with
  | nil => cases h
  | cons b tail =>
    simp only at h
    rw [List.length_cons]
    split at h
    · next taken =>
      have := drop _ _ h
      split at taken
      · rw [taken, List.length_cons]
        omega
      · cases taken
        omega
    · cases h

theorem length_of_skipScale {input rest : Bytes} (h : skipScale input = .ok rest) :
    rest.length ≤ input.length := by
  unfold skipScale at h
  split at h
  · split at h
    · exact Nat.le_succ_of_le (length_of_skipExponent h)
    · cases h
      exact Nat.le_refl _
  · cases h
    exact Nat.le_refl _

theorem length_of_skipFraction {input rest : Bytes} (h : skipFraction input = .ok rest) :
    rest.length ≤ input.length := by
  unfold skipFraction at h
  split at h
  · split at h
    · split at h
      · next c more =>
        split at h
        · have := length_of_skipScale h
          have := length_dropWhile_le isDigit more
          simp only [List.length_cons]
          omega
        · cases h
      · cases h
    · exact length_of_skipScale h
  · cases h
    exact Nat.le_refl _

theorem length_of_skipUnsigned {input rest : Bytes} (h : skipUnsigned input = .ok rest) :
    rest.length < input.length := by
  unfold skipUnsigned at h
  split at h
  · cases h
  · next b tail =>
    rw [List.length_cons]
    split at h
    · split at h
      · split at h
        · cases h
        · exact Nat.lt_succ_of_le (length_of_skipFraction h)
      · exact Nat.lt_succ_of_le (length_of_skipFraction h)
    · split at h
      · have := length_of_skipFraction h
        have := length_dropWhile_le isDigit tail
        omega
      · cases h

inductive Frame where
  | list
  | object
  deriving DecidableEq, Repr

namespace Frame

def closer : Frame → UInt8
  | .list => closeList
  | .object => closeObject

def unfinished : Frame → Fault
  | .list => .endInList
  | .object => .endInObject

def unclosed : Frame → Fault
  | .list => .expectedListEnd
  | .object => .expectedObjectEnd

end Frame

inductive SkipMode where
  | value
  | item (frame : Frame)
  | opened (frame : Frame)
  | closed
  deriving DecidableEq, Repr

namespace SkipMode

def least : SkipMode → Nat
  | .closed => 0
  | _ => 1

def rank : SkipMode → Nat
  | .closed => 3
  | .opened _ => 2
  | .item _ => 1
  | .value => 0

end SkipMode

def skipMark (mark : UInt8) (unfinished other : Fault) : Reader Unit := fun input =>
  match h : skipBlank input with
  | [] => .error unfinished
  | b :: rest => if b = mark then .ok ⟨(), rest, length_of_skipBlank h⟩ else .error other

def skipScalar (b : UInt8) : Bytes → Except Fault Bytes := fun rest =>
  if b = quoteMark then (skipLiteral rest).map (·.rest)
  else if b = minus then skipUnsigned rest
  else if isDigit b then skipUnsigned (b :: rest)
  else
    match Word.ofInitial? b with
    | none => .error .expectedValue
    | some word => expectBytes word.tail rest

theorem length_of_skipScalar {b : UInt8} {input rest : Bytes} (h : skipScalar b input = .ok rest) :
    rest.length ≤ input.length := by
  unfold skipScalar at h
  split at h
  · cases read : skipLiteral input with
    | error fault =>
      rw [read] at h
      cases h
    | ok parsed =>
      rw [read] at h
      cases h
      exact Nat.le_of_lt parsed.shorter
  · split at h
    · exact Nat.le_of_lt (length_of_skipUnsigned h)
    · split at h
      · exact Nat.le_of_lt_succ (length_of_skipUnsigned h)
      · split at h
        · cases h
        · exact length_of_expectBytes h

/-- Passes over what the mode says, and over what is still open; `outer` holds the frames around it,
the innermost first. -/
def skipFrom (bound : Nat) (mode : SkipMode) (outer : List Frame) (input : Bytes)
    (fits : input.length < bound + mode.least) : Except Fault (Parsed Unit bound) :=
  match mode, outer with
  | .closed, [] => .ok ⟨(), input, fits⟩
  | .closed, frame :: outer =>
    match h : skipBlank input with
    | [] => .error frame.unfinished
    | b :: rest =>
      have := length_of_skipBlank h
      if b = comma then
        skipFrom bound (.item frame) outer rest (by simp only [SkipMode.least] at fits ⊢; omega)
      else if b = frame.closer then
        skipFrom bound .closed outer rest (by simp only [SkipMode.least] at fits ⊢; omega)
      else .error frame.unclosed
  | .opened frame, outer =>
    match h : skipBlank input with
    | [] => .error frame.unfinished
    | b :: rest =>
      have := length_of_skipBlank h
      if b = frame.closer then
        skipFrom bound .closed outer rest (by simp only [SkipMode.least] at fits ⊢; omega)
      else skipFrom bound (.item frame) outer input fits
  | .item .list, outer => skipFrom bound .value (.list :: outer) input fits
  | .item .object, outer =>
    match skipMark quoteMark .endInObject .keyNotString input with
    | .error fault => .error fault
    | .ok mark =>
      match skipLiteral mark.rest with
      | .error fault => .error fault
      | .ok key =>
        match skipMark colon .endInObject .expectedColon key.rest with
        | .error fault => .error fault
        | .ok before =>
          have := mark.shorter
          have := key.shorter
          have := before.shorter
          skipFrom bound .value (.object :: outer) before.rest
            (by simp only [SkipMode.least] at fits ⊢; omega)
  | .value, outer =>
    match h : skipBlank input with
    | [] => .error .endInValue
    | b :: rest =>
      have short := length_of_skipBlank h
      if b = openList then
        skipFrom bound (.opened .list) outer rest (by simp only [SkipMode.least] at fits ⊢; omega)
      else if b = openObject then
        skipFrom bound (.opened .object) outer rest (by simp only [SkipMode.least] at fits ⊢; omega)
      else
        match h' : skipScalar b rest with
        | .error fault => .error fault
        | .ok left =>
          have := length_of_skipScalar h'
          skipFrom bound .closed outer left (by simp only [SkipMode.least] at fits ⊢; omega)
termination_by (input.length, mode.rank)
decreasing_by
  all_goals simp only [SkipMode.rank]
  all_goals first
    | (apply Prod.Lex.left; omega)
    | (apply Prod.Lex.right; omega)

def skip : Reader Unit := fun input =>
  skipFrom input.length .value [] input (Nat.lt_succ_self _)

end Sightline.Json
