import Sightline.Decimal.Notation
import Sightline.Json.Parsed

/-! Numbers: integers that fit a machine word are kept as they are, all others become numbers of
double precision.

Digits count as long as they fit an unsigned word of 64 bits. Those after that only raise the power
of ten before the point, and do nothing behind it. -/

set_option autoImplicit false

namespace Sightline.Json

inductive Number where
  | natural (n : Nat)
  | integer (n : Int)
  | fraction (negative : Bool) (size : Double)
  deriving DecidableEq, Repr

def Number.found : Number → Found
  | .natural n => .integer n
  | .integer n => .integer n
  | .fraction negative size => .fraction (size.text negative)

def Number.below (kind : String) (limit : Nat) : Number → Except Fault Nat
  | .natural n => if n < limit then .ok n else .error (.invalidValue (.integer n) kind)
  | .integer n => .error (.invalidValue (.integer n) kind)
  | .fraction negative size =>
    .error (.invalidType (Number.fraction negative size).found kind)

def isDigit (b : UInt8) : Bool := 48 ≤ b && b ≤ 57

def digitOf (b : UInt8) : Nat := b.toNat - 48

def wordLimit : Nat := 18446744073709551616

def exponentLimit : Nat := 2147483647

def isExponentMark (b : UInt8) : Bool := b == 101 || b == 69

/-- Appends digits to a number while the result fits a word. Gives the number, how many digits were
appended, and what is left. -/
def appendDigits : Nat → Nat → Bytes → Nat × Nat × Bytes
  | sum, count, [] => (sum, count, [])
  | sum, count, b :: rest =>
    if isDigit b && 10 * sum + digitOf b < wordLimit then
      appendDigits (10 * sum + digitOf b) (count + 1) rest
    else (sum, count, b :: rest)

theorem length_appendDigits (sum count : Nat) (input : Bytes) :
    (appendDigits sum count input).2.2.length ≤ input.length := by
  induction input generalizing sum count with
  | nil => exact Nat.le_refl _
  | cons b rest ih =>
    simp only [appendDigits]
    split
    · exact Nat.le_succ_of_le (ih _ _)
    · exact Nat.le_refl _

theorem length_dropWhile_le (p : UInt8 → Bool) (input : Bytes) :
    (input.dropWhile p).length ≤ input.length :=
  (List.dropWhile_suffix p).length_le

def powerOfTen (n : Nat) : Double := (Double.ofRatio (Decimal.tenTo n) 1).getD .zero

def greatestPower : Nat := 308

def shrink : Nat → Double → Nat → Double
  | 0, _, _ => .zero
  | more + 1, size, power =>
    if power ≤ greatestPower then (size.div (powerOfTen power)).getD .zero
    else if size.isZero then size
    else shrink more ((size.div (powerOfTen greatestPower)).getD .zero) (power - greatestPower)

/-- The number `significand · 10 ^ exponent`, each of its two factors and the result being
rounded. -/
def sizeOf (significand : Nat) (exponent : Int) : Except Fault Double :=
  match Double.ofRatio significand 1 with
  | none => .error .numberOutOfRange
  | some size =>
    if 0 ≤ exponent then
      if exponent ≤ greatestPower then
        match size.mul (powerOfTen exponent.toNat) with
        | some size => .ok size
        | none => .error .numberOutOfRange
      else if size.isZero then .ok size
      else .error .numberOutOfRange
    else .ok (shrink 4 size exponent.natAbs)

def finishNumber (negative : Bool) (significand : Nat) (exponent : Int) (rest : Bytes) :
    Except Fault (Number × Bytes) :=
  (sizeOf significand exponent).map fun size => (.fraction negative size, rest)

def readPower (negative : Bool) (significand : Nat) (exponent : Int) (down : Bool) (input : Bytes) :
    Except Fault (Number × Bytes) :=
  match input with
  | [] => .error .endInValue
  | b :: rest =>
    if isDigit b then
      let digits := (b :: rest).takeWhile isDigit
      let rest := rest.dropWhile isDigit
      let size := digits.foldl (fun sum b => min (10 * sum + digitOf b) (exponentLimit + 1)) 0
      if size ≤ exponentLimit then
        finishNumber negative significand (if down then exponent - size else exponent + size) rest
      else if significand = 0 ∨ down then .ok (.fraction negative .zero, rest)
      else .error .numberOutOfRange
    else .error .invalidNumber

def readExponent (negative : Bool) (significand : Nat) (exponent : Int) (input : Bytes) :
    Except Fault (Number × Bytes) :=
  match input with
  | [] => .error .endInValue
  | b :: rest =>
    if b = 43 then readPower negative significand exponent false rest
    else if b = minus then readPower negative significand exponent true rest
    else readPower negative significand exponent false (b :: rest)

def readScale (negative : Bool) (significand : Nat) (exponent : Int) (input : Bytes) :
    Except Fault (Number × Bytes) :=
  match input with
  | b :: rest =>
    if isExponentMark b then readExponent negative significand exponent rest
    else finishNumber negative significand exponent input
  | [] => finishNumber negative significand exponent []

def readFraction (negative : Bool) (significand : Nat) (exponent : Int) (input : Bytes) :
    Except Fault (Number × Bytes) :=
  let (significand, count, left) := appendDigits significand 0 input
  let exponent := exponent - count
  match left with
  | b :: _ =>
    if isDigit b then readScale negative significand exponent (left.dropWhile isDigit)
    else if count = 0 then .error .invalidNumber
    else readScale negative significand exponent left
  | [] => if count = 0 then .error .endInValue else readScale negative significand exponent []

def readAfterInteger (negative : Bool) (significand : Nat) (input : Bytes) :
    Except Fault (Number × Bytes) :=
  let whole : Except Fault (Number × Bytes) :=
    .ok (if negative then
        if significand = 0 ∨ 9223372036854775808 < significand then
          .fraction true ((Double.ofRatio significand 1).getD .zero)
        else .integer (-significand)
      else .natural significand, input)
  match input with
  | b :: rest =>
    if b = 46 then readFraction negative significand 0 rest
    else if isExponentMark b then readExponent negative significand 0 rest
    else whole
  | [] => whole

def readUnsigned (negative : Bool) (input : Bytes) : Except Fault (Number × Bytes) :=
  match input with
  | [] => .error .endInValue
  | b :: rest =>
    if b = 48 then
      match rest with
      | c :: _ => if isDigit c then .error .invalidNumber else readAfterInteger negative 0 rest
      | [] => readAfterInteger negative 0 []
    else if isDigit b then
      let (significand, _, left) := appendDigits (digitOf b) 1 rest
      match left with
      | c :: _ =>
        if isDigit c then
          let beyond := (left.takeWhile isDigit).length
          match left.dropWhile isDigit with
          | d :: more =>
            if d = 46 then readFraction negative significand beyond more
            else readScale negative significand beyond (d :: more)
          | [] => readScale negative significand beyond []
        else readAfterInteger negative significand left
      | [] => readAfterInteger negative significand []
    else .error .invalidNumber

/-! ### Every number takes at least one byte -/

theorem rest_of_finishNumber {negative : Bool} {significand : Nat} {exponent : Int}
    {number : Number} {input rest : Bytes}
    (h : finishNumber negative significand exponent input = .ok (number, rest)) :
    rest = input := by
  unfold finishNumber at h
  cases size : sizeOf significand exponent with
  | error fault =>
    rw [size] at h
    cases h
  | ok size' =>
    rw [size] at h
    cases h
    rfl

theorem length_of_readPower {negative down : Bool} {significand : Nat} {exponent : Int}
    {number : Number} {input rest : Bytes}
    (h : readPower negative significand exponent down input = .ok (number, rest)) :
    rest.length ≤ input.length := by
  unfold readPower at h
  split at h
  · cases h
  · next b tail =>
    have := length_dropWhile_le isDigit tail
    simp only at h
    rw [List.length_cons]
    split at h
    · split at h
      · cases rest_of_finishNumber h
        omega
      · split at h
        · cases h
          omega
        · cases h
    · cases h

theorem length_of_readExponent {negative : Bool} {significand : Nat} {exponent : Int}
    {number : Number} {input rest : Bytes}
    (h : readExponent negative significand exponent input = .ok (number, rest)) :
    rest.length ≤ input.length := by
  unfold readExponent at h
  split at h
  · cases h
  · split at h
    · exact Nat.le_succ_of_le (length_of_readPower h)
    · split at h
      · exact Nat.le_succ_of_le (length_of_readPower h)
      · exact length_of_readPower h

theorem length_of_readScale {negative : Bool} {significand : Nat} {exponent : Int}
    {number : Number} {input rest : Bytes}
    (h : readScale negative significand exponent input = .ok (number, rest)) :
    rest.length ≤ input.length := by
  unfold readScale at h
  split at h
  · split at h
    · have := length_of_readExponent h
      simp only [List.length_cons]
      omega
    · cases rest_of_finishNumber h
      exact Nat.le_refl _
  · cases rest_of_finishNumber h
    exact Nat.le_refl _

theorem length_of_readFraction {negative : Bool} {significand : Nat} {exponent : Int}
    {number : Number} {input rest : Bytes}
    (h : readFraction negative significand exponent input = .ok (number, rest)) :
    rest.length ≤ input.length := by
  have bound := length_appendDigits significand 0 input
  unfold readFraction at h
  simp only at h
  split at h
  · next left =>
    rw [left] at bound h
    split at h
    · have := length_of_readScale h
      have := length_dropWhile_le isDigit (appendDigits significand 0 input).2.2
      rw [left] at this
      omega
    · split at h
      · cases h
      · have := length_of_readScale h
        omega
  · split at h
    · cases h
    · have := length_of_readScale h
      simp only [List.length_nil] at this
      omega

theorem length_of_readAfterInteger {negative : Bool} {significand : Nat} {number : Number}
    {input rest : Bytes} (h : readAfterInteger negative significand input = .ok (number, rest)) :
    rest.length ≤ input.length := by
  unfold readAfterInteger at h
  simp only at h
  split at h
  · split at h
    · have := length_of_readFraction h
      simp only [List.length_cons]
      omega
    · split at h
      · have := length_of_readExponent h
        simp only [List.length_cons]
        omega
      · cases h
        exact Nat.le_refl _
  · cases h
    exact Nat.le_refl _

theorem length_of_readUnsigned {negative : Bool} {number : Number} {input rest : Bytes}
    (h : readUnsigned negative input = .ok (number, rest)) : rest.length < input.length := by
  unfold readUnsigned at h
  split at h
  · cases h
  · next b tail =>
    simp only at h
    rw [List.length_cons]
    split at h
    · split at h
      · split at h
        · cases h
        · have := length_of_readAfterInteger h
          omega
      · have := length_of_readAfterInteger h
        omega
    · split at h
      · have bound := length_appendDigits (digitOf b) 1 tail
        split at h
        · next left =>
          rw [left] at bound h
          split at h
          · have drop := length_dropWhile_le isDigit (appendDigits (digitOf b) 1 tail).2.2
            rw [left] at drop
            split at h
            · next dropped =>
              rw [dropped] at drop
              simp only [List.length_cons] at drop bound
              split at h
              · have := length_of_readFraction h
                omega
              · have := length_of_readScale h
                simp only [List.length_cons] at this
                omega
            · have := length_of_readScale h
              simp only [List.length_nil] at this
              omega
          · have := length_of_readAfterInteger h
            omega
        · have := length_of_readAfterInteger h
          simp only [List.length_nil] at this
          omega
      · cases h

def number (negative : Bool) : Reader Number := fun input =>
  match h : readUnsigned negative input with
  | .ok (value, rest) => .ok ⟨value, rest, length_of_readUnsigned h⟩
  | .error fault => .error fault

end Sightline.Json
