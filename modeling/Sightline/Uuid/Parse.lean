import Sightline.Uuid

/-! Reading identifiers: 32 digits, plain or in hyphenated groups; the hyphenated form may stand in
braces or after `urn:uuid:`. -/

set_option autoImplicit false

namespace Sightline.Uuid

inductive ParseError where
  /-- A character that no form has, and its place in bytes. -/
  | character (found : Char) (place : Nat)
  /-- Digits only, but not 32 of them. -/
  | length (found : Nat)
  | groupCount (found : Nat)
  /-- Groups are numbered from zero. -/
  | groupLength (group expected found : Nat)
  deriving DecidableEq, Repr

def ParseError.message : ParseError → String
  | .character found place =>
    "invalid character: found `" ++ toString found ++ "` at " ++ toString place
  | .length found => "invalid length: found " ++ toString found
  | .groupCount found => "invalid group count: expected 5, found " ++ toString found
  | .groupLength group expected found =>
    "invalid group length in group " ++ toString group ++ ": expected " ++ toString expected
      ++ ", found " ++ toString found

def digitValue? (c : Char) : Option Nat :=
  if '0' ≤ c ∧ c ≤ '9' then some (c.toNat - 48)
  else if 'a' ≤ c ∧ c ≤ 'f' then some (c.toNat - 87)
  else if 'A' ≤ c ∧ c ≤ 'F' then some (c.toNat - 55)
  else none

def number? (digits : List Char) : Option Nat :=
  digits.foldl (fun sum c => do return 16 * (← sum) + (← digitValue? c)) (some 0)

def groups : List Char → List (List Char)
  | [] => [[]]
  | c :: rest =>
    if c = '-' then [] :: groups rest
    else
      match groups rest with
      | first :: more => (c :: first) :: more
      | [] => [[c]]

def scheme : List Char := ['u', 'r', 'n', ':', 'u', 'u', 'i', 'd', ':']

/-- Takes braces or the scheme off a text; gives how many bytes stood in front. The case of the
scheme's letters does not matter. -/
def unwrap (text : List Char) : List Char × Option Nat :=
  if text.head? = some '{' ∧ 2 ≤ text.length ∧ text.getLast? = some '}' then
    ((text.drop 1).dropLast, some 1)
  else if (text.take 9).map Char.toLower = scheme then (text.drop 9, some 9)
  else (text, none)

def stray? : List Char → Nat → Option (Char × Nat)
  | [], _ => none
  | c :: rest, place =>
    if c = '-' ∨ (digitValue? c).isSome then stray? rest (place + 1) else some (c, place)

/-- The first group that has not the length it should have; the last one is taken to reach to the end
of the text, whose length in bytes is `total`. -/
def oddGroup (total : Nat) : Nat → List Nat → List (List Char) → ParseError
  | group, expected :: later, digits :: more =>
    match later with
    | [] => .groupLength group expected (total - 24)
    | _ :: _ =>
      if digits.length ≠ expected then .groupLength group expected digits.length
      else oddGroup total (group + 1) later more
  | group, _, _ => .groupLength group 12 (total - 24)

def faultWithin (body : List Char) (skipped total : Nat) (mayBePlain : Bool) : ParseError :=
  match stray? body skipped with
  | some (c, place) => .character c place
  | none =>
    let parts := groups body
    if parts.length = 1 ∧ mayBePlain then .length total
    else if parts.length ≠ 5 then .groupCount parts.length
    else oddGroup total 0 groupLengths parts

def size (text : List Char) : Nat := (String.ofList text).utf8ByteSize

def plainSize : Nat := 32

def hyphenatedSize : Nat := 36

def longestSize : Nat := 45

/-- What is wrong with a text that has none of the forms. Where the length is that of the plain or of the
hyphenated form, this form is what the text is judged by, without what stands around it. -/
def fault (text : List Char) : ParseError :=
  let total := size text
  if longestSize < total then .length total
  else if total = plainSize then faultWithin text 0 total true
  else if total = hyphenatedSize then faultWithin text 0 total false
  else
    let (body, skipped) := unwrap text
    if size body = hyphenatedSize then faultWithin body 0 hyphenatedSize false
    else faultWithin body (skipped.getD 0) total (skipped = none)

def parse (text : String) : Except ParseError Uuid :=
  let chars := text.toList
  let (body, skipped) := unwrap chars
  let parts := groups body
  let lengths := parts.map List.length
  if lengths = groupLengths ∨ (skipped = none ∧ lengths = [32]) then
    match number? parts.flatten with
    | some n => .ok ⟨BitVec.ofNat 128 n⟩
    | none => .error (fault chars)
  else .error (fault chars)

end Sightline.Uuid
