import Sightline.Bytes

/-! Heads of answers: a line with the status, and headers up to an empty line.

A line ends with a line feed, before which a carriage return may stand. -/

set_option autoImplicit false

namespace Sightline.Http

def lineFeed : UInt8 := 10
def carriageReturn : UInt8 := 13

theorem length_of_dropWhile {p : UInt8 → Bool} {input rest : Bytes} {b : UInt8}
    (h : input.dropWhile p = b :: rest) : rest.length < input.length := by
  have := (List.dropWhile_suffix p (l := input)).length_le
  rw [h, List.length_cons] at this
  omega

structure Line (input : Bytes) where
  written : Bytes
  rest : Bytes
  shorter : rest.length < input.length

def Line.cut? (mark : UInt8) (input : Bytes) : Option (Line input) :=
  match h : input.dropWhile (· ≠ mark) with
  | [] => none
  | _ :: rest => some ⟨input.takeWhile (· ≠ mark), rest, length_of_dropWhile h⟩

def Line.first? (input : Bytes) : Option (Line input) := cut? lineFeed input

def Line.content {input : Bytes} (line : Line input) : Bytes :=
  if line.written.getLast? = some carriageReturn then line.written.dropLast else line.written

def isNameByte (b : UInt8) : Bool :=
  (48 ≤ b && b ≤ 57) || (65 ≤ b && b ≤ 90) || (97 ≤ b && b ≤ 122)
    || (Bytes.ofText "!#$%&\x27*+-.^_\x60|~").contains b

/-- Whether a byte may stand in the value of a header: of the control bytes only the tab may. -/
def isValueByte (b : UInt8) : Bool := b = 9 || (32 ≤ b && b ≠ 127)

def isPadding (b : UInt8) : Bool := b = 32 || b = 9

def trimmed (bytes : Bytes) : Bytes :=
  ((bytes.dropWhile isPadding).reverse.dropWhile isPadding).reverse

def plainText? (bytes : Bytes) : Option String :=
  if bytes.all fun b => isPadding b || (32 ≤ b && b < 127) then Bytes.text? bytes else none

structure Header where
  /-- The name in small letters. -/
  name : String
  value : Bytes
  deriving DecidableEq, Repr

def Header.ofLine? (line : Bytes) : Option Header :=
  match line.dropWhile isNameByte with
  | [] => none
  | mark :: value => do
    let name := line.takeWhile isNameByte
    guard (mark = 58 && !name.isEmpty && value.all isValueByte)
    return ⟨(← plainText? name).toLower, trimmed value⟩

structure Headers (input : Bytes) where
  all : List Header
  rest : Bytes
  shorter : rest.length < input.length

def Headers.read? (input : Bytes) : Option (Headers input) :=
  match Line.first? input with
  | none => none
  | some line =>
    if line.content.isEmpty then some ⟨[], line.rest, line.shorter⟩
    else
      match Header.ofLine? line.content with
      | none => none
      | some header =>
        (read? line.rest).map fun later =>
          ⟨header :: later.all, later.rest, Nat.lt_trans later.shorter line.shorter⟩
termination_by input.length
decreasing_by exact line.shorter

structure StatusLine where
  /-- The answer is of the older of the two versions. -/
  isOld : Bool
  status : Nat
  deriving DecidableEq, Repr

/-- Reads the first line of an answer. A status has three digits and is not below 100; what may be
said after it does not matter. -/
def StatusLine.ofLine? (line : Bytes) : Option StatusLine := do
  let mark := Bytes.ofText "HTTP/1."
  guard (line.take mark.length = mark)
  match line.drop mark.length with
  | version :: blank :: a :: b :: c :: phrase =>
    guard ((version = 48 || version = 49) && blank = 32)
    guard ([a, b, c].all fun digit => 48 ≤ digit && digit ≤ 57)
    guard (phrase.all isValueByte && (phrase.head?.getD 32 = 32))
    let status := 100 * (a.toNat - 48) + 10 * (b.toNat - 48) + (c.toNat - 48)
    guard (100 ≤ status)
    return ⟨version = 48, status⟩
  | _ => none

structure Head (input : Bytes) where
  start : StatusLine
  headers : List Header
  rest : Bytes
  shorter : rest.length < input.length

namespace Head

def mostHeaders : Nat := 100

/-- Reads the head of an answer. Empty lines before it count for nothing. -/
def read? (input : Bytes) : Option (Head input) :=
  match Line.first? input with
  | none => none
  | some line =>
    if line.content.isEmpty then
      (read? line.rest).map fun head =>
        { head with shorter := Nat.lt_trans head.shorter line.shorter }
    else
      match StatusLine.ofLine? line.content, Headers.read? line.rest with
      | some start, some headers =>
        if headers.all.length ≤ mostHeaders then
          some ⟨start, headers.all, headers.rest, Nat.lt_trans headers.shorter line.shorter⟩
        else none
      | _, _ => none
termination_by input.length
decreasing_by exact line.shorter

def values {input : Bytes} (head : Head input) (name : String) : List Bytes :=
  (head.headers.filter (·.name = name)).map (·.value)

end Head

end Sightline.Http
