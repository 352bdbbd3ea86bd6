import Sightline.Http.Head
import Sightline.Json.Number
import Sightline.Uuid.Parse

/-! Bodies in chunks: every chunk stands after a line with its size in hexadecimal digits, and a chunk
of no bytes ends the body. Headers may follow it. -/

set_option autoImplicit false

namespace Sightline.Http.Chunked

def digit? (b : UInt8) : Option Nat := Uuid.digitValue? (Char.ofNat b.toNat)

def number? (digits : Bytes) : Option Nat := do
  guard (!digits.isEmpty)
  let number := digits.foldl (fun sum b => min (16 * sum + (digit? b).getD 0) Json.wordLimit) 0
  guard (number < Json.wordLimit)
  return number

/-- The size in the line before a chunk, which has to end in a carriage return. What stands behind a
semicolon does not matter. -/
def size? (line : Bytes) : Option Nat := do
  guard (line.getLast? = some carriageReturn)
  let content := line.dropLast
  let isDigit (b : UInt8) : Bool := (digit? b).isSome
  let note := (content.dropWhile isDigit).dropWhile isPadding
  guard (note.head?.getD 59 = 59 && !note.contains carriageReturn)
  number? (content.takeWhile isDigit)

def lineEnd : Bytes := [carriageReturn, lineFeed]

/-- The headers behind the last chunk as they are written, up to an empty line. Only a line feed right
behind a carriage return ends a line here. -/
def trailer? (input : Bytes) : Option Bytes :=
  match Line.cut? carriageReturn input with
  | none => none
  | some line =>
    if line.rest.head? ≠ some lineFeed then none
    else if line.written.isEmpty then some lineEnd
    else (trailer? (line.rest.drop 1)).map fun later => line.written ++ lineEnd ++ later
termination_by input.length
decreasing_by
  have := line.shorter
  simp only [List.length_drop]
  omega

def endsWell (input : Bytes) : Bool :=
  match trailer? input with
  | none => false
  | some trailer => (Headers.read? trailer).isSome

def read? (input : Bytes) : Option Bytes :=
  match Line.first? input with
  | none => none
  | some line =>
    match size? line.written with
    | none => none
    | some 0 => if endsWell line.rest then some [] else none
    | some size =>
      let left := line.rest.drop size
      if left.take 2 = lineEnd then (read? (left.drop 2)).map (line.rest.take size ++ ·) else none
termination_by input.length
decreasing_by
  have := line.shorter
  simp only [List.length_drop]
  omega

end Sightline.Http.Chunked
