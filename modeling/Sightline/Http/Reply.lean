import Sightline.Http.Chunked
import Sightline.Json.Number

/-! The reply to a request, as it is found in the bytes that come in until the line is closed. -/

set_option autoImplicit false

namespace Sightline.Http

structure Reply where
  status : Nat
  body : Bytes
  /-- Nothing of the body is missing. -/
  isWhole : Bool := true
  /-- The reply sends the client to another address. -/
  sendsOn : Bool := false
  deriving DecidableEq, Repr

def Reply.isSuccess (reply : Reply) : Bool := 200 ≤ reply.status && reply.status < 300

inductive Framing where
  /-- There is no body, whatever the headers say. -/
  | absent
  | sized (length : Nat)
  | chunked
  | untilEnd
  deriving DecidableEq, Repr

def longestBody : Nat := 18446744073709551613

def lengthOf? (digits : Bytes) : Option Nat := do
  guard (!digits.isEmpty && digits.all Json.isDigit)
  let number := digits.foldl (fun sum b => min (10 * sum + Json.digitOf b) Json.wordLimit) 0
  guard (number < Json.wordLimit)
  return number

def byComma (bytes : Bytes) : List Bytes :=
  bytes.foldr
    (fun b parts =>
      if b = 44 then [] :: parts
      else
        match parts with
        | [] => [[b]]
        | part :: more => (b :: part) :: more)
    [[]]

/-- The length that headers announce. They may do so more than once, and have to agree. -/
def announced? (values : List Bytes) : Option Nat := do
  let lengths ← (values.flatMap byComma).mapM fun part => lengthOf? (trimmed part)
  let first ← lengths.head?
  guard (lengths.all (· = first) && first ≤ longestBody)
  return first

def endsInChunks (values : List Bytes) : Bool :=
  match values.getLast? with
  | none => false
  | some value =>
    let coding := (byComma value).getLast? >>= fun coding => plainText? (trimmed coding)
    (plainText? value).isSome && coding.map String.toLower = some "chunked"

def Framing.ofHead? {input : Bytes} (head : Head input) : Option Framing :=
  let codings := head.values "transfer-encoding"
  let lengths := head.values "content-length"
  if [101, 204, 304].contains head.start.status then some .absent
  else if !codings.isEmpty then
    if head.start.isOld then none
    else some (if endsInChunks codings then .chunked else .untilEnd)
  else if lengths.isEmpty then some .untilEnd
  else (announced? lengths).map .sized

namespace Reply

/-- A status of replies that only inform; the one that changes the protocol is none of them. -/
def informs (status : Nat) : Bool := status < 200 && status ≠ 101

def sending : List Nat := [301, 302, 303, 307, 308]

def ofBody (status : Nat) (body : Bytes) : Framing → Reply
  | .absent => { status, body := [] }
  | .untilEnd => { status, body }
  | .sized length => { status, body := body.take length, isWhole := length ≤ body.length }
  | .chunked =>
    match Chunked.read? body with
    | some body => { status, body }
    | none => { status, body := [], isWhole := false }

def read? (input : Bytes) : Option Reply :=
  match Head.read? input with
  | none => none
  | some head =>
    if informs head.start.status then read? head.rest
    else
      (Framing.ofHead? head).map fun framing =>
        { ofBody head.start.status head.rest framing with
          sendsOn := sending.contains head.start.status && !(head.values "location").isEmpty }
termination_by input.length
decreasing_by exact head.shorter

end Reply

end Sightline.Http
