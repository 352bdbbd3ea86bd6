import Sightline.Http.Host

/-! Addresses of services: the host, a user who is named before it, and the target of requests to the
address, which is path and query.

Tabs and ends of lines in an address count for nothing, a backslash is as good as a slash, segments of
one or two dots are resolved, and whatever may not stand in a target is escaped. The fragment stays
behind. -/

set_option autoImplicit false

namespace Sightline.Http

def isForeign (c : Char) : Bool :=
  c.toNat ≤ 32 || 127 ≤ c.toNat || ['"', '#', '<', '>'].contains c

def isForeignToPath (c : Char) : Bool := isForeign c || ['?', '\x60', '\x7b', '\x7d'].contains c

def isForeignToQuery (c : Char) : Bool := isForeign c || c = '\x27'

def dots? : List Char → Option Nat
  | [] => some 0
  | '.' :: more => (dots? more).map (· + 1)
  | '%' :: '2' :: e :: more => if e = 'e' || e = 'E' then (dots? more).map (· + 1) else none
  | _ => none

/-- Resolves the segments of a path that consist of one or two dots. `done` holds the segments before
them, the last of them first. -/
def resolve (done : List (List Char)) : List (List Char) → List (List Char)
  | [] => done.reverse
  | segment :: more =>
    let next (done : List (List Char)) : List (List Char) :=
      if more.isEmpty then ([] :: done).reverse else resolve done more
    match dots? segment with
    | some 1 => next done
    | some 2 => next (done.drop 1)
    | _ => resolve (segment :: done) more

def segments (text : List Char) : List (List Char) :=
  text.foldr
    (fun c parts =>
      if c = '/' then [] :: parts
      else
        match parts with
        | [] => [[c]]
        | part :: more => (c :: part) :: more)
    [[]]

def path (text : List Char) : List Char :=
  let text := text.map fun c => if c = '\\' then '/' else c
  (resolve [] (segments text)).flatMap fun segment => '/' :: escape isForeignToPath segment

structure Address where
  host : Host
  /-- The name of a user and a password, as they are shown to the host. -/
  credentials : Option String
  target : String
  deriving DecidableEq, Repr

namespace Address

def cutAtColon (inside : Bool) : List Char → List Char × List Char
  | [] => ([], [])
  | c :: rest =>
    if c = ':' && !inside then ([], c :: rest)
    else
      let (before, after) := cutAtColon (c = '[' || (inside && c ≠ ']')) rest
      (c :: before, after)

/-- Whether a text is empty, or a colon and a number of two bytes; without digits the colon counts for
nothing. -/
def isPort (text : List Char) : Bool :=
  match Host.ofDigits? 10 (text.drop 1) with
  | some number => number < 65536
  | none => false

/-- The user named before the host, and the password after a colon. A password that is no text counts
for none, and so does a user without name and password. -/
def credentials? (text : List Char) : Option String := do
  let (name, tail) := text.span (· ≠ ':')
  let name ← unescape? name
  let password := if tail.length ≤ 1 then none else unescape? (tail.drop 1)
  guard (name ≠ "" || password.isSome)
  return name ++ ":" ++ password.getD ""

def schemes : List (List Char) := ["http:".toList, "https:".toList]

def afterScheme? (text : List Char) : Option (List Char) :=
  schemes.findSome? fun scheme =>
    if (text.take scheme.length).map Char.toLower = scheme then
      some ((text.drop scheme.length).dropWhile fun c => c = '/' || c = '\\')
    else none

/-- Reads an address. What stands before the last `@` of the part in front of the path is the user. -/
def ofText? (text : String) : Option Address := do
  let text := text.toList.filter fun c => c ≠ '\t' && c ≠ '\n' && c ≠ '\r'
  let rest ← afterScheme? (text.dropWhile fun c => c.toNat ≤ 32)
  let (authority, rest) := rest.span fun c => c ≠ '/' && c ≠ '\\' && c ≠ '?' && c ≠ '#'
  let (place, user) := authority.reverse.span (· ≠ '@')
  let (name, port) := cutAtColon false place.reverse
  let host ← Host.ofText? name
  guard (isPort port)
  let (locator, _) := rest.span (· ≠ '#')
  let (place, query) := locator.span (· ≠ '?')
  let query := query.take 1 ++ escape isForeignToQuery (query.drop 1)
  return {
    host
    credentials := credentials? (user.drop 1).reverse
    target := String.ofList (path (place.drop 1) ++ query) }

end Address

end Sightline.Http
