/-! Paths from the folder that a disk stands in.

A path is the list of its parts, as slashes divide it; no part is lost, so a path is written as it
was read. Empty parts and single dots lead nowhere, two dots lead one folder up. -/

set_option autoImplicit false

namespace Sightline

structure Path where
  parts : List String
  deriving DecidableEq, Repr

namespace Path

def ofText (text : String) : Path := ⟨text.splitOn "/"⟩

def text (path : Path) : String := "/".intercalate path.parts

def isIdle (part : String) : Bool := part = "" || part = "."

/-- The path without the idle parts at its end, except for a dot that is all of it. -/
def trimmed (path : Path) : Path :=
  match path.parts with
  | [] => path
  | first :: more =>
    match (more.reverse.dropWhile isIdle).reverse with
    | [] => if first = "" then ⟨[]⟩ else ⟨[first]⟩
    | kept => ⟨first :: kept⟩

def isEmpty (path : Path) : Bool := path.trimmed.parts.isEmpty

def parent? (path : Path) : Option Path :=
  if path.isEmpty then none else some (trimmed ⟨path.trimmed.parts.dropLast⟩)

def ancestors (path : Path) : List Path :=
  climb path.parts.length path
where
  climb : Nat → Path → List Path
    | 0, _ => []
    | more + 1, path =>
      match path.parent? with
      | none => []
      | some above => path :: climb more above

def unslashed (path : Path) : Path := ⟨(path.parts.reverse.dropWhile (· = "")).reverse⟩

/-- The path of an entry of the folder that this path leads to. A slash at the end of the path divides
it from the entry's name already. -/
def join (path : Path) (name : String) : Path :=
  ⟨(if path.parts.getLast? = some "" then path.parts.dropLast else path.parts) ++ [name]⟩

def size (path : Path) : Nat := path.text.utf8ByteSize

end Path

end Sightline
