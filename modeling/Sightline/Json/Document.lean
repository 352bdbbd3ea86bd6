import Sightline.Bytes
import Sightline.Uuid

/-! Writing JSON, in one line or spread over lines with two spaces for every level.

Only quotes, backslashes and control characters are escaped. -/

set_option autoImplicit false

namespace Sightline.Json

inductive Document where
  | null
  | bool (value : Bool)
  | natural (n : Nat)
  | string (text : String)
  | list (items : List Document)
  | object (entries : List (String × Document))

def escaped (c : Char) : List Char :=
  if c = '"' then ['\\', '"']
  else if c = '\\' then ['\\', '\\']
  else if c = '\x08' then ['\\', 'b']
  else if c = '\t' then ['\\', 't']
  else if c = '\n' then ['\\', 'n']
  else if c = '\x0c' then ['\\', 'f']
  else if c = '\r' then ['\\', 'r']
  else if c.toNat < 32 then ['\\', 'u'] ++ Uuid.hexDigits 4 c.toNat
  else [c]

def quoted (text : String) : String :=
  String.ofList ('"' :: text.toList.flatMap escaped ++ ['"'])

namespace Document

mutual

def compact : Document → String
  | .null => "null"
  | .bool value => if value then "true" else "false"
  | .natural n => Nat.repr n
  | .string text => quoted text
  | .list items => "[" ++ compactItems items ++ "]"
  | .object entries => "\x7b" ++ compactEntries entries ++ "\x7d"

def compactItems : List Document → String
  | [] => ""
  | [item] => item.compact
  | item :: more => item.compact ++ "," ++ compactItems more

def compactEntries : List (String × Document) → String
  | [] => ""
  | [(name, value)] => quoted name ++ ":" ++ value.compact
  | (name, value) :: more => quoted name ++ ":" ++ value.compact ++ "," ++ compactEntries more

end

def newLine (level : Nat) : String := "\n" ++ String.ofList (List.replicate (2 * level) ' ')

mutual

def prettyAt (level : Nat) : Document → String
  | .null => "null"
  | .bool value => if value then "true" else "false"
  | .natural n => Nat.repr n
  | .string text => quoted text
  | .list [] => "[]"
  | .list (item :: more) =>
    "[" ++ prettyItems (level + 1) (item :: more) ++ newLine level ++ "]"
  | .object [] => "\x7b\x7d"
  | .object (entry :: more) =>
    "\x7b" ++ prettyEntries (level + 1) (entry :: more) ++ newLine level ++ "\x7d"

def prettyItems (level : Nat) : List Document → String
  | [] => ""
  | [item] => newLine level ++ item.prettyAt level
  | item :: more => newLine level ++ item.prettyAt level ++ "," ++ prettyItems level more

def prettyEntries (level : Nat) : List (String × Document) → String
  | [] => ""
  | [(name, value)] => newLine level ++ quoted name ++ ": " ++ value.prettyAt level
  | (name, value) :: more =>
    newLine level ++ quoted name ++ ": " ++ value.prettyAt level ++ "," ++ prettyEntries level more

end

def pretty (document : Document) : String := document.prettyAt 0

end Document

end Sightline.Json
