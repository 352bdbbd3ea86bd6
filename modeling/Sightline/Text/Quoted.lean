import Sightline.Text.Unprinted
import Sightline.Uuid

/-! Text in quotes, as it is shown in messages: quotes and backslashes are escaped, and characters
without a picture are shown by their number. -/

set_option autoImplicit false

namespace Sightline.Text

def hex (n : Nat) : String := String.ofList (Uuid.hexDigits ((Nat.log2 n) / 4 + 1) n)

def shown (c : Char) : String :=
  if c = '\x00' then "\\0"
  else if c = '\t' then "\\t"
  else if c = '\r' then "\\r"
  else if c = '\n' then "\\n"
  else if c = '\\' then "\\\\"
  else if c = '"' then "\\\""
  else if isUnprinted c then "\\u\x7b" ++ hex c.toNat ++ "\x7d"
  else c.toString

def quoted (text : String) : String :=
  "\"" ++ String.join (text.toList.map shown) ++ "\""

end Sightline.Text
