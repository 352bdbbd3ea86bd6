import Sightline.Json.Reader
import Sightline.Json.Value

/-! Reading values of any kind. A value that is nested too deeply is refused; of members of one name
the last one counts. -/

set_option autoImplicit false

namespace Sightline.Json.Value

def member (reader : Reader Value) (name : String) (members : List (String × Value)) :
    Reader (List (String × Value)) :=
  (behindColon reader).map fun value => put name value members

def readWith (part : Option (Reader Value)) : Reader Value := fun input =>
  match h : skipBlank input with
  | [] => .error .endInValue
  | b :: rest =>
    have short := length_of_skipBlank h
    have shorter := length_le_of_skipBlank h
    if b = openList then
      match part with
      | none => .error .tooDeep
      | some reader =>
        (itemsFrom reader input.length #[] rest shorter).map (·.map fun items => .list items.toList)
    else if b = openObject then
      match part with
      | none => .error .tooDeep
      | some reader =>
        (membersFrom (member reader) input.length true [] rest shorter).map (·.map .object)
    else if b = quoteMark then (literal rest).map fun text => (text.map .string).widen shorter
    else if b = minus then (Json.number true rest).map fun n => (n.map .number).widen shorter
    else if isDigit b then (Json.number false (b :: rest)).map fun n => (n.map .number).widen short
    else
      match Word.ofInitial? b with
      | none => .error .expectedValue
      | some word => (word.read rest).map fun left => (left.map fun _ => word.value).widen short

def readTo : Nat → Reader Value
  | 0 => readWith none
  | depth + 1 => readWith (some (readTo depth))

def greatestDepth : Nat := 127

def reader : Reader Value := readTo greatestDepth

def parse (input : Bytes) : Except Fault Value := Json.parse reader input

end Sightline.Json.Value
