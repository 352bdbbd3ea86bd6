import Sightline.Json.Number
import Sightline.Json.Word

/-! JSON values: what is left of a JSON text when the way it was written does not matter any more. -/

set_option autoImplicit false

namespace Sightline.Json

inductive Value where
  | null
  | bool (value : Bool)
  | number (number : Number)
  | string (text : String)
  | list (items : List Value)
  /-- The members stand in the order of their names, and no name stands twice. -/
  | object (members : List (String × Value))

namespace Value

def put (name : String) (value : Value) : List (String × Value) → List (String × Value)
  | [] => [(name, value)]
  | (other, held) :: more =>
    if name = other then (name, value) :: more
    else if name < other then (name, value) :: (other, held) :: more
    else (other, held) :: put name value more

def found : Value → Found
  | .null => .null
  | .bool value => .bool value
  | .number n => n.found
  | .string text => .string text
  | .list _ => .sequence
  | .object _ => .map

def member? (name : String) : Value → Option Value
  | .object members => (members.find? (·.1 = name)).map (·.2)
  | _ => none

end Value

def Word.value : Word → Value
  | .null => .null
  | .true => .bool Bool.true
  | .false => .bool Bool.false

end Sightline.Json
