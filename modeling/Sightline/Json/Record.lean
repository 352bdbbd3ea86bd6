import Sightline.Json.Form

/-! Records: objects whose members are known by name. A record may also stand as a list of its fields
in order. -/

set_option autoImplicit false

namespace Sightline.Json

variable {σ : Type}

/-- A field of a record: its value changes the record. A field that is not required keeps its
default when it is missing. A list of values may have to hold more fields than an object. -/
structure RecordField (σ : Type) where
  name : String
  required : Bool := false
  requiredInList : Bool := required
  form : Form (σ → σ)

/-! ### Records in texts -/

def endOfList : Reader Unit := fun input =>
  match h : skipBlank input with
  | [] => .error .endInList
  | b :: rest =>
    if b = closeList then .ok ⟨(), rest, length_of_skipBlank h⟩
    else if b = comma then
      match skipBlank rest with
      | c :: _ => if c = closeList then .error .trailingComma else .error .trailingCharacters
      | [] => .error .trailingCharacters
    else .error .trailingCharacters

def sizedTitle (title : String) (count : Nat) : String :=
  title ++ " with " ++ toString count ++ (if count = 1 then " element" else " elements")

/-- Reads the fields of a record from a list, in their order. The list may end early if no required
field is left. -/
def fieldsFrom (title : String) (count bound : Nat) (state : σ) (done : Nat) :
    (fields : List (RecordField σ)) → (input : Bytes) → (fits : input.length ≤ bound) →
    Except Fault (Parsed σ bound)
  | [], input, fits =>
    (endOfList input).map fun left => (left.map fun _ => state).widen fits
  | field :: more, input, fits =>
    match nextItem (done = 0) input with
    | .error fault => .error fault
    | .ok (.none rest shorter) =>
      match (field :: more).findIdx? (·.requiredInList) with
      | some place => .error (.invalidLength (done + place) (sizedTitle title count))
      | none => .ok ⟨state, rest, Nat.lt_of_lt_of_le shorter fits⟩
    | .ok (.item rest within) =>
      match field.form.read rest with
      | .error fault => .error fault
      | .ok change =>
        have := change.shorter
        fieldsFrom title count bound (change.value state) (done + 1) more change.rest (by omega)

def complete (fields : List (RecordField σ)) (seen : List String) (state : σ) : Except Fault σ :=
  match fields.find? fun field => field.required && !seen.contains field.name with
  | some field => .error (.missingField field.name)
  | none => .ok state

structure Begun (σ : Type) where
  state : σ
  seen : List String := []

def member (fields : List (RecordField σ)) (name : String) (begun : Begun σ) : Reader (Begun σ) :=
  match fields.find? (·.name = name) with
  | none => (behindColon skip).map fun _ => begun
  | some field =>
    if begun.seen.contains name then fun _ => .error (.duplicateField name)
    else
      (behindColon field.form.read).map fun change =>
        { state := change begun.state, seen := name :: begun.seen }

def readRecord (title : String) (fields : List (RecordField σ)) (defaults : σ) : Reader σ :=
  fun input =>
    match h : skipBlank input with
    | [] => .error .endInValue
    | b :: rest =>
      have short := length_le_of_skipBlank h
      if b = openObject then
        match membersFrom (member fields) input.length true { state := defaults } rest short with
        | .error fault => .error fault
        | .ok begun =>
          (complete fields begun.value.seen begun.value.state).map fun state =>
            begun.map fun _ => state
      else if b = openList then
        fieldsFrom title fields.length input.length defaults 0 fields rest short
      else .error (mismatch title b rest)

/-! ### Records out of values -/

def takeItems (title : String) (count : Nat) (state : σ) (done : Nat) :
    List (RecordField σ) → List Value → Except Fault σ
  | [], [] => .ok state
  | [], left => .error (.invalidLength (done + left.length) "fewer elements in array")
  | fields, [] =>
    match fields.findIdx? (·.requiredInList) with
    | some place => .error (.invalidLength (done + place) (sizedTitle title count))
    | none => .ok state
  | field :: fields, item :: items => do
    takeItems title count ((← field.form.take item) state) (done + 1) fields items

def takeMembers (fields : List (RecordField σ)) (seen : List String) (state : σ) :
    List (String × Value) → Except Fault σ
  | [] => complete fields seen state
  | (name, value) :: more =>
    match fields.find? (·.name = name) with
    | none => takeMembers fields seen state more
    | some field => do
      takeMembers fields (name :: seen) ((← field.form.take value) state) more

def Form.record (title : String) (fields : List (RecordField σ)) (defaults : σ) : Form σ :=
  { read := readRecord title fields defaults
    take := fun value =>
      match value with
      | .object members => takeMembers fields [] defaults members
      | .list items => takeItems title fields.length defaults 0 fields items
      | value => .error (value.mismatch title) }

end Sightline.Json
