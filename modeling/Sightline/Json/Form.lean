import Sightline.Json.Value.Reader

/-! What the values of a type look like in JSON. They can be read off a text or taken out of a value;
the two agree on what is right, and may find different words for what is wrong. -/

set_option autoImplicit false

namespace Sightline.Json

variable {α β : Type}

structure Form (α : Type) where
  /-- Reads a value off the front of a text. -/
  read : Reader α
  take : Value → Except Fault α

def Form.parse (form : Form α) (input : Bytes) : Except Fault α := Json.parse form.read input

def Form.map (f : α → β) (form : Form α) : Form β :=
  { read := form.read.map f, take := fun value => (form.take value).map f }

def Value.mismatch (expected : String) (value : Value) : Fault := .invalidType value.found expected

def Value.text (expected : String) : Value → Except Fault String
  | .string text => .ok text
  | value => .error (value.mismatch expected)

namespace Form

def text : Form String := { read := Json.text, take := Value.text "a string" }

def textAs (expected : String) (meaning : String → Except String α) : Form α :=
  { read := Json.textAs expected meaning
    take := fun value => do
      match meaning (← Value.text expected value) with
      | .ok value => .ok value
      | .error reason => .error (.unreadable reason) }

def natural (kind : String) (limit : Nat) : Form Nat :=
  { read := Json.natural kind limit
    take := fun value =>
      match value with
      | .number n => n.below kind limit
      | value => .error (value.mismatch kind) }

def optional (form : Form α) : Form (Option α) :=
  { read := Json.optional form.read
    take := fun value =>
      match value with
      | .null => .ok none
      | value => (form.take value).map some }

def takeUnit : Value → Except Fault Unit
  | .null => .ok ()
  | value => .error (value.mismatch "unit")

/-- One of several names, which may also stand as the only member of an object, with `null`. -/
def oneOf (allowed : List (String × α)) : Form α :=
  { read := Json.oneOf allowed
    take := fun value =>
      match value with
      | .string name => variant allowed name
      | .object [(name, held)] => do
        let value ← variant allowed name
        takeUnit held
        return value
      | .object _ => .error (.invalidValue .map "map with a single key")
      | value => .error (value.mismatch "string or map") }

def list (form : Form α) : Form (List α) :=
  { read := Json.list form.read
    take := fun value =>
      match value with
      | .list items => items.mapM form.take
      | value => .error (value.mismatch "a sequence") }

end Form

end Sightline.Json
