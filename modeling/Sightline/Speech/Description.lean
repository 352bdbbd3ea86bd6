import Sightline.Json.Record
import Sightline.Speech
import Sightline.Text.Blank

/-! The description in an answer of the description service: the first text of the first message.

An answer holds items of many kinds; all of them have to be well-formed. -/

set_option autoImplicit false

namespace Sightline

open Json

structure Part where
  kind : String := ""
  text : Option String := none
  deriving DecidableEq, Repr

structure Item where
  kind : String := ""
  parts : List Part := []
  deriving DecidableEq, Repr

def Part.fields : List (RecordField Part) :=
  [{ name := "type", required := true, form := Form.text.map fun kind part => { part with kind } },
   { name := "text", form := (Form.optional .text).map fun text part => { part with text } }]

def Part.form : Form Part := .record "struct OutputContent" Part.fields {}

def Item.fields : List (RecordField Item) :=
  [{ name := "type", required := true, form := Form.text.map fun kind item => { item with kind } },
   { name := "content", form := (Form.list Part.form).map fun parts item => { item with parts } }]

def Item.form : Form Item := .record "struct OutputItem" Item.fields {}

structure Answer where
  items : List Item := []
  deriving DecidableEq, Repr

def Answer.fields : List (RecordField Answer) :=
  [{ name := "output", form := (Form.list Item.form).map fun items answer => { answer with items } }]

def Answer.form : Form Answer := .record "struct VisionResponse" Answer.fields {}

def Answer.description? (answer : Answer) : Option String := do
  let message ← answer.items.find? (·.kind = "message")
  let part ← message.parts.find? (·.kind = "output_text")
  part.text

def description (body : Bytes) : Except ServiceError String :=
  match Answer.form.parse body with
  | .error fault => .error (.malformed fault.message)
  | .ok answer =>
    match answer.description? with
    | none => .error (.malformed "no output_text in response")
    | some text => if Text.allBlank text then .error .emptyDescription else .ok text

end Sightline
