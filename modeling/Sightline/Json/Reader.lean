import Sightline.Json.Skip

/-! Readers for values of a known kind. A value of another kind is a fault that says what was
expected. -/

set_option autoImplicit false

namespace Sightline.Json

variable {α σ : Type}

/-- The fault of a value that begins with the byte `b`, where another kind was expected. Words,
numbers and strings are read to the end to say what was found, which may bring up another fault. -/
def mismatch (expected : String) (b : UInt8) (rest : Bytes) : Fault :=
  let found : Except Fault Found :=
    if b = quoteMark then (literal rest).map (.string ·.value)
    else if b = minus then (readUnsigned true rest).map (·.1.found)
    else if isDigit b then (readUnsigned false (b :: rest)).map (·.1.found)
    else if b = openList then .ok .sequence
    else if b = openObject then .ok .map
    else
      match Word.ofInitial? b with
      | none => .error .expectedValue
      | some word => (expectBytes word.tail rest).map fun _ => word.found
  match found with
  | .ok found => .invalidType found expected
  | .error fault => fault

def stringAs (expected : String) : Reader String := fun input =>
  match h : skipBlank input with
  | [] => .error .endInValue
  | b :: rest =>
    if b = quoteMark then
      (literal rest).map (·.widen (length_le_of_skipBlank h))
    else .error (mismatch expected b rest)

def text : Reader String := stringAs "a string"

def textAs (expected : String) (take : String → Except String α) : Reader α := fun input =>
  match stringAs expected input with
  | .error fault => .error fault
  | .ok parsed =>
    match take parsed.value with
    | .ok value => .ok (parsed.map fun _ => value)
    | .error reason => .error (.unreadable reason)

def natural (kind : String) (limit : Nat) : Reader Nat := fun input =>
  match h : skipBlank input with
  | [] => .error .endInValue
  | b :: rest =>
    if b = minus then
      match number true rest with
      | .error fault => .error fault
      | .ok parsed =>
        match parsed.value.below kind limit with
        | .error fault => .error fault
        | .ok n =>
          .ok ((parsed.map fun _ => n).widen (length_le_of_skipBlank h))
    else if isDigit b then
      match number false (b :: rest) with
      | .error fault => .error fault
      | .ok parsed =>
        match parsed.value.below kind limit with
        | .error fault => .error fault
        | .ok n => .ok ((parsed.map fun _ => n).widen (length_of_skipBlank h))
    else .error (mismatch kind b rest)

def optional (reader : Reader α) : Reader (Option α) := fun input =>
  match h : skipBlank input with
  | b :: rest =>
    if Word.ofInitial? b = some .null then
      (Word.null.read rest).map fun left =>
        (left.map fun _ => none).widen (length_of_skipBlank h)
    else (reader input).map (·.map some)
  | [] => (reader input).map (·.map some)

def unit : Reader Unit := fun input =>
  match h : skipBlank input with
  | [] => .error .endInValue
  | b :: rest =>
    if Word.ofInitial? b = some .null then
      (Word.null.read rest).map (·.widen (length_of_skipBlank h))
    else .error (mismatch "unit" b rest)

def variant (allowed : List (String × α)) (name : String) : Except Fault α :=
  match allowed.find? (·.1 = name) with
  | some (_, value) => .ok value
  | none => .error (.unknownVariant name (allowed.map (·.1)))

def key : Reader String := fun input =>
  match h : skipBlank input with
  | [] => .error .endInObject
  | b :: rest =>
    if b = quoteMark then
      (literal rest).map (·.widen (length_le_of_skipBlank h))
    else if b = closeObject then .error .expectedValue
    else .error .keyNotString

def oneOf (allowed : List (String × α)) : Reader α := fun input =>
  match h : skipBlank input with
  | [] => .error .endInValue
  | b :: rest =>
    have short := length_of_skipBlank h
    if b = quoteMark then
      match literal rest with
      | .error fault => .error fault
      | .ok parsed =>
        (variant allowed parsed.value).map fun value =>
          (parsed.map fun _ => value).widen (Nat.le_of_lt short)
    else if b = openObject then
      match key rest with
      | .error fault => .error fault
      | .ok name =>
        match variant allowed name.value with
        | .error fault => .error fault
        | .ok value =>
          match skipMark colon .endInObject .expectedColon name.rest with
          | .error fault => .error fault
          | .ok before =>
            match unit before.rest with
            | .error fault => .error fault
            | .ok nothing =>
              match skipMark closeObject .endInObject .expectedValue nothing.rest with
              | .error fault => .error fault
              | .ok closed =>
                .ok ⟨value, closed.rest, by
                  have := name.shorter
                  have := before.shorter
                  have := nothing.shorter
                  have := closed.shorter
                  omega⟩
    else .error .expectedValue

/-! ### Lists -/

inductive NextItem (input : Bytes) where
  /-- The list ends here; `rest` follows its end. -/
  | none (rest : Bytes) (shorter : rest.length < input.length)
  /-- An item follows, possibly after blanks. -/
  | item (rest : Bytes) (within : rest.length ≤ input.length)

def nextItem (first : Bool) (input : Bytes) : Except Fault (NextItem input) :=
  match h : skipBlank input with
  | [] => .error .endInList
  | b :: rest =>
    have short := length_of_skipBlank h
    if b = closeList then .ok (.none rest short)
    else if first then .ok (.item (skipBlank input) (length_skipBlank input))
    else if b = comma then
      let ahead := (skipBlank rest).head?
      if ahead = none then .error .endInValue
      else if ahead = some closeList then .error .trailingComma
      else .ok (.item rest (Nat.le_of_lt short))
    else .error .expectedListEnd

def itemsFrom (reader : Reader α) (bound : Nat) (items : Array α) (input : Bytes)
    (fits : input.length ≤ bound) : Except Fault (Parsed (Array α) bound) :=
  match nextItem items.isEmpty input with
  | .error fault => .error fault
  | .ok (.none rest shorter) => .ok ⟨items, rest, Nat.lt_of_lt_of_le shorter fits⟩
  | .ok (.item rest within) =>
    match reader rest with
    | .error fault => .error fault
    | .ok item =>
      have := item.shorter
      itemsFrom reader bound (items.push item.value) item.rest (by omega)
termination_by input.length
decreasing_by omega

def list (reader : Reader α) : Reader (List α) := fun input =>
  match h : skipBlank input with
  | [] => .error .endInValue
  | b :: rest =>
    if b = openList then
      (itemsFrom reader input.length #[] rest (length_le_of_skipBlank h)).map
        (·.map Array.toList)
    else .error (mismatch "a sequence" b rest)

/-! ### Objects -/

inductive NextKey (input : Bytes) where
  /-- The object ends here; `rest` follows its end. -/
  | none (rest : Bytes) (shorter : rest.length < input.length)
  /-- A key follows; `rest` begins after its opening quote. -/
  | key (rest : Bytes) (shorter : rest.length < input.length)

def nextKey (first : Bool) (input : Bytes) : Except Fault (NextKey input) :=
  match h : skipBlank input with
  | [] => .error .endInObject
  | b :: rest =>
    have short := length_of_skipBlank h
    if b = closeObject then .ok (.none rest short)
    else if first then
      if b = quoteMark then .ok (.key rest short) else .error .keyNotString
    else if b = comma then
      match h' : skipBlank rest with
      | [] => .error .endInValue
      | c :: tail =>
        if c = quoteMark then
          .ok (.key tail (Nat.lt_trans (length_of_skipBlank h') short))
        else if c = closeObject then .error .trailingComma
        else .error .keyNotString
    else .error .expectedObjectEnd

def behindColon (reader : Reader α) : Reader α := fun input =>
  match skipMark colon .endInObject .expectedColon input with
  | .error fault => .error fault
  | .ok mark => (reader mark.rest).map (·.widen (Nat.le_of_lt mark.shorter))

/-- Reads the members of an object to its end; `member` reads what follows a name, and takes the state
further. -/
def membersFrom (member : String → σ → Reader σ) (bound : Nat) (first : Bool) (state : σ)
    (input : Bytes) (fits : input.length ≤ bound) : Except Fault (Parsed σ bound) :=
  match nextKey first input with
  | .error fault => .error fault
  | .ok (.none rest shorter) => .ok ⟨state, rest, Nat.lt_of_lt_of_le shorter fits⟩
  | .ok (.key rest shorter) =>
    match literal rest with
    | .error fault => .error fault
    | .ok name =>
      match member name.value state name.rest with
      | .error fault => .error fault
      | .ok next =>
        have := name.shorter
        have := next.shorter
        membersFrom member bound false next.value next.rest (by omega)
termination_by input.length
decreasing_by omega

/-! ### Documents -/

def parse (reader : Reader α) (input : Bytes) : Except Fault α :=
  match reader input with
  | .error fault => .error fault
  | .ok parsed =>
    match skipBlank parsed.rest with
    | [] => .ok parsed.value
    | _ :: _ => .error .trailingCharacters

end Sightline.Json
