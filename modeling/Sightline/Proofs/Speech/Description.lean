import Sightline.Proofs.Json.Lookup
import Sightline.Speech.Description

/-! On what the description in an answer depends.

It is looked for in the first message and nowhere else, but only once the answer has been read as a whole:
the content of every item has to be made like that of a message. `description_of_items` says what comes of
an answer in either case, and `description_spoiled` shows a message that is lost for another item. -/

set_option autoImplicit false

namespace Sightline

open Json

/-! ### Records that say their type -/

namespace Json

variable {σ β : Type} {members : List (Spelling × Tree)} {fields : List (RecordField σ)}
  {states : (String → Option Tree) → Option σ}

@[simp] theorem given_same (look : String → Option Tree) (name : String) (value : Tree) :
    given look name value name = some value := if_pos rfl

theorem given_other (look : String → Option Tree) {name other : String} (value : Tree)
    (different : other ≠ name) : given look name value other = look other := if_neg different

theorem Tracks.of_proper (proper : (Tree.object members).Proper)
    (ignores : ∀ look look' : String → Option Tree,
      (∀ field ∈ fields, look field.name = look' field.name) → states look = states look')
    (reads : ∀ value, value.Proper → ∀ field ∈ fields, ∃ verdict,
      Decides field.form.read value verdict ∧
        ∀ look, look field.name = none → states (given look field.name value)
          = (states look).bind fun state => verdict.map (· state)) :
    Tracks fields states members := by
  cases proper with
  | object named distinct every =>
    refine ⟨named, ?_, ignores, fun member among field here _ => ?_⟩
    · exact (List.pairwise_map.mp distinct).imp fun differ field here spelt same =>
        differ (spelt.trans same.symm)
    · exact reads member.2 (every member among) field here

/-- What a record of its type and one more field becomes of a value: an object, or a list of the two. The
other field may be missing. -/
def typed? (make : String → β → σ) (name : String) (start : β) (verdict : Tree → Option β) :
    Tree → Option σ
  | .object members =>
    ((Tree.lookup members "type").bind Tree.text?).bind fun kind =>
      ((Tree.lookup members name).elim (some start) verdict).map (make kind)
  | .list [kind] => kind.text?.map (make · start)
  | .list [kind, other] => kind.text?.bind fun kind => (verdict other).map (make kind)
  | _ => none

section

variable {title name : String} {form : Form β} {start : β} {verdict : Tree → Option β}
  {make : String → β → σ} {setType : String → σ → σ} {set : β → σ → σ}

theorem decides_typed_object (proper : (Tree.object members).Proper) (other : name ≠ "type")
    (decides : ∀ value, value.Proper → Decides form.read value (verdict value))
    (types : ∀ kind kind' rest, setType kind (make kind' rest) = make kind rest)
    (sets : ∀ kind rest rest', set rest (make kind rest') = make kind rest) :
    Decides (readRecord title
        [{ name := "type", required := true, form := Form.text.map setType },
         { name, form := form.map set }] (make "" start))
      (.object members) (typed? make name start verdict (.object members)) := by
  -- What the two fields have met so far, each with its default.
  let states (look : String → Option Tree) : Option σ :=
    ((look "type").elim (some "") Tree.text?).bind fun kind =>
      ((look name).elim (some start) verdict).map (make kind)
  have tracks : Tracks [{ name := "type", required := true, form := Form.text.map setType },
      { name, form := form.map set }] states members := by
    refine .of_proper proper (fun look look' same => ?_) fun value proper field here => ?_
    · simp only [List.forall_mem_cons] at same
      simp only [states, same]
    · simp only [List.mem_cons, List.not_mem_nil, or_false] at here
      rcases here with rfl | rfl
      · refine ⟨_, (decides_stringAs "a string" value).map setType, fun look unmet => ?_⟩
        simp only at unmet
        simp only [states, given_same, given_other look value other, unmet, Option.elim_some,
          Option.elim_none, Option.bind_some]
        cases value.text? <;> cases (look name).elim (some start) verdict <;> simp [types]
      · refine ⟨_, (decides value proper).map set, fun look unmet => ?_⟩
        simp only at unmet
        simp only [states, given_same, given_other look value other.symm, unmet, Option.elim_some,
          Option.elim_none]
        cases (look "type").elim (some "") Tree.text? <;> cases verdict value <;> simp [sets]
  have whole : verdictOf [{ name := "type", required := true, form := Form.text.map setType },
      { name, form := form.map set }] states members
      = typed? make name start verdict (.object members) := by
    cases kind : Tree.lookup members "type" <;> simp [verdictOf, states, typed?, kind]
  rw [← whole]
  exact decides_object tracks rfl

theorem decides_typed {tree : Tree} (proper : tree.Proper) (other : name ≠ "type")
    (decides : ∀ value, value.Proper → Decides form.read value (verdict value))
    (types : ∀ kind kind' rest, setType kind (make kind' rest) = make kind rest)
    (sets : ∀ kind rest rest', set rest (make kind rest') = make kind rest) :
    Decides (readRecord title
        [{ name := "type", required := true, form := Form.text.map setType },
         { name, form := form.map set }] (make "" start))
      tree (typed? make name start verdict tree) := by
  cases proper with
  | object named distinct every =>
    exact decides_typed_object (.object named distinct every) other decides types sets
  | @list items every =>
    let meaning (field : RecordField σ) (item : Tree) : Option (σ → σ) :=
      if field.name = "type" then item.text?.map setType else (verdict item).map set
    have same : inOrder? meaning [{ name := "type", required := true, form := Form.text.map setType },
        { name, form := form.map set }] (make "" start) items
        = typed? make name start verdict (.list items) := by
      -- A list of two stands for the two fields in order; any other length is refused.
      rcases items with _ | ⟨kind, _ | ⟨rest, _ | ⟨more, others⟩⟩⟩
      · rfl
      · cases spelt : kind.text? <;> simp [inOrder?, typed?, meaning, spelt, types]
      · cases spelt : kind.text? <;> cases told : verdict rest <;>
          simp [inOrder?, typed?, meaning, spelt, told, other, types, sets]
      · cases spelt : kind.text? <;> cases told : verdict rest <;>
          simp [inOrder?, typed?, meaning, spelt, told, other]
    rw [← same]
    refine decides_listed fun field here item among => ?_
    simp only [List.mem_cons, List.not_mem_nil, or_false] at here
    rcases here with rfl | rfl
    · exact (decides_stringAs "a string" item).map setType
    · have chosen : meaning { name, form := form.map set } item = (verdict item).map set :=
        if_neg other
      rw [chosen]
      exact (decides item (every item among)).map set
  | _ => exact refuses_record (by simp) (by simp)

end

end Json

/-! ### Parts and items -/

/-- The part that a value stands for, none if it is not made like one. The text of a part may be missing
or `null`. -/
def Part.of? : Tree → Option Part := typed? Part.mk "text" none fun text => text.unlessNull text.text?

theorem Part.decides {tree : Tree} (proper : tree.Proper) :
    Decides Part.form.read tree (Part.of? tree) :=
  decides_typed proper (by decide)
    (fun value _ => decides_optional (decides_stringAs "a string" value)) (fun _ _ _ => rfl)
    (fun _ _ _ => rfl)

/-- The item that a value stands for, none if it is not made like one: its content is a list of parts, and
may be missing. -/
def Item.of? : Tree → Option Item := typed? Item.mk "content" [] (Tree.all Part.of?)

theorem Item.decides {tree : Tree} (proper : tree.Proper) :
    Decides Item.form.read tree (Item.of? tree) := by
  refine decides_typed proper (by decide) (fun value proper => ?_) (fun _ _ _ => rfl)
    (fun _ _ _ => rfl)
  refine decides_list fun parts same part here => ?_
  subst same
  cases proper with
  | list every => exact Part.decides (every part here)

/-- The answer that the members of an object make, none if not all items are made like one. -/
theorem Answer.decides {members : List (Spelling × Tree)} (proper : (Tree.object members).Proper) :
    Decides Answer.form.read (.object members)
      (((Tree.lookup members "output").elim (some []) (Tree.all Item.of?)).map Answer.mk) := by
  let states (look : String → Option Tree) : Option Answer :=
    ((look "output").elim (some []) (Tree.all Item.of?)).map Answer.mk
  have tracks : Tracks Answer.fields states members := by
    refine .of_proper proper (fun look look' same => ?_) fun value proper field here => ?_
    · simp only [fields, List.forall_mem_cons] at same
      simp only [states, same]
    · obtain rfl := List.mem_singleton.mp here
      have listed : Decides (Form.list Item.form).read value (value.all Item.of?) := by
        refine decides_list fun items same item here => ?_
        subst same
        cases proper with
        | list every => exact Item.decides (every item here)
      refine ⟨_, listed.map _, fun look unmet => ?_⟩
      simp only at unmet
      simp only [states, given_same, unmet, Option.elim_some, Option.elim_none]
      cases value.all Item.of? <;> rfl
  have whole : verdictOf Answer.fields states members = states (Tree.lookup members) := by
    simp [verdictOf, Answer.fields]
  change Decides _ _ (states (Tree.lookup members))
  rw [← whole]
  exact decides_object tracks rfl

/-! ### Descriptions -/

def Json.Tree.kind? (item : Tree) : Option String := (item.member? "type").bind Tree.text?

def Json.Tree.parts? (item : Tree) : Option (List Part) :=
  (item.member? "content").elim (some []) (Tree.all Part.of?)

def firstText? (items : List Tree) : Option String := do
  let message ← items.find? (·.kind? = some "message")
  let parts ← message.parts?
  let part ← parts.find? (·.kind = "output_text")
  part.text

theorem Item.of?_typed {item : Tree} (typed : item.kind?.isSome) :
    Item.of? item = item.parts?.map (Item.mk (item.kind?.getD "")) := by
  cases item with
  | object members =>
    obtain ⟨kind, known⟩ := Option.isSome_iff_exists.mp typed
    have spelt : (Tree.lookup members "type").bind Tree.text? = some kind := known
    rw [known]
    simp only [Item.of?, typed?, spelt, Option.bind_some]
    rfl
  | _ => cases typed

theorem description_eq_of_answer {body : Bytes} {answer : Answer}
    (read : Answer.form.parse body = .ok answer) :
    description body = match answer.description? with
      | none => .error (.malformed "no output_text in response")
      | some text => if Text.allBlank text then .error .emptyDescription else .ok text := by
  cases chosen : answer.description? <;> simp [description, read, chosen]

theorem mapM_of_readable {items : List Tree} (typed : ∀ item ∈ items, item.kind?.isSome)
    (readable : ∀ item ∈ items, item.parts?.isSome) :
    items.mapM Item.of?
      = some (items.map fun item => ⟨item.kind?.getD "", item.parts?.getD []⟩) := by
  induction items with
  | nil => rfl
  | cons item more ih =>
    obtain ⟨parts, known⟩ := Option.isSome_iff_exists.mp (readable item List.mem_cons_self)
    rw [List.mapM_cons, Item.of?_typed (typed item List.mem_cons_self),
      ih (fun item here => typed item (List.mem_cons_of_mem _ here))
        (fun item here => readable item (List.mem_cons_of_mem _ here))]
    simp [known]

theorem mapM_of_spoiled {items : List Tree} (typed : ∀ item ∈ items, item.kind?.isSome)
    {item : Tree} (here : item ∈ items) (spoiled : item.parts? = none) :
    items.mapM Item.of? = none := by
  induction items with
  | nil => cases here
  | cons first more ih =>
    rw [List.mapM_cons]
    rcases List.mem_cons.mp here with rfl | later
    · simp [Item.of?_typed (typed item List.mem_cons_self), spoiled]
    · have fails := ih (fun item here => typed item (List.mem_cons_of_mem _ here)) later
      cases Item.of? first <;> simp [fails]

theorem firstText?_eq {items : List Tree} (readable : ∀ item ∈ items, item.parts?.isSome) :
    Answer.description?
        ⟨items.map fun item => ⟨item.kind?.getD "", item.parts?.getD []⟩⟩
      = firstText? items := by
  have sought : ∀ item : Tree,
      decide (item.kind?.getD "" = "message") = decide (item.kind? = some "message") := by
    intro item
    cases item.kind? <;> simp
  simp only [Answer.description?, firstText?, List.find?_map, Function.comp_def, sought,
    Option.bind_eq_bind]
  cases found : items.find? (fun item => decide (item.kind? = some "message")) with
  | none => rfl
  | some message =>
    obtain ⟨parts, known⟩ :=
      Option.isSome_iff_exists.mp (readable message (List.mem_of_find?_eq_some found))
    simp [known]

/-- The description in a well-formed answer whose items are objects that say their type. If the content of
every item is a list of parts, or missing, then the description is the first text of the first message, or
it is empty if that is all blank, and without such a text the answer is refused; nothing else in the answer
matters. But if the content of one item is made otherwise, of whatever type the item is and wherever it
stands, then the answer is refused as a whole. -/
theorem description_of_items {tree : Tree} {body : Bytes} {items : List Tree}
    (written : tree.Written body) (proper : tree.Proper)
    (output : tree.member? "output" = some (.list items))
    (typed : ∀ item ∈ items, item.kind?.isSome) :
    ((∀ item ∈ items, item.parts?.isSome) →
      description body = match firstText? items with
        | none => .error (.malformed "no output_text in response")
        | some text => if Text.allBlank text then .error .emptyDescription else .ok text) ∧
    ((∃ item ∈ items, item.parts? = none) →
      ∃ reason, description body = .error (.malformed reason)) := by
  cases tree with
  | object members =>
    have decides := Answer.decides proper
    have found : Tree.lookup members "output" = some (.list items) := output
    rw [found, Option.elim_some] at decides
    -- One item whose parts cannot be read makes the whole list unreadable.
    refine ⟨fun readable => ?_, fun ⟨item, here, spoiled⟩ => ?_⟩
    · rw [Tree.all, mapM_of_readable typed readable] at decides
      rw [description_eq_of_answer (decides.parse written), firstText?_eq readable]
    · rw [Tree.all, mapM_of_spoiled typed here spoiled] at decides
      obtain ⟨fault, refused⟩ := decides.parse_fails written
      refine ⟨fault.message, ?_⟩
      unfold description Form.parse
      rw [refused]
  | _ => cases output

/-- A message behind an item of another type, with members that nothing asks for. -/
theorem description_of_items_second :
    let body := Bytes.ofText
      "\x7b\"id\":[null], \"output\":[\x7b\"type\":\"reasoning\",\"summary\":\x7b\x7d\x7d,\x7b\"content\":
        [\x7b\"text\":\"A \\u0064oor.\",\"type\":\"output_text\"\x7d],\"type\":\"message\"\x7d]\x7d"
    ∃ (tree : Tree) (items : List Tree), tree.Written body ∧ tree.Proper ∧
      tree.member? "output" = some (.list items) ∧ (∀ item ∈ items, item.kind?.isSome) ∧
      (∀ item ∈ items, item.parts?.isSome) ∧ description body = .ok "A door." := by
  intro body
  let text : Spelling := Spelling.plainly "A " ++
    Piece.long ⟨⟨0, false⟩, ⟨0, false⟩, ⟨6, false⟩, ⟨4, false⟩⟩ :: Spelling.plainly "oor."
  let reasoning : Tree := .object
    [(.plainly "type", .string (.plainly "reasoning")), (.plainly "summary", .object [])]
  let part : Tree := .object
    [(.plainly "text", .string text), (.plainly "type", .string (.plainly "output_text"))]
  let message : Tree := .object
    [(.plainly "content", .list [part]), (.plainly "type", .string (.plainly "message"))]
  let tree : Tree := .object
    [(.plainly "id", .list [.null]), (.plainly "output", .list [reasoning, message])]
  have written : tree.Written body := by decide +kernel
  have proper : tree.Proper := by decide +kernel
  have typed : ∀ item ∈ [reasoning, message], item.kind?.isSome := by decide +kernel
  have readable : ∀ item ∈ [reasoning, message], item.parts?.isSome := by decide +kernel
  have described := (description_of_items written proper rfl typed).1 readable
  exact ⟨tree, _, written, proper, rfl, typed, readable, described⟩

/-- A message with a text is lost for an item of another type before it, whose content is `null`. -/
theorem description_spoiled :
    let body := Bytes.ofText
      "\x7b\"output\":[\x7b\"type\":\"reasoning\",\"content\":null\x7d,\x7b\"type\":\"message\",
        \"content\":[\x7b\"type\":\"output_text\",\"text\":\"A door.\"\x7d]\x7d]\x7d"
    ∃ (tree : Tree) (items : List Tree), tree.Written body ∧ tree.Proper ∧
      tree.member? "output" = some (.list items) ∧ (∀ item ∈ items, item.kind?.isSome) ∧
      firstText? items = some "A door." ∧
      description body = .error (.malformed "invalid type: null, expected a sequence") := by
  intro body
  let reasoning : Tree := .object
    [(.plainly "type", .string (.plainly "reasoning")), (.plainly "content", .null)]
  let part : Tree := .object
    [(.plainly "type", .string (.plainly "output_text")),
     (.plainly "text", .string (.plainly "A door."))]
  let message : Tree := .object
    [(.plainly "type", .string (.plainly "message")), (.plainly "content", .list [part])]
  let tree : Tree := .object [(.plainly "output", .list [reasoning, message])]
  exact ⟨tree, [reasoning, message], by decide +kernel, by decide +kernel, rfl, by decide +kernel,
    by decide +kernel, by decide +kernel⟩

end Sightline
