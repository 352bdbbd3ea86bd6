import Sightline.Proofs.Json.Record
import Sightline.Proofs.Json.Verdict

/-! What a record becomes of an object, whatever the order of its members and whatever others stand between
them: it depends on the values that its fields have there (`decides_object`).

`Tracks` says that of a record: there is a state for every way of looking up the fields, and one more member
takes it from one to the next. Read in order, the members then lead to the state of looking them all up. -/

set_option autoImplicit false

namespace Sightline.Json

variable {α σ : Type}

/-! ### Members -/

theorem decides_skip (tree : Tree) : Decides skip tree (some ()) :=
  fun _ _ apart spaced => yields_skip tree apart spaced

theorem settles_behindColon {reader : Reader α} {tree : Tree} {verdict : Option α}
    (decides : Decides reader tree verdict) {after : List Bytes} {input : Bytes}
    (apart : Apart after) (spaced : Spaced ([colon] :: (tree.tokens ++ after)) input) :
    Settles (behindColon reader input) verdict after := by
  obtain ⟨behind, ahead, spaced⟩ := spaced
  obtain ⟨shorter, mark⟩ : Yields (skipMark colon .endInObject .expectedColon input) () behind :=
    yields_skipMark ahead
  unfold behindColon
  rw [mark]
  exact (decides after behind apart spaced).widen _

theorem nextKey_member {first : Bool} {spelling : Spelling} {value : Tree}
    {more : List (Spelling × Tree)} {after : List Bytes} {input : Bytes}
    (spaced : Spaced (Tree.memberTokens first ((spelling, value) :: more) ++ after) input) :
    ∃ named, (∃ shorter,
        nextKey first input = .ok (.key (spelling.bytes ++ quoteMark :: named) shorter)) ∧
      Spaced ([colon] :: (value.tokens ++ (Tree.memberTokens false more ++ after))) named := by
  cases first with
  | true =>
    rw [Tree.memberTokens_first] at spaced
    obtain ⟨named, ahead, spaced⟩ := spaced
    exact ⟨named, nextKey_key (Spelling.ahead ahead), spaced⟩
  | false =>
    rw [Tree.memberTokens_next] at spaced
    obtain ⟨between, separated, named, ahead, spaced⟩ := spaced
    exact ⟨named, nextKey_key ⟨between, separated, Spelling.ahead ahead⟩, spaced⟩

section

variable {member : String → σ → Reader σ} {bound : Nat} {first : Bool} {state next : σ}
  {input tail left rest : Bytes} {name : String}

theorem membersFrom_key (fits : input.length ≤ bound)
    (key : ∃ shorter, nextKey first input = .ok (.key tail shorter))
    (named : Yields (literal tail) name left) (held : Yields (member name state left) next rest) :
    ∃ within, membersFrom member bound first state input fits
      = membersFrom member bound false next rest within := by
  obtain ⟨keyed, key⟩ := key
  obtain ⟨shorter, named⟩ := named
  obtain ⟨shortest, held⟩ := held
  rw [membersFrom]
  simp only [key, named, held]
  exact ⟨by omega, trivial⟩

theorem membersFrom_refused (fits : input.length ≤ bound)
    (key : ∃ shorter, nextKey first input = .ok (.key tail shorter))
    (named : Yields (literal tail) name left) {fault : Fault}
    (refused : member name state left = .error fault) :
    membersFrom member bound first state input fits = .error fault := by
  obtain ⟨_, key⟩ := key
  obtain ⟨_, named⟩ := named
  rw [membersFrom]
  simp only [key, named, refused]

end

def given (look : String → Option Tree) (name : String) (value : Tree) : String → Option Tree :=
  fun other => if other = name then some value else look other

def beyond (look : String → Option Tree) (members : List (Spelling × Tree)) (name : String) :
    Option Tree :=
  (look name).or (Tree.lookup members name)

theorem beyond_nil (look : String → Option Tree) : beyond look [] = look := by
  funext name
  simp [beyond, Tree.lookup]

theorem beyond_none (members : List (Spelling × Tree)) :
    beyond (fun _ => none) members = Tree.lookup members := rfl

section

variable {look : String → Option Tree} {spelling : Spelling} {value : Tree} {name : String}

theorem beyond_cons (fresh : look name = none) (spelt : spelling.text? = some name)
    (more : List (Spelling × Tree)) :
    beyond look ((spelling, value) :: more) = beyond (given look name value) more := by
  funext other
  unfold beyond given Tree.lookup
  by_cases same : other = name
  · subst same
    simp [fresh, spelt]
  · have different : spelling.text? ≠ some other := by
      rw [spelt]
      exact fun equal => same (Option.some.inj equal).symm
    simp [same, different]

theorem beyond_other {other : String} (different : spelling.text? ≠ some other)
    (more : List (Spelling × Tree)) :
    beyond look ((spelling, value) :: more) other = beyond look more other := by
  unfold beyond Tree.lookup
  simp [different]

end

/-! ### Records -/

/-- The members take a record from state to state, by the fields that have been met: none once a field
could not be read. -/
structure Tracks (fields : List (RecordField σ)) (states : (String → Option Tree) → Option σ)
    (members : List (Spelling × Tree)) : Prop where
  named : ∀ member ∈ members, member.1.text?.isSome
  single : members.Pairwise fun one other =>
    ∀ field ∈ fields, one.1.text? = some field.name → other.1.text? ≠ some field.name
  ignores : ∀ look look' : String → Option Tree,
    (∀ field ∈ fields, look field.name = look' field.name) → states look = states look'
  reads : ∀ member ∈ members, ∀ field ∈ fields, member.1.text? = some field.name →
    ∃ verdict, Decides field.form.read member.2 verdict ∧
      ∀ look, look field.name = none → states (given look field.name member.2)
        = (states look).bind fun state => verdict.map (· state)

namespace Tracks

variable {fields : List (RecordField σ)} {states : (String → Option Tree) → Option σ}
  {spelling : Spelling} {value : Tree} {more members : List (Spelling × Tree)}

theorem tail (tracks : Tracks fields states ((spelling, value) :: more)) :
    Tracks fields states more where
  named member here := tracks.named member (List.mem_cons_of_mem _ here)
  single := (List.pairwise_cons.mp tracks.single).2
  ignores := tracks.ignores
  reads member here := tracks.reads member (List.mem_cons_of_mem _ here)

def Fresh (fields : List (RecordField σ)) (look : String → Option Tree)
    (members : List (Spelling × Tree)) : Prop :=
  ∀ field ∈ fields, (look field.name).isSome → ∀ member ∈ members, member.1.text? ≠ some field.name

theorem Fresh.tail {look : String → Option Tree}
    (fresh : Fresh fields look ((spelling, value) :: more)) : Fresh fields look more :=
  fun field known met member here => fresh field known met member (List.mem_cons_of_mem _ here)

theorem Fresh.given (tracks : Tracks fields states ((spelling, value) :: more))
    {look : String → Option Tree} (fresh : Fresh fields look ((spelling, value) :: more))
    {name : String} (spelt : spelling.text? = some name) :
    Fresh fields (given look name value) more := by
  intro field known met member here
  by_cases same : field.name = name
  · exact (List.pairwise_cons.mp tracks.single).1 member here field known (same ▸ spelt)
  · refine fresh.tail field known ?_ member here
    simpa [Json.given, same] using met

theorem skips (tracks : Tracks fields states ((spelling, value) :: more)) {name : String}
    (spelt : spelling.text? = some name) (unknown : ∀ field ∈ fields, field.name ≠ name)
    (look : String → Option Tree) :
    states (beyond look ((spelling, value) :: more)) = states (beyond look more) := by
  refine tracks.ignores _ _ fun field known => beyond_other ?_ more
  rw [spelt]
  exact fun same => unknown field known (Option.some.inj same).symm

theorem not_met {look : String → Option Tree}
    (fresh : Fresh fields look ((spelling, value) :: more)) {field : RecordField σ}
    (known : field ∈ fields) (spelt : spelling.text? = some field.name) :
    look field.name = none := by
  rw [← Option.not_isSome_iff_eq_none]
  exact fun met => fresh field known met _ List.mem_cons_self spelt

theorem lost (tracks : Tracks fields states members) {look : String → Option Tree}
    (fresh : Fresh fields look members) (none : states look = none) :
    states (beyond look members) = .none := by
  induction members generalizing look with
  | nil => rwa [beyond_nil]
  | cons member more ih =>
    obtain ⟨spelling, value⟩ := member
    obtain ⟨name, spelt⟩ := Option.isSome_iff_exists.mp (tracks.named _ List.mem_cons_self)
    by_cases known : ∃ field ∈ fields, field.name = name
    · obtain ⟨field, known, rfl⟩ := known
      have unmet := not_met fresh known spelt
      obtain ⟨verdict, -, step⟩ := tracks.reads _ List.mem_cons_self field known spelt
      rw [beyond_cons unmet spelt]
      refine ih tracks.tail (fresh.given tracks spelt) ?_
      rw [step look unmet, none]
      rfl
    · rw [tracks.skips spelt (fun field here same => known ⟨field, here, same⟩)]
      exact ih tracks.tail fresh.tail none

/-- What is read of the members: the fields that were met, and the state that they lead to. -/
theorem settles (tracks : Tracks fields states members) {look : String → Option Tree}
    (fresh : Fresh fields look members) {begun : Begun σ} (state : states look = some begun.state)
    (seen : ∀ field ∈ fields, begun.seen.contains field.name = (look field.name).isSome)
    {first : Bool} {bound : Nat} {after : List Bytes} {input : Bytes} (fits : input.length ≤ bound)
    (spaced : Spaced (Tree.memberTokens first members ++ after) input) :
    ∃ verdict : Option (Begun σ),
      Settles (membersFrom (member fields) bound first begun input fits) verdict after ∧
      verdict.map Begun.state = states (beyond look members) ∧
      ∀ final ∈ verdict, ∀ field ∈ fields,
        final.seen.contains field.name = (beyond look members field.name).isSome := by
  -- By induction on the members, with the lookup that the ones before them have built up.
  induction members generalizing look begun first input with
  | nil =>
    obtain ⟨rest, close, later⟩ := spaced
    have ahead : skipBlank input = closeObject :: rest := close
    refine ⟨some begun, ⟨rest, later, yields_membersFrom_close fits ahead⟩, ?_, ?_⟩
    · rw [beyond_nil, state]
      rfl
    · intro final same
      cases same
      rwa [beyond_nil]
  | cons entry more ih =>
    obtain ⟨spelling, value⟩ := entry
    obtain ⟨name, spelt⟩ := Option.isSome_iff_exists.mp (tracks.named _ List.mem_cons_self)
    obtain ⟨named, key, spaced⟩ := nextKey_member spaced
    have apart := apart_memberTokens more after
    have literal := yields_spelling spelt named
    cases known : fields.find? (·.name = name) with
    | none =>
      -- No field has the name: the value is skipped and the lookup is asked about it by no one.
      have unknown : ∀ field ∈ fields, field.name ≠ name := by simpa using known
      have passed : Settles (member fields name begun named) (some begun)
          (Tree.memberTokens false more ++ after) := by
        unfold member
        simp only [known]
        exact (settles_behindColon (decides_skip value) apart spaced).map fun _ => begun
      obtain ⟨rest, spaced, passed⟩ := passed
      obtain ⟨within, goes⟩ := membersFrom_key fits key literal passed
      obtain ⟨verdict, settled, same, met⟩ := ih tracks.tail fresh.tail state seen within spaced
      refine ⟨verdict, goes ▸ settled, same.trans (tracks.skips spelt unknown look).symm, ?_⟩
      intro final chosen field here
      have other : spelling.text? ≠ some field.name := by
        rw [spelt]
        exact fun same => unknown field here (Option.some.inj same).symm
      rw [beyond_other other]
      exact met final chosen field here
    | some field =>
      have here : field ∈ fields := List.mem_of_find?_eq_some known
      obtain rfl : field.name = name := by simpa using List.find?_some known
      have unmet := not_met fresh here spelt
      obtain ⟨verdict, decides, step⟩ := tracks.reads _ List.mem_cons_self field here spelt
      have next := step look unmet
      rw [state, Option.bind_some] at next
      have read : Settles (member fields field.name begun named)
          (verdict.map fun change => ⟨change begun.state, field.name :: begun.seen⟩)
          (Tree.memberTokens false more ++ after) := by
        unfold member
        simp only [known, seen field here, unmet]
        exact (settles_behindColon decides apart spaced).map _
      rw [beyond_cons unmet spelt]
      -- A value that is refused ends the object at once, and the record is lost as well.
      cases verdict with
      | none =>
        obtain ⟨fault, refused⟩ := read
        refine ⟨none, ⟨fault, membersFrom_refused fits key literal refused⟩, ?_, by simp⟩
        exact (tracks.tail.lost (fresh.given tracks spelt) next).symm
      | some change =>
        obtain ⟨rest, spaced, read⟩ := read
        obtain ⟨within, goes⟩ := membersFrom_key fits key literal read
        rw [goes]
        let begun : Begun σ := ⟨change begun.state, field.name :: begun.seen⟩
        have reached : states (given look field.name value) = some begun.state := next
        refine ih tracks.tail (fresh.given tracks spelt) reached ?_ within spaced
        intro other known
        by_cases same : other.name = field.name
        · simp [begun, given, same]
        · simpa [begun, given, same] using seen other known

end Tracks

section

variable {title : String} {fields : List (RecordField σ)} {defaults : σ}
  {states : (String → Option Tree) → Option σ} {members : List (Spelling × Tree)} {seen : List String}

theorem complete_of_met (state : σ)
    (met : ∀ field ∈ fields, field.required = true → seen.contains field.name = true) :
    complete fields seen state = .ok state := by
  have none : (fields.find? fun field => field.required && !seen.contains field.name) = none := by
    simpa [List.find?_eq_none] using met
  rw [complete, none]

theorem complete_of_missing (state : σ)
    (missing : ∃ field ∈ fields, field.required = true ∧ seen.contains field.name = false) :
    ∃ fault, complete fields seen state = .error fault := by
  obtain ⟨field, first⟩ : ∃ field,
      (fields.find? fun field => field.required && !seen.contains field.name) = some field := by
    rw [← Option.isSome_iff_exists, List.find?_isSome]
    simpa using missing
  exact ⟨.missingField field.name, by rw [complete, first]⟩

def verdictOf (fields : List (RecordField σ)) (states : (String → Option Tree) → Option σ)
    (members : List (Spelling × Tree)) : Option σ :=
  if ∀ field ∈ fields, field.required = true → (Tree.lookup members field.name).isSome = true then
    states (Tree.lookup members)
  else none

theorem decides_object (tracks : Tracks fields states members)
    (begins : states (fun _ => none) = some defaults) :
    Decides (readRecord title fields defaults) (.object members)
      (verdictOf fields states members) := by
  intro after input apart spaced
  rw [Tree.tokens_object] at spaced
  obtain ⟨inner, ahead, spaced⟩ := spaced
  have opened : skipBlank input = openObject :: inner := ahead
  let begun : Begun σ := { state := defaults }
  have fresh : Tracks.Fresh fields (fun _ => none) members := fun _ _ met => by simp at met
  have state : states (fun _ => none) = some begun.state := begins
  obtain ⟨verdict, settled, same, met⟩ :=
    tracks.settles fresh state (fun _ _ => rfl) (length_le_of_skipBlank opened) spaced
  rw [beyond_none] at same met
  unfold readRecord
  split
  · next none => simp [opened] at none
  · next some =>
    cases opened.symm.trans some
    rw [if_pos rfl, verdictOf, ← same]
    cases verdict with
    | none =>
      obtain ⟨fault, refused⟩ := settled
      rw [Option.map_none, ite_self]
      exact ⟨fault, by simp only [begun] at refused; simp only [refused]⟩
    | some final =>
      obtain ⟨rest, later, shorter, read⟩ := settled
      simp only [begun] at read
      have met := met final rfl
      -- Every member was read; what is left to check is that no required field is absent.
      by_cases whole : ∀ field ∈ fields, field.required = true →
          (Tree.lookup members field.name).isSome = true
      · have complete := complete_of_met final.state fun field here required =>
          (met field here).trans (whole field here required)
        rw [if_pos whole]
        exact ⟨rest, later, shorter, by simp [read, complete, Except.map, Parsed.map]⟩
      · obtain ⟨field, here, required, absent⟩ : ∃ field ∈ fields, field.required = true ∧
            (Tree.lookup members field.name).isSome = false := by
          simpa using whole
        obtain ⟨fault, missing⟩ :=
          complete_of_missing final.state ⟨field, here, required, (met field here).trans absent⟩
        rw [if_neg whole]
        exact ⟨fault, by simp [read, missing, Except.map]⟩

theorem refuses_record {tree : Tree} (unopened : ∀ members, tree ≠ .object members)
    (unlisted : ∀ items, tree ≠ .list items) : Decides (readRecord title fields defaults) tree none := by
  intro after input apart spaced
  obtain ⟨more, begins⟩ := Tree.ahead spaced
  have object : tree.initial ≠ openObject := fun starts =>
    (Tree.eq_object_of_initial starts).elim unopened
  have list : tree.initial ≠ openList := fun starts => (Tree.eq_list_of_initial starts).elim unlisted
  refine ⟨mismatch title tree.initial more, ?_⟩
  unfold readRecord
  split
  · next none => simp [begins] at none
  · next some =>
    cases begins.symm.trans some
    rw [if_neg object, if_neg list]

/-! ### Records that stand as lists -/

/-- What a record becomes of items that stand for its fields in order. -/
def inOrder? (meaning : RecordField σ → Tree → Option (σ → σ)) :
    List (RecordField σ) → σ → List Tree → Option σ
  | [], state, [] => some state
  | [], _, _ :: _ => none
  | field :: more, state, [] =>
    if (field :: more).any (·.requiredInList) then none else some state
  | field :: more, state, item :: items =>
    (meaning field item).bind fun change => inOrder? meaning more (change state) items

theorem endOfList_close {input rest : Bytes} (ahead : skipBlank input = closeList :: rest) :
    Yields (endOfList input) () rest := by
  unfold endOfList
  split
  · next none => simp [ahead] at none
  · next some =>
    cases ahead.symm.trans some
    exact ⟨length_of_skipBlank ahead, if_pos rfl⟩

theorem endOfList_refuses {first : Bool} {item : Tree} {more : List Tree} {after : List Bytes}
    {input : Bytes} (spaced : Spaced (Tree.itemTokens first (item :: more) ++ after) input) :
    ∃ fault, endOfList input = .error fault := by
  obtain ⟨b, rest, ahead, goes⟩ : ∃ b rest, skipBlank input = b :: rest ∧ b ≠ closeList := by
    cases first with
    | true =>
      rw [Tree.itemTokens_first] at spaced
      obtain ⟨rest, begins⟩ := Tree.ahead spaced
      exact ⟨_, rest, begins, item.initial_ne_closer .list⟩
    | false =>
      rw [Tree.itemTokens_next] at spaced
      obtain ⟨rest, separated, -⟩ := spaced
      exact ⟨comma, rest, separated, by decide⟩
  unfold endOfList
  split
  · next none => simp [ahead] at none
  · next some =>
    cases ahead.symm.trans some
    rw [if_neg goes]
    split
    · split
      · split <;> exact ⟨_, rfl⟩
      · exact ⟨_, rfl⟩
    · exact ⟨_, rfl⟩

theorem fieldsFrom_nil (title : String) (count : Nat) {bound : Nat} (state : σ) (done : Nat)
    {input : Bytes} (fits : input.length ≤ bound) :
    fieldsFrom title count bound state done [] input fits
      = (endOfList input).map fun left => (left.map fun _ => state).widen fits :=
  rfl

theorem fieldsFrom_cons (title : String) (count : Nat) {bound : Nat} (state : σ) (done : Nat)
    (field : RecordField σ) (more : List (RecordField σ)) {input : Bytes}
    (fits : input.length ≤ bound) :
    fieldsFrom title count bound state done (field :: more) input fits
      = match nextItem (done = 0) input with
        | .error fault => .error fault
        | .ok (.none rest shorter) =>
          match (field :: more).findIdx? (·.requiredInList) with
          | some place => .error (.invalidLength (done + place) (sizedTitle title count))
          | none => .ok ⟨state, rest, Nat.lt_of_lt_of_le shorter fits⟩
        | .ok (.item rest within) =>
          match field.form.read rest with
          | .error fault => .error fault
          | .ok change =>
            fieldsFrom title count bound (change.value state) (done + 1) more change.rest
              (Nat.le_trans (Nat.le_of_lt change.shorter) (Nat.le_trans within fits)) :=
  rfl

theorem settles_fields (title : String) (count : Nat)
    {meaning : RecordField σ → Tree → Option (σ → σ)} (items : List Tree)
    (each : ∀ field ∈ fields, ∀ item ∈ items, Decides field.form.read item (meaning field item))
    (state : σ) (done : Nat) {bound : Nat} {after : List Bytes} {input : Bytes}
    (fits : input.length ≤ bound)
    (spaced : Spaced (Tree.itemTokens (decide (done = 0)) items ++ after) input) :
    Settles (fieldsFrom title count bound state done fields input fits)
      (inOrder? meaning fields state items) after := by
  -- By induction on the fields: they are read in their own order, and either side may end first.
  induction fields generalizing items state done input with
  | nil =>
    cases items with
    | nil =>
      obtain ⟨rest, close, later⟩ := spaced
      have ahead : skipBlank input = closeList :: rest := close
      obtain ⟨shorter, ends⟩ := endOfList_close ahead
      refine ⟨rest, later, Nat.lt_of_lt_of_le shorter fits, ?_⟩
      rw [fieldsFrom_nil, ends]
      rfl
    | cons item more =>
      obtain ⟨fault, refused⟩ := endOfList_refuses spaced
      exact ⟨fault, by rw [fieldsFrom_nil, refused]; rfl⟩
  | cons field more ih =>
    cases items with
    | nil =>
      obtain ⟨rest, close, later⟩ := spaced
      have ahead : skipBlank input = closeList :: rest := close
      obtain ⟨shorter, ends⟩ := nextItem_close (decide (done = 0)) ahead
      rw [fieldsFrom_cons, ends, inOrder?]
      have places : ((field :: more).findIdx? (·.requiredInList)).isSome
          = (field :: more).any (·.requiredInList) := List.findIdx?_isSome
      cases place : (field :: more).findIdx? (·.requiredInList) with
      | none =>
        rw [← places, place]
        exact ⟨rest, later, _, rfl⟩
      | some place' =>
        rw [← places, place]
        exact ⟨_, rfl⟩
    | cons item items =>
      obtain ⟨between, within, next, spaced⟩ := nextItem_item spaced
      have decided := each field List.mem_cons_self item List.mem_cons_self _ between
        (apart_itemTokens items after) spaced
      rw [fieldsFrom_cons, next, inOrder?]
      cases known : meaning field item with
      | none =>
        rw [known] at decided
        obtain ⟨fault, refused⟩ := decided
        exact ⟨fault, by simp only [refused]⟩
      | some change =>
        rw [known] at decided
        obtain ⟨left, spaced, shorter, read⟩ := decided
        simp only [read, Option.bind_some]
        refine ih items (fun other here item among => ?_) (change state) (done + 1) _ ?_
        · exact each other (List.mem_cons_of_mem _ here) item (List.mem_cons_of_mem _ among)
        · simpa using spaced

theorem decides_listed {meaning : RecordField σ → Tree → Option (σ → σ)} {items : List Tree}
    (each : ∀ field ∈ fields, ∀ item ∈ items, Decides field.form.read item (meaning field item)) :
    Decides (readRecord title fields defaults) (.list items)
      (inOrder? meaning fields defaults items) := by
  intro after input apart spaced
  rw [Tree.tokens_list] at spaced
  obtain ⟨inner, ahead, spaced⟩ := spaced
  have opened : skipBlank input = openList :: inner := ahead
  have settled := settles_fields title fields.length items each defaults 0
    (length_le_of_skipBlank opened) spaced
  unfold readRecord
  split
  · next none => simp [opened] at none
  · next some =>
    cases opened.symm.trans some
    rw [if_neg (by decide), if_pos rfl]
    exact settled

end

end Sightline.Json
