import Sightline.Json.Record
import Sightline.Proofs.Json.Form

/-! Records read back from the objects that are written of them.

An object's entries follow each other as the reader asks for keys (`nextKey_key`, `nextKey_close`); one
induction over the entries then takes a begun record to its end (`Fills.yields`). -/

set_option autoImplicit false

namespace Sightline.Json

variable {σ : Type}

/-! ### Keys -/

theorem nextKey_key {first : Bool} {input tail : Bytes}
    (ahead : if first then skipBlank input = quoteMark :: tail else
      ∃ between, skipBlank input = comma :: between ∧ skipBlank between = quoteMark :: tail) :
    ∃ shorter, nextKey first input = .ok (.key tail shorter) := by
  unfold nextKey
  cases first with
  | true =>
    simp only [if_true] at ahead
    split
    · next none => simp [ahead] at none
    · next some =>
      cases ahead.symm.trans some
      exact ⟨length_of_skipBlank ahead, rfl⟩
  | false =>
    simp only [Bool.false_eq_true, if_false] at ahead
    obtain ⟨between, separated, quote⟩ := ahead
    split
    · next none => simp [separated] at none
    · next some =>
      cases separated.symm.trans some
      rw [if_neg (by decide), if_neg (by decide), if_pos rfl]
      split
      · next none => simp [quote] at none
      · next some =>
        cases quote.symm.trans some
        exact ⟨Nat.lt_trans (length_of_skipBlank quote) (length_of_skipBlank separated), rfl⟩

theorem nextKey_close {first : Bool} {input rest : Bytes}
    (ahead : skipBlank input = closeObject :: rest) :
    ∃ shorter, nextKey first input = .ok (.none rest shorter) := by
  unfold nextKey
  split
  · next none => simp [ahead] at none
  · next some =>
    cases ahead.symm.trans some
    exact ⟨length_of_skipBlank ahead, rfl⟩

section

variable {member : String → σ → Reader σ} {bound : Nat} {first : Bool} {state next final : σ}
  {input tail after left rest : Bytes} {name : String}

theorem yields_membersFrom_close (fits : input.length ≤ bound)
    (ahead : skipBlank input = closeObject :: rest) :
    Yields (membersFrom member bound first state input fits) state rest := by
  obtain ⟨shorter, key⟩ : ∃ shorter, nextKey first input = .ok (.none rest shorter) :=
    nextKey_close ahead
  rw [membersFrom, key]
  exact ⟨_, rfl⟩

theorem yields_membersFrom_key (fits : input.length ≤ bound)
    (key : ∃ shorter, nextKey first input = .ok (.key tail shorter))
    (named : Yields (literal tail) name after) (held : Yields (member name state after) next left)
    (more : ∀ within, Yields (membersFrom member bound false next left within) final rest) :
    Yields (membersFrom member bound first state input fits) final rest := by
  obtain ⟨_, key⟩ := key
  obtain ⟨_, named⟩ := named
  obtain ⟨_, held⟩ := held
  rw [membersFrom, key]
  simp only [named, held]
  exact more _

end

/-! ### Written entries -/

namespace Document

def remaining (first : Bool) (level : Nat) (entries : List (String × Document)) : String :=
  if first || entries.isEmpty then prettyEntries level entries
  else "," ++ prettyEntries level entries

theorem prettyEntries_cons (level : Nat) (name : String) (value : Document)
    (more : List (String × Document)) :
    prettyEntries level ((name, value) :: more) =
      newLine level ++
        (quoted name ++ (": " ++ (value.prettyAt level ++ remaining false level more))) := by
  cases more with
  | nil => simp [prettyEntries, remaining, String.append_assoc]
  | cons entry more => simp [prettyEntries, remaining, String.append_assoc]

theorem remaining_cons (level : Nat) (entry : String × Document)
    (more : List (String × Document)) :
    Bytes.ofText (remaining false level (entry :: more)) =
      comma :: Bytes.ofText (prettyEntries level (entry :: more)) := by
  simp only [remaining, Bool.false_or, List.isEmpty_cons, Bool.false_eq_true, if_false,
    Bytes.ofText_append]
  rfl

theorem ended_remaining (level : Nat) (entries : List (String × Document)) {ending : Bytes}
    (ended : Ended ending) : Ended (Bytes.ofText (remaining false level entries) ++ ending) := by
  cases entries with
  | nil => exact ended
  | cons entry more =>
    rw [remaining_cons]
    exact ⟨rfl, by decide, rfl⟩

theorem isBlank_newLine (level : Nat) : ∀ b ∈ Bytes.ofText (newLine level), isBlank b = true := by
  have line : Bytes.ofText "\n" = [10] := rfl
  have space : String.utf8EncodeChar ' ' = [32] := rfl
  intro b h
  rw [newLine, Bytes.ofText_append, line, List.mem_append, List.mem_singleton] at h
  rcases h with rfl | indents
  · rfl
  · rw [Bytes.ofText_ofList] at indents
    obtain ⟨c, spaces, indents⟩ := List.mem_flatMap.mp indents
    cases List.eq_of_mem_replicate spaces
    rw [space, List.mem_singleton] at indents
    rw [indents]
    rfl

theorem skipBlank_prettyEntries (level : Nat) (name : String) (value : Document)
    (more : List (String × Document)) (ending : Bytes) :
    skipBlank (Bytes.ofText (prettyEntries level ((name, value) :: more)) ++ ending) =
      Bytes.ofText (quoted name) ++ ((colon :: 32 :: Bytes.ofText (value.prettyAt level)) ++
        (Bytes.ofText (remaining false level more) ++ ending)) := by
  simp only [prettyEntries_cons, Bytes.ofText_append, List.append_assoc]
  rw [skipBlank_append (isBlank_newLine level), skipBlank_solid (solid_quoted name)]
  rfl

theorem ofText_object (level : Nat) (entries : List (String × Document)) (rest : Bytes) :
    ∃ ending, Bytes.ofText ((object entries).prettyAt level) ++ rest =
        openObject :: (Bytes.ofText (remaining true (level + 1) entries) ++ ending) ∧
      skipBlank ending = closeObject :: rest ∧ Ended ending := by
  cases entries with
  | nil => exact ⟨closeObject :: rest, rfl, rfl, rfl, by decide, rfl⟩
  | cons entry more =>
    refine ⟨Bytes.ofText (newLine level) ++ closeObject :: rest, ?_, ?_, ?_⟩
    · simp only [prettyAt, remaining, Bool.true_or, if_true, Bytes.ofText_append,
        List.append_assoc]
      rfl
    · rw [skipBlank_append (isBlank_newLine level)]
      rfl
    · rw [newLine, Bytes.ofText_append]
      exact ⟨rfl, by decide, rfl⟩

end Document

/-! ### Records -/

/-- The entries are fields of the record, each once, and take it from what is begun to what is final. -/
inductive Fills (fields : List (RecordField σ)) :
    Begun σ → List (String × Document) → Begun σ → Prop
  | none (begun : Begun σ) : Fills fields begun [] begun
  | field {begun final : Begun σ} {name : String} {document : Document} {field : RecordField σ}
      {change : σ → σ} {more : List (String × Document)}
      (known : fields.find? (·.name = name) = some field)
      (fresh : begun.seen.contains name = false) (accepts : field.form.Accepts document change)
      (rest : Fills fields { state := change begun.state, seen := name :: begun.seen } more final) :
      Fills fields begun ((name, document) :: more) final

theorem reads_member {fields : List (RecordField σ)} {begun : Begun σ} {name : String}
    {field : RecordField σ} {document : Document} {change : σ → σ} (level : Nat)
    (known : fields.find? (·.name = name) = some field)
    (fresh : begun.seen.contains name = false) (accepts : field.form.Accepts document change) :
    Reads (member fields name begun) (colon :: 32 :: Bytes.ofText (document.prettyAt level))
      { state := change begun.state, seen := name :: begun.seen } := by
  unfold member
  simp only [known, fresh]
  exact ((accepts level).behindColon (solid_pretty level document)).map _

theorem Fills.yields {fields : List (RecordField σ)} {begun final : Begun σ}
    {entries : List (String × Document)} (fills : Fills fields begun entries final)
    {level bound : Nat} {first : Bool} {ending rest : Bytes}
    (close : skipBlank ending = closeObject :: rest) (ended : Ended ending)
    (fits : (Bytes.ofText (Document.remaining first level entries) ++ ending).length ≤ bound) :
    Yields (membersFrom (member fields) bound first begun
      (Bytes.ofText (Document.remaining first level entries) ++ ending) fits) final rest := by
  induction fills generalizing first with
  | none begun =>
    apply yields_membersFrom_close
    rw [Document.remaining, List.isEmpty_nil, Bool.or_true, if_pos rfl]
    exact close
  | @field begun final name document field change more known fresh accepts fills ih =>
    obtain ⟨tail, ahead, named⟩ :=
      literal_of_quoted (Document.skipBlank_prettyEntries level name document more ending)
    -- Entries but the first have a comma in front, which the reader takes with the key.
    have key : ∃ shorter, nextKey first
        (Bytes.ofText (Document.remaining first level ((name, document) :: more)) ++ ending) =
          .ok (.key tail shorter) := by
      apply nextKey_key
      cases first with
      | true => exact ahead
      | false =>
        rw [Document.remaining_cons]
        exact ⟨_, rfl, ahead⟩
    have held := reads_member level known fresh accepts
      (colon :: 32 :: Bytes.ofText (document.prettyAt level) ++
        (Bytes.ofText (Document.remaining false level more) ++ ending))
      (Bytes.ofText (Document.remaining false level more) ++ ending) rfl
      (Document.ended_remaining level more ended)
    exact yields_membersFrom_key fits key named held fun within => ih within

theorem Form.record_accepts {title : String} {fields : List (RecordField σ)} {defaults value : σ}
    {entries : List (String × Document)} {final : Begun σ}
    (fills : Fills fields { state := defaults } entries final)
    (whole : complete fields final.seen final.state = .ok value) :
    (Form.record title fields defaults).Accepts (.object entries) value := by
  intro level input rest ahead ended
  obtain ⟨ending, text, close, after⟩ := Document.ofText_object level entries rest
  have opened := ahead.trans text
  obtain ⟨_, read⟩ : Yields (membersFrom (member fields) input.length true { state := defaults }
      (Bytes.ofText (Document.remaining true (level + 1) entries) ++ ending)
      (length_le_of_skipBlank opened)) final rest := fills.yields close after _
  change Yields (readRecord title fields defaults input) value rest
  unfold readRecord
  split
  · next none => simp [opened] at none
  · next some =>
    cases opened.symm.trans some
    simp only [if_true, read, whole]
    exact ⟨_, rfl⟩

end Sightline.Json
