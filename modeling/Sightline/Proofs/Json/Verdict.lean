import Mathlib.Data.List.DropRight
import Sightline.Proofs.Json.Form
import Sightline.Proofs.Json.Skip

/-! What readers make of values, however these are written: a reader decides on a value if it either takes
it, or refuses it, for every text of the value (`Decides`).

Each kind of form has its lemma, and a form built from others decides as they do. -/

set_option autoImplicit false

namespace Sightline.Json

variable {α β : Type}

/-- The result is the verdict, with these tokens left, or a fault without one. -/
def Settles {bound : Nat} (result : Except Fault (Parsed α bound)) (verdict : Option α)
    (after : List Bytes) : Prop :=
  match verdict with
  | some value => ∃ rest, Spaced after rest ∧ Yields result value rest
  | none => ∃ fault, result = .error fault

namespace Settles

variable {bound : Nat} {result : Except Fault (Parsed α bound)} {verdict : Option α}
  {after : List Bytes}

theorem map (f : α → β) (settles : Settles result verdict after) :
    Settles (result.map (·.map f)) (verdict.map f) after := by
  cases verdict with
  | none =>
    obtain ⟨fault, rfl⟩ := settles
    exact ⟨fault, rfl⟩
  | some value =>
    obtain ⟨rest, later, read⟩ := settles
    exact ⟨rest, later, read.map f⟩

theorem widen {larger : Nat} (settles : Settles result verdict after) (le : bound ≤ larger) :
    Settles (result.map (·.widen le)) verdict after := by
  cases verdict with
  | none =>
    obtain ⟨fault, rfl⟩ := settles
    exact ⟨fault, rfl⟩
  | some value =>
    obtain ⟨rest, later, read⟩ := settles
    exact ⟨rest, later, read.widen le⟩

end Settles

/-- The reader takes the value for the verdict and leaves what follows it, or refuses it without one. -/
def Decides (reader : Reader α) (tree : Tree) (verdict : Option α) : Prop :=
  ∀ after input, Apart after → Spaced (tree.tokens ++ after) input →
    Settles (reader input) verdict after

namespace Decides

variable {reader : Reader α} {tree : Tree} {verdict : Option α} {value : α} {text : Bytes}

theorem map (f : α → β) (decides : Decides reader tree verdict) :
    Decides (reader.map f) tree (verdict.map f) :=
  fun after input apart spaced => (decides after input apart spaced).map f

theorem of_reads (reads : Reads reader text value) (tokens : tree.tokens = [text]) :
    Decides reader tree (some value) := by
  intro after input apart spaced
  rw [tokens] at spaced
  obtain ⟨rest, ahead, later⟩ := spaced
  exact ⟨rest, later, reads input rest ahead (later.ended apart)⟩

theorem parse (decides : Decides reader tree (some value)) (written : tree.Written text) :
    Json.parse reader text = .ok value := by
  obtain ⟨rest, done, shorter, read⟩ :=
    decides [] text trivial (by rwa [List.append_nil])
  have nothing : skipBlank rest = [] := done
  simp [Json.parse, read, nothing]

theorem parse_fails (decides : Decides reader tree none) (written : tree.Written text) :
    ∃ fault, Json.parse reader text = .error fault := by
  obtain ⟨fault, refused⟩ := decides [] text trivial (by rwa [List.append_nil])
  exact ⟨fault, by simp [Json.parse, refused]⟩

end Decides

/-! ### Which values begin with a byte -/

namespace Tree

variable {tree : Tree}

theorem eq_null_of_initial (starts : tree.initial = 110) : tree = .null := by
  cases tree with
  | null => rfl
  | number numeral => exact absurd (starts ▸ numeral.initial_starts) (by decide)
  | bool value => cases value <;> simp [initial] at starts
  | _ => simp [initial, quoteMark, openList, openObject] at starts

theorem eq_string_of_initial (starts : tree.initial = quoteMark) :
    ∃ spelling, tree = .string spelling := by
  cases tree with
  | string spelling => exact ⟨spelling, rfl⟩
  | number numeral => exact absurd (starts ▸ numeral.initial_starts) (by decide)
  | bool value => cases value <;> simp [initial, quoteMark] at starts
  | _ => simp [initial, quoteMark, openList, openObject] at starts

theorem eq_list_of_initial (starts : tree.initial = openList) : ∃ items, tree = .list items := by
  cases tree with
  | list items => exact ⟨items, rfl⟩
  | number numeral => exact absurd (starts ▸ numeral.initial_starts) (by decide)
  | bool value => cases value <;> simp [initial, openList] at starts
  | _ => simp [initial, quoteMark, openList, openObject] at starts

theorem eq_object_of_initial (starts : tree.initial = openObject) :
    ∃ members, tree = .object members := by
  cases tree with
  | object members => exact ⟨members, rfl⟩
  | number numeral => exact absurd (starts ▸ numeral.initial_starts) (by decide)
  | bool value => cases value <;> simp [initial, openObject] at starts
  | _ => simp [initial, quoteMark, openList, openObject] at starts

end Tree

/-! ### Texts -/

theorem Spelling.ahead {spelling : Spelling} {input rest : Bytes}
    (ahead : skipBlank input = spelling.token ++ rest) :
    skipBlank input = quoteMark :: (spelling.bytes ++ quoteMark :: rest) := by
  simpa [Spelling.token] using ahead

theorem stringAs_mismatch (expected : String) {input more : Bytes} {b : UInt8}
    (ahead : skipBlank input = b :: more) (other : b ≠ quoteMark) :
    stringAs expected input = .error (mismatch expected b more) := by
  unfold stringAs
  split
  · next none => simp [ahead] at none
  · next some =>
    cases ahead.symm.trans some
    exact if_neg other

theorem stringAs_silent (expected : String) {input tail : Bytes} {fault : Fault}
    (quote : skipBlank input = quoteMark :: tail) (silent : literal tail = .error fault) :
    stringAs expected input = .error fault := by
  unfold stringAs
  split
  · next none => simp [quote] at none
  · next some =>
    cases quote.symm.trans some
    simp [silent, Except.map]

theorem decides_stringAs (expected : String) (tree : Tree) :
    Decides (stringAs expected) tree tree.text? := by
  intro after input apart spaced
  by_cases quoted : tree.initial = quoteMark
  · obtain ⟨spelling, rfl⟩ := Tree.eq_string_of_initial quoted
    obtain ⟨rest, ahead, later⟩ := spaced
    have quote := Spelling.ahead ahead
    cases means : spelling.text? with
    | some s =>
      simp only [Tree.text?, means]
      exact ⟨rest, later, yields_stringAs expected quote (yields_spelling means rest)⟩
    | none =>
      obtain ⟨fault, silent⟩ := fails_spelling means rest
      simp only [Tree.text?, means]
      exact ⟨fault, stringAs_silent expected quote silent⟩
  -- What is no string is refused by its first byte.
  · obtain ⟨more, begins⟩ := Tree.ahead spaced
    have speechless : tree.text? = none := by
      cases tree with
      | string spelling => exact absurd rfl quoted
      | _ => rfl
    rw [speechless]
    exact ⟨_, stringAs_mismatch expected begins quoted⟩

theorem decides_textAs {expected s : String} {meaning : String → Except String α} {tree : Tree}
    {value : α} (means : tree.text? = some s) (taken : meaning s = .ok value) :
    Decides (Form.textAs expected meaning).read tree (some value) := by
  intro after input apart spaced
  have decided := decides_stringAs expected tree after input apart spaced
  rw [means] at decided
  obtain ⟨rest, later, shorter, read⟩ := decided
  exact ⟨rest, later, shorter, by simp [Form.textAs, Json.textAs, read, taken, Parsed.map]⟩

theorem decides_oneOf {allowed : List (String × α)} {name : String} {value : α} {tree : Tree}
    (means : tree.text? = some name) (known : variant allowed name = .ok value) :
    Decides (Form.oneOf allowed).read tree (some value) := by
  intro after input apart spaced
  cases tree with
  | string spelling =>
    obtain ⟨rest, ahead, later⟩ := spaced
    exact ⟨rest, later, yields_oneOf known (Spelling.ahead ahead) (yields_spelling means rest)⟩
  | _ => cases means

/-! ### Values that may be missing -/

def Tree.unlessNull (verdict : Option α) : Tree → Option (Option α)
  | .null => some none
  | _ => verdict.map some

theorem decides_optional {reader : Reader α} {tree : Tree} {verdict : Option α}
    (decides : Decides reader tree verdict) :
    Decides (Json.optional reader) tree (tree.unlessNull verdict) := by
  by_cases null : tree.initial = 110
  · obtain rfl := Tree.eq_null_of_initial null
    exact .of_reads (reads_null reader) rfl
  · have present : tree.unlessNull verdict = verdict.map some := by
      cases tree with
      | null => exact absurd rfl null
      | _ => rfl
    rw [present]
    intro after input apart spaced
    have decided := decides.map some after input apart spaced
    obtain ⟨more, begins⟩ := Tree.ahead spaced
    rw [optional_present begins null]
    exact decided

/-! ### Lists -/

theorem nextItem_close (first : Bool) {input rest : Bytes}
    (ahead : skipBlank input = closeList :: rest) :
    ∃ shorter, nextItem first input = .ok (.none rest shorter) := by
  unfold nextItem
  split
  · next none => simp [ahead] at none
  · next some =>
    cases ahead.symm.trans some
    exact ⟨length_of_skipBlank ahead, if_pos rfl⟩

theorem Spaced.unblanked {tokens : List Bytes} {text : Bytes} (spaced : Spaced tokens text) :
    Spaced tokens (skipBlank text) := by
  have same : skipBlank (skipBlank text) = skipBlank text := List.dropWhile_idempotent _ _
  cases tokens with
  | nil => exact same.trans spaced
  | cons token more =>
    obtain ⟨rest, ahead, later⟩ := spaced
    exact ⟨rest, same.trans ahead, later⟩

theorem nextItem_item {first : Bool} {item : Tree} {more : List Tree} {after : List Bytes}
    {input : Bytes} (spaced : Spaced (Tree.itemTokens first (item :: more) ++ after) input) :
    ∃ rest within, nextItem first input = .ok (.item rest within) ∧
      Spaced (item.tokens ++ (Tree.itemTokens false more ++ after)) rest := by
  have goes : item.initial ≠ closeList := item.initial_ne_closer .list
  cases first with
  | true =>
    rw [Tree.itemTokens_first] at spaced
    obtain ⟨_, begins⟩ := Tree.ahead spaced
    refine ⟨skipBlank input, length_skipBlank input, ?_, spaced.unblanked⟩
    unfold nextItem
    split
    · next none => simp [begins] at none
    · next some =>
      cases begins.symm.trans some
      rw [if_neg goes, if_pos rfl]
  | false =>
    rw [Tree.itemTokens_next] at spaced
    obtain ⟨rest, separated, spaced⟩ := spaced
    obtain ⟨_, begins⟩ := Tree.ahead spaced
    refine ⟨rest, length_le_of_skipBlank separated, ?_, spaced⟩
    unfold nextItem
    split
    · next none => simp [separated] at none
    · next some =>
      cases separated.symm.trans some
      rw [if_neg (by decide), if_neg (by decide), if_pos rfl]
      simp [begins, goes]

theorem settles_items {reader : Reader α} {verdict : Tree → Option α} (items : List Tree)
    (each : ∀ item ∈ items, Decides reader item (verdict item)) {bound : Nat} (done : Array α)
    {after : List Bytes} {input : Bytes} (fits : input.length ≤ bound)
    (spaced : Spaced (Tree.itemTokens done.isEmpty items ++ after) input) :
    Settles (itemsFrom reader bound done input fits)
      ((items.mapM verdict).map fun values => done ++ values.toArray) after := by
  -- By induction on the items, with those read before them in hand.
  induction items generalizing done input with
  | nil =>
    obtain ⟨rest, close, later⟩ := spaced
    have ahead : skipBlank input = closeList :: rest := close
    obtain ⟨shorter, ends⟩ := nextItem_close done.isEmpty ahead
    refine ⟨rest, later, Nat.lt_of_lt_of_le shorter fits, ?_⟩
    rw [itemsFrom, ends]
    simp
  | cons item more ih =>
    obtain ⟨between, within, next, spaced⟩ := nextItem_item spaced
    have decided := each item List.mem_cons_self _ between (apart_itemTokens more after) spaced
    rw [itemsFrom, List.mapM_cons]
    simp only [next]
    cases known : verdict item with
    | none =>
      rw [known] at decided
      obtain ⟨fault, refused⟩ := decided
      exact ⟨fault, by simp [refused]⟩
    | some value =>
      rw [known] at decided
      obtain ⟨left, spaced, shorter, read⟩ := decided
      have others := ih (fun item here => each item (List.mem_cons_of_mem _ here)) (done.push value)
        (Nat.le_trans (Nat.le_of_lt shorter) (Nat.le_trans within fits)) (by simpa using spaced)
      simp only [read]
      simpa [Option.map_eq_bind, Option.bind_assoc, Function.comp_def] using others

def Tree.all (verdict : Tree → Option α) : Tree → Option (List α)
  | .list items => items.mapM verdict
  | _ => none

theorem decides_list {reader : Reader α} {verdict : Tree → Option α} {tree : Tree}
    (each : ∀ items, tree = .list items → ∀ item ∈ items, Decides reader item (verdict item)) :
    Decides (Json.list reader) tree (tree.all verdict) := by
  intro after input apart spaced
  by_cases listed : tree.initial = openList
  · obtain ⟨items, rfl⟩ := Tree.eq_list_of_initial listed
    rw [Tree.tokens_list] at spaced
    obtain ⟨inner, ahead, spaced⟩ := spaced
    unfold Json.list
    split
    · next none => simp [ahead] at none
    · next some =>
      cases ahead.symm.trans some
      rw [if_pos rfl]
      have settled := settles_items items (each items rfl) #[] (length_le_of_skipBlank ahead) spaced
      simpa [Tree.all, Option.map_map, Function.comp_def] using settled.map Array.toList
  · obtain ⟨more, begins⟩ := Tree.ahead spaced
    have other : tree.all verdict = none := by
      cases tree with
      | list items => exact absurd rfl listed
      | _ => rfl
    rw [other]
    refine ⟨mismatch "a sequence" tree.initial more, ?_⟩
    unfold Json.list
    split
    · next none => simp [begins] at none
    · next some =>
      cases begins.symm.trans some
      exact if_neg listed

end Sightline.Json
