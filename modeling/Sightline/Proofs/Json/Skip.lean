import Sightline.Json.Skip
import Sightline.Proofs.Json.Spelling

/-! What passes over a value passes over every value there is, of any kind and depth and however it is
written (`yields_skip`).

The frames that are open lie on a stack. One move after the other is followed (`Leads`), and an induction
over the tree puts them together: a value is passed over within any frames around it. -/

set_option autoImplicit false

namespace Sightline.Json

/-! ### Tokens -/

/-- The tokens do not go on with a number that stands before them. -/
def Apart : List Bytes → Prop
  | [] => True
  | token :: _ => token ≠ [] ∧ Ended token

theorem Spaced.ended {after : List Bytes} {rest : Bytes} (spaced : Spaced after rest)
    (apart : Apart after) : Ended rest := by
  cases rest with
  | nil => trivial
  | cons b more =>
    by_cases blank : isBlank b = true
    · simp only [isBlank, Bool.or_eq_true, beq_iff_eq] at blank
      rcases blank with ((rfl | rfl) | rfl) | rfl <;> exact ⟨rfl, by decide, rfl⟩
    · have same : skipBlank (b :: more) = b :: more := List.dropWhile_cons_of_neg blank
      cases after with
      | nil => simp [Spaced, same] at spaced
      | cons token later =>
        obtain ⟨rest, ahead, -⟩ := spaced
        obtain ⟨solid, ended⟩ := apart
        obtain ⟨first, others, rfl⟩ := List.exists_cons_of_ne_nil solid
        rw [same] at ahead
        cases ahead
        exact ended

/-! ### Numbers -/

theorem dropWhile_digits {digits rest : Bytes} (every : ∀ b ∈ digits, isDigit b = true)
    (undigited : ∀ b ∈ rest.head?, isDigit b = false) :
    (digits ++ rest).dropWhile isDigit = rest := by
  rw [List.dropWhile_append_of_pos every]
  cases rest with
  | nil => rfl
  | cons b more => exact List.dropWhile_cons_of_neg (by simp [undigited b rfl])

theorem Digits.eq_cons {digits : Bytes} (counts : Digits digits) :
    ∃ b more, digits = b :: more ∧ isDigit b = true ∧ ∀ c ∈ more, isDigit c = true := by
  obtain ⟨b, more, rfl⟩ := List.exists_cons_of_ne_nil counts.1
  exact ⟨b, more, rfl, counts.2 b List.mem_cons_self,
    fun c here => counts.2 c (List.mem_cons_of_mem _ here)⟩

theorem Ended.head {rest : Bytes} (ended : Ended rest) :
    ∀ b ∈ rest.head?, isDigit b = false ∧ b ≠ 46 ∧ isExponentMark b = false := by
  cases rest with
  | nil => simp
  | cons b more => simpa [Ended] using ended

theorem Numeral.power_head (numeral : Numeral) {rest : Bytes} (ended : Ended rest) :
    ∀ b ∈ (numeral.power ++ rest).head?, isDigit b = false ∧ b ≠ 46 := by
  rcases numeral.scaled with none | ⟨mark, direction, digits, power, exponent, -⟩
  · rw [none]
    exact fun b here => ⟨(ended.head b here).1, (ended.head b here).2.1⟩
  · rw [power]
    intro b here
    obtain rfl : mark = b := by simpa using here
    simp only [isExponentMark, Bool.or_eq_true, beq_iff_eq] at exponent
    rcases exponent with rfl | rfl <;> decide

theorem Numeral.fraction_head (numeral : Numeral) {rest : Bytes} (ended : Ended rest) :
    ∀ b ∈ (numeral.fraction ++ (numeral.power ++ rest)).head?, isDigit b = false := by
  rcases numeral.divided with none | ⟨digits, fraction, -⟩
  · rw [none]
    exact fun b here => (numeral.power_head ended b here).1
  · rw [fraction]
    simp [isDigit]

theorem skipScale_power (numeral : Numeral) {rest : Bytes} (ended : Ended rest) :
    skipScale (numeral.power ++ rest) = .ok rest := by
  rcases numeral.scaled with none | ⟨mark, direction, digits, power, exponent, directed, counts⟩
  · rw [none, List.nil_append]
    cases rest with
    | nil => rfl
    | cons b more => simp [skipScale, ended.2.2]
  · obtain ⟨b, more, rfl, digit, every⟩ := counts.eq_cons
    have dropped : (more ++ rest).dropWhile isDigit = rest :=
      dropWhile_digits every fun b here => (ended.head b here).1
    have unsigned : b ≠ 43 ∧ b ≠ minus := by
      constructor <;> (rintro rfl; cases digit)
    rw [power]
    rcases directed with rfl | rfl | rfl <;>
      simp [skipScale, exponent, skipExponent, unsigned, digit, dropped]

theorem skipFraction_fraction (numeral : Numeral) {rest : Bytes} (ended : Ended rest) :
    skipFraction (numeral.fraction ++ (numeral.power ++ rest)) = .ok rest := by
  have scale := skipScale_power numeral ended
  have head := numeral.power_head ended
  rcases numeral.divided with none | ⟨digits, fraction, counts⟩
  · rw [none, List.nil_append]
    cases left : numeral.power ++ rest with
    | nil =>
      rw [left] at scale
      exact scale
    | cons b more =>
      rw [left] at scale head
      simp only [skipFraction, if_neg (head b rfl).2, scale]
  · obtain ⟨b, more, rfl, digit, every⟩ := counts.eq_cons
    have dropped : (more ++ (numeral.power ++ rest)).dropWhile isDigit = numeral.power ++ rest :=
      dropWhile_digits every fun b here => (head b here).1
    rw [fraction]
    simp [skipFraction, digit, dropped, scale]

theorem skipUnsigned_numeral (numeral : Numeral) {rest : Bytes} (ended : Ended rest) :
    skipUnsigned (numeral.whole ++ (numeral.fraction ++ (numeral.power ++ rest))) = .ok rest := by
  have fraction := skipFraction_fraction numeral ended
  have head := numeral.fraction_head ended
  rcases numeral.counted with zero | ⟨counts, leading⟩
  · rw [zero]
    cases left : numeral.fraction ++ (numeral.power ++ rest) with
    | nil =>
      rw [left] at fraction
      exact fraction
    | cons b more =>
      rw [left] at fraction head
      simp [skipUnsigned, head b rfl, fraction]
  · obtain ⟨b, more, whole, digit, every⟩ := counts.eq_cons
    have nonzero : b ≠ 48 := by simpa [whole] using leading
    have dropped := dropWhile_digits every head
    rw [whole]
    simp [skipUnsigned, nonzero, digit, dropped, fraction]

/-! ### Moves -/

/-- Passing over what the first mode says goes on with what the second says. -/
def Leads (bound : Nat) (mode : SkipMode) (outer : List Frame) (input : Bytes) (mode' : SkipMode)
    (outer' : List Frame) (rest : Bytes) : Prop :=
  ∀ fits, ∃ fits', skipFrom bound mode outer input fits = skipFrom bound mode' outer' rest fits'

namespace Leads

variable {bound : Nat} {outer : List Frame} {frame : Frame} {input rest : Bytes}

theorem trans {mode mode' mode'' : SkipMode} {outer outer' outer'' : List Frame}
    {input between rest : Bytes} (first : Leads bound mode outer input mode' outer' between)
    (second : Leads bound mode' outer' between mode'' outer'' rest) :
    Leads bound mode outer input mode'' outer'' rest := by
  intro fits
  obtain ⟨within, one⟩ := first fits
  obtain ⟨within', other⟩ := second within
  exact ⟨within', one.trans other⟩

theorem openList (ahead : skipBlank input = Json.openList :: rest) :
    Leads bound .value outer input (.opened .list) outer rest := by
  intro fits
  have short := length_of_skipBlank ahead
  have room : input.length < bound + 1 := fits
  rw [skipFrom]
  split
  · next none => simp [ahead] at none
  · next some =>
    cases ahead.symm.trans some
    exact ⟨by simp only [SkipMode.least]; omega, if_pos rfl⟩

theorem openObject (ahead : skipBlank input = Json.openObject :: rest) :
    Leads bound .value outer input (.opened .object) outer rest := by
  intro fits
  have short := length_of_skipBlank ahead
  have room : input.length < bound + 1 := fits
  rw [skipFrom]
  split
  · next none => simp [ahead] at none
  · next some =>
    cases ahead.symm.trans some
    exact ⟨by simp only [SkipMode.least]; omega, (if_neg (by decide)).trans (if_pos rfl)⟩

theorem scalar {b : UInt8} {more : Bytes} (ahead : skipBlank input = b :: more)
    (bare : b ≠ Json.openList ∧ b ≠ Json.openObject) (passed : skipScalar b more = .ok rest) :
    Leads bound .value outer input .closed outer rest := by
  intro fits
  have short := length_of_skipBlank ahead
  have within := length_of_skipScalar passed
  have room : input.length < bound + 1 := fits
  rw [skipFrom]
  split
  · next none => simp [ahead] at none
  · next some =>
    cases ahead.symm.trans some
    rw [if_neg bare.1, if_neg bare.2]
    refine ⟨by simp only [SkipMode.least]; omega, ?_⟩
    split
    · next found => simp [passed] at found
    · next found =>
      cases passed.symm.trans found
      rfl

theorem first {b : UInt8} (ahead : skipBlank input = b :: rest) (goes : b ≠ frame.closer) :
    Leads bound (.opened frame) outer input (.item frame) outer input := by
  intro fits
  rw [skipFrom]
  split
  · next none => simp [ahead] at none
  · next some =>
    cases ahead.symm.trans some
    exact ⟨fits, if_neg goes⟩

theorem empty (ahead : skipBlank input = frame.closer :: rest) :
    Leads bound (.opened frame) outer input .closed outer rest := by
  intro fits
  have short := length_of_skipBlank ahead
  have room : input.length < bound + 1 := fits
  rw [skipFrom]
  split
  · next none => simp [ahead] at none
  · next some =>
    cases ahead.symm.trans some
    exact ⟨by simp only [SkipMode.least]; omega, if_pos rfl⟩

theorem next (ahead : skipBlank input = comma :: rest) :
    Leads bound .closed (frame :: outer) input (.item frame) outer rest := by
  intro fits
  have short := length_of_skipBlank ahead
  have room : input.length < bound + 0 := fits
  rw [skipFrom]
  split
  · next none => simp [ahead] at none
  · next some =>
    cases ahead.symm.trans some
    exact ⟨by simp only [SkipMode.least]; omega, if_pos rfl⟩

theorem close (ahead : skipBlank input = frame.closer :: rest) :
    Leads bound .closed (frame :: outer) input .closed outer rest := by
  intro fits
  have short := length_of_skipBlank ahead
  have other : frame.closer ≠ comma := by cases frame <;> decide
  have room : input.length < bound + 0 := fits
  rw [skipFrom]
  split
  · next none => simp [ahead] at none
  · next some =>
    cases ahead.symm.trans some
    exact ⟨by simp only [SkipMode.least]; omega, (if_neg other).trans (if_pos rfl)⟩

theorem item : Leads bound (.item .list) outer input .value (.list :: outer) input := by
  intro fits
  rw [skipFrom]
  exact ⟨fits, rfl⟩

theorem member {named : Bytes} {spelling : Spelling}
    (ahead : skipBlank input = spelling.token ++ named)
    (colon : skipBlank named = Json.colon :: rest) :
    Leads bound (.item .object) outer input .value (.object :: outer) rest := by
  intro fits
  obtain ⟨short, quote⟩ : Yields (skipMark quoteMark .endInObject .keyNotString input) ()
      (spelling.bytes ++ quoteMark :: named) := yields_skipMark (by simpa [Spelling.token] using ahead)
  obtain ⟨shorter, name⟩ := skipLiteral_spelling spelling named
  obtain ⟨shortest, behind⟩ : Yields (skipMark Json.colon .endInObject .expectedColon named) () rest :=
    yields_skipMark colon
  have room : input.length < bound + 1 := fits
  rw [skipFrom]
  simp only [quote, name, behind]
  exact ⟨by simp only [SkipMode.least]; omega, trivial⟩

end Leads

/-! ### Values -/

theorem Numeral.whole_eq_cons (numeral : Numeral) :
    ∃ b more, numeral.whole = b :: more ∧ isDigit b = true := by
  rcases numeral.counted with zero | ⟨counts, -⟩
  · exact ⟨48, [], zero, rfl⟩
  · obtain ⟨b, more, whole, digit, -⟩ := counts.eq_cons
    exact ⟨b, more, whole, digit⟩

theorem skipScalar_number (numeral : Numeral) {rest : Bytes} (ended : Ended rest) :
    ∃ b more, numeral.token ++ rest = b :: more ∧ (b = minus ∨ isDigit b = true) ∧
      skipScalar b more = .ok rest := by
  have unsigned := skipUnsigned_numeral numeral ended
  rcases numeral.signed with sign | sign
  · obtain ⟨b, more, whole, digit⟩ := numeral.whole_eq_cons
    refine ⟨b, more ++ (numeral.fraction ++ (numeral.power ++ rest)), ?_, .inr digit, ?_⟩
    · simp [Numeral.token, sign, whole]
    · rw [whole, List.cons_append] at unsigned
      have scalar : b ≠ quoteMark ∧ b ≠ minus := by constructor <;> (rintro rfl; cases digit)
      rw [skipScalar, if_neg scalar.1, if_neg scalar.2, if_pos digit, unsigned]
  · refine ⟨minus, numeral.whole ++ (numeral.fraction ++ (numeral.power ++ rest)), ?_, .inl rfl, ?_⟩
    · simp [Numeral.token, sign]
    · rw [skipScalar, if_neg (by decide), if_pos rfl, unsigned]

theorem skipScalar_spelling (spelling : Spelling) (rest : Bytes) :
    skipScalar quoteMark (spelling.bytes ++ quoteMark :: rest) = .ok rest := by
  obtain ⟨_, passed⟩ := skipLiteral_spelling spelling rest
  rw [skipScalar, if_pos rfl, passed]
  rfl

theorem apart_itemTokens (items : List Tree) (after : List Bytes) :
    Apart (Tree.itemTokens false items ++ after) := by
  cases items <;> exact ⟨by simp, rfl, by decide, rfl⟩

theorem apart_memberTokens (members : List (Spelling × Tree)) (after : List Bytes) :
    Apart (Tree.memberTokens false members ++ after) := by
  cases members <;> exact ⟨by simp, rfl, by decide, rfl⟩

def Tree.initial : Tree → UInt8
  | .null => 110
  | .bool value => if value then 116 else 102
  | .number numeral => numeral.token.headD 0
  | .string _ => quoteMark
  | .list _ => openList
  | .object _ => openObject

theorem Tree.tokens_eq_cons (tree : Tree) :
    ∃ more later, tree.tokens = (tree.initial :: more) :: later := by
  cases tree with
  | number numeral =>
    obtain ⟨b, more, token, -, -⟩ := skipScalar_number numeral (show Ended [] from trivial)
    rw [List.append_nil] at token
    exact ⟨more, [], by simp [tokens, initial, token]⟩
  | bool value => cases value <;> exact ⟨_, _, rfl⟩
  | _ => exact ⟨_, _, rfl⟩

theorem Numeral.initial_starts (numeral : Numeral) :
    (Tree.number numeral).initial = minus ∨ isDigit (Tree.number numeral).initial = true := by
  obtain ⟨b, more, token, starts, -⟩ := skipScalar_number numeral (show Ended [] from trivial)
  rw [List.append_nil] at token
  simpa [Tree.initial, token] using starts

theorem Tree.initial_ne_closer (tree : Tree) (frame : Frame) : tree.initial ≠ frame.closer := by
  cases tree with
  | number numeral =>
    intro same
    have starts := numeral.initial_starts
    rw [same] at starts
    cases frame <;> exact absurd starts (by decide)
  | bool value => cases value <;> cases frame <;> decide
  | _ => cases frame <;> simp [initial, Frame.closer, quoteMark, openList, openObject, closeList,
      closeObject]

theorem Tree.ahead {tree : Tree} {after : List Bytes} {input : Bytes}
    (spaced : Spaced (tree.tokens ++ after) input) :
    ∃ more, skipBlank input = tree.initial :: more := by
  obtain ⟨token, later, tokens⟩ := tree.tokens_eq_cons
  rw [tokens] at spaced
  obtain ⟨rest, ahead, -⟩ := spaced
  exact ⟨token ++ rest, ahead⟩

mutual

/-- A value is passed over within any frames around it. -/
theorem passes {bound : Nat} (tree : Tree) (outer : List Frame) {after : List Bytes} {input : Bytes}
    (apart : Apart after) (spaced : Spaced (tree.tokens ++ after) input) :
    ∃ rest, Spaced after rest ∧ Leads bound .value outer input .closed outer rest := by
  -- By recursion on the tree; what is open around it lies on the stack and is not looked at.
  match tree with
  | .null =>
    obtain ⟨rest, ahead, later⟩ := spaced
    exact ⟨rest, later, .scalar ahead (by decide) rfl⟩
  | .bool true =>
    obtain ⟨rest, ahead, later⟩ := spaced
    exact ⟨rest, later, .scalar ahead (by decide) rfl⟩
  | .bool false =>
    obtain ⟨rest, ahead, later⟩ := spaced
    exact ⟨rest, later, .scalar ahead (by decide) rfl⟩
  | .number numeral =>
    obtain ⟨rest, ahead, later⟩ := spaced
    obtain ⟨b, more, token, starts, passed⟩ := skipScalar_number numeral (later.ended apart)
    have bare : b ≠ openList ∧ b ≠ openObject := by
      rcases starts with rfl | digit
      · decide
      · constructor <;> (rintro rfl; cases digit)
    exact ⟨rest, later, .scalar (ahead.trans token) bare passed⟩
  | .string spelling =>
    obtain ⟨rest, ahead, later⟩ := spaced
    have quote : skipBlank input = quoteMark :: (spelling.bytes ++ quoteMark :: rest) := by
      simpa [Spelling.token] using ahead
    exact ⟨rest, later, .scalar quote (by decide) (skipScalar_spelling spelling rest)⟩
  | .list [] =>
    obtain ⟨inner, ahead, rest, close, later⟩ := spaced
    exact ⟨rest, later, (Leads.openList ahead).trans (.empty close)⟩
  | .list (item :: more) =>
    rw [Tree.tokens_list, Tree.itemTokens_first] at spaced
    obtain ⟨inner, ahead, spaced⟩ := spaced
    obtain ⟨_, begins⟩ := Tree.ahead spaced
    obtain ⟨between, spaced, one⟩ := passes item (.list :: outer) (apart_itemTokens more after) spaced
    obtain ⟨rest, later, others⟩ := passes_items more outer spaced
    have first : Leads bound (.opened .list) outer inner (.item .list) outer inner :=
      .first begins (item.initial_ne_closer .list)
    exact ⟨rest, later,
      (Leads.openList ahead).trans (first.trans (Leads.item.trans (one.trans others)))⟩
  | .object [] =>
    obtain ⟨inner, ahead, rest, close, later⟩ := spaced
    exact ⟨rest, later, (Leads.openObject ahead).trans (.empty close)⟩
  | .object ((name, value) :: more) =>
    rw [Tree.tokens_object, Tree.memberTokens_first] at spaced
    obtain ⟨inner, ahead, named, begins, behind, colon, spaced⟩ := spaced
    obtain ⟨between, spaced, one⟩ :=
      passes value (.object :: outer) (apart_memberTokens more after) spaced
    obtain ⟨rest, later, others⟩ := passes_members more outer spaced
    have first : Leads bound (.opened .object) outer inner (.item .object) outer inner :=
      .first begins (by decide)
    exact ⟨rest, later, (Leads.openObject ahead).trans
      (first.trans ((Leads.member begins colon).trans (one.trans others)))⟩

theorem passes_items {bound : Nat} (items : List Tree) (outer : List Frame) {after : List Bytes}
    {input : Bytes} (spaced : Spaced (Tree.itemTokens false items ++ after) input) :
    ∃ rest, Spaced after rest ∧ Leads bound .closed (.list :: outer) input .closed outer rest := by
  match items with
  | [] =>
    obtain ⟨rest, close, later⟩ := spaced
    exact ⟨rest, later, .close close⟩
  | item :: more =>
    rw [Tree.itemTokens_next] at spaced
    obtain ⟨inner, ahead, spaced⟩ := spaced
    obtain ⟨between, spaced, one⟩ := passes item (.list :: outer) (apart_itemTokens more after) spaced
    obtain ⟨rest, later, others⟩ := passes_items more outer spaced
    exact ⟨rest, later, (Leads.next ahead).trans (Leads.item.trans (one.trans others))⟩

theorem passes_members {bound : Nat} (members : List (Spelling × Tree)) (outer : List Frame)
    {after : List Bytes} {input : Bytes}
    (spaced : Spaced (Tree.memberTokens false members ++ after) input) :
    ∃ rest, Spaced after rest ∧ Leads bound .closed (.object :: outer) input .closed outer rest := by
  match members with
  | [] =>
    obtain ⟨rest, close, later⟩ := spaced
    exact ⟨rest, later, .close close⟩
  | (name, value) :: more =>
    rw [Tree.memberTokens_next] at spaced
    obtain ⟨inner, ahead, named, begins, behind, colon, spaced⟩ := spaced
    obtain ⟨between, spaced, one⟩ :=
      passes value (.object :: outer) (apart_memberTokens more after) spaced
    obtain ⟨rest, later, others⟩ := passes_members more outer spaced
    exact ⟨rest, later, (Leads.next ahead).trans
      ((Leads.member begins colon).trans (one.trans others))⟩

end

theorem yields_skip (tree : Tree) {after : List Bytes} {input : Bytes} (apart : Apart after)
    (spaced : Spaced (tree.tokens ++ after) input) :
    ∃ rest, Spaced after rest ∧ Yields (skip input) () rest := by
  obtain ⟨rest, later, leads⟩ := passes tree [] apart spaced
  obtain ⟨shorter, passed⟩ := leads (Nat.lt_succ_self input.length)
  refine ⟨rest, later, shorter, ?_⟩
  rw [skip, passed, skipFrom]

end Sightline.Json
