import Sightline.Json.Document
import Sightline.Proofs.Json.Reading
import Sightline.Proofs.Uuid

/-! Strings read back as they were written.

Every character is escaped on its own, and reading what is written of it adds its bytes to the text
(`spells_escaped`); the rest follows from putting such pieces together. -/

set_option autoImplicit false

namespace Sightline.Json

variable {α : Type}

/-- Within a string, the input adds these bytes to the text. -/
def Spells (input spelled : Bytes) : Prop :=
  ∀ (bound : Nat) (text : Array UInt8) (rest : Bytes) (fits : (input ++ rest).length ≤ bound)
    (within : rest.length ≤ bound),
    literalFrom bound text (input ++ rest) fits = literalFrom bound (text ++ spelled) rest within

namespace Spells

theorem nil : Spells [] [] := by
  intro bound text rest fits within
  congr 1

theorem append {first second spelled more : Bytes} (one : Spells first spelled)
    (other : Spells second more) : Spells (first ++ second) (spelled ++ more) := by
  intro bound text rest fits within
  have between : (second ++ rest).length ≤ bound := by
    simp only [List.length_append] at fits ⊢
    omega
  have whole : first ++ second ++ rest = first ++ (second ++ rest) := List.append_assoc ..
  calc
    literalFrom bound text (first ++ second ++ rest) fits
      = literalFrom bound text (first ++ (second ++ rest)) (whole ▸ fits) := by congr 1
    _ = literalFrom bound (text ++ spelled) (second ++ rest) between := one ..
    _ = literalFrom bound (text ++ spelled ++ more) rest within := other ..
    _ = literalFrom bound (text ++ (spelled ++ more)) rest within := by
      congr 1
      exact Array.ext' (by simp)

theorem plain {b : UInt8} (unquoted : b ≠ quoteMark) (unescaped : b ≠ escapeMark)
    (printed : ¬b < 32) : Spells [b] [b] := by
  intro bound text rest fits within
  simp only [List.cons_append, List.nil_append]
  rw [literalFrom, if_neg unquoted, if_neg unescaped, if_neg printed]
  rfl

theorem escape {letter plain : UInt8} (known : plainEscape? letter = some plain) :
    Spells [escapeMark, letter] [plain] := by
  intro bound text rest fits within
  simp only [List.cons_append, List.nil_append]
  rw [literalFrom, if_neg (by decide), if_pos rfl]
  simp only [known]
  rfl

theorem unit {digits : Bytes} {c : Char}
    (read : ∀ rest, readPoint (digits ++ rest) = .ok (c.toNat, rest)) :
    Spells (escapeMark :: unitMark :: digits) (String.utf8EncodeChar c) := by
  intro bound text rest fits within
  have letter : plainEscape? unitMark = none := rfl
  simp only [List.cons_append]
  rw [literalFrom, if_neg (by decide), if_pos rfl]
  simp only [letter, if_pos]
  split
  · next fault => simp [read rest] at fault
  · next found =>
    cases (read rest).symm.trans found
    simp [Bytes.ofText_singleton]

theorem each {input : Bytes}
    (every : ∀ b ∈ input, b ≠ quoteMark ∧ b ≠ escapeMark ∧ ¬b < 32) : Spells input input := by
  induction input with
  | nil => exact nil
  | cons b more ih =>
    obtain ⟨unquoted, unescaped, printed⟩ := every b List.mem_cons_self
    exact (plain unquoted unescaped printed).append
      (ih fun b h => every b (List.mem_cons_of_mem _ h))

end Spells

/-! ### Characters -/

theorem readUnit_hexDigits {n : Nat} (fits : n < 65536) (rest : Bytes) :
    readUnit ((Uuid.hexDigits 4 n).flatMap String.utf8EncodeChar ++ rest) = .ok (n, rest) := by
  have low : ∀ digit : Fin 16, (Uuid.hexDigit digit).toNat < 128 := by decide
  have ascii : ∀ c ∈ Uuid.hexDigits 4 n, c.toNat < 128 := by
    intro c h
    obtain ⟨digit, rfl⟩ := Uuid.mem_hexDigits h
    exact low digit
  have back : ∀ c ∈ Uuid.hexDigits 4 n, Char.ofNat (UInt8.ofNat c.toNat).toNat = c := by
    intro c h
    have := ascii c h
    rw [UInt8.toNat_ofNat', Nat.mod_eq_of_lt (by omega), Char.ofNat_toNat]
  have number : Uuid.number? (Uuid.hexDigits 4 n) = some n := Uuid.number?_hexDigits fits
  have length : (Uuid.hexDigits 4 n).length = 4 := Uuid.length_hexDigits 4 n
  rw [Bytes.flatMap_ascii ascii]
  match digits : Uuid.hexDigits 4 n, length with
  | [first, second, third, fourth], _ =>
    rw [digits] at number back
    simp_all [readUnit]

theorem spells_control {c : Char} (control : c.toNat < 32) :
    Spells ((['\\', 'u'] ++ Uuid.hexDigits 4 c.toNat).flatMap String.utf8EncodeChar)
      (String.utf8EncodeChar c) := by
  have whole : isTrailing c.toNat = false ∧ isLeading c.toNat = false := by
    simp only [isTrailing, isLeading, Bool.and_eq_false_iff, decide_eq_false_iff_not]
    omega
  have read : ∀ rest, readPoint ((Uuid.hexDigits 4 c.toNat).flatMap String.utf8EncodeChar ++ rest) =
      .ok (c.toNat, rest) := by
    intro rest
    rw [readPoint, readUnit_hexDigits (by omega)]
    simp [whole]
  exact Spells.unit read

theorem printed_of_mem {c : Char} (unquoted : c ≠ '"') (unescaped : c ≠ '\\')
    (printed : ¬c.toNat < 32) {b : UInt8} (h : b ∈ String.utf8EncodeChar c) :
    b ≠ quoteMark ∧ b ≠ escapeMark ∧ ¬b < 32 := by
  have quote : c.toNat ≠ 34 := fun same => unquoted (Char.toNat_inj.mp same)
  have escape : c.toNat ≠ 92 := fun same => unescaped (Char.toNat_inj.mp same)
  simp only [ne_eq, ← UInt8.toNat_inj, UInt8.lt_iff_toNat_lt, quoteMark, escapeMark,
    UInt8.reduceToNat]
  by_cases low : c.toNat < 128
  · rw [Bytes.utf8EncodeChar_ascii low, List.mem_singleton] at h
    rw [h, UInt8.toNat_ofNat']
    omega
  · have := Bytes.le_of_mem_utf8EncodeChar (Nat.le_of_not_lt low) h
    omega

theorem spells_escaped (c : Char) :
    Spells ((escaped c).flatMap String.utf8EncodeChar) (String.utf8EncodeChar c) := by
  unfold escaped
  split
  · next same =>
    subst same
    exact Spells.escape rfl
  · next unquoted =>
    split
    · next same =>
      subst same
      exact Spells.escape rfl
    · next unescaped =>
      -- The five control characters that have a letter of their own.
      iterate 5
        split
        · next same =>
          subst same
          exact Spells.escape rfl
      split
      · next control => exact spells_control control
      · next printed =>
        rw [List.flatMap_singleton]
        exact Spells.each fun _ => printed_of_mem unquoted unescaped printed

theorem spells_text (chars : List Char) :
    Spells ((chars.flatMap escaped).flatMap String.utf8EncodeChar)
      (chars.flatMap String.utf8EncodeChar) := by
  induction chars with
  | nil => exact Spells.nil
  | cons c more ih =>
    rw [List.flatMap_cons, List.flatMap_append, List.flatMap_cons]
    exact (spells_escaped c).append ih

/-! ### Strings -/

theorem ofText_quoted (s : String) :
    Bytes.ofText (quoted s) =
      quoteMark :: ((s.toList.flatMap escaped).flatMap String.utf8EncodeChar ++ [quoteMark]) := by
  rw [quoted, Bytes.ofText_ofList]
  simp [String.utf8EncodeChar, quoteMark]

theorem Spells.yields_literal {input : Bytes} {s : String} (spells : Spells input (Bytes.ofText s))
    (rest : Bytes) : Yields (literal (input ++ quoteMark :: rest)) s rest := by
  have short : (quoteMark :: rest).length ≤ (input ++ quoteMark :: rest).length := by simp
  refine ⟨Nat.lt_of_succ_le short, ?_⟩
  rw [literal, spells _ #[] _ _ short, literalFrom, if_pos rfl]
  simp [Parsed.map]

theorem yields_literal (s : String) (rest : Bytes) :
    Yields (literal ((s.toList.flatMap escaped).flatMap String.utf8EncodeChar ++ quoteMark :: rest))
      s rest := by
  have text : s.toList.flatMap String.utf8EncodeChar = Bytes.ofText s := by
    rw [← Bytes.ofText_ofList, String.ofList_toList]
  exact (text ▸ spells_text s.toList).yields_literal rest

theorem literal_of_quoted {s : String} {input rest : Bytes}
    (ahead : input = Bytes.ofText (quoted s) ++ rest) :
    ∃ tail, input = quoteMark :: tail ∧ Yields (literal tail) s rest := by
  rw [ofText_quoted] at ahead
  exact ⟨_, by simpa using ahead, yields_literal s rest⟩

theorem solid_quoted (s : String) : Solid (Bytes.ofText (quoted s)) :=
  ⟨_, _, ofText_quoted s, rfl⟩

theorem yields_stringAs (expected : String) {s : String} {input tail rest : Bytes}
    (quote : skipBlank input = quoteMark :: tail) (named : Yields (literal tail) s rest) :
    Yields (stringAs expected input) s rest := by
  unfold stringAs
  split
  · next none => simp [quote] at none
  · next some =>
    cases quote.symm.trans some
    rw [if_pos rfl]
    exact named.widen _

theorem reads_stringAs (expected s : String) :
    Reads (stringAs expected) (Bytes.ofText (quoted s)) s := by
  intro input rest ahead ended
  obtain ⟨tail, quote, named⟩ := literal_of_quoted ahead
  exact yields_stringAs expected quote named

theorem reads_textAs {expected s : String} {take : String → Except String α} {value : α}
    (taken : take s = .ok value) :
    Reads (Json.textAs expected take) (Bytes.ofText (quoted s)) value := by
  intro input rest ahead ended
  obtain ⟨shorter, read⟩ := reads_stringAs expected s input rest ahead ended
  exact ⟨shorter, by simp [Json.textAs, read, taken, Parsed.map]⟩

theorem yields_oneOf {allowed : List (String × α)} {name : String} {value : α}
    {input tail rest : Bytes} (known : variant allowed name = .ok value)
    (quote : skipBlank input = quoteMark :: tail) (named : Yields (literal tail) name rest) :
    Yields (Json.oneOf allowed input) value rest := by
  obtain ⟨shorter, named⟩ := named
  unfold Json.oneOf
  split
  · next none => simp [quote] at none
  · next some =>
    cases quote.symm.trans some
    simp only [if_pos, named, known]
    exact ⟨_, rfl⟩

theorem reads_oneOf {allowed : List (String × α)} {name : String} {value : α}
    (known : variant allowed name = .ok value) :
    Reads (Json.oneOf allowed) (Bytes.ofText (quoted name)) value := by
  intro input rest ahead ended
  obtain ⟨tail, quote, named⟩ := literal_of_quoted ahead
  exact yields_oneOf known quote named

end Sightline.Json
