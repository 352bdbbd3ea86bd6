import Sightline.Proofs.Json.Literal
import Sightline.Proofs.Json.Tree

/-! Strings under any spelling: a reader gets the text that the string says, or stops at a half of a
surrogate pair (`yields_spelling`, `fails_spelling`); what passes over a string does not care
(`skipLiteral_spelling`). -/

set_option autoImplicit false

namespace Sightline.Json

/-! ### Escapes -/

theorem plainEscape_letter (escape : Escape) :
    plainEscape? escape.letter = some (UInt8.ofNat escape.char.toNat) := by
  cases escape <;> rfl

theorem spells_plain {c : Char} (printed : c ≠ '"' ∧ c ≠ '\\' ∧ 32 ≤ c.toNat) :
    Spells (Piece.plain c printed).bytes (String.utf8EncodeChar c) :=
  .each fun _ => printed_of_mem printed.1 printed.2.1 (Nat.not_lt.mpr printed.2.2)

theorem spells_short (escape : Escape) :
    Spells (Piece.short escape).bytes (String.utf8EncodeChar escape.char) := by
  have low : escape.char.toNat < 128 := by cases escape <;> decide
  rw [Bytes.utf8EncodeChar_ascii low]
  exact .escape (plainEscape_letter escape)

theorem digitValue_byte (digit : HexDigit) :
    Uuid.digitValue? (Char.ofNat digit.byte.toNat) = some digit.value.val := by
  have each : ∀ (value : Fin 16) (capital : Bool),
      Uuid.digitValue? (Char.ofNat (HexDigit.byte ⟨value, capital⟩).toNat) = some value.val := by
    decide
  exact each digit.value digit.capital

theorem readUnit_bytes (unit : HexUnit) (rest : Bytes) :
    readUnit (unit.bytes ++ rest) = .ok (unit.number, rest) := by
  simp only [HexUnit.bytes, List.cons_append, List.nil_append, readUnit, Uuid.number?, List.map_cons,
    List.map_nil, List.foldl_cons, List.foldl_nil, digitValue_byte, Option.pure_def,
    Option.bind_eq_bind, Option.bind_some]
  congr 2
  simp only [HexUnit.number]
  omega

theorem HexUnit.number_lt (unit : HexUnit) : unit.number < 65536 := by
  have := unit.first.value.isLt
  have := unit.second.value.isLt
  have := unit.third.value.isLt
  have := unit.fourth.value.isLt
  simp only [number]
  omega

theorem toNat_ofNat {n : Nat} (valid : n.isValidChar) : (Char.ofNat n).toNat = n := by
  rw [Char.ofNat, dif_pos valid]
  rfl

theorem readPoint_single {unit : HexUnit} (first : ¬isTrailing unit.number = true)
    (single : ¬isLeading unit.number = true) (rest : Bytes) :
    readPoint (unit.bytes ++ rest) = .ok ((Char.ofNat unit.number).toNat, rest) := by
  have valid : unit.number.isValidChar := by
    have := unit.number_lt
    simp only [isTrailing, isLeading, Bool.and_eq_true, decide_eq_true_eq] at first single
    simp only [Nat.isValidChar]
    omega
  rw [readPoint, readUnit_bytes, toNat_ofNat valid]
  simp only [if_neg first, if_neg single]

theorem readTrailing_long (second : HexUnit) (rest : Bytes) :
    readTrailing ((Piece.long second).bytes ++ rest)
      = if isTrailing second.number then .ok (second.number, rest) else .error .loneSurrogate := by
  simp [Piece.bytes, readTrailing, readUnit_bytes]

theorem readPoint_pair {unit second : HexUnit} (first : ¬isTrailing unit.number = true)
    (leading : isLeading unit.number = true) (trailing : isTrailing second.number = true)
    (rest : Bytes) :
    readPoint (unit.bytes ++ ((Piece.long second).bytes ++ rest))
      = .ok ((Spelling.paired unit.number second.number).toNat, rest) := by
  have valid :
      ((unit.number - 0xd800) * 1024 + (second.number - 0xdc00) + 0x10000).isValidChar := by
    simp only [isTrailing, isLeading, Bool.and_eq_true, decide_eq_true_eq] at leading trailing
    simp only [Nat.isValidChar]
    omega
  rw [readPoint, readUnit_bytes, Spelling.paired, toNat_ofNat valid]
  simp only [if_neg first, if_pos leading, readTrailing_long, if_pos trailing]

theorem spells_pair {unit second : HexUnit} (first : ¬isTrailing unit.number = true)
    (leading : isLeading unit.number = true) (trailing : isTrailing second.number = true) :
    Spells (escapeMark :: unitMark :: (unit.bytes ++ (Piece.long second).bytes))
      (String.utf8EncodeChar (Spelling.paired unit.number second.number)) := by
  apply Spells.unit
  intro rest
  rw [List.append_assoc]
  exact readPoint_pair first leading trailing rest

/-! ### Strings that say a text -/

theorem spells_chars {spelling : Spelling} {chars : List Char}
    (means : spelling.chars? = some chars) :
    Spells spelling.bytes (chars.flatMap String.utf8EncodeChar) := by
  -- The cases are those of the decoding: a leading unit takes the trailing unit behind it along.
  induction spelling using Spelling.chars?.induct generalizing chars with
  | case1 =>
    cases means
    exact .nil
  | case2 c printed more ih =>
    obtain ⟨chars, later, rfl⟩ := Option.map_eq_some_iff.mp means
    exact (spells_plain printed).append (ih later)
  | case3 escape more ih =>
    obtain ⟨chars, later, rfl⟩ := Option.map_eq_some_iff.mp means
    exact (spells_short escape).append (ih later)
  | case4 unit more trailing =>
    unfold Spelling.chars? at means
    simp [trailing] at means
  | case5 unit first leading second more trailing ih =>
    simp only [Spelling.chars?, if_neg first, if_pos leading, if_pos trailing] at means
    obtain ⟨chars, later, rfl⟩ := Option.map_eq_some_iff.mp means
    have both := (spells_pair first leading trailing).append (ih later)
    simpa [Spelling.bytes, Piece.bytes] using both
  | case6 unit first leading second more lone =>
    simp [Spelling.chars?, first, leading, lone] at means
  | case7 unit more first leading unpaired =>
    unfold Spelling.chars? at means
    simp [first, leading] at means
  | case8 unit more first single ih =>
    unfold Spelling.chars? at means
    simp only [if_neg first, if_neg single] at means
    obtain ⟨chars, later, rfl⟩ := Option.map_eq_some_iff.mp means
    exact (Spells.unit (readPoint_single first single)).append (ih later)

theorem yields_spelling {spelling : Spelling} {s : String} (means : spelling.text? = some s)
    (rest : Bytes) : Yields (literal (spelling.bytes ++ quoteMark :: rest)) s rest := by
  obtain ⟨chars, known, rfl⟩ := Option.map_eq_some_iff.mp means
  have spells := spells_chars known
  rw [← Bytes.ofText_ofList] at spells
  exact spells.yields_literal rest

/-! ### Strings that say nothing -/

/-- Within a string, the input cannot be read up to the closing quote behind it. -/
def Jams (input : Bytes) : Prop :=
  ∀ (bound : Nat) (text : Array UInt8) (rest : Bytes)
    (fits : (input ++ quoteMark :: rest).length ≤ bound),
    ∃ fault, literalFrom bound text (input ++ quoteMark :: rest) fits = .error fault

namespace Jams

theorem behind {first second spelled : Bytes} (spells : Spells first spelled) (jams : Jams second) :
    Jams (first ++ second) := by
  intro bound text rest fits
  have within : (second ++ quoteMark :: rest).length ≤ bound := by
    simp only [List.length_append] at fits ⊢
    omega
  obtain ⟨fault, stuck⟩ := jams bound (text ++ spelled) rest within
  refine ⟨fault, ?_⟩
  rw [← stuck, ← spells bound text (second ++ quoteMark :: rest) (by simpa using fits) within]
  congr 1
  exact List.append_assoc ..

theorem point {input : Bytes}
    (stuck : ∀ rest, ∃ fault, readPoint (input ++ quoteMark :: rest) = .error fault) :
    Jams (escapeMark :: unitMark :: input) := by
  intro bound text rest fits
  obtain ⟨fault, stuck⟩ := stuck rest
  have letter : plainEscape? unitMark = none := rfl
  refine ⟨fault, ?_⟩
  simp only [List.cons_append]
  rw [literalFrom, if_neg (by decide), if_pos rfl]
  simp only [letter, if_pos]
  split
  · next found =>
    cases stuck.symm.trans found
    rfl
  · next found => simp [stuck] at found

end Jams

theorem readTrailing_unpaired {more : Spelling}
    (unpaired : ∀ (second : HexUnit) (later : List Piece), more = Piece.long second :: later → False)
    (rest : Bytes) : readTrailing (more.bytes ++ quoteMark :: rest) = .error .hexEscapeEnd := by
  cases more with
  | nil => rfl
  | cons piece later =>
    cases piece with
    | plain c printed =>
      obtain ⟨b, bytes, encoded⟩ : ∃ b bytes, String.utf8EncodeChar c = b :: bytes :=
        List.exists_cons_of_ne_nil (by simp)
      have here : b ∈ String.utf8EncodeChar c := encoded ▸ List.mem_cons_self
      have unescaped := (printed_of_mem printed.1 printed.2.1 (Nat.not_lt.mpr printed.2.2) here).2.1
      simp [Spelling.bytes, Piece.bytes, encoded, readTrailing, unescaped]
    | short escape => cases escape <;> rfl
    | long second => exact absurd rfl (unpaired second later)

theorem jams_chars {spelling : Spelling} (silent : spelling.chars? = none) : Jams spelling.bytes := by
  -- The first lone surrogate jams the reader, and what comes before it is read.
  induction spelling using Spelling.chars?.induct with
  | case1 => cases silent
  | case2 c printed more ih =>
    exact .behind (spells_plain printed) (ih (Option.map_eq_none_iff.mp silent))
  | case3 escape more ih =>
    exact .behind (spells_short escape) (ih (Option.map_eq_none_iff.mp silent))
  | case4 unit more trailing =>
    have stuck : Jams (escapeMark :: unitMark :: (unit.bytes ++ Spelling.bytes more)) := by
      refine .point fun rest => ⟨.loneSurrogate, ?_⟩
      rw [List.append_assoc, readPoint, readUnit_bytes]
      simp only [if_pos trailing]
    exact stuck
  | case5 unit first leading second more trailing ih =>
    simp only [Spelling.chars?, if_neg first, if_pos leading, if_pos trailing] at silent
    have both := Jams.behind (spells_pair first leading trailing) (ih (Option.map_eq_none_iff.mp silent))
    simpa [Spelling.bytes, Piece.bytes] using both
  | case6 unit first leading second more lone =>
    have stuck : Jams (escapeMark :: unitMark ::
        (unit.bytes ++ ((Piece.long second).bytes ++ Spelling.bytes more))) := by
      refine .point fun rest => ⟨.loneSurrogate, ?_⟩
      rw [List.append_assoc, List.append_assoc, readPoint, readUnit_bytes]
      simp only [if_neg first, if_pos leading, readTrailing_long, if_neg lone]
    exact stuck
  | case7 unit more first leading unpaired =>
    have stuck : Jams (escapeMark :: unitMark :: (unit.bytes ++ Spelling.bytes more)) := by
      refine .point fun rest => ⟨.hexEscapeEnd, ?_⟩
      rw [List.append_assoc, readPoint, readUnit_bytes]
      simp only [if_neg first, if_pos leading, readTrailing_unpaired unpaired]
    exact stuck
  | case8 unit more first single ih =>
    unfold Spelling.chars? at silent
    simp only [if_neg first, if_neg single] at silent
    exact .behind (Spells.unit (readPoint_single first single))
      (ih (Option.map_eq_none_iff.mp silent))

theorem fails_spelling {spelling : Spelling} (silent : spelling.text? = none) (rest : Bytes) :
    ∃ fault, literal (spelling.bytes ++ quoteMark :: rest) = .error fault := by
  obtain ⟨fault, stuck⟩ :=
    jams_chars (Option.map_eq_none_iff.mp silent) _ #[] rest (Nat.le_refl _)
  refine ⟨fault, ?_⟩
  unfold literal
  rw [stuck]

/-! ### Strings that are passed over -/

def Passed (input : Bytes) : Prop :=
  ∀ (bound : Nat) (rest : Bytes) (fits : (input ++ rest).length ≤ bound)
    (within : rest.length ≤ bound),
    skipLiteralFrom bound (input ++ rest) fits = skipLiteralFrom bound rest within

namespace Passed

theorem append {first second : Bytes} (one : Passed first) (other : Passed second) :
    Passed (first ++ second) := by
  intro bound rest fits within
  have between : (second ++ rest).length ≤ bound := by
    simp only [List.length_append] at fits ⊢
    omega
  rw [← other bound rest between within, ← one bound (second ++ rest) (by simpa using fits) between]
  congr 1
  exact List.append_assoc ..

theorem each {input : Bytes} (every : ∀ b ∈ input, b ≠ quoteMark ∧ b ≠ escapeMark ∧ ¬b < 32) :
    Passed input := by
  induction input with
  | nil => exact fun _ _ _ _ => rfl
  | cons b more ih =>
    obtain ⟨unquoted, unescaped, printed⟩ := every b List.mem_cons_self
    have first : Passed [b] := by
      intro bound rest fits within
      simp only [List.cons_append, List.nil_append]
      rw [skipLiteralFrom, if_neg unquoted, if_neg unescaped, if_neg printed]
    exact first.append (ih fun b here => every b (List.mem_cons_of_mem _ here))

theorem piece (piece : Piece) : Passed piece.bytes := by
  cases piece with
  | plain c printed =>
    exact each fun _ => printed_of_mem printed.1 printed.2.1 (Nat.not_lt.mpr printed.2.2)
  | short escape =>
    intro bound rest fits within
    simp only [Piece.bytes, List.cons_append, List.nil_append]
    rw [skipLiteralFrom, if_neg (by decide), if_pos rfl]
    simp only [plainEscape_letter, Option.isSome_some, if_true]
  | long unit =>
    intro bound rest fits within
    have letter : plainEscape? unitMark = none := rfl
    simp only [Piece.bytes, List.cons_append]
    rw [skipLiteralFrom, if_neg (by decide), if_pos rfl]
    simp only [letter, Option.isSome_none, Bool.false_eq_true, if_false, if_true]
    split
    · next found => simp [readUnit_bytes] at found
    · next found =>
      cases (readUnit_bytes unit rest).symm.trans found
      rfl

theorem spelling (spelling : Spelling) : Passed spelling.bytes := by
  induction spelling with
  | nil => exact fun _ _ _ _ => rfl
  | cons first more ih => exact (piece first).append ih

end Passed

theorem skipLiteral_spelling (spelling : Spelling) (rest : Bytes) :
    Yields (skipLiteral (spelling.bytes ++ quoteMark :: rest)) () rest := by
  have short : (quoteMark :: rest).length ≤ (spelling.bytes ++ quoteMark :: rest).length := by simp
  refine ⟨Nat.lt_of_succ_le short, ?_⟩
  rw [skipLiteral, Passed.spelling spelling _ _ _ short, skipLiteralFrom, if_pos rfl]

end Sightline.Json
