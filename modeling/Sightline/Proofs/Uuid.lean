import Sightline.Uuid.Parse

/-! Identifiers and what is written of them.

Main statement: the written form of every identifier reads back (`Uuid.parse_text`). -/

set_option autoImplicit false

namespace Sightline.Uuid

/-! ### Digits -/

theorem digitValue?_hexDigit (digit : Fin 16) : digitValue? (hexDigit digit) = some digit.val := by
  revert digit
  decide

theorem mem_hexDigits {count n : Nat} {c : Char} (h : c ∈ hexDigits count n) :
    ∃ digit : Fin 16, c = hexDigit digit := by
  induction count generalizing n with
  | zero => simp [hexDigits] at h
  | succ count ih =>
    rw [hexDigits, List.mem_append, List.mem_singleton] at h
    rcases h with above | rfl
    · exact ih above
    · exact ⟨⟨n % 16, Nat.mod_lt _ (by decide)⟩, rfl⟩

theorem number?_append (digits : List Char) (last : Char) :
    number? (digits ++ [last]) =
      (number? digits).bind fun n => (digitValue? last).map (16 * n + ·) := by
  simp only [number?, List.foldl_append, List.foldl_cons, List.foldl_nil]
  cases digits.foldl _ (some 0) <;> cases digitValue? last <;> rfl

theorem number?_hexDigits {count n : Nat} (fits : n < Nat.pow 16 count) :
    number? (hexDigits count n) = some n := by
  induction count generalizing n with
  | zero =>
    have zero : n = 0 := by simpa [Nat.pow] using fits
    subst zero
    rfl
  | succ count ih =>
    change n < Nat.pow 16 count * 16 at fits
    have upper : n / 16 < Nat.pow 16 count :=
      Nat.div_lt_of_lt_mul (by rwa [Nat.mul_comm] at fits)
    rw [hexDigits, number?_append, ih upper,
      digitValue?_hexDigit ⟨n % 16, Nat.mod_lt _ (by decide)⟩]
    simp only [Option.bind_some, Option.map_some, Nat.div_add_mod]

/-! ### Groups -/

theorem groups_hyphen {group : List Char} (plain : '-' ∉ group) (rest : List Char) :
    groups (group ++ '-' :: rest) = group :: groups rest := by
  induction group with
  | nil => simp [groups]
  | cons c more ih =>
    simp only [List.mem_cons, not_or] at plain
    rw [List.cons_append, groups, if_neg (Ne.symm plain.1), ih plain.2]

theorem groups_plain {group : List Char} (plain : '-' ∉ group) : groups group = [group] := by
  induction group with
  | nil => rfl
  | cons c more ih =>
    simp only [List.mem_cons, not_or] at plain
    rw [groups, if_neg (Ne.symm plain.1), ih plain.2]

theorem groups_hyphenate {length : Nat} {more : List Nat} {digits : List Char}
    (plain : '-' ∉ digits) (whole : digits.length = length + more.foldr (· + ·) 0) :
    (groups (hyphenate (length :: more) digits)).map List.length = length :: more ∧
      (groups (hyphenate (length :: more) digits)).flatten = digits := by
  induction more generalizing length digits with
  | nil =>
    rw [List.foldr_nil, Nat.add_zero] at whole
    rw [hyphenate, List.take_of_length_le (Nat.le_of_eq whole), groups_plain plain]
    simp [whole]
  | cons next more ih =>
    rw [List.foldr_cons] at whole
    have front : '-' ∉ digits.take length := fun h => plain (List.mem_of_mem_take h)
    have back : '-' ∉ digits.drop length := fun h => plain (List.mem_of_mem_drop h)
    obtain ⟨lengths, flat⟩ := ih back (by rw [List.length_drop, whole, Nat.add_sub_cancel_left])
    simp only [hyphenate, groups_hyphen front, List.map_cons, List.flatten_cons, lengths, flat]
    constructor
    · simp [whole]
    · exact List.take_append_drop length digits

/-! ### Reading back -/

theorem unwrap_bare {c : Char} {more : List Char} (brace : c ≠ '{') (letter : c.toLower ≠ 'u') :
    unwrap (c :: more) = (c :: more, none) := by
  have unbraced : ¬((c :: more).head? = some '{' ∧ 2 ≤ (c :: more).length ∧
      (c :: more).getLast? = some '}') := fun h => brace (Option.some.inj h.1)
  have unnamed : ((c :: more).take 9).map Char.toLower ≠ scheme :=
    fun h => letter (List.cons.inj h).1
  rw [unwrap, if_neg unbraced, if_neg unnamed]

theorem parse_hyphenate {digits : List Char} {n : Nat} (length : digits.length = 32)
    (digit : ∀ c ∈ digits, ∃ digit : Fin 16, c = hexDigit digit) (number : number? digits = some n) :
    parse (String.ofList (hyphenate groupLengths digits)) = .ok ⟨BitVec.ofNat 128 n⟩ := by
  have unlike : ∀ digit : Fin 16,
      hexDigit digit ≠ '-' ∧ hexDigit digit ≠ '{' ∧ (hexDigit digit).toLower ≠ 'u' := by decide
  have plain : '-' ∉ digits := by
    intro h
    obtain ⟨value, same⟩ := digit _ h
    exact (unlike value).1 same.symm
  have bare : unwrap (hyphenate groupLengths digits) = (hyphenate groupLengths digits, none) := by
    match digits, digit with
    | c :: more, digit =>
      obtain ⟨value, rfl⟩ := digit c List.mem_cons_self
      exact unwrap_bare (unlike value).2.1 (unlike value).2.2
  obtain ⟨lengths, flat⟩ :
      (groups (hyphenate groupLengths digits)).map List.length = groupLengths ∧
        (groups (hyphenate groupLengths digits)).flatten = digits := groups_hyphenate plain length
  simp only [parse, String.toList_ofList, bare, lengths, flat, number, true_or, if_true]

theorem parse_text (uuid : Uuid) : parse uuid.text = .ok uuid := by
  rw [text, parse_hyphenate (length_hexDigits 32 _) (fun _ => mem_hexDigits)
    (number?_hexDigits uuid.value.isLt), BitVec.ofNat_toNat, BitVec.setWidth_eq]

end Sightline.Uuid
