import Sightline.Proofs.Json.Reading

/-! Unsigned numbers read back as they were written, digit by digit: as long as the number fits a word,
no digit is lost (`appendDigits_chars`). -/

set_option autoImplicit false

namespace Sightline.Json

/-! ### Digits -/

theorem isDigit_ofNat {c : Char} (digit : c.isDigit) :
    isDigit (UInt8.ofNat c.toNat) = true ∧
      digitOf (UInt8.ofNat c.toNat) = c.toNat - '0'.toNat := by
  obtain ⟨low, high⟩ : 48 ≤ c.toNat ∧ c.toNat ≤ 57 := by
    simpa [Char.isDigit, UInt32.le_iff_toNat_le] using digit
  have same : (UInt8.ofNat c.toNat).toNat = c.toNat := by
    rw [UInt8.toNat_ofNat']
    exact Nat.mod_eq_of_lt (by omega)
  constructor
  · simp only [isDigit, UInt8.le_iff_toNat_le, same, Bool.and_eq_true, decide_eq_true_eq]
    exact ⟨low, high⟩
  · rw [digitOf, same]
    rfl

theorem le_ofDigitChars (digits : List Char) (sum : Nat) : sum ≤ Nat.ofDigitChars 10 digits sum := by
  induction digits generalizing sum with
  | nil => exact Nat.le_refl sum
  | cons c more ih =>
    rw [Nat.ofDigitChars_cons]
    exact Nat.le_trans (by omega) (ih _)

theorem appendDigits_chars {digits : List Char} {sum count : Nat} {rest : Bytes}
    (every : ∀ c ∈ digits, c.isDigit) (fits : Nat.ofDigitChars 10 digits sum < wordLimit)
    (ended : Ended rest) :
    appendDigits sum count (digits.map (fun c => UInt8.ofNat c.toNat) ++ rest) =
      (Nat.ofDigitChars 10 digits sum, count + digits.length, rest) := by
  induction digits generalizing sum count with
  | nil =>
    cases rest with
    | nil => rfl
    | cons b more => simp [appendDigits, ended.1]
  | cons c more ih =>
    obtain ⟨digit, value⟩ := isDigit_ofNat (every c List.mem_cons_self)
    rw [Nat.ofDigitChars_cons] at fits ⊢
    have below := Nat.lt_of_le_of_lt (le_ofDigitChars more _) fits
    rw [List.map_cons, List.cons_append, appendDigits, digit, value, decide_eq_true below,
      Bool.and_self, if_pos rfl, ih (fun c h => every c (List.mem_cons_of_mem _ h)) fits,
      List.length_cons, Nat.add_right_comm, Nat.add_assoc]

theorem toDigits_of_pos {n : Nat} (positive : 0 < n) :
    ∃ c more, Nat.toDigits 10 n = c :: more ∧ 0 < c.toNat - '0'.toNat := by
  induction n using Nat.strongRecOn with
  | ind n ih =>
    by_cases small : n < 10
    · refine ⟨_, _, Nat.toDigits_of_lt_base small, ?_⟩
      exact Nat.lt_of_lt_of_eq positive (Nat.toNat_digitChar_sub_48_of_lt_ten small).symm
    · obtain ⟨c, more, digits, leading⟩ := ih (n / 10) (by omega) (by omega)
      rw [Nat.toDigits_of_base_le (by decide) (by omega), digits]
      exact ⟨c, more ++ _, rfl, leading⟩

theorem isDigit_of_mem {n : Nat} : ∀ c ∈ Nat.toDigits 10 n, c.isDigit :=
  fun _ => Nat.isDigit_of_mem_toDigits (by decide) (by decide)

theorem ofText_repr (n : Nat) :
    Bytes.ofText (Nat.repr n) = (Nat.toDigits 10 n).map fun c => UInt8.ofNat c.toNat := by
  rw [Nat.repr_eq_ofList_toDigits, Bytes.ofText_ofList]
  apply Bytes.flatMap_ascii
  intro c h
  have digit := isDigit_of_mem c h
  simp only [Char.isDigit, Bool.and_eq_true, decide_eq_true_eq, UInt32.le_iff_toNat_le] at digit
  exact Nat.lt_of_le_of_lt digit.2 (by decide)

theorem ofText_repr_eq_cons (n : Nat) :
    ∃ b more, Bytes.ofText (Nat.repr n) = b :: more ∧ isDigit b = true := by
  obtain ⟨c, more, digits⟩ := List.exists_cons_of_ne_nil (@Nat.toDigits_ne_nil n 10)
  have digit : c.isDigit := isDigit_of_mem c (digits ▸ List.mem_cons_self)
  exact ⟨_, _, by rw [ofText_repr, digits, List.map_cons], (isDigit_ofNat digit).1⟩

theorem solid_repr (n : Nat) : Solid (Bytes.ofText (Nat.repr n)) := by
  obtain ⟨b, more, starts, digit⟩ := ofText_repr_eq_cons n
  refine ⟨b, more, starts, ?_⟩
  simp only [isDigit, Bool.and_eq_true, decide_eq_true_eq, UInt8.le_iff_toNat_le] at digit
  simp only [isBlank, Bool.or_eq_false_iff, beq_eq_false_iff_ne, ne_eq, ← UInt8.toNat_inj]
  simp only [UInt8.reduceToNat] at digit ⊢
  omega

/-! ### Numbers -/

theorem readAfterInteger_ended {n : Nat} {rest : Bytes} (ended : Ended rest) :
    readAfterInteger false n rest = .ok (.natural n, rest) := by
  unfold readAfterInteger
  cases rest with
  | nil => rfl
  | cons b more =>
    obtain ⟨-, point, exponent⟩ := ended
    simp [point, exponent]

theorem readUnsigned_repr {n : Nat} {rest : Bytes} (fits : n < wordLimit) (ended : Ended rest) :
    readUnsigned false (Bytes.ofText (Nat.repr n) ++ rest) = .ok (.natural n, rest) := by
  have after : readAfterInteger false n rest = .ok (.natural n, rest) :=
    readAfterInteger_ended ended
  rw [ofText_repr]
  rcases Nat.eq_zero_or_pos n with rfl | positive
  · -- A zero at the front is read as the whole number.
    rw [Nat.toDigits_zero]
    change readUnsigned false (48 :: rest) = _
    cases rest with
    | nil => rfl
    | cons b more => simp [readUnsigned, ended.1, after]
  · obtain ⟨c, more, digits, leading⟩ := toDigits_of_pos positive
    have every := @isDigit_of_mem n
    have value : Nat.ofDigitChars 10 (Nat.toDigits 10 n) 0 = n := Nat.ofDigitChars_ten_toDigits
    rw [digits] at every value ⊢
    rw [Nat.ofDigitChars_cons, Nat.mul_zero, Nat.zero_add] at value
    obtain ⟨digit, first⟩ := isDigit_ofNat (every c List.mem_cons_self)
    -- Another number has no zero at the front, which would end it at once.
    have nonzero : UInt8.ofNat c.toNat ≠ 48 := by
      intro zero
      rw [zero] at first
      exact absurd (first ▸ leading) (by decide)
    have ahead : appendDigits (c.toNat - '0'.toNat) 1
        (more.map (fun c => UInt8.ofNat c.toNat) ++ rest) = (n, 1 + more.length, rest) := by
      rw [appendDigits_chars (fun c h => every c (List.mem_cons_of_mem _ h))
        (by rwa [value]) ended, value]
    unfold readUnsigned
    simp only [List.map_cons, List.cons_append, if_neg nonzero, if_pos digit, first, ahead]
    cases rest with
    | nil => exact after
    | cons b more =>
      simp only [ended.1]
      exact after

theorem yields_number {negative : Bool} {input rest : Bytes} {value : Number}
    (read : readUnsigned negative input = .ok (value, rest)) :
    Yields (number negative input) value rest := by
  unfold number
  split
  · next found =>
    cases read.symm.trans found
    exact ⟨length_of_readUnsigned read, rfl⟩
  · next fault => simp [read] at fault

theorem reads_natural {kind : String} {limit n : Nat} (fits : n < limit) (word : limit ≤ wordLimit) :
    Reads (Json.natural kind limit) (Bytes.ofText (Nat.repr n)) n := by
  intro input rest ahead ended
  obtain ⟨b, more, starts, digit⟩ := ofText_repr_eq_cons n
  have first : skipBlank input = b :: (more ++ rest) := by rw [ahead, starts, List.cons_append]
  obtain ⟨shorter, read⟩ : Yields (number false (b :: (more ++ rest))) (.natural n) rest := by
    rw [← first, ahead]
    exact yields_number (readUnsigned_repr (Nat.lt_of_lt_of_le fits word) ended)
  have unsigned : b ≠ minus := by
    rintro rfl
    cases digit
  unfold Json.natural
  split
  · next none => simp [first] at none
  · next some =>
    cases first.symm.trans some
    simp only [if_neg unsigned, if_pos digit, read, Number.below, if_pos fits]
    exact ⟨_, rfl⟩

end Sightline.Json
