/-! Bytes as the channel carries them: four-byte little-endian words and UTF-8 text.

Main statements: a word that fits four bytes reads back (`ofWord_word`), every text reads back
from its bytes (`text?_ofText`), and the bytes of a text are those of its characters
(`ofText_ofList`). -/

set_option autoImplicit false

namespace Sightline

abbrev Bytes := List UInt8

namespace Bytes

def word (n : Nat) : Bytes :=
  [UInt8.ofNat n, UInt8.ofNat (n / 256), UInt8.ofNat (n / 65536), UInt8.ofNat (n / 16777216)]

def ofWord (a b c d : UInt8) : Nat :=
  a.toNat + 256 * b.toNat + 65536 * c.toNat + 16777216 * d.toNat

def wordLimit : Nat := 4294967296

/-- The most bytes for which a buffer can be had. -/
def bufferLimit : Nat := 9223372036854775807

@[simp] theorem length_word (n : Nat) : (word n).length = 4 := rfl

theorem ofWord_lt (a b c d : UInt8) : ofWord a b c d < wordLimit := by
  have := a.toNat_lt; have := b.toNat_lt; have := c.toNat_lt; have := d.toNat_lt
  simp only [ofWord, wordLimit]
  omega

theorem ofWord_word (n : Nat) (fits : n < wordLimit) :
    ofWord (UInt8.ofNat n) (UInt8.ofNat (n / 256)) (UInt8.ofNat (n / 65536))
      (UInt8.ofNat (n / 16777216)) = n := by
  simp only [wordLimit] at fits
  simp only [ofWord, UInt8.toNat_ofNat']
  omega

def ofText (s : String) : Bytes := s.toUTF8.data.toList

def text? (bytes : Bytes) : Option String := String.fromUTF8? ⟨bytes.toArray⟩

theorem ofText_append (s t : String) : ofText (s ++ t) = ofText s ++ ofText t := by
  simp [ofText, String.toUTF8]

theorem ofText_singleton (c : Char) : ofText (String.singleton c) = String.utf8EncodeChar c := by
  simp [ofText, String.toUTF8, List.utf8Encode]

theorem ofText_ofList (chars : List Char) :
    ofText (String.ofList chars) = chars.flatMap String.utf8EncodeChar := by
  simp [ofText, String.toUTF8, List.utf8Encode]

theorem utf8EncodeChar_ascii {c : Char} (low : c.toNat < 128) :
    String.utf8EncodeChar c = [UInt8.ofNat c.toNat] := by
  have : c.val.toNat ≤ 127 := Nat.le_of_lt_succ low
  simp only [String.utf8EncodeChar, if_pos this]
  rfl

theorem flatMap_ascii {chars : List Char} (ascii : ∀ c ∈ chars, c.toNat < 128) :
    chars.flatMap String.utf8EncodeChar = chars.map fun c => UInt8.ofNat c.toNat := by
  induction chars with
  | nil => rfl
  | cons c more ih =>
    rw [List.flatMap_cons, utf8EncodeChar_ascii (ascii c List.mem_cons_self),
      ih fun c h => ascii c (List.mem_cons_of_mem _ h)]
    rfl

theorem le_of_mem_utf8EncodeChar {c : Char} (high : 128 ≤ c.toNat) {b : UInt8}
    (h : b ∈ String.utf8EncodeChar c) : 128 ≤ b.toNat := by
  have high : ¬c.val.toNat ≤ 127 := Nat.not_le_of_lt high
  simp only [String.utf8EncodeChar, if_neg high] at h
  split at h
  · simp only [List.mem_cons, List.not_mem_nil, or_false] at h
    rcases h with rfl | rfl <;> simp only [UInt8.toNat_ofNat'] <;> omega
  · split at h
    · simp only [List.mem_cons, List.not_mem_nil, or_false] at h
      rcases h with rfl | rfl | rfl <;> simp only [UInt8.toNat_ofNat'] <;> omega
    · simp only [List.mem_cons, List.not_mem_nil, or_false] at h
      rcases h with rfl | rfl | rfl | rfl <;> simp only [UInt8.toNat_ofNat'] <;> omega

@[simp] theorem text?_ofText (s : String) : text? (ofText s) = some s := by
  simp [text?, ofText, String.fromUTF8?, String.toUTF8, s.isValidUTF8, String.fromUTF8]

end Bytes

end Sightline
