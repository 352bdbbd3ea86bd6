import Sightline.Json.Reader

/-! What it means that a reader reads a text: behind any blanks it takes exactly that text off the front
of its input, whatever follows.

Only a number has no end of its own, so what follows a value must not go on with one. -/

set_option autoImplicit false

namespace Sightline.Json

variable {α β : Type}

def Yields {bound : Nat} (result : Except Fault (Parsed α bound)) (value : α) (rest : Bytes) :
    Prop :=
  ∃ shorter, result = .ok ⟨value, rest, shorter⟩

namespace Yields

variable {bound : Nat} {result : Except Fault (Parsed α bound)} {value : α} {rest : Bytes}

theorem map (f : α → β) (yields : Yields result value rest) :
    Yields (result.map (·.map f)) (f value) rest := by
  obtain ⟨shorter, rfl⟩ := yields
  exact ⟨shorter, rfl⟩

theorem widen {larger : Nat} (yields : Yields result value rest) (le : bound ≤ larger) :
    Yields (result.map (·.widen le)) value rest := by
  obtain ⟨shorter, rfl⟩ := yields
  exact ⟨Nat.lt_of_lt_of_le shorter le, rfl⟩

end Yields

/-- Bytes that a number before them does not go on with. -/
def Ended : Bytes → Prop
  | [] => True
  | b :: _ => isDigit b = false ∧ b ≠ 46 ∧ isExponentMark b = false

/-- The reader takes the text, behind any blanks, for the value. -/
def Reads (reader : Reader α) (text : Bytes) (value : α) : Prop :=
  ∀ input rest, skipBlank input = text ++ rest → Ended rest → Yields (reader input) value rest

theorem Reads.map {reader : Reader α} {text : Bytes} {value : α} (f : α → β)
    (reads : Reads reader text value) : Reads (reader.map f) text (f value) :=
  fun input rest ahead ended => (reads input rest ahead ended).map f

/-! ### Blanks -/

def Solid (text : Bytes) : Prop := ∃ b more, text = b :: more ∧ isBlank b = false

theorem skipBlank_append {before : Bytes} (blank : ∀ b ∈ before, isBlank b = true) (rest : Bytes) :
    skipBlank (before ++ rest) = skipBlank rest := by
  induction before with
  | nil => rfl
  | cons b more ih =>
    rw [List.cons_append, skipBlank, List.dropWhile_cons_of_pos (blank b List.mem_cons_self)]
    exact ih fun b h => blank b (List.mem_cons_of_mem _ h)

theorem skipBlank_solid {text : Bytes} (solid : Solid text) (rest : Bytes) :
    skipBlank (text ++ rest) = text ++ rest := by
  obtain ⟨b, more, rfl, visible⟩ := solid
  simp [skipBlank, visible]

/-! ### Marks and what stands behind a colon -/

theorem yields_skipMark {mark : UInt8} {unfinished other : Fault} {input rest : Bytes}
    (ahead : skipBlank input = mark :: rest) :
    Yields (skipMark mark unfinished other input) () rest := by
  unfold skipMark
  split
  · next none => simp [ahead] at none
  · next some =>
    cases ahead.symm.trans some
    exact ⟨length_of_skipBlank ahead, if_pos rfl⟩

theorem Reads.behindColon {reader : Reader α} {text : Bytes} {value : α}
    (reads : Reads reader text value) (solid : Solid text) :
    Reads (Json.behindColon reader) (colon :: 32 :: text) value := by
  intro input rest ahead ended
  have behind : skipBlank (32 :: (text ++ rest)) = text ++ rest := by
    rw [← List.singleton_append, skipBlank_append (by simp [isBlank]), skipBlank_solid solid]
  obtain ⟨_, mark⟩ : Yields (skipMark colon .endInObject .expectedColon input) ()
      (32 :: (text ++ rest)) := yields_skipMark ahead
  unfold Json.behindColon
  rw [mark]
  exact (reads _ _ behind ended).widen _

end Sightline.Json
