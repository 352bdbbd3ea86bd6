import Sightline.Json.Form
import Sightline.Proofs.Json.Literal
import Sightline.Proofs.Json.Number

/-! Forms and the documents that they accept: what `Document.pretty` writes of a value, the form of the
value reads back (`Form.parse_pretty`). -/

set_option autoImplicit false

namespace Sightline.Json

variable {α β : Type}

/-- The form reads the document for the value, at whatever level it is written. -/
def Form.Accepts (form : Form α) (document : Document) (value : α) : Prop :=
  ∀ level, Reads form.read (Bytes.ofText (document.prettyAt level)) value

theorem solid_pretty (level : Nat) (document : Document) :
    Solid (Bytes.ofText (document.prettyAt level)) := by
  unfold Document.prettyAt
  split
  · exact ⟨_, _, rfl, rfl⟩
  · split <;> exact ⟨_, _, rfl, rfl⟩
  · exact solid_repr _
  · exact solid_quoted _
  · exact ⟨_, _, rfl, rfl⟩
  · simp only [Bytes.ofText_append, List.append_assoc]
    exact ⟨_, _, rfl, rfl⟩
  · exact ⟨_, _, rfl, rfl⟩
  · simp only [Bytes.ofText_append, List.append_assoc]
    exact ⟨_, _, rfl, rfl⟩

/-! ### Readers of a value that may be missing -/

theorem reads_null (reader : Reader α) :
    Reads (Json.optional reader) (Bytes.ofText "null") none := by
  intro input rest ahead ended
  have letter : skipBlank input = 110 :: (Word.null.tail ++ rest) := ahead
  have word : Yields (Word.null.read (Word.null.tail ++ rest)) () rest :=
    ⟨Nat.lt_succ_of_le (by simp), by simp [Word.read, expectBytes, Word.tail]⟩
  unfold Json.optional
  split
  · next some =>
    cases letter.symm.trans some
    exact (word.map fun _ => none).widen _
  · next none => simp [letter] at none

theorem optional_present {reader : Reader α} {input more : Bytes} {b : UInt8}
    (ahead : skipBlank input = b :: more) (other : b ≠ 110) :
    Json.optional reader input = (reader input).map (·.map some) := by
  have word : Word.ofInitial? b ≠ some .null := by
    simp only [Word.ofInitial?, if_neg other]
    split <;> simp
  unfold Json.optional
  split
  · next found =>
    cases ahead.symm.trans found
    exact if_neg word
  · rfl

theorem Reads.present {reader : Reader α} {b : UInt8} {more : Bytes} {value : α}
    (reads : Reads reader (b :: more) value) (other : b ≠ 110) :
    Reads (Json.optional reader) (b :: more) (some value) := by
  intro input rest ahead ended
  rw [optional_present ahead other]
  exact (reads input rest ahead ended).map some

/-! ### Forms -/

namespace Form

theorem Accepts.map {form : Form α} {document : Document} {value : α} (f : α → β)
    (accepts : form.Accepts document value) : (form.map f).Accepts document (f value) :=
  fun level => (accepts level).map f

theorem text_accepts (s : String) : Form.text.Accepts (.string s) s :=
  fun _ => reads_stringAs _ s

theorem textAs_accepts {expected s : String} {meaning : String → Except String α} {value : α}
    (means : meaning s = .ok value) : (Form.textAs expected meaning).Accepts (.string s) value :=
  fun _ => reads_textAs means

theorem natural_map_accepts {kind : String} {limit n : Nat} {f : Nat → α} {value : α}
    (fits : n < limit) (word : limit ≤ wordLimit) (back : f n = value) :
    ((Form.natural kind limit).map f).Accepts (.natural n) value :=
  back ▸ Accepts.map f fun _ => reads_natural fits word

theorem oneOf_accepts {allowed : List (String × α)} {name : String} {value : α}
    (known : variant allowed name = .ok value) : (Form.oneOf allowed).Accepts (.string name) value :=
  fun _ => reads_oneOf known

theorem optional_accepts_null (form : Form α) : form.optional.Accepts .null none :=
  fun _ => reads_null form.read

theorem optional_accepts_string {form : Form α} {s : String} {value : α}
    (accepts : form.Accepts (.string s) value) :
    form.optional.Accepts (.string s) (some value) := by
  intro level
  have read := accepts level
  simp only [Document.prettyAt, ofText_quoted] at read ⊢
  exact read.present (by decide)

theorem parse_pretty {form : Form α} {document : Document} {value : α}
    (accepts : form.Accepts document value) :
    form.parse (Bytes.ofText document.pretty) = .ok value := by
  have whole : skipBlank (Bytes.ofText document.pretty) = Bytes.ofText document.pretty ++ [] := by
    have := skipBlank_solid (solid_pretty 0 document) []
    rwa [List.append_nil] at this ⊢
  obtain ⟨_, read⟩ := accepts 0 _ [] whole trivial
  simp [Form.parse, Json.parse, read, skipBlank]

end Form

end Sightline.Json
