import Sightline.Frame

/-! Frames one after the other.

`Frame.stream` is what a list of payloads looks like on the wire. The header in front of each payload
makes the list readable again: a stream that begins with the frames of some payloads is the stream
of a list that begins with those payloads (`waiting_of_stream`). -/

set_option autoImplicit false

namespace Sightline

theorem Bytes.word_ofWord (a b c d : UInt8) : word (ofWord a b c d) = [a, b, c, d] := by
  have := a.toNat_lt; have := b.toNat_lt; have := c.toNat_lt; have := d.toNat_lt
  simp only [word, ofWord, List.cons.injEq, and_true]
  refine ⟨?_, ?_, ?_, ?_⟩ <;>
    apply UInt8.toNat_inj.mp <;> simp only [UInt8.toNat_ofNat'] <;> omega

namespace Frame

/-- A payload whose length fits a header, and a receiver that refuses more than `limit` bytes. -/
def Fits (limit : Nat) (payload : Bytes) : Prop :=
  payload.length ≤ limit ∧ payload.length < Bytes.wordLimit

def stream (payloads : List Bytes) : Bytes := payloads.flatMap encoded

@[simp] theorem stream_nil : stream [] = [] := rfl

@[simp] theorem stream_cons (payload : Bytes) (payloads : List Bytes) :
    stream (payload :: payloads) = encoded payload ++ stream payloads := rfl

@[simp] theorem stream_append (first second : List Bytes) :
    stream (first ++ second) = stream first ++ stream second := by
  simp [stream]

theorem encoded_ne_nil (payload : Bytes) : encoded payload ≠ [] := by
  simp [encoded, Bytes.word]

/-- A frame says where it ends, so that nothing after it can be taken for a part of it. -/
theorem encoded_append_inj {payload other rest tail : Bytes}
    (fits : payload.length < Bytes.wordLimit) (fitsOther : other.length < Bytes.wordLimit)
    (same : encoded payload ++ rest = encoded other ++ tail) : payload = other ∧ rest = tail := by
  have here := splitOne_encoded_append Bytes.wordLimit payload rest fits (Nat.le_of_lt fits)
  rw [same, splitOne_encoded_append _ other tail fitsOther (Nat.le_of_lt fitsOther)] at here
  cases here
  exact ⟨rfl, rfl⟩

theorem waiting_of_stream {limit : Nat} {done payloads : List Bytes} {bytes : Bytes}
    (fits : ∀ payload ∈ payloads, Fits limit payload)
    (short : ∀ payload ∈ done, payload.length < Bytes.wordLimit)
    (same : stream done ++ bytes = stream payloads) :
    ∃ waiting, payloads = done ++ waiting ∧ bytes = stream waiting := by
  -- On the payloads read so far: each frame says where it ends, so it can be taken off both sides.
  induction done generalizing payloads with
  | nil => exact ⟨payloads, rfl, same⟩
  | cons first done ih =>
    cases payloads with
    | nil => simp [encoded_ne_nil] at same
    | cons payload payloads =>
      simp only [stream_cons, List.append_assoc] at same
      obtain ⟨rfl, rest⟩ :=
        encoded_append_inj (short first (by simp)) (fits payload (by simp)).2 same
      obtain ⟨waiting, rfl, rfl⟩ := ih (fun p member => fits p (List.mem_cons_of_mem _ member))
        (fun p member => short p (List.mem_cons_of_mem _ member)) rest
      exact ⟨waiting, rfl, rfl⟩

theorem first_of_stream {limit : Nat} {payloads : List Bytes} {a b c d : UInt8} {bytes : Bytes}
    (fits : ∀ payload ∈ payloads, Fits limit payload)
    (same : a :: b :: c :: d :: bytes = stream payloads) :
    ∃ payload waiting, payloads = payload :: waiting ∧ payload.length = announced a b c d ∧
      bytes = payload ++ stream waiting := by
  cases payloads with
  | nil => cases same
  | cons payload waiting =>
    have length := Bytes.ofWord_word payload.length (fits payload (by simp)).2
    simp only [stream_cons, encoded, Bytes.word, List.cons_append, List.nil_append,
      List.cons.injEq] at same
    obtain ⟨rfl, rfl, rfl, rfl, rest⟩ := same
    exact ⟨payload, waiting, rfl, length.symm, rest⟩

/-! ### The reference reading of a stream -/

theorem split_of_incomplete {limit : Nat} {bytes : Bytes} (few : splitOne limit bytes = .incomplete) :
    split limit bytes = ⟨[], bytes, none⟩ := by
  rw [split]
  split <;> simp_all

theorem split_of_oversized {limit : Nat} {a b c d : UInt8} {rest : Bytes}
    (refused : limit < announced a b c d) :
    split limit (a :: b :: c :: d :: rest)
      = ⟨[], a :: b :: c :: d :: rest, some (announced a b c d)⟩ := by
  have here : splitOne limit (a :: b :: c :: d :: rest) = .oversized (announced a b c d) := by
    simp [splitOne, refused]
  rw [split]
  split <;> simp_all

/-- Frames at the front of a stream are read, whatever comes after them. -/
theorem split_stream {limit : Nat} {payloads : List Bytes}
    (fits : ∀ payload ∈ payloads, Fits limit payload) (bytes : Bytes) :
    split limit (stream payloads ++ bytes)
      = { split limit bytes with frames := payloads ++ (split limit bytes).frames } := by
  induction payloads with
  | nil => rfl
  | cons payload payloads ih =>
    obtain ⟨allowed, short⟩ := fits payload (by simp)
    have first := splitOne_encoded_append limit payload (stream payloads ++ bytes) short allowed
    rw [stream_cons, List.append_assoc, split]
    split
    · next given rest reading =>
      rw [first] at reading
      cases reading
      rw [ih fun other member => fits other (List.mem_cons_of_mem _ member)]
      rfl
    · next reading => simp [first] at reading
    · next reading => simp [first] at reading

theorem nil_of_incomplete {limit : Nat} {payloads : List Bytes} {left more rest : Bytes}
    (fits : ∀ payload ∈ payloads, Fits limit payload) (few : splitOne limit left = .incomplete)
    (same : left ++ more = stream payloads ++ rest)
    (within : (stream payloads).length ≤ left.length) : payloads = [] := by
  cases payloads with
  | nil => rfl
  | cons payload payloads =>
    rw [stream_cons, List.append_assoc] at same
    rw [stream_cons, List.length_append] at within
    obtain ⟨tail, rfl⟩ : encoded payload <+: left :=
      List.prefix_of_prefix_length_le ⟨_, same.symm⟩ ⟨more, rfl⟩ (by omega)
    obtain ⟨allowed, short⟩ := fits payload (by simp)
    rw [splitOne_encoded_append limit payload tail short allowed] at few
    cases few

end Frame

end Sightline
