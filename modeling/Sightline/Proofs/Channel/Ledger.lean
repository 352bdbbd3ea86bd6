import Sightline.Proofs.Channel.Sends

/-! An account of submissions and of what came of them.

A ledger knows nothing of sessions. It is told what was submitted and whether that was accepted, and
then, in order, what the sink took and whose sending was said to have ended. `Balanced` is what it
shows while a given frame is under way; every operation of a session keeps it (`Balanced.sends`). -/

set_option autoImplicit false

namespace Sightline

/-- One submission, what the sink took of it, and every result that its submitter was told. -/
structure Sending where
  tag : Tag
  payload : Bytes
  taken : Bytes := []
  results : List SendResult := []

namespace Sending

def frame (sending : Sending) : Bytes := Frame.encoded sending.payload

def tell (tag : Tag) (result : SendResult) (sending : Sending) : Sending :=
  if sending.tag = tag then { sending with results := sending.results ++ [result] } else sending

/-- The result is true: success means that the sink took the whole frame, failure that it took less. -/
def Bears (sending : Sending) : SendResult → Prop
  | .ok () => sending.taken = sending.frame
  | .error _ => sending.taken <+: sending.frame ∧ sending.taken ≠ sending.frame

/-- The submitter was told once, and told the truth. -/
def Settled (sending : Sending) : Prop :=
  ∃ result, sending.results = [result] ∧ sending.Bears result

end Sending

structure Ledger where
  accepted : List Sending := []
  refused : List Sending := []
  /-- Bytes that the sink took while no accepted submission was without a result. -/
  stray : Bytes := []

namespace Ledger

def tags (ledger : Ledger) : List Tag := (ledger.accepted ++ ledger.refused).map Sending.tag

/-- Accepted submissions whose submitter has been told nothing yet. -/
def waiting (ledger : Ledger) : List Sending :=
  ledger.accepted.filter fun sending => sending.results.isEmpty

def enter (ledger : Ledger) (payload : Bytes) (tag : Tag) : Except SendError Unit → Ledger
  | .ok () => { ledger with accepted := { tag, payload } :: ledger.accepted }
  | .error _ => { ledger with refused := { tag, payload } :: ledger.refused }

/-- Bytes count for the newest accepted submission, unless its end has been told already; a result
counts for every submission of its tag. -/
def note (ledger : Ledger) : SendFact → Ledger
  | .wrote bytes =>
    match ledger.accepted with
    | newest :: older =>
      if newest.results.isEmpty then
        { ledger with accepted := { newest with taken := newest.taken ++ bytes } :: older }
      else { ledger with stray := ledger.stray ++ bytes }
    | [] => { ledger with stray := ledger.stray ++ bytes }
  | .told tag result =>
    { ledger with
      accepted := ledger.accepted.map (Sending.tell tag result)
      refused := ledger.refused.map (Sending.tell tag result) }

def book (ledger : Ledger) (facts : List SendFact) : Ledger := facts.foldl note ledger

@[simp] theorem book_nil (ledger : Ledger) : ledger.book [] = ledger := rfl

theorem book_cons (ledger : Ledger) (fact : SendFact) (facts : List SendFact) :
    ledger.book (fact :: facts) = (ledger.note fact).book facts := rfl

@[simp] theorem book_append (ledger : Ledger) (facts more : List SendFact) :
    ledger.book (facts ++ more) = (ledger.book facts).book more := by
  simp [book]

theorem note_nothing (ledger : Ledger) : ledger.note (.wrote []) = ledger := by
  obtain ⟨accepted, refused, stray⟩ := ledger
  cases accepted with
  | nil => simp [note]
  | cons newest older =>
    by_cases untold : newest.results.isEmpty = true <;> simp [note, untold]

theorem book_quiet (ledger : Ledger) {facts : List SendFact} (quiet : SendFact.Quiet facts) :
    ledger.book facts = ledger := by
  induction facts with
  | nil => rfl
  | cons fact facts ih =>
    obtain rfl := quiet fact (by simp)
    rw [book_cons, note_nothing]
    exact ih fun other member => quiet other (List.mem_cons_of_mem _ member)

theorem book_writes {ledger : Ledger} {newest : Sending} {older : List Sending}
    {facts : List SendFact} {taken : Bytes} (first : ledger.accepted = newest :: older)
    (untold : newest.results = []) (writes : SendFact.Writes facts taken) :
    ledger.book facts
      = { ledger with accepted := { newest with taken := newest.taken ++ taken } :: older } := by
  obtain ⟨pieces, rfl, rfl⟩ := writes
  -- On the pieces: each is added to what the sink has taken of the newest submission.
  induction pieces generalizing ledger newest with
  | nil =>
    obtain ⟨accepted, refused, stray⟩ := ledger
    simp [book, ← first]
  | cons piece pieces ih =>
    have noted : ledger.note (.wrote piece)
        = { ledger with accepted := { newest with taken := newest.taken ++ piece } :: older } := by
      simp [note, first, untold]
    have there : (ledger.note (.wrote piece)).accepted
        = { newest with taken := newest.taken ++ piece } :: older := by rw [noted]
    rw [List.map_cons, book_cons, ih there untold, noted]
    simp

theorem note_told {ledger : Ledger} {newest : Sending} {older : List Sending}
    (first : ledger.accepted = newest :: older) (distinct : ledger.tags.Nodup)
    (result : SendResult) : ledger.note (.told newest.tag result)
      = { ledger with accepted := { newest with results := newest.results ++ [result] } :: older } := by
  simp only [tags, first, List.cons_append, List.map_cons, List.nodup_cons, List.mem_map,
    not_exists, not_and] at distinct
  -- No other submission has the tag, so no other is told.
  have others : ∀ sending ∈ older ++ ledger.refused,
      sending.tell newest.tag result = sending := by
    intro sending member
    simp [Sending.tell, distinct.1 sending member]
  have rest : ∀ sendings : List Sending, (∀ sending ∈ sendings, sending ∈ older ++ ledger.refused) →
      sendings.map (Sending.tell newest.tag result) = sendings := by
    intro sendings among
    exact (List.map_congr_left fun sending member => others sending (among sending member)).trans
      (List.map_id sendings)
  simp only [note, first, List.map_cons]
  rw [rest older (by simp +contextual), rest ledger.refused (by simp +contextual)]
  simp [Sending.tell]

def Underway (ledger : Ledger) : Option Outgoing → Prop
  | none => ∀ sending ∈ ledger.accepted, sending.Settled
  | some outgoing => ∃ newest older, ledger.accepted = newest :: older ∧
      newest.tag = outgoing.tag ∧ newest.results = [] ∧ outgoing.Unfinished ∧
      newest.taken ++ outgoing.left = newest.frame ∧ ∀ sending ∈ older, sending.Settled

/-- What a ledger shows while the given frame is under way. -/
structure Balanced (outgoing : Option Outgoing) (ledger : Ledger) : Prop where
  distinct : ledger.tags.Nodup
  untold : ∀ sending ∈ ledger.refused, sending.results = []
  nothingStray : ledger.stray = []
  underway : ledger.Underway outgoing

theorem balanced_empty : Balanced none {} :=
  ⟨by simp [tags], by simp, rfl, by simp [Underway]⟩

variable {ledger : Ledger} {before after : Option Outgoing}

theorem Balanced.refuse (balanced : Balanced before ledger) (payload : Bytes) {tag : Tag}
    (fresh : tag ∉ ledger.tags) (refusal : SendError) :
    Balanced before (ledger.enter payload tag (.error refusal)) := by
  refine ⟨?_, ?_, balanced.nothingStray, balanced.underway⟩
  · have apart := List.nodup_cons.mpr ⟨fresh, balanced.distinct⟩
    refine List.Perm.nodup ?_ apart
    simpa [tags, enter] using List.perm_middle.symm
  · intro sending member
    rcases List.mem_cons.mp member with rfl | before
    · rfl
    · exact balanced.untold sending before

theorem Balanced.accept (balanced : Balanced none ledger) (payload : Bytes) {tag : Tag}
    (fresh : tag ∉ ledger.tags) :
    Balanced (some (Session.begun payload tag)) (ledger.enter payload tag (.ok ())) := by
  refine ⟨?_, balanced.untold, balanced.nothingStray, ?_⟩
  · exact List.nodup_cons.mpr ⟨fresh, balanced.distinct⟩
  · exact ⟨{ tag, payload }, ledger.accepted, rfl, rfl, rfl,
      Session.begun_unfinished payload tag, rfl, balanced.underway⟩

theorem Balanced.unfinished (balanced : Balanced before ledger) : ∀ o ∈ before, o.Unfinished := by
  rintro outgoing ⟨rfl⟩
  obtain ⟨newest, older, -, -, -, unfinished, -⟩ := balanced.underway
  exact unfinished

theorem Balanced.writes {outgoing : Outgoing} (balanced : Balanced (some outgoing) ledger)
    {taken rest : Bytes} {facts : List SendFact} (left : outgoing.left = taken ++ rest)
    (writes : SendFact.Writes facts taken) :
    ∃ newest older, ledger.book facts = { ledger with accepted := newest :: older } ∧
      (ledger.book facts).tags.Nodup ∧ newest.tag = outgoing.tag ∧ newest.results = [] ∧
      newest.taken ++ rest = newest.frame ∧ ∀ sending ∈ older, sending.Settled := by
  obtain ⟨newest, older, first, tag, untold, -, whole, settled⟩ := balanced.underway
  refine ⟨{ newest with taken := newest.taken ++ taken }, older, book_writes first untold writes,
    ?_, tag, untold, ?_, settled⟩
  · rw [book_writes first untold writes]
    simpa [tags, first] using balanced.distinct
  · rw [left, ← List.append_assoc] at whole
    exact whole

theorem Balanced.tell {outgoing : Outgoing} (balanced : Balanced (some outgoing) ledger)
    {taken rest : Bytes} {facts : List SendFact} {result : SendResult}
    (left : outgoing.left = taken ++ rest) (writes : SendFact.Writes facts taken)
    (truth : ∀ sending : Sending, sending.taken ++ rest = sending.frame → sending.Bears result) :
    Balanced none (ledger.book (facts ++ [.told outgoing.tag result])) := by
  obtain ⟨newest, older, booked, distinct, tag, untold, whole, settled⟩ :=
    balanced.writes left writes
  have told : ledger.book (facts ++ [.told outgoing.tag result])
      = { ledger with accepted := { newest with results := [result] } :: older } := by
    have noted := note_told (by rw [booked]) distinct result
    rw [book_append, ← tag, book_cons, book_nil, noted, booked]
    simp [untold]
  rw [booked] at distinct
  rw [told]
  refine ⟨by simpa [tags] using distinct, balanced.untold, balanced.nothingStray, ?_⟩
  intro sending member
  rcases List.mem_cons.mp member with rfl | before
  · exact ⟨result, rfl, truth newest whole⟩
  · exact settled sending before

theorem Balanced.sends (balanced : Balanced before ledger) {facts : List SendFact}
    (sends : Sends before after facts) : Balanced after (ledger.book facts) := by
  have unfinished := sends.unfinished balanced.unfinished
  -- The newest accepted submission is the one whose frame is under way, so the cases are those of
  -- the frame.
  cases sends with
  | quiet quiet => rwa [book_quiet ledger quiet]
  | goesOn left _ writes =>
    obtain ⟨newest, older, booked, distinct, tag, untold, whole, settled⟩ :=
      balanced.writes left writes
    refine ⟨distinct, ?_, ?_, ?_⟩
    · rw [booked]
      exact balanced.untold
    · rw [booked]
      exact balanced.nothingStray
    · refine ⟨newest, older, by rw [booked], tag, untold, unfinished _ rfl, ?_, settled⟩
      rwa [Sends.left_of_split left]
  | ends writes =>
    refine balanced.tell (List.append_nil _).symm writes fun sending whole => ?_
    simpa [Sending.Bears] using whole
  | fails left more writes =>
    refine balanced.tell left writes fun sending whole => ⟨⟨_, whole⟩, fun same => ?_⟩
    rw [← same] at whole
    exact more (List.append_right_eq_self.mp whole)

theorem Balanced.chain (balanced : Balanced before ledger) {facts : List SendFact}
    (chain : Sends.Chain before after facts) : Balanced after (ledger.book facts) := by
  induction chain with
  | refl => exact balanced
  | tail _ sends ih =>
    rw [book_append]
    exact ih.sends sends

/-! ### What a balanced ledger shows -/

/-- No refused submission was told anything; an accepted one was told at most once, and the truth; and
the sink took nothing that was not submitted. -/
structure Truthful (ledger : Ledger) : Prop where
  untold : ∀ sending ∈ ledger.refused, sending.results = []
  once : ∀ sending ∈ ledger.accepted, sending.results.length ≤ 1
  borne : ∀ sending ∈ ledger.accepted, ∀ result ∈ sending.results, sending.Bears result
  nothingStray : ledger.stray = []

theorem Balanced.settled (balanced : Balanced none ledger) :
    ∀ sending ∈ ledger.accepted, sending.results.length = 1 := by
  intro sending member
  obtain ⟨result, told, -⟩ := balanced.underway sending member
  rw [told]
  rfl

theorem Balanced.told (balanced : Balanced before ledger) :
    ∀ sending ∈ ledger.accepted, sending.results = [] ∨ sending.Settled := by
  intro sending member
  cases before with
  | none => exact .inr (balanced.underway sending member)
  | some outgoing =>
    obtain ⟨newest, older, first, -, untold, -, -, settled⟩ := balanced.underway
    rw [first] at member
    rcases List.mem_cons.mp member with rfl | earlier
    · exact .inl untold
    · exact .inr (settled sending earlier)

theorem Balanced.truthful (balanced : Balanced before ledger) : ledger.Truthful := by
  refine ⟨balanced.untold, ?_, ?_, balanced.nothingStray⟩
  · intro sending member
    rcases balanced.told sending member with untold | ⟨result, told, -⟩
    · simp [untold]
    · simp [told]
  · intro sending member other among
    rcases balanced.told sending member with untold | ⟨result, told, bears⟩
    · simp [untold] at among
    · rw [told, List.mem_singleton] at among
      rwa [among]

theorem Balanced.waiting (balanced : Balanced before ledger) :
    ledger.waiting.length = if before.isSome then 1 else 0 := by
  have none_waits : ∀ sendings : List Sending, (∀ sending ∈ sendings, sending.Settled) →
      sendings.filter (fun sending => sending.results.isEmpty) = [] := by
    intro sendings settled
    rw [List.filter_eq_nil_iff]
    intro sending member
    obtain ⟨result, told, -⟩ := settled sending member
    simp [told]
  cases before with
  | none => simp [Ledger.waiting, none_waits _ balanced.underway]
  | some outgoing =>
    obtain ⟨newest, older, first, -, untold, -, -, settled⟩ := balanced.underway
    simp [Ledger.waiting, first, untold, none_waits older settled]

end Ledger

end Sightline
