import Sightline.Bench.Rig
import Sightline.Proofs.Channel.Completion

/-! What a session puts on the wire.

`Session.Wired` is a run of a session with every byte that the sink took. The wire is made of what was
taken of each accepted submission, one after the other (`Wired.wire_eq`). It is in frames unless a byte
of a later submission follows a frame that was given up part way. -/

set_option autoImplicit false

namespace Sightline

/-- Complete frames of some of the payloads, in their order, and then at most the first part of the frame
of a later one. -/
def Frame.Aligned : List Bytes → Bytes → Prop
  | [], wire => wire = []
  | payload :: later, wire =>
    Aligned later wire ∨ (∃ rest, wire = encoded payload ++ rest ∧ Aligned later rest) ∨
      (wire <+: encoded payload ∧ wire ≠ encoded payload)

instance Frame.decidableAligned : (payloads : List Bytes) → (wire : Bytes) →
    Decidable (Aligned payloads wire)
  | [], wire => inferInstanceAs (Decidable (wire = []))
  | payload :: later, wire =>
    have rest := decidableAligned later
    decidable_of_iff
      (Aligned later wire ∨
        (encoded payload <+: wire ∧ Aligned later (wire.drop (encoded payload).length)) ∨
        (wire <+: encoded payload ∧ wire ≠ encoded payload)) <| by
      have first : (encoded payload <+: wire ∧ Aligned later (wire.drop (encoded payload).length)) ↔
          ∃ rest, wire = encoded payload ++ rest ∧ Aligned later rest := by
        constructor
        · rintro ⟨⟨rest, rfl⟩, aligned⟩
          exact ⟨rest, rfl, by simpa using aligned⟩
        · rintro ⟨rest, rfl, aligned⟩
          exact ⟨List.prefix_append _ _, by simpa using aligned⟩
      rw [first, Aligned]

theorem Frame.aligned_nil (payloads : List Bytes) : Aligned payloads [] := by
  induction payloads with
  | nil => rfl
  | cons payload later ih => exact .inl ih

namespace Sending

def Torn (sending : Sending) : Prop := sending.taken ≠ [] ∧ sending.taken ≠ sending.frame

/-- What was taken of these submissions is whole frames, but for the last of which anything was taken. -/
def InFrames : List Sending → Prop
  | [] => True
  | sending :: later =>
    ((sending.taken = [] ∨ sending.taken = sending.frame) ∧ InFrames later) ∨
      ∀ other ∈ later, other.taken = []

instance decidableInFrames : (sendings : List Sending) → Decidable (InFrames sendings)
  | [] => .isTrue trivial
  | sending :: later =>
    have := decidableInFrames later
    inferInstanceAs (Decidable
      (((sending.taken = [] ∨ sending.taken = sending.frame) ∧ InFrames later) ∨
        ∀ other ∈ later, other.taken = []))

theorem inFrames_iff (sendings : List Sending) : InFrames sendings ↔
    ∀ earlier torn later, sendings = earlier ++ torn :: later → torn.Torn →
      ∀ other ∈ later, other.taken = [] := by
  -- By induction on the sendings: a torn one at the head shuts out all the others, a whole or an
  -- empty one leaves the question to the rest.
  induction sendings with
  | nil => simp [InFrames]
  | cons sending rest ih =>
    constructor
    · rintro (⟨whole, within⟩ | unsent) earlier torn later same broken
      · cases earlier with
        | nil =>
          cases same
          rcases whole with nothing | all
          · exact absurd nothing broken.1
          · exact absurd all broken.2
        | cons first earlier =>
          cases same
          exact ih.mp within earlier torn later rfl broken
      · intro other member
        cases earlier with
        | nil =>
          cases same
          exact unsent other member
        | cons first earlier =>
          cases same
          exact unsent other (by simp [member])
    · intro unbroken
      by_cases broken : sending.Torn
      · exact .inr (unbroken [] sending rest rfl broken)
      · refine .inl ⟨?_, ?_⟩
        · by_cases nothing : sending.taken = []
          · exact .inl nothing
          · exact .inr (Decidable.of_not_not fun part => broken ⟨nothing, part⟩)
        · refine ih.mpr fun earlier torn later same => ?_
          exact unbroken (sending :: earlier) torn later (by simp [same])

theorem aligned_of_inFrames {sendings : List Sending}
    (parts : ∀ sending ∈ sendings, sending.taken <+: sending.frame) (inFrames : InFrames sendings) :
    Frame.Aligned (sendings.map Sending.payload) (sendings.flatMap Sending.taken) := by
  induction sendings with
  | nil => rfl
  | cons sending later ih =>
    rcases inFrames with ⟨nothing | whole, within⟩ | unsent
    · rw [List.map_cons, List.flatMap_cons, nothing]
      exact .inl (ih (fun other member => parts other (List.mem_cons_of_mem _ member)) within)
    · rw [List.map_cons, List.flatMap_cons, whole]
      refine .inr (.inl ⟨_, rfl, ?_⟩)
      exact ih (fun other member => parts other (List.mem_cons_of_mem _ member)) within
    · have last : later.flatMap Sending.taken = [] := List.flatMap_eq_nil_iff.mpr unsent
      rw [List.map_cons, List.flatMap_cons, last, List.append_nil]
      by_cases whole : sending.taken = sending.frame
      · rw [whole]
        exact .inr (.inl ⟨[], (List.append_nil _).symm, Frame.aligned_nil _⟩)
      · exact .inr (.inr ⟨parts sending (by simp), whole⟩)

end Sending

/-! ### What a ledger shows of the wire -/

namespace Ledger

def sent (ledger : Ledger) : List Sending := ledger.accepted.reverse

def taken (ledger : Ledger) : Bytes := ledger.sent.flatMap Sending.taken

variable {ledger : Ledger} {before after : Option Outgoing}

theorem taken_enter (ledger : Ledger) (payload : Bytes) (tag : Tag)
    (answer : Except SendError Unit) : (ledger.enter payload tag answer).taken = ledger.taken := by
  cases answer <;> simp [enter, taken, sent]

theorem taken_told (ledger : Ledger) (tag : Tag) (result : SendResult) :
    (ledger.book [.told tag result]).taken = ledger.taken := by
  have same : ∀ sending : Sending, (sending.tell tag result).taken = sending.taken := by
    intro sending
    unfold Sending.tell
    split <;> rfl
  simp [book, note, taken, sent, List.flatMap_map, ← List.map_reverse, same]

theorem Balanced.taken_writes {outgoing : Outgoing} (balanced : Balanced (some outgoing) ledger)
    {facts : List SendFact} {more : Bytes} (writes : SendFact.Writes facts more) :
    (ledger.book facts).taken = ledger.taken ++ more := by
  obtain ⟨newest, older, first, -, untold, -⟩ := balanced.underway
  rw [book_writes first untold writes]
  simp [taken, sent, first]

theorem Balanced.taken_sends (balanced : Balanced before ledger) {facts : List SendFact}
    (sends : Sends before after facts) :
    (ledger.book facts).taken = ledger.taken ++ SendFact.written facts := by
  cases sends with
  | quiet quiet => rw [book_quiet ledger quiet, SendFact.written_quiet quiet, List.append_nil]
  | goesOn left more writes => rw [balanced.taken_writes writes, writes.written]
  | ends writes =>
    rw [book_append, taken_told, balanced.taken_writes writes, SendFact.written_append,
      writes.written]
    simp [SendFact.written, SendFact.bytes]
  | fails left more writes =>
    rw [book_append, taken_told, balanced.taken_writes writes, SendFact.written_append,
      writes.written]
    simp [SendFact.written, SendFact.bytes]

/-- Of every accepted submission the first part of its frame was taken, and all of it exactly if its
submitter was told success. -/
theorem Balanced.parts (balanced : Balanced before ledger) :
    ∀ sending ∈ ledger.accepted, sending.taken <+: sending.frame ∧
      (sending.taken = sending.frame ↔ sending.results = [.ok ()]) := by
  have settled : ∀ sending : Sending, sending.Settled → sending.taken <+: sending.frame ∧
      (sending.taken = sending.frame ↔ sending.results = [.ok ()]) := by
    rintro sending ⟨result, told, bears⟩
    cases result with
    | ok =>
      have whole : sending.taken = sending.frame := bears
      exact ⟨whole ▸ List.prefix_refl _, by simp [told, whole]⟩
    | error => exact ⟨bears.1, by simp [told, bears.2]⟩
  intro sending member
  -- Only the newest sending can still be under way; every other one is settled.
  cases before with
  | none => exact settled sending (balanced.underway sending member)
  | some outgoing =>
    obtain ⟨newest, older, first, -, untold, unfinished, whole, others⟩ := balanced.underway
    rw [first] at member
    rcases List.mem_cons.mp member with rfl | earlier
    · have part : sending.taken ≠ sending.frame := by
        intro all
        rw [← all] at whole
        exact Outgoing.left_ne_nil unfinished (List.append_right_eq_self.mp whole)
      exact ⟨⟨_, whole⟩, by simp [part, untold]⟩
    · exact settled sending (others sending earlier)

/-- Only the last accepted submission can be without a result. -/
theorem Balanced.settled_before (balanced : Balanced before ledger) {earlier later : List Sending}
    {sending other : Sending} (order : ledger.sent = earlier ++ sending :: later)
    (member : other ∈ later) : sending.Settled := by
  cases before with
  | none =>
    refine balanced.underway sending (List.mem_reverse.mp ?_)
    rw [show ledger.accepted.reverse = _ from order]
    simp
  | some outgoing =>
    obtain ⟨newest, older, first, -, -, -, -, others⟩ := balanced.underway
    refine others sending (List.mem_reverse.mp ?_)
    obtain ⟨front, last, rfl⟩ := (List.eq_nil_or_concat later).resolve_left
      (List.ne_nil_of_mem member)
    rw [sent, first, List.reverse_cons, List.concat_eq_append, ← List.cons_append,
      ← List.append_assoc] at order
    rw [(List.append_inj' order rfl).1]
    simp

theorem Balanced.inFrames_iff (balanced : Balanced before ledger) :
    Sending.InFrames ledger.sent ↔
      ∀ earlier aborted later, ledger.sent = earlier ++ aborted :: later → aborted.taken ≠ [] →
        (∃ error, aborted.results = [.error error]) → ∀ other ∈ later, other.taken = [] := by
  rw [Sending.inFrames_iff]
  constructor
  · rintro unbroken earlier aborted later order some_taken ⟨error, told⟩
    refine unbroken earlier aborted later order ⟨some_taken, fun whole => ?_⟩
    have member : aborted ∈ ledger.accepted := by
      rw [← List.mem_reverse, show ledger.accepted.reverse = _ from order]
      simp
    have success := (balanced.parts aborted member).2.mp whole
    simp [told] at success
  · intro unbroken earlier torn later order broken other member
    refine unbroken earlier torn later order broken.1 ?_ other member
    -- Another submission was accepted since, so the submitter of the torn one was told, and not success.
    obtain ⟨result, told, bears⟩ := balanced.settled_before order member
    cases result with
    | ok => exact absurd bears broken.2
    | error error => exact ⟨error, told⟩

end Ledger

/-! ### Runs -/

namespace Session

variable {ω : Type} [Streams ω]

/-- Everything that can happen to a session apart from submissions. It may be gone afterwards. -/
inductive Acts (ω : Type) [Streams ω] (session : Session) : Option Session → List SendFact → Prop where
  | handle (event : StreamEvent) (world : ω) : Acts ω session
      (some (session.handle event world).2.session) (factsOf (session.handle event world).2.notes)
  | receive (world : ω) : Acts ω session
      (some (session.receive world).2.session) (factsOf (session.receive world).2.notes)
  | resume (world : ω) : Acts ω session
      (some (session.resume world).session) (factsOf (session.resume world).notes)
  | close (world : ω) : Acts ω session none (factsOf (session.close world).2)
  | drop : Acts ω session none (factsOf session.abandoned)

/-- A session after some operations, none if it has ended, the ledger of its submissions, and every byte
that the sink took, in order. -/
inductive Wired (ω : Type) [Streams ω] : Option Session → Ledger → Bytes → Prop where
  | start (pair : StreamPair) (mtu limit : Nat) : Wired ω (some (start pair mtu limit)) {} []
  | acts {session : Session} {after : Option Session} {ledger : Ledger} {wire : Bytes}
      {facts : List SendFact} : Wired ω (some session) ledger wire → Acts ω session after facts →
      Wired ω after (ledger.book facts) (wire ++ SendFact.written facts)
  | submit {session : Session} {ledger : Ledger} {wire : Bytes} (payload : Bytes) (tag : Tag)
      (world : ω) : Wired ω (some session) ledger wire → tag ∉ ledger.tags →
      Wired ω (some (session.submit payload tag world).2.session)
        ((ledger.enter payload tag (session.submit payload tag world).1).book
          (factsOf (session.submit payload tag world).2.notes))
        (wire ++ SendFact.written (factsOf (session.submit payload tag world).2.notes))

theorem Acts.sends {session : Session} {after : Option Session} {facts : List SendFact}
    (acts : Acts ω session after facts) (start : ∀ o ∈ session.outgoing, o.Unfinished) :
    Sends session.outgoing (after.bind Session.outgoing) facts := by
  cases acts with
  | handle event world => exact session.handle_sends event world start
  | receive world => exact .quiet (session.receive_quiet world)
  | resume world => exact session.resume_sends world start
  | close world => exact session.close_sends world start
  | drop => exact session.abandoned_sends start

theorem Wired.run {session? : Option Session} {ledger : Ledger} {wire : Bytes}
    (wired : Wired ω session? ledger wire) : Run ω session? ledger := by
  induction wired with
  | start pair mtu limit => exact .start pair mtu limit
  | acts _ acts ih =>
    cases acts with
    | handle event world => exact .handle event world ih
    | receive world => exact .receive world ih
    | resume world => exact .resume world ih
    | close world => exact .close world ih
    | drop => exact .drop ih
  | submit payload tag world _ fresh ih => exact .submit payload world ih fresh

theorem Wired.wire_eq {session? : Option Session} {ledger : Ledger} {wire : Bytes}
    (wired : Wired ω session? ledger wire) : wire = ledger.taken := by
  induction wired with
  | start => rfl
  | acts wired acts ih =>
    have balanced := Ledger.balanced_of_run wired.run
    rw [balanced.taken_sends (acts.sends balanced.unfinished), ih]
  | @submit session ledger wire payload tag world wired fresh ih =>
    have balanced := Ledger.balanced_of_run wired.run
    rcases session.submit_cases payload tag world with ⟨answer, idle, -, turn⟩ | ⟨refusal, -, refused⟩
    · simp only [Option.bind_some, idle] at balanced
      have accepted := balanced.accept payload fresh
      have pumped := pump_sends { session with outgoing := some (begun payload tag) } world
        accepted.unfinished
      rw [answer, turn, accepted.taken_sends pumped, Ledger.taken_enter, ih]
    · rw [refused, ih]
      simp [Ledger.taken_enter, SendFact.written]

/-- Whatever the sink answers, the wire is what was taken of the accepted submissions, one after the
other: of each the first part of its frame, and all of it exactly if its submitter was told success. It
is in frames exactly if no byte was taken of any submission that came after one whose frame was given up
part way, and then it is complete frames in the order of submission and at most the first part of one
more. -/
theorem wire_inFrames_iff {session? : Option Session} {ledger : Ledger} {wire : Bytes}
    (wired : Wired ω session? ledger wire) :
    wire = ledger.sent.flatMap Sending.taken ∧
    (∀ sending ∈ ledger.sent, sending.taken <+: sending.frame ∧
      (sending.taken = sending.frame ↔ sending.results = [.ok ()])) ∧
    (Sending.InFrames ledger.sent ↔
      ∀ earlier aborted later, ledger.sent = earlier ++ aborted :: later → aborted.taken ≠ [] →
        (∃ error, aborted.results = [.error error]) → ∀ other ∈ later, other.taken = []) ∧
    (Sending.InFrames ledger.sent → Frame.Aligned (ledger.sent.map Sending.payload) wire) := by
  have balanced := Ledger.balanced_of_run wired.run
  have parts : ∀ sending ∈ ledger.sent, _ :=
    fun sending member => balanced.parts sending (List.mem_reverse.mp member)
  refine ⟨wired.wire_eq, parts, balanced.inFrames_iff, fun inFrames => ?_⟩
  rw [wired.wire_eq]
  exact Sending.aligned_of_inFrames (fun sending member => (parts sending member).1) inFrames

def breaking : Bench.Rig :=
  { wires := #[.scripted { writes := [.cap 4, .fail "link lost"] }] }

/-- One whole frame, and then the header of one that was given up. -/
theorem wire_inFrames_iff_broken : ∃ session? ledger wire, Wired Bench.Rig session? ledger wire ∧
    ledger.sent.map Sending.taken = [[1, 0, 0, 0, 9], [3, 0, 0, 0]] ∧
    Frame.Aligned [[9], [7, 8, 9]] wire := by
  have wired : ∃ session? ledger wire, Wired Bench.Rig session? ledger wire ∧
      ledger.sent.map Sending.taken = [[1, 0, 0, 0, 9], [3, 0, 0, 0]] ∧
      ledger.sent.map Sending.payload = [[9], [7, 8, 9]] ∧ Sending.InFrames ledger.sent := by
    have resumed := (Wired.start ⟨1, 0⟩ 4 8).acts (.resume ({} : Bench.Rig))
    have whole := resumed.submit [9] 0 { wires := #[.scripted {}] } (by decide)
    have broken := whole.submit [7, 8, 9] 1 breaking (by decide +kernel)
    exact ⟨_, _, _, broken, by decide +kernel⟩
  obtain ⟨session?, ledger, wire, wired, taken, payloads, inFrames⟩ := wired
  refine ⟨session?, ledger, wire, wired, taken, ?_⟩
  have aligned := (wire_inFrames_iff wired).2.2.2 inFrames
  rwa [payloads] at aligned

/-- Past the header of a frame that was given up, the next frame is written all the same. The wire is
not in frames then, and the far side reads neither payload. -/
theorem wire_not_inFrames : ∃ session? ledger wire, Wired Bench.Rig session? ledger wire ∧
    ledger.sent.map Sending.payload = [[7, 8, 9], [1]] ∧
    wire = [3, 0, 0, 0, 1, 0, 0, 0, 1] ∧ ¬ Frame.Aligned (ledger.sent.map Sending.payload) wire ∧
    (Frame.split 8 wire).frames = [[1, 0, 0]] := by
  have resumed := (Wired.start ⟨1, 0⟩ 4 8).acts (.resume ({} : Bench.Rig))
  have broken := resumed.submit [7, 8, 9] 0 breaking (by decide)
  have next := broken.submit [1] 1 { wires := #[.scripted {}] } (by decide +kernel)
  exact ⟨_, _, _, next, by decide +kernel⟩

end Session

end Sightline
