import Sightline.Proofs.Channel.Session

/-! What the operations of a session do to the frame under way.

An operation either leaves the frame alone, or moves bytes off its front to the sink; then the frame
stays under way, or its submitter is told that it ended. `Sends` says so, and every operation obeys
it, whatever the sink answers. -/

set_option autoImplicit false

namespace Sightline

inductive SendFact where
  | wrote (bytes : Bytes)
  /-- The submitter of the tagged payload was told how its sending ended. -/
  | told (tag : Tag) (result : SendResult)

namespace SendFact

def bytes : SendFact → Bytes
  | .wrote bytes => bytes
  | .told _ _ => []

def written (facts : List SendFact) : Bytes := facts.flatMap bytes

/-- The sink took nothing and nobody was told anything. -/
def Quiet (facts : List SendFact) : Prop := ∀ fact ∈ facts, fact = .wrote []

/-- The sink took these bytes, in some number of pieces, and nobody was told anything. -/
def Writes (facts : List SendFact) (taken : Bytes) : Prop :=
  ∃ pieces : List Bytes, facts = pieces.map .wrote ∧ pieces.flatten = taken

@[simp] theorem written_append (facts more : List SendFact) :
    written (facts ++ more) = written facts ++ written more := by
  simp [written]

theorem written_quiet {facts : List SendFact} (quiet : Quiet facts) : written facts = [] := by
  rw [written, List.flatMap_eq_nil_iff]
  intro fact member
  rw [quiet fact member]
  rfl

theorem Writes.written {facts : List SendFact} {taken : Bytes} (writes : Writes facts taken) :
    written facts = taken := by
  obtain ⟨pieces, rfl, rfl⟩ := writes
  rw [SendFact.written, List.flatMap_map]
  exact List.flatMap_id

theorem Quiet.writes {facts : List SendFact} (quiet : Quiet facts) : Writes facts [] := by
  refine ⟨facts.map fun _ => [], ?_, by simp⟩
  rw [List.map_map]
  exact ((List.map_congr_left quiet).symm.trans (List.map_id facts)).symm

theorem Writes.append {facts more : List SendFact} {taken rest : Bytes} (first : Writes facts taken)
    (second : Writes more rest) : Writes (facts ++ more) (taken ++ rest) := by
  obtain ⟨pieces, rfl, rfl⟩ := first
  obtain ⟨others, rfl, rfl⟩ := second
  exact ⟨pieces ++ others, by simp, by simp⟩

end SendFact

def SendFact.told? : SendFact → Option Tag
  | .wrote _ => none
  | .told tag _ => some tag

def SendFact.toldIn (facts : List SendFact) : List Tag := facts.filterMap told?

@[simp] theorem SendFact.toldIn_append (facts more : List SendFact) :
    toldIn (facts ++ more) = toldIn facts ++ toldIn more :=
  List.filterMap_append

@[simp] theorem SendFact.toldIn_told (tag : Tag) (result : SendResult) :
    toldIn [.told tag result] = [tag] := rfl

theorem SendFact.toldIn_quiet {facts : List SendFact} (quiet : Quiet facts) : toldIn facts = [] := by
  refine List.filterMap_eq_nil_iff.mpr fun fact member => ?_
  rw [quiet fact member]
  rfl

theorem SendFact.Writes.toldIn {facts : List SendFact} {taken : Bytes} (writes : Writes facts taken) :
    toldIn facts = [] := by
  obtain ⟨pieces, rfl, -⟩ := writes
  simp [SendFact.toldIn, told?]

def Outgoing.Unfinished (outgoing : Outgoing) : Prop := outgoing.offset < outgoing.frame.length

theorem Outgoing.left_ne_nil {outgoing : Outgoing} (unfinished : outgoing.Unfinished) :
    outgoing.left ≠ [] := by
  simpa [left, Unfinished] using unfinished

/-- From one frame under way to the next moment's, with what happened in between. -/
inductive Sends : Option Outgoing → Option Outgoing → List SendFact → Prop where
  | quiet {outgoing : Option Outgoing} {facts : List SendFact} :
      SendFact.Quiet facts → Sends outgoing outgoing facts
  | goesOn {outgoing : Outgoing} {taken rest : Bytes} {facts : List SendFact} :
      outgoing.left = taken ++ rest → rest ≠ [] → SendFact.Writes facts taken →
      Sends (some outgoing) (some { outgoing with offset := outgoing.offset + taken.length }) facts
  | ends {outgoing : Outgoing} {facts : List SendFact} : SendFact.Writes facts outgoing.left →
      Sends (some outgoing) none (facts ++ [.told outgoing.tag (.ok ())])
  /-- Something was left when the frame was given up. -/
  | fails {outgoing : Outgoing} {taken rest : Bytes} {facts : List SendFact} {error : ChannelError} :
      outgoing.left = taken ++ rest → rest ≠ [] → SendFact.Writes facts taken →
      Sends (some outgoing) none (facts ++ [.told outgoing.tag (.error error)])

namespace Sends

variable {before after : Option Outgoing} {facts : List SendFact}

theorem unfinished (sends : Sends before after facts) (start : ∀ o ∈ before, o.Unfinished) :
    ∀ o ∈ after, o.Unfinished := by
  cases sends with
  | quiet => exact start
  | @goesOn outgoing taken rest _ left more _ =>
    rintro _ ⟨rfl⟩
    have long := congrArg List.length left
    have some_left := List.length_pos_iff.mpr more
    simp only [Outgoing.left, List.length_drop, List.length_append] at long
    simp only [Outgoing.Unfinished]
    omega
  | ends => simp
  | fails => simp

theorem frame (sends : Sends before after facts) : ∀ o ∈ after, ∃ p ∈ before, p.frame = o.frame := by
  cases sends with
  | quiet => exact fun o member => ⟨o, member, rfl⟩
  | @goesOn outgoing =>
    rintro _ ⟨rfl⟩
    exact ⟨outgoing, rfl, rfl⟩
  | ends | fails => simp

theorem after_quiet {earlier : List SendFact} (quiet : SendFact.Quiet earlier)
    (sends : Sends before after facts) : Sends before after (earlier ++ facts) := by
  cases sends with
  | quiet nothing =>
    exact .quiet fun fact member => (List.mem_append.mp member).elim (quiet fact) (nothing fact)
  | goesOn left more writes => exact .goesOn left more (quiet.writes.append writes)
  | ends writes =>
    rw [← List.append_assoc]
    exact .ends (quiet.writes.append writes)
  | fails left more writes =>
    rw [← List.append_assoc]
    exact .fails left more (quiet.writes.append writes)

theorem left_of_split {outgoing : Outgoing} {taken rest : Bytes}
    (left : outgoing.left = taken ++ rest) :
    { outgoing with offset := outgoing.offset + taken.length : Outgoing }.left = rest := by
  have here : outgoing.left.drop taken.length = rest := by
    rw [left]
    exact List.drop_left
  simpa [Outgoing.left] using here

theorem written (sends : Sends before after facts)
    (fine : ∀ tag error, SendFact.told tag (.error error) ∉ facts) :
    before.elim [] Outgoing.left = SendFact.written facts ++ after.elim [] Outgoing.left := by
  cases sends with
  | quiet quiet => simp [SendFact.written_quiet quiet]
  | goesOn left _ writes => simp only [Option.elim_some, writes.written, left_of_split left, left]
  | ends writes =>
    simp only [Option.elim_some, Option.elim_none, SendFact.written_append, writes.written]
    simp [SendFact.written, SendFact.bytes]
  | @fails outgoing _ _ _ error _ _ _ => exact absurd (by simp) (fine outgoing.tag error)

theorem tags (sends : Sends before after facts) :
    (before.map Outgoing.tag).toList
      = SendFact.toldIn facts ++ (after.map Outgoing.tag).toList := by
  cases sends with
  | quiet quiet => simp [SendFact.toldIn_quiet quiet]
  | goesOn left _ writes => simp [writes.toldIn]
  | ends writes => simp [writes.toldIn]
  | fails left _ writes => simp [writes.toldIn]

/-- One thing after the other is done to the frame under way. -/
inductive Chain : Option Outgoing → Option Outgoing → List SendFact → Prop where
  | refl (outgoing : Option Outgoing) : Chain outgoing outgoing []
  | tail {before between after : Option Outgoing} {facts more : List SendFact} :
      Chain before between facts → Sends between after more → Chain before after (facts ++ more)

theorem Chain.unfinished (chain : Chain before after facts) (start : ∀ o ∈ before, o.Unfinished) :
    ∀ o ∈ after, o.Unfinished := by
  induction chain with
  | refl => exact start
  | tail _ sends ih => exact sends.unfinished ih

theorem Chain.tags (chain : Chain before after facts) :
    (before.map Outgoing.tag).toList
      = SendFact.toldIn facts ++ (after.map Outgoing.tag).toList := by
  induction chain with
  | refl => rfl
  | tail _ sends ih => rw [ih, sends.tags, SendFact.toldIn_append, List.append_assoc]

theorem Chain.idle (chain : Chain none after facts) : after = none ∧ SendFact.toldIn facts = [] := by
  have tags : [] = SendFact.toldIn facts ++ (after.map Outgoing.tag).toList := chain.tags
  obtain ⟨told, gone⟩ := List.append_eq_nil_iff.mp tags.symm
  exact ⟨by cases after <;> simp at gone ⊢, told⟩

/-- A frame under way stays so, and the bytes taken are off its front; or it ends, of which its submitter
is told once, and if that is a success then all that was left of it was taken before. -/
theorem Chain.fate {outgoing : Outgoing} (chain : Chain (some outgoing) after facts) :
    (∃ later, after = some later ∧ later.tag = outgoing.tag ∧ SendFact.toldIn facts = [] ∧
      outgoing.left = SendFact.written facts ++ later.left) ∨
    (after = none ∧ ∃ first result last, facts = first ++ .told outgoing.tag result :: last ∧
      SendFact.toldIn first = [] ∧ SendFact.toldIn last = [] ∧
      (result = .ok () → SendFact.written first = outgoing.left)) := by
  generalize start : some outgoing = before at chain
  -- By induction on the turns: until the sending is told the frame loses only what was written,
  -- and from then on no turn is about it.
  induction chain with
  | refl => exact .inl ⟨outgoing, start.symm, rfl, rfl, rfl⟩
  | @tail between after facts more _ sends ih =>
    rcases ih with ⟨later, rfl, tag, untold, left⟩ | ⟨rfl, first, result, last, split, told⟩
    · cases sends with
      | quiet quiet =>
        refine .inl ⟨later, rfl, tag, ?_, ?_⟩
        · simp [untold, SendFact.toldIn_quiet quiet]
        · simp [left, SendFact.written_quiet quiet]
      | @goesOn _ taken rest _ cut _ writes =>
        refine .inl ⟨_, rfl, tag, by simp [untold, writes.toldIn], ?_⟩
        rw [SendFact.written_append, writes.written, left_of_split cut, left, cut, List.append_assoc]
      | @ends _ done writes =>
        refine .inr ⟨rfl, facts ++ done, .ok (), [], ?_, ?_, rfl, fun _ => ?_⟩
        · rw [tag, List.append_assoc]
        · simp [untold, writes.toldIn]
        · rw [SendFact.written_append, writes.written, left]
      | @fails _ taken rest done error _ _ writes =>
        refine .inr ⟨rfl, facts ++ done, .error error, [], ?_, ?_, rfl, nofun⟩
        · rw [tag, List.append_assoc]
        · simp [untold, writes.toldIn]
    · cases sends with
      | quiet quiet =>
        refine .inr ⟨rfl, first, result, last ++ more, by simp [split], told.1, ?_, told.2.2⟩
        simp [told.2.1, SendFact.toldIn_quiet quiet]

end Sends

namespace Session

def Note.fact? : Note → Option SendFact
  | .call use => some (.wrote use.accepted)
  | .completed tag result => some (.told tag result)
  | .overflow | .unbuffered => none

def factsOf (notes : Array Note) : List SendFact := notes.toList.filterMap Note.fact?

@[simp] theorem factsOf_empty : factsOf #[] = [] := rfl

@[simp] theorem factsOf_push (notes : Array Note) (note : Note) :
    factsOf (notes.push note) = factsOf notes ++ note.fact?.toList := by
  cases same : note.fact? <;> simp [factsOf, same]

theorem factsOf_calls (calls : Array StreamCall) :
    factsOf (calls.map .call) = calls.toList.map fun call => .wrote call.accepted := by
  rw [factsOf, Array.toList_map, List.filterMap_map, ← List.filterMap_eq_map]
  rfl

theorem factsOf_unbuffered (notes : Array Note) : factsOf (#[.unbuffered] ++ notes) = factsOf notes := by
  simp [factsOf, List.filterMap_cons, Note.fact?]

theorem writes_of_calls (calls : Array StreamCall) :
    SendFact.Writes (factsOf (calls.map .call)) (StreamCall.acceptedIn calls) :=
  ⟨calls.toList.map StreamCall.accepted, by simp [factsOf_calls], rfl⟩

variable {ω : Type} [Streams ω]

theorem pump_sends (session : Session) (world : ω) (start : ∀ o ∈ session.outgoing, o.Unfinished) :
    Sends session.outgoing (session.pump world).session.outgoing
      (factsOf (session.pump world).notes) := by
  unfold pump
  cases waiting : session.outgoing with
  | none =>
    simp only [waiting]
    exact .quiet (by simp [SendFact.Quiet])
  | some outgoing =>
    obtain ⟨taken, rest, left, offset, accepted, complete⟩ :=
      outgoing.pump_split session.pair.handle session.mtu session.writable world
        (Nat.le_of_lt (start outgoing waiting))
    have writes := accepted ▸ writes_of_calls
      (outgoing.pump session.pair.handle session.mtu session.writable world).calls
    -- Only a pump that completes the frame leaves nothing of it.
    have more : (outgoing.pump session.pair.handle session.mtu session.writable world).outcome
        ≠ .complete → rest ≠ [] := fun short none => short (complete.mpr none)
    simp only
    cases outcome : (outgoing.pump session.pair.handle session.mtu session.writable world).outcome with
    | complete =>
      have all : outgoing.left = taken := by simp [left, complete.mp outcome]
      simp only [factsOf_push]
      exact .ends (all ▸ writes)
    | blocked =>
      simp only [offset]
      exact .goesOn left (more (by simp [outcome])) writes
    | failed reason =>
      simp only [factsOf_push]
      exact .fails left (more (by simp [outcome])) writes
    | overflow =>
      simp only [offset, factsOf_push, Note.fact?, Option.toList_none, List.append_nil]
      exact .goesOn left (more (by simp [outcome])) writes

theorem resume_sends (session : Session) (world : ω)
    (start : ∀ o ∈ session.outgoing, o.Unfinished) :
    Sends session.outgoing (session.resume world).session.outgoing
      (factsOf (session.resume world).notes) :=
  pump_sends { session with writable := true } world start

theorem receive_quiet (session : Session) (world : ω) :
    SendFact.Quiet (factsOf (session.receive world).2.notes) := by
  have quiet : SendFact.Quiet (factsOf ((session.incoming.drain session.pair.handle session.mtu
      world).calls.map .call)) := by
    simp only [factsOf_calls, SendFact.Quiet, List.mem_map, Array.mem_toList_iff]
    rintro _ ⟨call, member, rfl⟩
    rw [Incoming.accepted_of_drain call member]
  simp only [receive]
  split
  · exact quiet
  · rw [factsOf_unbuffered]
    exact quiet

theorem handle_sends (session : Session) (event : StreamEvent) (world : ω)
    (start : ∀ o ∈ session.outgoing, o.Unfinished) :
    Sends session.outgoing (session.handle event world).2.session.outgoing
      (factsOf (session.handle event world).2.notes) := by
  have nothing : SendFact.Quiet (factsOf #[]) := by simp [SendFact.Quiet]
  have quiet := session.receive_quiet world
  have handles := session.handles event world
  generalize session.handle event world = handled at handles ⊢
  obtain ⟨outcome, turn⟩ := handled
  -- Only room in the sink lets the frame go on; everything else leaves sending alone.
  cases handles with
  | ignored | opened | reported | ended => exact .quiet nothing
  | received | broken => exact .quiet quiet
  | resumed => exact session.resume_sends world start

def begun (payload : Bytes) (tag : Tag) : Outgoing := { tag, frame := Frame.encoded payload }

theorem begun_unfinished (payload : Bytes) (tag : Tag) : (begun payload tag).Unfinished := by
  simp only [Outgoing.Unfinished, begun, Frame.length_encoded, Frame.headerLength]
  omega

/-- A submission is accepted when nothing is under way and the payload fits a header, and then the
frame is begun; otherwise nothing is done. -/
theorem submit_cases (session : Session) (payload : Bytes) (tag : Tag) (world : ω) :
    ((session.submit payload tag world).1 = .ok () ∧ session.outgoing = none ∧
        payload.length < Bytes.wordLimit ∧ (session.submit payload tag world).2
          = { session with outgoing := some (begun payload tag) }.pump world) ∨
      ∃ refusal, refusal ≠ .noSession ∧
        session.submit payload tag world = (.error refusal, ⟨session, world, #[]⟩) := by
  unfold submit
  cases waiting : session.outgoing with
  | some outgoing => exact .inr ⟨.inFlight, by simp, by simp [isSending, waiting]⟩
  | none =>
    by_cases short : payload.length < Bytes.wordLimit
    · exact .inl (by simp [isSending, waiting, Outgoing.start, Frame.encode, short, Except.map, begun])
    · refine .inr ⟨.payloadTooLarge payload.length, by simp, ?_⟩
      simp [isSending, waiting, Outgoing.start, Frame.encode, short, Except.map]

theorem abandoned_sends (session : Session) (start : ∀ o ∈ session.outgoing, o.Unfinished) :
    Sends session.outgoing none (factsOf session.abandoned) := by
  unfold abandoned
  cases waiting : session.outgoing with
  | none => exact .quiet (by simp [SendFact.Quiet])
  | some outgoing =>
    -- Nothing more is written: what was left of the frame stays so.
    have untouched : outgoing.left = [] ++ outgoing.left := rfl
    have unwritten : SendFact.Writes [] [] := ⟨[], rfl, rfl⟩
    exact .fails untouched (Outgoing.left_ne_nil (start outgoing waiting)) unwritten

theorem close_sends (session : Session) (world : ω) (start : ∀ o ∈ session.outgoing, o.Unfinished) :
    Sends session.outgoing none (factsOf (session.close world).2) := by
  have closing : factsOf (session.close world).2
      = [.wrote [], .wrote []] ++ factsOf session.abandoned := by
    simp [close, factsOf, Note.fact?, StreamCall.accepted]
  have quiet : SendFact.Quiet [.wrote [], .wrote []] := by simp [SendFact.Quiet]
  rw [closing]
  exact (session.abandoned_sends start).after_quiet quiet

end Session

end Sightline
