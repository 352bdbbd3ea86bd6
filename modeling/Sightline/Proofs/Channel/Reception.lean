import Sightline.Proofs.Channel.Piped
import Sightline.Proofs.Channel.Session

/-! What arrives of a stream that is cut into notifications, when receiving fails.

`Incoming.hearing` is a whole run: a piece of the stream arrives, a drain follows, and so on up to the
drain that fails. `hearing_arrives` says what the run makes of the stream. The frames that the failing
drain had already completed are lost, so that what is delivered is what the notifications before it
held (`delivered_before_failure`). -/

set_option autoImplicit false

namespace Sightline

variable {ω : Type} [Streams ω]

namespace Incoming

/-- A faulty source at which bytes arrive, as long as it is live. -/
structure Fed (live : ω → Prop) (queue : ω → Bytes) (handle : Handle) (feed : ω → Bytes → ω) : Prop
    extends Faulty live queue handle where
  arrives : ∀ {world : ω} (bytes : Bytes), live world →
    live (feed world bytes) ∧ queue (feed world bytes) = queue world ++ bytes

/-- The pieces arrive one by one, and a drain follows each of them, up to the first that fails: every
frame that was given, and the failure. -/
def hearing (feed : ω → Bytes → ω) (handle : Handle) (mtu : Nat) :
    Incoming → ω → List Bytes → List Bytes × Option ChannelError
  | _, _, [] => ([], none)
  | incoming, world, piece :: later =>
    let drained := incoming.drain handle mtu (feed world piece)
    match drained.frames with
    | .ok frames =>
      let (given, failure) := hearing feed handle mtu drained.incoming drained.world later
      (frames ++ given, failure)
    | .error error => ([], some error)

/-- What a run makes of the bytes that were there before it and of the pieces: it delivers the frames at
the front of them, and less than a frame is left over; or it fails at one of the pieces, after frames
that this piece completed. -/
def Arrives (ω : Type) [Streams ω] (handle : Handle) (limit : Nat) (before : Bytes)
    (pieces : List Bytes) : List Bytes × Option ChannelError → Prop
  | (delivered, none) => (∀ payload ∈ delivered, Frame.Fits limit payload) ∧
    ∃ left, before ++ pieces.flatten = Frame.stream delivered ++ left ∧
      Frame.splitOne limit left = .incomplete
  | (delivered, some error) => (∀ payload ∈ delivered, Frame.Fits limit payload) ∧
    ∃ earlier last later left completed rest, pieces = earlier ++ last :: later ∧
      before ++ earlier.flatten = Frame.stream delivered ++ left ∧
      Frame.splitOne limit left = .incomplete ∧
      (∀ payload ∈ completed, Frame.Fits limit payload) ∧
      left ++ last = Frame.stream completed ++ rest ∧ Stop ω handle limit rest error

variable {live : ω → Prop} {queue : ω → Bytes} {handle : Handle} {feed : ω → Bytes → ω}

theorem Arrives.after {limit : Nat} {before before' piece : Bytes} {pieces frames : List Bytes}
    {result : List Bytes × Option ChannelError}
    (arrives : Arrives ω handle limit before' pieces result)
    (fits : ∀ payload ∈ frames, Frame.Fits limit payload)
    (same : before ++ piece = Frame.stream frames ++ before') :
    Arrives ω handle limit before (piece :: pieces) (frames ++ result.1, result.2) := by
  have fits_append : ∀ more : List Bytes, (∀ payload ∈ more, Frame.Fits limit payload) →
      ∀ payload ∈ frames ++ more, Frame.Fits limit payload := by
    intro more within payload member
    rcases List.mem_append.mp member with first | later
    · exact fits payload first
    · exact within payload later
  -- Either way the piece goes in front: of all the pieces when they are all heard, of the earlier
  -- ones when one of them fails.
  obtain ⟨delivered, failure⟩ := result
  cases failure with
  | none =>
    obtain ⟨within, left, whole, few⟩ := arrives
    refine ⟨fits_append delivered within, left, ?_, few⟩
    rw [List.flatten_cons, ← List.append_assoc, same, List.append_assoc, whole,
      Frame.stream_append, List.append_assoc]
  | some error =>
    obtain ⟨within, earlier, last, later, left, completed, rest, rfl, whole, failing⟩ := arrives
    refine ⟨fits_append delivered within, piece :: earlier, last, later, left, completed, rest, rfl,
      ?_, failing⟩
    rw [List.flatten_cons, ← List.append_assoc, same, List.append_assoc, whole,
      Frame.stream_append, List.append_assoc]

theorem hearing_arrives (source : Fed live queue handle feed) (mtu : Nat) {incoming : Incoming}
    {world : ω} (pieces : List Bytes) (alive : live world) (formed : incoming.Formed)
    (starved : incoming.Starved (queue world)) :
    Arrives ω handle incoming.limit (incoming.heard ++ queue world) pieces
      (incoming.hearing feed handle mtu world pieces) := by
  have few := formed.incomplete starved
  -- On the pieces: each drain starves or fails, and then the run ends.
  induction pieces generalizing incoming world with
  | nil => exact ⟨by simp, _, by simp, few⟩
  | cons piece later ih =>
    obtain ⟨alive', queued⟩ := source.arrives piece alive
    have positive : 0 < max mtu 1 := by omega
    have hears := drainFrom_hears source.toFaulty (feed world piece) #[] #[] positive alive'
      formed
    rw [hearing]
    simp only [drain]
    generalize incoming.drainFrom handle (max mtu 1) (feed world piece) #[] #[] = drained
      at hears ⊢
    simp only [Hears, queued, ← List.append_assoc] at hears
    cases answer : drained.frames with
    | ok frames =>
      simp only [answer] at hears ⊢
      obtain ⟨still, formed', limit, starved', done, rfl, fits, same⟩ := hears
      have rest := ih still formed' starved' (formed'.incomplete starved')
      rw [limit] at rest
      exact rest.after fits (by simpa using same)
    | error error =>
      simp only [answer] at hears ⊢
      obtain ⟨done, rest, fits, same, stop⟩ := hears
      exact ⟨by simp, [], piece, later, _, done, rest, rfl, by simp, few, fits, same, stop⟩

end Incoming

/-- The pieces arrive one by one, and the session is notified of each of them, up to the first
notification that ends it. -/
def Session.hearing (feed : ω → Bytes → ω) :
    Session → ω → List Bytes → List Bytes × Option ChannelError
  | _, _, [] => ([], none)
  | session, world, piece :: later =>
    let (outcome, turn) := session.handle ⟨session.pair.channel, .inbound, .bytesAvailable⟩
      (feed world piece)
    match outcome.failure? with
    | some error => (outcome.received, some error)
    | none =>
      let (given, failure) := hearing feed turn.session turn.world later
      (outcome.received ++ given, failure)

theorem Session.hearing_eq (feed : ω → Bytes → ω) (session : Session) (world : ω)
    (pieces : List Bytes) : session.hearing feed world pieces
      = session.incoming.hearing feed session.pair.handle session.mtu world pieces := by
  induction pieces generalizing session world with
  | nil => rfl
  | cons piece later ih =>
    cases answer : (session.incoming.drain session.pair.handle session.mtu (feed world piece)).frames
      with
    | error error =>
      have broken : (session.receive (feed world piece)).1 = .error error := answer
      simp only [hearing, handle_broken broken, Incoming.hearing, answer]
      rfl
    | ok frames =>
      have received : (session.receive (feed world piece)).1 = .ok frames := answer
      simp only [hearing, handle_received received, Incoming.hearing, answer, ih,
        received_ofFrames, failure?_ofFrames]
      rfl

section

variable {live : ω → Prop} {queue : ω → Bytes} {handle : Handle} {feed : ω → Bytes → ω}

open Incoming (Fed Stop Arrives)

/-- A run that fails has delivered the frames that the pieces before the failing one held. These are all
that were complete exactly if the failing piece completed none. -/
theorem Incoming.Arrives.delivered {limit : Nat} {pieces delivered : List Bytes}
    {error : ChannelError} (arrives : Arrives ω handle limit [] pieces (delivered, some error)) :
    ∃ earlier last later whole rest, pieces = earlier ++ last :: later ∧
      (∀ payload ∈ whole, Frame.Fits limit payload) ∧
      (earlier ++ [last]).flatten = Frame.stream whole ++ rest ∧ Stop ω handle limit rest error ∧
      (∃ left, Frame.split limit earlier.flatten = ⟨delivered, left, none⟩) ∧ delivered <+: whole ∧
      (delivered = whole ↔ (Frame.stream whole).length ≤ earlier.flatten.length) := by
  obtain ⟨given, earlier, last, later, left, completed, rest, rfl, before, few, fits, same, stop⟩ :=
    arrives
  rw [List.nil_append] at before
  refine ⟨earlier, last, later, delivered ++ completed, rest, rfl, ?_, ?_, stop, ⟨left, ?_⟩,
    List.prefix_append _ _, ?_⟩
  · intro payload member
    exact (List.mem_append.mp member).elim (given payload) (fits payload)
  · rw [List.flatten_append, before, Frame.stream_append, List.append_assoc, List.append_assoc]
    simpa using same
  · simp [before, Frame.split_stream given, Frame.split_of_incomplete few]
  -- Nothing was lost exactly when the failing piece completed no frame of its own.
  · constructor
    · intro all
      rw [← all, before, List.length_append]
      omega
    · intro within
      rw [before, Frame.stream_append, List.length_append, List.length_append] at within
      rw [Frame.nil_of_incomplete fits few same (by omega), List.append_nil]

theorem Incoming.Arrives.oversized {limit : Nat} {pieces whole : List Bytes}
    {result : List Bytes × Option ChannelError} {a b c d : UInt8} {rest : Bytes}
    (arrives : Arrives ω handle limit [] pieces result)
    (unfailing : ∀ (world : ω) wanted reason,
      (Streams.read world handle wanted).1 ≠ .error reason)
    (fits : ∀ payload ∈ whole, Frame.Fits limit payload) (refused : limit < Frame.announced a b c d)
    (stream : pieces.flatten = Frame.stream whole ++ a :: b :: c :: d :: rest) :
    result.2 = some (.frameTooLarge (Frame.announced a b c d) limit) ∧
    ∃ earlier last later, pieces = earlier ++ last :: later ∧
      earlier.flatten.length < (Frame.stream whole).length + Frame.headerLength ∧
      (Frame.stream whole).length + Frame.headerLength ≤ (earlier ++ [last]).flatten.length ∧
      (∃ left, Frame.split limit earlier.flatten = ⟨result.1, left, none⟩) ∧ result.1 <+: whole ∧
      (result.1 = whole ↔ (Frame.stream whole).length ≤ earlier.flatten.length) := by
  -- The stream has one reading: these frames, and then this header.
  have reads : ∀ {found : List Bytes} {a' b' c' d' : UInt8} (tail : Bytes),
      (∀ payload ∈ found, Frame.Fits limit payload) → limit < Frame.announced a' b' c' d' →
      Frame.split limit (Frame.stream found ++ a' :: b' :: c' :: d' :: tail)
        = ⟨found, a' :: b' :: c' :: d' :: tail, some (Frame.announced a' b' c' d')⟩ := by
    intro found a' b' c' d' tail within refused'
    simp [Frame.split_stream within, Frame.split_of_oversized refused']
  have reading := reads rest fits refused
  rw [← stream] at reading
  obtain ⟨delivered, failure⟩ := result
  cases failure with
  | none =>
    -- Such a header would be left over, but less than a frame is.
    obtain ⟨given, left, all, few⟩ := arrives
    rw [List.nil_append] at all
    rw [all, Frame.split_stream given, Frame.split_of_incomplete few] at reading
    cases congrArg Frame.Split.oversized reading
  | some error =>
    obtain ⟨earlier, last, later, found, bad, rfl, within, here, stop, ⟨left, before⟩, first, exact⟩ :=
      arrives.delivered
    cases stop with
    | unread fails => exact absurd fails (unfailing _ _ _)
    | @oversized a' b' c' d' tail refused' =>
      have again : (earlier ++ last :: later).flatten
          = Frame.stream found ++ a' :: b' :: c' :: d' :: (tail ++ later.flatten) := by
        have split : (earlier ++ last :: later).flatten
            = (earlier ++ [last]).flatten ++ later.flatten := by simp
        rw [split, here, List.append_assoc]
        rfl
      rw [again, reads _ within refused'] at reading
      simp only [Frame.Split.mk.injEq, Option.some.injEq] at reading
      obtain ⟨rfl, -, length⟩ := reading
      refine ⟨by rw [length], earlier, last, later, rfl, ?_, ?_, ⟨left, before⟩, first, exact⟩
      · -- Otherwise an earlier drain would have met the header.
        refine Nat.lt_of_not_le fun met => ?_
        have header : Frame.stream found ++ [a', b', c', d'] <+: (earlier ++ [last]).flatten :=
          ⟨tail, by simp [here]⟩
        have front : earlier.flatten <+: (earlier ++ [last]).flatten := ⟨last, by simp⟩
        obtain ⟨more, there⟩ := List.prefix_of_prefix_length_le header front
          (by rwa [List.length_append])
        rw [← there, List.append_assoc] at before
        have refusal := reads more within refused'
        cases congrArg Frame.Split.oversized (before.symm.trans refusal)
      · rw [here]
        simp [Frame.headerLength]

/-- Whatever a stream is cut into and whatever the chunk size, a run that fails has delivered the frames
that the notifications before the failing one held. Those that the failing one completed are lost, so
that all complete frames are delivered exactly if it completed none. A header that announces too much
is always met, at the notification in which it ends, unless a read fails. -/
theorem delivered_before_failure (source : Fed live queue handle feed) (world : ω)
    (alive : live world) (empty : queue world = []) (limit mtu : Nat) (pieces : List Bytes) :
    let run := Incoming.hearing feed handle mtu { limit } world pieces
    (∀ session : Session, session.pair.handle = handle → session.mtu = mtu →
      session.incoming = { limit } → session.hearing feed world pieces = run) ∧
    (∀ error, run.2 = some error → ∃ earlier last later whole rest,
      pieces = earlier ++ last :: later ∧ (∀ payload ∈ whole, Frame.Fits limit payload) ∧
      (earlier ++ [last]).flatten = Frame.stream whole ++ rest ∧ Stop ω handle limit rest error ∧
      (∃ left, Frame.split limit earlier.flatten = ⟨run.1, left, none⟩) ∧ run.1 <+: whole ∧
      (run.1 = whole ↔ (Frame.stream whole).length ≤ earlier.flatten.length)) ∧
    ((∀ (world : ω) wanted reason, (Streams.read world handle wanted).1 ≠ .error reason) →
      ∀ whole a b c d rest, (∀ payload ∈ whole, Frame.Fits limit payload) →
      limit < Frame.announced a b c d →
      pieces.flatten = Frame.stream whole ++ a :: b :: c :: d :: rest →
      run.2 = some (.frameTooLarge (Frame.announced a b c d) limit) ∧
      ∃ earlier last later, pieces = earlier ++ last :: later ∧
        earlier.flatten.length < (Frame.stream whole).length + Frame.headerLength ∧
        (Frame.stream whole).length + Frame.headerLength ≤ (earlier ++ [last]).flatten.length ∧
        (∃ left, Frame.split limit earlier.flatten = ⟨run.1, left, none⟩) ∧ run.1 <+: whole ∧
        (run.1 = whole ↔ (Frame.stream whole).length ≤ earlier.flatten.length)) := by
  intro run
  -- The receiver starts on an empty queue, so the pieces are all it ever sees.
  have starved : Incoming.Starved { limit } (queue world) := by
    simp [Incoming.Starved, empty, Frame.headerLength]
  have arrives := Incoming.hearing_arrives source mtu pieces alive
    (⟨fun _ => rfl, by simp⟩ : Incoming.Formed { limit }) starved
  rw [empty] at arrives
  refine ⟨?_, ?_, ?_⟩
  · rintro session rfl rfl idle
    rw [session.hearing_eq, idle]
  · intro error failed
    have failing : run = (run.1, some error) := Prod.ext rfl failed
    exact Arrives.delivered (failing ▸ arrives)
  · intro unfailing whole a b c d rest fits refused stream
    exact Arrives.oversized arrives unfailing fits refused stream

end

namespace PipePair

theorem fed (handle : Handle) : Incoming.Fed (fun pair : PipePair => pair.inbound.closed = false)
    (fun pair => pair.inbound.queue) handle (fun pair bytes => (pair.feed bytes).2) where
  available _ := rfl
  read _ _ := .inl ⟨rfl, rfl⟩
  keeps _ opened := opened
  arrives := by
    intro pair bytes opened
    simp [feed, InboundPipe.push, opened]

end PipePair

/-- A frame, and then a header that announces nine bytes to a receiver that allows eight. -/
theorem delivered_before_failure_apart :
    let run := Incoming.hearing (fun pair bytes => (PipePair.feed pair bytes).2) 0 4 { limit := 8 }
      { outbound := .ofCapacity 0 } [[2, 0, 0, 0, 7, 8], [9, 0, 0, 0]]
    run.1 = [[7, 8]] ∧ run.2 = some (.frameTooLarge 9 8) := by
  intro run
  have apart := (delivered_before_failure (PipePair.fed 0) { outbound := .ofCapacity 0 } rfl rfl 8 4
    [[2, 0, 0, 0, 7, 8], [9, 0, 0, 0]]).2.2
  have fits : ∀ payload ∈ [[7, 8]], Frame.Fits 8 payload := by simp [Frame.Fits, Bytes.wordLimit]
  obtain ⟨failed, -⟩ := apart (by intro pair wanted reason; simp [Streams.read]) [[7, 8]] 9 0 0 0 []
    fits (by decide) rfl
  exact ⟨by decide +kernel, failed⟩

/-- The same bytes, cut in two ways: in one notification the complete frame is lost with the header. -/
theorem delivered_depends_on_pieces :
    let run := (Session.start ⟨1, 0⟩ 4 8).hearing (fun pair bytes => (PipePair.feed pair bytes).2)
      { outbound := .ofCapacity 0 }
    run [[2, 0, 0, 0, 7, 8], [9, 0, 0, 0]] = ([[7, 8]], some (.frameTooLarge 9 8)) ∧
      run [[2, 0, 0, 0, 7, 8, 9, 0, 0, 0]] = ([], some (.frameTooLarge 9 8)) := by
  decide +kernel

end Sightline
