import Sightline.Channel.Session
import Sightline.Proofs.Frame.Incoming
import Sightline.Proofs.Frame.Outgoing

/-! What a notification can do to a session, said once.

`Session.handles` lists all the ways in which a notification is applied; what is preserved by each of
them is preserved by every notification. -/

set_option autoImplicit false

namespace Sightline

namespace Session

def Outcome.received : Outcome → List Bytes
  | .frames whole => whole
  | _ => []

def Outcome.failure? : Outcome → Option ChannelError
  | .terminated error => some error
  | _ => none

def Outcome.ofFrames : List Bytes → Outcome
  | [] => .nothing
  | frame :: more => .frames (frame :: more)

@[simp] theorem received_ofFrames (frames : List Bytes) :
    (Outcome.ofFrames frames).received = frames := by
  cases frames <;> rfl

@[simp] theorem failure?_ofFrames (frames : List Bytes) :
    (Outcome.ofFrames frames).failure? = none := by
  cases frames <;> rfl

variable {ω : Type} [Streams ω]

/-- All the ways in which a notification is applied. -/
inductive Handles (session : Session) (event : StreamEvent) (world : ω) :
    Outcome → Turn ω → Prop where
  | ignored : Handles session event world .nothing ⟨session, world, #[]⟩
  /-- The second of the two streams reported open. -/
  | opened {inboundOpen outboundOpen : Bool} : event.news = .opened → session.isOpen = false →
      inboundOpen = true → outboundOpen = true → Handles session event world .opened
        ⟨{ session with inboundOpen, outboundOpen }, world, #[]⟩
  /-- A stream reported open, and the other one is still to come or both were open before. -/
  | reported {inboundOpen outboundOpen : Bool} : event.news = .opened →
      (inboundOpen && outboundOpen) = session.isOpen → Handles session event world .nothing
        ⟨{ session with inboundOpen, outboundOpen }, world, #[]⟩
  | received {frames : List Bytes} : event.news = .bytesAvailable →
      (session.receive world).1 = .ok frames →
      Handles session event world (.ofFrames frames) (session.receive world).2
  | broken {error : ChannelError} : event.news = .bytesAvailable →
      (session.receive world).1 = .error error →
      Handles session event world (.terminated error) (session.receive world).2
  | resumed : event.news = .spaceAvailable →
      Handles session event world .nothing (session.resume world)
  | ended {error : ChannelError} : event.news = .ended ∨ (∃ reason, event.news = .failed reason) →
      Handles session event world (.terminated error) ⟨session, world, #[]⟩

-- A report that a stream is open never closes a session, hence `grows`.
theorem handles_opened (session : Session) {event : StreamEvent} (world : ω)
    (news : event.news = .opened) (inboundOpen outboundOpen : Bool)
    (grows : session.isOpen = true → (inboundOpen && outboundOpen) = true) :
    Handles session event world
      (if !session.isOpen && (inboundOpen && outboundOpen) then .opened else .nothing)
      ⟨{ session with inboundOpen, outboundOpen }, world, #[]⟩ := by
  cases before : session.isOpen with
  | true => exact .reported news ((grows before).trans before.symm)
  | false =>
    cases after : inboundOpen && outboundOpen with
    | true =>
      obtain ⟨inbound, outbound⟩ := (Bool.and_eq_true _ _).mp after
      exact .opened news before inbound outbound
    | false => exact .reported news (after.trans before.symm)

theorem handle_received {session : Session} {world : ω} {frames : List Bytes}
    (received : (session.receive world).1 = .ok frames) :
    session.handle ⟨session.pair.channel, .inbound, .bytesAvailable⟩ world
      = (.ofFrames frames, (session.receive world).2) := by
  cases frames <;> simp [handle, received, Outcome.ofFrames]

theorem handle_broken {session : Session} {world : ω} {error : ChannelError}
    (broken : (session.receive world).1 = .error error) :
    session.handle ⟨session.pair.channel, .inbound, .bytesAvailable⟩ world
      = (.terminated error, (session.receive world).2) := by
  simp [handle, broken]

theorem handles (session : Session) (event : StreamEvent) (world : ω) :
    Handles session event world (session.handle event world).1 (session.handle event world).2 := by
  obtain ⟨channel, direction, news⟩ := event
  by_cases own : channel = session.pair.channel
  · have here : ¬channel ≠ session.pair.channel := fun other => other own
    simp only [handle, if_neg here]
    cases news with
    | opened =>
      -- Only the flag of the stream that reported changes, and it only becomes true.
      cases direction
      · apply session.handles_opened world rfl true session.outboundOpen
        simp [isOpen]
      · apply session.handles_opened world rfl session.inboundOpen true
        intro before
        simpa [isOpen] using ((Bool.and_eq_true _ _).mp before).1
    | bytesAvailable =>
      cases direction with
      | inbound =>
        simp only
        split
        · next drained => exact .received rfl drained
        · next drained => exact .received rfl drained
        · next drained => exact .broken rfl drained
      | outbound => exact .ignored
    | spaceAvailable =>
      cases direction with
      | inbound => exact .ignored
      | outbound => exact .resumed rfl
    | failed reason => exact .ended (.inr ⟨reason, rfl⟩)
    | ended => exact .ended (.inl rfl)
  · simp only [handle, if_pos own]
    exact .ignored

theorem pump_frame (session : Session) (world : ω) : ∃ writable outgoing,
    (session.pump world).session = { session with writable, outgoing } := by
  unfold pump
  split
  · exact ⟨_, _, rfl⟩
  · simp only
    split <;> exact ⟨_, _, rfl⟩

theorem isOpen_of_pump (session : Session) (world : ω) :
    (session.pump world).session.isOpen = session.isOpen := by
  obtain ⟨writable, outgoing, same⟩ := session.pump_frame world
  rw [same]
  rfl

theorem isOpen_of_submit (session : Session) (payload : Bytes) (tag : Tag) (world : ω) :
    (session.submit payload tag world).2.session.isOpen = session.isOpen := by
  unfold submit
  split
  · rfl
  · split
    · rfl
    · exact isOpen_of_pump _ world

theorem Handles.isOpen {session : Session} {event : StreamEvent} {world : ω} {outcome : Outcome}
    {turn : Turn ω} (handles : Handles session event world outcome turn) :
    (outcome = .opened ∧ session.isOpen = false ∧ turn.session.isOpen = true) ∨
      (outcome ≠ .opened ∧ turn.session.isOpen = session.isOpen) := by
  cases handles with
  | opened _ before inbound outbound =>
    exact .inl ⟨rfl, before, by simp [Session.isOpen, inbound, outbound]⟩
  | reported _ same => exact .inr ⟨by simp, same⟩
  | @received frames => exact .inr ⟨by cases frames <;> simp [Outcome.ofFrames], rfl⟩
  | resumed => exact .inr ⟨by simp, isOpen_of_pump _ world⟩
  | ignored | broken | ended => exact .inr ⟨by simp, rfl⟩

/-! ### Chunks that no buffer holds -/

theorem pump_buffered (session : Session) (world : ω) : .unbuffered ∉ (session.pump world).notes := by
  unfold pump
  split
  · simp
  · simp only
    split <;> simp

theorem receive_unbuffered_iff (session : Session) (world : ω) :
    .unbuffered ∈ (session.receive world).2.notes ↔ Bytes.bufferLimit < session.mtu := by
  simp only [receive]
  split
  · next fits => simpa using fits
  · next long => simpa using long

/-- A chunk that no buffer holds ends the program when bytes are to be read, and at no other time. -/
theorem handle_unbuffered_iff (session : Session) (event : StreamEvent) (world : ω) :
    .unbuffered ∈ (session.handle event world).2.notes ↔
      event = ⟨session.pair.channel, .inbound, .bytesAvailable⟩ ∧
        Bytes.bufferLimit < session.mtu := by
  obtain ⟨channel, direction, news⟩ := event
  by_cases own : channel = session.pair.channel
  · subst own
    cases news with
    | bytesAvailable =>
      cases direction with
      | inbound =>
        have received := session.receive_unbuffered_iff world
        cases answer : (session.receive world).1 with
        | ok frames => simpa [handle_received answer] using received
        | error error => simpa [handle_broken answer] using received
      | outbound => simp [handle]
    | spaceAvailable =>
      cases direction with
      | inbound => simp [handle]
      | outbound => simpa [handle, resume] using pump_buffered { session with writable := true } world
    | opened | failed | ended => simp [handle]
  · simp [handle, own]

/-! ### What a session leaves alone -/

variable (kept : ω → Prop) (session : Session)

theorem pump_keeps (writes : ∀ world offered, kept world →
    kept (Streams.write world session.pair.handle offered).2) {world : ω} (before : kept world) :
    kept (session.pump world).world := by
  cases waiting : session.outgoing with
  | none => simpa [pump, waiting] using before
  | some outgoing =>
    have after := outgoing.pump_keeps kept writes session.mtu session.writable before
    cases outcome : (outgoing.pump session.pair.handle session.mtu session.writable world).outcome
    all_goals simpa [pump, waiting, outcome] using after

theorem handle_keeps
    (reads : ∀ world wanted, kept world → kept (Streams.read world session.pair.handle wanted).2)
    (writes : ∀ world offered, kept world →
      kept (Streams.write world session.pair.handle offered).2)
    (event : StreamEvent) {world : ω} (before : kept world) :
    kept (session.handle event world).2.world := by
  have read : kept (session.receive world).2.world :=
    session.incoming.drain_keeps kept reads session.mtu before
  have handles := session.handles event world
  generalize session.handle event world = handled at handles ⊢
  obtain ⟨outcome, turn⟩ := handled
  cases handles with
  | ignored | opened | reported | ended => exact before
  | received | broken => exact read
  | resumed => exact pump_keeps kept { session with writable := true } writes before

theorem submit_keeps (writes : ∀ world offered, kept world →
    kept (Streams.write world session.pair.handle offered).2) (payload : Bytes) (tag : Tag)
    {world : ω} (before : kept world) : kept (session.submit payload tag world).2.world := by
  unfold submit
  split
  · exact before
  · split
    · exact before
    · next outgoing _ =>
      exact pump_keeps kept { session with outgoing := some outgoing } writes before

end Session

end Sightline
