import Sightline.Proofs.Channel.Piped

/-! Waking a session that waits for room.

An outlet is a session that sends into a pipe, and the carrier that empties the pipe. A write that falls
short marks the pipe; a take that makes room removes the mark and owes the session a notification, which
may come at any later time. However these are put together, a frame under way has one or the other ahead
of it (`Outlet.Awake`): the mark on a pipe that is not empty, or a notification that is owed. -/

set_option autoImplicit false

namespace Sightline

/-! ### What a pipe keeps -/

namespace OutboundPipe

structure Sound (pipe : OutboundPipe) : Prop where
  opened : pipe.closed = false
  roomy : 0 < pipe.capacity
  within : pipe.queue.length ≤ pipe.capacity

/-- A write fell short, and there is something to take. -/
def Marked (pipe : OutboundPipe) : Prop := pipe.queue ≠ [] ∧ pipe.blocked = true

variable {pipe : OutboundPipe}

theorem sound_ofCapacity (capacity : Nat) : (ofCapacity capacity).Sound where
  opened := rfl
  roomy := by
    simp only [ofCapacity]
    omega
  within := Nat.zero_le _

theorem Sound.write (sound : pipe.Sound) (bytes : Bytes) : (pipe.write bytes).2.Sound := by
  have within := sound.within
  simp only [OutboundPipe.write, sound.opened, Bool.false_eq_true, if_false]
  refine ⟨rfl, sound.roomy, ?_⟩
  simp only [List.length_append, List.length_take]
  omega

theorem Sound.take (sound : pipe.Sound) (most : Nat) : (pipe.take most).2.Sound := by
  have within := sound.within
  refine { sound with within := ?_ }
  simp only [OutboundPipe.take, List.length_drop]
  omega

theorem Sound.marked (sound : pipe.Sound) {bytes : Bytes} {count : Nat}
    (wrote : (pipe.write bytes).1 = .ok count) (short : count < bytes.length) :
    (pipe.write bytes).2.Marked := by
  have within := sound.within
  have roomy := sound.roomy
  simp only [OutboundPipe.write, sound.opened, Bool.false_eq_true, if_false, Except.ok.injEq] at wrote
  simp only [List.length_take] at wrote
  simp only [Marked, OutboundPipe.write, sound.opened, Bool.false_eq_true, if_false]
  refine ⟨fun empty => ?_, ?_⟩
  · have none_held := congrArg List.length empty
    simp only [List.length_append, List.length_take, List.length_nil] at none_held
    omega
  · simp only [List.length_take, wrote, short, decide_true, Bool.or_true]

/-- After a take the mark is still there, or a notification of room is owed for it. -/
theorem Marked.take (marked : pipe.Marked) (most : Nat) :
    (pipe.take most).2.Marked ∨ (pipe.take most).1.spaceFreed = true := by
  obtain ⟨held, blocked⟩ := marked
  cases most with
  | zero => exact .inl ⟨by simpa [OutboundPipe.take] using held, by simp [OutboundPipe.take, blocked]⟩
  | succ most =>
    right
    simpa [OutboundPipe.take, blocked] using held

end OutboundPipe

theorem Outgoing.pumpFrom_marked (handle : Handle) (chunk : Nat) (rest : Bytes) (offset : Nat)
    (pair : PipePair) (calls : Array StreamCall) (sound : pair.outbound.Sound) :
    ((pumpFrom handle chunk rest offset pair calls).outcome = .complete →
      (pumpFrom handle chunk rest offset pair calls).writable = true) ∧
    ((pumpFrom handle chunk rest offset pair calls).outcome = .blocked →
      (pumpFrom handle chunk rest offset pair calls).writable = false ∧
        (pumpFrom handle chunk rest offset pair calls).world.outbound.Marked) := by
  fun_induction pumpFrom handle chunk rest offset pair calls with
  | case1 | case2 | case3 => simp
  | case4 offset pair calls byte more fits offered count pair' writing calls' short =>
    obtain ⟨wrote, rfl⟩ := Prod.ext_iff.mp writing
    exact ⟨by simp, fun _ => ⟨rfl, sound.marked wrote short⟩⟩
  | case5 offset pair calls byte more fits offered count pair' writing calls' whole ih =>
    obtain ⟨-, rfl⟩ := Prod.ext_iff.mp writing
    exact ih (sound.write offered)

/-! ### Sessions that go on -/

namespace Session

def Note.isOverflow : Note → Bool
  | .overflow => true
  | _ => false

/-- A sum outgrew a machine word in this turn, and the program cannot go on. That there is a buffer for
the chunk to be read is another matter (`handle_unbuffered_iff`). -/
def Turn.stops {ω : Type} (turn : Turn ω) : Bool := turn.notes.toList.any Note.isOverflow

/-- A pump that is let go on either completes its frame or leaves the pipe full and marked. -/
theorem pump_marked {session : Session} {pipes : PipePair} (writable : session.writable = true)
    (sound : pipes.outbound.Sound) (goes : (session.pump pipes).stops = false) :
    ((session.pump pipes).session.outgoing = none →
      (session.pump pipes).session.writable = true) ∧
    ((session.pump pipes).session.outgoing ≠ none →
      (session.pump pipes).session.writable = false ∧
        (session.pump pipes).world.outbound.Marked) := by
  cases waiting : session.outgoing with
  | none => simp [pump, waiting, writable]
  | some outgoing =>
    obtain ⟨-, fine, -⟩ :=
      outgoing.pump_piped session.pair.handle session.mtu session.writable pipes sound.opened
    have marked := Outgoing.pumpFrom_marked session.pair.handle session.mtu outgoing.left
      outgoing.offset pipes #[] sound
    have same : outgoing.pump session.pair.handle session.mtu session.writable pipes
        = Outgoing.pumpFrom session.pair.handle session.mtu outgoing.left outgoing.offset pipes
          #[] := by
      simp only [Outgoing.pump, writable, if_true, Outgoing.left]
    cases outcome : (outgoing.pump session.pair.handle session.mtu session.writable pipes).outcome with
    | complete =>
      simp only [pump, waiting, outcome]
      refine ⟨fun _ => ?_, fun under => absurd rfl under⟩
      rw [same]
      exact marked.1 (same ▸ outcome)
    -- A pump is cut off only by a short write, and a short write marks the pipe.
    | blocked =>
      simp only [pump, waiting, outcome]
      refine ⟨fun ended => (Option.some_ne_none _ ended).elim, fun _ => ?_⟩
      rw [same]
      exact marked.2 (same ▸ outcome)
    | failed reason => exact absurd outcome (fine reason)
    | overflow => simp [Turn.stops, pump, waiting, outcome, Note.isOverflow] at goes

/-! ### Sessions whose frames end within a machine word -/

structure Fits (session : Session) : Prop where
  mtu : max session.mtu 1 + Frame.headerLength + Bytes.wordLimit ≤ Outgoing.machineLimit
  unfinished : ∀ o ∈ session.outgoing, o.Unfinished
  short : ∀ o ∈ session.outgoing, o.frame.length < Frame.headerLength + Bytes.wordLimit

variable {ω : Type} [Streams ω]

theorem pumpFrom_goes (handle : Handle) (chunk : Nat) (rest : Bytes) (offset : Nat) (world : ω)
    (calls : Array StreamCall) (fits : offset + rest.length + max chunk 1 ≤ Outgoing.machineLimit) :
    (Outgoing.pumpFrom handle chunk rest offset world calls).outcome ≠ .overflow := by
  fun_induction Outgoing.pumpFrom handle chunk rest offset world calls with
  | case1 | case3 | case4 => simp
  | case2 offset world calls byte more full =>
    simp only [List.length_cons] at fits
    omega
  | case5 offset world calls byte more full offered count world' writing calls' whole ih =>
    apply ih
    simp only [List.length_drop]
    have inside : offered.length ≤ (byte :: more).length := by
      simp only [offered, List.length_take]
      omega
    omega

theorem Fits.pump_goes {session : Session} (fits : session.Fits) {outgoing : Outgoing}
    (under : session.outgoing = some outgoing) (world : ω) :
    (outgoing.pump session.pair.handle session.mtu session.writable world).outcome ≠ .overflow := by
  have unfinished := fits.unfinished outgoing under
  have short := fits.short outgoing under
  have mtu := fits.mtu
  cases writable : session.writable with
  | true =>
    apply pumpFrom_goes
    simp only [List.length_drop]
    simp only [Outgoing.Unfinished] at unfinished
    omega
  | false =>
    simp only [Outgoing.pump, Bool.false_eq_true, if_false]
    split <;> simp

theorem receive_goes (session : Session) (world : ω) : (session.receive world).2.stops = false := by
  simp only [receive, Turn.stops]
  split <;> simp [Note.isOverflow]

theorem Fits.pump {session : Session} (fits : session.Fits) (world : ω) :
    (session.pump world).session.Fits ∧ (session.pump world).stops = false := by
  have sends := session.pump_sends world fits.unfinished
  refine ⟨⟨?_, sends.unfinished fits.unfinished, ?_⟩, ?_⟩
  · obtain ⟨_, _, same⟩ := session.pump_frame world
    rw [same]
    exact fits.mtu
  · intro o under
    obtain ⟨earlier, before, same⟩ := sends.frame o under
    exact same ▸ fits.short earlier before
  · cases under : session.outgoing with
    | none => simp [Turn.stops, Session.pump, under]
    | some outgoing =>
      have goes := fits.pump_goes under world
      cases outcome : (outgoing.pump session.pair.handle session.mtu session.writable world).outcome with
      | overflow => exact absurd outcome goes
      | complete | blocked | failed =>
        simp [Turn.stops, Session.pump, under, outcome, Note.isOverflow]

theorem Fits.submit {session : Session} (fits : session.Fits) (payload : Bytes) (tag : Tag)
    (world : ω) : (session.submit payload tag world).2.session.Fits ∧
      (session.submit payload tag world).2.stops = false := by
  rcases session.submit_cases payload tag world with ⟨-, -, short, turn⟩ | ⟨_, -, refused⟩
  · have begun : Fits { session with outgoing := some (begun payload tag) } := by
      refine ⟨fits.mtu, ?_, ?_⟩
      · rintro _ ⟨rfl⟩
        exact begun_unfinished payload tag
      · rintro _ ⟨rfl⟩
        simpa [Session.begun, Frame.length_encoded] using short
    rw [turn]
    exact begun.pump world
  · rw [refused]
    exact ⟨fits, rfl⟩

theorem Fits.handle {session : Session} (fits : session.Fits) (event : StreamEvent) (world : ω) :
    (session.handle event world).2.session.Fits ∧ (session.handle event world).2.stops = false := by
  have handles := session.handles event world
  generalize session.handle event world = handled at handles ⊢
  obtain ⟨outcome, turn⟩ := handled
  cases handles with
  | ignored | ended => exact ⟨fits, rfl⟩
  | opened | reported => exact ⟨{ fits with }, rfl⟩
  | received | broken => exact ⟨{ fits with }, session.receive_goes world⟩
  | resumed =>
    have resumed : Fits { session with writable := true } := { fits with }
    exact resumed.pump world

end Session

/-- A session that sends into a pipe, and the notifications of room that are owed to it. -/
structure Outlet where
  session : Session
  pipes : PipePair
  owed : Nat := 0

namespace Outlet

inductive Move where
  | submit (payload : Bytes) (tag : Tag)
  /-- The carrier takes up to so many bytes, and owes a notification if that made room. -/
  | take (most : Nat)
  /-- One of the notifications that are owed comes. -/
  | deliver
  /-- The session is handed a notification that is not owed, whatever it says. -/
  | notify (direction : Direction) (news : StreamNews)
  deriving DecidableEq, Repr

def start (pair : StreamPair) (mtu limit capacity : Nat) (inbound : InboundPipe) : Outlet where
  session := .start pair mtu limit
  pipes := { inbound, outbound := .ofCapacity capacity }

/-- The outlet after a turn of its session, unless the program cannot go on. -/
def settle (outlet : Outlet) (turn : Session.Turn PipePair) : Option Outlet :=
  if turn.stops then none
  else some { outlet with session := turn.session, pipes := turn.world }

def notified (outlet : Outlet) (direction : Direction) (news : StreamNews) : Option Outlet :=
  let event := ⟨outlet.session.pair.channel, direction, news⟩
  outlet.settle (outlet.session.handle event outlet.pipes).2

def step (outlet : Outlet) : Move → Option Outlet
  | .submit payload tag => outlet.settle (outlet.session.submit payload tag outlet.pipes).2
  | .take most =>
    let (taken, pipes) := outlet.pipes.take most
    some { outlet with pipes, owed := outlet.owed + taken.spaceFreed.toNat }
  | .deliver =>
    match outlet.owed with
    | 0 => some outlet
    | owed + 1 => { outlet with owed }.notified .outbound .spaceAvailable
  | .notify direction news => outlet.notified direction news

def run (outlet : Outlet) (moves : List Move) : Option Outlet := moves.foldlM step outlet

/-- A session without a frame under way may write, and one with a frame under way will be woken. -/
structure Awake (outlet : Outlet) : Prop where
  sound : outlet.pipes.outbound.Sound
  idle : outlet.session.outgoing = none → outlet.session.writable = true
  waiting : outlet.session.outgoing ≠ none → outlet.session.writable = false ∧
    (outlet.pipes.outbound.Marked ∨ 0 < outlet.owed)

variable {outlet now : Outlet}

theorem settle_eq_some {turn : Session.Turn PipePair} : outlet.settle turn = some now ↔
    turn.stops = false ∧ { outlet with session := turn.session, pipes := turn.world } = now := by
  simp [settle]

theorem awake_of_pump {session : Session} (writable : session.writable = true)
    (sound : outlet.pipes.outbound.Sound)
    (went : outlet.settle (session.pump outlet.pipes) = some now) : now.Awake := by
  obtain ⟨goes, rfl⟩ := settle_eq_some.mp went
  obtain ⟨idle, waiting⟩ := Session.pump_marked writable sound goes
  refine ⟨?_, idle, fun under => ⟨(waiting under).1, .inl (waiting under).2⟩⟩
  exact Session.pump_keeps (fun pipes : PipePair => pipes.outbound.Sound) session
    (fun _ offered before => before.write offered) sound

theorem Awake.submit (awake : outlet.Awake) {payload : Bytes} {tag : Tag}
    (went : outlet.step (.submit payload tag) = some now) : now.Awake := by
  simp only [step] at went
  rcases outlet.session.submit_cases payload tag outlet.pipes with
    ⟨-, idle, -, turn⟩ | ⟨_, -, refused⟩
  · rw [turn] at went
    refine awake_of_pump ?_ awake.sound went
    exact awake.idle idle
  · rw [refused] at went
    obtain ⟨-, rfl⟩ := settle_eq_some.mp went
    exact awake

theorem Awake.take (awake : outlet.Awake) {most : Nat}
    (went : outlet.step (.take most) = some now) : now.Awake := by
  simp only [step, Option.some.injEq] at went
  subst went
  refine ⟨awake.sound.take most, awake.idle, fun under => ?_⟩
  obtain ⟨unwritable, marked | owed⟩ := awake.waiting under
  · refine ⟨unwritable, ?_⟩
    rcases marked.take most with still | freed
    · exact .inl still
    · right
      simp [PipePair.take, freed]
  · exact ⟨unwritable, .inr (Nat.add_pos_left owed _)⟩

theorem awake_of_room (sound : outlet.pipes.outbound.Sound)
    (went : outlet.notified .outbound .spaceAvailable = some now) : now.Awake := by
  simp only [notified, Session.handle, ne_eq, not_true_eq_false, if_false, Session.resume] at went
  exact awake_of_pump rfl sound went

theorem Awake.notify (awake : outlet.Awake) {direction : Direction} {news : StreamNews}
    (went : outlet.notified direction news = some now) : now.Awake := by
  have handles := outlet.session.handles ⟨outlet.session.pair.channel, direction, news⟩ outlet.pipes
  simp only [notified] at went
  generalize outlet.session.handle _ outlet.pipes = handled at handles went
  obtain ⟨outcome, turn⟩ := handled
  cases handles with
  | ignored | opened | reported | ended =>
    obtain ⟨-, rfl⟩ := settle_eq_some.mp went
    exact { awake with }
  | received | broken =>
    -- A drain of the inbound pipe leaves the outbound one alone.
    have same : (outlet.session.receive outlet.pipes).2.world.outbound = outlet.pipes.outbound :=
      Incoming.drain_keeps (fun pipes : PipePair => pipes.outbound = outlet.pipes.outbound)
        (fun _ _ before => before) _ _ rfl
    obtain ⟨-, rfl⟩ := settle_eq_some.mp went
    exact ⟨same ▸ awake.sound, awake.idle, same ▸ awake.waiting⟩
  | resumed => exact awake_of_pump rfl awake.sound went

theorem Awake.step (awake : outlet.Awake) {move : Move} (went : outlet.step move = some now) :
    now.Awake := by
  cases move with
  | submit payload tag => exact awake.submit went
  | take most => exact awake.take went
  | notify direction news => exact awake.notify went
  | deliver =>
    simp only [Outlet.step] at went
    split at went
    · cases went
      exact awake
    · refine awake_of_room ?_ went
      exact awake.sound

theorem sound_of_step (sound : outlet.pipes.outbound.Sound) {move : Move}
    (went : outlet.step move = some now) : now.pipes.outbound.Sound := by
  have writes (world : PipePair) (offered : Bytes) (before : world.outbound.Sound) :
      (Streams.write world outlet.session.pair.handle offered).2.outbound.Sound :=
    before.write offered
  have handled (event : StreamEvent) :
      (outlet.session.handle event outlet.pipes).2.world.outbound.Sound :=
    Session.handle_keeps (fun pipes : PipePair => pipes.outbound.Sound) outlet.session
      (fun _ _ before => before) writes event sound
  cases move with
  | submit payload tag =>
    obtain ⟨-, rfl⟩ := settle_eq_some.mp went
    exact Session.submit_keeps (fun pipes : PipePair => pipes.outbound.Sound) outlet.session writes
      payload tag sound
  | take most =>
    cases went
    exact sound.take most
  | notify direction news =>
    obtain ⟨-, rfl⟩ := settle_eq_some.mp went
    exact handled _
  | deliver =>
    simp only [step] at went
    split at went
    · cases went
      exact sound
    · obtain ⟨-, rfl⟩ := settle_eq_some.mp went
      exact handled _

theorem run_keeps (kept : Outlet → Prop) (keeps : ∀ {outlet now : Outlet} {move : Move},
    kept outlet → outlet.step move = some now → kept now) (before : kept outlet)
    {moves : List Move} (went : outlet.run moves = some now) : kept now := by
  induction moves generalizing outlet with
  | nil =>
    cases went
    exact before
  | cons move moves ih =>
    obtain ⟨next, first, later⟩ := Option.bind_eq_some_iff.mp went
    exact ih (keeps before first) later

theorem step_goes (fits : outlet.session.Fits) (move : Move) :
    ∃ next, outlet.step move = some next ∧ next.session.Fits := by
  cases move with
  | submit payload tag =>
    obtain ⟨fits', goes⟩ := fits.submit payload tag outlet.pipes
    exact ⟨_, settle_eq_some.mpr ⟨goes, rfl⟩, fits'⟩
  | take most => exact ⟨_, rfl, fits⟩
  | notify direction news =>
    obtain ⟨fits', goes⟩ := fits.handle _ outlet.pipes
    exact ⟨_, settle_eq_some.mpr ⟨goes, rfl⟩, fits'⟩
  | deliver =>
    simp only [step]
    split
    · exact ⟨outlet, rfl, fits⟩
    · obtain ⟨fits', goes⟩ := fits.handle _ outlet.pipes
      exact ⟨_, settle_eq_some.mpr ⟨goes, rfl⟩, fits'⟩

theorem run_goes (fits : outlet.session.Fits) (moves : List Move) :
    (outlet.run moves).isSome = true := by
  induction moves generalizing outlet with
  | nil => rfl
  | cons move moves ih =>
    obtain ⟨next, went, fits'⟩ := step_goes fits move
    have later : outlet.run (move :: moves) = next.run moves := by
      simp [run, went]
    rw [later]
    exact ih fits'

/-- No wake-up is lost. However submissions, takes, deliveries and other notifications follow each other,
once the session was told of room it may write whenever it sends nothing; and while it sends it may not,
and the pipe is marked and holds something to be taken, or a notification is still owed. A program whose
chunks and frames together fit a machine word is never stopped by a sum. -/
theorem wakeup_ahead (pair : StreamPair) (mtu limit capacity : Nat) (inbound : InboundPipe)
    (early moves : List Move) :
    let ran := (start pair mtu limit capacity inbound).run
      (early ++ .notify .outbound .spaceAvailable :: moves)
    (∀ now, ran = some now →
      (now.session.isSending = false → now.session.writable = true) ∧
      (now.session.isSending = true → now.session.writable = false ∧
        ((now.pipes.outbound.queue ≠ [] ∧ now.pipes.outbound.blocked = true) ∨ 0 < now.owed))) ∧
    (mtu + Frame.headerLength + Bytes.wordLimit ≤ Outgoing.machineLimit → ran.isSome = true) := by
  refine ⟨fun now went => ?_, fun small => ?_⟩
  · rw [run, List.foldlM_append] at went
    obtain ⟨before, begun, rest⟩ := Option.bind_eq_some_iff.mp went
    obtain ⟨next, room, later⟩ := Option.bind_eq_some_iff.mp rest
    -- Before the first word of room only the pipe is sound; from then on the session is awake.
    have sound : before.pipes.outbound.Sound :=
      run_keeps (·.pipes.outbound.Sound) (fun sound went => sound_of_step sound went)
        (OutboundPipe.sound_ofCapacity capacity) begun
    have awake : now.Awake :=
      run_keeps Awake (fun awake went => awake.step went) (awake_of_room sound room) later
    simp only [Session.isSending, Option.isSome_eq_false_iff, Option.isNone_iff_eq_none,
      Option.isSome_iff_ne_none]
    exact ⟨awake.idle, awake.waiting⟩
  · apply run_goes
    refine ⟨?_, by simp [start, Session.start], by simp [start, Session.start]⟩
    simp only [start, Session.start, Frame.headerLength, Bytes.wordLimit, Outgoing.machineLimit] at small ⊢
    omega

/-- The pipe was emptied, and what is left of the frame waits for a notification that is owed. -/
theorem wakeup_ahead_owed :
    ∃ now, (start ⟨1, 0⟩ 2 8 3 {}).run
        ([] ++ .notify .outbound .spaceAvailable :: [.submit [7, 8] 1, .take 0, .take 9]) = some now ∧
      now.session.isSending = true ∧ now.pipes.outbound.queue = [] ∧ 0 < now.owed := by
  have ran : ((start ⟨1, 0⟩ 2 8 3 {}).run
      ([] ++ .notify .outbound .spaceAvailable :: [.submit [7, 8] 1, .take 0, .take 9])).any
        (fun now => now.session.isSending && now.pipes.outbound.queue.isEmpty) = true := by
    decide +kernel
  obtain ⟨now, went, holds⟩ := (Option.any_eq_true ..).mp ran
  obtain ⟨sending, empty⟩ := (Bool.and_eq_true ..).mp holds
  rw [List.isEmpty_iff] at empty
  have ahead := (wakeup_ahead ⟨1, 0⟩ 2 8 3 {} [] [.submit [7, 8] 1, .take 0, .take 9]).1 now went
  refine ⟨now, went, sending, empty, (ahead.2 sending).2.resolve_left ?_⟩
  exact fun marked => marked.1 empty

end Outlet

end Sightline
