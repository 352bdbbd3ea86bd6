import Sightline.Proofs.Channel.Piped

/-! Two sessions with pipes between them.

A transfer is a sending session over one pipe, a receiving session over another, and whatever carries
bytes from the first pipe to the second. Its moves come in any order and cut the bytes anywhere. At
every moment, what the receiver has given, has in hand and has still to come is the stream of the
payloads that were accepted (`Sound.ahead`); nothing else is ever under way. -/

set_option autoImplicit false

namespace Sightline

/-- A sender and a receiver, and the bytes between their pipes. -/
structure Transfer where
  sender : Session
  near : PipePair
  /-- Bytes taken out of the near pipe and not yet pushed into the far one. -/
  wire : Bytes := []
  receiver : Session
  far : PipePair
  /-- Payloads whose submission was accepted, in order. -/
  accepted : List Bytes := []
  delivered : List Bytes := []
  errors : List ChannelError := []

namespace Transfer

inductive Move where
  | submit (payload : Bytes) (tag : Tag)
  /-- The far side of the near pipe takes up to so many bytes. -/
  | take (most : Nat)
  /-- The sender is told that there is room, whether or not there is. -/
  | spaceAvailable
  /-- Up to so many of the bytes that were taken are pushed into the far pipe. -/
  | push (count : Nat)
  /-- The receiver is told that there are bytes, whether or not there are. -/
  | bytesAvailable
  | openedNear (direction : Direction)
  | openedFar (direction : Direction)
  deriving DecidableEq, Repr

/-- New sessions over pipes with nothing in them. The halves that take no part hold anything. -/
def start (near far : StreamPair) (nearMtu farMtu nearLimit limit capacity : Nat)
    (inbound : InboundPipe) (outbound : OutboundPipe) : Transfer where
  sender := .start near nearMtu nearLimit
  near := { inbound, outbound := .ofCapacity capacity }
  receiver := .start far farMtu limit
  far := { inbound := {}, outbound }

def notifySender (transfer : Transfer) (direction : Direction) (news : StreamNews) : Transfer :=
  let event := ⟨transfer.sender.pair.channel, direction, news⟩
  let turn := (transfer.sender.handle event transfer.near).2
  { transfer with sender := turn.session, near := turn.world }

def notifyReceiver (transfer : Transfer) (direction : Direction) (news : StreamNews) : Transfer :=
  let event := ⟨transfer.receiver.pair.channel, direction, news⟩
  let (outcome, turn) := transfer.receiver.handle event transfer.far
  { transfer with
    receiver := turn.session
    far := turn.world
    delivered := transfer.delivered ++ outcome.received
    errors := transfer.errors ++ outcome.failure?.toList }

def step (transfer : Transfer) : Move → Transfer
  | .submit payload tag =>
    let (answer, turn) := transfer.sender.submit payload tag transfer.near
    { transfer with
      sender := turn.session
      near := turn.world
      accepted := match answer with
        | .ok () => transfer.accepted ++ [payload]
        | .error _ => transfer.accepted }
  | .take most =>
    let (taken, near) := transfer.near.take most
    { transfer with near, wire := transfer.wire ++ taken.bytes }
  | .spaceAvailable => transfer.notifySender .outbound .spaceAvailable
  | .push count =>
    { transfer with
      far := (transfer.far.feed (transfer.wire.take count)).2
      wire := transfer.wire.drop count }
  | .bytesAvailable => transfer.notifyReceiver .inbound .bytesAvailable
  | .openedNear direction => transfer.notifySender direction .opened
  | .openedFar direction => transfer.notifyReceiver direction .opened

def run (transfer : Transfer) (moves : List Move) : Transfer := moves.foldl step transfer

/-- Every byte between the receiver's buffer and the end of the frame under way, in order. -/
def underway (transfer : Transfer) : Bytes :=
  transfer.receiver.incoming.heard ++ (transfer.far.inbound.queue ++ (transfer.wire
    ++ (transfer.near.outbound.queue ++ transfer.sender.unsent)))

structure Sound (limit : Nat) (transfer : Transfer) : Prop where
  /-- What is under way is the stream of the payloads accepted and not yet delivered. -/
  ahead : ∃ waiting, transfer.accepted = transfer.delivered ++ waiting ∧
    transfer.underway = Frame.stream waiting
  fits : ∀ payload ∈ transfer.accepted, Frame.Fits limit payload
  formed : transfer.receiver.incoming.Formed
  limited : transfer.receiver.incoming.limit = limit
  unfinished : ∀ o ∈ transfer.sender.outgoing, o.Unfinished
  nearOpened : transfer.near.outbound.closed = false
  farOpened : transfer.far.inbound.closed = false
  errors : transfer.errors = []

theorem sound_start (near far : StreamPair) (nearMtu farMtu nearLimit limit capacity : Nat)
    (inbound : InboundPipe) (outbound : OutboundPipe) :
    (start near far nearMtu farMtu nearLimit limit capacity inbound outbound).Sound limit where
  ahead := ⟨[], rfl, rfl⟩
  fits := by simp [start]
  formed := ⟨fun _ => rfl, fun _ same => by cases same⟩
  limited := rfl
  unfinished := by simp [start, Session.start]
  nearOpened := rfl
  farOpened := rfl
  errors := rfl

variable {transfer : Transfer} {limit : Nat}

theorem Sound.pump (sound : transfer.Sound limit) :
    Sound limit { transfer with
      sender := (transfer.sender.pump transfer.near).session
      near := (transfer.sender.pump transfer.near).world } := by
  obtain ⟨still, unfinished, moved⟩ :=
    transfer.sender.pump_piped transfer.near sound.nearOpened sound.unfinished
  refine { sound with unfinished, nearOpened := still, ahead := ?_ }
  simpa only [underway, moved] using sound.ahead

theorem Sound.begun (sound : transfer.Sound limit) {payload : Bytes} (tag : Tag)
    (idle : transfer.sender.outgoing = none) (fits : Frame.Fits limit payload) :
    Sound limit { transfer with
      sender := { transfer.sender with outgoing := some (Session.begun payload tag) }
      accepted := transfer.accepted ++ [payload] } := by
  obtain ⟨waiting, accepted, ahead⟩ := sound.ahead
  refine { sound with ahead := ⟨waiting ++ [payload], ?_, ?_⟩, fits := ?_, unfinished := ?_ }
  · simp [accepted]
  · -- Nothing was being sent, so the new frame comes after everything that is under way.
    simp only [underway, Session.unsent, idle, Option.elim_none, List.append_nil] at ahead
    simp [underway, Session.unsent, ← ahead, Session.begun, Outgoing.left]
  · intro other member
    rcases List.mem_append.mp member with before | new
    · exact sound.fits other before
    · rwa [List.mem_singleton.mp new]
  · rintro _ ⟨rfl⟩
    exact Session.begun_unfinished payload tag

theorem Sound.submit (sound : transfer.Sound limit) {payload : Bytes} (tag : Tag)
    (allowed : payload.length ≤ limit) : (transfer.step (.submit payload tag)).Sound limit := by
  rcases transfer.sender.submit_cases payload tag transfer.near with
    ⟨answer, idle, short, turn⟩ | ⟨refusal, -, refused⟩
  · have next := (sound.begun tag idle ⟨allowed, short⟩).pump
    simpa only [step, answer, turn] using next
  · simpa only [step, refused] using sound

theorem Sound.resume (sound : transfer.Sound limit) :
    (transfer.step .spaceAvailable).Sound limit := by
  have marked : Sound limit { transfer with sender := { transfer.sender with writable := true } } :=
    { sound with }
  simpa [step, notifySender, Session.handle, Session.resume] using marked.pump

theorem cut_append (bytes tail : Bytes) (count : Nat) :
    bytes.take count ++ (bytes.drop count ++ tail) = bytes ++ tail := by
  rw [← List.append_assoc, List.take_append_drop]

theorem Sound.take (sound : transfer.Sound limit) (most : Nat) :
    (transfer.step (.take most)).Sound limit := by
  obtain ⟨waiting, accepted, ahead⟩ := sound.ahead
  refine { sound with ahead := ⟨waiting, accepted, ?_⟩ }
  rw [← ahead]
  simp [step, underway, PipePair.take, OutboundPipe.take, cut_append]

theorem Sound.push (sound : transfer.Sound limit) (count : Nat) :
    (transfer.step (.push count)).Sound limit := by
  obtain ⟨waiting, accepted, ahead⟩ := sound.ahead
  have fed : transfer.far.feed (transfer.wire.take count) = (true, { transfer.far with
      inbound := { transfer.far.inbound with
        queue := transfer.far.inbound.queue ++ transfer.wire.take count } }) := by
    simp [PipePair.feed, InboundPipe.push, sound.farOpened]
  refine { sound with ahead := ⟨waiting, accepted, ?_⟩, farOpened := ?_ }
  · rw [← ahead]
    simp [step, underway, fed, cut_append]
  · simp [step, fed, sound.farOpened]

theorem Sound.receive (sound : transfer.Sound limit) :
    (transfer.step .bytesAvailable).Sound limit ∧
      (transfer.step .bytesAvailable).receiver.incoming.Starved
        (transfer.step .bytesAvailable).far.inbound.queue := by
  obtain ⟨waiting, accepted, ahead⟩ := sound.ahead
  have fits : ∀ payload ∈ waiting, Frame.Fits limit payload := by
    intro payload member
    exact sound.fits payload (by simp [accepted, member])
  obtain ⟨done, left, rfl, frames, formed, limited, rest, starved⟩ :=
    transfer.receiver.incoming.drain_piped transfer.receiver.pair.handle transfer.receiver.mtu
      sound.formed sound.limited fits ahead
  have farOpened : (transfer.receiver.incoming.drain transfer.receiver.pair.handle
      transfer.receiver.mtu transfer.far).world.inbound.closed = false :=
    Incoming.drain_keeps (fun pair : PipePair => pair.inbound.closed = false)
      (fun _ _ before => before) _ _ sound.farOpened
  -- The drain did not fail, so all that the notification does is deliver its frames.
  have handled : transfer.step .bytesAvailable = { transfer with
      receiver := (transfer.receiver.receive transfer.far).2.session
      far := (transfer.receiver.receive transfer.far).2.world
      delivered := transfer.delivered ++ done } := by
    have received : (transfer.receiver.receive transfer.far).1 = .ok done := by
      simpa [Session.receive] using frames
    simp [step, notifyReceiver, Session.handle_received received]
  rw [handled]
  refine ⟨{ sound with ahead := ⟨left, ?_, rest⟩, formed, limited, farOpened }, starved⟩
  simp [accepted]

theorem Sound.openedNear (sound : transfer.Sound limit) (direction : Direction) :
    (transfer.step (.openedNear direction)).Sound limit := by
  -- A report that a stream is open moves no byte; the other ways to handle a notification are those of
  -- other news.
  simp only [step, notifySender]
  have handles := transfer.sender.handles
    ⟨transfer.sender.pair.channel, direction, .opened⟩ transfer.near
  generalize transfer.sender.handle _ transfer.near = handled at handles ⊢
  obtain ⟨outcome, turn⟩ := handled
  cases handles with
  | ignored | opened | reported => exact { sound with }
  | received news | broken news | resumed news => cases news
  | ended news => simp at news

theorem Sound.openedFar (sound : transfer.Sound limit) (direction : Direction) :
    (transfer.step (.openedFar direction)).Sound limit := by
  simp only [step, notifyReceiver]
  have handles := transfer.receiver.handles
    ⟨transfer.receiver.pair.channel, direction, .opened⟩ transfer.far
  generalize transfer.receiver.handle _ transfer.far = handled at handles ⊢
  obtain ⟨outcome, turn⟩ := handled
  cases handles with
  | ignored | opened | reported =>
    simp only [Session.Outcome.received, Session.Outcome.failure?, Option.toList_none,
      List.append_nil]
    exact { sound with }
  | received news | broken news | resumed news => cases news
  | ended news => simp at news

theorem Sound.step (sound : transfer.Sound limit) {move : Move}
    (allowed : ∀ payload tag, move = .submit payload tag → payload.length ≤ limit) :
    (transfer.step move).Sound limit := by
  cases move with
  | submit payload tag => exact sound.submit tag (allowed payload tag rfl)
  | take most => exact sound.take most
  | spaceAvailable => exact sound.resume
  | push count => exact sound.push count
  | bytesAvailable => exact sound.receive.1
  | openedNear direction => exact sound.openedNear direction
  | openedFar direction => exact sound.openedFar direction

theorem Sound.run (sound : transfer.Sound limit) {moves : List Move}
    (allowed : ∀ payload tag, .submit payload tag ∈ moves → payload.length ≤ limit) :
    (transfer.run moves).Sound limit := by
  induction moves generalizing transfer with
  | nil => exact sound
  | cons move moves ih =>
    refine ih (sound.step ?_) ?_
    · rintro payload tag rfl
      exact allowed payload tag (by simp)
    · intro payload tag member
      exact allowed payload tag (List.mem_cons_of_mem _ member)

theorem step_refused (transfer : Transfer) {payload : Bytes} {tag : Tag} {refusal : SendError}
    (refused : (transfer.sender.submit payload tag transfer.near).1 = .error refusal) :
    transfer.step (.submit payload tag) = transfer := by
  rcases transfer.sender.submit_cases payload tag transfer.near with
    ⟨answer, -⟩ | ⟨other, -, same⟩
  · rw [answer] at refused
    cases refused
  · simp only [Transfer.step, same]

/-- Nothing is on its way to the receiver: no frame is being sent, the near pipe is empty, and all that
was taken out of it has been pushed. -/
def Settled (transfer : Transfer) : Prop :=
  transfer.sender.isSending = false ∧ transfer.near.outbound.queue = [] ∧ transfer.wire = []

/-- The receiver is between two frames, and nothing waits for it. -/
def Idle (transfer : Transfer) : Prop :=
  transfer.receiver.incoming.expected = none ∧ transfer.receiver.incoming.buffer = #[] ∧
    transfer.far.inbound.queue = []

theorem Sound.settled (sound : transfer.Sound limit) (settled : transfer.Settled) :
    (transfer.step .bytesAvailable).delivered = transfer.accepted ∧
      (transfer.step .bytesAvailable).Idle := by
  obtain ⟨unsending, empty, pushed⟩ := settled
  obtain ⟨after, starved⟩ := sound.receive
  obtain ⟨waiting, accepted, ahead⟩ := after.ahead
  have unsent : transfer.sender.unsent = [] := by
    simp only [Session.isSending, Option.isSome_eq_false_iff, Option.isNone_iff_eq_none] at unsending
    simp [Session.unsent, unsending]
  -- A notification of the receiver leaves the sender's side alone.
  have same : (transfer.step .bytesAvailable).near = transfer.near ∧
      (transfer.step .bytesAvailable).wire = transfer.wire ∧
      (transfer.step .bytesAvailable).sender = transfer.sender ∧
      (transfer.step .bytesAvailable).accepted = transfer.accepted := ⟨rfl, rfl, rfl, rfl⟩
  simp only [underway, same, empty, pushed, unsent, List.append_nil] at ahead accepted
  have fits : ∀ payload ∈ waiting, Frame.Fits limit payload := by
    intro payload member
    exact sound.fits payload (by simp [accepted, member])
  obtain ⟨rfl, expected, buffer, queue⟩ :=
    Incoming.idle_of_starved after.formed starved fits ahead
  refine ⟨?_, expected, buffer, queue⟩
  rw [accepted, List.append_nil]

/-- Nothing is lost, repeated, put out of order or made up, however the moves are ordered and wherever
they cut the bytes. At every moment the frames delivered are the first of those accepted, what is under
way is the stream of the others and no byte more, and the receiver has not failed; and once nothing is
on its way, one more notification brings all that was accepted and leaves the receiver idle. -/
theorem transfer_lossless (near far : StreamPair) (nearMtu farMtu nearLimit limit capacity : Nat)
    (inbound : InboundPipe) (outbound : OutboundPipe) (moves : List Move)
    (allowed : ∀ payload tag, .submit payload tag ∈ moves → payload.length ≤ limit) :
    let now := (start near far nearMtu farMtu nearLimit limit capacity inbound outbound).run moves
    (∃ waiting, now.accepted = now.delivered ++ waiting ∧ now.underway = Frame.stream waiting) ∧
      now.errors = [] ∧
      (∀ payload tag refusal, (now.sender.submit payload tag now.near).1 = .error refusal →
        now.step (.submit payload tag) = now) ∧
      (now.Settled → (now.step .bytesAvailable).delivered = now.accepted ∧
        (now.step .bytesAvailable).errors = [] ∧ (now.step .bytesAvailable).Idle) := by
  intro now
  have sound : now.Sound limit :=
    (sound_start near far nearMtu farMtu nearLimit limit capacity inbound outbound).run allowed
  refine ⟨sound.ahead, sound.errors, fun _ _ _ refused => now.step_refused refused, ?_⟩
  intro settled
  obtain ⟨delivered, idle⟩ := sound.settled settled
  exact ⟨delivered, sound.receive.1.errors, idle⟩

/-- A frame that goes in two writes and two pushes, and a submission that came too early. -/
theorem transfer_lossless_split :
    let now := (start ⟨1, 0⟩ ⟨2, 0⟩ 2 5 100 8 5 {} (.ofCapacity 0)).run
      [.submit [7, 8] 1, .spaceAvailable, .submit [9] 2, .take 4, .push 3, .bytesAvailable,
        .spaceAvailable, .take 9, .push 9]
    now.delivered = [] ∧ now.Settled ∧ (now.step .bytesAvailable).delivered = [[7, 8]] := by
  intro now
  have before : now.delivered = [] := by decide +kernel
  have accepted : now.accepted = [[7, 8]] := by decide +kernel
  have settled : now.Settled := by
    unfold Settled
    decide +kernel
  obtain ⟨-, -, -, final⟩ := transfer_lossless ⟨1, 0⟩ ⟨2, 0⟩ 2 5 100 8 5 {} (.ofCapacity 0)
    [.submit [7, 8] 1, .spaceAvailable, .submit [9] 2, .take 4, .push 3, .bytesAvailable,
      .spaceAvailable, .take 9, .push 9] (by
    intro payload tag member
    simp at member
    rcases member with ⟨rfl, -⟩ | ⟨rfl, -⟩ <;> decide)
  exact ⟨before, settled, (final settled).1.trans accepted⟩

end Transfer

end Sightline
