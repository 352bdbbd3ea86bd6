import Sightline.Frame.Incoming
import Sightline.Frame.Outgoing

/-! A session: one opened channel and the frames that move over it.

A session receives any number of frames and sends one at a time. Each operation gives the session
and the surroundings it leaves, and its notes: every use of the streams and every sending that came
to its end, in order. A submission that is accepted is told exactly once how it ended. -/

set_option autoImplicit false

namespace Sightline

/-- One opened channel. It is usable once both of its streams have reported open. -/
structure Session where
  pair : StreamPair
  mtu : Nat
  /-- The outbound stream has room, as far as is known. -/
  writable : Bool := false
  inboundOpen : Bool := false
  outboundOpen : Bool := false
  incoming : Incoming
  outgoing : Option Outgoing := none
  deriving DecidableEq, Repr

namespace Session

inductive Note where
  | call (call : StreamCall)
  | completed (tag : Tag) (result : SendResult)
  /-- A chunk's end did not fit a machine word; the program cannot go on. -/
  | overflow
  /-- No buffer could be had for a chunk; the program cannot go on. It has read nothing: the notes and
  the session that follow are those of a program with room for such a chunk. -/
  | unbuffered

structure Turn (ω : Type) where
  session : Session
  world : ω
  notes : Array Note

inductive Outcome where
  | nothing
  | opened
  | frames (frames : List Bytes)
  | terminated (error : ChannelError)
  deriving Repr

def start (pair : StreamPair) (mtu limit : Nat) : Session :=
  { pair, mtu := max mtu 1, incoming := { limit } }

def isOpen (session : Session) : Bool := session.inboundOpen && session.outboundOpen

def isSending (session : Session) : Bool := session.outgoing.isSome

variable {ω : Type} [Streams ω]

def receive (session : Session) (world : ω) : Except ChannelError (List Bytes) × Turn ω :=
  let drained := session.incoming.drain session.pair.handle session.mtu world
  let calls := drained.calls.map Note.call
  (drained.frames,
    ⟨{ session with incoming := drained.incoming }, drained.world,
      if session.mtu ≤ Bytes.bufferLimit then calls else #[.unbuffered] ++ calls⟩)

def pump (session : Session) (world : ω) : Turn ω :=
  match session.outgoing with
  | none => ⟨session, world, #[]⟩
  | some outgoing =>
    let pumped := outgoing.pump session.pair.handle session.mtu session.writable world
    let calls := pumped.calls.map Note.call
    let session := { session with writable := pumped.writable }
    match pumped.outcome with
    | .blocked =>
      ⟨{ session with outgoing := some { outgoing with offset := pumped.offset } },
        pumped.world, calls⟩
    | .complete =>
      ⟨{ session with outgoing := none }, pumped.world,
        calls.push (.completed outgoing.tag (.ok ()))⟩
    | .failed reason =>
      ⟨{ session with outgoing := none }, pumped.world,
        calls.push (.completed outgoing.tag (.error (.write reason)))⟩
    | .overflow =>
      ⟨{ session with outgoing := some { outgoing with offset := pumped.offset } },
        pumped.world, calls.push .overflow⟩

def resume (session : Session) (world : ω) : Turn ω :=
  { session with writable := true }.pump world

def submit (session : Session) (payload : Bytes) (tag : Tag) (world : ω) :
    Except SendError Unit × Turn ω :=
  if session.isSending then (.error .inFlight, ⟨session, world, #[]⟩)
  else
    match Outgoing.start payload tag with
    | .error refusal => (.error refusal, ⟨session, world, #[]⟩)
    | .ok outgoing => (.ok (), { session with outgoing := some outgoing }.pump world)

def handle (session : Session) (event : StreamEvent) (world : ω) : Outcome × Turn ω :=
  if event.channel ≠ session.pair.channel then (.nothing, ⟨session, world, #[]⟩)
  else
    match event.news, event.direction with
    | .opened, direction =>
      let opened := match direction with
        | .inbound => { session with inboundOpen := true }
        | .outbound => { session with outboundOpen := true }
      (if !session.isOpen && opened.isOpen then .opened else .nothing, ⟨opened, world, #[]⟩)
    | .bytesAvailable, .inbound =>
      let (received, turn) := session.receive world
      match received with
      | .ok [] => (.nothing, turn)
      | .ok (frame :: more) => (.frames (frame :: more), turn)
      | .error error => (.terminated error, turn)
    | .bytesAvailable, .outbound => (.nothing, ⟨session, world, #[]⟩)
    | .spaceAvailable, .outbound => (.nothing, session.resume world)
    | .spaceAvailable, .inbound => (.nothing, ⟨session, world, #[]⟩)
    | .failed reason, _ => (.terminated (.stream reason), ⟨session, world, #[]⟩)
    | .ended, _ => (.terminated .endOfStream, ⟨session, world, #[]⟩)

def abandoned (session : Session) : Array Note :=
  match session.outgoing with
  | none => #[]
  | some outgoing => #[.completed outgoing.tag (.error .sessionClosed)]

def close (session : Session) (world : ω) : ω × Array Note :=
  let world := Streams.closeInbound world session.pair.handle
  let world := Streams.closeOutbound world session.pair.handle
  (world, #[.call .closeInbound, .call .closeOutbound] ++ session.abandoned)

end Session

end Sightline
