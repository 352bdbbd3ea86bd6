import Sightline.Bytes

/-! The two byte streams of a channel, as everything on this side of the channel sees them.

Streams live in surroundings `ω` that this library does not describe: a source may serve fewer
bytes than asked, over-report what it holds or fail, and a sink may take fewer bytes than offered,
claim more than it was offered or fail. Only two things are promised, and only of sources: a read
never yields more than was asked, and what it yields is no longer held. -/

set_option autoImplicit false

namespace Sightline

/-- Names one stream pair in its surroundings. Two pairs never share a handle, even when they carry
the same channel number. -/
abbrev Handle := Nat

structure StreamPair where
  channel : Nat
  handle : Handle
  deriving DecidableEq, Repr

/-- Surroundings that hold byte streams. A failure is its reason in words. -/
class Streams (ω : Type) where
  available : ω → Handle → Nat
  /-- Takes up to the given number of bytes from the source; none means nothing is there now. -/
  read : ω → Handle → Nat → Except String Bytes × ω
  /-- Offers bytes to the sink, which answers how many it took. -/
  write : ω → Handle → Bytes → Except String Nat × ω
  closeInbound : ω → Handle → ω
  closeOutbound : ω → Handle → ω
  /-- A bound on the bytes that the source can still yield before it is fed again. -/
  held : ω → Handle → Nat
  length_le_of_read : ∀ {w w' : ω} {h : Handle} {wanted : Nat} {got : Bytes},
    read w h wanted = (.ok got, w') → got.length ≤ wanted
  held_of_read : ∀ {w w' : ω} {h : Handle} {wanted : Nat} {got : Bytes},
    read w h wanted = (.ok got, w') → held w' h + got.length ≤ held w h

inductive StreamCall where
  | read (wanted : Nat) (answer : Except String Bytes)
  | write (offered : Bytes) (answer : Except String Nat)
  | closeInbound
  | closeOutbound

/-- The bytes that a sink took in one use: the front of what was offered, as long as it answered
but never longer than offered. -/
def StreamCall.accepted : StreamCall → Bytes
  | .write offered (.ok count) => offered.take count
  | _ => []

def StreamCall.received : StreamCall → Bytes
  | .read _ (.ok got) => got
  | _ => []

inductive Direction where
  | inbound
  | outbound
  deriving DecidableEq, Repr

def Direction.name : Direction → String
  | .inbound => "Input"
  | .outbound => "Output"

/-- What a stream notifies its owner of; each is told once, when it comes to hold. -/
inductive StreamNews where
  | opened
  | bytesAvailable
  | spaceAvailable
  | failed (reason : String)
  | ended
  deriving DecidableEq, Repr

structure StreamEvent where
  channel : Nat
  direction : Direction
  news : StreamNews
  deriving DecidableEq, Repr

def StreamPair.describe {ω : Type} [Streams ω] (pair : StreamPair) (w : ω) : String :=
  "ChannelStreams \x7b channel: " ++ toString pair.channel ++ ", inbound_available: "
    ++ toString (Streams.available w pair.handle) ++ ", .. \x7d"

end Sightline
