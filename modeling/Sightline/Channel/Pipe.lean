import Sightline.Bytes

/-! Buffered pipes between a session and the task that serves the radio's channel.

The session reads and writes its side without waiting. On the far side a feeder pushes received
bytes into the inbound pipe, and a drain takes bytes to be sent out of the outbound pipe, waiting
for a wake-up when there are none. At most one wake-up is stored. -/

set_option autoImplicit false

namespace Sightline

structure InboundPipe where
  queue : Bytes := []
  closed : Bool := false
  deriving DecidableEq, Repr

namespace InboundPipe

def push (pipe : InboundPipe) (bytes : Bytes) : Bool × InboundPipe :=
  if pipe.closed then (false, pipe) else (true, { pipe with queue := pipe.queue ++ bytes })

def read (pipe : InboundPipe) (wanted : Nat) : Bytes × InboundPipe :=
  (pipe.queue.take wanted, { pipe with queue := pipe.queue.drop wanted })

def close (_ : InboundPipe) : InboundPipe := { queue := [], closed := true }

end InboundPipe

structure OutboundPipe where
  queue : Bytes := []
  /-- The pipe never holds more than this. -/
  capacity : Nat
  closed : Bool := false
  /-- A write fell short since the last take that made room. -/
  blocked : Bool := false
  /-- A wake-up is stored for the drain. -/
  signalled : Bool := false
  deriving DecidableEq, Repr

structure Taken where
  bytes : Bytes
  /-- The session had run into a full pipe and now has room again. -/
  spaceFreed : Bool
  deriving DecidableEq, Repr

namespace OutboundPipe

def ofCapacity (capacity : Nat) : OutboundPipe := { capacity := max capacity 1 }

/-- A pipe as a program makes it: its buffer is asked for at once, and without one there is no pipe. -/
def ofCapacity? (capacity : Nat) : Option OutboundPipe :=
  if capacity ≤ Bytes.bufferLimit then some (ofCapacity capacity) else none

def closedReason : String := "outbound stream closed"

def write (pipe : OutboundPipe) (bytes : Bytes) : Except String Nat × OutboundPipe :=
  if pipe.closed then (.error closedReason, pipe)
  else
    let accepted := bytes.take (pipe.capacity - pipe.queue.length)
    (.ok accepted.length,
      { pipe with
        queue := pipe.queue ++ accepted
        blocked := pipe.blocked || accepted.length < bytes.length
        signalled := pipe.signalled || !accepted.isEmpty })

def close (pipe : OutboundPipe) : OutboundPipe :=
  { pipe with closed := true, signalled := true }

def take (pipe : OutboundPipe) (most : Nat) : Taken × OutboundPipe :=
  let bytes := pipe.queue.take most
  let spaceFreed := pipe.blocked && !bytes.isEmpty
  (⟨bytes, spaceFreed⟩,
    { pipe with queue := pipe.queue.drop most, blocked := pipe.blocked && !spaceFreed })

/-- Uses up the stored wake-up; without one the drain has to wait. -/
def awaken (pipe : OutboundPipe) : Bool × OutboundPipe :=
  (pipe.signalled, { pipe with signalled := false })

def takeAwake (pipe : OutboundPipe) : Option Taken × OutboundPipe :=
  let (ready, pipe) := pipe.awaken
  if ready then
    let (taken, pipe) := pipe.take pipe.queue.length
    (some taken, pipe)
  else (none, pipe)

end OutboundPipe

end Sightline
