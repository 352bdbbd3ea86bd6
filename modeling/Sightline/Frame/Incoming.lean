import Sightline.Frame
import Sightline.Channel.Streams

/-! The frame being received, collected piece by piece as the source serves it.

`Incoming.drain` takes what the source has now and gives the frames that became whole. A header is
read only when all of it is there; payload is read in chunks and never past the frame's end. It
repeats `Incoming.step`, one use of the source or one frame completed at a time; every step but the
last brings the end closer (`toGo_of_step`). -/

set_option autoImplicit false

namespace Sightline

structure Incoming where
  /-- Payloads longer than this are refused. -/
  limit : Nat
  expected : Option Nat := none
  buffer : Array UInt8 := #[]
  deriving DecidableEq, Repr

namespace Incoming

def reset (incoming : Incoming) : Incoming :=
  { incoming with expected := none, buffer := #[] }

inductive Step (ω : Type) where
  | next (incoming : Incoming) (world : ω) (call : Option StreamCall) (frame : Option Bytes)
  /-- The source has no more to give now. -/
  | rest (incoming : Incoming) (world : ω) (call : Option StreamCall)
  | failed (incoming : Incoming) (world : ω) (call : StreamCall) (error : ChannelError)

variable {ω : Type} [Streams ω]

/-- Takes four bytes of header. A failed read leaves the state alone; too few bytes and a length
beyond the limit forget the current frame. -/
def readHeader (incoming : Incoming) (handle : Handle) (world : ω) : Step ω :=
  match Streams.read world handle Frame.headerLength with
  | (.error reason, world') =>
    .failed incoming world' (.read Frame.headerLength (.error reason)) (.read reason)
  | (.ok [a, b, c, d], world') =>
    let call := StreamCall.read Frame.headerLength (.ok [a, b, c, d])
    let length := Frame.announced a b c d
    if incoming.limit < length then
      .failed incoming.reset world' call (.frameTooLarge length incoming.limit)
    else
      .next { incoming with expected := some length, buffer := #[] } world' (some call) none
  | (.ok got, world') =>
    .failed incoming.reset world' (.read Frame.headerLength (.ok got)) (.shortHeader got.length)

def finish (incoming : Incoming) (length : Nat) : Incoming × Bytes :=
  (incoming.reset, incoming.buffer.toList.take length)

def readPayload (incoming : Incoming) (handle : Handle) (chunk length : Nat) (world : ω) : Step ω :=
  let wanted := min (length - incoming.buffer.size) chunk
  match Streams.read world handle wanted with
  | (.error reason, world') =>
    .failed incoming world' (.read wanted (.error reason)) (.read reason)
  | (.ok [], world') => .rest incoming world' (some (.read wanted (.ok [])))
  | (.ok (byte :: more), world') =>
    let call := StreamCall.read wanted (.ok (byte :: more))
    let filled := { incoming with buffer := incoming.buffer ++ (byte :: more) }
    if length ≤ filled.buffer.size then
      let (fresh, frame) := filled.finish length
      .next fresh world' (some call) (some frame)
    else .next filled world' (some call) none

def step (incoming : Incoming) (handle : Handle) (chunk : Nat) (world : ω) : Step ω :=
  match incoming.expected with
  | none =>
    if Streams.available world handle < Frame.headerLength then .rest incoming world none
    else incoming.readHeader handle world
  | some length =>
    if incoming.buffer.size < length then incoming.readPayload handle chunk length world
    else
      let (fresh, frame) := incoming.finish length
      .next fresh world none (some frame)

def toGo (incoming : Incoming) (handle : Handle) (world : ω) : Nat :=
  2 * Streams.held world handle + (if incoming.expected.isSome then 1 else 0)

theorem toGo_of_step {incoming incoming' : Incoming} {handle : Handle} {chunk : Nat}
    {world world' : ω} {call : Option StreamCall} {frame : Option Bytes}
    (h : incoming.step handle chunk world = .next incoming' world' call frame) :
    incoming'.toGo handle world' < incoming.toGo handle world := by
  -- A step that goes on has read at least one byte, save the end of an empty frame, which only
  -- gives up the header it had read.
  unfold step at h
  split at h
  · next waiting =>
    split at h
    · cases h
    · unfold readHeader at h
      split at h
      · cases h
      · next reading =>
        simp only at h
        split at h
        · cases h
        · cases h
          have := Streams.held_of_read reading
          simp only [toGo, waiting, List.length_cons, List.length_nil, Option.isSome_some,
            Option.isSome_none, if_true, Bool.false_eq_true, if_false] at this ⊢
          omega
      · cases h
  · next waiting =>
    split at h
    · unfold readPayload at h
      simp only at h
      split at h
      · cases h
      · cases h
      · next reading =>
        have := Streams.held_of_read reading
        split at h <;> cases h <;>
          simp only [toGo, finish, reset, waiting, List.length_cons, Option.isSome_some,
            Option.isSome_none, if_true, Bool.false_eq_true, if_false] at this ⊢ <;>
          omega
    · cases h
      simp [toGo, reset, waiting]

end Incoming

/-- What one drain did: the state left, the surroundings, the frames or the failure, and every
use of the source in order. Frames that were whole before a failure are lost with it. -/
structure Drained (ω : Type) where
  incoming : Incoming
  world : ω
  frames : Except ChannelError (List Bytes)
  calls : Array StreamCall

namespace Incoming

variable {ω : Type} [Streams ω]

def drainFrom (incoming : Incoming) (handle : Handle) (chunk : Nat) (world : ω)
    (frames : Array Bytes) (calls : Array StreamCall) : Drained ω :=
  match h : incoming.step handle chunk world with
  | .next incoming' world' call frame =>
    have := toGo_of_step h
    drainFrom incoming' handle chunk world' (frames ++ frame.toArray) (calls ++ call.toArray)
  | .rest incoming' world' call =>
    ⟨incoming', world', .ok frames.toList, calls ++ call.toArray⟩
  | .failed incoming' world' call error =>
    ⟨incoming', world', .error error, calls.push call⟩
termination_by incoming.toGo handle world

/-- Takes everything that the source holds now, in payload reads of at most `mtu` bytes; a chunk
size of zero counts as one. -/
def drain (incoming : Incoming) (handle : Handle) (mtu : Nat) (world : ω) : Drained ω :=
  drainFrom incoming handle (max mtu 1) world #[] #[]

/-- A drain as a program makes it: it asks for a buffer of the chunk's size first, and ends with nothing
read if none can be had. -/
def drain? (incoming : Incoming) (handle : Handle) (mtu : Nat) (world : ω) : Option (Drained ω) :=
  if mtu ≤ Bytes.bufferLimit then some (incoming.drain handle mtu world) else none

end Incoming

end Sightline
