import Sightline.Channel.Pipe
import Sightline.Channel.Streams

/-! A stream pair made of two pipes.

Every handle names the same pair: these surroundings hold one channel. Reads and writes never wait;
what the far side does to a pipe happens between them. -/

set_option autoImplicit false

namespace Sightline

structure PipePair where
  inbound : InboundPipe := {}
  outbound : OutboundPipe
  deriving DecidableEq, Repr

namespace PipePair

def read (pair : PipePair) (wanted : Nat) : Bytes × PipePair :=
  let (got, inbound) := pair.inbound.read wanted
  (got, { pair with inbound })

def write (pair : PipePair) (offered : Bytes) : Except String Nat × PipePair :=
  let (answer, outbound) := pair.outbound.write offered
  (answer, { pair with outbound })

def closeInbound (pair : PipePair) : PipePair := { pair with inbound := pair.inbound.close }

def closeOutbound (pair : PipePair) : PipePair := { pair with outbound := pair.outbound.close }

def feed (pair : PipePair) (bytes : Bytes) : Bool × PipePair :=
  let (taken, inbound) := pair.inbound.push bytes
  (taken, { pair with inbound })

def take (pair : PipePair) (most : Nat) : Taken × PipePair :=
  let (taken, outbound) := pair.outbound.take most
  (taken, { pair with outbound })

theorem length_le_of_read (pair : PipePair) (wanted : Nat) :
    (pair.read wanted).1.length ≤ wanted := by
  simp only [read, InboundPipe.read, List.length_take]
  exact Nat.min_le_left _ _

theorem held_of_read (pair : PipePair) (wanted : Nat) :
    (pair.read wanted).2.inbound.queue.length + (pair.read wanted).1.length
      = pair.inbound.queue.length := by
  simp only [read, InboundPipe.read, List.length_take, List.length_drop]
  omega

instance : Streams PipePair where
  available pair _ := pair.inbound.queue.length
  read pair _ wanted :=
    let (got, pair) := pair.read wanted
    (.ok got, pair)
  write pair _ offered := pair.write offered
  closeInbound pair _ := pair.closeInbound
  closeOutbound pair _ := pair.closeOutbound
  held pair _ := pair.inbound.queue.length
  length_le_of_read := by
    intro pair pair' handle wanted got h
    simp only [Prod.mk.injEq, Except.ok.injEq] at h
    obtain ⟨rfl, -⟩ := h
    exact length_le_of_read pair wanted
  held_of_read := by
    intro pair pair' handle wanted got h
    simp only [Prod.mk.injEq, Except.ok.injEq] at h
    obtain ⟨rfl, rfl⟩ := h
    exact Nat.le_of_eq (held_of_read pair wanted)

end PipePair

end Sightline
