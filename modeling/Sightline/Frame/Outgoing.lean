import Sightline.Frame
import Sightline.Channel.Streams

/-! The one frame being sent.

`Outgoing.pump` writes it in chunks while the sink takes each chunk whole; a short write means that
the sink is full, and sending goes on when it has room again. -/

set_option autoImplicit false

namespace Sightline

/-- Names the submission that a frame came from, for telling how its sending ended. -/
abbrev Tag := Nat

structure Outgoing where
  tag : Tag
  frame : Bytes
  offset : Nat := 0
  deriving DecidableEq, Repr

inductive PumpOutcome where
  | complete
  | blocked
  | failed (reason : String)
  /-- The end of the next chunk, counted from the start of the frame, does not fit a machine word;
  nothing is written and the program cannot go on. -/
  | overflow
  deriving DecidableEq, Repr

structure Pumped (ω : Type) where
  offset : Nat
  writable : Bool
  world : ω
  outcome : PumpOutcome
  calls : Array StreamCall

namespace Outgoing

def machineLimit : Nat := 18446744073709551616

def start (payload : Bytes) (tag : Tag) : Except SendError Outgoing :=
  (Frame.encode payload).map fun frame => { tag, frame }

def isComplete (outgoing : Outgoing) : Bool := outgoing.offset == outgoing.frame.length

variable {ω : Type} [Streams ω]

def pumpFrom (handle : Handle) (chunk : Nat) (rest : Bytes) (offset : Nat) (world : ω)
    (calls : Array StreamCall) : Pumped ω :=
  match rest with
  | [] => ⟨offset, true, world, .complete, calls⟩
  | byte :: more =>
    if machineLimit ≤ offset + max chunk 1 then ⟨offset, true, world, .overflow, calls⟩
    else
      let offered := (byte :: more).take (max chunk 1)
      match Streams.write world handle offered with
      | (.error reason, world') =>
        ⟨offset, true, world', .failed reason, calls.push (.write offered (.error reason))⟩
      | (.ok count, world') =>
        let calls := calls.push (.write offered (.ok count))
        if count < offered.length then ⟨offset + count, false, world', .blocked, calls⟩
        else
          pumpFrom handle chunk ((byte :: more).drop offered.length) (offset + offered.length)
            world' calls
termination_by rest.length
decreasing_by
  simp only [List.length_drop, List.length_cons, List.length_take]
  omega

/-- Writes as much of the frame as a sink with room takes, at most `mtu` bytes at a time; a chunk
size of zero counts as one. -/
def pump (outgoing : Outgoing) (handle : Handle) (mtu : Nat) (writable : Bool) (world : ω) :
    Pumped ω :=
  if writable then
    pumpFrom handle mtu (outgoing.frame.drop outgoing.offset) outgoing.offset world #[]
  else
    ⟨outgoing.offset, false, world, if outgoing.isComplete then .complete else .blocked, #[]⟩

end Outgoing

end Sightline
