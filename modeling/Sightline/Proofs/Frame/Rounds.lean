import Sightline.Proofs.Frame.Parsing

/-! How far a drain can go.

A drain is some rounds, each of which is a step that goes on, and a last step (`Reaches`,
`drain_ends`). What every round keeps bounds it: the buffer never holds more than was announced, each
read brings something, and the measure of the drain gets smaller (`Kept`). A source is only taken to
keep its promises: it may serve less than it was asked, over-report or fail, and it may be another one
in each drain of a run (`Reception.Run`). A drain for whose chunk no buffer can be had reads nothing
and leaves the receiver as it was (`Incoming.drain?`). Main statement: whatever came before, the
receiver is in order between its uses, and a drain stays within its bounds (`drains_bounded`). -/

set_option autoImplicit false

namespace Sightline

open StreamCall (receivedBy receivedIn)

def StreamCall.ReadsAtMost (most : Nat) : StreamCall → Prop
  | .read wanted _ => wanted ≤ most
  | _ => False

/-- A drain under way, between two rounds: what has become of the receiver and its surroundings, and
the frames and uses of the source so far. -/
structure Draining (ω : Type) where
  incoming : Incoming
  world : ω
  frames : Array Bytes := #[]
  calls : Array StreamCall := #[]
  rounds : Nat := 0

namespace Draining

variable {ω : Type}

def goOn (draining : Draining ω) (incoming : Incoming) (world : ω) (call : Option StreamCall)
    (frame : Option Bytes) : Draining ω :=
  { incoming, world
    frames := draining.frames ++ frame.toArray
    calls := draining.calls ++ call.toArray
    rounds := draining.rounds + 1 }

def ended? (draining : Draining ω) : Incoming.Step ω → Option (Drained ω)
  | .next _ _ _ _ => none
  | .rest incoming world call =>
    some ⟨incoming, world, .ok draining.frames.toList, draining.calls ++ call.toArray⟩
  | .failed incoming world call error =>
    some ⟨incoming, world, .error error, draining.calls.push call⟩

variable [Streams ω]

def step (draining : Draining ω) (handle : Handle) (chunk : Nat) : Incoming.Step ω :=
  draining.incoming.step handle chunk draining.world

end Draining

namespace Incoming

variable {ω : Type} [Streams ω]

inductive Reaches (incoming : Incoming) (handle : Handle) (chunk : Nat) (world : ω) :
    Draining ω → Prop where
  | start : Reaches incoming handle chunk world { incoming, world }
  | round {draining : Draining ω} {incoming' : Incoming} {world' : ω} {call : Option StreamCall}
      {frame : Option Bytes} : Reaches incoming handle chunk world draining →
      draining.step handle chunk = .next incoming' world' call frame →
      Reaches incoming handle chunk world (draining.goOn incoming' world' call frame)

/-- A drain comes through some rounds to a last step, and that is all that it does. -/
theorem drain_ends (incoming : Incoming) (handle : Handle) (mtu : Nat) (world : ω) :
    ∃ last, incoming.Reaches handle (max mtu 1) world last ∧
      last.ended? (last.step handle (max mtu 1)) = some (incoming.drain handle mtu world) := by
  have goes : ∀ (now : Incoming) (there : ω) (frames : Array Bytes) (calls : Array StreamCall)
      (rounds : Nat), incoming.Reaches handle (max mtu 1) world ⟨now, there, frames, calls, rounds⟩ →
      ∃ last, incoming.Reaches handle (max mtu 1) world last ∧
        last.ended? (last.step handle (max mtu 1))
          = some (now.drainFrom handle (max mtu 1) there frames calls) := by
    intro now there frames calls rounds reached
    -- On the rounds still to come: they and those before them make up the drain.
    fun_induction drainFrom now handle (max mtu 1) there frames calls generalizing rounds with
    | case1 now there frames calls incoming' world' call frame stepping shorter ih =>
      exact ih (rounds + 1) (reached.round stepping)
    | case2 now there frames calls incoming' world' call stepping =>
      exact ⟨_, reached, by simp [Draining.step, stepping, Draining.ended?]⟩
    | case3 now there frames calls incoming' world' call error stepping =>
      exact ⟨_, reached, by simp [Draining.step, stepping, Draining.ended?]⟩
  exact goes incoming world #[] #[] 0 .start

/-! ### What a step does -/

/-- How a step fares: one that goes on and has read did not read in vain; the last one leaves the receiver
as it was, short of bytes and without having taken any, or new, if it is the header that was wrong. -/
def Step.Fares (incoming : Incoming) : Step ω → Prop
  | .next _ _ call _ => ∀ use ∈ call, use.received ≠ []
  | .rest incoming' _ call => incoming' = incoming ∧ receivedBy call = [] ∧ incoming.Starved []
  | .failed incoming' _ call (.read _) =>
    incoming' = incoming ∧ call.received = [] ∧ incoming.Starved []
  | .failed incoming' _ _ _ => incoming' = incoming.reset

theorem step_fares (incoming : Incoming) (handle : Handle) (chunk : Nat) (world : ω) :
    (incoming.step handle chunk world).Fares incoming := by
  unfold step
  split
  · next waiting =>
    have unheard : incoming.Starved [] := by simp [Starved, waiting, Frame.headerLength]
    split
    · exact ⟨rfl, rfl, unheard⟩
    · unfold readHeader
      split
      · exact ⟨rfl, rfl, unheard⟩
      · simp only
        split
        · exact rfl
        · simp [Step.Fares, StreamCall.received]
      · exact rfl
  · next length waiting =>
    split
    · next wanting =>
      have missing : incoming.Starved [] := by simp [Starved, waiting, wanting]
      unfold readPayload
      simp only
      split
      · exact ⟨rfl, rfl, missing⟩
      · exact ⟨rfl, rfl, missing⟩
      · split <;> simp [Step.Fares, StreamCall.received]
    · simp [Step.Fares]

/-- Each round uses up at least one byte of the source for every read that it makes. -/
theorem held_of_next {incoming incoming' : Incoming} {handle : Handle} {chunk : Nat}
    {world world' : ω} {call : Option StreamCall} {frame : Option Bytes}
    (h : incoming.step handle chunk world = .next incoming' world' call frame) :
    call.toArray.size + Streams.held world' handle ≤ Streams.held world handle := by
  have brought := step_fares incoming handle chunk world
  have reads := reads_of_step incoming handle chunk world
  simp only [h, Step.Fares, Step.world, Step.call?] at brought reads
  rcases reads with ⟨rfl, rfl⟩ | ⟨wanted, -, left, rfl⟩
  · simp
  · generalize reading : Streams.read world handle wanted = result at left brought
    obtain ⟨answer, world₁⟩ := result
    obtain rfl : world' = world₁ := left
    -- A step that goes on either read nothing at all or took a byte from the source.
    cases answer with
    | error reason => simp [StreamCall.received] at brought
    | ok got =>
      have some_got : 0 < got.length := by
        simpa [StreamCall.received, List.length_pos_iff] using brought
      have used := Streams.held_of_read reading
      simp only [Option.toArray_some, List.size_toArray, List.length_cons, List.length_nil]
      omega

/-! ### What a drain keeps -/

structure Kept (incoming : Incoming) (handle : Handle) (world : ω) (draining : Draining ω) :
    Prop where
  formed : draining.incoming.Formed
  limited : draining.incoming.limit = incoming.limit
  fits : ∀ payload ∈ draining.frames.toList, Frame.Fits incoming.limit payload
  heard : incoming.heard ++ receivedIn draining.calls
    = Frame.stream draining.frames.toList ++ draining.incoming.heard
  brought : draining.calls.size + Streams.held draining.world handle ≤ Streams.held world handle
  shorter : draining.rounds + draining.incoming.toGo handle draining.world
    ≤ incoming.toGo handle world

theorem Kept.start {incoming : Incoming} (formed : incoming.Formed) (handle : Handle) (world : ω) :
    Kept incoming handle world { incoming, world } where
  formed := formed
  limited := rfl
  fits := by simp
  heard := by simp
  brought := by simp
  shorter := by simp

theorem Kept.round {incoming incoming' : Incoming} {handle : Handle} {chunk : Nat}
    {world world' : ω} {draining : Draining ω} {call : Option StreamCall} {frame : Option Bytes}
    (kept : Kept incoming handle world draining)
    (stepping : draining.step handle chunk = .next incoming' world' call frame) :
    Kept incoming handle world (draining.goOn incoming' world' call frame) := by
  obtain ⟨formed, limited, fits, hears⟩ := hears_of_step kept.formed stepping
  have held := held_of_next stepping
  have shorter := toGo_of_step stepping
  refine ⟨formed, limited.trans kept.limited, ?_, ?_, ?_, ?_⟩
  · simp only [Draining.goOn, Array.toList_append]
    exact List.forall_mem_append.mpr ⟨kept.fits, by simpa [kept.limited] using fits⟩
  · simp only [Draining.goOn, Array.toList_append, Option.toList_toArray, Frame.stream_append,
      StreamCall.receivedIn_append]
    rw [← List.append_assoc, kept.heard, List.append_assoc, hears, List.append_assoc]
  · have before := kept.brought
    simp only [Draining.goOn, Array.size_append]
    omega
  · have before := kept.shorter
    simp only [Draining.goOn]
    omega

theorem Reaches.kept {incoming : Incoming} {handle : Handle} {chunk : Nat} {world : ω}
    {draining : Draining ω} (reached : incoming.Reaches handle chunk world draining)
    (formed : incoming.Formed) : Kept incoming handle world draining := by
  induction reached with
  | start => exact .start formed handle world
  | round _ stepping ih => exact ih.round stepping

/-- Between its uses a receiver has less payload than was announced. -/
structure Resting (incoming : Incoming) : Prop where
  formed : incoming.Formed
  starved : incoming.Starved []

theorem Resting.inHand {incoming : Incoming} (resting : incoming.Resting) :
    match incoming.expected with
    | none => incoming.buffer = #[]
    | some length => incoming.buffer.size < length ∧ length ≤ incoming.limit := by
  have starved := resting.starved
  split
  · next idle => exact resting.formed.idle idle
  · next length waiting =>
    simp only [Starved, waiting] at starved
    exact ⟨starved.1, (resting.formed.within length waiting).2.1⟩

theorem resting_reset (incoming : Incoming) : incoming.reset.Resting :=
  ⟨formed_reset incoming, by simp [Starved, reset, Frame.headerLength]⟩

/-- What becomes of the bytes of a drain: they are the frames that it gave and the part in hand; when a
read failed, the frames are lost; when a header was wrong, the part in hand is lost as well. -/
def Accounts (incoming : Incoming) (drained : Drained ω) : Prop :=
  match drained.frames with
  | .ok frames => (∀ payload ∈ frames, Frame.Fits incoming.limit payload) ∧
    incoming.heard ++ receivedIn drained.calls = Frame.stream frames ++ drained.incoming.heard
  | .error (.read _) => ∃ lost, (∀ payload ∈ lost, Frame.Fits incoming.limit payload) ∧
    incoming.heard ++ receivedIn drained.calls = Frame.stream lost ++ drained.incoming.heard
  | .error _ => drained.incoming.heard = []

structure Bounded (incoming : Incoming) (handle : Handle) (world : ω) (drained : Drained ω) :
    Prop where
  resting : drained.incoming.Resting
  limited : drained.incoming.limit = incoming.limit
  few : drained.calls.size ≤ Streams.held world handle + 1
  accounts : incoming.Accounts drained

theorem Kept.ended {incoming : Incoming} {handle : Handle} {chunk : Nat} {world : ω}
    {last : Draining ω} {drained : Drained ω} (kept : Kept incoming handle world last)
    (ended : last.ended? (last.step handle chunk) = some drained) :
    Bounded incoming handle world drained := by
  have fares : (last.step handle chunk).Fares last.incoming :=
    step_fares last.incoming handle chunk last.world
  have brought := kept.brought
  generalize last.step handle chunk = step at ended fares
  cases step with
  | next => cases ended
  | rest incoming' world' call =>
    cases ended
    obtain ⟨rfl, nothing, starved⟩ := fares
    refine ⟨⟨kept.formed, starved⟩, kept.limited, ?_, kept.fits, ?_⟩
    · cases call <;> simp <;> omega
    · rw [StreamCall.receivedIn_append, nothing, List.append_nil, kept.heard]
  | failed incoming' world' call error =>
    cases ended
    have few : (last.calls.push call).size ≤ Streams.held world handle + 1 := by
      rw [Array.size_push]
      omega
    -- Only a failed read leaves the part in hand; the others come of a wrong header.
    cases error with
    | read reason =>
      obtain ⟨rfl, nothing, starved⟩ := fares
      refine ⟨⟨kept.formed, starved⟩, kept.limited, few, _, kept.fits, ?_⟩
      rw [StreamCall.receivedIn_push, nothing, List.append_nil, kept.heard]
    | stream | endOfStream | shortHeader | frameTooLarge | write | sessionClosed =>
      obtain rfl : incoming' = last.incoming.reset := fares
      exact ⟨resting_reset _, kept.limited, few, rfl⟩

theorem drain_bounded {incoming : Incoming} (formed : incoming.Formed) (handle : Handle) (mtu : Nat)
    (world : ω) : Bounded incoming handle world (incoming.drain handle mtu world) := by
  obtain ⟨last, reached, ended⟩ := incoming.drain_ends handle mtu world
  exact (reached.kept formed).ended ended

end Incoming

/-- A receiver between its uses, with the bytes that it has read since it last began anew. -/
structure Reception where
  incoming : Incoming
  wire : Bytes := []

namespace Reception

variable {ω : Type}

/-- A receiver begins anew when a header was wrong; after a failed read it goes on where it was. -/
def after (reception : Reception) (drained : Drained ω) : Reception where
  incoming := drained.incoming
  wire := match drained.frames with
    | .ok _ | .error (.read _) => reception.wire ++ receivedIn drained.calls
    | .error _ => []

/-- Drains and resets in any order, also after drains that failed. Each drain may be of another source,
and of the same source in any state. -/
inductive Run (ω : Type) [Streams ω] (limit : Nat) : Reception → Prop where
  | start : Run ω limit { incoming := { limit } }
  | reset {reception : Reception} : Run ω limit reception →
      Run ω limit { incoming := reception.incoming.reset }
  | drain {reception : Reception} (handle : Handle) (mtu : Nat) (world : ω) :
      Run ω limit reception →
      Run ω limit (reception.after (reception.incoming.drain handle mtu world))

structure Sound (limit : Nat) (reception : Reception) : Prop where
  resting : reception.incoming.Resting
  limited : reception.incoming.limit = limit
  whole : ∃ earlier, (∀ payload ∈ earlier, Frame.Fits limit payload) ∧
    reception.wire = Frame.stream earlier ++ reception.incoming.heard

variable [Streams ω] {limit : Nat} {reception : Reception}

theorem Sound.join (sound : reception.Sound limit) {frames : List Bytes} {read hand : Bytes}
    (fits : ∀ payload ∈ frames, Frame.Fits reception.incoming.limit payload)
    (same : reception.incoming.heard ++ read = Frame.stream frames ++ hand) :
    ∃ earlier, (∀ payload ∈ earlier ++ frames, Frame.Fits limit payload) ∧
      reception.wire ++ read = Frame.stream (earlier ++ frames) ++ hand := by
  obtain ⟨earlier, within, wire⟩ := sound.whole
  refine ⟨earlier, ?_, ?_⟩
  · exact List.forall_mem_append.mpr ⟨within, sound.limited ▸ fits⟩
  · rw [wire, List.append_assoc, same, Frame.stream_append, List.append_assoc]

theorem Sound.drain (sound : reception.Sound limit) (handle : Handle) (mtu : Nat) (world : ω) :
    (reception.after (reception.incoming.drain handle mtu world)).Sound limit := by
  have bounded := Incoming.drain_bounded sound.resting.formed handle mtu world
  generalize reception.incoming.drain handle mtu world = drained at bounded ⊢
  refine ⟨bounded.resting, bounded.limited.trans sound.limited, ?_⟩
  have accounts := bounded.accounts
  unfold Incoming.Accounts at accounts
  simp only [after]
  split at accounts
  · obtain ⟨fits, same⟩ := accounts
    obtain ⟨earlier, within, wire⟩ := sound.join fits same
    exact ⟨_, within, wire⟩
  · obtain ⟨lost, fits, same⟩ := accounts
    obtain ⟨earlier, within, wire⟩ := sound.join fits same
    exact ⟨_, within, wire⟩
  · exact ⟨[], by simp, by simp [accounts]⟩

theorem Run.sound (run : reception.Run ω limit) : reception.Sound limit := by
  induction run with
  | start =>
    exact ⟨⟨⟨fun _ => rfl, by simp⟩, by simp [Incoming.Starved, Frame.headerLength]⟩, rfl,
      [], by simp, rfl⟩
  | reset _ ih => exact ⟨Incoming.resting_reset _, ih.limited, [], by simp, rfl⟩
  | drain handle mtu world _ ih => exact ih.drain handle mtu world

end Reception

/-- Between its uses a receiver has nothing in hand, or less payload than a header announced, which is
no more than the limit. A drain of any source comes to its end: it goes on for as many rounds as twice
the bytes of the source and one at most, and in each of them the buffer holds no more than was
announced. Its reads are of a header or a chunk, and there is one for each byte of the source and one
more at most. The frames that it gives are within the limit and stand on the wire behind headers that
announce just their lengths. -/
theorem drains_bounded {ω : Type} [Streams ω] {limit : Nat} {reception : Reception}
    (run : reception.Run ω limit) :
    (match reception.incoming.expected with
      | none => reception.incoming.buffer = #[]
      | some length => reception.incoming.buffer.size < length ∧ length ≤ limit) ∧
    ∀ (handle : Handle) (mtu : Nat) (world : ω),
      let drained := reception.incoming.drain handle mtu world
      (∃ last, reception.incoming.Reaches handle (max mtu 1) world last ∧
        last.ended? (last.step handle (max mtu 1)) = some drained) ∧
      (∀ draining, reception.incoming.Reaches handle (max mtu 1) world draining →
        draining.rounds ≤ 2 * Streams.held world handle + 1 ∧
        ∀ length, draining.incoming.expected = some length →
          draining.incoming.buffer.size ≤ length) ∧
      (∀ call ∈ drained.calls, call.ReadsAtMost (max mtu Frame.headerLength)) ∧
      drained.calls.size ≤ Streams.held world handle + 1 ∧
      ∀ frames, drained.frames = .ok frames →
        ∃ earlier, (∀ payload ∈ earlier ++ frames, Frame.Fits limit payload) ∧
          reception.wire ++ receivedIn drained.calls
            = Frame.stream (earlier ++ frames) ++ drained.incoming.heard := by
  have sound := run.sound
  refine ⟨sound.limited ▸ sound.resting.inHand, ?_⟩
  intro handle mtu world drained
  have bounded : reception.incoming.Bounded handle world drained :=
    Incoming.drain_bounded sound.resting.formed handle mtu world
  refine ⟨reception.incoming.drain_ends handle mtu world, ?_, ?_, bounded.few, ?_⟩
  · intro draining reached
    have kept := reached.kept sound.resting.formed
    refine ⟨?_, fun length waiting => (kept.formed.within length waiting).1⟩
    -- A round makes the measure smaller, which is that of a source and of a frame under way at most.
    have shorter := kept.shorter
    have most : reception.incoming.toGo handle world ≤ 2 * Streams.held world handle + 1 := by
      unfold Incoming.toGo
      split <;> omega
    omega
  · exact reception.incoming.calls_of_drain _ handle mtu world fun wanted within _ => within
  · intro frames answer
    have accounts := bounded.accounts
    simp only [Incoming.Accounts, answer] at accounts
    exact sound.join accounts.1 accounts.2

/-- A read that fails within a payload leaves the receiver with the byte that it had, and a drain of the
source in a later state gives the frame. -/
theorem drains_bounded_resumed :
    let broken : Bench.Rig := { wires := #[.scripted
      { queue := [2, 0, 0, 0, 7], extra := 9, reads := [.cap 4, .cap 1, .fail "link lost"] }] }
    let mended : Bench.Rig := { wires := #[.scripted { queue := [8, 0, 0, 0, 0] }] }
    let new : Reception := { incoming := { limit := 8 } }
    let reception := new.after (new.incoming.drain 0 16 broken)
    let drained := reception.incoming.drain 0 16 mended
    reception.Run Bench.Rig 8 ∧ reception.incoming.expected = some 2 ∧
      reception.incoming.buffer.size < 2 ∧ drained.frames.toOption = some [[7, 8], []] ∧
      drained.calls.size ≤ 6 ∧
      ∃ earlier, [2, 0, 0, 0, 7, 8, 0, 0, 0, 0] = Frame.stream (earlier ++ [[7, 8], []]) := by
  intro broken mended new reception drained
  have run : reception.Run Bench.Rig 8 := .drain 0 16 broken .start
  have waiting : reception.incoming.expected = some 2 := by decide +kernel
  have gives : drained.frames.toOption = some [[7, 8], []] := by decide +kernel
  have held : Streams.held mended 0 = 5 := by decide +kernel
  have wire : reception.wire ++ receivedIn drained.calls = [2, 0, 0, 0, 7, 8, 0, 0, 0, 0] ∧
      drained.incoming.heard = [] := by decide +kernel
  have answer : drained.frames = .ok [[7, 8], []] := by
    cases frames : drained.frames with
    | error error => simp [frames, Except.toOption] at gives
    | ok given => simpa [frames, Except.toOption] using gives
  obtain ⟨resting, drains⟩ := drains_bounded run
  obtain ⟨-, -, -, few, given⟩ := drains 0 16 mended
  obtain ⟨earlier, -, same⟩ := given _ answer
  simp only [waiting] at resting
  rw [held] at few
  rw [wire.1, wire.2, List.append_nil] at same
  exact ⟨run, waiting, resting.1, gives, few, earlier, same⟩

end Sightline
