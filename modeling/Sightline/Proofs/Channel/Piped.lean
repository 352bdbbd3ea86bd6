import Sightline.Channel.Piped
import Sightline.Proofs.Channel.Sends

/-! Sessions over pipes.

A pipe keeps nothing back and, while it is open, refuses nothing: what a pump takes off a frame is in
the outbound pipe afterwards (`pump_piped`), and a drain leaves too few bytes in the inbound pipe to go
on with (`Incoming.drain_piped`). -/

set_option autoImplicit false

namespace Sightline

def Session.unsent (session : Session) : Bytes := session.outgoing.elim [] Outgoing.left

theorem PipePair.queued (handle : Handle) :
    Incoming.Queued (fun pair : PipePair => pair.inbound.queue) handle :=
  ⟨fun _ => rfl, fun _ _ => ⟨rfl, rfl⟩⟩

theorem Incoming.drain_piped {incoming : Incoming} {limit : Nat} (handle : Handle) (mtu : Nat)
    {pair : PipePair} {later : Bytes} {waiting : List Bytes} (formed : incoming.Formed)
    (limited : incoming.limit = limit) (fits : ∀ payload ∈ waiting, Frame.Fits limit payload)
    (ahead : incoming.heard ++ (pair.inbound.queue ++ later) = Frame.stream waiting) :
    ∃ done left, waiting = done ++ left ∧ (incoming.drain handle mtu pair).frames = .ok done ∧
      (incoming.drain handle mtu pair).incoming.Formed ∧
      (incoming.drain handle mtu pair).incoming.limit = limit ∧
      (incoming.drain handle mtu pair).incoming.heard
        ++ ((incoming.drain handle mtu pair).world.inbound.queue ++ later) = Frame.stream left ∧
      (incoming.drain handle mtu pair).incoming.Starved
        (incoming.drain handle mtu pair).world.inbound.queue := by
  have positive : 0 < max mtu 1 := by omega
  simpa [drain] using
    drainFrom_queued (PipePair.queued handle) #[] #[] positive formed limited fits ahead

theorem Incoming.idle_of_starved {incoming : Incoming} {limit : Nat} {bytes : Bytes}
    {left : List Bytes} (formed : incoming.Formed) (starved : incoming.Starved bytes)
    (fits : ∀ payload ∈ left, Frame.Fits limit payload)
    (ahead : incoming.heard ++ bytes = Frame.stream left) :
    left = [] ∧ incoming.expected = none ∧ incoming.buffer = #[] ∧ bytes = [] := by
  cases waiting : incoming.expected with
  | none =>
    simp only [Starved, waiting] at starved
    simp only [heard, waiting, List.nil_append] at ahead
    cases left with
    | nil => exact ⟨rfl, rfl, formed.idle waiting, ahead⟩
    | cons payload left =>
      have long := congrArg List.length ahead
      simp only [Frame.stream_cons, List.length_append, Frame.length_encoded] at long
      omega
  | some length =>
    -- The frame in hand lacks payload, so more bytes would have to be under way.
    simp only [Starved, waiting] at starved
    obtain ⟨short, rfl⟩ := starved
    have announced := Bytes.ofWord_word length (formed.within length waiting).2.2
    simp only [heard, waiting, Bytes.word, List.append_nil, List.cons_append,
      List.nil_append] at ahead
    obtain ⟨payload, more, -, same, collected⟩ := Frame.first_of_stream fits ahead
    have long := congrArg List.length collected
    simp only [Array.length_toList, List.length_append] at long
    simp only [Frame.announced, announced] at same
    omega

theorem PipePair.write_opened {pair pair' : PipePair} {handle : Handle} {offered : Bytes}
    {answer : Except String Nat} (opened : pair.outbound.closed = false)
    (writing : Streams.write pair handle offered = (answer, pair')) :
    ∃ count, answer = .ok count ∧ pair'.outbound.closed = false ∧
      pair'.outbound.queue = pair.outbound.queue ++ offered.take count := by
  simp only [Streams.write, write, OutboundPipe.write, opened, Bool.false_eq_true, if_false,
    Prod.mk.injEq] at writing
  obtain ⟨rfl, rfl⟩ := writing
  refine ⟨_, rfl, rfl, ?_⟩
  simp

theorem Outgoing.pumpFrom_piped (handle : Handle) (chunk : Nat) (rest : Bytes) (offset : Nat)
    (pair : PipePair) (calls : Array StreamCall) (opened : pair.outbound.closed = false) :
    (pumpFrom handle chunk rest offset pair calls).world.outbound.closed = false ∧
      (∀ reason, (pumpFrom handle chunk rest offset pair calls).outcome ≠ .failed reason) ∧
      ∃ more, StreamCall.acceptedIn (pumpFrom handle chunk rest offset pair calls).calls
          = StreamCall.acceptedIn calls ++ more ∧
        (pumpFrom handle chunk rest offset pair calls).world.outbound.queue
          = pair.outbound.queue ++ more := by
  fun_induction pumpFrom handle chunk rest offset pair calls with
  | case1 | case2 => exact ⟨opened, by simp, [], by simp⟩
  | case3 offset pair calls byte more fits offered reason pair' writing =>
    -- An open pipe refuses no write.
    obtain ⟨count, refused, -⟩ := PipePair.write_opened opened writing
    cases refused
  | case4 offset pair calls byte more fits offered count pair' writing calls' short =>
    obtain ⟨taken, same, opened', queue⟩ := PipePair.write_opened opened writing
    cases same
    exact ⟨opened', by simp, offered.take count, by simp [calls', StreamCall.accepted], queue⟩
  | case5 offset pair calls byte more fits offered count pair' writing calls' whole ih =>
    obtain ⟨taken, same, opened', queue⟩ := PipePair.write_opened opened writing
    cases same
    obtain ⟨still, fine, more, accepted, queue'⟩ := ih opened'
    refine ⟨still, fine, offered.take count ++ more, ?_, ?_⟩
    · simp [accepted, calls', StreamCall.accepted]
    · simp [queue', queue]

theorem Outgoing.pump_piped (outgoing : Outgoing) (handle : Handle) (mtu : Nat) (writable : Bool)
    (pair : PipePair) (opened : pair.outbound.closed = false) :
    (outgoing.pump handle mtu writable pair).world.outbound.closed = false ∧
      (∀ reason, (outgoing.pump handle mtu writable pair).outcome ≠ .failed reason) ∧
      (outgoing.pump handle mtu writable pair).world.outbound.queue = pair.outbound.queue
        ++ StreamCall.acceptedIn (outgoing.pump handle mtu writable pair).calls := by
  unfold pump
  cases writable with
  | true =>
    obtain ⟨still, fine, more, accepted, queue⟩ :=
      pumpFrom_piped handle mtu outgoing.left outgoing.offset pair #[] opened
    refine ⟨still, fine, queue.trans ?_⟩
    simp only [StreamCall.acceptedIn_empty, List.nil_append] at accepted
    exact congrArg _ accepted.symm
  | false =>
    refine ⟨opened, ?_, by simp⟩
    intro reason
    cases outgoing.isComplete <;> simp

namespace Session

theorem pump_opened (session : Session) (pair : PipePair) (opened : pair.outbound.closed = false) :
    (session.pump pair).world.outbound.closed = false ∧
      (∀ tag error, SendFact.told tag (.error error) ∉ factsOf (session.pump pair).notes) ∧
      (session.pump pair).world.outbound.queue
        = pair.outbound.queue ++ SendFact.written (factsOf (session.pump pair).notes) := by
  cases waiting : session.outgoing with
  | none => simp [pump, waiting, opened, SendFact.written]
  | some outgoing =>
    obtain ⟨still, fine, queue⟩ :=
      outgoing.pump_piped session.pair.handle session.mtu session.writable pair opened
    have writes := writes_of_calls
      (outgoing.pump session.pair.handle session.mtu session.writable pair).calls
    have untold : ∀ tag error, SendFact.told tag (.error error) ∉ factsOf
        ((outgoing.pump session.pair.handle session.mtu session.writable pair).calls.map .call) := by
      simp [factsOf_calls]
    rw [← writes.written] at queue
    cases outcome : (outgoing.pump session.pair.handle session.mtu session.writable pair).outcome with
    | complete =>
      simp only [pump, waiting, outcome, factsOf_push, Note.fact?, Option.toList_some]
      refine ⟨still, ?_, ?_⟩
      · simpa using untold
      · simpa [SendFact.written, SendFact.bytes] using queue
    | blocked =>
      simp only [pump, waiting, outcome]
      exact ⟨still, untold, queue⟩
    -- An open pipe refuses no write.
    | failed reason => exact absurd outcome (fine reason)
    | overflow =>
      simp only [pump, waiting, outcome, factsOf_push, Note.fact?, Option.toList_none,
        List.append_nil]
      exact ⟨still, untold, queue⟩

theorem pump_piped (session : Session) (pair : PipePair) (opened : pair.outbound.closed = false)
    (start : ∀ o ∈ session.outgoing, o.Unfinished) :
    (session.pump pair).world.outbound.closed = false ∧
      (∀ o ∈ (session.pump pair).session.outgoing, o.Unfinished) ∧
      (session.pump pair).world.outbound.queue ++ (session.pump pair).session.unsent
        = pair.outbound.queue ++ session.unsent := by
  obtain ⟨still, fine, queue⟩ := session.pump_opened pair opened
  have sends := session.pump_sends pair start
  refine ⟨still, sends.unfinished start, ?_⟩
  rw [queue, List.append_assoc, unsent, unsent, ← sends.written fine]

end Session

end Sightline
