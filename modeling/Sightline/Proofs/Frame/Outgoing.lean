import Sightline.Frame.Outgoing

/-! What one pump achieves, whatever the sink answers.

A pump takes bytes off the front of what is left of a frame and hands exactly those to the sink; it is
complete when nothing is left (`pump_split`). -/

set_option autoImplicit false

namespace Sightline

def StreamCall.acceptedIn (calls : Array StreamCall) : Bytes :=
  calls.toList.flatMap StreamCall.accepted

namespace StreamCall

@[simp] theorem acceptedIn_empty : acceptedIn #[] = [] := rfl

@[simp] theorem acceptedIn_push (calls : Array StreamCall) (call : StreamCall) :
    acceptedIn (calls.push call) = acceptedIn calls ++ call.accepted := by
  simp [acceptedIn]

end StreamCall

namespace Outgoing

variable {ω : Type} [Streams ω]

theorem pumpFrom_split (handle : Handle) (chunk : Nat) (rest : Bytes) (offset : Nat) (world : ω)
    (calls : Array StreamCall) :
    ∃ taken left, rest = taken ++ left ∧
      (pumpFrom handle chunk rest offset world calls).offset = offset + taken.length ∧
      StreamCall.acceptedIn (pumpFrom handle chunk rest offset world calls).calls
        = StreamCall.acceptedIn calls ++ taken ∧
      ((pumpFrom handle chunk rest offset world calls).outcome = .complete ↔ left = []) := by
  fun_induction pumpFrom handle chunk rest offset world calls with
  | case1 offset world calls => exact ⟨[], [], by simp⟩
  | case2 offset world calls byte more full => exact ⟨[], byte :: more, by simp⟩
  | case3 offset world calls byte more fits offered reason world' writing =>
    exact ⟨[], byte :: more, by simp [StreamCall.accepted]⟩
  | case4 offset world calls byte more fits offered count world' writing calls' short =>
    -- A short write: the sink took the first `count` bytes of the chunk.
    refine ⟨offered.take count, (byte :: more).drop count, ?_, ?_, ?_, ?_⟩
    · have cut : offered.take count = (byte :: more).take count := by
        simp only [offered, List.length_take] at short
        rw [List.take_take, Nat.min_eq_left (by omega)]
      rw [cut, List.take_append_drop]
    · simp only [List.length_take]
      omega
    · simp [calls', StreamCall.accepted]
    · simp only [offered, List.length_take] at short
      simp only [reduceCtorEq, List.drop_eq_nil_iff, false_iff]
      omega
  | case5 offset world calls byte more fits offered count world' writing calls' whole ih =>
    obtain ⟨taken, left, rest, offset', accepted, complete⟩ := ih
    have all : offered.take count = offered := List.take_of_length_le (by omega)
    refine ⟨offered ++ taken, left, ?_, ?_, ?_, complete⟩
    · have cut : offered = (byte :: more).take offered.length := by
        rw [List.length_take]
        exact List.take_eq_take_min
      rw [List.append_assoc, ← rest]
      conv => rhs; arg 1; rw [cut]
      rw [List.take_append_drop]
    · rw [offset', List.length_append]
      omega
    · rw [accepted]
      simp [calls', StreamCall.accepted, all]

def left (outgoing : Outgoing) : Bytes := outgoing.frame.drop outgoing.offset

/-- A pump moves bytes off the front of what is left to the sink, and is complete when that was all. -/
theorem pump_split (outgoing : Outgoing) (handle : Handle) (mtu : Nat) (writable : Bool) (world : ω)
    (within : outgoing.offset ≤ outgoing.frame.length) :
    ∃ taken rest, outgoing.left = taken ++ rest ∧
      (outgoing.pump handle mtu writable world).offset = outgoing.offset + taken.length ∧
      StreamCall.acceptedIn (outgoing.pump handle mtu writable world).calls = taken ∧
      ((outgoing.pump handle mtu writable world).outcome = .complete ↔ rest = []) := by
  unfold pump
  cases writable with
  | true =>
    simpa [left] using pumpFrom_split handle mtu outgoing.left outgoing.offset world #[]
  | false =>
    -- A sink without room is offered nothing, and the frame is complete only if it was before.
    refine ⟨[], outgoing.left, rfl, by simp, by simp, ?_⟩
    have complete : outgoing.isComplete = true ↔ outgoing.left = [] := by
      simp only [isComplete, left, beq_iff_eq, List.drop_eq_nil_iff]
      omega
    simp only [Bool.false_eq_true, if_false, ← complete]
    cases outgoing.isComplete <;> simp

theorem calls_of_pumpFrom (kept : StreamCall → Prop)
    (writes : ∀ offered answer, kept (.write offered answer)) (handle : Handle) (chunk : Nat)
    (rest : Bytes) (offset : Nat) (world : ω) {calls : Array StreamCall}
    (earlier : ∀ call ∈ calls, kept call) :
    ∀ call ∈ (pumpFrom handle chunk rest offset world calls).calls, kept call := by
  have push : ∀ {calls : Array StreamCall} (offered : Bytes) (answer : Except String Nat),
      (∀ call ∈ calls, kept call) → ∀ call ∈ calls.push (.write offered answer), kept call := by
    intro calls offered answer before call member
    rcases Array.mem_push.mp member with member | rfl
    · exact before call member
    · exact writes offered answer
  fun_induction pumpFrom handle chunk rest offset world calls with
  | case1 | case2 => exact earlier
  | case3 | case4 => exact push _ _ earlier
  | case5 offset world calls byte more fits offered count world' writing calls' whole ih =>
    exact ih (push _ _ earlier)

theorem calls_of_pump (kept : StreamCall → Prop) (writes : ∀ offered answer, kept (.write offered answer))
    (outgoing : Outgoing) (handle : Handle) (mtu : Nat) (writable : Bool) (world : ω) :
    ∀ call ∈ (outgoing.pump handle mtu writable world).calls, kept call := by
  cases writable with
  | false => exact fun call member => absurd member (Array.not_mem_empty call)
  | true => exact calls_of_pumpFrom kept writes handle mtu outgoing.left outgoing.offset world (by simp)

theorem pumpFrom_keeps (kept : ω → Prop) {handle : Handle}
    (writes : ∀ world offered, kept world → kept (Streams.write world handle offered).2)
    (chunk : Nat) (rest : Bytes) (offset : Nat) {world : ω} (calls : Array StreamCall)
    (before : kept world) : kept (pumpFrom handle chunk rest offset world calls).world := by
  fun_induction pumpFrom handle chunk rest offset world calls with
  | case1 | case2 => exact before
  | case3 offset world calls byte more fits offered reason world' writing =>
    have after := writes world offered before
    rwa [writing] at after
  | case4 offset world calls byte more fits offered count world' writing calls' short =>
    have after := writes world offered before
    rwa [writing] at after
  | case5 offset world calls byte more fits offered count world' writing calls' whole ih =>
    have after := writes world offered before
    rw [writing] at after
    exact ih after

theorem pump_keeps (kept : ω → Prop) {handle : Handle}
    (writes : ∀ world offered, kept world → kept (Streams.write world handle offered).2)
    (outgoing : Outgoing) (mtu : Nat) (writable : Bool) {world : ω} (before : kept world) :
    kept (outgoing.pump handle mtu writable world).world := by
  cases writable with
  | false => exact before
  | true => exact pumpFrom_keeps kept writes mtu outgoing.left outgoing.offset #[] before

end Outgoing

end Sightline
