import Sightline.Bench.Rig
import Sightline.Proofs.Frame.Outgoing

/-! One frame over any number of pumps, whatever the sink answers.

`Pumps` says all that one pump can do: it offers chunk after chunk while the sink takes each whole, up
to the end of the frame, a chunk that the sink does not take whole, or a chunk whose end does not fit a
machine word. Between two pumps the caller may say otherwise whether there is room, and the surroundings
may become anything (`Pumping.Run`). Main statements: pumps write exactly the frame (`pump_exact`), and
the number of writes is foreseen (`writes_foreseen`). -/

set_option autoImplicit false

namespace Sightline

namespace StreamCall

def offered : StreamCall → Bytes
  | .write offered _ => offered
  | _ => []

def taken (calls : List StreamCall) : Bytes := calls.flatMap accepted

def isShort (call : StreamCall) : Bool := call.accepted.length < call.offered.length

theorem accepted_prefix (call : StreamCall) : call.accepted <+: call.offered := by
  cases call with
  | write offered answer =>
    cases answer with
    | error reason => exact List.nil_prefix
    | ok count => exact List.take_prefix count offered
  | read | closeInbound | closeOutbound => exact List.nil_prefix

theorem accepted_of_not_short {call : StreamCall} (whole : call.isShort = false) :
    call.accepted = call.offered := by
  simp only [isShort, decide_eq_false_iff_not, Nat.not_lt] at whole
  exact call.accepted_prefix.eq_of_length_le whole

@[simp] theorem taken_nil : taken [] = [] := rfl

@[simp] theorem taken_cons (call : StreamCall) (later : List StreamCall) :
    taken (call :: later) = call.accepted ++ taken later := rfl

theorem taken_of_whole {calls : List StreamCall} (whole : ∀ call ∈ calls, call.isShort = false) :
    taken calls = (calls.map offered).flatten := by
  rw [taken, List.flatMap_def,
    List.map_congr_left fun call member => accepted_of_not_short (whole call member)]

@[simp] theorem taken_append (calls later : List StreamCall) :
    taken (calls ++ later) = taken calls ++ taken later :=
  List.flatMap_append

end StreamCall

/-! ### How many chunks there are -/

namespace Frame

def chunkCount (length chunk : Nat) : Nat := (length + (chunk - 1)) / chunk

variable {chunk : Nat}

theorem chunkCount_le_iff (positive : 0 < chunk) {length count : Nat} :
    chunkCount length chunk ≤ count ↔ length ≤ chunk * count := by
  rw [chunkCount, Nat.div_le_iff_le_mul_add_pred positive]
  omega

theorem chunkCount_mono {length more : Nat} (le : length ≤ more) :
    chunkCount length chunk ≤ chunkCount more chunk :=
  Nat.div_le_div_right (by omega)

theorem chunkCount_rest (positive : 0 < chunk) {length : Nat} (some_left : 0 < length) :
    chunkCount (length - min chunk length) chunk + 1 = chunkCount length chunk := by
  by_cases last : length ≤ chunk
  · have one : (length + (chunk - 1)) / chunk = 1 :=
      Nat.div_eq_of_lt_le (by omega) (by omega)
    have none : (chunk - 1) / chunk = 0 := Nat.div_eq_of_lt (by omega)
    simp [chunkCount, Nat.min_eq_right last, one, none]
  · have split : length + (chunk - 1) = length - chunk + (chunk - 1) + chunk := by omega
    rw [Nat.min_eq_left (by omega), chunkCount, chunkCount, split, Nat.add_div_right _ positive]

end Frame

open Sightline.Frame (chunkCount)
open StreamCall (taken)

/-! ### One pump -/

namespace Outgoing

/-- What is offered of a frame next, once the sink has taken `offset` bytes of it. -/
def nextChunk (frame : Bytes) (chunk offset : Nat) : Bytes := (frame.drop offset).take chunk

theorem length_nextChunk (frame : Bytes) (chunk offset : Nat) :
    (nextChunk frame chunk offset).length = min chunk (frame.length - offset) := by
  simp [nextChunk]

/-- All that a pump can do that begins at an offset of the frame: its writes in order, how it turned
out, and the offset that it left. -/
inductive Pumps (frame : Bytes) (chunk : Nat) :
    Nat → List StreamCall → PumpOutcome → Nat → Prop where
  | complete : Pumps frame chunk frame.length [] .complete frame.length
  | overflow {offset : Nat} : offset < frame.length → machineLimit ≤ offset + chunk →
      Pumps frame chunk offset [] .overflow offset
  | failed {offset : Nat} (reason : String) : offset < frame.length →
      offset + chunk < machineLimit →
      Pumps frame chunk offset [.write (nextChunk frame chunk offset) (.error reason)]
        (.failed reason) offset
  | short {offset count : Nat} : offset < frame.length → offset + chunk < machineLimit →
      count < (nextChunk frame chunk offset).length →
      Pumps frame chunk offset [.write (nextChunk frame chunk offset) (.ok count)] .blocked
        (offset + count)
  | whole {offset count last : Nat} {later : List StreamCall} {outcome : PumpOutcome} :
      offset < frame.length → offset + chunk < machineLimit →
      (nextChunk frame chunk offset).length ≤ count →
      Pumps frame chunk (offset + (nextChunk frame chunk offset).length) later outcome last →
      Pumps frame chunk offset (.write (nextChunk frame chunk offset) (.ok count) :: later) outcome
        last

variable {ω : Type} [Streams ω]

theorem pumpFrom_pumps (frame : Bytes) (handle : Handle) (chunk : Nat) (rest : Bytes)
    (offset : Nat) (world : ω) (calls : Array StreamCall) (behind : rest = frame.drop offset)
    (within : offset ≤ frame.length) :
    ∃ made, (pumpFrom handle chunk rest offset world calls).calls.toList = calls.toList ++ made ∧
      Pumps frame (max chunk 1) offset made (pumpFrom handle chunk rest offset world calls).outcome
        (pumpFrom handle chunk rest offset world calls).offset ∧
      ((pumpFrom handle chunk rest offset world calls).writable = false ↔
        (pumpFrom handle chunk rest offset world calls).outcome = .blocked) := by
  have unfinished {byte : UInt8} {more : Bytes} {offset : Nat}
      (behind : byte :: more = frame.drop offset) : offset < frame.length := by
    apply Classical.byContradiction
    intro past
    rw [List.drop_eq_nil_of_le (by omega)] at behind
    cases behind
  -- The rest is always what the frame has behind the offset, so each chunk is the next one.
  fun_induction pumpFrom handle chunk rest offset world calls with
  | case1 offset world calls =>
    have ended : offset = frame.length := by
      have := List.drop_eq_nil_iff.mp behind.symm
      omega
    subst ended
    exact ⟨[], by simp, .complete, by simp⟩
  | case2 offset world calls byte more full =>
    exact ⟨[], by simp, .overflow (unfinished behind) full, by simp⟩
  | case3 offset world calls byte more fits offered reason world' writing =>
    have next : offered = nextChunk frame (max chunk 1) offset := by rw [nextChunk, ← behind]
    rw [next]
    exact ⟨_, Array.toList_push .., .failed reason (unfinished behind) (by omega), by simp⟩
  | case4 offset world calls byte more fits offered count world' writing calls' short =>
    have next : offered = nextChunk frame (max chunk 1) offset := by rw [nextChunk, ← behind]
    rw [next] at short
    simp only [calls', next]
    exact ⟨_, Array.toList_push .., .short (unfinished behind) (by omega) short, by simp⟩
  | case5 offset world calls byte more fits offered count world' writing calls' whole ih =>
    have next : offered = nextChunk frame (max chunk 1) offset := by rw [nextChunk, ← behind]
    have size := length_nextChunk frame (max chunk 1) offset
    obtain ⟨made, same, pumps, writable⟩ := ih
      (by rw [behind, List.drop_drop, Nat.add_comm offset]) (by rw [next]; omega)
    refine ⟨.write offered (.ok count) :: made, ?_, ?_, writable⟩
    · rw [same, Array.toList_push, List.append_assoc]
      rfl
    · rw [next] at pumps whole ⊢
      exact .whole (unfinished behind) (by omega) (by omega) pumps

theorem pump_pumps (outgoing : Outgoing) (handle : Handle) (mtu : Nat) (world : ω)
    (within : outgoing.offset ≤ outgoing.frame.length) :
    let pumped := outgoing.pump handle mtu true world
    Pumps outgoing.frame (max mtu 1) outgoing.offset pumped.calls.toList pumped.outcome
      pumped.offset ∧ (pumped.writable = false ↔ pumped.outcome = .blocked) := by
  intro pumped
  obtain ⟨made, same, pumps, writable⟩ := pumpFrom_pumps outgoing.frame handle mtu
    (outgoing.frame.drop outgoing.offset) outgoing.offset world #[] rfl within
  obtain rfl : made = pumped.calls.toList := by simpa [pumped, pump] using same.symm
  exact ⟨pumps, writable⟩

/-- Uses of the sink that each offer the next chunk of the frame, from the first offset to the last. -/
inductive Offers (frame : Bytes) (chunk : Nat) : Nat → List StreamCall → Nat → Prop where
  | none {offset : Nat} : Offers frame chunk offset [] offset
  | write {offset last : Nat} {later : List StreamCall} (answer : Except String Nat) :
      offset < frame.length →
      Offers frame chunk
        (offset + (StreamCall.write (nextChunk frame chunk offset) answer).accepted.length) later last →
      Offers frame chunk offset (.write (nextChunk frame chunk offset) answer :: later) last

variable {frame : Bytes} {chunk offset last : Nat} {calls : List StreamCall} {outcome : PumpOutcome}

theorem accepted_nextChunk (frame : Bytes) (chunk offset : Nat) (answer : Except String Nat) :
    ∃ count ≤ min chunk (frame.length - offset),
      (StreamCall.write (nextChunk frame chunk offset) answer).accepted
        = (frame.drop offset).take count ∧
      (StreamCall.write (nextChunk frame chunk offset) answer).accepted.length = count := by
  cases answer with
  | error reason => exact ⟨0, Nat.zero_le _, by simp [StreamCall.accepted], rfl⟩
  | ok count =>
    refine ⟨min count (min chunk (frame.length - offset)), Nat.min_le_right _ _, ?_, ?_⟩
    · simp only [StreamCall.accepted, nextChunk, List.take_take, ← Nat.min_assoc]
      rw [List.take_eq_take_min (i := min count chunk), List.length_drop]
    · simp only [StreamCall.accepted, List.length_take, length_nextChunk]

theorem accepted_whole {offered : Bytes} {count : Nat} (whole : offered.length ≤ count) :
    (StreamCall.write offered (.ok count)).accepted = offered :=
  List.take_of_length_le whole

namespace Offers

theorem trans {middle : Nat} {later : List StreamCall} (first : Offers frame chunk offset calls middle)
    (second : Offers frame chunk middle later last) :
    Offers frame chunk offset (calls ++ later) last := by
  induction first with
  | none => exact second
  | write answer unfinished _ ih => exact .write answer unfinished (ih second)

theorem taken_eq (offers : Offers frame chunk offset calls last) (within : offset ≤ frame.length) :
    offset ≤ last ∧ last ≤ frame.length ∧ taken calls = (frame.drop offset).take (last - offset) := by
  induction offers with
  | none => simpa using within
  | @write offset last later answer unfinished _ ih =>
    obtain ⟨count, most, front, size⟩ := accepted_nextChunk frame chunk offset answer
    rw [size] at ih
    obtain ⟨further, inside, rest⟩ := ih (by omega)
    refine ⟨by omega, inside, ?_⟩
    rw [StreamCall.taken_cons, front, rest, ← List.drop_drop, ← List.take_add]
    congr 1
    omega

theorem length_taken (offers : Offers frame chunk offset calls last)
    (within : offset ≤ frame.length) : last = offset + (taken calls).length := by
  obtain ⟨forward, inside, same⟩ := offers.taken_eq within
  rw [same, List.length_take, List.length_drop]
  omega

theorem offered_at (offers : Offers frame chunk offset calls last) {before after : List StreamCall}
    {call : StreamCall} (here : calls = before ++ call :: after) :
    offset + (taken before).length < frame.length ∧
      ∃ answer, call = .write (nextChunk frame chunk (offset + (taken before).length)) answer := by
  induction offers generalizing before with
  | none => simp at here
  | @write offset last later answer unfinished _ ih =>
    cases before with
    | nil =>
      obtain ⟨rfl, -⟩ := List.cons.inj here
      exact ⟨unfinished, answer, rfl⟩
    | cons earlier before =>
      obtain ⟨rfl, rest⟩ := List.cons.inj here
      simpa [Nat.add_assoc] using ih rest

/-- No write takes more than a chunk, so so many writes are needed. -/
theorem chunkCount_le (offers : Offers frame chunk offset calls last) (positive : 0 < chunk) :
    chunkCount (last - offset) chunk ≤ calls.length := by
  rw [Frame.chunkCount_le_iff positive]
  induction offers with
  | none => simp
  | @write offset last later answer unfinished _ ih =>
    obtain ⟨count, most, -, size⟩ := accepted_nextChunk frame chunk offset answer
    rw [size] at ih
    rw [List.length_cons, Nat.mul_succ]
    omega

/-- Writes that take their chunk whole use up the chunks; every other one adds a write at most. -/
theorem length_le (offers : Offers frame chunk offset calls last) (positive : 0 < chunk) :
    calls.length ≤ chunkCount (frame.length - offset) chunk + calls.countP StreamCall.isShort := by
  induction offers with
  | none => simp
  | @write offset last later answer unfinished _ ih =>
    obtain ⟨count, most, -, size⟩ := accepted_nextChunk frame chunk offset answer
    rw [size, ← Nat.sub_sub] at ih
    rw [List.length_cons, List.countP_cons]
    -- A short write leaves no more chunks than there were, a whole one leaves one less.
    cases short : (StreamCall.write (nextChunk frame chunk offset) answer).isShort with
    | true =>
      have fewer : chunkCount (frame.length - offset - count) chunk
          ≤ chunkCount (frame.length - offset) chunk := Frame.chunkCount_mono (Nat.sub_le _ _)
      simp only [if_true]
      omega
    | false =>
      have whole := congrArg List.length (StreamCall.accepted_of_not_short short)
      rw [size, StreamCall.offered, length_nextChunk] at whole
      have rest := Frame.chunkCount_rest positive (show 0 < frame.length - offset by omega)
      rw [← whole] at rest
      simp only [Bool.false_eq_true, if_false]
      omega

end Offers

namespace Pumps

theorem offers (pumps : Pumps frame chunk offset calls outcome last) :
    Offers frame chunk offset calls last := by
  induction pumps with
  | complete | overflow => exact .none
  | failed reason unfinished => exact .write _ unfinished .none
  | @short offset count unfinished _ short =>
    have size : (StreamCall.write (nextChunk frame chunk offset) (.ok count)).accepted.length
        = count := by
      simp only [StreamCall.accepted, List.length_take]
      omega
    refine .write _ unfinished ?_
    rw [size]
    exact .none
  | @whole offset count last later outcome unfinished _ whole _ ih =>
    refine .write _ unfinished ?_
    rw [accepted_whole whole]
    exact ih

theorem complete_iff (pumps : Pumps frame chunk offset calls outcome last) :
    outcome = .complete ↔ last = frame.length := by
  induction pumps with
  | complete => simp
  | overflow unfinished | failed _ unfinished =>
    simp only [reduceCtorEq, false_iff]
    omega
  | @short offset count unfinished _ short =>
    simp only [length_nextChunk] at short
    simp only [reduceCtorEq, false_iff]
    omega
  | whole _ _ _ _ ih => exact ih

theorem overflow_iff (pumps : Pumps frame chunk offset calls outcome last) :
    outcome = .overflow ↔ outcome ≠ .blocked ∧ last < frame.length ∧ machineLimit ≤ last + chunk := by
  induction pumps with
  | complete | short => simp
  | overflow unfinished full => simp [unfinished, full]
  | failed _ unfinished fits =>
    simp only [reduceCtorEq, false_iff]
    omega
  | whole _ _ _ _ ih => exact ih

theorem failed_at (pumps : Pumps frame chunk offset calls outcome last)
    {earlier later : List StreamCall} {offered : Bytes} {reason : String}
    (here : calls = earlier ++ .write offered (.error reason) :: later) :
    later = [] ∧ outcome = .failed reason := by
  induction pumps generalizing earlier with
  | complete | overflow => simp at here
  | failed _ =>
    obtain ⟨rfl, same⟩ : earlier = [] ∧ _ := by simpa [List.cons_eq_append_iff] using here
    obtain ⟨⟨-, rfl⟩, rfl⟩ := same
    exact ⟨rfl, rfl⟩
  | short => simp [List.cons_eq_append_iff] at here
  | whole _ _ _ _ ih =>
    cases earlier with
    | nil => simp at here
    | cons _ earlier => exact ih (List.cons.inj here).2

theorem ends_failed (pumps : Pumps frame chunk offset calls outcome last) {reason : String}
    (failed : outcome = .failed reason) :
    ∃ earlier offered, calls = earlier ++ [.write offered (.error reason)] := by
  induction pumps with
  | complete | overflow | short => cases failed
  | failed reason =>
    cases failed
    exact ⟨[], _, rfl⟩
  | whole _ _ _ _ ih =>
    obtain ⟨earlier, offered, rfl⟩ := ih failed
    exact ⟨_ :: earlier, offered, rfl⟩

theorem length_le (pumps : Pumps frame chunk offset calls outcome last) (positive : 0 < chunk) :
    calls.length ≤ chunkCount (frame.length - offset) chunk := by
  induction pumps with
  | complete | overflow => exact Nat.zero_le _
  | failed _ unfinished | short unfinished =>
    rw [← Frame.chunkCount_rest positive (Nat.sub_pos_of_lt unfinished)]
    exact Nat.le_add_left _ _
  | @whole offset count last later outcome unfinished _ _ _ ih =>
    rw [length_nextChunk, ← Nat.sub_sub] at ih
    rw [← Frame.chunkCount_rest positive (Nat.sub_pos_of_lt unfinished)]
    exact Nat.succ_le_succ ih

/-- What a pump offers to a sink that takes each chunk whole: the rest of the frame, cut into chunks. -/
theorem of_unhindered (pumps : Pumps frame chunk offset calls outcome last) (positive : 0 < chunk)
    (whole : ∀ call ∈ calls, call.isShort = false) (small : chunk < machineLimit)
    (short : frame.length + frame.length ≤ machineLimit)
    (begun : offset = 0 ∨ chunk ≤ offset ∨ offset = frame.length) :
    outcome = .complete ∧ (offset < frame.length →
      ∃ pieces rest, calls.map StreamCall.offered = pieces ++ [rest] ∧
        (∀ piece ∈ pieces, piece.length = chunk) ∧ rest ≠ [] ∧ rest.length ≤ chunk) := by
  induction pumps with
  | complete => exact ⟨rfl, fun past => absurd past (Nat.lt_irrefl _)⟩
  | overflow => omega
  | @failed offset reason unfinished =>
    have taken := whole _ List.mem_cons_self
    simp only [StreamCall.isShort, StreamCall.accepted, StreamCall.offered, length_nextChunk,
      List.length_nil, decide_eq_false_iff_not] at taken
    omega
  | @short offset count unfinished _ short =>
    have taken := whole _ List.mem_cons_self
    simp only [StreamCall.isShort, StreamCall.accepted, StreamCall.offered, List.length_take,
      decide_eq_false_iff_not] at taken
    omega
  | @whole offset count last later outcome unfinished _ _ pumps ih =>
    -- From here on the offset is a chunk at least, or the frame is at its end.
    have size := length_nextChunk frame chunk offset
    have full : offset + (nextChunk frame chunk offset).length ≠ frame.length →
        (nextChunk frame chunk offset).length = chunk := by omega
    obtain ⟨complete, more⟩ := ih (fun call h => whole call (List.mem_cons_of_mem _ h)) (by omega)
    refine ⟨complete, fun _ => ?_⟩
    by_cases ended : offset + (nextChunk frame chunk offset).length = frame.length
    · have none : later = [] := by
        rw [ended] at pumps
        cases pumps with
        | complete => rfl
        | overflow past | failed _ past | short past | whole past => omega
      subst none
      refine ⟨[], nextChunk frame chunk offset, rfl, by simp, ?_, by omega⟩
      exact List.ne_nil_of_length_pos (by omega)
    · obtain ⟨pieces, rest, same, equal, left, small⟩ := more (by omega)
      refine ⟨nextChunk frame chunk offset :: pieces, rest, ?_, ?_, left, small⟩
      · rw [List.map_cons, same]
        rfl
      · intro piece member
        rcases List.mem_cons.mp member with rfl | member
        · exact full ended
        · exact equal piece member

end Pumps

/-- A frame between two pumps, with every use of the sink that was made for it. -/
structure Pumping (ω : Type) where
  outgoing : Outgoing
  writable : Bool
  world : ω
  calls : List StreamCall := []

namespace Pumping

variable {ω : Type} [Streams ω]

def pumped (pumping : Pumping ω) (handle : Handle) (mtu : Nat) : Pumped ω :=
  pumping.outgoing.pump handle mtu pumping.writable pumping.world

def pump (pumping : Pumping ω) (handle : Handle) (mtu : Nat) : Pumping ω :=
  let pumped := pumping.pumped handle mtu
  { outgoing := { pumping.outgoing with offset := pumped.offset }
    writable := pumped.writable
    world := pumped.world
    calls := pumping.calls ++ pumped.calls.toList }

/-- What pumps make of a frame that was begun. Before each of them the caller may say otherwise whether
there is room, and the surroundings may become anything. -/
inductive Run (handle : Handle) (mtu : Nat) (begun : Outgoing) : Pumping ω → Prop where
  | start (writable : Bool) (world : ω) : Run handle mtu begun ⟨begun, writable, world, []⟩
  | meanwhile {pumping : Pumping ω} (writable : Bool) (world : ω) : Run handle mtu begun pumping →
      Run handle mtu begun { pumping with writable, world }
  | pump {pumping : Pumping ω} : Run handle mtu begun pumping →
      Run handle mtu begun (pumping.pump handle mtu)

theorem pumped_cases (pumping : Pumping ω) (handle : Handle) (mtu : Nat)
    (within : pumping.outgoing.offset ≤ pumping.outgoing.frame.length) :
    let pumped := pumping.pumped handle mtu
    (pumping.writable = false ∧ pumped.calls = #[] ∧ pumped.offset = pumping.outgoing.offset ∧
      pumped.writable = false ∧
      (pumped.outcome = if pumping.outgoing.isComplete then .complete else .blocked)) ∨
    (pumping.writable = true ∧
      Pumps pumping.outgoing.frame (max mtu 1) pumping.outgoing.offset pumped.calls.toList
        pumped.outcome pumped.offset ∧
      (pumped.writable = false ↔ pumped.outcome = .blocked)) := by
  intro pumped
  obtain ⟨outgoing, writable, world, calls⟩ := pumping
  cases writable with
  | false => exact .inl ⟨rfl, rfl, rfl, rfl, rfl⟩
  | true => exact .inr ⟨rfl, outgoing.pump_pumps handle mtu world within⟩

theorem pumped_offers (pumping : Pumping ω) (handle : Handle) (mtu : Nat)
    (within : pumping.outgoing.offset ≤ pumping.outgoing.frame.length) :
    Offers pumping.outgoing.frame (max mtu 1) pumping.outgoing.offset
      (pumping.pumped handle mtu).calls.toList (pumping.pumped handle mtu).offset := by
  rcases pumping.pumped_cases handle mtu within with ⟨-, unused, same, -⟩ | ⟨-, pumps, -⟩
  · rw [unused, same]
    exact .none
  · exact pumps.offers

theorem Run.offers {handle : Handle} {mtu : Nat} {begun : Outgoing} {pumping : Pumping ω}
    (run : pumping.Run handle mtu begun) (fresh : begun.offset = 0) :
    pumping.outgoing.frame = begun.frame ∧
      Offers begun.frame (max mtu 1) 0 pumping.calls pumping.outgoing.offset := by
  induction run with
  | start => exact ⟨rfl, fresh ▸ .none⟩
  | meanwhile _ _ _ ih => exact ih
  | @pump pumping _ ih =>
    obtain ⟨same, offers⟩ := ih
    have within := (offers.taken_eq (Nat.zero_le _)).2.1
    have next := pumping.pumped_offers handle mtu (same ▸ within)
    exact ⟨same, offers.trans (same ▸ next)⟩

open Outgoing (start)

theorem start_eq_ok {payload : Bytes} {tag : Tag} {begun : Outgoing} :
    Outgoing.start payload tag = .ok begun ↔
      payload.length < Bytes.wordLimit ∧ begun = { tag, frame := Frame.encoded payload } := by
  by_cases fits : payload.length < Bytes.wordLimit
  · simp [Outgoing.start, Frame.encode, fits, Except.map, eq_comm]
  · simp [Outgoing.start, Frame.encode, fits, Except.map]

end Pumping

open Pumping (start_eq_ok)

variable {ω : Type} [Streams ω]

/-- Whatever the sink answers, and however pumps follow each other: every write offers the next chunk of
the frame behind what the writes before it took, and what was taken is the front of the frame up to the
offset, which never goes back. A pump makes no more writes than there are chunks left. It is complete
exactly when all of the frame is taken, and blocked only without room; a write that fails is its last,
adds nothing to the offset and says nothing about room. It cannot go on exactly where the end of a chunk
does not fit a machine word. -/
theorem pump_exact {payload : Bytes} {tag : Tag} {begun : Outgoing}
    (started : Outgoing.start payload tag = .ok begun) {handle : Handle} {mtu : Nat}
    {pumping : Pumping ω} (run : pumping.Run handle mtu begun) :
    let frame := Frame.encoded payload
    let chunk := max mtu 1
    let pumped := pumping.pumped handle mtu
    let made := pumping.calls ++ pumped.calls.toList
    (∀ before call after, made = before ++ call :: after →
      (taken before).length < frame.length ∧
        ∃ answer, call = .write (nextChunk frame chunk (taken before).length) answer) ∧
    taken made = frame.take pumped.offset ∧
    pumping.outgoing.offset ≤ pumped.offset ∧ pumped.offset ≤ frame.length ∧
    pumped.calls.size ≤ chunkCount (frame.length - pumping.outgoing.offset) chunk ∧
    (pumped.outcome = .complete ↔ taken made = frame) ∧
    (pumped.outcome = .blocked → pumped.writable = false) ∧
    (∀ earlier offered reason later,
      pumped.calls.toList = earlier ++ .write offered (.error reason) :: later →
      later = [] ∧ pumped.outcome = .failed reason ∧
        pumped.offset = pumping.outgoing.offset + (taken earlier).length ∧
        pumped.writable = pumping.writable) ∧
    (∀ reason, pumped.outcome = .failed reason →
      ∃ earlier offered, pumped.calls.toList = earlier ++ [.write offered (.error reason)]) ∧
    (pumped.outcome = .overflow ↔
      pumped.writable = true ∧ pumped.offset < frame.length ∧
        machineLimit ≤ pumped.offset + chunk) := by
  obtain ⟨-, rfl⟩ := start_eq_ok.mp started
  intro frame chunk pumped made
  -- All the pumps together offer one sequence of chunks, cut where the stream took less.
  obtain ⟨(same : _ = frame), (earlier : Offers frame chunk 0 _ _)⟩ := run.offers rfl
  have within := (earlier.taken_eq (Nat.zero_le _)).2.1
  have next := pumping.pumped_offers handle mtu (same ▸ within)
  have turn := pumping.pumped_cases handle mtu (same ▸ within)
  rw [same] at next turn
  have offers : Offers frame chunk 0 made pumped.offset := earlier.trans next
  obtain ⟨-, inside, front⟩ := offers.taken_eq (Nat.zero_le _)
  rw [List.drop_zero, Nat.sub_zero] at front
  -- What was taken is a front of the frame, so the length tells when it is whole.
  have all : taken made = frame ↔ pumped.offset = frame.length := by
    refine ⟨fun whole => ?_, fun whole => by rw [front, whole, List.take_length]⟩
    rw [← whole, offers.length_taken (Nat.zero_le _), Nat.zero_add]
  refine ⟨fun before call after here => by simpa using offers.offered_at here, front,
    (next.taken_eq within).1, inside, ?_⟩
  rw [all]
  rcases turn with ⟨unwritable, unused, stays, unwritten, outcome⟩ | ⟨writable, pumps, room⟩
  · -- Without room nothing is offered, and the pump is complete if the frame was before.
    change pumped.calls = #[] at unused
    change pumped.offset = _ at stays
    change pumped.writable = false at unwritten
    have complete : pumping.outgoing.isComplete = true ↔ pumped.offset = frame.length := by
      rw [isComplete, same, stays, beq_iff_eq]
    change pumped.outcome = _ at outcome
    rw [outcome, unused, unwritten, ← complete]
    cases pumping.outgoing.isComplete <;> simp
  · refine ⟨pumps.length_le (by omega), pumps.complete_iff, room.mpr, ?_, ?_, ?_⟩
    · intro earlier offered reason later here
      obtain ⟨rfl, failed⟩ := pumps.failed_at here
      refine ⟨rfl, failed, ?_, ?_⟩
      · have none_taken : taken [.write offered (.error reason)] = [] := rfl
        rw [next.length_taken within, here, StreamCall.taken_append, none_taken, List.append_nil]
      · rw [writable, ← Bool.not_eq_false, room, failed]
        simp
    · exact fun reason failed => pumps.ends_failed failed
    · rw [pumps.overflow_iff, ← Bool.not_eq_false, room]

/-- The second write was not taken whole and the third failed; the frame is where it was before that. -/
theorem pump_exact_failed :
    ∃ (begun : Outgoing) (pumping : Pumping Bench.Rig),
      Outgoing.start [7, 8] 0 = .ok begun ∧ pumping.Run 0 2 begun ∧
      (pumping.pumped 0 2).outcome = .failed "lost" ∧ (pumping.pumped 0 2).offset = 3 ∧
      (pumping.pumped 0 2).writable = true ∧
      taken (pumping.calls ++ (pumping.pumped 0 2).calls.toList) = [2, 0, 0] := by
  let world : Bench.Rig := { wires := #[.scripted { writes := [.claim 9, .cap 1, .fail "lost"] }] }
  have started : Outgoing.start [7, 8] 0 = .ok { tag := 0, frame := Frame.encoded [7, 8] } := rfl
  let first := (⟨⟨0, Frame.encoded [7, 8], 0⟩, true, world, []⟩ : Pumping Bench.Rig).pump 0 2
  have run : Pumping.Run 0 2 ⟨0, Frame.encoded [7, 8], 0⟩ { first with writable := true } :=
    (Pumping.Run.start true world).pump.meanwhile true first.world
  obtain ⟨-, front, -⟩ := pump_exact started run
  refine ⟨_, _, started, run, ?_, ?_, ?_, ?_⟩
  · decide +kernel
  · decide +kernel
  · decide +kernel
  · rw [front]
    decide +kernel

/-- The number of writes is foreseen, for chunks of any size that is a machine word. A pump with room makes
exactly that many over a sink that takes each chunk whole: all of the full size but the last, which holds
the rest. And however often a sink takes less than it is offered, once the frame is complete there were
no fewer writes than foreseen, and at most one more for each of those. -/
theorem writes_foreseen {payload : Bytes} (tag : Tag) (fits : payload.length < Bytes.wordLimit)
    (handle : Handle) (mtu : Nat) :
    ∃ begun, Outgoing.start payload tag = .ok begun ∧
      (mtu < machineLimit → ∀ world : ω,
        let pumped := begun.pump handle mtu true world
        (∀ call ∈ pumped.calls, call.isShort = false) →
        pumped.outcome = .complete ∧ pumped.writable = true ∧
        pumped.calls.size = Frame.writeCount payload.length mtu ∧
        ∃ pieces rest, pumped.calls.toList.map StreamCall.offered = pieces ++ [rest] ∧
          (∀ piece ∈ pieces, piece.length = max mtu 1) ∧ rest ≠ [] ∧ rest.length ≤ max mtu 1 ∧
          pieces.flatten ++ rest = Frame.encoded payload) ∧
      (∀ pumping : Pumping ω, pumping.Run handle mtu begun → pumping.outgoing.isComplete = true →
        Frame.writeCount payload.length mtu ≤ pumping.calls.length ∧
        pumping.calls.length ≤
          Frame.writeCount payload.length mtu + pumping.calls.countP StreamCall.isShort) := by
  have size := Frame.length_encoded payload
  have foreseen : Frame.writeCount payload.length mtu
      = chunkCount (Frame.encoded payload).length (max mtu 1) := by
    rw [size, Nat.add_comm]
    rfl
  have positive : 0 < max mtu 1 := by omega
  refine ⟨_, start_eq_ok.mpr ⟨fits, rfl⟩, ?_, ?_⟩
  · intro small world pumped whole
    obtain ⟨(pumps : Pumps (Frame.encoded payload) _ 0 pumped.calls.toList _ _), room⟩ :=
      pump_pumps { tag, frame := Frame.encoded payload } handle mtu world (Nat.zero_le _)
    have all : ∀ call ∈ pumped.calls.toList, call.isShort = false :=
      fun call member => whole call (Array.mem_toList_iff.mp member)
    simp only [Frame.headerLength, Bytes.wordLimit] at size fits
    have within : max mtu 1 < machineLimit := by
      simp only [machineLimit] at small ⊢
      omega
    -- A frame of four gigabytes at most leaves the sums far below the machine limit.
    have double : (Frame.encoded payload).length + (Frame.encoded payload).length ≤ machineLimit := by
      simp only [machineLimit]
      omega
    obtain ⟨complete, cut⟩ := pumps.of_unhindered positive all within double (.inl rfl)
    obtain ⟨pieces, rest, same, equal, left, small⟩ := cut (by omega)
    have ended := pumps.complete_iff.mp complete
    refine ⟨complete, ?_, ?_, pieces, rest, same, equal, left, small, ?_⟩
    · rw [← Bool.not_eq_false, room, complete]
      simp
    -- The chunks cover the frame, and no more of them are offered than fit.
    · have least := pumps.offers.chunkCount_le positive
      have most := pumps.length_le positive
      rw [ended] at least
      rw [foreseen]
      exact Nat.le_antisymm most least
    · calc
        pieces.flatten ++ rest = (pumped.calls.toList.map StreamCall.offered).flatten := by
          rw [same]
          simp
        _ = taken pumped.calls.toList := (StreamCall.taken_of_whole all).symm
        _ = Frame.encoded payload := by
          rw [(pumps.offers.taken_eq (Nat.zero_le _)).2.2, ended]
          simp
  · intro pumping run complete
    obtain ⟨same, offers⟩ := run.offers rfl
    rw [isComplete, same, beq_iff_eq] at complete
    have least := offers.chunkCount_le positive
    have most := offers.length_le positive
    rw [complete] at least
    rw [foreseen]
    exact ⟨least, most⟩

/-- A frame of two chunks goes out in two writes, or in three when the first is not taken whole. -/
theorem writes_foreseen_displaced :
    let payload : Bytes := [7, 8]
    payload.length < Bytes.wordLimit ∧ ∃ (begun : Outgoing) (pumping : Pumping Bench.Rig),
      Outgoing.start payload 0 = .ok begun ∧ Frame.writeCount payload.length 4 = 2 ∧
      (begun.pump 0 4 true ({ wires := #[.scripted {}] } : Bench.Rig)).calls.size = 2 ∧
      pumping.Run 0 4 begun ∧ pumping.outgoing.isComplete = true ∧
      pumping.calls.countP StreamCall.isShort = 1 ∧ 2 ≤ pumping.calls.length ∧
      pumping.calls.length ≤ 3 := by
  intro payload
  have fits : payload.length < Bytes.wordLimit := by decide
  obtain ⟨begun, started, unhindered, counted⟩ := writes_foreseen (ω := Bench.Rig) 0 fits 0 4
  obtain rfl : begun = ⟨0, Frame.encoded [7, 8], 0⟩ := (start_eq_ok.mp started).2
  have foreseen : Frame.writeCount payload.length 4 = 2 := by decide
  rw [foreseen] at unhindered counted
  have whole := unhindered (by decide) { wires := #[.scripted {}] } (by decide +kernel)
  let world : Bench.Rig := { wires := #[.scripted { writes := [.cap 1] }] }
  let first := (⟨⟨0, Frame.encoded [7, 8], 0⟩, true, world, []⟩ : Pumping Bench.Rig).pump 0 4
  have run : Pumping.Run 0 4 ⟨0, Frame.encoded [7, 8], 0⟩
      ({ first with writable := true }.pump 0 4) :=
    ((Pumping.Run.start true world).pump.meanwhile true first.world).pump
  have complete : ({ first with writable := true }.pump 0 4).outgoing.isComplete = true := by
    decide +kernel
  have once : ({ first with writable := true }.pump 0 4).calls.countP StreamCall.isShort = 1 := by
    decide +kernel
  obtain ⟨least, most⟩ := counted _ run complete
  rw [once] at most
  exact ⟨fits, _, _, started, foreseen, whole.2.2.1, run, complete, once, least, most⟩

end Outgoing

end Sightline
