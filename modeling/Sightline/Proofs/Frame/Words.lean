import Sightline.Proofs.Frame.Pumping
import Sightline.Settings.Json

/-! The sums that sending takes, as machine words.

Of all of them only the end of the next chunk, counted from the start of the frame, can outgrow a word:
it is taken before it is cut down to the end of the frame. `pump_fits_iff` says for which chunk sizes that
happens to some sink, and `pump_outgrows` shows one. -/

set_option autoImplicit false

namespace Sightline

open Sightline.Frame (headerLength)
open StreamCall (taken)

namespace Frame

variable {chunk : Nat}

theorem chunkCount_eq (positive : 0 < chunk) {length : Nat} :
    chunkCount length chunk = length / chunk + (if length % chunk = 0 then 0 else 1) := by
  have split : length + (chunk - 1) = chunk * (length / chunk) + (length % chunk + (chunk - 1)) := by
    have := Nat.div_add_mod length chunk
    omega
  have below := Nat.mod_lt length positive
  rw [chunkCount, split, Nat.mul_add_div positive]
  congr 1
  split
  · next whole => exact Nat.div_eq_of_lt (by omega)
  · next rest => exact Nat.div_eq_of_lt_le (by omega) (by omega)

theorem chunkCount_le_length (positive : 0 < chunk) (length : Nat) :
    chunkCount length chunk ≤ length :=
  (chunkCount_le_iff positive).mpr (Nat.le_mul_of_pos_left length positive)

theorem writeCount_eq (payload : Bytes) (mtu : Nat) :
    writeCount payload.length mtu = chunkCount (encoded payload).length (max mtu 1) := by
  rw [length_encoded, Nat.add_comm]
  rfl

end Frame

namespace Outgoing

variable {frame : Bytes} {chunk offset last : Nat} {calls before after : List StreamCall}
  {call : StreamCall} {outcome : PumpOutcome}

/-- A chunk is offered only if its end fits a machine word. -/
theorem Pumps.end_fits (pumps : Pumps frame chunk offset calls outcome last)
    (here : calls = before ++ call :: after) :
    offset + (taken before).length + chunk < machineLimit := by
  induction pumps generalizing before with
  | complete | overflow => simp at here
  | failed _ _ fits | short _ fits =>
    obtain rfl : before = [] := by
      have := congrArg List.length here
      simp only [List.length_append, List.length_cons, List.length_nil] at this
      exact List.eq_nil_of_length_eq_zero (by omega)
    simpa using fits
  | @whole offset count last later outcome _ fits whole _ ih =>
    cases before with
    | nil => simpa using fits
    | cons first before =>
      obtain ⟨rfl, rest⟩ := List.cons.inj here
      rw [StreamCall.taken_cons, accepted_whole whole, List.length_append, ← Nat.add_assoc]
      exact ih rest

theorem Pumps.ne_overflow (pumps : Pumps frame chunk offset calls outcome last)
    (room : chunk + frame.length ≤ machineLimit) : outcome ≠ .overflow := by
  intro overflow
  have := pumps.overflow_iff.mp overflow
  omega

namespace Pumping

variable {ω : Type} [Streams ω] {handle : Handle} {mtu : Nat} {begun : Outgoing}
  {pumping : Pumping ω}

theorem Run.within (run : pumping.Run handle mtu begun) (fresh : begun.offset = 0) :
    pumping.outgoing.frame = begun.frame ∧
      pumping.outgoing.offset = (taken pumping.calls).length ∧
      pumping.outgoing.offset ≤ begun.frame.length := by
  obtain ⟨same, offers⟩ := run.offers fresh
  have length := offers.length_taken (Nat.zero_le _)
  exact ⟨same, by omega, (offers.taken_eq (Nat.zero_le _)).2.1⟩

theorem Run.pumped_end_fits (run : pumping.Run handle mtu begun) (fresh : begun.offset = 0)
    (here : (pumping.pumped handle mtu).calls.toList = before ++ call :: after) :
    (taken (pumping.calls ++ before)).length + max mtu 1 < machineLimit := by
  obtain ⟨same, offset, within⟩ := run.within fresh
  rw [StreamCall.taken_append, List.length_append, ← offset]
  rcases pumping.pumped_cases handle mtu (same ▸ within) with ⟨-, unused, -⟩ | ⟨-, pumps, -⟩
  · rw [unused] at here
    simp at here
  · exact pumps.end_fits here

theorem Run.end_fits (run : pumping.Run handle mtu begun) (fresh : begun.offset = 0)
    (here : pumping.calls = before ++ call :: after) :
    (taken before).length + max mtu 1 < machineLimit := by
  induction run generalizing before after with
  | start => simp at here
  | meanwhile _ _ _ ih => exact ih here
  | @pump pumping run ih =>
    -- The write was one of the earlier pumps, or it is one of this pump.
    rcases List.append_eq_append_iff.mp here with ⟨more, rfl, mine⟩ | ⟨more, earlier, mine⟩
    · exact run.pumped_end_fits fresh mine
    · cases more with
      | nil =>
        rw [List.append_nil] at earlier
        rw [List.nil_append] at mine
        have fits := run.pumped_end_fits fresh (mine.symm.trans (List.nil_append _).symm)
        rwa [List.append_nil, earlier] at fits
      | cons first more =>
        obtain ⟨rfl, -⟩ := List.cons.inj mine
        exact ih earlier

theorem Run.ne_overflow (run : pumping.Run handle mtu begun) (fresh : begun.offset = 0)
    (room : max mtu 1 + begun.frame.length ≤ machineLimit) :
    (pumping.pumped handle mtu).outcome ≠ .overflow := by
  obtain ⟨same, -, within⟩ := run.within fresh
  rcases pumping.pumped_cases handle mtu (same ▸ within) with ⟨-, -, -, -, outcome⟩ | ⟨-, pumps, -⟩
  · rw [outcome]
    split <;> simp
  · exact pumps.ne_overflow (by rwa [same])

end Pumping

theorem nextChunk_eq :
    nextChunk frame chunk offset
      = (frame.drop offset).take (min (offset + chunk) frame.length - offset) := by
  have same : min (offset + chunk) frame.length - offset = min chunk (frame.drop offset).length := by
    rw [List.length_drop]
    omega
  rw [nextChunk, same]
  exact List.take_eq_take_min

theorem rest_of_unfinished (unfinished : offset < frame.length) :
    ∃ byte more, frame.drop offset = byte :: more := by
  apply List.exists_cons_of_ne_nil
  rw [ne_eq, List.drop_eq_nil_iff]
  omega

theorem pump_short {ω : Type} [Streams ω] (begun : Outgoing) {handle : Handle} {mtu count : Nat}
    {world world' : ω} (unfinished : begun.offset < begun.frame.length)
    (fits : begun.offset + max mtu 1 < machineLimit)
    (writing : Streams.write world handle (nextChunk begun.frame (max mtu 1) begun.offset)
      = (.ok count, world'))
    (short : count < (nextChunk begun.frame (max mtu 1) begun.offset).length) :
    (begun.pump handle mtu true world).offset = begun.offset + count := by
  obtain ⟨byte, more, rest⟩ := rest_of_unfinished unfinished
  unfold nextChunk at writing short
  rw [rest] at writing short
  simp only [pump, if_true, rest, pumpFrom, if_neg (Nat.not_le.mpr fits), writing, if_pos short]

theorem pump_overflow {ω : Type} [Streams ω] (begun : Outgoing) {handle : Handle} {mtu : Nat}
    (world : ω) (unfinished : begun.offset < begun.frame.length)
    (full : machineLimit ≤ begun.offset + max mtu 1) :
    (begun.pump handle mtu true world).outcome = .overflow := by
  obtain ⟨byte, more, rest⟩ := rest_of_unfinished unfinished
  simp only [pump, if_true, rest, pumpFrom, if_pos full]

/-- A sink that leaves one byte of the frame brings the next sum as far as it can come. -/
theorem overflow_of_full {begun : Outgoing} {mtu : Nat} (fresh : begun.offset = 0)
    (filled : 0 < begun.frame.length) (short : begun.frame.length + begun.frame.length ≤ machineLimit)
    (word : mtu < machineLimit) (full : machineLimit < max mtu 1 + begun.frame.length) :
    ∃ pumping : Pumping Bench.Rig, pumping.Run 0 mtu begun ∧
      (pumping.pumped 0 mtu).outcome = .overflow := by
  -- The first write takes all but one byte, so that the second starts as far on as it can.
  let count := begun.frame.length - 1
  let world : Bench.Rig := { wires := #[.scripted { writes := [.cap count] }] }
  let first := (⟨begun, true, world, []⟩ : Pumping Bench.Rig).pump 0 mtu
  have size := length_nextChunk begun.frame (max mtu 1) begun.offset
  obtain ⟨world', writing⟩ : ∃ world', Streams.write world 0
      (nextChunk begun.frame (max mtu 1) begun.offset) = (.ok count, world') := by
    have least : min (nextChunk begun.frame (max mtu 1) begun.offset).length count = count := by
      omega
    exact ⟨_, congrArg (fun taken => (Except.ok taken, _)) least⟩
  have advanced : first.outgoing.offset = count := by
    have moved := pump_short begun (by omega) (by omega) writing (by omega)
    rwa [fresh, Nat.zero_add] at moved
  have run : Pumping.Run 0 mtu begun { first with writable := true } :=
    (Pumping.Run.start true world).pump.meanwhile true first.world
  refine ⟨_, run, pump_overflow first.outgoing first.world ?_ ?_⟩
  · rw [advanced]
    change count < begun.frame.length
    omega
  · rw [advanced]
    omega

/-- What becomes of the sums that sending takes, for every payload and every chunk size that can be set.
The length of the frame is a word, and so is the number of writes, by a division rounded up. Every write
that is made, by any pumps over any sink, has a chunk whose end is a word and lies within the frame. That
a pump cannot go on for the end of its next chunk happens to no sink exactly if the chunk size and the
frame together leave room, as they do with every chunk size in which the engine can read. -/
theorem pump_fits_iff {payload : Bytes} (fits : payload.length < Bytes.wordLimit) (tag : Tag)
    (mtu : UInt64) :
    let frame := Frame.encoded payload
    let chunk := max mtu.toNat 1
    ∃ begun, Outgoing.start payload tag = .ok begun ∧
      (payload.length + headerLength = frame.length ∧ frame.length < machineLimit ∧
        Frame.writeCount payload.length mtu.toNat
          = frame.length / chunk + (if frame.length % chunk = 0 then 0 else 1) ∧
        Frame.writeCount payload.length mtu.toNat < machineLimit) ∧
      (∀ (ω : Type) [Streams ω] (handle : Handle) (pumping : Pumping ω),
        pumping.Run handle mtu.toNat begun → ∀ before call after,
          pumping.calls ++ (pumping.pumped handle mtu.toNat).calls.toList = before ++ call :: after →
          let offset := (taken before).length
          let stop := min (offset + chunk) frame.length
          offset + chunk < machineLimit ∧ offset < stop ∧ stop ≤ frame.length ∧
            call.offered = (frame.drop offset).take (stop - offset)) ∧
      ((∀ (ω : Type) [Streams ω] (handle : Handle) (pumping : Pumping ω),
          pumping.Run handle mtu.toNat begun →
          (pumping.pumped handle mtu.toNat).outcome ≠ .overflow) ↔
        chunk + frame.length ≤ machineLimit) ∧
      (mtu.toNat ≤ Bytes.bufferLimit → chunk + frame.length ≤ machineLimit) := by
  intro frame chunk
  have total : frame.length = headerLength + payload.length := Frame.length_encoded payload
  have word : mtu.toNat < machineLimit := mtu.toNat_lt
  simp only [headerLength, Bytes.wordLimit] at total fits
  have chunked : 0 < chunk ∧ chunk < machineLimit := by
    simp only [chunk, machineLimit] at word ⊢
    omega
  have filled : 0 < frame.length := by omega
  have small : frame.length + frame.length ≤ machineLimit := by
    simp only [machineLimit]
    omega
  -- The limit is sharp: below it no offset reaches it, above it one short write does.
  refine ⟨_, Pumping.start_eq_ok.mpr ⟨fits, rfl⟩, ?_, ?_, ⟨fun safe => ?_, fun room => ?_⟩, ?_⟩
  · have counted := Frame.writeCount_eq payload mtu.toNat
    have whole : frame.length < machineLimit := by omega
    refine ⟨(Nat.add_comm ..).trans total.symm, whole,
      counted.trans (Frame.chunkCount_eq chunked.1), ?_⟩
    rw [counted]
    exact Nat.lt_of_le_of_lt (Frame.chunkCount_le_length chunked.1 frame.length) whole
  · intro ω _ handle pumping run before call after here
    obtain ⟨-, offers⟩ := run.pump.offers rfl
    obtain ⟨unfinished, answer, rfl⟩ := offers.offered_at here
    have ends := run.pump.end_fits rfl here
    rw [Nat.zero_add] at unfinished
    refine ⟨ends, Nat.lt_min.mpr ⟨by omega, unfinished⟩, Nat.min_le_right _ _, ?_⟩
    rw [StreamCall.offered, Nat.zero_add]
    exact nextChunk_eq
  · apply Nat.le_of_not_lt
    intro full
    let begun : Outgoing := ⟨tag, frame, 0⟩
    have fresh : begun.offset = 0 := rfl
    obtain ⟨pumping, run, overflow⟩ := overflow_of_full fresh filled small word full
    exact safe Bench.Rig 0 pumping run overflow
  · intro ω _ handle pumping run
    exact run.ne_overflow rfl room
  · simp only [Bytes.bufferLimit, chunk, machineLimit]
    omega

/-- A frame of six bytes in chunks of four, to a sink that takes one byte of the first. -/
theorem pump_fits_iff_displaced :
    let payload : Bytes := [7, 8]
    let begun : Outgoing := ⟨0, Frame.encoded payload, 0⟩
    payload.length < Bytes.wordLimit ∧ Outgoing.start payload 0 = .ok begun ∧
    Frame.writeCount payload.length 4 = 2 ∧
    ∃ pumping : Pumping Bench.Rig, pumping.Run 0 4 begun ∧ pumping.outgoing.offset = 1 ∧
      (∀ before call after,
        pumping.calls ++ (pumping.pumped 0 4).calls.toList = before ++ call :: after →
        (taken before).length + 4 < machineLimit) ∧
      (pumping.pumped 0 4).outcome = .complete ∧ (pumping.pumped 0 4).outcome ≠ .overflow := by
  intro payload begun
  have fits : payload.length < Bytes.wordLimit := by decide
  obtain ⟨begun', started, ⟨-, -, counted, -⟩, ends, overflows, -⟩ := pump_fits_iff fits 0 4
  obtain rfl : begun' = begun := (Pumping.start_eq_ok.mp started).2
  let world : Bench.Rig := { wires := #[.scripted { writes := [.cap 1] }] }
  let first := (⟨begun, true, world, []⟩ : Pumping Bench.Rig).pump 0 4
  have run : Pumping.Run 0 4 begun { first with writable := true } :=
    (Pumping.Run.start true world).pump.meanwhile true first.world
  have room := overflows.mpr (by decide) Bench.Rig 0 _ run
  exact ⟨fits, started, counted.trans (by decide), _, run, by decide +kernel,
    fun before call after here => (ends Bench.Rig 0 _ run before call after here).1,
    by decide +kernel, room⟩

/-- Settings may ask for the largest chunk size there is. Then a sink that does not take the whole frame
at once makes the end of the second chunk outgrow a word. -/
theorem pump_outgrows :
    let text := Bytes.ofText "\x7b\"radio\":\x7b\"mtu\":18446744073709551615\x7d\x7d"
    let begun : Outgoing := ⟨0, Frame.encoded [1], 0⟩
    Outgoing.start [1] 0 = .ok begun ∧
    ∃ settings, (Settings.parse text).toOption = some settings ∧
    ∃ pumping : Pumping Bench.Rig, pumping.Run 0 settings.radio.mtu.toNat begun ∧
      pumping.outgoing.offset = 1 ∧
      (pumping.pumped 0 settings.radio.mtu.toNat).outcome = .overflow := by
  intro text begun
  let settings : Settings := { radio := { mtu := 18446744073709551615 } }
  let world : Bench.Rig := { wires := #[.scripted { writes := [.cap 1] }] }
  let first := (⟨begun, true, world, []⟩ : Pumping Bench.Rig).pump 0 settings.radio.mtu.toNat
  have run : Pumping.Run 0 settings.radio.mtu.toNat begun { first with writable := true } :=
    (Pumping.Run.start true world).pump.meanwhile true first.world
  exact ⟨rfl, settings, by decide +kernel, _, run, by decide +kernel, by decide +kernel⟩

end Outgoing

end Sightline
