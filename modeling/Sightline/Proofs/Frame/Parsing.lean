import Mathlib.Data.List.Basic
import Sightline.Bench.Rig
import Sightline.Proofs.Frame.Incoming

/-! Draining reads a stream frame by frame, however it arrives.

A source may serve less of a read than it holds, and bytes arrive between drains. As long as no
drain fails, the frames given so far are those that the reference reading finds in the bytes taken
so far, and what the receiver has in hand is what that reading leaves over (`drains_parse`). A
source that keeps nothing back is drained as far as it goes, and only a header that announces too
much makes a drain fail. -/

set_option autoImplicit false

namespace Sightline

def StreamCall.receivedIn (calls : Array StreamCall) : Bytes :=
  calls.toList.flatMap StreamCall.received

namespace StreamCall

@[simp] theorem receivedIn_empty : receivedIn #[] = [] := rfl

@[simp] theorem receivedIn_append (calls : Array StreamCall) (call : Option StreamCall) :
    receivedIn (calls ++ call.toArray) = receivedIn calls ++ receivedBy call := by
  cases call <;> simp [receivedIn, receivedBy]

@[simp] theorem receivedIn_push (calls : Array StreamCall) (call : StreamCall) :
    receivedIn (calls.push call) = receivedIn calls ++ call.received := by
  simp [receivedIn]

end StreamCall

open StreamCall (receivedBy receivedIn)

theorem Frame.split_before {limit : Nat} {payloads : List Bytes} {rest : Bytes}
    (fits : ∀ payload ∈ payloads, Fits limit payload) (few : splitOne limit rest = .incomplete) :
    split limit (stream payloads ++ rest) = ⟨payloads, rest, none⟩ := by
  simp [split_stream fits, split_of_incomplete few]

theorem Frame.split_at_header {limit length : Nat} {payloads : List Bytes}
    (fits : ∀ payload ∈ payloads, Fits limit payload) (short : length < Bytes.wordLimit)
    (refused : limit < length) (rest : Bytes) :
    split limit (stream payloads ++ (Bytes.word length ++ rest))
      = ⟨payloads, Bytes.word length ++ rest, some length⟩ := by
  have announced := Bytes.ofWord_word length short
  rw [split_stream fits]
  simp only [Bytes.word, List.cons_append, List.nil_append]
  rw [split_of_oversized (by rwa [Frame.announced, announced])]
  simp [Frame.announced, announced]

namespace Incoming

variable {ω : Type} [Streams ω]

/-- A source that is a queue as long as it is live: a read serves any part of what was asked,
nothing at worst, and bytes arrive at the end of the queue. -/
structure Rationed (live : ω → Prop) (queue : ω → Bytes) (handle : Handle) (feed : ω → Bytes → ω) :
    Prop where
  available : ∀ {world : ω}, live world →
    Streams.available world handle = (queue world).length
  read : ∀ {world : ω} (wanted : Nat), live world → ∃ count ≤ wanted,
    (Streams.read world handle wanted).1 = .ok ((queue world).take count) ∧
      queue (Streams.read world handle wanted).2 = (queue world).drop count
  keeps : ∀ {world : ω} (wanted : Nat), live world → live (Streams.read world handle wanted).2
  arrives : ∀ {world : ω} (bytes : Bytes), live world →
    live (feed world bytes) ∧ queue (feed world bytes) = queue world ++ bytes

/-- A live source always serves what it holds. -/
def Generous (live : ω → Prop) (queue : ω → Bytes) (handle : Handle) : Prop :=
  ∀ (world : ω) wanted, live world → Serves queue handle world wanted

def Overlong (limit : Nat) (header : Bytes) (error : ChannelError) : Prop :=
  ∃ length, header = Bytes.word length ∧ limit < length ∧ length < Bytes.wordLimit ∧
    error = .frameTooLarge length limit

def Step.Ends (queue : ω → Bytes) (handle : Handle) (incoming : Incoming) (world : ω) :
    Step ω → Prop
  | .next _ _ _ _ => True
  | .rest incoming' _ call => incoming' = incoming ∧ receivedBy call = [] ∧ incoming.Starved []
  | .failed _ _ call error => Overlong incoming.limit (incoming.heard ++ call.received) error ∨
    ∃ wanted, ¬Serves queue handle world wanted

variable {live : ω → Prop} {queue : ω → Bytes} {handle : Handle} {feed : ω → Bytes → ω}

theorem Rationed.faulty (source : Rationed live queue handle feed)
    (generous : Generous live queue handle) : Faulty live queue handle :=
  ⟨source.available, fun wanted alive => .inl (generous _ wanted alive), source.keeps⟩

theorem readHeader_ends (source : Rationed live queue handle feed) (incoming : Incoming) {world : ω}
    (alive : live world) (waiting : incoming.expected = none)
    (enough : Frame.headerLength ≤ (queue world).length) :
    (incoming.readHeader handle world).Ends queue handle incoming world := by
  obtain ⟨count, -, answer, -⟩ := source.read Frame.headerLength alive
  have served : Serves queue handle world Frame.headerLength →
      (Streams.read world handle Frame.headerLength).1
        = .ok ((queue world).take Frame.headerLength) := And.left
  unfold readHeader
  split
  · next reading => simp [reading] at answer
  · next a b c d world' reading =>
    simp only
    split
    · next refused =>
      refine .inl ⟨Frame.announced a b c d, ?_, refused, Bytes.ofWord_lt a b c d, rfl⟩
      simp [heard, waiting, StreamCall.received, Frame.announced, Bytes.word_ofWord]
    · trivial
  · next got world' other reading =>
    -- Four bytes were there, so that a full read would have given a header.
    refine .inr ⟨Frame.headerLength, fun serves => ?_⟩
    have full := served serves
    rw [reading] at full
    obtain rfl := Except.ok.inj full
    have four : ((queue world).take Frame.headerLength).length = 4 := by
      rw [List.length_take, Nat.min_eq_left enough]
      rfl
    obtain ⟨a, b, c, d, bytes⟩ := List.length_eq_four.mp four
    exact other a b c d bytes

theorem step_ends (source : Rationed live queue handle feed) (incoming : Incoming) (chunk : Nat)
    {world : ω} (alive : live world) :
    (incoming.step handle chunk world).Ends queue handle incoming world := by
  have held := source.available alive
  unfold step
  split
  · next waiting =>
    split
    · exact ⟨rfl, rfl, by simp [Starved, waiting, Frame.headerLength]⟩
    · exact readHeader_ends source incoming alive waiting (by omega)
  · next length waiting =>
    split
    · next wanting =>
      obtain ⟨count, -, answer, -⟩ := source.read (min (length - incoming.buffer.size) chunk) alive
      unfold readPayload
      simp only
      split
      · next reading => simp [reading] at answer
      · exact ⟨rfl, rfl, by simp [Starved, waiting, wanting]⟩
      · split <;> trivial
    · trivial

theorem queue_of_step (source : Rationed live queue handle feed) (incoming : Incoming) (chunk : Nat)
    {world : ω} (alive : live world) :
    live (incoming.step handle chunk world).world ∧
      queue world = receivedBy (incoming.step handle chunk world).call?
        ++ queue (incoming.step handle chunk world).world := by
  rcases reads_of_step incoming handle chunk world with ⟨same, unused⟩ | ⟨wanted, -, left, used⟩
  · rw [same, unused]
    exact ⟨alive, rfl⟩
  · obtain ⟨count, -, answer, rest⟩ := source.read wanted alive
    rw [left, used, answer, rest]
    exact ⟨source.keeps wanted alive, (List.take_append_drop count _).symm⟩

/-- What a drain makes of what was heard `before` it and of the bytes in the queue: it takes frames
off the front until more is needed; or a header announces too much, or a read falls short. -/
def Parses (live : ω → Prop) (queue : ω → Bytes) (handle : Handle) (limit : Nat)
    (before queued : Bytes) (drained : Drained ω) : Prop :=
  live drained.world ∧ queued = receivedIn drained.calls ++ queue drained.world ∧
  match drained.frames with
  | .ok given => drained.incoming.Formed ∧ drained.incoming.limit = limit ∧
    drained.incoming.Starved [] ∧ (∀ payload ∈ given, Frame.Fits limit payload) ∧
    before ++ receivedIn drained.calls = Frame.stream given ++ drained.incoming.heard
  | .error error => (∃ done header, (∀ payload ∈ done, Frame.Fits limit payload) ∧
      before ++ receivedIn drained.calls = Frame.stream done ++ header ∧
      Overlong limit header error) ∨
    ∃ world wanted, live world ∧ ¬Serves queue handle world wanted

theorem drainFrom_parses (source : Rationed live queue handle feed) {incoming : Incoming}
    (chunk : Nat) {limit : Nat} {world : ω} (frames : Array Bytes) (calls : Array StreamCall)
    {before queued : Bytes} (alive : live world) (formed : incoming.Formed)
    (limited : incoming.limit = limit) (fits : ∀ payload ∈ frames.toList, Frame.Fits limit payload)
    (here : before ++ receivedIn calls = Frame.stream frames.toList ++ incoming.heard)
    (taken : queued = receivedIn calls ++ queue world) :
    Parses live queue handle limit before queued
      (incoming.drainFrom handle chunk world frames calls) := by
  -- On the steps: with `here` and `taken` for the steps so far, each accounts for what it read.
  fun_induction drainFrom incoming handle chunk world frames calls with
  | case1 incoming world frames calls incoming' world' call frame stepping shorter ih =>
    have off := queue_of_step source incoming chunk alive
    rw [stepping] at off
    obtain ⟨alive', left⟩ := off
    obtain ⟨formed', limit', fits', hears⟩ := hears_of_step formed stepping
    refine ih alive' formed' (limit'.trans limited) ?_ ?_ ?_
    · rw [Array.toList_append]
      exact List.forall_mem_append.mpr ⟨fits, by simpa [limited] using fits'⟩
    · rw [StreamCall.receivedIn_append, ← List.append_assoc, here, List.append_assoc, hears,
        Array.toList_append, Frame.stream_append, List.append_assoc]
      simp
    · rw [taken, left, StreamCall.receivedIn_append, List.append_assoc]
      rfl
  | case2 incoming world frames calls incoming' world' call stepping =>
    have off := queue_of_step source incoming chunk alive
    have ends := step_ends source incoming chunk alive
    rw [stepping] at off ends
    obtain ⟨alive', left⟩ := off
    obtain ⟨rfl, nothing, starved⟩ := ends
    refine ⟨alive', ?_, formed, limited, starved, fits, ?_⟩
    · rw [taken, left, StreamCall.receivedIn_append, List.append_assoc]
      rfl
    · rw [StreamCall.receivedIn_append, nothing, List.append_nil, here]
  | case3 incoming world frames calls incoming' world' call error stepping =>
    have off := queue_of_step source incoming chunk alive
    have ends := step_ends source incoming chunk alive
    rw [stepping] at off ends
    obtain ⟨alive', left⟩ := off
    refine ⟨alive', ?_, ?_⟩
    · rw [taken, left, StreamCall.receivedIn_push, List.append_assoc]
      rfl
    · rcases ends with overlong | ⟨wanted, short⟩
      · refine .inl ⟨frames.toList, _, fits, ?_, limited ▸ overlong⟩
        rw [StreamCall.receivedIn_push, ← List.append_assoc, here, List.append_assoc]
      · exact .inr ⟨world, wanted, alive, short⟩

theorem drain_parses (source : Rationed live queue handle feed) {incoming : Incoming} (mtu : Nat)
    {world : ω} (alive : live world) (formed : incoming.Formed) :
    Parses live queue handle incoming.limit incoming.heard (queue world)
      (incoming.drain handle mtu world) :=
  drainFrom_parses source (max mtu 1) #[] #[] alive formed rfl (by simp) (by simp) (by simp)

end Incoming

/-- A receiver and its surroundings in a run, with all that went through them: the bytes that
arrived, those that were taken off the source, and the frames that were given. -/
structure Intake (ω : Type) where
  incoming : Incoming
  world : ω
  arrived : Bytes := []
  taken : Bytes := []
  given : List Bytes := []

namespace Intake

variable {ω : Type}

def arrive (intake : Intake ω) (feed : ω → Bytes → ω) (bytes : Bytes) : Intake ω :=
  { intake with world := feed intake.world bytes, arrived := intake.arrived ++ bytes }

def absorb (intake : Intake ω) (drained : Drained ω) (frames : List Bytes) : Intake ω :=
  { intake with
    incoming := drained.incoming
    world := drained.world
    taken := intake.taken ++ receivedIn drained.calls
    given := intake.given ++ frames }

variable [Streams ω]

/-- Runs in which bytes arrive and drains follow, in any order and with any chunk sizes, none of which
fails. -/
inductive Run (feed : ω → Bytes → ω) (handle : Handle) (limit : Nat) (start : ω) :
    Intake ω → Prop where
  | start : Run feed handle limit start { incoming := { limit }, world := start }
  | arrive {intake : Intake ω} (bytes : Bytes) : Run feed handle limit start intake →
      Run feed handle limit start (intake.arrive feed bytes)
  | drain {intake : Intake ω} (mtu : Nat) {frames : List Bytes} : Run feed handle limit start intake →
      (intake.incoming.drain handle mtu intake.world).frames = .ok frames →
      Run feed handle limit start
        (intake.absorb (intake.incoming.drain handle mtu intake.world) frames)

open Incoming (Rationed Generous)

structure Parsed (live : ω → Prop) (queue : ω → Bytes) (limit : Nat) (start : ω) (intake : Intake ω) :
    Prop where
  alive : live intake.world
  formed : intake.incoming.Formed
  limited : intake.incoming.limit = limit
  starved : intake.incoming.Starved []
  fits : ∀ payload ∈ intake.given, Frame.Fits limit payload
  taken : intake.taken = Frame.stream intake.given ++ intake.incoming.heard
  arrived : queue start ++ intake.arrived = intake.taken ++ queue intake.world

variable {live : ω → Prop} {queue : ω → Bytes} {handle : Handle} {feed : ω → Bytes → ω} {limit : Nat}
  {start : ω} {intake : Intake ω}

theorem Run.parsed (source : Rationed live queue handle feed) (alive : live start)
    (run : Run feed handle limit start intake) : intake.Parsed live queue limit start := by
  -- By induction on the run: what was taken is always the stream of the frames given, then what is
  -- held of the next one.
  induction run with
  | start =>
    exact ⟨alive, ⟨fun _ => rfl, by simp⟩, rfl, by simp [Incoming.Starved, Frame.headerLength],
      by simp, rfl, by simp⟩
  | @arrive intake bytes _ ih =>
    obtain ⟨alive', fed⟩ := source.arrives bytes ih.alive
    refine ⟨alive', ih.formed, ih.limited, ih.starved, ih.fits, ih.taken, ?_⟩
    simp only [Intake.arrive, fed]
    rw [← List.append_assoc, ih.arrived, List.append_assoc]
  | @drain intake mtu frames _ answer ih =>
    obtain ⟨alive', queued, parses⟩ := Incoming.drain_parses source mtu ih.alive ih.formed
    rw [answer] at parses
    obtain ⟨formed, limited, starved, fits, same⟩ := parses
    rw [ih.limited] at limited fits
    refine ⟨alive', formed, limited, starved, List.forall_mem_append.mpr ⟨ih.fits, fits⟩, ?_, ?_⟩
    · simp only [absorb]
      rw [ih.taken, List.append_assoc, same, Frame.stream_append, List.append_assoc]
    · simp only [absorb]
      rw [ih.arrived, queued, List.append_assoc]

variable (source : Rationed live queue handle feed) (generous : Generous live queue handle)
  (alive : live start) (run : Run feed handle limit start intake) (mtu : Nat)

include source generous alive run

/-- A generous source is drained as far as it goes. -/
theorem Run.served {frames : List Bytes}
    (answer : (intake.incoming.drain handle mtu intake.world).frames = .ok frames) :
    let drained := intake.incoming.drain handle mtu intake.world
    drained.incoming.Starved (queue drained.world) ∧
      Frame.split limit (queue start ++ intake.arrived)
        = ⟨intake.given ++ frames, drained.incoming.heard ++ queue drained.world, none⟩ := by
  intro drained
  have before := run.parsed source alive
  -- The run goes on with this drain, and the source serves until the receiver starves.
  have after := (run.drain mtu answer).parsed source alive
  have hears := Incoming.drainFrom_hears (source.faulty generous) intake.world #[] #[]
    (show 0 < max mtu 1 by omega) before.alive before.formed
  rw [← Incoming.drain] at hears
  simp only [Incoming.Hears, answer] at hears
  have starved : drained.incoming.Starved (queue drained.world) := hears.2.2.2.1
  have few : Frame.splitOne drained.incoming.limit
      (drained.incoming.heard ++ queue drained.world) = .incomplete :=
    after.formed.incomplete starved
  have whole : queue start ++ intake.arrived = Frame.stream (intake.given ++ frames)
      ++ (drained.incoming.heard ++ queue drained.world) := by
    rw [← List.append_assoc]
    exact after.arrived.trans (congrArg (· ++ queue drained.world) after.taken)
  rw [show drained.incoming.limit = limit from after.limited] at few
  exact ⟨starved, whole ▸ Frame.split_before after.fits few⟩

/-- Only a header that announces too much makes a drain of a generous source fail. -/
theorem Run.refused {error : ChannelError}
    (answer : (intake.incoming.drain handle mtu intake.world).frames = .error error) :
    let whole := Frame.split limit (queue start ++ intake.arrived)
    ∃ length, whole.oversized = some length ∧ error = .frameTooLarge length limit ∧
      intake.taken ++ receivedIn (intake.incoming.drain handle mtu intake.world).calls
        = Frame.stream whole.frames ++ Bytes.word length := by
  intro whole
  have before := run.parsed source alive
  obtain ⟨-, queued, parses⟩ := Incoming.drain_parses source mtu before.alive before.formed
  rw [answer, before.limited] at parses
  rcases parses with ⟨done, header, fits, same, length, rfl, refused, short, rfl⟩ | stingy
  · have within : ∀ payload ∈ intake.given ++ done, Frame.Fits limit payload :=
      List.forall_mem_append.mpr ⟨before.fits, fits⟩
    -- The frames that this drain completed are lost, but the reference reading has them too.
    have taken : intake.taken ++ receivedIn (intake.incoming.drain handle mtu intake.world).calls
        = Frame.stream (intake.given ++ done) ++ Bytes.word length := by
      rw [before.taken, List.append_assoc, same, Frame.stream_append, List.append_assoc]
    have reading := Frame.split_at_header within short refused
      (queue (intake.incoming.drain handle mtu intake.world).world)
    rw [← List.append_assoc, ← taken, List.append_assoc, ← queued, ← before.arrived] at reading
    exact ⟨length, by simp [whole, reading], rfl, by simp [whole, reading, taken]⟩
  · obtain ⟨world, wanted, there, falls⟩ := stingy
    exact absurd (generous world wanted there) falls

end Intake

open Incoming (Rationed Generous)

variable {ω : Type} [Streams ω] {live : ω → Prop} {queue : ω → Bytes} {handle : Handle}
  {feed : ω → Bytes → ω}

/-- As long as no drain fails, the frames given are those of the reference reading of what was
taken, and the receiver has in hand what that reading leaves over; the rest of what arrived is still
in the source. Over a source that keeps nothing back, a drain that succeeds leaves less than a
header, or nothing while payload is missing, and all frames that arrived are given; a drain fails
only because of the first header that announces too much, and has taken what comes before it and
this header. -/
theorem drains_parse (source : Rationed live queue handle feed) {start : ω} (alive : live start)
    {limit : Nat} {intake : Intake ω} (run : intake.Run feed handle limit start) :
    Frame.split limit intake.taken = ⟨intake.given, intake.incoming.heard, none⟩ ∧
    (match intake.incoming.expected with
      | none => intake.incoming.buffer = #[]
      | some length => intake.incoming.buffer.size < length ∧ length ≤ limit) ∧
    queue start ++ intake.arrived = intake.taken ++ queue intake.world ∧
    (Generous live queue handle → ∀ mtu,
      let drained := intake.incoming.drain handle mtu intake.world
      let whole := Frame.split limit (queue start ++ intake.arrived)
      match drained.frames with
      | .ok frames => drained.incoming.Starved (queue drained.world) ∧
        whole = ⟨intake.given ++ frames, drained.incoming.heard ++ queue drained.world, none⟩
      | .error error => ∃ length, whole.oversized = some length ∧
        error = .frameTooLarge length limit ∧
        intake.taken ++ receivedIn drained.calls
          = Frame.stream whole.frames ++ Bytes.word length) := by
  have parsed := run.parsed source alive
  have few := parsed.formed.incomplete parsed.starved
  rw [List.append_nil, parsed.limited] at few
  refine ⟨parsed.taken ▸ Frame.split_before parsed.fits few, ?_, parsed.arrived, ?_⟩
  · have starved := parsed.starved
    split
    · next idle => exact parsed.formed.idle idle
    · next length waiting =>
      simp only [Incoming.Starved, waiting] at starved
      exact ⟨starved.1, parsed.limited ▸ (parsed.formed.within length waiting).2.1⟩
  -- A source that gives all it has leaves nothing of the stream behind.
  · intro generous mtu drained whole
    split
    · next frames answer => exact run.served source generous alive mtu answer
    · next error answer => exact run.refused source generous alive mtu answer

namespace Bench

theorem Script.read_capped (script : Script) (wanted : Nat)
    (capped : ∀ plan ∈ script.reads, ∃ count, plan = .cap count) :
    ∃ count ≤ wanted, (script.read wanted).1 = .ok (script.queue.take count) ∧
      (script.read wanted).2 = { script with
        queue := script.queue.drop count, reads := script.reads.tail } := by
  unfold Script.read
  split
  · next unplanned => exact ⟨wanted, Nat.le_refl _, rfl, by simp [unplanned]⟩
  · next count reads planned =>
    exact ⟨min wanted count, Nat.min_le_left _ _, rfl, by simp [planned]⟩
  · next reason reads planned =>
    obtain ⟨count, other⟩ := capped (.fail reason) (by simp [planned])
    cases other

namespace Rig

/-- A scripted pair that reports what it holds, and whose reads never fail. -/
def Rations (handle : Handle) (rig : Rig) : Prop :=
  ∃ script, rig.wire? handle = some (.scripted script) ∧ script.extra = 0 ∧
    ∀ plan ∈ script.reads, ∃ count, plan = .cap count

def queued (handle : Handle) (rig : Rig) : Bytes :=
  match rig.wire? handle with
  | some (.scripted script) => script.queue
  | some (.piped pair) => pair.inbound.queue
  | none => []

def fed (handle : Handle) (rig : Rig) (bytes : Bytes) : Rig :=
  (rig.change handle none (·.feed bytes)).2

theorem read_scripted {rig : Rig} {handle : Handle} {script : Script} (wanted : Nat)
    (there : rig.wire? handle = some (.scripted script)) :
    (Streams.read rig handle wanted).1 = (script.read wanted).1 ∧
      (Streams.read rig handle wanted).2.wire? handle = some (.scripted (script.read wanted).2) := by
  have read : rig.change handle (.ok []) (·.read wanted)
      = ((Streams.read rig handle wanted).1, (Streams.read rig handle wanted).2) := rfl
  obtain ⟨answer, left⟩ := getElem?_of_change there read
  exact ⟨answer.symm, left⟩

theorem rationed (handle : Handle) :
    Incoming.Rationed (Rations handle) (queued handle) handle (fed handle) where
  available := by
    rintro rig ⟨script, there, honest, -⟩
    simp [Streams.available, queued, there, Wire.available, honest]
  read := by
    rintro rig wanted ⟨script, there, -, capped⟩
    obtain ⟨count, within, given, rest⟩ := script.read_capped wanted capped
    obtain ⟨answer, left⟩ := read_scripted wanted there
    rw [given] at answer
    rw [rest] at left
    exact ⟨count, within, by simpa [queued, there] using answer, by simp [queued, there, left]⟩
  keeps := by
    rintro rig wanted ⟨script, there, honest, capped⟩
    obtain ⟨count, -, -, rest⟩ := script.read_capped wanted capped
    obtain ⟨-, left⟩ := read_scripted wanted there
    rw [rest] at left
    exact ⟨_, left, honest, fun plan member => capped plan (List.mem_of_mem_tail member)⟩
  arrives := by
    rintro rig bytes ⟨script, there, honest, capped⟩
    have change : rig.change handle none (·.feed bytes)
        = ((rig.change handle none (·.feed bytes)).1, fed handle rig bytes) := rfl
    have left : (fed handle rig bytes).wire? handle
        = some (.scripted { script with queue := script.queue ++ bytes }) :=
      (getElem?_of_change there change).2
    exact ⟨⟨_, left, honest, capped⟩, by simp [queued, there, left]⟩

end Rig

end Bench

/-- Two frames that arrive in pieces, the second not whole yet, over a source that serves a part of
some reads and nothing of another. -/
theorem drains_parse_pieces :
    let start : Bench.Rig := { wires := #[.scripted { reads := [.cap 4, .cap 1, .cap 0] }] }
    ∃ intake, Intake.Run (Bench.Rig.fed 0) 0 8 start intake ∧ intake.given = [[7, 8]] ∧
      Frame.split 8 intake.taken = ⟨[[7, 8]], [3, 0, 0, 0, 9], none⟩ := by
  intro start
  have gives : ∀ {answer : Except ChannelError (List Bytes)} (frames : List Bytes),
      answer.toOption = some frames → answer = .ok frames := by
    rintro (error | given) frames same
    · cases same
    · exact congrArg _ (Option.some.inj same)
  have run : ∃ intake, Intake.Run (Bench.Rig.fed 0) 0 8 start intake ∧ intake.given = [[7, 8]] ∧
      intake.incoming.heard = [3, 0, 0, 0, 9] := by
    refine ⟨_, Intake.Run.start
      |>.arrive [2, 0, 0]
      |>.drain 16 (gives [] (by decide +kernel))
      |>.arrive [0, 7]
      |>.drain 16 (gives [] (by decide +kernel))
      |>.arrive [8, 3, 0, 0, 0, 9]
      |>.drain 1 (gives [[7, 8]] (by decide +kernel)), ?_⟩
    decide +kernel
  obtain ⟨intake, run, given, hand⟩ := run
  have alive : Bench.Rig.Rations 0 start := ⟨_, rfl, rfl, by simp⟩
  have parsed := (drains_parse (Bench.Rig.rationed 0) alive run).1
  exact ⟨intake, run, given, by rw [parsed, given, hand]⟩

end Sightline
