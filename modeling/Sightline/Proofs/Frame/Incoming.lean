import Sightline.Frame.Incoming
import Sightline.Proofs.Frame.Stream

/-! What one drain hears, and what it makes of it.

`Incoming.heard` is the part of a frame that a receiver has taken in, as it was on the wire. A step of
a drain adds what it read and takes off the frame that became whole (`hears_of_step`). A source may
hold a queue of which a read can fail, and then a drain takes frames off the front of it until it
starves or fails (`drainFrom_hears`). A source that keeps nothing back is `Queued`; drained of the
frames of some payloads, it yields these payloads in order and fails never (`drainFrom_queued`). -/

set_option autoImplicit false

namespace Sightline

def StreamCall.receivedBy (call : Option StreamCall) : Bytes :=
  call.elim [] StreamCall.received

namespace Incoming

theorem size_filled (buffer : Array UInt8) (bytes : Bytes) :
    (buffer ++ bytes).size = buffer.size + bytes.length := by
  rw [← Array.length_toList]
  simp

/-- The part of the current frame that has been taken in, as it was on the wire. -/
def heard (incoming : Incoming) : Bytes :=
  match incoming.expected with
  | none => []
  | some length => Bytes.word length ++ incoming.buffer.toList

/-- What holds of a receiver at every step: without a header nothing is collected, and of an announced
payload never more than was announced. -/
structure Formed (incoming : Incoming) : Prop where
  idle : incoming.expected = none → incoming.buffer = #[]
  within : ∀ length, incoming.expected = some length →
    incoming.buffer.size ≤ length ∧ length ≤ incoming.limit ∧ length < Bytes.wordLimit

theorem formed_reset (incoming : Incoming) : incoming.reset.Formed :=
  ⟨fun _ => rfl, fun _ h => by simp [reset] at h⟩

@[simp] theorem heard_reset (incoming : Incoming) : incoming.reset.heard = [] := rfl

theorem Formed.finish {incoming : Incoming} {length : Nat} (formed : incoming.Formed)
    (waiting : incoming.expected = some length) (whole : length ≤ incoming.buffer.size) :
    Frame.Fits incoming.limit (incoming.finish length).2 ∧
      incoming.heard = Frame.encoded (incoming.finish length).2 := by
  obtain ⟨size, limit, fits⟩ := formed.within length waiting
  have long : incoming.buffer.toList.length = length := by
    simp only [Array.length_toList]
    omega
  have all : incoming.buffer.toList.take length = incoming.buffer.toList :=
    List.take_of_length_le (Nat.le_of_eq long)
  refine ⟨?_, ?_⟩
  · simp only [Incoming.finish, Frame.Fits, all, long]
    exact ⟨limit, fits⟩
  · simp only [Incoming.finish, heard, waiting, all, Frame.encoded, long]

theorem Formed.fill {incoming : Incoming} {length : Nat} (formed : incoming.Formed)
    (waiting : incoming.expected = some length) (bytes : Bytes)
    (room : incoming.buffer.size + bytes.length ≤ length) :
    Formed { incoming with buffer := incoming.buffer ++ bytes } := by
  refine ⟨by simp [waiting], ?_⟩
  intro other same
  obtain rfl : length = other := Option.some.inj (waiting.symm.trans same)
  exact ⟨by rwa [size_filled], (formed.within length waiting).2⟩

variable {ω : Type} [Streams ω]

/-- Every byte that a step reads is kept or belongs to the frame that it completes. -/
theorem hears_of_step {incoming incoming' : Incoming} {handle : Handle} {chunk : Nat}
    {world world' : ω} {call : Option StreamCall} {frame : Option Bytes} (formed : incoming.Formed)
    (h : incoming.step handle chunk world = .next incoming' world' call frame) :
    incoming'.Formed ∧ incoming'.limit = incoming.limit ∧
      (∀ payload ∈ frame, Frame.Fits incoming.limit payload) ∧
      incoming.heard ++ StreamCall.receivedBy call
        = Frame.stream frame.toList ++ incoming'.heard := by
  unfold step at h
  split at h
  · next waiting =>
    -- A header: four bytes come in, and no frame is completed.
    have nothing := formed.idle waiting
    split at h
    · cases h
    · unfold readHeader at h
      split at h
      · cases h
      · next a b c d world₁ reading =>
        simp only at h
        split at h
        · cases h
        · next allowed =>
          cases h
          refine ⟨⟨by simp, ?_⟩, rfl, by simp, ?_⟩
          · intro length same
            obtain rfl := Option.some.inj same
            exact ⟨Nat.zero_le _, Nat.le_of_not_lt allowed, Bytes.ofWord_lt a b c d⟩
          · simp [heard, waiting, StreamCall.receivedBy, StreamCall.received, Frame.announced,
              Bytes.word_ofWord]
      · cases h
  · next length waiting =>
    have size := (formed.within length waiting).1
    split at h
    · next wanting =>
      unfold readPayload at h
      simp only at h
      split at h
      · cases h
      · cases h
      · next byte more world₁ reading =>
        -- Payload: what comes in goes to the end of the buffer, which may complete the frame.
        have bound := Streams.length_le_of_read reading
        have filled := formed.fill waiting (byte :: more) (by omega)
        have heard : heard { incoming with buffer := incoming.buffer ++ (byte :: more) }
            = incoming.heard ++ (byte :: more) := by
          simp [heard, waiting]
        split at h
        · next whole =>
          cases h
          obtain ⟨fits, same⟩ := filled.finish waiting whole
          refine ⟨formed_reset _, rfl, ?_, ?_⟩
          · simpa using fits
          · rw [heard] at same
            simpa [StreamCall.receivedBy, StreamCall.received, Incoming.finish] using same
        · cases h
          refine ⟨filled, rfl, by simp, ?_⟩
          rw [heard]
          rfl
    · next enough =>
      cases h
      obtain ⟨fits, same⟩ := formed.finish waiting (Nat.le_of_not_lt enough)
      refine ⟨formed_reset _, rfl, ?_, ?_⟩
      · simpa [Incoming.finish] using fits
      · simpa [StreamCall.receivedBy, Incoming.finish] using same

/-! ### What a drain leaves alone -/

def Step.world : Step ω → ω
  | .next _ world _ _ => world
  | .rest _ world _ => world
  | .failed _ world _ _ => world

def Step.call? : Step ω → Option StreamCall
  | .next _ _ call _ => call
  | .rest _ _ call => call
  | .failed _ _ call _ => some call

/-- A step reads once at most, never more than a header or a chunk, and does nothing else to the
surroundings. -/
theorem reads_of_step (incoming : Incoming) (handle : Handle) (chunk : Nat) (world : ω) :
    ((incoming.step handle chunk world).world = world ∧
        (incoming.step handle chunk world).call? = none) ∨
      ∃ wanted ≤ max chunk Frame.headerLength,
        (incoming.step handle chunk world).world = (Streams.read world handle wanted).2 ∧
        (incoming.step handle chunk world).call?
          = some (.read wanted (Streams.read world handle wanted).1) := by
  unfold step
  split
  · split
    · exact .inl ⟨rfl, rfl⟩
    · refine .inr ⟨Frame.headerLength, Nat.le_max_right _ _, ?_⟩
      unfold readHeader
      split
      · simp [Step.world, Step.call?, *]
      · simp only
        split <;> simp [Step.world, Step.call?, *]
      · simp [Step.world, Step.call?, *]
  · next length waiting =>
    split
    · refine .inr ⟨min (length - incoming.buffer.size) chunk, by omega, ?_⟩
      unfold readPayload
      simp only
      split
      · simp [Step.world, Step.call?, *]
      · simp [Step.world, Step.call?, *]
      · split <;> simp [Step.world, Step.call?, *]
    · exact .inl ⟨rfl, rfl⟩

theorem drain_keeps (kept : ω → Prop) {handle : Handle}
    (reads : ∀ world wanted, kept world → kept (Streams.read world handle wanted).2)
    (incoming : Incoming) (mtu : Nat) {world : ω} (before : kept world) :
    kept (incoming.drain handle mtu world).world := by
  have step_keeps : ∀ (incoming : Incoming) world,
      kept world → kept (incoming.step handle (max mtu 1) world).world := by
    intro incoming world before
    rcases reads_of_step incoming handle (max mtu 1) world with ⟨same, -⟩ | ⟨wanted, -, same, -⟩
    · rw [same]
      exact before
    · rw [same]
      exact reads world wanted before
  -- The recursion is that of the drain itself: go on, wait, fail.
  unfold drain
  generalize (#[] : Array Bytes) = frames, (#[] : Array StreamCall) = calls
  fun_induction drainFrom incoming handle (max mtu 1) world frames calls with
  | case1 incoming world frames calls incoming' world' call frame stepping shorter ih =>
    have after := step_keeps incoming world before
    rw [stepping] at after
    exact ih after
  | case2 incoming world frames calls incoming' world' call stepping =>
    have after := step_keeps incoming world before
    rwa [stepping] at after
  | case3 incoming world frames calls incoming' world' call error stepping =>
    have after := step_keeps incoming world before
    rwa [stepping] at after

theorem calls_of_drain (kept : StreamCall → Prop) (incoming : Incoming) (handle : Handle) (mtu : Nat)
    (world : ω)
    (reads : ∀ wanted ≤ max mtu Frame.headerLength, ∀ answer, kept (.read wanted answer)) :
    ∀ call ∈ (incoming.drain handle mtu world).calls, kept call := by
  have here : ∀ (incoming : Incoming) (world : ω),
      ∀ call ∈ (incoming.step handle (max mtu 1) world).call?, kept call := by
    intro incoming world call used
    rcases reads_of_step incoming handle (max mtu 1) world with
      ⟨-, none⟩ | ⟨wanted, bound, -, read⟩
    · rw [none] at used
      cases used
    · obtain rfl : _ = call := Option.some.inj (read.symm.trans used)
      refine reads wanted ?_ _
      simp only [Frame.headerLength] at bound ⊢
      omega
  have earlier : ∀ call ∈ (#[] : Array StreamCall), kept call := by simp
  -- The calls collected so far are generalised, since each round adds to them.
  unfold drain
  generalize (#[] : Array Bytes) = frames, (#[] : Array StreamCall) = calls at earlier ⊢
  fun_induction drainFrom incoming handle (max mtu 1) world frames calls with
  | case1 incoming world frames calls incoming' world' call frame stepping shorter ih =>
    have now := here incoming world
    rw [stepping] at now
    apply ih
    intro other member
    rcases Array.mem_append.mp member with before | used
    · exact earlier other before
    · exact now other (by simpa [Step.call?] using used)
  | case2 incoming world frames calls incoming' world' call stepping =>
    have now := here incoming world
    rw [stepping] at now
    intro other member
    rcases Array.mem_append.mp member with before | used
    · exact earlier other before
    · exact now other (by simpa [Step.call?] using used)
  | case3 incoming world frames calls incoming' world' call error stepping =>
    have now := here incoming world
    rw [stepping] at now
    intro other member
    rcases Array.mem_push.mp member with before | rfl
    · exact earlier other before
    · exact now other rfl

theorem accepted_of_drain {incoming : Incoming} {handle : Handle} {mtu : Nat} {world : ω} :
    ∀ call ∈ (incoming.drain handle mtu world).calls, call.accepted = [] :=
  incoming.calls_of_drain (fun call => call.accepted = []) handle mtu world (fun _ _ _ => rfl)

/-! ### Sources that hold a queue -/

def Serves (queue : ω → Bytes) (handle : Handle) (world : ω) (wanted : Nat) : Prop :=
  (Streams.read world handle wanted).1 = .ok ((queue world).take wanted) ∧
    queue (Streams.read world handle wanted).2 = (queue world).drop wanted

/-- A source that is a queue as long as it is live: `queue` is what it holds, and a read serves or
fails. -/
structure Faulty (live : ω → Prop) (queue : ω → Bytes) (handle : Handle) : Prop where
  available : ∀ {world : ω}, live world →
    Streams.available world handle = (queue world).length
  read : ∀ {world : ω} (wanted : Nat), live world → Serves queue handle world wanted ∨
    ∃ reason, (Streams.read world handle wanted).1 = .error reason
  keeps : ∀ {world : ω} (wanted : Nat), live world → live (Streams.read world handle wanted).2

/-- A source that is a queue: `queue` is what it holds, all of it can be read at once, and no read
fails or falls short. -/
structure Queued (queue : ω → Bytes) (handle : Handle) : Prop where
  available : ∀ world : ω, Streams.available world handle = (queue world).length
  read : ∀ (world : ω) (wanted : Nat),
    (Streams.read world handle wanted).1 = .ok ((queue world).take wanted) ∧
      queue (Streams.read world handle wanted).2 = (queue world).drop wanted

theorem Queued.faulty {queue : ω → Bytes} {handle : Handle} (source : Queued queue handle) :
    Faulty (fun _ => True) queue handle :=
  ⟨fun _ => source.available _, fun wanted _ => .inl (source.read _ wanted), fun _ _ => trivial⟩

/-- Nothing more can be done with these bytes: they are too few for a header, or none while payload is
missing. -/
def Starved (incoming : Incoming) (bytes : Bytes) : Prop :=
  match incoming.expected with
  | none => bytes.length < Frame.headerLength
  | some length => incoming.buffer.size < length ∧ bytes = []

theorem Formed.incomplete {incoming : Incoming} (formed : incoming.Formed) {bytes : Bytes}
    (starved : incoming.Starved bytes) :
    Frame.splitOne incoming.limit (incoming.heard ++ bytes) = .incomplete := by
  cases waiting : incoming.expected with
  | none =>
    simp only [Starved, waiting, Frame.headerLength] at starved
    simp only [heard, waiting, List.nil_append]
    -- Fewer than four bytes make no header.
    rcases bytes with _ | ⟨_, _ | ⟨_, _ | ⟨_, _ | _⟩⟩⟩
    · rfl
    · rfl
    · rfl
    · rfl
    · simp only [List.length_cons] at starved
      omega
  | some length =>
    simp only [Starved, waiting] at starved
    obtain ⟨missing, rfl⟩ := starved
    obtain ⟨-, allowed, fits⟩ := formed.within length waiting
    have announced := Bytes.ofWord_word length fits
    simp only [heard, waiting, Bytes.word, List.append_nil, List.cons_append, List.nil_append,
      Frame.splitOne, Frame.announced, announced, Array.length_toList]
    rw [if_neg (Nat.not_lt.mpr allowed), if_neg (Nat.not_le.mpr missing)]

/-- Why a drain fails, with the bytes from the first frame that it did not complete: they begin with a
header that announces too much, or with less than a frame after which a read failed. -/
inductive Stop (ω : Type) [Streams ω] (handle : Handle) (limit : Nat) :
    Bytes → ChannelError → Prop where
  | oversized {a b c d : UInt8} {rest : Bytes} : limit < Frame.announced a b c d →
      Stop ω handle limit (a :: b :: c :: d :: rest)
        (.frameTooLarge (Frame.announced a b c d) limit)
  | unread {taken rest : Bytes} {world : ω} {wanted : Nat} {reason : String} :
      (Streams.read world handle wanted).1 = .error reason →
      Frame.splitOne limit taken = .incomplete → Stop ω handle limit (taken ++ rest) (.read reason)

def Step.Uses (queue : ω → Bytes) (handle : Handle) (incoming : Incoming) (world : ω) :
    Step ω → Prop
  | .next _ world' call _ => queue world = StreamCall.receivedBy call ++ queue world'
  | .rest incoming' world' _ =>
    incoming' = incoming ∧ queue world' = queue world ∧ incoming.Starved (queue world)
  | .failed _ _ _ error => Stop ω handle incoming.limit (incoming.heard ++ queue world) error

variable {queue : ω → Bytes} {handle : Handle}

theorem readHeader_uses (incoming : Incoming) {world : ω}
    (serves : Serves queue handle world Frame.headerLength) (waiting : incoming.expected = none)
    (enough : Frame.headerLength ≤ (queue world).length) :
    (incoming.readHeader handle world).Uses queue handle incoming world := by
  obtain ⟨answer, left⟩ := serves
  unfold readHeader
  generalize Streams.read world handle Frame.headerLength = reading at answer left
  obtain ⟨got, world'⟩ := reading
  match bytes : queue world with
  | a :: b :: c :: d :: rest =>
    simp only [bytes, Frame.headerLength, List.take_succ_cons, List.take_zero,
      List.drop_succ_cons, List.drop_zero] at answer left
    subst got
    by_cases refused : incoming.limit < Frame.announced a b c d
    · simp only [refused, if_true, Step.Uses, heard, waiting, bytes, List.nil_append]
      exact .oversized refused
    · simp [refused, Step.Uses, StreamCall.receivedBy, StreamCall.received, left, bytes]
  | [] | [_] | [_, _] | [_, _, _] => simp [bytes, Frame.headerLength] at enough

theorem readPayload_uses (incoming : Incoming) {chunk length : Nat} (positive : 0 < chunk)
    {world : ω} (serves : Serves queue handle world (min (length - incoming.buffer.size) chunk))
    (waiting : incoming.expected = some length) (wanting : incoming.buffer.size < length) :
    (incoming.readPayload handle chunk length world).Uses queue handle incoming world := by
  have some_wanted : 0 < min (length - incoming.buffer.size) chunk := by omega
  unfold readPayload
  generalize min (length - incoming.buffer.size) chunk = wanted at some_wanted serves
  obtain ⟨answer, left⟩ := serves
  have whole := List.take_append_drop wanted (queue world)
  rw [← left] at whole
  generalize reading : Streams.read world handle wanted = result at answer left whole
  obtain ⟨got, world'⟩ := result
  simp only at answer whole
  -- A read of nothing means an empty queue here, since something was asked for.
  match bytes : (queue world).take wanted with
  | [] =>
    rw [bytes] at answer whole
    subst got
    have empty : queue world = [] := by
      rcases List.take_eq_nil_iff.mp bytes with zero | empty
      · omega
      · exact empty
    simp only [reading, Step.Uses, true_and]
    exact ⟨whole, by simp [Starved, waiting, wanting, empty]⟩
  | byte :: more =>
    rw [bytes] at answer whole
    subst got
    simp only [reading]
    by_cases complete : length ≤ (incoming.buffer ++ (byte :: more)).size <;>
      simp only [complete, if_true, if_false] <;> exact whole.symm

theorem step_uses {live : ω → Prop} (source : Faulty live queue handle) {incoming : Incoming}
    {chunk : Nat} (positive : 0 < chunk) {world : ω} (alive : live world)
    (formed : incoming.Formed) :
    (incoming.step handle chunk world).Uses queue handle incoming world := by
  have held := source.available alive
  -- A read that fails leaves what has been heard, which is less than a frame.
  have unread : ∀ {wanted : Nat} {reason : String}, incoming.Starved [] →
      (Streams.read world handle wanted).1 = .error reason →
      Stop ω handle incoming.limit (incoming.heard ++ queue world) (.read reason) := by
    intro wanted reason starved fails
    have part := formed.incomplete starved
    rw [List.append_nil] at part
    exact .unread fails part
  unfold step
  split
  · next waiting =>
    split
    · next few => exact ⟨rfl, rfl, by simpa [Starved, waiting, ← held] using few⟩
    · next enough =>
      rcases source.read Frame.headerLength alive with serves | ⟨reason, fails⟩
      · exact readHeader_uses incoming serves waiting (by omega)
      · have stop := unread (by simp [Starved, waiting, Frame.headerLength]) fails
        unfold readHeader
        generalize Streams.read world handle Frame.headerLength = reading at fails ⊢
        obtain ⟨got, world'⟩ := reading
        subst fails
        exact stop
  · next length waiting =>
    split
    · next wanting =>
      rcases source.read (min (length - incoming.buffer.size) chunk) alive with
        serves | ⟨reason, fails⟩
      · exact readPayload_uses incoming positive serves waiting wanting
      · have stop := unread (by simp [Starved, waiting, wanting]) fails
        unfold readPayload
        simp only
        generalize Streams.read world handle (min (length - incoming.buffer.size) chunk)
          = reading at fails ⊢
        obtain ⟨got, world'⟩ := reading
        subst fails
        exact stop
    · rfl

/-- What a drain makes of a queue, where `earlier` frames were complete before it: it takes frames off
the front of what has been heard and is in the queue, until too few bytes are left to go on with; or it
fails after some frames, for a reason. -/
def Hears (live : ω → Prop) (queue : ω → Bytes) (handle : Handle) (incoming : Incoming) (world : ω)
    (earlier : List Bytes) (drained : Drained ω) : Prop :=
  match drained.frames with
  | .ok given => live drained.world ∧ drained.incoming.Formed ∧
    drained.incoming.limit = incoming.limit ∧
    drained.incoming.Starved (queue drained.world) ∧
    ∃ done, given = earlier ++ done ∧ (∀ payload ∈ done, Frame.Fits incoming.limit payload) ∧
      incoming.heard ++ queue world
        = Frame.stream done ++ (drained.incoming.heard ++ queue drained.world)
  | .error error => ∃ done rest, (∀ payload ∈ done, Frame.Fits incoming.limit payload) ∧
    incoming.heard ++ queue world = Frame.stream done ++ rest ∧
    Stop ω handle incoming.limit rest error

theorem Hears.after {live : ω → Prop} {incoming incoming' : Incoming} {world world' : ω}
    {earlier frames : List Bytes} {drained : Drained ω}
    (hears : Hears live queue handle incoming' world' (earlier ++ frames) drained)
    (limit : incoming'.limit = incoming.limit)
    (fits : ∀ payload ∈ frames, Frame.Fits incoming.limit payload)
    (before : incoming.heard ++ queue world
      = Frame.stream frames ++ (incoming'.heard ++ queue world')) :
    Hears live queue handle incoming world earlier drained := by
  have fits_append : ∀ done : List Bytes, (∀ payload ∈ done, Frame.Fits incoming'.limit payload) →
      ∀ payload ∈ frames ++ done, Frame.Fits incoming.limit payload := by
    intro done within payload member
    rcases List.mem_append.mp member with first | later
    · exact fits payload first
    · exact limit ▸ within payload later
  unfold Hears at hears ⊢
  split at hears
  · obtain ⟨alive, formed, limited, starved, done, given, within, same⟩ := hears
    refine ⟨alive, formed, limited.trans limit, starved, frames ++ done, ?_,
      fits_append done within, ?_⟩
    · rw [given, List.append_assoc]
    · rw [before, same, Frame.stream_append, List.append_assoc]
  · obtain ⟨done, rest, within, same, stop⟩ := hears
    refine ⟨frames ++ done, rest, fits_append done within, ?_, limit ▸ stop⟩
    rw [before, same, Frame.stream_append, List.append_assoc]

theorem drainFrom_hears {live : ω → Prop} (source : Faulty live queue handle)
    {incoming : Incoming} {chunk : Nat} (world : ω) (frames : Array Bytes)
    (calls : Array StreamCall) (positive : 0 < chunk) (alive : live world)
    (formed : incoming.Formed) :
    Hears live queue handle incoming world frames.toList
      (incoming.drainFrom handle chunk world frames calls) := by
  have stays : ∀ (incoming : Incoming) {world : ω}, live world →
      live (incoming.step handle chunk world).world := by
    intro incoming world alive
    rcases reads_of_step incoming handle chunk world with ⟨same, -⟩ | ⟨wanted, -, same, -⟩
    · rw [same]
      exact alive
    · rw [same]
      exact source.keeps wanted alive
  fun_induction drainFrom incoming handle chunk world frames calls with
  | case1 incoming world frames calls incoming' world' call frame stepping shorter ih =>
    have uses := step_uses source positive alive formed
    have alive' := stays incoming alive
    rw [stepping] at uses alive'
    obtain ⟨formed', limit, fits, hears⟩ := hears_of_step formed stepping
    -- The step completes a frame or none; the others are left to the rest of the drain.
    have rest := ih alive' formed'
    rw [Array.toList_append] at rest
    refine rest.after limit (by simpa using fits) ?_
    rw [show queue world = _ from uses, ← List.append_assoc, hears, List.append_assoc]
    simp
  | case2 incoming world frames calls incoming' world' call stepping =>
    have uses := step_uses source positive alive formed
    have alive' := stays incoming alive
    rw [stepping] at uses alive'
    obtain ⟨rfl, same, starved⟩ := uses
    refine ⟨alive', formed, rfl, by rwa [same], [], by simp, by simp, ?_⟩
    simp [same]
  | case3 incoming world frames calls incoming' world' call error stepping =>
    have uses := step_uses source positive alive formed
    rw [stepping] at uses
    exact ⟨[], _, by simp, by simp, uses⟩

/-- A drain of a queue that holds the frames of some payloads, or the first part of them, gives the
payloads that are there whole, fails never, and leaves too few bytes to go on with. -/
theorem drainFrom_queued (source : Queued queue handle) {incoming : Incoming} {chunk limit : Nat}
    {world : ω} (frames : Array Bytes) (calls : Array StreamCall) {later : Bytes}
    {waiting : List Bytes} (positive : 0 < chunk) (formed : incoming.Formed)
    (limited : incoming.limit = limit) (fits : ∀ payload ∈ waiting, Frame.Fits limit payload)
    (ahead : incoming.heard ++ (queue world ++ later) = Frame.stream waiting) :
    ∃ done left, waiting = done ++ left ∧
      (incoming.drainFrom handle chunk world frames calls).frames = .ok (frames.toList ++ done) ∧
      (incoming.drainFrom handle chunk world frames calls).incoming.Formed ∧
      (incoming.drainFrom handle chunk world frames calls).incoming.limit = limit ∧
      (incoming.drainFrom handle chunk world frames calls).incoming.heard
        ++ (queue (incoming.drainFrom handle chunk world frames calls).world ++ later)
        = Frame.stream left ∧
      (incoming.drainFrom handle chunk world frames calls).incoming.Starved
        (queue (incoming.drainFrom handle chunk world frames calls).world) := by
  subst limited
  have hears := drainFrom_hears source.faulty world frames calls positive trivial formed
  generalize incoming.drainFrom handle chunk world frames calls = drained at hears ⊢
  rw [← List.append_assoc] at ahead
  unfold Hears at hears
  split at hears
  · next given answer =>
    obtain ⟨-, formed', limit, starved, done, rfl, within, same⟩ := hears
    rw [same, List.append_assoc] at ahead
    obtain ⟨left, rfl, rest⟩ :=
      Frame.waiting_of_stream fits (fun payload member => (within payload member).2) ahead
    exact ⟨done, left, rfl, answer, formed', limit, by simpa using rest, starved⟩
  · obtain ⟨done, bad, within, same, stop⟩ := hears
    rw [same, List.append_assoc] at ahead
    obtain ⟨left, rfl, rest⟩ :=
      Frame.waiting_of_stream fits (fun payload member => (within payload member).2) ahead
    cases stop with
    | oversized refused =>
      -- The header is that of a payload that fits, so it cannot have been refused.
      obtain ⟨payload, more, rfl, length, -⟩ :=
        Frame.first_of_stream (fun p member => fits p (List.mem_append_right _ member)) rest
      have := (fits payload (by simp)).1
      omega
    | @unread _ _ world wanted reason fails =>
      rw [(source.read world wanted).1] at fails
      cases fails

end Incoming

end Sightline
