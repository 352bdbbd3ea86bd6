import Sightline.Bench.Rig
import Sightline.Proofs.Link.History

/-! Which request an answer about a channel is taken for.

The radio answers the requests for channels in their order, each when it likes, and an answer names only
its peripheral. A request comes with the giving up of whatever was there before, so only the latest one
still counts; the slot waits for it until an answer about its peripheral comes, and that may be the
answer to an earlier request (`Manager.Run.opening_iff`). -/

set_option autoImplicit false

namespace Sightline

/-- A request for a channel. It is current until what it asked for is given up. -/
structure ChannelRequest where
  id : PeripheralId
  current : Bool
  deriving DecidableEq

def ChannelRequest.givenUp (request : ChannelRequest) : ChannelRequest :=
  { request with current := false }

def RadioRequest.channel? : RadioRequest → Option PeripheralId
  | .openChannel id _ => some id
  | _ => none

namespace LinkStep

def asksFor? (step : LinkStep) : Option PeripheralId := step.asked.findSome? RadioRequest.channel?

def asks (step : LinkStep) : Bool := step.asksFor?.isSome

def answered? (step : LinkStep) : Option PeripheralId :=
  match step.operation with
  | .report (.channelOpened id _) => some id
  | _ => none

/-- The session, and the channel asked for, are given up: the user disconnected and there was no link to
drop, the radio was lost, the link changed, or the channel died. -/
def tearsDown (step : LinkStep) : Bool :=
  step.asks ||
  match step.operation with
  | .disconnect => step.asked = []
  | .report (.power power) => power ≠ .on
  | .report (.connectFailed id _) | .report (.disconnected id _ _) => step.before.tracked = some id
  | .streamEvent _ => step.before.slot ≠ .vacant && step.after.slot = .vacant
  | _ => false

/-- The requests that the radio has still to answer, the earliest first. -/
def unanswered : List LinkStep → List ChannelRequest
  | [] => []
  | step :: past =>
    let waiting := if step.answered?.isSome then (unanswered past).tail else unanswered past
    let waiting := if step.tearsDown then waiting.map ChannelRequest.givenUp else waiting
    match step.asksFor? with
    | some id => waiting ++ [⟨id, true⟩]
    | none => waiting

def answersInOrder : List LinkStep → Bool
  | [] => true
  | step :: past => answersInOrder past &&
    (step.answered?.isNone || (unanswered past).head?.map (·.id) = step.answered?)

/-- A channel was asked for only when all requests to the same peripheral were answered. -/
def asksApart : List LinkStep → Bool
  | [] => true
  | step :: past => asksApart past &&
    (unanswered past).all fun request => step.asksFor? ≠ some request.id

/-- There is a current request to the peripheral, and no answer about it came since the request. -/
def Awaits (past : List LinkStep) (id : PeripheralId) : Prop :=
  ⟨id, true⟩ ∈ unanswered past ∧ ∀ step ∈ since asks past, step.answered? ≠ some id

inductive SlotMove (step : LinkStep) : Prop where
  | asked {id : PeripheralId} : step.asksFor? = some id → step.answered? = none →
      step.tearsDown = true → step.after.slot = .opening id → SlotMove step
  | torn : step.asksFor? = none → step.answered? = none → step.tearsDown = true →
      step.after.slot = .vacant → SlotMove step
  | answered {id : PeripheralId} : step.asksFor? = none → step.answered? = some id →
      step.tearsDown = false → step.before.slot = .opening id →
      (∀ other, step.after.slot ≠ .opening other) → SlotMove step
  | disregarded {id : PeripheralId} : step.asksFor? = none → step.answered? = some id →
      step.tearsDown = false → step.before.slot ≠ .opening id →
      step.after.slot = step.before.slot → SlotMove step
  | kept : step.asksFor? = none → step.answered? = none → step.tearsDown = false →
      (∀ id, step.after.slot = .opening id ↔ step.before.slot = .opening id) → SlotMove step

theorem slot_move {settings : RadioSettings} {step : LinkStep}
    (operates : Manager.Operates settings step.before step.operation step.after step.asked) :
    SlotMove step := by
  obtain ⟨before, operation, after, asked⟩ := step
  simp only at operates
  -- Each operation asks for a channel, tears down, answers a request or leaves the slot alone.
  cases operates with
  | adopted _ asked =>
    rcases asked with rfl | rfl <;> exact .asked rfl rfl rfl rfl
  | linkedUp | reopened => exact .asked rfl rfl rfl rfl
  | nothingToDrop | droppedBefore => exact .torn rfl rfl rfl rfl
  | powerLost lost => exact .torn rfl rfl (by simp [tearsDown, lost]) rfl
  | linkFailed tracked | linkAwaited tracked | linkLost tracked =>
    exact .torn rfl rfl (by simp [tearsDown, tracked]) rfl
  | channelLost live _ asked =>
    rcases asked with rfl | ⟨_, rfl⟩ <;> exact .torn rfl rfl (by simp [tearsDown, live]) rfl
  | unasked other => exact .disregarded rfl rfl rfl other rfl
  | handedOver expected | channelFailed expected =>
    exact .answered rfl rfl rfl expected (by simp)
  | scanEnded _ ended =>
    rcases ended with rfl | rfl <;> exact .kept rfl rfl rfl fun _ => .rfl
  | rejoined _ asked =>
    rcases asked with rfl | rfl | rfl <;> exact .kept rfl rfl rfl fun _ => .rfl
  | stranger other news =>
    rcases news with rfl | ⟨_, rfl⟩ | ⟨_, _, rfl⟩
    · exact .kept rfl rfl rfl fun _ => .rfl
    · exact .kept rfl rfl (by simpa [tearsDown, asks, asksFor?] using other) fun _ => .rfl
    · exact .kept rfl rfl (by simpa [tearsDown, asks, asksFor?] using other) fun _ => .rfl
  | lookedUp asked =>
    rcases asked with rfl | rfl <;> exact .kept rfl rfl rfl fun _ => .rfl
  | characterised asked =>
    rcases asked with rfl | ⟨_, rfl⟩ <;> exact .kept rfl rfl rfl fun _ => .rfl
  | sessionless _ news =>
    rcases news with ⟨_, rfl⟩ | ⟨_, _, rfl⟩
    · exact .kept rfl rfl (by simp [tearsDown, asks, asksFor?]) fun _ => .rfl
    · exact .kept rfl rfl rfl fun _ => .rfl
  | served live news =>
    rcases news with ⟨_, rfl⟩ | ⟨_, _, rfl⟩
    · exact .kept rfl rfl (by simp [tearsDown, asks, asksFor?]) (by simp [live])
    · exact .kept rfl rfl rfl (by simp [live])
  | greeted live => exact .kept rfl rfl (by simp [tearsDown, asks, asksFor?]) (by simp [live])
  | _ => exact .kept rfl rfl rfl fun _ => .rfl

/-! ### What is unanswered after a step -/

section Unanswered

variable {step : LinkStep} {past : List LinkStep} {id other : PeripheralId}

theorem unanswered_asked (asks : step.asksFor? = some id) (unheard : step.answered? = none)
    (torn : step.tearsDown = true) :
    unanswered (step :: past) = (unanswered past).map ChannelRequest.givenUp ++ [⟨id, true⟩] := by
  simp [unanswered, asks, unheard, torn]

theorem unanswered_torn (unasking : step.asksFor? = none) (unheard : step.answered? = none)
    (torn : step.tearsDown = true) :
    unanswered (step :: past) = (unanswered past).map ChannelRequest.givenUp := by
  simp [unanswered, unasking, unheard, torn]

theorem unanswered_answered (unasking : step.asksFor? = none) (heard : step.answered? = some id)
    (kept : step.tearsDown = false) : unanswered (step :: past) = (unanswered past).tail := by
  simp [unanswered, unasking, heard, kept]

theorem unanswered_kept (unasking : step.asksFor? = none) (unheard : step.answered? = none)
    (kept : step.tearsDown = false) : unanswered (step :: past) = unanswered past := by
  simp [unanswered, unasking, unheard, kept]

theorem since_asks (unasking : step.asksFor? = none) :
    since asks (step :: past) = step :: since asks past := by
  simp [since_cons, asks, unasking]

theorem not_current_of_givenUp : ⟨id, true⟩ ∉ (unanswered past).map ChannelRequest.givenUp := by
  simp [ChannelRequest.givenUp]

theorem awaits_asked (asking : step.asksFor? = some id) (unheard : step.answered? = none)
    (torn : step.tearsDown = true) : Awaits (step :: past) other ↔ other = id := by
  rw [Awaits, unanswered_asked asking unheard torn, List.mem_append]
  simp [not_current_of_givenUp, since_cons, asks, asking]

theorem not_awaits_torn (unasking : step.asksFor? = none) (unheard : step.answered? = none)
    (torn : step.tearsDown = true) : ¬Awaits (step :: past) id := by
  rw [Awaits, unanswered_torn unasking unheard torn]
  exact fun awaits => not_current_of_givenUp awaits.1

theorem awaits_kept (unasking : step.asksFor? = none) (unheard : step.answered? = none)
    (kept : step.tearsDown = false) : Awaits (step :: past) id ↔ Awaits past id := by
  simp [Awaits, unanswered_kept unasking unheard kept, since_asks unasking, unheard]

theorem exists_of_first (first : (unanswered past).head?.map (·.id) = some id) :
    ∃ request later, unanswered past = request :: later ∧ request.id = id := by
  cases waiting : unanswered past with
  | nil => simp [waiting] at first
  | cons request later => exact ⟨request, later, rfl, by simpa [waiting] using first⟩

theorem awaits_answered (unasking : step.asksFor? = none) (heard : step.answered? = some id)
    (kept : step.tearsDown = false) (first : (unanswered past).head?.map (·.id) = some id) :
    Awaits (step :: past) other ↔ other ≠ id ∧ Awaits past other := by
  obtain ⟨request, later, waiting, rfl⟩ := exists_of_first first
  rw [Awaits, Awaits, unanswered_answered unasking heard kept, since_asks unasking, waiting,
    List.tail_cons]
  constructor
  · rintro ⟨member, silent⟩
    have different : other ≠ request.id := by
      rintro rfl
      exact silent step (by simp) heard
    exact ⟨different, List.mem_cons_of_mem _ member, (List.forall_mem_cons.mp silent).2⟩
  · rintro ⟨different, member, silent⟩
    have elsewhere : (⟨other, true⟩ : ChannelRequest) ≠ request := by
      rintro rfl
      exact different rfl
    refine ⟨(List.mem_cons.mp member).resolve_left elsewhere, List.forall_mem_cons.mpr ⟨?_, silent⟩⟩
    simpa [heard] using different.symm

end Unanswered

structure Apart (past : List LinkStep) : Prop where
  nodup : ((unanswered past).map (·.id)).Nodup
  awaited : ∀ id, ⟨id, true⟩ ∈ unanswered past → Awaits past id

theorem Apart.answered {step : LinkStep} {past : List LinkStep} {id : PeripheralId}
    (apart : Apart past) (unasking : step.asksFor? = none) (heard : step.answered? = some id)
    (kept : step.tearsDown = false) (first : (unanswered past).head?.map (·.id) = some id) :
    Apart (step :: past) := by
  obtain ⟨request, later, waiting, rfl⟩ := exists_of_first first
  have left : unanswered (step :: past) = later := by
    rw [unanswered_answered unasking heard kept, waiting, List.tail_cons]
  have nodup := apart.nodup
  rw [waiting, List.map_cons, List.nodup_cons] at nodup
  refine ⟨by simpa [left] using nodup.2, fun other current => ?_⟩
  rw [left] at current
  rw [awaits_answered unasking heard kept first]
  refine ⟨?_, apart.awaited other (waiting ▸ List.mem_cons_of_mem _ current)⟩
  -- The request that was answered was the only one to its peripheral.
  rintro rfl
  exact nodup.1 (List.mem_map.mpr ⟨_, current, rfl⟩)

end LinkStep

open LinkStep

variable {ω : Type} [Radio ω] [Streams ω] [IdentityStore ω] {settings : RadioSettings}
  {past : List LinkStep} {manager : Manager}

/-- The slot waits for a channel to the peripheral of the current request, until the first answer about
that peripheral. -/
theorem Manager.Run.opening_iff (run : Manager.Run ω settings past manager) :
    answersInOrder past = true → ∀ id, manager.slot = .opening id ↔ Awaits past id := by
  refine run.holds (by simp [Awaits, unanswered]) fun past step _ operates kept ordered id => ?_
  rw [answersInOrder, Bool.and_eq_true] at ordered
  have before := kept ordered.1
  cases slot_move operates with
  | asked asking unheard torn opening =>
    rw [awaits_asked asking unheard torn, opening]
    exact ⟨fun same => (Slot.opening.inj same).symm, fun same => same ▸ rfl⟩
  | torn unasking unheard torn vacant =>
    -- What was asked for is given up, so no request is current any more.
    exact iff_of_false (by simp [vacant]) (not_awaits_torn unasking unheard torn)
  | @answered answered unasking heard intact opening taken =>
    -- Whichever request this answers, the waiting for its peripheral is over.
    have first : (unanswered past).head?.map (·.id) = some answered := by
      simpa [heard] using ordered.2
    rw [awaits_answered unasking heard intact first, ← before, opening]
    refine iff_of_false (taken id) ?_
    rintro ⟨different, same⟩
    exact different (Slot.opening.inj same).symm
  | @disregarded answered unasking heard intact other same =>
    -- The slot waits for another peripheral, if for any, and the request to that one stays unanswered.
    have first : (unanswered past).head?.map (·.id) = some answered := by
      simpa [heard] using ordered.2
    rw [awaits_answered unasking heard intact first, ← before, same]
    refine ⟨fun opening => ⟨?_, opening⟩, And.right⟩
    rintro rfl
    exact other opening
  | kept unasking unheard intact same =>
    rw [same, before, awaits_kept unasking unheard intact]

theorem Manager.Run.apart (run : Manager.Run ω settings past manager) :
    answersInOrder past = true → asksApart past = true → Apart past := by
  refine run.holds ?_ fun past step _ operates kept ordered apart => ?_
  · exact fun _ _ => ⟨by simp [unanswered], by simp [unanswered]⟩
  rw [answersInOrder, Bool.and_eq_true] at ordered
  rw [asksApart, Bool.and_eq_true] at apart
  have before := kept ordered.1 apart.1
  -- By induction on the run: a new request is apart from the unanswered ones by assumption, and
  -- all else only shortens the list or gives up what is in it.
  cases slot_move operates with
  | @asked id asking unheard torn =>
    have left : unanswered (step :: past) = _ := unanswered_asked asking unheard torn
    refine ⟨?_, fun other current => (awaits_asked asking unheard torn).mpr ?_⟩
    · have fresh : ∀ request ∈ unanswered past, ¬request.id = id := fun request member same => by
        simpa [asking, same] using List.all_eq_true.mp apart.2 request member
      simpa [left, Function.comp_def, ChannelRequest.givenUp, List.nodup_append] using
        ⟨before.nodup, fresh⟩
    · simpa [left, not_current_of_givenUp] using current
  | torn unasking unheard torn =>
    have left : unanswered (step :: past) = _ := unanswered_torn unasking unheard torn
    refine ⟨?_, fun other current => ?_⟩
    · simpa [left, Function.comp_def, ChannelRequest.givenUp] using before.nodup
    · exact absurd (left ▸ current) not_current_of_givenUp
  | answered unasking heard intact | disregarded unasking heard intact =>
    exact before.answered unasking heard intact (by simpa [heard] using ordered.2)
  | kept unasking unheard intact =>
    have left : unanswered (step :: past) = _ := unanswered_kept unasking unheard intact
    refine ⟨left ▸ before.nodup, fun other current => ?_⟩
    rw [awaits_kept unasking unheard intact]
    exact before.awaited other (left ▸ current)

namespace LinkTurn

/-- Nothing comes of an answer, but that the channel it brings is closed. -/
def Ignores (turn : LinkTurn ω) (manager : Manager) (result : Except String StreamPair) : Prop :=
  turn.manager = manager ∧ turn.effects =
    match result with
    | .ok pair => #[.stream pair .closeInbound, .stream pair .closeOutbound]
    | .error _ => #[]

/-- All that comes of an answer is a session on the channel that it brings. -/
def Adopts (turn : LinkTurn ω) (settings : RadioSettings) (manager : Manager) (pair : StreamPair) :
    Prop :=
  turn.manager = { manager with
    slot := .live (.start pair settings.mtu.toNat settings.frameLimit.toNat) } ∧ turn.effects = #[]

variable (settings manager) (world : ω) (id : PeripheralId)

theorem ignores_iff (result : Except String StreamPair) :
    (operate { manager, world } settings (.report (.channelOpened id result))).Ignores manager result ↔
      manager.slot ≠ .opening id := by
  by_cases opening : manager.slot = .opening id
  · refine iff_of_false (fun ignores => ?_) (not_not_intro opening)
    cases result with
    | ok pair => simpa [operate, report, channelOpened, opening, setSlot] using ignores.2
    | error reason =>
      simpa [operate, report, channelOpened, opening, request, publish] using ignores.2
  · refine iff_of_true ?_ opening
    cases result with
    | ok pair => simp [Ignores, operate, report, channelOpened, opening, refuse]
    | error reason => simp [Ignores, operate, report, channelOpened, opening]

theorem adopts_iff (pair : StreamPair) :
    (operate { manager, world } settings (.report (.channelOpened id (.ok pair)))).Adopts settings
      manager pair ↔ manager.slot = .opening id := by
  by_cases opening : manager.slot = .opening id
  · refine iff_of_true ?_ opening
    simp [Adopts, operate, report, channelOpened, opening, setSlot]
  · refine iff_of_false (fun adopts => ?_) opening
    simpa [operate, report, channelOpened, opening, refuse] using adopts.2

end LinkTurn

/-- When the radio answers in order, the answer to a request that was given up is ignored exactly if no
current request waits for a channel to the same peripheral; and the channel that answers the current
request is adopted exactly if no earlier answer about the peripheral was taken for it. Both are always
so if a channel is asked for only when all requests to the same peripheral are answered. -/
theorem channel_answer_iff (run : Manager.Run ω settings past manager)
    (ordered : answersInOrder past = true) {request : ChannelRequest} {later : List ChannelRequest}
    (next : unanswered past = request :: later) (world : ω) (result : Except String StreamPair) :
    let answer := LinkTurn.operate { manager, world } settings
      (.report (.channelOpened request.id result))
    (request.current = false → (answer.Ignores manager result ↔
      (⟨request.id, true⟩ ∈ later → ∃ step ∈ since asks past, step.answered? = some request.id))) ∧
    (request.current = true → ∀ pair, result = .ok pair → (answer.Adopts settings manager pair ↔
      ∀ step ∈ since asks past, step.answered? ≠ some request.id)) ∧
    (asksApart past = true → (request.current = false → answer.Ignores manager result) ∧
      (request.current = true → ∀ pair, result = .ok pair → answer.Adopts settings manager pair)) := by
  intro answer
  have opening := run.opening_iff ordered request.id
  have ignores : answer.Ignores manager result ↔ ¬Awaits past request.id :=
    (LinkTurn.ignores_iff settings manager world request.id result).trans (not_congr opening)
  have adopts (pair : StreamPair) (brought : result = .ok pair) :
      answer.Adopts settings manager pair ↔ Awaits past request.id := by
    subst brought
    exact (LinkTurn.adopts_iff settings manager world request.id pair).trans opening
  -- The request answered is the oldest, so a current one with its id must come later.
  have among_later (stale : request.current = false) (current : ⟨request.id, true⟩ ∈ unanswered past) :
      (⟨request.id, true⟩ : ChannelRequest) ∈ later := by
    rw [next] at current
    refine (List.mem_cons.mp current).resolve_left fun same => ?_
    simpa [stale] using congrArg ChannelRequest.current same
  have first (current : request.current = true) : ⟨request.id, true⟩ ∈ unanswered past := by
    simp [next, ← current]
  refine ⟨fun stale => ?_, fun current pair brought => ?_, fun apart => ⟨fun stale => ?_, ?_⟩⟩
  · have current_iff : ⟨request.id, true⟩ ∈ unanswered past ↔ ⟨request.id, true⟩ ∈ later :=
      ⟨among_later stale, fun current => next ▸ List.mem_cons_of_mem _ current⟩
    rw [ignores, Awaits, current_iff]
    simp
  · simp [adopts pair brought, Awaits, first current]
  · have nodup := (run.apart ordered apart).nodup
    rw [next, List.map_cons, List.nodup_cons] at nodup
    refine ignores.mpr fun awaits => nodup.1 (List.mem_map.mpr ⟨_, among_later stale awaits.1, rfl⟩)
  · intro current pair brought
    exact (adopts pair brought).mpr ((run.apart ordered apart).awaited request.id (first current))

/-- The link to the remembered glasses is lost before their channel is there, and a channel to other
glasses is asked for; the late one is closed. -/
theorem channel_answer_iff_elsewhere :
    let glasses : PeripheralId := ⟨"glasses"⟩
    let other : PeripheralId := ⟨"other"⟩
    ∃ past manager, Manager.Run Bench.Rig {} past manager ∧ answersInOrder past = true ∧
      unanswered past = [⟨glasses, false⟩, ⟨other, true⟩] ∧ manager.slot = .opening other ∧
      (LinkTurn.operate { manager, world := ({} : Bench.Rig) } {}
        (.report (.channelOpened glasses (.ok ⟨1, 0⟩)))).Ignores manager (.ok ⟨1, 0⟩) := by
  intro glasses other
  let rig : Bench.Rig := { power := .on, saved := some glasses }
  have run : ∃ past manager, Manager.Run Bench.Rig {} past manager ∧ answersInOrder past = true ∧
      unanswered past = [⟨glasses, false⟩, ⟨other, true⟩] ∧ manager.slot = .opening other := by
    refine ⟨_, _, Manager.Run.new
      |>.step (.report (.power .on)) rig
      |>.step (.report (.connected glasses)) rig
      |>.step (.report (.disconnected glasses false none)) rig
      |>.step .connect rig
      |>.step (.report (.discovered other none none)) rig
      |>.step (.report (.connected other)) rig, ?_⟩
    decide +kernel
  obtain ⟨past, manager, run, ordered, waiting, opening⟩ := run
  refine ⟨past, manager, run, ordered, waiting, opening, ?_⟩
  refine ((channel_answer_iff run ordered waiting {} (.ok ⟨1, 0⟩)).1 rfl).mpr fun again => ?_
  simp [glasses, other] at again

/-- The link is lost and comes back before the first request is answered. That the first one failed is
taken for the failure of the second, whose channel is closed when it comes. -/
theorem channel_answer_mistaken :
    let glasses : PeripheralId := ⟨"glasses"⟩
    let rig : Bench.Rig := { power := .on, saved := some glasses }
    ∃ past manager, Manager.Run Bench.Rig {} past manager ∧ answersInOrder past = true ∧
      unanswered past = [⟨glasses, false⟩, ⟨glasses, true⟩] ∧
      let mistaken := manager.step {} rig (.report (.channelOpened glasses (.error "link lost")))
      mistaken.after.state = .disconnected ∧ mistaken.after.dropping = true ∧
      mistaken.asked = [.cancelConnection glasses] ∧
      (LinkTurn.operate { manager := mistaken.after, world := rig } {}
        (.report (.channelOpened glasses (.ok ⟨2, 0⟩)))).Ignores mistaken.after (.ok ⟨2, 0⟩) := by
  intro glasses rig
  refine ⟨_, _, Manager.Run.new
    |>.step (.report (.power .on)) rig
    |>.step (.report (.connected glasses)) rig
    |>.step (.report (.disconnected glasses true none)) rig
    |>.step (.report (.connected glasses)) rig, ?_, ?_, ?_⟩
  · decide +kernel
  · decide +kernel
  · refine ⟨?_, ?_, ?_, (LinkTurn.ignores_iff ..).mpr ?_⟩
    all_goals decide +kernel

end Sightline
