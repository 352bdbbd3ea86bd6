import Sightline.Bench.Engine
import Sightline.Proofs.Engine.Turnover

/-! Where the requests are.

`Program.Run` is an engine with the queue that it takes events off and the works that report to that
queue, in surroundings that may become anything. An outstanding request is in one of four places: its
work is under way, or the end of its work is on the queue, or its audio is the frame under way, or the
end of its sending is on the queue. `Sound` counts these, and every move keeps it. -/

set_option autoImplicit false

namespace Sightline

def EngineEffect.posted? : EngineEffect → Option Event
  | .link (.completed tag result) => some (.sendFinished tag result)
  | _ => none

namespace Event

def ready? : Event → Option RequestId
  | .audioReady id _ => some id
  | _ => none

def sent? : Event → Option RequestId
  | .sendFinished id _ => some id
  | _ => none

theorem count_requests (queue : List Event) (id : RequestId) :
    (queue.filterMap request?).count id
      = (queue.filterMap ready?).count id + (queue.filterMap sent?).count id := by
  induction queue with
  | nil => rfl
  | cons event later ih =>
    cases event with
    | audioReady other result =>
      simp only [List.filterMap_cons, request?, ready?, sent?, List.count_cons, ih]
      omega
    | sendFinished other result =>
      simp only [List.filterMap_cons, request?, ready?, sent?, List.count_cons, ih]
      omega
    | _ =>
      simp only [List.filterMap_cons, request?, ready?, sent?]
      exact ih

end Event

/-- An engine, its queue, the oldest event first, and the requests whose work is under way. -/
structure Program where
  engine : Engine
  queue : List Event := []
  works : List RequestId := []

def Engine.settled (before after : Engine) : List RequestId :=
  before.pipeline.outstanding.filter (· ∉ after.pipeline.outstanding)

open EngineEffect (startedIn endedIn)

namespace Program

/-- The places of the requests. -/
def tokens (program : Program) : List RequestId :=
  program.works ++ program.queue.filterMap Event.ready? ++ program.engine.manager.sending
    ++ program.queue.filterMap Event.sent?

variable {ω : Type} [Radio ω] [Streams ω] [IdentityStore ω] [BackgroundHost Generation ω]

def take (program : Program) (settings : RadioSettings) (event : Event) (world : ω) : Program :=
  let turn := (EngineTurn.handle { engine := program.engine, world } settings event).2
  { engine := turn.engine
    queue := program.queue ++ turn.effects.toList.filterMap EngineEffect.posted?
    works := program.works ++ startedIn turn.effects }

/-- A program after some moves, and the requests that were settled on the way. Nobody but the works and
the sessions reports the end of a request's work or sending. -/
inductive Run (ω : Type) [Radio ω] [Streams ω] [IdentityStore ω] [BackgroundHost Generation ω]
    (settings : RadioSettings) : Program → List RequestId → Prop where
  | new (policy : Concurrency) : Run ω settings { engine := { pipeline := { policy } } } []
  | take {program : Program} {event : Event} {later : List Event} {settled : List RequestId}
      (world : ω) : Run ω settings program settled → program.queue = event :: later →
      event ≠ .command .shutdown →
      Run ω settings (take { program with queue := later } settings event world)
        (settled ++ program.engine.settled
          (take { program with queue := later } settings event world).engine)
  | answer {program : Program} {settled : List RequestId} {id : RequestId}
      (result : Except ServiceError Bytes) : Run ω settings program settled → id ∈ program.works →
      Run ω settings { program with
        queue := program.queue ++ [.audioReady id result], works := program.works.erase id } settled
  | post {program : Program} {settled : List RequestId} (event : Event) :
      Run ω settings program settled → event.request? = none →
      Run ω settings { program with queue := program.queue ++ [event] } settled

/-- Every outstanding request is in one place and no other request is in any, and every number that was
given out is outstanding or was settled once. -/
structure Sound (program : Program) (settled : List RequestId) : Prop where
  places : ∀ id, program.works.count id + (program.queue.filterMap Event.request?).count id
    + program.engine.manager.sending.count id = program.engine.pipeline.outstanding.count id
  numbered : ∀ id : Nat, settled.count id + program.engine.pipeline.outstanding.count id
    = if 0 < id ∧ id ≤ program.engine.pipeline.issued then 1 else 0
  unfinished : ∀ o ∈ program.engine.manager.outgoing, o.Unfinished

theorem requests_posted (effects : Array EngineEffect) :
    (effects.toList.filterMap EngineEffect.posted?).filterMap Event.request? = endedIn effects := by
  have same : ∀ effect : EngineEffect, effect.posted?.bind Event.request? = effect.ended? := by
    intro effect
    cases effect with
    | link effect => cases effect <;> rfl
    | pipeline => rfl
  rw [List.filterMap_filterMap]
  simp only [same]
  rfl

theorem sound_new (policy : Concurrency) :
    Sound { engine := { pipeline := { policy } } } [] := by
  refine ⟨fun id => rfl, fun id => ?_, by simp [Manager.outgoing, Manager.session?]⟩
  have none_issued : ¬(0 < id ∧ id ≤ 0) := by omega
  exact (if_neg none_issued).symm

section

variable {program : Program} {event : Event} {later posted : List Event} {next : Engine}
  {settled begun ended : List RequestId} (sound : program.Sound settled)
  (first : program.queue = event :: later)

include sound

theorem Sound.once (id : Nat) : program.engine.pipeline.outstanding.count id ≤ 1 := by
  have numbered := sound.numbered id
  split at numbered <;> omega

theorem Sound.issued_of_outstanding {id : Nat} (member : id ∈ program.engine.pipeline.outstanding) :
    id ≤ program.engine.pipeline.issued := by
  have numbered := sound.numbered id
  have counted := List.count_pos_iff.mpr member
  split at numbered
  · next issued => exact issued.2
  · omega

theorem Sound.outstanding_of_queued {about : Event} (queued : about ∈ program.queue) {id : RequestId}
    (asked : about.request? = some id) : id ∈ program.engine.pipeline.outstanding := by
  have places := sound.places id
  have place := List.count_pos_iff.mpr (List.mem_filterMap.mpr ⟨about, queued, asked⟩)
  exact List.count_pos_iff.mp (by omega)

include first

theorem Sound.places_turnover
    (turnover : program.engine.Turnover next event.request? begun ended)
    (reported : posted.filterMap Event.request? = ended) (id : RequestId) :
    (program.works ++ begun).count id + ((later ++ posted).filterMap Event.request?).count id
      + next.manager.sending.count id = next.pipeline.outstanding.count id := by
  have places := sound.places id
  have once := sound.once id
  rw [first] at places
  simp only [List.filterMap_append, reported, List.count_append]
  -- The event leaves the queue in all three cases; what differs is where its request goes.
  cases turnover with
  | begins count unasked _ _ more told =>
    rw [List.filterMap_cons_none unasked, told, List.count_append] at places
    rw [more, List.count_append]
    omega
  | @settles other asked none _ less told =>
    rw [List.filterMap_cons_some asked, told, List.count_append, List.count_cons] at places
    subst none
    rw [less]
    by_cases same : id = other
    · -- The request was in the event and nowhere else.
      have gone : (program.engine.pipeline.outstanding.filter (· ≠ other)).count id = 0 := by
        simp [List.count_eq_zero, same]
      simp only [same, beq_self_eq_true, if_true] at places
      rw [gone]
      subst same
      simp only [List.count_nil]
      omega
    · rw [List.count_filter (by simpa using same)]
      simp only [beq_iff_eq, Ne.symm same, if_false, List.count_nil] at places ⊢
      omega
  | submits asked none _ same idle told =>
    rw [List.filterMap_cons_some asked, idle, List.count_cons, List.count_nil] at places
    have moved := congrArg (List.count id) told
    rw [List.count_append, List.count_singleton] at moved
    subst none
    rw [same, List.count_nil]
    omega

omit first

theorem Sound.numbered_turnover
    (turnover : program.engine.Turnover next event.request? begun ended) (id : Nat) :
    (settled ++ program.engine.settled next).count id + next.pipeline.outstanding.count id
      = if 0 < id ∧ id ≤ next.pipeline.issued then 1 else 0 := by
  have numbered := sound.numbered id
  rw [List.count_append, Engine.settled]
  cases turnover with
  | begins count _ new issued more _ =>
    have kept : program.engine.pipeline.outstanding.filter (· ∉ next.pipeline.outstanding) = [] := by
      simp +contextual [more]
    rw [kept, issued, more, new, List.count_append, List.count_range_1', List.count_nil]
    split at numbered <;> split <;> split <;> omega
  | @settles other _ _ issued less _ =>
    rw [issued, ← numbered]
    by_cases same : id = other
    -- The request itself is settled by this event.
    · have gone : id ∉ next.pipeline.outstanding := by simp [less, same]
      rw [List.count_filter (by simpa using gone), List.count_eq_zero_of_not_mem gone]
      omega
    · -- Another request that was outstanding still is.
      have stays : (program.engine.pipeline.outstanding.filter
          (· ∉ next.pipeline.outstanding)).count id = 0 := by
        simp [List.count_eq_zero, less, same]
      rw [stays, less, List.count_filter (by simpa using same)]
      omega
  | submits _ _ issued same _ _ =>
    have kept : program.engine.pipeline.outstanding.filter (· ∉ next.pipeline.outstanding) = [] := by
      simp [same]
    rw [kept, issued, same, List.count_nil]
    exact numbered

include first

theorem Sound.take (settings : RadioSettings) (world : ω) :
    Sound (take { program with queue := later } settings event world)
      (settled ++ program.engine.settled
        (take { program with queue := later } settings event world).engine) := by
  obtain ⟨turnover, after⟩ : EngineTurn.Turns program.engine event.request?
      (EngineTurn.handle { engine := program.engine, world } settings event).2 :=
    EngineTurn.turns_handle settings event sound.unfinished
  exact ⟨sound.places_turnover first turnover (requests_posted _),
    sound.numbered_turnover turnover, after⟩

end

theorem Sound.answer {program : Program} {settled : List RequestId} {id : RequestId}
    (sound : program.Sound settled) (result : Except ServiceError Bytes)
    (working : id ∈ program.works) :
    Sound { program with
      queue := program.queue ++ [.audioReady id result], works := program.works.erase id } settled := by
  refine ⟨fun other => ?_, sound.numbered, sound.unfinished⟩
  have places := sound.places other
  have some_work := List.count_pos_iff.mpr working
  have moved : ([Event.audioReady id result].filterMap Event.request?).count other
      = if id == other then 1 else 0 := List.count_singleton
  simp only [List.filterMap_append, List.count_append, List.count_erase, moved]
  by_cases same : id = other
  · subst same
    simp only [beq_self_eq_true, if_true]
    omega
  · simp only [beq_iff_eq, same, if_false]
    omega

theorem Sound.post {program : Program} {settled : List RequestId} (sound : program.Sound settled)
    {event : Event} (unasked : event.request? = none) :
    Sound { program with queue := program.queue ++ [event] } settled := by
  refine ⟨fun id => ?_, sound.numbered, sound.unfinished⟩
  simpa [List.filterMap_append, unasked] using sound.places id

variable {settings : RadioSettings} {program : Program} {settled : List RequestId}

theorem Run.sound (run : Run ω settings program settled) : program.Sound settled := by
  induction run with
  | new policy => exact sound_new policy
  | take world _ first _ ih => exact ih.take first settings world
  | answer result _ working ih => exact ih.answer result working
  | post event _ unasked ih => exact ih.post unasked

/-- Whatever happens in whatever order, every outstanding request is in one place and no other request is
in any: none is lost. So an event about a request finds it outstanding, and when no request is in any
place, none is outstanding. Every request that ever began is outstanding or was settled once. -/
theorem requests_settled_once (run : Run ω settings program settled) :
    (∀ id, program.tokens.count id = if id ∈ program.engine.pipeline.outstanding then 1 else 0) ∧
    (∀ event ∈ program.queue, ∀ id, event.request? = some id →
      (program.engine.pipeline.request? id).isSome = true) ∧
    (program.tokens = [] → program.engine.pipeline.requests = []) ∧
    (∀ id : Nat, settled.count id + program.engine.pipeline.outstanding.count id
      = if 0 < id ∧ id ≤ program.engine.pipeline.issued then 1 else 0) := by
  have sound := run.sound
  have places : ∀ id, program.tokens.count id = program.engine.pipeline.outstanding.count id := by
    intro id
    have counted := sound.places id
    rw [Event.count_requests] at counted
    simp only [tokens, List.count_append]
    omega
  have distinct : program.engine.pipeline.outstanding.Nodup := List.nodup_iff_count.mpr sound.once
  refine ⟨fun id => (places id).trans distinct.count, ?_, ?_, sound.numbered⟩
  · intro event member id about
    rw [Pipeline.request?_isSome_iff, ← List.count_pos_iff, ← sound.places id]
    have queued : id ∈ program.queue.filterMap Event.request? :=
      List.mem_filterMap.mpr ⟨event, member, about⟩
    have := List.count_pos_iff.mpr queued
    omega
  -- With no token left anywhere, an outstanding request would have none of its own.
  · intro none
    have empty : program.engine.pipeline.outstanding = [] := by
      refine List.eq_nil_iff_forall_not_mem.mpr fun id member => ?_
      have some_place := List.count_pos_iff.mpr member
      rw [← places id, none] at some_place
      exact absurd some_place (by simp)
    simpa [Pipeline.outstanding] using empty

theorem alone (queue : List Event) (idle : queue.length = 0) (event : Event) :
    queue ++ [event] = [event] := by
  rw [List.length_eq_zero_iff.mp idle, List.nil_append]

theorem Run.hear (run : Run ω settings program settled) (idle : program.queue.length = 0)
    (event : Event) (unasked : event.request? = none) (going : event ≠ .command .shutdown)
    (world : ω) : Run ω settings (Program.take { program with queue := [] } settings event world)
      (settled ++ program.engine.settled
        (Program.take { program with queue := [] } settings event world).engine) :=
  (run.post event unasked).take world (alone _ idle event) going

/-- The radio is switched off while the audio of a request is being sent. -/
theorem requests_settled_once_off : ∃ program settled, Run Bench.Rig {} program settled ∧
    program.tokens = [1] ∧ program.queue.filterMap Event.sent? = [1] ∧
    1 ∈ program.engine.pipeline.outstanding := by
  let glasses : PeripheralId := ⟨"glasses"⟩
  let rig : Bench.Rig := { power := .on, saved := some glasses }
  let image : Bench.Rig := { wires := #[.scripted { queue := [1, 0, 0, 0, 7] }] }
  have off : ∃ program settled, Run Bench.Rig {} program settled ∧ program.tokens = [1] ∧
      program.queue.filterMap Event.sent? = [1] := by
    have new : Run Bench.Rig {} _ _ := .new .concurrent
    have on := new.hear rfl (.radio (.power .on)) rfl (by simp) rig
    have linked := on.hear (by decide +kernel) (.radio (.connected glasses)) rfl (by simp) rig
    have live := linked.hear (by decide +kernel) (.radio (.channelOpened glasses (.ok ⟨7, 0⟩))) rfl
      (by simp) rig
    have read := live.hear (by decide +kernel) (.stream ⟨7, .inbound, .opened⟩) rfl (by simp) rig
    have both := read.hear (by decide +kernel) (.stream ⟨7, .outbound, .opened⟩) rfl (by simp) rig
    have begun := both.hear (by decide +kernel) (.stream ⟨7, .inbound, .bytesAvailable⟩) rfl
      (by simp) image
    have answered := begun.answer (.ok [5, 6]) (by decide +kernel : 1 ∈ _)
    have sending := answered.take rig (alone _ (by decide +kernel) _) (by simp)
    have gone := sending.hear (by decide +kernel) (.radio (.power .off)) rfl (by simp) rig
    exact ⟨_, _, gone, by decide +kernel⟩
  obtain ⟨program, settled, run, places, sent⟩ := off
  refine ⟨program, settled, run, places, sent, ?_⟩
  have counted := (requests_settled_once run).1 1
  rw [places] at counted
  by_cases member : 1 ∈ program.engine.pipeline.outstanding
  · exact member
  · simp [member] at counted

end Program

/-! ### The bench -/

namespace Bench

def EngineBench.program (on : EngineBench) : Program :=
  { engine := on.engine, queue := on.bench.events, works := on.bench.works.map (·.1) }

theorem follow_posts (bench : Bench) (effect : EngineEffect) (accepting : bench.accepting = true) :
    (bench.follow effect).accepting = true ∧
      (bench.follow effect).events = bench.events ++ effect.posted?.toList ∧
      (bench.follow effect).works.map (·.1) = bench.works.map (·.1) ++ effect.started?.toList := by
  cases effect with
  | link effect =>
    cases effect with
    | completed tag result =>
      simp only [follow, followLink, mark, post, accepting, if_true]
      split <;> simp [start, EngineEffect.posted?, EngineEffect.started?]
    | _ =>
      simp [follow, followLink, mark, start, accepting, EngineEffect.posted?, EngineEffect.started?]
  | pipeline effect =>
    cases effect with
    | leaseBegun token =>
      simp only [follow, followPipeline, mark]
      split <;> simp [start, accepting, EngineEffect.posted?, EngineEffect.started?,
        PipelineEffect.started?]
    | _ =>
      simp [follow, followPipeline, mark, start, accepting, EngineEffect.posted?,
        EngineEffect.started?, PipelineEffect.started?]

theorem foldl_follow_posts (effects : List EngineEffect) (bench : Bench)
    (accepting : bench.accepting = true) :
    (effects.foldl follow bench).events
        = bench.events ++ effects.filterMap EngineEffect.posted? ∧
      (effects.foldl follow bench).works.map (·.1)
        = bench.works.map (·.1) ++ effects.filterMap EngineEffect.started? := by
  induction effects generalizing bench with
  | nil => simp
  | cons effect later ih =>
    obtain ⟨still, events, works⟩ := follow_posts bench effect accepting
    obtain ⟨events', works'⟩ := ih (bench.follow effect) still
    rw [List.foldl_cons]
    refine ⟨events'.trans ?_, works'.trans ?_⟩
    · rw [events, List.append_assoc]
      cases posted : effect.posted? <;> simp [posted]
    · rw [works, List.append_assoc]
      cases started : effect.started? <;> simp [started]

theorem EngineBench.survived_all {fault : Option String} {effects : List EngineEffect}
    (harmless : (survived fault effects).2 = none) : (survived fault effects).1 = effects := by
  induction effects with
  | nil => rfl
  | cons effect later ih =>
    unfold survived at harmless ⊢
    split at harmless
    · simp at harmless
    · simp only
      rw [ih harmless]

/-- As long as nothing kills the engine, an event on the bench does to the program what it does there. -/
theorem EngineBench.program_take (on : EngineBench) (event : Event)
    (accepting : on.bench.accepting = true)
    (harmless : (survived on.fault (EngineTurn.handle { engine := on.engine, world := on.bench.rig }
      on.settings event).2.effects.toList).2 = none) :
    (on.take event).2.program = on.program.take on.settings event on.bench.rig := by
  -- What the surroundings become makes no difference to the queue and the works.
  have posted : ∀ rig, _ := fun rig => foldl_follow_posts
    (EngineTurn.handle { engine := on.engine, world := on.bench.rig }
      on.settings event).2.effects.toList { on.bench with rig } accepting
  simp only [EngineBench.take, harmless, survived_all harmless]
  exact (Program.mk.injEq ..).mpr ⟨rfl, posted _⟩

end Bench

end Sightline
