import Sightline.Proofs.Engine.Requests
import Sightline.Proofs.Link.Delivery

/-! What one event submits and publishes.

An event changes no length that was noted for another request, and it publishes the one that was noted for
a request whose sending has ended in success (`reports_handle`). To the frame under way it does what its
operation of the connection does (`moves_handle`). -/

set_option autoImplicit false

namespace Sightline

/-! ### What the pipeline publishes -/

def Pipeline.length? (pipeline : Pipeline) (id : RequestId) : Option Nat :=
  (pipeline.request? id).map (·.audioLength)

namespace PipelineEffect

def sent? : PipelineEffect → Option Nat
  | .indicated (.audioSent bytes) => some bytes
  | _ => none

def sentIn (effects : Array PipelineEffect) : List Nat := effects.toList.filterMap sent?

@[simp] theorem sentIn_empty : sentIn #[] = [] := rfl

@[simp] theorem sentIn_push (effects : Array PipelineEffect) (effect : PipelineEffect) :
    sentIn (effects.push effect) = sentIn effects ++ effect.sent?.toList := by
  cases same : effect.sent? <;> simp [sentIn, same]

end PipelineEffect

namespace PipelineTurn

open PipelineEffect (sentIn)

variable {ω : Type} [BackgroundHost Generation ω] (turn : PipelineTurn ω)

/-- Nothing was said to be sent, and the lengths noted before are as they were, but for those of requests
that are settled. -/
structure Silent (start turn : PipelineTurn ω) : Prop where
  sent : sentIn turn.effects = sentIn start.effects
  lengths : ∀ id ≤ start.pipeline.issued,
    ∀ length ∈ turn.pipeline.length? id, length ∈ start.pipeline.length? id

theorem silent_finish (id : RequestId) : turn.Silent (turn.finish id) := by
  constructor
  · unfold finish
    simp only
    split
    · unfold endLease
      split <;> simp [PipelineEffect.sent?]
    · rfl
  · intro other _ length noted
    rw [Pipeline.length?, request?_finish] at noted
    split at noted
    · cases noted
    · exact noted

theorem silent_failed (id : RequestId) (reason : String) :
    turn.Silent ((turn.finish id).indicate (.failed reason)) := by
  have finished := turn.silent_finish id
  refine ⟨?_, finished.lengths⟩
  simpa [indicate, PipelineEffect.sent?] using finished.sent

theorem silent_submitted (id : RequestId) (answer : Except SendError Unit) :
    turn.Silent (turn.submitted id answer) := by
  rcases turn.submitted_cases id answer with same | ⟨reason, left⟩
  · rw [same]
    exact ⟨rfl, fun _ _ _ noted => noted⟩
  · rw [left]
    exact turn.silent_failed id reason

theorem silent_image (image : Bytes) : turn.Silent (turn.image image) := by
  constructor
  · rcases turn.image_cases image with same | ⟨generation, next, ensured, added⟩
    · rw [same]
    · rcases (turn.indicate (.imageReceived image.length)).ensureLease_cases with
        ⟨held, -, answer⟩ | ⟨-, number, token, world, -, answer⟩ <;>
      · rw [answer] at ensured
        cases ensured
        simp [added, indicate, PipelineEffect.sent?]
  · intro id known length noted
    rwa [Pipeline.length?, turn.request?_image image known] at noted

theorem silent_leaseRevoked (generation : Generation) : turn.Silent (turn.leaseRevoked generation) := by
  rcases turn.leaseRevoked_cases generation with same | ⟨held, -, -, revoked⟩
  · rw [same]
    exact ⟨rfl, fun _ _ _ noted => noted⟩
  · rw [revoked]
    constructor
    · simp only
      unfold endLease
      split <;> simp [PipelineEffect.sent?]
    · intro id _ length noted
      -- Marking a request revoked leaves the length noted for it alone.
      have marked := find_map turn.pipeline.requests
        (fun request =>
          if request.lease = generation then { request with revoked := true } else request)
        (fun request => by split <;> rfl) id
      simp only [Pipeline.length?, Pipeline.request?, pipeline_endLease, marked,
        Option.map_map] at noted ⊢
      obtain ⟨request, found, rfl⟩ := Option.map_eq_some_iff.mp noted
      refine Option.map_eq_some_iff.mpr ⟨request, found, ?_⟩
      simp only [Function.comp_apply]
      split <;> rfl

end PipelineTurn

/-! ### What an event does -/

theorem Carries.sending {pair : StreamPair} {outgoing : Outgoing} {manager : Manager}
    {effects : List LinkEffect} (carries : Carries pair outgoing manager effects) :
    [outgoing.tag] = effects.filterMap LinkEffect.ended? ++ manager.sending := by
  cases carries with
  | goesOn sending _ tag untold _ => simp [Manager.sending, sending, tag, untold]
  | ends gone split before after _ =>
    simp [Manager.sending, gone, split, before, after, LinkEffect.ended?]

theorem FrameMove.sending {before after : Manager} {submission? : Option Submission}
    {effects : List LinkEffect} (moves : FrameMove before after submission? effects) :
    before.sending ++ (submission?.bind Submission.accepted?).toList
      = effects.filterMap LinkEffect.ended? ++ after.sending := by
  cases moves with
  | idle idle gone refused untold => simp [Manager.sending, idle, gone, refused, untold]
  | carries sending _ refused carries =>
    rw [← carries.sending, refused]
    simp [Manager.sending, sending]
  | begins idle _ submits carries =>
    rw [← carries.sending, submits]
    simp [Manager.sending, idle, Submission.accepted?, Session.begun]

namespace EngineEffect

def link? : EngineEffect → Option LinkEffect
  | .link effect => some effect
  | .pipeline _ => none

def sent? : EngineEffect → Option Nat
  | .link _ => none
  | .pipeline effect => effect.sent?

def linksIn (effects : Array EngineEffect) : List LinkEffect := effects.toList.filterMap link?

def sentIn (effects : Array EngineEffect) : List Nat := effects.toList.filterMap sent?

@[simp] theorem linksIn_empty : linksIn #[] = [] := rfl

@[simp] theorem sentIn_empty : sentIn #[] = [] := rfl

@[simp] theorem linksIn_append (effects more : Array EngineEffect) :
    linksIn (effects ++ more) = linksIn effects ++ linksIn more := by
  simp [linksIn]

@[simp] theorem sentIn_append (effects more : Array EngineEffect) :
    sentIn (effects ++ more) = sentIn effects ++ sentIn more := by
  simp [sentIn]

@[simp] theorem linksIn_link (effects : Array LinkEffect) :
    linksIn (effects.map .link) = effects.toList := by
  rw [linksIn, Array.toList_map, List.filterMap_map]
  exact List.filterMap_some

@[simp] theorem linksIn_pipeline (effects : Array PipelineEffect) :
    linksIn (effects.map .pipeline) = [] := by
  simp [linksIn, link?]

@[simp] theorem sentIn_link (effects : Array LinkEffect) : sentIn (effects.map .link) = [] := by
  simp [sentIn, sent?]

@[simp] theorem sentIn_pipeline (effects : Array PipelineEffect) :
    sentIn (effects.map .pipeline) = PipelineEffect.sentIn effects := by
  simp [sentIn, PipelineEffect.sentIn, List.filterMap_map, Function.comp_def, sent?]

theorem endedIn_links (effects : Array EngineEffect) :
    endedIn effects = (linksIn effects).filterMap LinkEffect.ended? := by
  have same : ended? = fun effect => effect.link?.bind LinkEffect.ended? := by
    funext effect
    cases effect with
    | link effect => cases effect <;> rfl
    | pipeline => rfl
  rw [endedIn, linksIn, List.filterMap_filterMap, same]

end EngineEffect

open EngineEffect (linksIn sentIn)

def Engine.published (engine : Engine) : Event → List Nat
  | .sendFinished id (.ok ()) => (engine.pipeline.length? id).toList
  | _ => []

theorem Engine.mem_published {engine : Engine} {event : Event} {length : Nat} :
    length ∈ engine.published event ↔
      ∃ id, event = .sendFinished id (.ok ()) ∧ engine.pipeline.length? id = some length := by
  constructor
  · intro member
    unfold published at member
    split at member
    · next id => exact ⟨id, rfl, Option.mem_toList.mp member⟩
    · cases member
  · rintro ⟨id, rfl, noted⟩
    exact Option.mem_toList.mpr noted

namespace EngineTurn

variable {ω : Type}

/-- The audio that an event makes the engine submit, under the number of its request. -/
def submission? [Streams ω] [BackgroundHost Generation ω] (turn : EngineTurn ω) :
    Event → Option Submission
  | .audioReady id result =>
    match turn.onPipeline (·.audioReady id result) with
    | (none, _) => none
    | (some audio, turn) => some ⟨id, audio, (turn.onLink (·.submit audio id)).1⟩
  | _ => none

/-- What an event publishes, and what it leaves of the lengths that were noted for requests. -/
structure Reports (engine : Engine) (event : Event) (next : EngineTurn ω) : Prop where
  lengths : ∀ id ≤ engine.pipeline.issued, event.ready? ≠ some id →
    ∀ length ∈ next.engine.pipeline.length? id, length ∈ engine.pipeline.length? id
  sent : sentIn next.effects = engine.published event

variable {engine : Engine} {world : ω}

theorem reports_onLink {α : Type} (world : ω) {event : Event} (silent : engine.published event = [])
    (operation : LinkTurn ω → α × LinkTurn ω) :
    Reports engine event (onLink { engine, world } operation).2 :=
  ⟨fun _ _ _ _ noted => noted, by simp [onLink, silent]⟩

theorem reports_onPipeline {α : Type} {event : Event} (silent : engine.published event = [])
    {operation : PipelineTurn ω → α × PipelineTurn ω}
    (kept : PipelineTurn.Silent { pipeline := engine.pipeline, world }
      (operation { pipeline := engine.pipeline, world }).2) :
    Reports engine event (onPipeline { engine, world } operation).2 :=
  ⟨fun id known _ => kept.lengths id known, by simpa [onPipeline, silent] using kept.sent⟩

variable [BackgroundHost Generation ω]

theorem reports_sendFinished (id : RequestId) (result : SendResult) :
    Reports engine (.sendFinished id result)
      (onPipeline { engine, world } fun part => ((), part.sendFinished id result)).2 := by
  have finished := PipelineTurn.silent_finish { pipeline := engine.pipeline, world } id
  have failed := fun reason =>
    PipelineTurn.silent_failed { pipeline := engine.pipeline, world } id reason
  -- What is published depends on the length noted before the request is dropped.
  cases known : engine.pipeline.request? id with
  | none =>
    have unknown : engine.pipeline.length? id = none := by simp [Pipeline.length?, known]
    have silent : engine.published (.sendFinished id result) = [] := by
      cases result <;> simp [Engine.published, unknown]
    refine reports_onPipeline silent ?_
    simpa [PipelineTurn.sendFinished, known] using finished
  | some request =>
    cases result with
    | error error =>
      refine reports_onPipeline rfl ?_
      simpa [PipelineTurn.sendFinished, known] using failed error.message
    | ok =>
      have done : PipelineTurn.sendFinished { pipeline := engine.pipeline, world } id (.ok ())
          = (PipelineTurn.finish { pipeline := engine.pipeline, world } id).indicate
            (.audioSent request.audioLength) := by
        simp [PipelineTurn.sendFinished, known]
      have told : PipelineEffect.sentIn
          (PipelineTurn.sendFinished { pipeline := engine.pipeline, world } id (.ok ())).effects
            = [request.audioLength] := by
        simp [done, PipelineTurn.indicate, finished.sent, PipelineEffect.sent?]
      refine ⟨fun other old _ length noted => ?_, ?_⟩
      · simp only [onPipeline, done] at noted
        exact finished.lengths other old length noted
      · simpa [onPipeline, Engine.published, Pipeline.length?, known] using told

theorem reports_images (event : Event) (turn : EngineTurn ω) (frames : List Bytes)
    (reports : Reports engine event turn)
    (issued : engine.pipeline.issued ≤ turn.engine.pipeline.issued) :
    Reports engine event (turn.images frames) := by
  -- On the frames: a request that was known before the first is known before every later one.
  induction frames generalizing turn with
  | nil => exact reports
  | cons frame later ih =>
    have begun := PipelineTurn.image_begins
      { pipeline := turn.engine.pipeline, world := turn.world } frame
    have silent := PipelineTurn.silent_image
      { pipeline := turn.engine.pipeline, world := turn.world } frame
    obtain ⟨count, more, -, -⟩ := begun
    refine ih _ ⟨fun id known apart length noted => ?_, ?_⟩ ?_
    · exact reports.lengths id known apart length
        (silent.lengths id (Nat.le_trans known issued) length noted)
    · have same : sentIn (turn.onPipeline fun part => ((), part.image frame)).2.effects
          = sentIn turn.effects := by
        simpa [onPipeline] using silent.sent
      rw [same]
      exact reports.sent
    · exact Nat.le_trans issued (Nat.le.intro more.symm)

variable [Streams ω]

theorem reports_audioReady (id : RequestId) (result : Except ServiceError Bytes) :
    Reports engine (.audioReady id result) (audioReady { engine, world } id result) := by
  unfold audioReady
  rcases PipelineTurn.audioReady_cases { pipeline := engine.pipeline, world } id result with
    ⟨-, done⟩ | done | ⟨reason, done⟩ | ⟨audio, done⟩
  · simp only [onPipeline, done]
    exact ⟨fun _ _ _ _ noted => noted, by simp [Engine.published]⟩
  · have finished := PipelineTurn.silent_finish { pipeline := engine.pipeline, world } id
    simp only [onPipeline, done]
    exact ⟨fun other known _ => finished.lengths other known,
      by simpa [Engine.published] using finished.sent⟩
  · have failed := PipelineTurn.silent_failed { pipeline := engine.pipeline, world } id reason
    simp only [onPipeline, done]
    exact ⟨fun other known _ => failed.lengths other known,
      by simpa [Engine.published] using failed.sent⟩
  · -- The length that is noted is that of the request's own audio.
    have silent := fun (later : ω) (answer : Except SendError Unit) => PipelineTurn.silent_submitted
      { pipeline := (PipelineTurn.noteLength { pipeline := engine.pipeline, world } id
          audio.length).pipeline, world := later } id answer
    simp only [onPipeline, onLink, done]
    refine ⟨fun other known apart length kept => ?_, ?_⟩
    · have different : id ≠ other := fun same => apart (congrArg some same)
      have before := (silent _ _).lengths other known length kept
      have same := PipelineTurn.request?_noteLength_other { pipeline := engine.pipeline, world }
        different audio.length
      rwa [Pipeline.length?, same] at before
    · simpa [Engine.published, PipelineTurn.noteLength] using (silent _ _).sent

theorem submission?_event {turn : EngineTurn ω} {event : Event} {submission : Submission}
    (submits : turn.submission? event = some submission) :
    event = .audioReady submission.tag (.ok submission.payload) := by
  unfold submission? at submits
  split at submits
  · next id result =>
    split at submits
    · cases submits
    · next audio next given =>
      obtain rfl := Option.some.inj submits
      have passed : (PipelineTurn.audioReady { pipeline := turn.engine.pipeline, world := turn.world }
          id result).1 = some audio := congrArg Prod.fst given
      obtain ⟨-, -, -, rfl⟩ := (PipelineTurn.audioReady_passes _ id result audio).mp passed
      rfl
  · cases submits

theorem submission?_revoked {turn : EngineTurn ω} {id : RequestId} {result : Except ServiceError Bytes}
    {request : Request} (known : turn.engine.pipeline.request? id = some request)
    (revoked : request.revoked = true) : turn.submission? (.audioReady id result) = none := by
  simp [submission?, onPipeline, PipelineTurn.audioReady, known, revoked]

variable [Radio ω] [IdentityStore ω]

theorem length?_submitted {event : Event} {id : RequestId} {audio : Bytes}
    (submits : submission? { engine, world } event = some ⟨id, audio, .ok ()⟩)
    (settings : RadioSettings) :
    ∀ length ∈ (handle { engine, world } settings event).2.engine.pipeline.length? id,
      length = audio.length := by
  cases event with
  | audioReady other result =>
    obtain ⟨rfl, -⟩ := Event.audioReady.inj (submission?_event submits)
    rcases PipelineTurn.audioReady_cases { pipeline := engine.pipeline, world } other result with
      ⟨-, done⟩ | done | ⟨reason, done⟩ | ⟨taken, done⟩ <;>
      simp only [submission?, onPipeline, onLink, done] at submits
    · cases submits
    · cases submits
    · cases submits
    · obtain ⟨-, rfl, answer⟩ := Submission.mk.inj (Option.some.inj submits)
      intro length noted
      simp only [handle, audioReady, onPipeline, onLink, done, answer, PipelineTurn.submitted] at noted
      rw [Pipeline.length?, PipelineTurn.request?_noteLength] at noted
      obtain ⟨request, found, rfl⟩ := Option.map_eq_some_iff.mp noted
      obtain ⟨before, known, rfl⟩ := Option.map_eq_some_iff.mp found
      have number : before.id = other := by simpa using List.find?_some known
      simp [number]
  | _ => cases submits

theorem reports_handle (engine : Engine) (world : ω) (settings : RadioSettings) (event : Event) :
    Reports engine event (handle { engine, world } settings event).2 := by
  cases event with
  | radio report => exact reports_onLink world rfl fun part => ((), part.report settings report)
  | stream event =>
    have linked : Reports engine (.stream event)
        (onLink { engine, world } (·.streamEvent settings event)).2 := reports_onLink world rfl _
    exact reports_images (.stream event) _ _ linked (Nat.le_refl _)
  | scanTimeout attempt => exact reports_onLink world rfl fun part => ((), part.scanTimeout attempt)
  | audioReady id result => exact reports_audioReady id result
  | sendFinished id result => exact reports_sendFinished id result
  | leaseRevoked generation =>
    have silent := PipelineTurn.silent_leaseRevoked { pipeline := engine.pipeline, world } generation
    exact ⟨fun id known _ => silent.lengths id known,
      by simpa [handle, onPipeline, Engine.published] using silent.sent⟩
  | command command =>
    cases command with
    | connect => exact reports_onLink world rfl (·.connect settings)
    | disconnect => exact reports_onLink world rfl fun part => ((), part.disconnect)
    | shutdown => exact ⟨fun _ _ _ _ noted => noted, rfl⟩

omit [Radio ω] [IdentityStore ω] in
theorem moves_audioReady (id : RequestId) (result : Except ServiceError Bytes) :
    FrameMove engine.manager (audioReady { engine, world } id result).engine.manager
      (submission? { engine, world } (.audioReady id result))
      (linksIn (audioReady { engine, world } id result).effects) := by
  unfold audioReady submission?
  rcases PipelineTurn.audioReady_cases { pipeline := engine.pipeline, world } id result with
    ⟨-, done⟩ | done | ⟨reason, done⟩ | ⟨audio, done⟩ <;> simp only [onPipeline, onLink, done]
  · simpa using FrameMove.still engine.manager rfl
  · simpa using FrameMove.still engine.manager rfl
  · simpa using FrameMove.still engine.manager rfl
  · simpa [PipelineTurn.noteLength] using FrameMove.submit engine.manager world audio id

omit [Streams ω] [Radio ω] [IdentityStore ω] in
theorem links_images (turn : EngineTurn ω) (frames : List Bytes) :
    linksIn (turn.images frames).effects = linksIn turn.effects := by
  induction frames generalizing turn with
  | nil => rfl
  | cons frame later ih =>
    refine (ih _).trans ?_
    simp [onPipeline]

omit [BackgroundHost Generation ω] in
theorem moves_onLink {α : Type} (world : ω) (apply : LinkTurn ω → α × LinkTurn ω)
    (settings : RadioSettings) (operation : LinkOperation)
    (same : (apply { manager := engine.manager, world }).2
      = LinkTurn.operate { manager := engine.manager, world } settings operation)
    (other : ∀ payload tag, operation ≠ .submit payload tag)
    (unfinished : ∀ o ∈ engine.manager.outgoing, o.Unfinished) :
    FrameMove engine.manager (onLink { engine, world } apply).2.engine.manager none
      (linksIn (onLink { engine, world } apply).2.effects) := by
  simpa [onLink, same] using FrameMove.operate world settings unfinished other

/-- An event does to the frame under way what its operation of the connection does. -/
theorem moves_handle (settings : RadioSettings) (event : Event)
    (unfinished : ∀ o ∈ engine.manager.outgoing, o.Unfinished) :
    FrameMove engine.manager (handle { engine, world } settings event).2.engine.manager
      (submission? { engine, world } event)
      (linksIn (handle { engine, world } settings event).2.effects) := by
  have still : FrameMove engine.manager engine.manager none [] := .still engine.manager rfl
  cases event with
  | radio report =>
    exact moves_onLink world (fun part => ((), part.report settings report)) settings
      (.report report) rfl (by simp) unfinished
  | stream event =>
    have moves := moves_onLink world (·.streamEvent settings event) settings (.streamEvent event) rfl
      (by simp) unfinished
    simp only [handle]
    -- The images that the notification delivered begin requests only: none reaches the link.
    generalize onLink { engine, world } (·.streamEvent settings event) = heard at moves ⊢
    rw [links_images, (heard.2.images_begin heard.1).1]
    exact moves
  | scanTimeout attempt =>
    exact moves_onLink world (fun part => ((), part.scanTimeout attempt)) settings
      (.scanTimeout attempt) rfl (by simp) unfinished
  | audioReady id result => exact moves_audioReady id result
  | sendFinished id result => simpa [handle, onPipeline, submission?] using still
  | leaseRevoked generation => simpa [handle, onPipeline, submission?] using still
  | command command =>
    cases command with
    | connect =>
      exact moves_onLink world (·.connect settings) settings .connect rfl (by simp) unfinished
    | disconnect =>
      exact moves_onLink world (fun part => ((), part.disconnect)) settings .disconnect
        rfl (by simp) unfinished
    | shutdown => exact still

end EngineTurn

end Sightline
