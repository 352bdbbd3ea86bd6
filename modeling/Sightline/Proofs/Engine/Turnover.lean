import Sightline.Engine
import Sightline.Proofs.Link.Sends
import Sightline.Proofs.Pipeline.Run

/-! What one event does to the requests.

An event that is about no request begins new ones, or none. The end of a request's work or of its sending
settles the request, unless its audio is taken for sending. Meanwhile the frame under way may end, and
then its request is told (`turnover_handle`). -/

set_option autoImplicit false

namespace Sightline

def Event.request? : Event → Option RequestId
  | .audioReady id _ => some id
  | .sendFinished id _ => some id
  | _ => none

/-- The request whose audio is the frame under way. -/
def Manager.sending (manager : Manager) : List RequestId :=
  (manager.outgoing.map Outgoing.tag).toList

namespace EngineEffect

def started? : EngineEffect → Option RequestId
  | .pipeline effect => effect.started?
  | .link _ => none

def ended? : EngineEffect → Option RequestId
  | .link (.completed tag _) => some tag
  | _ => none

def startedIn (effects : Array EngineEffect) : List RequestId := effects.toList.filterMap started?

def endedIn (effects : Array EngineEffect) : List RequestId := effects.toList.filterMap ended?

@[simp] theorem startedIn_empty : startedIn #[] = [] := rfl

@[simp] theorem endedIn_empty : endedIn #[] = [] := rfl

@[simp] theorem startedIn_append (effects more : Array EngineEffect) :
    startedIn (effects ++ more) = startedIn effects ++ startedIn more := by
  simp [startedIn]

@[simp] theorem endedIn_append (effects more : Array EngineEffect) :
    endedIn (effects ++ more) = endedIn effects ++ endedIn more := by
  simp [endedIn]

@[simp] theorem startedIn_link (effects : Array LinkEffect) :
    startedIn (effects.map .link) = [] := by
  simp [startedIn, started?]

@[simp] theorem startedIn_pipeline (effects : Array PipelineEffect) :
    startedIn (effects.map .pipeline) = PipelineEffect.startedIn effects := by
  simp [startedIn, PipelineEffect.startedIn, List.filterMap_map, Function.comp_def, started?]

@[simp] theorem endedIn_pipeline (effects : Array PipelineEffect) :
    endedIn (effects.map .pipeline) = [] := by
  simp [endedIn, ended?]

@[simp] theorem endedIn_link (effects : Array LinkEffect) :
    endedIn (effects.map .link) = SendFact.toldIn (LinkEffect.factsIn effects) := by
  have same : ended? ∘ .link = fun effect => effect.fact?.bind SendFact.told? := by
    funext effect
    cases effect <;> rfl
  rw [endedIn, Array.toList_map, List.filterMap_map, same, SendFact.toldIn, LinkEffect.factsIn,
    List.filterMap_filterMap]

end EngineEffect

open EngineEffect (startedIn endedIn)

/-- What becomes of the requests when an event is applied, where `request?` is the one that it is about,
work begins on those of `begun`, and the sending of those of `ended` ends. -/
inductive Engine.Turnover (before after : Engine) (request? : Option RequestId)
    (begun ended : List RequestId) : Prop where
  | begins (count : Nat) : request? = none →
      begun = List.range' (before.pipeline.issued + 1) count →
      after.pipeline.issued = before.pipeline.issued + count →
      after.pipeline.outstanding = before.pipeline.outstanding ++ begun →
      before.manager.sending = ended ++ after.manager.sending →
      Turnover before after request? begun ended
  | settles {id : RequestId} : request? = some id → begun = [] →
      after.pipeline.issued = before.pipeline.issued →
      after.pipeline.outstanding = before.pipeline.outstanding.filter (· ≠ id) →
      before.manager.sending = ended ++ after.manager.sending →
      Turnover before after request? begun ended
  /-- The audio is taken for sending, which may end at once. -/
  | submits {id : RequestId} : request? = some id → begun = [] →
      after.pipeline.issued = before.pipeline.issued →
      after.pipeline.outstanding = before.pipeline.outstanding → before.manager.sending = [] →
      [id] = ended ++ after.manager.sending → Turnover before after request? begun ended

theorem Engine.Turnover.begun_range {before after : Engine} {request? : Option RequestId}
    {begun ended : List RequestId} (turnover : before.Turnover after request? begun ended) :
    ∃ count, begun = List.range' (before.pipeline.issued + 1) count ∧
      after.pipeline.issued = before.pipeline.issued + count := by
  cases turnover with
  | begins count _ new issued _ _ => exact ⟨count, new, issued⟩
  | settles _ none issued _ _ => exact ⟨0, none, issued⟩
  | submits _ none issued _ _ _ => exact ⟨0, none, issued⟩

theorem Engine.Turnover.of_same {before before' after : Engine} {request? : Option RequestId}
    {begun ended : List RequestId} (turnover : before'.Turnover after request? begun ended)
    (issued : before'.pipeline.issued = before.pipeline.issued)
    (outstanding : before'.pipeline.outstanding = before.pipeline.outstanding)
    (sending : before'.manager.sending = before.manager.sending) :
    before.Turnover after request? begun ended := by
  cases turnover with
  | begins count unasked new number more told =>
    rw [issued] at new number
    rw [outstanding] at more
    rw [sending] at told
    exact .begins count unasked new number more told
  | settles asked none number less told =>
    rw [issued] at number
    rw [outstanding] at less
    rw [sending] at told
    exact .settles asked none number less told
  | submits asked none number same idle told =>
    rw [issued] at number
    rw [outstanding] at same
    rw [sending] at idle
    exact .submits asked none number same idle told

namespace PipelineTurn

variable {ω : Type} [BackgroundHost Generation ω]

theorem image_begins (turn : PipelineTurn ω) (image : Bytes) :
    ∃ count, (turn.image image).pipeline.issued = turn.pipeline.issued + count ∧
      (turn.image image).pipeline.outstanding
        = turn.pipeline.outstanding ++ List.range' (turn.pipeline.issued + 1) count ∧
      PipelineEffect.startedIn (turn.image image).effects
        = PipelineEffect.startedIn turn.effects
          ++ List.range' (turn.pipeline.issued + 1) count := by
  rcases turn.image_cases image with same | ⟨generation, next, ensured, added⟩
  · exact ⟨0, by simp [same]⟩
  · -- Covering the request with a lease neither adds a request nor begins work on one.
    have covered : next.pipeline.outstanding = turn.pipeline.outstanding ∧
        PipelineEffect.startedIn next.effects = PipelineEffect.startedIn turn.effects := by
      rcases (turn.indicate (.imageReceived image.length)).ensureLease_cases with
        ⟨held, -, answer⟩ | ⟨-, number, token, world, -, answer⟩ <;>
      · rw [answer] at ensured
        cases ensured
        simp [PipelineTurn.indicate, Pipeline.outstanding, PipelineEffect.started?]
    obtain ⟨outstanding, started⟩ := covered
    refine ⟨1, ?_⟩
    simp only [Pipeline.outstanding] at outstanding
    simp [added, Pipeline.outstanding, outstanding, started, PipelineEffect.started?]

end PipelineTurn

namespace EngineTurn

variable {ω : Type}

section

variable (turn : EngineTurn ω)

theorem onLink_sent {α : Type} (operation : LinkTurn ω → α × LinkTurn ω)
    (sent : LinkTurn.Sent { manager := turn.engine.manager, world := turn.world }
      (operation { manager := turn.engine.manager, world := turn.world }).2) :
    (turn.onLink operation).2.engine.pipeline = turn.engine.pipeline ∧
      startedIn (turn.onLink operation).2.effects = startedIn turn.effects ∧
      ∃ told, endedIn (turn.onLink operation).2.effects = endedIn turn.effects ++ told ∧
        turn.engine.manager.sending
          = told ++ (turn.onLink operation).2.engine.manager.sending := by
  obtain ⟨facts, booked, chain⟩ := sent
  refine ⟨rfl, by simp [onLink], SendFact.toldIn facts, ?_, chain.tags⟩
  simp [onLink, booked]

variable [BackgroundHost Generation ω]

theorem images_begin (frames : List Bytes) :
    (turn.images frames).engine.manager = turn.engine.manager ∧
      endedIn (turn.images frames).effects = endedIn turn.effects ∧
      ∃ count, (turn.images frames).engine.pipeline.issued
          = turn.engine.pipeline.issued + count ∧
        (turn.images frames).engine.pipeline.outstanding = turn.engine.pipeline.outstanding
          ++ List.range' (turn.engine.pipeline.issued + 1) count ∧
        startedIn (turn.images frames).effects = startedIn turn.effects
          ++ List.range' (turn.engine.pipeline.issued + 1) count := by
  -- On the frames: the numbers of the later requests go on where those of the first end.
  induction frames generalizing turn with
  | nil => exact ⟨rfl, rfl, 0, by simp [images]⟩
  | cons frame later ih =>
    have first := PipelineTurn.image_begins
      { pipeline := turn.engine.pipeline, world := turn.world } frame
    obtain ⟨count, issued, outstanding, started⟩ := first
    obtain ⟨manager, ended, more, issued', outstanding', started'⟩ :=
      ih (turn.onPipeline fun part => ((), part.image frame)).2
    simp only [onPipeline, issued, outstanding, EngineEffect.startedIn_append,
      EngineEffect.startedIn_pipeline, started] at issued' outstanding' started'
    refine ⟨manager, ?_, count + more, ?_, ?_, ?_⟩
    · exact ended.trans (by simp [onPipeline])
    · exact issued'.trans (Nat.add_assoc _ _ _)
    · refine outstanding'.trans ?_
      rw [List.append_assoc, Nat.add_right_comm, List.range'_append_1]
    · refine started'.trans ?_
      rw [List.append_assoc, Nat.add_right_comm]
      simp [List.range'_append_1]

end

def Turns (engine : Engine) (request? : Option RequestId) (next : EngineTurn ω) : Prop :=
  engine.Turnover next.engine request? (startedIn next.effects) (endedIn next.effects) ∧
    ∀ o ∈ next.engine.manager.outgoing, o.Unfinished

variable {engine : Engine} {world : ω}

theorem turns_link {α : Type} (world : ω) (operation : LinkTurn ω → α × LinkTurn ω)
    (sent : LinkTurn.Sent { manager := engine.manager, world }
      (operation { manager := engine.manager, world }).2)
    (unfinished : ∀ o ∈ engine.manager.outgoing, o.Unfinished) :
    Turns engine none (onLink { engine, world } operation).2 := by
  obtain ⟨pipeline, started, told, ended, sending⟩ := onLink_sent { engine, world } operation sent
  refine ⟨.begins 0 rfl started ?_ ?_ ?_, sent.unfinished unfinished⟩
  · rw [pipeline]
    rfl
  · rw [pipeline, started]
    simp
  · rw [ended]
    exact sending

variable [BackgroundHost Generation ω]

theorem turns_finish {id : RequestId} {result : PipelineTurn ω}
    (finished : result = ({ pipeline := engine.pipeline, world } : PipelineTurn ω).finish id ∨
      ∃ indication, result
        = (({ pipeline := engine.pipeline, world } : PipelineTurn ω).finish id).indicate indication)
    (unfinished : ∀ o ∈ engine.manager.outgoing, o.Unfinished) :
    Turns engine (some id)
      { engine := { engine with pipeline := result.pipeline }
        world := result.world
        effects := #[] ++ result.effects.map .pipeline } := by
  -- Telling the host of the end changes nothing that is counted.
  have same : result.pipeline
      = (({ pipeline := engine.pipeline, world } : PipelineTurn ω).finish id).pipeline ∧
      PipelineEffect.startedIn result.effects = [] := by
    rcases finished with rfl | ⟨indication, rfl⟩
    · exact ⟨rfl, by simp⟩
    · exact ⟨rfl, by simp [PipelineTurn.indicate, PipelineEffect.started?]⟩
  obtain ⟨pipeline, started⟩ := same
  refine ⟨.settles rfl ?_ ?_ ?_ ?_, unfinished⟩
  · simp [started]
  · simp [pipeline]
  · simp [pipeline]
  · simp [Manager.sending, Manager.outgoing]

theorem turns_sendFinished (id : RequestId) (result : SendResult)
    (unfinished : ∀ o ∈ engine.manager.outgoing, o.Unfinished) :
    Turns engine (some id)
      (onPipeline { engine, world } fun part => ((), part.sendFinished id result)).2 :=
  turns_finish (PipelineTurn.sendFinished_cases _ id result) unfinished

theorem turns_leaseRevoked (generation : Generation)
    (unfinished : ∀ o ∈ engine.manager.outgoing, o.Unfinished) :
    Turns engine none
      (onPipeline { engine, world } fun part => ((), part.leaseRevoked generation)).2 := by
  have kept : ∀ turn : PipelineTurn ω,
      (turn.leaseRevoked generation).pipeline.issued = turn.pipeline.issued ∧
      PipelineEffect.startedIn (turn.leaseRevoked generation).effects
        = PipelineEffect.startedIn turn.effects := by
    intro turn
    rcases turn.leaseRevoked_cases generation with same | ⟨held, -, -, revoked⟩
    · simp [same]
    · rw [revoked]
      exact ⟨by simp, by simp⟩
  obtain ⟨issued, started⟩ := kept { pipeline := engine.pipeline, world }
  have outstanding := PipelineTurn.outstanding_leaseRevoked { pipeline := engine.pipeline, world }
    generation
  refine ⟨.begins 0 rfl ?_ issued ?_ ?_, unfinished⟩
  · simpa [onPipeline] using started
  · simpa [onPipeline, started] using outstanding
  · simp [onPipeline]

variable [Streams ω]

theorem turns_submit (world : ω) (id : RequestId) (audio : Bytes)
    (unfinished : ∀ o ∈ engine.manager.outgoing, o.Unfinished) :
    Turns engine (some id)
      ((onLink { engine, world } (·.submit audio id)).2.onPipeline fun part =>
        ((), part.submitted id (onLink { engine, world } (·.submit audio id)).1)).2 := by
  rcases LinkTurn.submit_cases engine.manager world audio id with
    ⟨answer, idle, sends⟩ | ⟨refusal, refused⟩
  · -- The audio is the frame under way from now on, until it ends.
    have tags : [id] = _ := sends.tags
    simp only [onLink, onPipeline, answer, PipelineTurn.submitted]
    refine ⟨.submits rfl ?_ rfl rfl ?_ ?_, ?_⟩
    · simp
    · simp [Manager.sending, idle]
    · simpa [Manager.sending] using tags
    · exact sends.unfinished (by rintro _ ⟨rfl⟩; exact Session.begun_unfinished audio id)
  · simp only [onLink, onPipeline, refused, PipelineTurn.submitted, Array.map_empty,
      Array.append_empty]
    exact turns_finish (.inr ⟨_, rfl⟩) unfinished

theorem turns_audioReady (id : RequestId) (result : Except ServiceError Bytes)
    (unfinished : ∀ o ∈ engine.manager.outgoing, o.Unfinished) :
    Turns engine (some id) (audioReady { engine, world } id result) := by
  unfold audioReady
  rcases PipelineTurn.audioReady_cases { pipeline := engine.pipeline, world } id result with
    ⟨unknown, done⟩ | done | ⟨reason, done⟩ | ⟨audio, done⟩
  · simp only [onPipeline, done]
    exact ⟨.settles rfl (by simp) rfl (Pipeline.outstanding_of_unknown unknown).symm
      (by simp [Manager.sending]), unfinished⟩
  · simp only [onPipeline, done]
    exact turns_finish (.inl rfl) unfinished
  · simp only [onPipeline, done]
    exact turns_finish (.inr ⟨_, rfl⟩) unfinished
  · -- Noting the length of the audio makes no difference here.
    have noted : ∀ turn : PipelineTurn ω, (turn.noteLength id audio.length).effects = turn.effects :=
      fun _ => rfl
    simp only [onPipeline, done, noted, Array.map_empty, Array.append_empty]
    have issued : (({ pipeline := engine.pipeline, world } : PipelineTurn ω).noteLength id
      audio.length).pipeline.issued = engine.pipeline.issued := rfl
    have same := PipelineTurn.outstanding_noteLength { pipeline := engine.pipeline, world } id
      audio.length
    generalize ({ pipeline := engine.pipeline, world } : PipelineTurn ω).noteLength id audio.length
      = next at issued same
    have turns : Turns { engine with pipeline := next.pipeline } (some id) _ :=
      turns_submit next.world id audio unfinished
    exact ⟨turns.1.of_same issued same rfl, turns.2⟩

variable [Radio ω] [IdentityStore ω]

theorem turns_stream (settings : RadioSettings) (event : StreamEvent)
    (unfinished : ∀ o ∈ engine.manager.outgoing, o.Unfinished) :
    Turns engine none (handle { engine, world } settings (.stream event)).2 := by
  have sent : LinkTurn.Sent { manager := engine.manager, world }
      (LinkTurn.operate { manager := engine.manager, world } settings (.streamEvent event)) :=
    LinkTurn.sent_operate unfinished settings (by simp)
  have after : ∀ o ∈ (onLink { engine, world } (·.streamEvent settings event)).2.engine.manager.outgoing,
      o.Unfinished := sent.unfinished unfinished
  obtain ⟨pipeline, started, told, ended, sending⟩ :=
    onLink_sent { engine, world } (·.streamEvent settings event) sent
  simp only [handle]
  generalize onLink { engine, world } (·.streamEvent settings event) = linked
    at after pipeline started ended sending ⊢
  obtain ⟨frames, next⟩ := linked
  -- Then the frames that were heard become images.
  obtain ⟨manager, ended', count, issued, outstanding, started'⟩ := next.images_begin frames
  simp only at pipeline started ended sending after
  rw [pipeline] at issued outstanding started'
  simp only [started, EngineEffect.startedIn_empty, List.nil_append] at started'
  refine ⟨.begins count rfl started' issued ?_ ?_, ?_⟩
  · rw [started']
    exact outstanding
  · rw [ended', ended, manager]
    exact sending
  · rw [manager]
    exact after

theorem turns_handle (settings : RadioSettings) (event : Event)
    (unfinished : ∀ o ∈ engine.manager.outgoing, o.Unfinished) :
    Turns engine event.request? (handle { engine, world } settings event).2 := by
  have linked : ∀ {α : Type} (operation : LinkTurn ω → α × LinkTurn ω), _ →
      Turns engine none (onLink { engine, world } operation).2 :=
    fun operation sent => turns_link world operation sent unfinished
  have sent : ∀ operation : LinkOperation, (∀ payload tag, operation ≠ .submit payload tag) →
      LinkTurn.Sent { manager := engine.manager, world }
        (LinkTurn.operate { manager := engine.manager, world } settings operation) :=
    fun operation other => LinkTurn.sent_operate unfinished settings other
  -- Only a notification and the end of the remote work can begin or submit a request; the other
  -- events reach the link or the pipeline alone.
  cases event with
  | radio report =>
    exact linked (fun part => ((), part.report settings report)) (sent (.report report) (by simp))
  | stream event => exact turns_stream settings event unfinished
  | scanTimeout attempt =>
    exact linked (fun part => ((), part.scanTimeout attempt)) (sent (.scanTimeout attempt) (by simp))
  | audioReady id result => exact turns_audioReady id result unfinished
  | sendFinished id result => exact turns_sendFinished id result unfinished
  | leaseRevoked generation => exact turns_leaseRevoked generation unfinished
  | command command =>
    cases command with
    | connect => exact linked (·.connect settings) (sent .connect (by simp))
    | disconnect =>
      exact linked (fun part => ((), part.disconnect)) (sent .disconnect (by simp))
    | shutdown => exact ⟨.begins 0 rfl rfl rfl (by simp [handle]) rfl, unfinished⟩

end EngineTurn

end Sightline
