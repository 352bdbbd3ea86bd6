import Sightline.Pipeline

/-! Runs of a pipeline, and what they do to its requests.

`PipelineTurn.operate` applies any one operation. The surroundings may become anything between two
operations, so the host may hand out whatever tokens it likes. The operations are looked into here, and
the case lemmas say all that each can do; what is proved of pipelines elsewhere goes by them. -/

set_option autoImplicit false

namespace Sightline

inductive PipelineOperation where
  | image (image : Bytes)
  /-- If there is audio to be sent, it is submitted, and `answer` is what the submitter is told. -/
  | audioReady (id : RequestId) (result : Except ServiceError Bytes)
      (answer : Except SendError Unit)
  | sendFinished (id : RequestId) (result : SendResult)
  | leaseRevoked (generation : Generation)

namespace PipelineTurn

variable {ω : Type} [BackgroundHost Generation ω]

def operate (turn : PipelineTurn ω) : PipelineOperation → PipelineTurn ω
  | .image image => turn.image image
  | .audioReady id result answer =>
    match turn.audioReady id result with
    | (none, turn) => turn
    | (some _, turn) => turn.submitted id answer
  | .sendFinished id result => turn.sendFinished id result
  | .leaseRevoked generation => turn.leaseRevoked generation

end PipelineTurn

/-- Pipelines that operations lead to from a new one, with everything that was done on the way. -/
inductive Pipeline.Run (ω : Type) [BackgroundHost Generation ω] :
    Pipeline → List PipelineEffect → Prop where
  | new (policy : Concurrency) : Run ω { policy } []
  | operate {pipeline : Pipeline} {effects : List PipelineEffect} (operation : PipelineOperation)
      (world : ω) : Run ω pipeline effects →
      Run ω (PipelineTurn.operate { pipeline, world } operation).pipeline
        (effects ++ (PipelineTurn.operate { pipeline, world } operation).effects.toList)

def Pipeline.outstanding (pipeline : Pipeline) : List RequestId := pipeline.requests.map (·.id)

theorem Pipeline.request?_isSome_iff (pipeline : Pipeline) (id : RequestId) :
    (pipeline.request? id).isSome = true ↔ id ∈ pipeline.outstanding := by
  simp [request?, outstanding, List.find?_isSome]

theorem Pipeline.outstanding_of_unknown {pipeline : Pipeline} {id : RequestId}
    (unknown : pipeline.request? id = none) :
    pipeline.outstanding.filter (· ≠ id) = pipeline.outstanding := by
  have absent : id ∉ pipeline.outstanding := by
    rw [← pipeline.request?_isSome_iff, unknown]
    simp
  exact List.filter_eq_self.mpr fun other member => decide_eq_true fun same => absent (same ▸ member)

def PipelineEffect.started? : PipelineEffect → Option RequestId
  | .started id _ => some id
  | _ => none

def PipelineEffect.startedIn (effects : Array PipelineEffect) : List RequestId :=
  effects.toList.filterMap started?

@[simp] theorem PipelineEffect.startedIn_empty : startedIn #[] = [] := rfl

@[simp] theorem PipelineEffect.startedIn_push (effects : Array PipelineEffect)
    (effect : PipelineEffect) :
    startedIn (effects.push effect) = startedIn effects ++ effect.started?.toList := by
  cases same : effect.started? <;> simp [startedIn, same]

/-! ### Small steps -/

namespace PipelineTurn

open PipelineEffect (startedIn)

variable {ω : Type} [BackgroundHost Generation ω] (turn : PipelineTurn ω)

@[simp] theorem pipeline_endLease :
    turn.endLease.pipeline = { turn.pipeline with lease := none } := by
  obtain ⟨⟨policy, issued, requests, generations, lease⟩, world, effects⟩ := turn
  cases lease <;> rfl

@[simp] theorem startedIn_endLease : startedIn turn.endLease.effects = startedIn turn.effects := by
  unfold endLease
  split <;> simp [PipelineEffect.started?]

@[simp] theorem requests_finish (id : RequestId) :
    (turn.finish id).pipeline.requests = turn.pipeline.requests.filter (·.id ≠ id) := by
  unfold finish
  simp only
  split
  · rw [pipeline_endLease]
  · rfl

@[simp] theorem outstanding_finish (id : RequestId) :
    (turn.finish id).pipeline.outstanding = turn.pipeline.outstanding.filter (· ≠ id) := by
  simp only [Pipeline.outstanding, requests_finish, List.filter_map]
  rfl

@[simp] theorem issued_finish (id : RequestId) :
    (turn.finish id).pipeline.issued = turn.pipeline.issued := by
  unfold finish
  simp only
  split
  · rw [pipeline_endLease]
  · rfl

@[simp] theorem startedIn_finish (id : RequestId) :
    startedIn (turn.finish id).effects = startedIn turn.effects := by
  unfold finish
  simp only
  split
  · rw [startedIn_endLease]
  · rfl

omit [BackgroundHost Generation ω] in
@[simp] theorem outstanding_noteLength (id : RequestId) (length : Nat) :
    (turn.noteLength id length).pipeline.outstanding = turn.pipeline.outstanding := by
  simp only [noteLength, Pipeline.outstanding, List.map_map]
  apply List.map_congr_left
  intro request _
  simp only [Function.comp_apply]
  split <;> rfl

theorem request?_finish (other id : RequestId) : (turn.finish other).pipeline.request? id
    = if id = other then none else turn.pipeline.request? id := by
  rw [Pipeline.request?, requests_finish, List.find?_filter]
  split
  · next same =>
    rw [List.find?_eq_none]
    simp [same]
  · next different =>
    congr 1
    funext request
    by_cases own : request.id = id <;> simp [own, different]

omit [BackgroundHost Generation ω] in
theorem find_map (requests : List Request) (change : Request → Request)
    (numbers : ∀ request, (change request).id = request.id) (id : RequestId) :
    (requests.map change).find? (·.id = id) = (requests.find? (·.id = id)).map change := by
  have same : (fun request : Request => decide (request.id = id)) ∘ change
      = fun request => decide (request.id = id) := by
    funext request
    simp only [Function.comp_apply, numbers]
  rw [List.find?_map, same]

omit [BackgroundHost Generation ω] in
theorem request?_noteLength (other id : RequestId) (length : Nat) :
    (turn.noteLength other length).pipeline.request? id = (turn.pipeline.request? id).map fun request =>
      if request.id = other then { request with audioLength := length } else request := by
  refine find_map turn.pipeline.requests _ (fun request => ?_) id
  split <;> rfl

omit [BackgroundHost Generation ω] in
theorem request?_noteLength_other {other id : RequestId} (different : other ≠ id) (length : Nat) :
    (turn.noteLength other length).pipeline.request? id = turn.pipeline.request? id := by
  rw [request?_noteLength]
  cases known : turn.pipeline.request? id with
  | none => rfl
  | some request =>
    have number : request.id = id := by simpa using List.find?_some known
    simp [number, different.symm]

theorem ensureLease_cases :
    (∃ held, turn.pipeline.lease = some held ∧ turn.ensureLease = (held.generation, turn)) ∨
      (turn.pipeline.lease = none ∧ ∃ generation token world,
        BackgroundHost.beginLease turn.world Pipeline.leaseName generation = (token, world) ∧
        turn.ensureLease = (generation,
          { pipeline := { turn.pipeline with
              generations := generation, lease := some ⟨generation, token⟩ }
            world
            effects := turn.effects.push (.leaseBegun token) })) := by
  unfold ensureLease
  split
  · next held lease => exact .inl ⟨held, lease, rfl⟩
  · next lease => exact .inr ⟨lease, _, _, _, rfl, rfl⟩

/-- An image is passed over, or it becomes a request under the lease that covers it. -/
theorem image_cases (image : Bytes) :
    turn.image image = turn ∨ ∃ generation next,
      (turn.indicate (.imageReceived image.length)).ensureLease = (generation, next) ∧
      turn.image image = { next with
        pipeline := { next.pipeline with
          issued := turn.pipeline.issued + 1
          requests := next.pipeline.requests
            ++ [{ id := turn.pipeline.issued + 1, lease := generation }] }
        effects := next.effects.push (.started (turn.pipeline.issued + 1) image) } := by
  unfold PipelineTurn.image
  split
  · exact .inl rfl
  · split
    · exact .inl rfl
    · exact .inr ⟨_, _, rfl, rfl⟩

theorem image_begins_next (image : Bytes) : turn.image image = turn ∨ ∃ held,
    startedIn (turn.image image).effects
      = startedIn turn.effects ++ [turn.pipeline.issued + 1] ∧
    (turn.image image).pipeline.issued = turn.pipeline.issued + 1 ∧
    (turn.image image).pipeline.lease = some held ∧
    (turn.image image).pipeline.requests = turn.pipeline.requests
      ++ [{ id := turn.pipeline.issued + 1, lease := held.generation }] := by
  rcases turn.image_cases image with same | ⟨generation, next, ensured, added⟩
  · exact .inl same
  · right
    rcases (turn.indicate (.imageReceived image.length)).ensureLease_cases with
      ⟨held, lease, answer⟩ | ⟨-, number, token, world, -, answer⟩
    · rw [answer] at ensured
      cases ensured
      rw [added]
      exact ⟨held, by simp [indicate, PipelineEffect.started?], rfl, lease, rfl⟩
    · rw [answer] at ensured
      cases ensured
      rw [added]
      exact ⟨⟨generation, token⟩, by simp [indicate, PipelineEffect.started?], rfl, rfl, rfl⟩

theorem request?_image (image : Bytes) {id : RequestId} (known : id ≤ turn.pipeline.issued) :
    (turn.image image).pipeline.request? id = turn.pipeline.request? id := by
  rcases turn.image_begins_next image with same | ⟨held, -, -, -, added⟩
  · rw [same]
  · have newer : ¬turn.pipeline.issued + 1 = id := Nat.ne_of_gt (Nat.lt_succ_of_le known)
    rw [Pipeline.request?, added, List.find?_append]
    simp [Pipeline.request?, newer]

/-- The work on a request ended: the request was unknown; or it is settled, and perhaps its failure is
told; or its audio is to be submitted. -/
theorem audioReady_cases (id : RequestId) (result : Except ServiceError Bytes) :
    (turn.pipeline.request? id = none ∧ turn.audioReady id result = (none, turn)) ∨
    turn.audioReady id result = (none, turn.finish id) ∨
    (∃ reason, turn.audioReady id result = (none, (turn.finish id).indicate (.failed reason))) ∨
    ∃ audio, turn.audioReady id result = (some audio, turn.noteLength id audio.length) := by
  unfold audioReady
  split
  · next unknown => exact .inl ⟨unknown, rfl⟩
  · split
    · exact .inr (.inl rfl)
    · cases result with
      | ok audio => exact .inr (.inr (.inr ⟨audio, rfl⟩))
      | error error => exact .inr (.inr (.inl ⟨_, rfl⟩))

theorem audioReady_passes (id : RequestId) (result : Except ServiceError Bytes) (audio : Bytes) :
    (turn.audioReady id result).1 = some audio ↔ ∃ request,
      turn.pipeline.request? id = some request ∧ request.revoked = false ∧ result = .ok audio := by
  unfold audioReady
  cases known : turn.pipeline.request? id with
  | none => simp
  | some request =>
    cases revoked : request.revoked with
    | true => simp [revoked]
    | false => cases result <;> simp [revoked]

theorem submitted_cases (id : RequestId) (answer : Except SendError Unit) :
    turn.submitted id answer = turn ∨
      ∃ reason, turn.submitted id answer = (turn.finish id).indicate (.failed reason) := by
  cases answer with
  | ok => exact .inl rfl
  | error refusal => exact .inr ⟨_, rfl⟩

theorem sendFinished_cases (id : RequestId) (result : SendResult) :
    turn.sendFinished id result = turn.finish id ∨
      ∃ indication, turn.sendFinished id result = (turn.finish id).indicate indication := by
  unfold sendFinished
  split
  · exact .inl rfl
  · exact .inr ⟨_, rfl⟩

/-- A notice of the host is about another lease, or it ends the one that is held and marks the requests
which that one covered. -/
theorem leaseRevoked_cases (generation : Generation) :
    turn.leaseRevoked generation = turn ∨
      ∃ held, turn.pipeline.lease = some held ∧ held.generation = generation ∧
        turn.leaseRevoked generation = { turn.endLease with
          pipeline := { turn.endLease.pipeline with
            requests := turn.endLease.pipeline.requests.map fun request =>
              if request.lease = generation then { request with revoked := true }
              else request } } := by
  unfold leaseRevoked
  split
  · exact .inl rfl
  · next held lease =>
    split
    · exact .inl rfl
    · next same => exact .inr ⟨held, lease, Decidable.of_not_not same, rfl⟩

theorem outstanding_leaseRevoked (generation : Generation) :
    (turn.leaseRevoked generation).pipeline.outstanding = turn.pipeline.outstanding := by
  rcases turn.leaseRevoked_cases generation with same | ⟨held, -, -, revoked⟩
  · rw [same]
  · rw [revoked]
    simp only [Pipeline.outstanding, pipeline_endLease, List.map_map]
    apply List.map_congr_left
    intro request _
    simp only [Function.comp_apply]
    split <;> rfl

end PipelineTurn

end Sightline
