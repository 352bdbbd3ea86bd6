import Sightline.Bench.Rig
import Sightline.Lease.Guard
import Sightline.Proofs.Pipeline.Run

/-! The lease that the requests share.

`Covered` ties the lease to the requests: it is held exactly while one of them matters, and it is theirs.
`LeaseMove` is all that one operation can do to it. From the two it follows that every lease that was
begun is ended once, when the last request that it covers stops mattering. -/

set_option autoImplicit false

namespace Sightline

/-- A lease is held exactly while some outstanding request is not revoked, and all such requests are
covered by it. -/
structure Pipeline.Covered (pipeline : Pipeline) : Prop where
  needed : pipeline.lease.isSome = true ↔ ∃ request ∈ pipeline.requests, request.revoked = false
  current : ∀ held, pipeline.lease = some held →
    ∀ request ∈ pipeline.requests, request.revoked = false → request.lease = held.generation

namespace PipelineEffect

def begun? : PipelineEffect → Option Token
  | .leaseBegun token => some token
  | _ => none

def ended? : PipelineEffect → Option Token
  | .leaseEnded token => some token
  | _ => none

def begunIn (effects : List PipelineEffect) : List Token := effects.filterMap begun?

def endedIn (effects : List PipelineEffect) : List Token := effects.filterMap ended?

@[simp] theorem begunIn_nil : begunIn [] = [] := rfl

@[simp] theorem endedIn_nil : endedIn [] = [] := rfl

@[simp] theorem begunIn_cons (effect : PipelineEffect) (effects : List PipelineEffect) :
    begunIn (effect :: effects) = effect.begun?.toList ++ begunIn effects := by
  cases same : effect.begun? <;> simp [begunIn, same]

@[simp] theorem endedIn_cons (effect : PipelineEffect) (effects : List PipelineEffect) :
    endedIn (effect :: effects) = effect.ended?.toList ++ endedIn effects := by
  cases same : effect.ended? <;> simp [endedIn, same]

@[simp] theorem begunIn_append (effects more : List PipelineEffect) :
    begunIn (effects ++ more) = begunIn effects ++ begunIn more :=
  List.filterMap_append

@[simp] theorem endedIn_append (effects more : List PipelineEffect) :
    endedIn (effects ++ more) = endedIn effects ++ endedIn more :=
  List.filterMap_append

end PipelineEffect

open PipelineEffect (begunIn endedIn begunIn_append endedIn_append)

variable {ω : Type} [BackgroundHost Generation ω]

/-- What one operation can do to the lease: nothing; or it begins one where none was held; or it ends the
one that was held. The host hears of nothing else. The last two lists are the tokens begun and ended. -/
inductive LeaseMove : Option HeldLease → ω → Option HeldLease → ω → List Token → List Token → Prop
    where
  | kept (lease : Option HeldLease) (world : ω) : LeaseMove lease world lease world [] []
  | begun {world world' : ω} {generation : Generation} {token : Token} :
      BackgroundHost.beginLease world Pipeline.leaseName generation = (token, world') →
      LeaseMove none world (some ⟨generation, token⟩) world' [token] []
  | ended (held : HeldLease) (world : ω) :
      LeaseMove (some held) world none (BackgroundHost.endLease world held.token) [] [held.token]

theorem LeaseMove.balanced {before after : Option HeldLease} {world world' : ω}
    {begun ended : List Token} (move : LeaseMove before world after world' begun ended) :
    (before.map HeldLease.token).toList ++ begun
      = ended ++ (after.map HeldLease.token).toList := by
  cases move with
  | kept => simp
  | begun => simp
  | ended => simp

namespace PipelineTurn

def Moves (start turn : PipelineTurn ω) : Prop :=
  ∃ begun ended,
    LeaseMove start.pipeline.lease start.world turn.pipeline.lease turn.world begun ended ∧
    begunIn turn.effects.toList = begunIn start.effects.toList ++ begun ∧
    endedIn turn.effects.toList = endedIn start.effects.toList ++ ended

variable (turn : PipelineTurn ω)

theorem moves_refl : turn.Moves turn := ⟨[], [], .kept _ _, by simp⟩

theorem moves_endLease : turn.Moves turn.endLease := by
  obtain ⟨⟨policy, issued, requests, generations, lease⟩, world, effects⟩ := turn
  cases lease with
  | none => exact moves_refl _
  | some held =>
    refine ⟨[], [held.token], .ended held world, ?_, ?_⟩
    · simp [endLease, PipelineEffect.begun?]
    · simp [endLease, PipelineEffect.ended?]

variable {turn} {start : PipelineTurn ω}

theorem Moves.silent (moves : start.Moves turn) (pipeline : Pipeline) (effects : List PipelineEffect)
    (same : pipeline.lease = turn.pipeline.lease) (unbegun : begunIn effects = [])
    (unended : endedIn effects = []) :
    start.Moves { pipeline, world := turn.world, effects := turn.effects ++ effects } := by
  obtain ⟨begun, ended, move, begins, ends⟩ := moves
  refine ⟨begun, ended, ?_, ?_, ?_⟩
  · rw [same]
    exact move
  · simp [begins, unbegun]
  · simp [ends, unended]

theorem Moves.indicate (moves : start.Moves turn) (indication : Indication) :
    start.Moves (turn.indicate indication) := by
  have told := moves.silent turn.pipeline [.indicated indication] rfl rfl rfl
  simpa [PipelineTurn.indicate] using told

variable (turn)

theorem moves_finish (id : RequestId) : turn.Moves (turn.finish id) := by
  unfold finish
  simp only
  split
  · exact moves_endLease { turn with
      pipeline := { turn.pipeline with requests := turn.pipeline.requests.filter (·.id ≠ id) } }
  · exact moves_refl turn

theorem moves_image (image : Bytes) : turn.Moves (turn.image image) := by
  rcases turn.image_cases image with same | ⟨generation, next, ensured, added⟩
  · rw [same]
    exact moves_refl turn
  · -- The lease is held already, or it is begun; then the request is added to those it covers.
    have covered : turn.Moves next := by
      rcases (turn.indicate (.imageReceived image.length)).ensureLease_cases with
        ⟨held, lease, answer⟩ | ⟨lease, number, token, world, begins, answer⟩
      · rw [answer] at ensured
        cases ensured
        exact (moves_refl turn).indicate _
      · rw [answer] at ensured
        cases ensured
        refine ⟨[token], [], ?_, ?_, ?_⟩
        · rw [show turn.pipeline.lease = none from lease]
          exact .begun begins
        · simp [PipelineTurn.indicate, PipelineEffect.begun?]
        · simp [PipelineTurn.indicate, PipelineEffect.ended?]
    rw [added]
    have last := covered.silent
      { next.pipeline with
        issued := turn.pipeline.issued + 1
        requests := next.pipeline.requests
          ++ [{ id := turn.pipeline.issued + 1, lease := generation }] }
      [.started (turn.pipeline.issued + 1) image] rfl rfl rfl
    simpa using last

theorem moves_submitted (id : RequestId) (answer : Except SendError Unit) :
    turn.Moves (turn.submitted id answer) := by
  rcases turn.submitted_cases id answer with same | ⟨reason, left⟩
  · rw [same]
    exact moves_refl turn
  · rw [left]
    exact (turn.moves_finish id).indicate (.failed reason)

theorem moves_audioReady (id : RequestId) (result : Except ServiceError Bytes)
    (answer : Except SendError Unit) : turn.Moves (turn.operate (.audioReady id result answer)) := by
  simp only [operate]
  rcases turn.audioReady_cases id result with
    ⟨-, done⟩ | done | ⟨reason, done⟩ | ⟨audio, done⟩ <;> rw [done]
  · exact moves_refl turn
  · exact turn.moves_finish id
  · exact (turn.moves_finish id).indicate (.failed reason)
  · -- Noting the length of the audio does not touch the lease.
    exact (turn.noteLength id audio.length).moves_submitted id answer

theorem moves_sendFinished (id : RequestId) (result : SendResult) :
    turn.Moves (turn.sendFinished id result) := by
  rcases turn.sendFinished_cases id result with done | ⟨indication, done⟩ <;> rw [done]
  · exact turn.moves_finish id
  · exact (turn.moves_finish id).indicate indication

theorem moves_leaseRevoked (generation : Generation) :
    turn.Moves (turn.leaseRevoked generation) := by
  rcases turn.leaseRevoked_cases generation with same | ⟨held, -, -, revoked⟩
  · rw [same]
    exact moves_refl turn
  · have last := turn.moves_endLease.silent
      { turn.endLease.pipeline with
        requests := turn.endLease.pipeline.requests.map fun request =>
          if request.lease = generation then { request with revoked := true } else request }
      [] rfl rfl rfl
    rw [revoked]
    simpa using last

theorem moves_operate (operation : PipelineOperation) : turn.Moves (turn.operate operation) := by
  cases operation with
  | image image => exact turn.moves_image image
  | audioReady id result answer => exact turn.moves_audioReady id result answer
  | sendFinished id result => exact turn.moves_sendFinished id result
  | leaseRevoked generation => exact turn.moves_leaseRevoked generation

/-! ### The requests and their lease -/

variable {turn} (covered : turn.pipeline.Covered)

include covered

theorem covered_finish (id : RequestId) : (turn.finish id).pipeline.Covered := by
  unfold finish
  simp only
  split
  · next all =>
    -- No request matters any more, and the lease is gone.
    simp only [List.all_eq_true] at all
    rw [pipeline_endLease]
    refine ⟨?_, by simp⟩
    simp only [Option.isSome_none, Bool.false_eq_true, false_iff, not_exists, not_and]
    intro request member unrevoked
    rw [all request member] at unrevoked
    cases unrevoked
  · next some_left =>
    rw [Bool.not_eq_true, List.all_eq_false] at some_left
    obtain ⟨request, member, unrevoked⟩ := some_left
    rw [Bool.not_eq_true] at unrevoked
    constructor
    · refine ⟨fun _ => ⟨request, member, unrevoked⟩, fun _ => ?_⟩
      exact covered.needed.mpr ⟨request, (List.mem_filter.mp member).1, unrevoked⟩
    · intro held lease other among
      exact covered.current held lease other (List.mem_filter.mp among).1

omit [BackgroundHost Generation ω] in
theorem covered_noteLength (id : RequestId) (length : Nat) :
    (turn.noteLength id length).pipeline.Covered := by
  -- A request has the same lease and the same mark afterwards.
  have same : ∀ request : Request,
      (if request.id = id then { request with audioLength := length } else request).revoked
        = request.revoked ∧
      (if request.id = id then { request with audioLength := length } else request).lease
        = request.lease := by
    intro request
    by_cases own : request.id = id <;> simp [own]
  constructor
  · refine covered.needed.trans ⟨?_, ?_⟩
    · rintro ⟨request, member, unrevoked⟩
      exact ⟨_, List.mem_map_of_mem member, (same request).1.trans unrevoked⟩
    · rintro ⟨_, member, unrevoked⟩
      obtain ⟨request, among, rfl⟩ := List.mem_map.mp member
      exact ⟨request, among, (same request).1.symm.trans unrevoked⟩
  · intro held lease _ member unrevoked
    obtain ⟨request, among, rfl⟩ := List.mem_map.mp member
    rw [(same request).2]
    exact covered.current held lease request among ((same request).1.symm.trans unrevoked)

theorem covered_image (image : Bytes) : (turn.image image).pipeline.Covered := by
  rcases turn.image_cases image with same | ⟨generation, next, ensured, added⟩
  · rw [same]
    exact covered
  · rw [added]
    rcases (turn.indicate (.imageReceived image.length)).ensureLease_cases with
      ⟨held, lease, answer⟩ | ⟨lease, number, token, world, -, answer⟩
    · rw [answer] at ensured
      cases ensured
      replace lease : turn.pipeline.lease = some held := lease
      constructor
      · simp [PipelineTurn.indicate, lease]
      · intro other same request member unrevoked
        obtain rfl : held = other := Option.some.inj (lease.symm.trans same)
        rcases List.mem_append.mp member with before | new
        · exact covered.current held lease request before unrevoked
        · rw [List.mem_singleton.mp new]
    · rw [answer] at ensured
      cases ensured
      replace lease : turn.pipeline.lease = none := lease
      constructor
      · simp
      · -- No lease was held, so all that was outstanding is revoked.
        intro other same request member unrevoked
        rcases List.mem_append.mp member with before | new
        · have held := covered.needed.mpr ⟨request, before, unrevoked⟩
          simp [lease] at held
        · cases same
          rw [List.mem_singleton.mp new]

theorem covered_leaseRevoked (generation : Generation) :
    (turn.leaseRevoked generation).pipeline.Covered := by
  rcases turn.leaseRevoked_cases generation with same | ⟨held, lease, number, revoked⟩
  · rw [same]
    exact covered
  · rw [revoked]
    refine ⟨?_, by simp⟩
    simp only [pipeline_endLease, Option.isSome_none, Bool.false_eq_true, List.mem_map,
      false_iff, not_exists, not_and]
    -- A request that was not revoked was covered by this lease, so it is revoked now.
    rintro _ ⟨request, member, rfl⟩
    by_cases own : request.lease = generation
    · simp [own]
    · rw [if_neg own]
      intro unrevoked
      exact own ((covered.current held lease request member unrevoked).trans number)

theorem covered_submitted (id : RequestId) (answer : Except SendError Unit) :
    (turn.submitted id answer).pipeline.Covered := by
  rcases turn.submitted_cases id answer with same | ⟨reason, left⟩
  · rw [same]
    exact covered
  · rw [left]
    exact covered_finish covered id

theorem covered_audioReady (id : RequestId) (result : Except ServiceError Bytes)
    (answer : Except SendError Unit) :
    (turn.operate (.audioReady id result answer)).pipeline.Covered := by
  simp only [operate]
  rcases turn.audioReady_cases id result with
    ⟨-, done⟩ | done | ⟨reason, done⟩ | ⟨audio, done⟩ <;> rw [done]
  · exact covered
  · exact covered_finish covered id
  · exact covered_finish covered id
  · exact covered_submitted (covered_noteLength covered id audio.length) id answer

theorem covered_sendFinished (id : RequestId) (result : SendResult) :
    (turn.sendFinished id result).pipeline.Covered := by
  rcases turn.sendFinished_cases id result with done | ⟨indication, done⟩ <;> rw [done]
  · exact covered_finish covered id
  · exact covered_finish covered id

theorem covered_operate (operation : PipelineOperation) :
    (turn.operate operation).pipeline.Covered := by
  cases operation with
  | image image => exact covered_image covered image
  | audioReady id result answer => exact covered_audioReady covered id result answer
  | sendFinished id result => exact covered_sendFinished covered id result
  | leaseRevoked generation => exact covered_leaseRevoked covered generation

end PipelineTurn

namespace Pipeline

variable {pipeline : Pipeline} {effects : List PipelineEffect}

theorem Run.covered (run : pipeline.Run ω effects) : pipeline.Covered := by
  induction run with
  | new => exact ⟨by simp, by simp⟩
  | operate operation world _ ih => exact PipelineTurn.covered_operate ih operation

theorem Run.begun_eq (run : pipeline.Run ω effects) :
    begunIn effects = endedIn effects ++ (pipeline.lease.map HeldLease.token).toList := by
  induction run with
  | new => rfl
  | @operate pipeline effects operation world _ ih =>
    obtain ⟨begun, ended, move, begins, ends⟩ :=
      PipelineTurn.moves_operate { pipeline, world } operation
    have balanced := move.balanced
    simp only [begunIn_append, endedIn_append, begins, ends, ih, List.append_assoc]
    simpa [begunIn, endedIn] using balanced

/-- The lease in the hands of a pipeline. It is given back when the pipeline goes away. -/
def guard (pipeline : Pipeline) : Guard := ⟨pipeline.lease.map HeldLease.token⟩

/-- The lease is held exactly while some outstanding request is not revoked, and it covers all of these.
Every token that the host handed out was given back once, but for the one that is held; one operation
begins a lease where none was held, or ends the one that was, or has nothing to do with the host; and
when the pipeline goes away the token that is held is given back, once. -/
theorem lease_shared (run : pipeline.Run ω effects) :
    (pipeline.lease.isSome = true ↔ ∃ request ∈ pipeline.requests, request.revoked = false) ∧
    (∀ held, pipeline.lease = some held → ∀ request ∈ pipeline.requests,
      request.revoked = false → request.lease = held.generation) ∧
    begunIn effects = endedIn effects ++ (pipeline.lease.map HeldLease.token).toList ∧
    (∀ operation (world : ω),
      let turn := PipelineTurn.operate { pipeline, world } operation
      LeaseMove pipeline.lease world turn.pipeline.lease turn.world
        (begunIn turn.effects.toList) (endedIn turn.effects.toList)) ∧
    (∀ world world' : ω,
      begunIn effects = endedIn effects ++ (pipeline.guard.release world).1.toList ∧
      ((pipeline.guard.release world).2.1.release world').1 = none) := by
  have balanced := run.begun_eq
  refine ⟨run.covered.needed, run.covered.current, balanced, ?_, ?_⟩
  · intro operation world turn
    obtain ⟨begun, ended, move, begins, ends⟩ :=
      PipelineTurn.moves_operate { pipeline, world } operation
    simp only [begunIn, endedIn, List.filterMap_nil, List.nil_append] at begins ends
    rw [← begins, ← ends] at move
    exact move
  -- What is begun and not ended is the one lease held, and the guard gives it back once.
  · intro world world'
    rw [balanced]
    cases lease : pipeline.lease with
    | none => simp [guard, Guard.release, lease]
    | some held => simp [guard, Guard.release, lease]

/-- The first lease was taken back while its request went on, and a second one covers the next image. -/
theorem lease_shared_regained : ∃ pipeline effects, Pipeline.Run Bench.Rig pipeline effects ∧
    pipeline.requests.map (·.revoked) = [true, false] ∧
    begunIn effects = [1, 2] ∧ endedIn effects = [1] ∧ pipeline.lease.isSome = true := by
  have run : ∃ pipeline effects, Pipeline.Run Bench.Rig pipeline effects ∧
      pipeline.requests.map (·.revoked) = [true, false] ∧
      begunIn effects = [1, 2] ∧ endedIn effects = [1] := by
    refine ⟨_, _, Pipeline.Run.new .concurrent
      |>.operate (.image [1]) {}
      |>.operate (.leaseRevoked 1) {}
      |>.operate (.image [2]) { host := .manual 1 [] }, ?_⟩
    decide +kernel
  obtain ⟨pipeline, effects, run, marks, begun, ended⟩ := run
  refine ⟨pipeline, effects, run, marks, begun, ended, (lease_shared run).1.mpr ?_⟩
  have unrevoked : false ∈ pipeline.requests.map (·.revoked) := by simp [marks]
  obtain ⟨request, member, mark⟩ := List.mem_map.mp unrevoked
  exact ⟨request, member, mark⟩

end Pipeline

end Sightline
