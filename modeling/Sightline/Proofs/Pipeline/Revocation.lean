import Sightline.Bench.Rig
import Sightline.Proofs.Pipeline.Lease

/-! Which requests are discarded when the host takes a lease back.

Those that the lease covered when they began, and whose work was not done yet. A notice is compared with
the lease that is held and with nothing else; that this is enough follows from `Pipeline.Covered`. -/

set_option autoImplicit false

namespace Sightline

namespace PipelineOperation

def about? : PipelineOperation → Option RequestId
  | .audioReady id _ _ | .sendFinished id _ => some id
  | .image _ | .leaseRevoked _ => none

def ready? : PipelineOperation → Option RequestId
  | .audioReady id _ _ => some id
  | .image _ | .sendFinished _ _ | .leaseRevoked _ => none

def revokes (generation : Generation) : PipelineOperation → Bool
  | .leaseRevoked revoked => revoked = generation
  | .image _ | .audioReady _ _ _ | .sendFinished _ _ => false

theorem revokes_iff {generation : Generation} {operation : PipelineOperation} :
    operation.revokes generation = true ↔ operation = .leaseRevoked generation := by
  cases operation <;> simp [revokes]

end PipelineOperation

/-- A request as an operation that is not about it leaves it. -/
def Request.marked (operation : PipelineOperation) (request : Request) : Request :=
  { request with revoked := request.revoked || operation.revokes request.lease }

theorem Request.marked_of_apart {operation : PipelineOperation} {request : Request}
    (other : operation.revokes request.lease = false) : request.marked operation = request := by
  simp [marked, other]

theorem Request.marked_of_revoked {request : Request} (mark : request.revoked = true)
    (operation : PipelineOperation) : request.marked operation = request := by
  obtain ⟨id, lease, revoked, audioLength⟩ := request
  obtain rfl : revoked = true := mark
  rfl

/-! ### What an operation makes of one request -/

namespace PipelineTurn

open PipelineEffect (startedIn)

variable {ω : Type} [BackgroundHost Generation ω] (turn : PipelineTurn ω)

def passed? : PipelineOperation → Option Bytes
  | .audioReady id result _ => (turn.audioReady id result).1
  | .image _ | .sendFinished _ _ | .leaseRevoked _ => none

def Unbegun (start turn : PipelineTurn ω) : Prop :=
  startedIn turn.effects = startedIn start.effects ∧
    turn.pipeline.issued = start.pipeline.issued ∧
    turn.pipeline.outstanding ⊆ start.pipeline.outstanding

theorem unbegun_finish (id : RequestId) : turn.Unbegun (turn.finish id) := by
  refine ⟨by simp, by simp, ?_⟩
  rw [outstanding_finish]
  exact List.filter_sublist.subset

theorem unbegun_failed (id : RequestId) (indication : Indication) :
    turn.Unbegun ((turn.finish id).indicate indication) := by
  obtain ⟨-, issued, outstanding⟩ := turn.unbegun_finish id
  exact ⟨by simp [indicate, PipelineEffect.started?], issued, outstanding⟩

theorem unbegun_audioReady (id : RequestId) (result : Except ServiceError Bytes)
    (answer : Except SendError Unit) : turn.Unbegun (turn.operate (.audioReady id result answer)) := by
  simp only [operate]
  rcases turn.audioReady_cases id result with
    ⟨-, done⟩ | done | ⟨reason, done⟩ | ⟨audio, done⟩ <;> rw [done]
  · exact ⟨rfl, rfl, List.Subset.refl _⟩
  · exact turn.unbegun_finish id
  · exact turn.unbegun_failed id (.failed reason)
  · have noted : turn.Unbegun (turn.noteLength id audio.length) :=
      ⟨rfl, rfl, by simp⟩
    rcases (turn.noteLength id audio.length).submitted_cases id answer with same | ⟨reason, left⟩
    · simpa [same] using noted
    · have failed := (turn.noteLength id audio.length).unbegun_failed id (.failed reason)
      simp only [left]
      exact ⟨failed.1.trans noted.1, failed.2.1.trans noted.2.1,
        fun _ member => noted.2.2 (failed.2.2 member)⟩

theorem unbegun_leaseRevoked (generation : Generation) :
    turn.Unbegun (turn.leaseRevoked generation) := by
  rcases turn.leaseRevoked_cases generation with same | ⟨held, -, -, revoked⟩
  · rw [same]
    exact ⟨rfl, rfl, List.Subset.refl _⟩
  · rw [revoked]
    refine ⟨by simp, by simp, ?_⟩
    rintro id member
    simp only [Pipeline.outstanding, List.map_map, pipeline_endLease, List.mem_map] at member ⊢
    obtain ⟨request, among, rfl⟩ := member
    refine ⟨request, among, ?_⟩
    simp only [Function.comp_apply]
    split <;> rfl

theorem begins_cases (operation : PipelineOperation) :
    turn.Unbegun (turn.operate operation) ∨ ∃ held,
      startedIn (turn.operate operation).effects
        = startedIn turn.effects ++ [turn.pipeline.issued + 1] ∧
      (turn.operate operation).pipeline.issued = turn.pipeline.issued + 1 ∧
      (turn.operate operation).pipeline.lease = some held ∧
      (turn.operate operation).pipeline.requests = turn.pipeline.requests
        ++ [{ id := turn.pipeline.issued + 1, lease := held.generation }] := by
  cases operation with
  | image image =>
    rcases turn.image_begins_next image with same | begun
    · left
      simp only [operate, same]
      exact ⟨rfl, rfl, List.Subset.refl _⟩
    · exact .inr begun
  | audioReady id result answer => exact .inl (turn.unbegun_audioReady id result answer)
  | sendFinished id result =>
    left
    rcases turn.sendFinished_cases id result with done | ⟨indication, done⟩ <;> simp only [operate, done]
    · exact turn.unbegun_finish id
    · exact turn.unbegun_failed id indication
  | leaseRevoked generation => exact .inl (turn.unbegun_leaseRevoked generation)

theorem leaseRevoked_stale {generation : Generation}
    (stale : ∀ held, turn.pipeline.lease = some held → held.generation ≠ generation) :
    turn.leaseRevoked generation = turn := by
  rcases turn.leaseRevoked_cases generation with same | ⟨held, lease, number, -⟩
  · exact same
  · exact absurd number (stale held lease)

theorem requests_leaseRevoked {held : HeldLease} (lease : turn.pipeline.lease = some held) :
    (turn.leaseRevoked held.generation).pipeline.requests
      = turn.pipeline.requests.map (·.marked (.leaseRevoked held.generation)) := by
  have kept : (turn.leaseRevoked held.generation).pipeline.requests
      = turn.pipeline.requests.map fun request =>
        if request.lease = held.generation then { request with revoked := true } else request := by
    simp [leaseRevoked, lease]
  rw [kept]
  refine List.map_congr_left fun request _ => ?_
  by_cases own : request.lease = held.generation
  · simp [Request.marked, PipelineOperation.revokes, own]
  · simp [Request.marked, PipelineOperation.revokes, own, Ne.symm own]

/-- A notice marks the requests of its lease. If it is about another lease than the one that is held, then
they all are marked already. -/
theorem request?_leaseRevoked (covered : turn.pipeline.Covered) (generation : Generation)
    (id : RequestId) : (turn.leaseRevoked generation).pipeline.request? id
      = (turn.pipeline.request? id).map (·.marked (.leaseRevoked generation)) := by
  by_cases current : ∃ held, turn.pipeline.lease = some held ∧ held.generation = generation
  · obtain ⟨held, lease, rfl⟩ := current
    rw [Pipeline.request?, turn.requests_leaseRevoked lease]
    exact find_map turn.pipeline.requests (·.marked _) (fun _ => rfl) id
  · have stale : ∀ held, turn.pipeline.lease = some held → held.generation ≠ generation :=
      fun held lease number => current ⟨held, lease, number⟩
    rw [turn.leaseRevoked_stale stale]
    cases found : turn.pipeline.request? id with
    | none => rfl
    | some request =>
      have member : request ∈ turn.pipeline.requests := List.mem_of_find?_eq_some found
      cases mark : request.revoked with
      | true => exact congrArg some (Request.marked_of_revoked mark _).symm
      | false =>
        -- A request that matters is covered by the lease that is held, and the notice is about another.
        obtain ⟨held, lease⟩ := Option.isSome_iff_exists.mp
          (covered.needed.mpr ⟨request, member, mark⟩)
        have other : generation ≠ request.lease := by
          rw [covered.current held lease request member mark]
          exact (stale held lease).symm
        have apart : (PipelineOperation.leaseRevoked generation).revokes request.lease = false :=
          decide_eq_false other
        exact congrArg some (Request.marked_of_apart apart).symm

theorem request?_apart (covered : turn.pipeline.Covered) {operation : PipelineOperation}
    {id : RequestId} (known : id ≤ turn.pipeline.issued) (apart : operation.about? ≠ some id) :
    (turn.operate operation).pipeline.request? id
      = (turn.pipeline.request? id).map (·.marked operation) := by
  have unmarked (quiet : ∀ generation, operation.revokes generation = false) :
      (turn.pipeline.request? id).map (·.marked operation) = turn.pipeline.request? id := by
    cases turn.pipeline.request? id with
    | none => rfl
    | some request => exact congrArg some (Request.marked_of_apart (quiet request.lease))
  -- An operation about another request leaves this one alone; a revocation may mark it.
  cases operation with
  | image image =>
    rw [unmarked fun _ => rfl]
    exact turn.request?_image image known
  | audioReady other result answer =>
    rw [unmarked fun _ => rfl]
    have different : other ≠ id := fun same => apart (congrArg some same)
    simp only [operate]
    rcases turn.audioReady_cases other result with
      ⟨-, done⟩ | done | ⟨reason, done⟩ | ⟨audio, done⟩ <;> simp only [done]
    · simp [request?_finish, different.symm]
    · simp [indicate, request?_finish, different.symm]
    · rcases (turn.noteLength other audio.length).submitted_cases other answer with
        same | ⟨reason, left⟩
      · rw [same, request?_noteLength_other _ different]
      · rw [left]
        simp [indicate, request?_finish, different.symm, request?_noteLength_other _ different]
  | sendFinished other result =>
    rw [unmarked fun _ => rfl]
    have different : other ≠ id := fun same => apart (congrArg some same)
    rcases turn.sendFinished_cases other result with done | ⟨indication, done⟩ <;>
      simp [operate, done, indicate, request?_finish, different.symm]
  | leaseRevoked generation => exact turn.request?_leaseRevoked covered generation id

theorem request?_about {operation : PipelineOperation} {id : RequestId}
    (about : operation.about? = some id) {later : Request}
    (kept : (turn.operate operation).pipeline.request? id = some later) :
    ∃ request, turn.pipeline.request? id = some request ∧ later.lease = request.lease := by
  cases operation with
  | image | leaseRevoked => cases about
  | sendFinished other result =>
    obtain rfl : other = id := Option.some.inj about
    rcases turn.sendFinished_cases other result with done | ⟨indication, done⟩ <;>
      simp [operate, done, indicate, request?_finish] at kept
  | audioReady other result answer =>
    obtain rfl : other = id := Option.some.inj about
    simp only [operate] at kept
    rcases turn.audioReady_cases other result with
      ⟨-, done⟩ | done | ⟨reason, done⟩ | ⟨audio, done⟩ <;> simp only [done] at kept
    · exact ⟨later, kept, rfl⟩
    · simp [request?_finish] at kept
    · simp [indicate, request?_finish] at kept
    · rcases (turn.noteLength other audio.length).submitted_cases other answer with
        same | ⟨reason, left⟩
      · rw [same, request?_noteLength] at kept
        obtain ⟨request, found, rfl⟩ := Option.map_eq_some_iff.mp kept
        exact ⟨request, found, by split <;> rfl⟩
      · simp [left, indicate, request?_finish] at kept

end PipelineTurn

/-! ### Runs -/

/-- One operation of a run: the pipeline that it met and the one that it left, the audio that it passed on
to be sent, and what it did. -/
structure PipelineStep where
  before : Pipeline
  operation : PipelineOperation
  passed? : Option Bytes
  after : Pipeline
  effects : Array PipelineEffect

namespace PipelineStep

def begun (step : PipelineStep) : List RequestId := PipelineEffect.startedIn step.effects

def passes (step : PipelineStep) (id : RequestId) : Bool :=
  step.operation.ready? = some id && step.passed?.isSome

/-- The audio of a request was passed on to be sent, and the submitter took it. -/
def Submits (step : PipelineStep) (id : RequestId) : Prop :=
  step.passed?.isSome = true ∧ ∃ result, step.operation = .audioReady id result (.ok ())

theorem Submits.ready {step : PipelineStep} {id : RequestId} (submits : step.Submits id) :
    step.operation.ready? = some id := by
  obtain ⟨-, result, operation⟩ := submits
  rw [operation]
  rfl

theorem Submits.passes {step : PipelineStep} {id : RequestId} (submits : step.Submits id) :
    step.passes id = true := by
  simp [PipelineStep.passes, submits.ready, submits.1]

end PipelineStep

/-- What may come after some steps: the work on a request ends once, and its sending ends only after its
audio was submitted. -/
def PipelineOperation.Due (past : List PipelineStep) : PipelineOperation → Prop
  | .audioReady id _ _ =>
    ∀ step ∈ past, step.operation.ready? = some id → step.before.issued < id
  | .sendFinished id _ => ∃ step ∈ past, step.Submits id
  | .image _ | .leaseRevoked _ => True

namespace Pipeline

variable {ω : Type} [BackgroundHost Generation ω]

def step (pipeline : Pipeline) (world : ω) (operation : PipelineOperation) : PipelineStep where
  before := pipeline
  operation
  passed? := PipelineTurn.passed? { pipeline, world } operation
  after := (PipelineTurn.operate { pipeline, world } operation).pipeline
  effects := (PipelineTurn.operate { pipeline, world } operation).effects

/-- A pipeline and the steps that led to it from a new one, the latest first. Notices of the host come in
any order and any number; the ends of works and of sendings come when they are due. -/
inductive History (ω : Type) [BackgroundHost Generation ω] : List PipelineStep → Pipeline → Prop where
  | new (policy : Concurrency) : History ω [] { policy }
  | operate {past : List PipelineStep} {pipeline : Pipeline} (operation : PipelineOperation)
      (world : ω) : History ω past pipeline → operation.Due past →
      History ω (pipeline.step world operation :: past) (pipeline.step world operation).after

namespace History

variable {past : List PipelineStep} {pipeline : Pipeline}

theorem covered (history : History ω past pipeline) : pipeline.Covered := by
  induction history with
  | new => exact ⟨by simp, by simp⟩
  | operate operation world _ _ ih => exact PipelineTurn.covered_operate ih operation

theorem numbered (history : History ω past pipeline) :
    ∀ id ∈ pipeline.outstanding, id ≤ pipeline.issued := by
  induction history with
  | new => simp [outstanding]
  | @operate past pipeline operation world _ _ ih =>
    intro id member
    simp only [step] at member ⊢
    rcases PipelineTurn.begins_cases { pipeline, world } operation with
      ⟨-, issued, fewer⟩ | ⟨held, -, issued, -, added⟩
    · rw [issued]
      exact ih id (fewer member)
    · rw [issued]
      rw [outstanding, added, List.map_append] at member
      rcases List.mem_append.mp member with before | new
      · exact Nat.le_succ_of_le (ih id before)
      · exact Nat.le_of_eq (List.mem_singleton.mp new)

theorem known_of_passes (history : History ω past pipeline) {id : RequestId} :
    ∀ step ∈ past, step.passes id = true → id ≤ step.before.issued := by
  induction history with
  | new => simp
  | @operate past pipeline operation world before _ ih =>
    refine List.forall_mem_cons.mpr ⟨fun passes => ?_, ih⟩
    simp only [PipelineStep.passes, step, Bool.and_eq_true] at passes ⊢
    obtain ⟨ready, passed⟩ := passes
    replace ready := of_decide_eq_true ready
    cases operation with
    | image | sendFinished | leaseRevoked => cases ready
    | audioReady other result answer =>
      obtain rfl : other = id := Option.some.inj ready
      obtain ⟨audio, passed⟩ := Option.isSome_iff_exists.mp passed
      obtain ⟨request, found, -⟩ := (PipelineTurn.audioReady_passes _ other result audio).mp passed
      have outstanding : other ∈ pipeline.outstanding := by
        rw [← pipeline.request?_isSome_iff]
        exact Option.isSome_iff_exists.mpr ⟨request, found⟩
      exact before.numbered other outstanding

theorem of_append {later : List PipelineStep} (history : History ω (later ++ past) pipeline) :
    ∃ earlier, History ω past earlier := by
  induction later generalizing pipeline with
  | nil => exact ⟨pipeline, history⟩
  | cons step later ih =>
    cases history with
    | operate operation world before due => exact ih before

theorem due {later : List PipelineStep} {step : PipelineStep}
    (history : History ω (later ++ step :: past) pipeline) : step.operation.Due past := by
  obtain ⟨earlier, history⟩ := history.of_append
  cases history with
  | operate operation world before due => exact due

section

variable {between earlier : List PipelineStep} {created : PipelineStep} {id : RequestId}

theorem began (history : History ω (created :: earlier) pipeline) (began : id ∈ created.begun) :
    created.before.issued < id ∧ id ≤ pipeline.issued ∧ ∃ held, created.after.lease = some held ∧
      pipeline.request? id = some { id, lease := held.generation } := by
  cases history with
  | @operate past pipeline operation world before due =>
    simp only [PipelineStep.begun, step] at began ⊢
    rcases PipelineTurn.begins_cases { pipeline, world } operation with
      ⟨started, -⟩ | ⟨held, started, issued, lease, added⟩
    · simp [started] at began
    · obtain rfl : id = pipeline.issued + 1 := by simpa [started] using began
      refine ⟨Nat.lt_succ_self _, Nat.le_of_eq issued.symm, held, lease, ?_⟩
      have absent : pipeline.requests.find? (·.id = pipeline.issued + 1) = none := by
        rw [List.find?_eq_none]
        intro request member same
        have known := before.numbered request.id (List.mem_map_of_mem member)
        rw [of_decide_eq_true same] at known
        exact Nat.not_succ_le_self _ known
      rw [request?, added, List.find?_append, absent]
      simp

theorem known_since (history : History ω (between ++ created :: earlier) pipeline)
    (began : id ∈ created.begun) :
    id ≤ pipeline.issued ∧ ∀ step ∈ between, id ≤ step.before.issued := by
  induction between generalizing pipeline with
  | nil => exact ⟨(history.began began).2.1, by simp⟩
  | cons step between ih =>
    cases history with
    | @operate past pipeline operation world before due =>
      obtain ⟨known, since⟩ := ih before
      refine ⟨?_, List.forall_mem_cons.mpr ⟨known, since⟩⟩
      simp only [Pipeline.step]
      rcases PipelineTurn.begins_cases { pipeline, world } operation with
        ⟨-, issued, -⟩ | ⟨held, -, issued, -⟩
      · exact Nat.le_trans known (Nat.le_of_eq issued.symm)
      · rw [issued]
        exact Nat.le_succ_of_le known

theorem request?_since (history : History ω (between ++ created :: earlier) pipeline)
    (began : id ∈ created.begun) {held : HeldLease} (lease : created.after.lease = some held)
    (unended : ∀ step ∈ between, step.operation.about? ≠ some id) :
    pipeline.request? id = some { id, lease := held.generation
                                  revoked := between.any (·.operation.revokes held.generation) } := by
  -- By induction on the steps since: each adds its own revocation to the mark.
  induction between generalizing pipeline with
  | nil =>
    obtain ⟨-, -, current, lease', found⟩ := history.began began
    obtain rfl : held = current := Option.some.inj (lease.symm.trans lease')
    exact found
  | cons step between ih =>
    cases history with
    | @operate past pipeline operation world before due =>
      obtain ⟨apart, unended⟩ := List.forall_mem_cons.mp unended
      replace apart : operation.about? ≠ some id := apart
      have found := ih before unended
      have known := (before.known_since began).1
      have kept := PipelineTurn.request?_apart { pipeline, world } before.covered known apart
      simp only [Pipeline.step]
      rw [kept, found]
      simp [Request.marked, Bool.or_comm]

theorem lease_since (history : History ω (between ++ created :: earlier) pipeline)
    (began : id ∈ created.begun) {held : HeldLease} (lease : created.after.lease = some held)
    {request : Request} (found : pipeline.request? id = some request) :
    request.lease = held.generation := by
  induction between generalizing pipeline request with
  | nil =>
    obtain ⟨-, -, current, lease', found'⟩ := history.began began
    obtain rfl : held = current := Option.some.inj (lease.symm.trans lease')
    obtain rfl := Option.some.inj (found.symm.trans found')
    rfl
  | cons step between ih =>
    cases history with
    | @operate past pipeline operation world before due =>
      by_cases about : operation.about? = some id
      -- Its own events may note a length or end it, but never move it to another lease.
      · obtain ⟨earlier, found', same⟩ := PipelineTurn.request?_about _ about found
        exact same.trans (ih before found')
      · have known := (before.known_since began).1
        have kept := PipelineTurn.request?_apart { pipeline, world } before.covered known about
        obtain ⟨earlier, found', rfl⟩ := Option.map_eq_some_iff.mp (kept.symm.trans found)
        have same := ih before found'
        exact same

theorem first_ready {later : List PipelineStep} {ready : PipelineStep}
    (history : History ω (later ++ ready :: past) pipeline) (ends : ready.operation.ready? = some id) :
    ∀ step ∈ past, step.operation.ready? = some id → step.before.issued < id := by
  have due := history.due
  generalize ready.operation = operation at ends due
  cases operation with
  | image | sendFinished | leaseRevoked => cases ends
  | audioReady other => exact Option.some.inj ends ▸ due

/-- The audio of a request is passed on when the work on it ends, or never. -/
theorem passes_once {later : List PipelineStep} {ready : PipelineStep}
    (history : History ω (later ++ ready :: past) pipeline) (ends : ready.operation.ready? = some id)
    (known : id ≤ ready.before.issued) :
    (later ++ ready :: past).filter (·.passes id) = if ready.passed?.isSome then [ready] else [] := by
  have before : past.filter (·.passes id) = [] := by
    refine List.filter_eq_nil_iff.mpr fun step member passes => ?_
    have early := history.first_ready ends step member
      (of_decide_eq_true ((Bool.and_eq_true _ _).mp passes).1)
    have among : step ∈ later ++ ready :: past := by simp [member]
    exact Nat.not_lt_of_le (history.known_of_passes step among passes) early
  have after : later.filter (·.passes id) = [] := by
    refine List.filter_eq_nil_iff.mpr fun step member passes => ?_
    obtain ⟨since, until_then, rfl⟩ := List.append_of_mem member
    rw [List.append_assoc, List.cons_append] at history
    have early := history.first_ready (of_decide_eq_true ((Bool.and_eq_true _ _).mp passes).1)
      ready (by simp) ends
    exact Nat.not_lt_of_le known early
  rw [List.filter_append, List.filter_cons, before, after, List.nil_append]
  simp [PipelineStep.passes, ends]

theorem unended_until {later : List PipelineStep} {ready : PipelineStep}
    (history : History ω (later ++ ready :: (between ++ created :: earlier)) pipeline)
    (began : id ∈ created.begun) (ends : ready.operation.ready? = some id) :
    ∀ step ∈ between, step.operation.about? ≠ some id := by
  have first := history.first_ready ends
  obtain ⟨met, history⟩ := history.of_append
  cases history with
  | operate operation world before _ =>
    intro step member about
    cases ended : step.operation with
    | image | leaseRevoked => simp [ended, PipelineOperation.about?] at about
    | audioReady other result answer =>
      obtain rfl : other = id := by simpa [ended, PipelineOperation.about?] using about
      have early := first step (List.mem_append_left _ member) (by rw [ended]; rfl)
      exact Nat.not_lt_of_le ((before.known_since began).2 step member) early
    | sendFinished other result =>
      -- The sending ended, so the audio was submitted, so the work had ended before.
      obtain rfl : other = id := by simpa [ended, PipelineOperation.about?] using about
      obtain ⟨since, until_then, split⟩ := List.append_of_mem member
      rw [split, List.append_assoc, List.cons_append] at before
      have due := before.due
      rw [ended] at due
      obtain ⟨submission, among, submits⟩ := due
      have here : submission ∈ between ++ created :: earlier := by
        rw [split, List.append_assoc, List.cons_append]
        exact List.mem_append_right _ (List.mem_cons_of_mem _ among)
      rw [← List.cons_append, ← List.append_assoc, ← split] at before
      have known := before.known_of_passes submission here submits.passes
      exact Nat.not_lt_of_le known (first submission here submits.ready)

theorem passed_iff {later : List PipelineStep} {ready : PipelineStep}
    (history : History ω (later ++ ready :: (between ++ created :: earlier)) pipeline)
    (began : id ∈ created.begun) {held : HeldLease} (lease : created.after.lease = some held)
    {result : Except ServiceError Bytes} {answer : Except SendError Unit}
    (ends : ready.operation = .audioReady id result answer) (audio : Bytes) :
    ready.passed? = some audio ↔ result = .ok audio ∧
      ∀ step ∈ between, step.operation ≠ .leaseRevoked held.generation := by
  have unended := history.unended_until began (by rw [ends]; rfl)
  obtain ⟨met, history⟩ := history.of_append
  cases history with
  | @operate _ pipeline operation world before _ =>
    obtain rfl : operation = _ := ends
    have found := before.request?_since began lease unended
    have passes := PipelineTurn.audioReady_passes { pipeline, world } id result audio
    refine passes.trans ?_
    simp only [found, Option.some.injEq, exists_eq_left', List.any_eq_false,
      PipelineOperation.revokes_iff]
    exact and_comm

end

end History

/-- The audio of a request is passed on to be sent exactly if the work on it gave audio and no notice of
the lease under which it began came before the work ended; and then it is passed on that once, and never
otherwise. A notice of any other lease, in whatever order they come, does nothing to the request, and
nothing at all while the lease of the request is held. -/
theorem revocation_exact {past later earlier : List PipelineStep} {created : PipelineStep}
    {pipeline : Pipeline} {id : RequestId} (history : History ω past pipeline)
    (split : past = later ++ created :: earlier) (began : id ∈ created.begun) :
    ∃ held, created.after.lease = some held ∧
      (∀ after ready between result answer, later = after ++ ready :: between →
        ready.operation = .audioReady id result answer →
        (∀ audio, ready.passed? = some audio ↔ result = .ok audio ∧
          ∀ step ∈ between, step.operation ≠ .leaseRevoked held.generation) ∧
        past.filter (·.passes id) = if ready.passed?.isSome then [ready] else []) ∧
      (∀ generation (world : ω), generation ≠ held.generation →
        let turn := PipelineTurn.leaseRevoked { pipeline, world } generation
        turn.pipeline.request? id = pipeline.request? id ∧
        (∀ current, pipeline.lease = some current → current.generation = held.generation →
          turn = { pipeline, world })) := by
  subst split
  obtain ⟨met, earliest⟩ := history.of_append
  obtain ⟨-, -, held, lease, -⟩ := earliest.began began
  refine ⟨held, lease, ?_, ?_⟩
  · rintro after ready between result answer rfl ends
    rw [List.append_assoc, List.cons_append] at history ⊢
    refine ⟨history.passed_iff began lease ends, history.passes_once (by rw [ends]; rfl) ?_⟩
    obtain ⟨met, history⟩ := history.of_append
    rw [← List.cons_append] at history
    exact (history.known_since began).2 ready List.mem_cons_self
  -- A revocation of another generation finds no mark to make and no lease to end.
  · intro generation world other turn
    constructor
    · have marked := PipelineTurn.request?_leaseRevoked { pipeline, world } history.covered
        generation id
      refine marked.trans ?_
      cases found : pipeline.request? id with
      | none => rfl
      | some request =>
        have apart : (PipelineOperation.leaseRevoked generation).revokes request.lease = false := by
          rw [history.lease_since began lease found]
          exact decide_eq_false other
        exact congrArg some (Request.marked_of_apart apart)
    · intro current same number
      refine PipelineTurn.leaseRevoked_stale _ fun held' lease' => ?_
      obtain rfl : held' = current := Option.some.inj (lease'.symm.trans same)
      rw [number]
      exact other.symm

/-- A lease is taken back while its request is worked on, and the next request takes a fresh one, which a
late notice of the first lease does not touch. The audio of the first request is dropped. -/
theorem revocation_exact_fresh :
    let rig : Bench.Rig := {}
    let first := ({ policy := .concurrent } : Pipeline).step rig (.image [1])
    let notice := first.after.step rig (.leaseRevoked 1)
    let second := notice.after.step rig (.image [2])
    let late := second.after.step rig (.leaseRevoked 1)
    let dropped := late.after.step rig (.audioReady 1 (.ok [8]) (.ok ()))
    let sent := dropped.after.step rig (.audioReady 2 (.ok [9]) (.ok ()))
    Pipeline.History Bench.Rig [sent, dropped, late, second, notice, first] sent.after ∧
      dropped.passed? = none ∧ sent.passed? = some [9] := by
  intro rig first notice second late dropped sent
  have started : Pipeline.History Bench.Rig [second, notice, first] second.after :=
    (((Pipeline.History.new .concurrent).operate (.image [1]) rig trivial).operate (.leaseRevoked 1)
      rig trivial).operate (.image [2]) rig trivial
  have unready : ∀ step ∈ [late, second, notice, first], step.operation.ready? = none := by
    decide +kernel
  have history : Pipeline.History Bench.Rig [sent, dropped, late, second, notice, first]
      sent.after := by
    refine ((started.operate (.leaseRevoked 1) rig trivial).operate
      (.audioReady 1 (.ok [8]) (.ok ())) rig ?_).operate (.audioReady 2 (.ok [9]) (.ok ())) rig ?_
    · intro step member ready
      rw [unready step member] at ready
      cases ready
    · refine List.forall_mem_cons.mpr ⟨(nomatch ·), fun step member ready => ?_⟩
      rw [unready step member] at ready
      cases ready
  refine ⟨history, ?_, ?_⟩
  · have split : [sent, dropped, late, second, notice, first]
        = [sent, dropped, late, second, notice] ++ first :: [] := rfl
    have began : 1 ∈ first.begun := by decide +kernel
    obtain ⟨held, lease, fate, -⟩ := revocation_exact history split began
    have number : held.generation = 1 := by
      obtain rfl : held = ⟨1, 1⟩ := Option.some.inj (lease.symm.trans (by decide +kernel))
      rfl
    refine Option.eq_none_iff_forall_ne_some.mpr fun audio passed => ?_
    have unrevoked := ((fate [sent] dropped [late, second, notice] _ _ rfl rfl).1 audio).mp passed
    exact unrevoked.2 notice (by simp) (by rw [number]; rfl)
  · have split : [sent, dropped, late, second, notice, first]
        = [sent, dropped, late] ++ second :: [notice, first] := rfl
    have began : 2 ∈ second.begun := by decide +kernel
    obtain ⟨held, lease, fate, -⟩ := revocation_exact history split began
    have number : held.generation = 2 := by
      obtain rfl : held = ⟨2, 1⟩ := Option.some.inj (lease.symm.trans (by decide +kernel))
      rfl
    refine ((fate [] sent [dropped, late] _ _ rfl rfl).1 [9]).mpr ⟨rfl, ?_⟩
    rw [number]
    refine List.forall_mem_cons.mpr ⟨by rintro ⟨⟩, List.forall_mem_cons.mpr ⟨?_, by simp⟩⟩
    intro same
    cases PipelineOperation.leaseRevoked.inj same

end Pipeline

end Sightline
