import Sightline.Proofs.Engine.Sent

/-! One image at a time.

Where images are dropped while a request is being worked on, at most one request is outstanding
(`Exclusive`), so that the way out is free whenever audio is ready to be sent. Which requests are
outstanding can be read off a run: those that began and were not settled since (`outstanding_iff`). -/

set_option autoImplicit false

namespace Sightline

open EngineEffect (startedIn)

/-! ### What a pipeline does under its policy -/

namespace PipelineTurn

open PipelineEffect (startedIn)

variable {ω : Type} [BackgroundHost Generation ω] (turn : PipelineTurn ω)

@[simp] theorem policy_finish (id : RequestId) :
    (turn.finish id).pipeline.policy = turn.pipeline.policy := by
  unfold finish
  simp only
  split
  · rw [pipeline_endLease]
  · rfl

theorem policy_ensureLease : turn.ensureLease.2.pipeline.policy = turn.pipeline.policy := by
  rcases turn.ensureLease_cases with ⟨held, -, answer⟩ | ⟨-, generation, token, world, -, answer⟩ <;>
    rw [answer]

theorem policy_image (image : Bytes) :
    (turn.image image).pipeline.policy = turn.pipeline.policy := by
  rcases turn.image_cases image with same | ⟨generation, next, ensured, added⟩
  · rw [same]
  · have kept := (turn.indicate (.imageReceived image.length)).policy_ensureLease
    rw [ensured] at kept
    rw [added]
    exact kept

theorem policy_leaseRevoked (generation : Generation) :
    (turn.leaseRevoked generation).pipeline.policy = turn.pipeline.policy := by
  rcases turn.leaseRevoked_cases generation with same | ⟨held, -, -, revoked⟩
  · rw [same]
  · rw [revoked]
    simp

theorem policy_submitted (id : RequestId) (answer : Except SendError Unit) :
    (turn.submitted id answer).pipeline.policy = turn.pipeline.policy := by
  rcases turn.submitted_cases id answer with same | ⟨reason, failed⟩
  · rw [same]
  · rw [failed]
    simp [indicate]

theorem policy_sendFinished (id : RequestId) (result : SendResult) :
    (turn.sendFinished id result).pipeline.policy = turn.pipeline.policy := by
  rcases turn.sendFinished_cases id result with done | ⟨indication, done⟩ <;>
    simp [done, indicate]

theorem image_dropped (image : Bytes) (policy : turn.pipeline.policy = .dropWhileBusy)
    (busy : turn.pipeline.requests ≠ []) : turn.image image = turn := by
  unfold PipelineTurn.image
  split
  · rfl
  · rw [if_pos ⟨policy, busy⟩]

theorem image_taken {image : Bytes} (full : image ≠ []) (idle : turn.pipeline.requests = []) :
    .started (turn.pipeline.issued + 1) image ∈ (turn.image image).effects ∧
      (turn.image image).pipeline.outstanding = [turn.pipeline.issued + 1] := by
  have taken : turn.image image ≠ turn := by
    intro same
    have issued : (turn.image image).pipeline.issued = turn.pipeline.issued + 1 := by
      simp [PipelineTurn.image, full, idle]
    rw [same] at issued
    exact Nat.succ_ne_self _ issued.symm
  rcases turn.image_cases image with same | ⟨generation, next, ensured, added⟩
  · exact absurd same taken
  · have covered : next.pipeline.requests = turn.pipeline.requests := by
      rcases (turn.indicate (.imageReceived image.length)).ensureLease_cases with
        ⟨held, -, answer⟩ | ⟨-, number, token, world, -, answer⟩ <;>
      · rw [answer] at ensured
        cases ensured
        rfl
    rw [added]
    simp [Pipeline.outstanding, covered, idle]

end PipelineTurn

/-! ### At most one request -/

/-- At most one request is outstanding, and images that come meanwhile are dropped. -/
structure Engine.Exclusive (engine : Engine) : Prop where
  policy : engine.pipeline.policy = .dropWhileBusy
  one : engine.pipeline.outstanding.length ≤ 1

namespace EngineTurn

variable {ω : Type} [BackgroundHost Generation ω] (turn : EngineTurn ω)

/-- An image is dropped exactly if a request is outstanding. -/
theorem image_exclusive (image : Bytes) (full : image ≠ []) (exclusive : turn.engine.Exclusive) :
    (turn.engine.pipeline.outstanding ≠ [] ∧ turn.images [image] = turn) ∨
      (turn.engine.pipeline.outstanding = [] ∧
        .pipeline (.started (turn.engine.pipeline.issued + 1) image) ∈ (turn.images [image]).effects ∧
        (turn.images [image]).engine.pipeline.outstanding = [turn.engine.pipeline.issued + 1]) := by
  by_cases idle : turn.engine.pipeline.requests = []
  · obtain ⟨started, one⟩ := PipelineTurn.image_taken
      { pipeline := turn.engine.pipeline, world := turn.world } full idle
    refine .inr ⟨by simp [Pipeline.outstanding, idle], ?_, one⟩
    simp only [images, List.foldl_cons, List.foldl_nil, onPipeline]
    exact Array.mem_append_right _ (Array.mem_map_of_mem started)
  · have dropped := PipelineTurn.image_dropped
      { pipeline := turn.engine.pipeline, world := turn.world } image exclusive.policy idle
    refine .inl ⟨by simpa [Pipeline.outstanding] using idle, ?_⟩
    simp [images, onPipeline, dropped]

theorem policy_images (frames : List Bytes) :
    (turn.images frames).engine.pipeline.policy = turn.engine.pipeline.policy := by
  induction frames generalizing turn with
  | nil => rfl
  | cons frame later ih => exact (ih _).trans (PipelineTurn.policy_image _ frame)

theorem exclusive_images (frames : List Bytes) (exclusive : turn.engine.Exclusive) :
    (turn.images frames).engine.Exclusive := by
  induction frames generalizing turn with
  | nil => exact exclusive
  | cons frame later ih =>
    refine ih _ ⟨(turn.policy_images [frame]).trans exclusive.policy, ?_⟩
    by_cases full : frame = []
    · simpa [onPipeline, PipelineTurn.image, full] using exclusive.one
    · rcases turn.image_exclusive frame full exclusive with ⟨-, dropped⟩ | ⟨-, -, one⟩
      · have same := congrArg (·.engine.pipeline.outstanding.length) dropped
        exact Nat.le_trans (Nat.le_of_eq same) exclusive.one
      · exact Nat.le_of_eq (congrArg List.length one)

variable [Streams ω]

theorem policy_audioReady (id : RequestId) (result : Except ServiceError Bytes) :
    (turn.audioReady id result).engine.pipeline.policy = turn.engine.pipeline.policy := by
  unfold audioReady
  rcases PipelineTurn.audioReady_cases { pipeline := turn.engine.pipeline, world := turn.world } id
      result with ⟨-, done⟩ | done | ⟨reason, done⟩ | ⟨audio, done⟩ <;>
    simp [onPipeline, onLink, done, PipelineTurn.indicate, PipelineTurn.policy_submitted,
      PipelineTurn.noteLength]

variable [Radio ω] [IdentityStore ω]

theorem policy_handle (settings : RadioSettings) (event : Event) :
    (turn.handle settings event).2.engine.pipeline.policy = turn.engine.pipeline.policy := by
  cases event with
  | stream event => exact policy_images _ _
  | audioReady id result => exact turn.policy_audioReady id result
  | sendFinished id result => exact PipelineTurn.policy_sendFinished _ id result
  | leaseRevoked generation => exact PipelineTurn.policy_leaseRevoked _ generation
  | radio | scanTimeout => rfl
  | command command => cases command <;> rfl

end EngineTurn

theorem Engine.Turnover.begun_about {before after : Engine} {id : RequestId}
    {begun ended : List RequestId} (turnover : before.Turnover after (some id) begun ended) :
    begun = [] := by
  cases turnover with
  | begins _ unasked => cases unasked
  | settles _ none | submits _ none => exact none

theorem Engine.Turnover.outstanding_unasked {before after : Engine} {begun ended : List RequestId}
    (turnover : before.Turnover after none begun ended) :
    after.pipeline.outstanding = before.pipeline.outstanding ++ begun := by
  cases turnover with
  | begins _ _ _ _ more => exact more
  | settles asked | submits asked => cases asked

theorem Engine.Turnover.outstanding_le {before after : Engine} {id : RequestId}
    {begun ended : List RequestId} (turnover : before.Turnover after (some id) begun ended) :
    after.pipeline.outstanding.length ≤ before.pipeline.outstanding.length := by
  cases turnover with
  | begins _ unasked => cases unasked
  | settles _ _ _ less => exact less ▸ List.length_filter_le _ _
  | submits _ _ _ same => exact Nat.le_of_eq (congrArg List.length same)

theorem Engine.Exclusive.handle {ω : Type} [Radio ω] [Streams ω] [IdentityStore ω]
    [BackgroundHost Generation ω] {engine : Engine} (exclusive : engine.Exclusive) (world : ω)
    (settings : RadioSettings) (event : Event)
    (unfinished : ∀ o ∈ engine.manager.outgoing, o.Unfinished) :
    (EngineTurn.handle { engine, world } settings event).2.engine.Exclusive := by
  refine ⟨(EngineTurn.policy_handle _ settings event).trans exclusive.policy, ?_⟩
  have turns : EngineTurn.Turns engine event.request?
      (EngineTurn.handle { engine, world } settings event).2 :=
    EngineTurn.turns_handle settings event unfinished
  -- Only what streams bring holds images; of the other events none begins a request.
  cases event with
  | stream event =>
    have heard : (EngineTurn.onLink { engine, world } (·.streamEvent settings event)).2.engine.Exclusive :=
      ⟨exclusive.policy, exclusive.one⟩
    exact (EngineTurn.exclusive_images _ _ heard).one
  | audioReady id result => exact Nat.le_trans turns.1.outstanding_le exclusive.one
  | sendFinished id result => exact Nat.le_trans turns.1.outstanding_le exclusive.one
  | leaseRevoked generation =>
    have same := PipelineTurn.outstanding_leaseRevoked { pipeline := engine.pipeline, world } generation
    exact Nat.le_trans (Nat.le_of_eq (congrArg List.length same)) exclusive.one
  | radio | scanTimeout => exact exclusive.one
  | command command => cases command <;> exact exclusive.one

/-! ### Requests that wait to be settled -/

namespace EngineStep

def begunOf (log : List EngineStep) : List RequestId := log.flatMap fun step => startedIn step.effects

/-- The request that a step settled: its sending ended, or its work did, and no audio was taken for
sending. -/
def settled? (step : EngineStep) : Option RequestId :=
  match step.event with
  | .sendFinished id _ => some id
  | .audioReady id _ =>
    if (step.submission?.bind Submission.accepted?).isSome then none else some id
  | _ => none

def settledOf (log : List EngineStep) : List RequestId := log.filterMap settled?

section

variable (log : List EngineStep) (step : EngineStep)

@[simp] theorem begunOf_snoc : begunOf (log ++ [step]) = begunOf log ++ startedIn step.effects := by
  simp [begunOf]

@[simp] theorem settledOf_snoc : settledOf (log ++ [step]) = settledOf log ++ step.settled?.toList := by
  cases same : step.settled? <;> simp [settledOf, same]

end

end EngineStep

open EngineStep (submissionsOf begunOf settledOf)

section

variable {ω : Type} [Radio ω] [Streams ω] [IdentityStore ω] [BackgroundHost Generation ω]

omit [Radio ω] [IdentityStore ω] in
/-- The end of a request's work settles it, unless its audio is taken for sending. -/
theorem EngineTurn.outstanding_audioReady (engine : Engine) (world : ω) (id : RequestId)
    (result : Except ServiceError Bytes) :
    (audioReady { engine, world } id result).engine.pipeline.outstanding
      = if ((submission? { engine, world } (.audioReady id result)).bind Submission.accepted?).isSome
        then engine.pipeline.outstanding else engine.pipeline.outstanding.filter (· ≠ id) := by
  unfold audioReady submission?
  rcases PipelineTurn.audioReady_cases { pipeline := engine.pipeline, world } id result with
    ⟨unknown, done⟩ | done | ⟨reason, done⟩ | ⟨audio, done⟩ <;> simp only [onPipeline, onLink, done]
  · exact (Pipeline.outstanding_of_unknown unknown).symm
  · simp
  · simp [PipelineTurn.indicate]
  · cases answer : (LinkTurn.submit { manager := engine.manager, world := (PipelineTurn.noteLength
        { pipeline := engine.pipeline, world } id audio.length).world } audio id).1 with
    | ok => simp [PipelineTurn.submitted, Submission.accepted?]
    | error refusal => simp [PipelineTurn.submitted, Submission.accepted?, PipelineTurn.indicate]

/-- An event about a request settles it, and then it is outstanding no more, or leaves it outstanding. -/
theorem Engine.outstanding_asked (engine : Engine) (world : ω) (settings : RadioSettings)
    {event : Event} {id : RequestId} (asked : event.request? = some id) :
    ((engine.step settings event world).settled? = some id ∧
        (engine.step settings event world).after.pipeline.outstanding
          = engine.pipeline.outstanding.filter (· ≠ id)) ∨
      ((engine.step settings event world).settled? = none ∧
        (engine.step settings event world).after.pipeline.outstanding
          = engine.pipeline.outstanding) := by
  cases event with
  | audioReady other result =>
    obtain rfl := Option.some.inj asked
    have ended := EngineTurn.outstanding_audioReady engine world other result
    simp only [Engine.step, EngineStep.settled?, EngineTurn.handle]
    split at ended
    · next accepted => exact .inr ⟨if_pos accepted, ended⟩
    · next refused => exact .inl ⟨if_neg refused, ended⟩
  | sendFinished other result =>
    obtain rfl := Option.some.inj asked
    refine .inl ⟨rfl, ?_⟩
    simp only [Engine.step, EngineTurn.handle, EngineTurn.onPipeline]
    rcases PipelineTurn.sendFinished_cases { pipeline := engine.pipeline, world } other result with
      done | ⟨indication, done⟩ <;> simp [done, PipelineTurn.indicate]
  | _ => cases asked

/-- What a step does to the outstanding requests: those that begin are added, and the one that it settles
is taken off. -/
theorem Engine.mem_outstanding_step (engine : Engine) (world : ω) (settings : RadioSettings)
    (event : Event) (unfinished : ∀ o ∈ engine.manager.outgoing, o.Unfinished) (id : RequestId) :
    id ∈ (engine.step settings event world).after.pipeline.outstanding ↔
      (id ∈ engine.pipeline.outstanding ∨ id ∈ startedIn (engine.step settings event world).effects) ∧
        (engine.step settings event world).settled? ≠ some id := by
  have turns : EngineTurn.Turns engine event.request?
      (EngineTurn.handle { engine, world } settings event).2 :=
    EngineTurn.turns_handle settings event unfinished
  have turnover : engine.Turnover (engine.step settings event world).after event.request?
      (startedIn (engine.step settings event world).effects) _ := turns.1
  cases asked : event.request? with
  | none =>
    rw [asked] at turnover
    have unsettled : (engine.step settings event world).settled? = none := by
      cases event <;> first | rfl | cases asked
    simp [turnover.outstanding_unasked, unsettled]
  | some other =>
    rw [asked] at turnover
    rw [turnover.begun_about]
    rcases engine.outstanding_asked world settings asked with ⟨settled, less⟩ | ⟨unsettled, same⟩
    · simp [less, settled, ne_comm]
    · simp [same, unsettled]

namespace Program

variable {settings : RadioSettings} {program : Program} {log : List EngineStep}

theorem EngineStep.settled?_about {step : EngineStep} {id : RequestId}
    (settled : step.settled? = some id) : step.event.request? = some id := by
  unfold EngineStep.settled? at settled
  split at settled
  · next same => rw [same]; exact settled
  · next same =>
    split at settled
    · cases settled
    · rw [same]; exact settled
  · cases settled

theorem Logged.settled_issued (logged : Logged ω settings program log) :
    ∀ id ∈ settledOf log, id ≤ program.engine.pipeline.issued := by
  induction logged with
  | new => simp [settledOf]
  | @take program event later log world logged first _ ih =>
    intro id settled
    obtain ⟨older, run⟩ := logged.run
    have turns : EngineTurn.Turns program.engine event.request?
        (EngineTurn.handle { engine := program.engine, world } settings event).2 :=
      EngineTurn.turns_handle settings event logged.unfinished
    obtain ⟨count, -, issued⟩ := turns.1.begun_range
    have known : id ≤ program.engine.pipeline.issued := by
      rw [EngineStep.settledOf_snoc] at settled
      -- Whatever settles a request was queued about it, and what is queued about is outstanding.
      rcases List.mem_append.mp settled with earlier | now
      · exact ih id earlier
      · have queued : event ∈ program.queue := first ▸ List.mem_cons_self
        have about := EngineStep.settled?_about (Option.mem_toList.mp now)
        exact run.sound.issued_of_outstanding (run.sound.outstanding_of_queued queued about)
    exact Nat.le_trans known (Nat.le.intro issued.symm)
  | answer _ _ _ ih | post _ _ _ ih => exact ih

theorem Logged.unsettled_of_new (logged : Logged ω settings program log) {id : RequestId}
    (new : program.engine.pipeline.issued + 1 ≤ id) : id ∉ settledOf log := by
  intro settled
  exact Nat.lt_irrefl id (Nat.lt_of_le_of_lt (logged.settled_issued id settled) new)

/-- The outstanding requests are those that began and were not settled. -/
theorem Logged.outstanding_iff (logged : Logged ω settings program log) (id : RequestId) :
    id ∈ program.engine.pipeline.outstanding ↔ id ∈ begunOf log ∧ id ∉ settledOf log := by
  induction logged with
  | new => simp [Pipeline.outstanding, begunOf]
  | @take program event later log world logged first _ ih =>
    have turns : EngineTurn.Turns program.engine event.request?
        (EngineTurn.handle { engine := program.engine, world } settings event).2 :=
      EngineTurn.turns_handle settings event logged.unfinished
    obtain ⟨count, begun, -⟩ := turns.1.begun_range
    -- What begins now has a number above all that were settled before.
    have fresh : id ∈ startedIn (program.engine.step settings event world).effects →
        id ∉ settledOf log := by
      intro begins
      have number : id ∈ List.range' (program.engine.pipeline.issued + 1) count := begun ▸ begins
      exact logged.unsettled_of_new (List.mem_range'_1.mp number).1
    have step := program.engine.mem_outstanding_step world settings event logged.unfinished id
    rw [EngineStep.begunOf_snoc, EngineStep.settledOf_snoc, List.mem_append, List.mem_append,
      Option.mem_toList]
    refine step.trans ?_
    rw [ih]
    constructor
    · rintro ⟨⟨begun, unsettled⟩ | begins, kept⟩
      · exact ⟨.inl begun, not_or.mpr ⟨unsettled, kept⟩⟩
      · exact ⟨.inr begins, not_or.mpr ⟨fresh begins, kept⟩⟩
    · rintro ⟨begun, unsettled⟩
      obtain ⟨before, kept⟩ := not_or.mp unsettled
      exact ⟨begun.imp_left fun begun => ⟨begun, before⟩, kept⟩
  | answer _ _ _ ih | post _ _ _ ih => exact ih

/-! ### The way out is free -/

theorem Logged.exclusive (logged : Logged ω settings program log)
    (policy : program.engine.pipeline.policy = .dropWhileBusy) : program.engine.Exclusive := by
  induction logged with
  | new => exact ⟨policy, Nat.zero_le 1⟩
  | @take program event later log world logged _ _ ih =>
    have before : program.engine.pipeline.policy = .dropWhileBusy :=
      (EngineTurn.policy_handle { engine := program.engine, world } settings event).symm.trans policy
    exact (ih before).handle world settings event logged.unfinished
  | answer _ _ _ ih | post _ _ _ ih => exact ih policy

/-- If the end of a request's work is on the queue, no frame is under way: it would be that of another
request. -/
theorem Sound.unsent_of_queued {settled : List RequestId} (sound : program.Sound settled)
    (exclusive : program.engine.Exclusive) {about : Event} (queued : about ∈ program.queue)
    {id : RequestId} (asked : about.request? = some id) : program.engine.manager.sending = [] := by
  have outstanding := sound.outstanding_of_queued queued asked
  apply List.eq_nil_iff_forall_not_mem.mpr
  intro other sent
  have places := sound.places other
  have place := List.count_pos_iff.mpr sent
  have member : other ∈ program.engine.pipeline.outstanding := List.count_pos_iff.mp (by omega)
  obtain ⟨only, alone⟩ := List.length_eq_one_iff.mp
    (Nat.le_antisymm exclusive.one (List.length_pos_of_mem outstanding))
  have same : other = id := by
    rw [alone, List.mem_singleton] at member outstanding
    exact member.trans outstanding.symm
  have waits := List.count_pos_iff.mpr (List.mem_filterMap.mpr ⟨about, queued, same ▸ asked⟩)
  have once := sound.once other
  omega

end Program

omit [Radio ω] [IdentityStore ω] [BackgroundHost Generation ω] in
/-- A submission is refused as one too many only while a frame is under way. -/
theorem LinkTurn.sending_of_inFlight {manager : Manager} {world : ω} {payload : Bytes} {tag : Tag}
    (refused : (submit { manager, world } payload tag).1 = .error .inFlight) :
    manager.sending ≠ [] := by
  unfold submit at refused
  split at refused
  · next session live =>
    split at refused
    · intro idle
      simp only at live
      have unsent : session.outgoing = none := by
        simpa [Manager.sending, Manager.outgoing, Manager.session?, live] using idle
      unfold Session.submit at refused
      simp only [Session.isSending, unsent] at refused
      -- With nothing under way only the length of the payload can be wrong.
      by_cases short : payload.length < Bytes.wordLimit <;>
        simp [Outgoing.start, Frame.encode, short, Except.map] at refused
    · cases refused
  · cases refused

omit [Radio ω] [IdentityStore ω] in
theorem EngineTurn.sending_of_inFlight {engine : Engine} {world : ω} {event : Event}
    {submission : Submission} (submits : submission? { engine, world } event = some submission)
    (refused : submission.answer = .error .inFlight) : engine.manager.sending ≠ [] := by
  obtain ⟨id, audio, answer⟩ := submission
  obtain rfl : answer = .error .inFlight := refused
  obtain rfl := EngineTurn.submission?_event submits
  rcases PipelineTurn.audioReady_cases { pipeline := engine.pipeline, world } id (.ok audio) with
    ⟨-, done⟩ | done | ⟨reason, done⟩ | ⟨given, done⟩ <;>
    simp only [submission?, onPipeline, onLink, done] at submits
  · cases submits
  · cases submits
  · cases submits
  · exact LinkTurn.sending_of_inFlight (Submission.mk.inj (Option.some.inj submits)).2.2

namespace Program

variable {settings : RadioSettings} {program : Program} {log : List EngineStep}

theorem Logged.never_inFlight (logged : Logged ω settings program log)
    (policy : program.engine.pipeline.policy = .dropWhileBusy) :
    ∀ submission ∈ submissionsOf log, submission.answer ≠ .error .inFlight := by
  induction logged with
  | new => simp [submissionsOf]
  | @take program event later log world logged first _ ih =>
    have before : program.engine.pipeline.policy = .dropWhileBusy :=
      (EngineTurn.policy_handle { engine := program.engine, world } settings event).symm.trans policy
    intro submission member refused
    rw [EngineStep.submissionsOf_snoc] at member
    rcases List.mem_append.mp member with earlier | now
    · exact ih before submission earlier refused
    · have submits := Option.mem_toList.mp now
      have asked : event.request? = some submission.tag := by
        rw [EngineTurn.submission?_event submits]
        rfl
      -- The event asks about the one outstanding request, so no frame of another is in the link.
      obtain ⟨settled, run⟩ := logged.run
      have free := run.sound.unsent_of_queued (logged.exclusive before)
        (first ▸ List.mem_cons_self) asked
      exact EngineTurn.sending_of_inFlight submits refused free
  | answer _ _ _ ih | post _ _ _ ih => exact ih policy

/-- In the middle of the first event on its queue a program meets an image: those that were heard before
it in the same event were met already. -/
inductive Meets (settings : RadioSettings) (program : Program) : EngineTurn ω → Bytes → Prop where
  | among {event : StreamEvent} {later : List Event} {earlier others : List Bytes} {image : Bytes}
      (world : ω) : program.queue = .stream event :: later →
      (EngineTurn.onLink { engine := program.engine, world } (·.streamEvent settings event)).1
        = earlier ++ image :: others →
      Meets settings program
        ((EngineTurn.onLink { engine := program.engine, world } (·.streamEvent settings event)).2.images
          earlier) image

/-- In the middle of an event, too, the outstanding requests are those that began and were not settled. -/
theorem Logged.outstanding_met (logged : Logged ω settings program log) {turn : EngineTurn ω}
    {image : Bytes} (meets : Meets settings program turn image) (id : RequestId) :
    id ∈ turn.engine.pipeline.outstanding ↔
      id ∈ begunOf log ++ startedIn turn.effects ∧ id ∉ settledOf log := by
  obtain ⟨world, -, -⟩ := meets
  rename_i event later earlier others
  obtain ⟨-, -, count, -, outstanding, started⟩ :=
    (EngineTurn.onLink { engine := program.engine, world } (·.streamEvent settings event)).2.images_begin
      earlier
  have before : startedIn
      (EngineTurn.onLink { engine := program.engine, world } (·.streamEvent settings event)).2.effects
        = [] := by
    simp [EngineTurn.onLink]
  rw [before, List.nil_append] at started
  rw [outstanding, started, List.mem_append, List.mem_append]
  have known := logged.outstanding_iff id
  -- The images before this one in the same notification may have begun requests already.
  constructor
  · rintro (waiting | begins)
    · exact ⟨.inl (known.mp waiting).1, (known.mp waiting).2⟩
    · exact ⟨.inr begins, logged.unsettled_of_new (List.mem_range'_1.mp begins).1⟩
  · rintro ⟨begun | begins, unsettled⟩
    · exact .inl (known.mpr ⟨begun, unsettled⟩)
    · exact .inr begins

omit [IdentityStore ω] in
theorem Meets.exclusive {turn : EngineTurn ω} {image : Bytes} (meets : Meets settings program turn image)
    (exclusive : program.engine.Exclusive) : turn.engine.Exclusive := by
  obtain ⟨world, -, -⟩ := meets
  exact EngineTurn.exclusive_images _ _ ⟨exclusive.policy, exclusive.one⟩

/-- Where images are dropped while a request is being worked on, at most one request is outstanding, the
way out is free whenever audio is submitted, and an image is dropped if and only if a request that began
before is not settled. -/
theorem outbound_uncontended (logged : Logged ω settings program log)
    (policy : program.engine.pipeline.policy = .dropWhileBusy) :
    program.engine.pipeline.requests.length ≤ 1 ∧
    (∀ submission ∈ submissionsOf log, submission.answer ≠ .error .inFlight) ∧
    ∀ (turn : EngineTurn ω) (image : Bytes), Meets settings program turn image → image ≠ [] →
      turn.engine.pipeline.requests.length ≤ 1 ∧
      (turn.images [image] = turn ↔
        ∃ id ∈ begunOf log ++ startedIn turn.effects, id ∉ settledOf log) ∧
      (turn.images [image] = turn ∨
        .pipeline (.started (turn.engine.pipeline.issued + 1) image) ∈ (turn.images [image]).effects) := by
  have exclusive := logged.exclusive policy
  have counted : ∀ pipeline : Pipeline, pipeline.requests.length = pipeline.outstanding.length :=
    fun pipeline => (List.length_map _).symm
  refine ⟨counted _ ▸ exclusive.one, logged.never_inFlight policy, fun turn image meets full => ?_⟩
  have within := meets.exclusive exclusive
  have waiting : turn.engine.pipeline.outstanding ≠ [] ↔
      ∃ id ∈ begunOf log ++ startedIn turn.effects, id ∉ settledOf log := by
    constructor
    · intro some_waits
      obtain ⟨id, waits⟩ := List.exists_mem_of_ne_nil _ some_waits
      exact ⟨id, (logged.outstanding_met meets id).mp waits⟩
    · rintro ⟨id, waits⟩
      exact List.ne_nil_of_mem ((logged.outstanding_met meets id).mpr waits)
  refine ⟨counted _ ▸ within.one, ?_⟩
  -- Busy, the image changes nothing; idle, its request begins and the pipeline is empty no more.
  rcases turn.image_exclusive image full within with ⟨busy, dropped⟩ | ⟨idle, started, one⟩
  · exact ⟨iff_of_true dropped (waiting.mp busy), .inl dropped⟩
  · have taken : turn.images [image] ≠ turn := by
      intro same
      rw [same, idle] at one
      cases one
    exact ⟨iff_of_false taken fun waits => waiting.mpr waits idle, .inr started⟩

/-- Of two images that come together after a request has failed, the second is dropped. -/
theorem outbound_uncontended_together : ∃ program log, ∃ turn : EngineTurn Bench.Rig,
    Logged Bench.Rig {} program log ∧ program.engine.pipeline.policy = .dropWhileBusy ∧
    Meets {} program turn [8] ∧ begunOf log = [1] ∧ settledOf log = [1] ∧
    startedIn turn.effects = [2] ∧ turn.images [[8]] = turn := by
  let glasses : PeripheralId := ⟨"glasses"⟩
  let rig : Bench.Rig := { power := .on, saved := some glasses, wires := #[.scripted {}] }
  let image : Bench.Rig := { wires := #[.scripted { queue := [1, 0, 0, 0, 6] }] }
  let images : Bench.Rig := { wires := #[.scripted { queue := [1, 0, 0, 0, 7, 1, 0, 0, 0, 8] }] }
  have met : ∃ program log, ∃ turn : EngineTurn Bench.Rig, Logged Bench.Rig {} program log ∧
      program.engine.pipeline.policy = .dropWhileBusy ∧ Meets {} program turn [8] ∧
      begunOf log = [1] ∧ settledOf log = [1] ∧ startedIn turn.effects = [2] := by
    have new : Logged Bench.Rig {} _ _ := .new .dropWhileBusy
    have on := new.hear rfl (.radio (.power .on)) rfl (by simp) rig
    have linked := on.hear (by decide +kernel) (.radio (.connected glasses)) rfl (by simp) rig
    have live := linked.hear (by decide +kernel) (.radio (.channelOpened glasses (.ok ⟨7, 0⟩))) rfl
      (by simp) rig
    have read := live.hear (by decide +kernel) (.stream ⟨7, .inbound, .opened⟩) rfl (by simp) rig
    have both := read.hear (by decide +kernel) (.stream ⟨7, .outbound, .opened⟩) rfl (by simp) rig
    have begun := both.hear (by decide +kernel) (.stream ⟨7, .inbound, .bytesAvailable⟩) rfl
      (by simp) image
    have answered := begun.answer (.error .emptyDescription) (by decide +kernel : 1 ∈ _)
    have failed := answered.take rig (alone _ (by decide +kernel) _) (by simp)
    refine ⟨_, _, _, failed.post (.stream ⟨7, .inbound, .bytesAvailable⟩) rfl, by decide +kernel,
      .among images (alone _ (by decide +kernel) _) (?_ : _ = ([[7]] : List Bytes) ++ [8] :: []), ?_, ?_, ?_⟩
    all_goals decide +kernel
  obtain ⟨program, log, turn, logged, policy, meets, begun, settled, started⟩ := met
  refine ⟨program, log, turn, logged, policy, meets, begun, settled, started, ?_⟩
  -- Request 2 began with the image before, and nothing has come of it yet.
  have dropped := ((outbound_uncontended logged policy).2.2 turn [8] meets (by decide)).2.1
  exact dropped.mpr ⟨2, by simp [started], by simp [settled]⟩

end Program

end

end Sightline
