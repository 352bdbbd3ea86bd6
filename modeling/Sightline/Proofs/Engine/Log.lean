import Sightline.Proofs.Engine.Reports

/-! Runs of an engine with all that was done in them.

`Program.Logged` is `Program.Run` with the steps of the engine, event by event, in place of the requests
that were settled. -/

set_option autoImplicit false

namespace Sightline

open EngineEffect (linksIn sentIn)

/-- One event of a run: the engine that it met and the one that it left, the audio that was submitted, and
all that was done. -/
structure EngineStep where
  before : Engine
  event : Event
  submission? : Option Submission
  after : Engine
  effects : Array EngineEffect

namespace EngineStep

def links (step : EngineStep) : List LinkEffect := linksIn step.effects

def publications (step : EngineStep) : List (Event × Nat) :=
  (sentIn step.effects).map (step.event, ·)

def linksOf (log : List EngineStep) : List LinkEffect := log.flatMap links

def submissionsOf (log : List EngineStep) : List Submission := log.filterMap submission?

def publicationsOf (log : List EngineStep) : List (Event × Nat) := log.flatMap publications

def readiedOf (log : List EngineStep) : List RequestId := log.filterMap (·.event.ready?)

def finishedOf (log : List EngineStep) : List RequestId := log.filterMap (·.event.sent?)

section

variable (log : List EngineStep) (step : EngineStep)

@[simp] theorem linksOf_snoc : linksOf (log ++ [step]) = linksOf log ++ step.links := by
  simp [linksOf]

@[simp] theorem submissionsOf_snoc :
    submissionsOf (log ++ [step]) = submissionsOf log ++ step.submission?.toList := by
  cases same : step.submission? <;> simp [submissionsOf, same]

@[simp] theorem publicationsOf_snoc :
    publicationsOf (log ++ [step]) = publicationsOf log ++ step.publications := by
  simp [publicationsOf]

@[simp] theorem readiedOf_snoc :
    readiedOf (log ++ [step]) = readiedOf log ++ step.event.ready?.toList := by
  cases same : step.event.ready? <;> simp [readiedOf, same]

@[simp] theorem finishedOf_snoc :
    finishedOf (log ++ [step]) = finishedOf log ++ step.event.sent?.toList := by
  cases same : step.event.sent? <;> simp [finishedOf, same]

end

end EngineStep

/-! ### Runs -/

section

variable {ω : Type} [Radio ω] [Streams ω] [IdentityStore ω] [BackgroundHost Generation ω]

def Engine.step (engine : Engine) (settings : RadioSettings) (event : Event) (world : ω) :
    EngineStep where
  before := engine
  event
  submission? := EngineTurn.submission? { engine, world } event
  after := (EngineTurn.handle { engine, world } settings event).2.engine
  effects := (EngineTurn.handle { engine, world } settings event).2.effects

/-- A program after some moves, as in `Program.Run`, and the steps of its engine. -/
inductive Program.Logged (ω : Type) [Radio ω] [Streams ω] [IdentityStore ω]
    [BackgroundHost Generation ω] (settings : RadioSettings) : Program → List EngineStep → Prop where
  | new (policy : Concurrency) : Logged ω settings { engine := { pipeline := { policy } } } []
  | take {program : Program} {event : Event} {later : List Event} {log : List EngineStep} (world : ω) :
      Logged ω settings program log → program.queue = event :: later → event ≠ .command .shutdown →
      Logged ω settings (take { program with queue := later } settings event world)
        (log ++ [program.engine.step settings event world])
  | answer {program : Program} {log : List EngineStep} {id : RequestId}
      (result : Except ServiceError Bytes) : Logged ω settings program log → id ∈ program.works →
      Logged ω settings { program with
        queue := program.queue ++ [.audioReady id result], works := program.works.erase id } log
  | post {program : Program} {log : List EngineStep} (event : Event) :
      Logged ω settings program log → event.request? = none →
      Logged ω settings { program with queue := program.queue ++ [event] } log

namespace Program

variable {settings : RadioSettings} {program : Program} {log : List EngineStep}

theorem Logged.run (logged : Logged ω settings program log) :
    ∃ settled, Run ω settings program settled := by
  induction logged with
  | new policy => exact ⟨[], .new policy⟩
  | take world _ first going ih =>
    obtain ⟨settled, run⟩ := ih
    exact ⟨_, run.take world first going⟩
  | answer result _ working ih =>
    obtain ⟨settled, run⟩ := ih
    exact ⟨settled, run.answer result working⟩
  | post event _ unasked ih =>
    obtain ⟨settled, run⟩ := ih
    exact ⟨settled, run.post event unasked⟩

theorem Logged.unfinished (logged : Logged ω settings program log) :
    ∀ o ∈ program.engine.manager.outgoing, o.Unfinished := by
  obtain ⟨settled, run⟩ := logged.run
  exact run.sound.unfinished

theorem Logged.steps (logged : Logged ω settings program log) : ∀ step ∈ log,
    ∃ (engine : Engine) (event : Event) (world : ω), step = engine.step settings event world := by
  induction logged with
  | new => simp
  | take world _ _ _ ih =>
    intro step member
    rcases List.mem_append.mp member with earlier | now
    · exact ih step earlier
    · exact ⟨_, _, world, List.mem_singleton.mp now⟩
  | answer _ _ _ ih | post _ _ _ ih => exact ih

theorem Logged.known (logged : Logged ω settings program log) : ∀ step ∈ log, ∀ id,
    step.event.request? = some id → ∃ request, step.before.pipeline.request? id = some request := by
  induction logged with
  | new => simp
  | @take program event later log world logged first _ ih =>
    intro step member id about
    rcases List.mem_append.mp member with earlier | now
    · exact ih step earlier id about
    · obtain rfl := List.mem_singleton.mp now
      obtain ⟨settled, run⟩ := logged.run
      have outstanding : id ∈ program.engine.pipeline.outstanding :=
        run.sound.outstanding_of_queued (first ▸ List.mem_cons_self) about
      rw [← Pipeline.request?_isSome_iff] at outstanding
      exact Option.isSome_iff_exists.mp outstanding
  | answer _ _ _ ih | post _ _ _ ih => exact ih

theorem Logged.readied (logged : Logged ω settings program log) {step : EngineStep} (member : step ∈ log)
    {submission : Submission} (submits : step.submission? = some submission) :
    step.event = .audioReady submission.tag (.ok submission.payload) := by
  obtain ⟨engine, event, world, rfl⟩ := logged.steps step member
  exact EngineTurn.submission?_event submits

theorem Logged.ready_of_submission (logged : Logged ω settings program log) {step : EngineStep}
    (member : step ∈ log) {submission : Submission} (submits : step.submission? = some submission) :
    step.event.ready? = some submission.tag := by
  rw [logged.readied member submits]
  rfl

theorem Logged.hear (logged : Logged ω settings program log) (idle : program.queue.length = 0)
    (event : Event) (unasked : event.request? = none) (going : event ≠ .command .shutdown)
    (world : ω) : Logged ω settings (Program.take { program with queue := [] } settings event world)
      (log ++ [program.engine.step settings event world]) :=
  (logged.post event unasked).take world (alone _ idle event) going

def succeeded? : Event → Option RequestId
  | .sendFinished id (.ok ()) => some id
  | _ => none

theorem alone_succeeded (queue : List Event) (id : RequestId)
    (alone : queue.map succeeded? = [some id]) : queue = [.sendFinished id (.ok ())] := by
  obtain ⟨event, rfl, succeeded⟩ := List.map_eq_singleton_iff.mp alone
  unfold succeeded? at succeeded
  split at succeeded
  · obtain rfl := Option.some.inj succeeded
    rfl
  · cases succeeded

end Program

end

end Sightline
