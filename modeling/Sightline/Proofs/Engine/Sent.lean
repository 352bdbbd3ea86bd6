import Mathlib.Data.List.Pairwise
import Sightline.Proofs.Engine.Log

/-! What it means that audio was said to be sent.

A length is published when the end of a sending is taken off the queue, which comes long after the sink
took the bytes, and after the length was noted. `Traced` is what holds in between, and every event keeps
it; so what is published is what was `Delivered`. -/

set_option autoImplicit false

namespace Sightline

open LinkEffect (acceptedOn ended?)
open EngineEffect (linksIn)
open EngineStep (linksOf submissionsOf publicationsOf readiedOf finishedOf)

/-! ### From the submission to the end of the sending -/

/-- The audio of a request was taken for sending by the session of a stream pair, and this is all that the
connection has done from then on. -/
def Submitted (log : List EngineStep) (id : RequestId) (audio : Bytes) (pair : StreamPair)
    (since : List LinkEffect) : Prop :=
  ∃ earlier submitting later, log = earlier ++ submitting :: later ∧
    submitting.submission? = some ⟨id, audio, .ok ()⟩ ∧
    submitting.before.manager.held? = some pair ∧ since = linksOf (submitting :: later)

/-- The audio of a request was taken for sending, and before its sending ended, which is the first to end
since then, the sink of the session that it was submitted to took the whole frame of the audio. -/
def Delivered (log : List EngineStep) (id : RequestId) (audio : Bytes) : Prop :=
  ∃ pair sending rest, Submitted log id audio pair (sending ++ .completed id (.ok ()) :: rest) ∧
    sending.filterMap ended? = [] ∧ acceptedOn pair sending = Frame.encoded audio

/-- What is left of the frame under way is what the sink has not taken since the submission. -/
def Underway (log : List EngineStep) (manager : Manager) : Prop :=
  ∀ o, manager.outgoing = some o → ∃ audio pair since, Submitted log o.tag audio pair since ∧
    manager.held? = some pair ∧ since.filterMap ended? = [] ∧
    Frame.encoded audio = acceptedOn pair since ++ o.left

section

variable {log : List EngineStep} {id : RequestId} {audio : Bytes} {pair : StreamPair}
  {since : List LinkEffect} {manager : Manager} (step : EngineStep)

theorem Submitted.snoc (submitted : Submitted log id audio pair since) :
    Submitted (log ++ [step]) id audio pair (since ++ step.links) := by
  obtain ⟨earlier, submitting, later, rfl, submission, held, rfl⟩ := submitted
  refine ⟨earlier, submitting, later ++ [step], by simp, submission, held, ?_⟩
  rw [← List.cons_append, EngineStep.linksOf_snoc]

theorem Submitted.here (log : List EngineStep) {step : EngineStep}
    (submits : step.submission? = some ⟨id, audio, .ok ()⟩)
    (held : step.before.manager.held? = some pair) :
    Submitted (log ++ [step]) id audio pair step.links :=
  ⟨log, step, [], rfl, submits, held, by simp [EngineStep.linksOf]⟩

theorem Delivered.snoc (delivered : Delivered log id audio) :
    Delivered (log ++ [step]) id audio := by
  obtain ⟨pair, sending, rest, submitted, untold, whole⟩ := delivered
  refine ⟨pair, sending, rest ++ step.links, ?_, untold, whole⟩
  simpa using submitted.snoc step

theorem Delivered.submission (delivered : Delivered log id audio) :
    ⟨id, audio, .ok ()⟩ ∈ submissionsOf log := by
  obtain ⟨pair, sending, rest, ⟨earlier, submitting, later, rfl, submission, -, -⟩, -, -⟩ := delivered
  exact List.mem_filterMap.mpr ⟨submitting, by simp, submission⟩

theorem Delivered.completed (delivered : Delivered log id audio) :
    .completed id (.ok ()) ∈ linksOf log := by
  obtain ⟨pair, sending, rest, ⟨earlier, submitting, later, rfl, -, -, since⟩, -, -⟩ := delivered
  rw [linksOf, List.flatMap_append]
  refine List.mem_append_right _ ?_
  rw [← linksOf, ← since]
  simp

/-- The frame stays under way, or its sending ends, and in success only with all of it taken. -/
theorem Carries.outcome {outgoing : Outgoing} {effects : List LinkEffect}
    (carries : Carries pair outgoing manager effects)
    (submitted : Submitted log outgoing.tag audio pair (since ++ effects))
    (untold : since.filterMap ended? = [])
    (whole : Frame.encoded audio = acceptedOn pair since ++ outgoing.left) :
    Underway log manager ∧
      ∀ tag, .completed tag (.ok ()) ∈ effects → ∃ audio, Delivered log tag audio := by
  cases carries with
  | @goesOn later sending held tag quiet left =>
    constructor
    · intro o under
      obtain rfl : later = o := Option.some.inj (sending.symm.trans under)
      refine ⟨audio, pair, since ++ effects, tag ▸ submitted, held, by simp [untold, quiet], ?_⟩
      rw [whole, left, LinkEffect.acceptedOn_append, List.append_assoc]
    · intro tag completed
      exact absurd completed (LinkEffect.not_completed quiet tag _)
  | @ends first last result gone split before after full =>
    constructor
    · intro o under
      cases gone.symm.trans under
    · intro tag completed
      rw [split] at completed submitted
      -- The link tells of one frame only, the one it carried.
      have here : .completed tag (.ok ()) = LinkEffect.completed outgoing.tag result := by
        rcases List.mem_append.mp completed with earlier | now
        · exact absurd earlier (LinkEffect.not_completed before tag _)
        · rcases List.mem_cons.mp now with same | later
          · exact same
          · exact absurd later (LinkEffect.not_completed after tag _)
      obtain ⟨rfl, rfl⟩ := LinkEffect.completed.inj here
      refine ⟨audio, pair, since ++ first, last, by simpa using submitted, by simp [untold, before], ?_⟩
      rw [LinkEffect.acceptedOn_append, full rfl, whole]

theorem Underway.moved {step : EngineStep} (underway : Underway log step.before.manager)
    (moves : FrameMove step.before.manager step.after.manager step.submission? step.links) :
    Underway (log ++ [step]) step.after.manager ∧
      ∀ tag, .completed tag (.ok ()) ∈ step.links → ∃ audio, Delivered (log ++ [step]) tag audio := by
  cases moves with
  | idle _ gone _ untold =>
    constructor
    · intro o under
      cases gone.symm.trans under
    · intro tag completed
      exact absurd completed (LinkEffect.not_completed untold tag _)
  | @carries pair outgoing sending held _ carries =>
    obtain ⟨audio, own, since, submitted, held', untold, whole⟩ := underway outgoing sending
    obtain rfl : own = pair := Option.some.inj (held'.symm.trans held)
    exact carries.outcome (submitted.snoc step) untold whole
  | @begins pair audio tag _ held submits carries =>
    have submitted : Submitted (log ++ [step]) tag audio pair ([] ++ step.links) :=
      .here log submits held
    exact carries.outcome submitted rfl rfl

end

/-! ### What every event keeps -/

section

variable {ω : Type} [Radio ω] [Streams ω] [IdentityStore ω] [BackgroundHost Generation ω]

namespace Program

variable {settings : RadioSettings} {program : Program} {log : List EngineStep}

structure Traced (program : Program) (log : List EngineStep) : Prop where
  /-- The work on every request is under way, or its end is queued, or it was handled once. -/
  readied : ∀ id : Nat, program.works.count id + (program.queue.filterMap Event.ready?).count id
    + (readiedOf log).count id = if 0 < id ∧ id ≤ program.engine.pipeline.issued then 1 else 0
  /-- Whatever was taken for sending has ended, but for the frame under way. -/
  accepted : (submissionsOf log).filterMap Submission.accepted?
    = (linksOf log).filterMap ended? ++ program.engine.manager.sending
  /-- The ends of sendings are handled in the order in which they came. -/
  finished : finishedOf log ++ program.queue.filterMap Event.sent? = (linksOf log).filterMap ended?
  lengths : ∀ id audio, ⟨id, audio, .ok ()⟩ ∈ submissionsOf log →
    ∀ length ∈ program.engine.pipeline.length? id, length = audio.length
  underway : Underway log program.engine.manager
  queued : ∀ id, .sendFinished id (.ok ()) ∈ program.queue → ∃ audio, Delivered log id audio
  published : ∀ event length, (event, length) ∈ publicationsOf log → ∃ id audio,
    event = .sendFinished id (.ok ()) ∧ audio.length = length ∧ Delivered log id audio

theorem traced_new (policy : Concurrency) : Traced { engine := { pipeline := { policy } } } [] := by
  refine ⟨fun id => ?_, rfl, rfl, ?_, ?_, ?_, ?_⟩
  · have none_issued : ¬(0 < id ∧ id ≤ 0) := by omega
    exact (if_neg none_issued).symm
  · simp [submissionsOf]
  · simp [Underway, Manager.outgoing, Manager.session?]
  · simp
  · simp [publicationsOf]

/-! What follows from the effects of an event on the queue. -/

theorem ready_posted (effects : Array EngineEffect) :
    (effects.toList.filterMap EngineEffect.posted?).filterMap Event.ready? = [] := by
  refine List.filterMap_eq_nil_iff.mpr fun event posted => ?_
  obtain ⟨effect, -, posts⟩ := List.mem_filterMap.mp posted
  unfold EngineEffect.posted? at posts
  split at posts
  · obtain rfl := Option.some.inj posts
    rfl
  · cases posts

theorem sent_posted (effects : Array EngineEffect) :
    (effects.toList.filterMap EngineEffect.posted?).filterMap Event.sent?
      = (linksIn effects).filterMap ended? := by
  have same : ∀ effect : EngineEffect, effect.posted?.bind Event.sent? = effect.ended? := by
    intro effect
    cases effect with
    | link effect => cases effect <;> rfl
    | pipeline => rfl
  rw [← EngineEffect.endedIn_links, List.filterMap_filterMap]
  simp only [same]
  rfl

theorem completed_of_posted {effects : Array EngineEffect} {id : RequestId} {result : SendResult}
    (posted : .sendFinished id result ∈ effects.toList.filterMap EngineEffect.posted?) :
    .completed id result ∈ linksIn effects := by
  obtain ⟨effect, member, posts⟩ := List.mem_filterMap.mp posted
  unfold EngineEffect.posted? at posts
  split at posts
  · obtain ⟨rfl, rfl⟩ := Event.sendFinished.inj (Option.some.inj posts)
    exact List.mem_filterMap.mpr ⟨_, member, rfl⟩
  · cases posts

namespace Traced

variable {event : Event} {later : List Event} (traced : program.Traced log)

include traced

theorem readied_once (id : RequestId) : (readiedOf log).count id ≤ 1 := by
  have counted := traced.readied id
  split at counted <;> omega

theorem readied_nodup : (readiedOf log).Nodup := List.nodup_iff_count.mpr traced.readied_once

theorem known_of_readied {id : Nat} (member : id ∈ readiedOf log) :
    id ≤ program.engine.pipeline.issued ∧ ∀ event ∈ program.queue, event.ready? ≠ some id := by
  have counted := traced.readied id
  have ended := List.count_pos_iff.mpr member
  split at counted
  · next issued =>
    refine ⟨issued.2, fun event queued about => ?_⟩
    have queued : id ∈ program.queue.filterMap Event.ready? :=
      List.mem_filterMap.mpr ⟨event, queued, about⟩
    have again := List.count_pos_iff.mpr queued
    omega
  · omega

variable (first : program.queue = event :: later)

include first

theorem readied_take (step : EngineStep) {begun ended : List RequestId} (same : step.event = event)
    (turnover : program.engine.Turnover step.after event.request? begun ended) (id : Nat) :
    (program.works ++ begun).count id
      + ((later ++ step.effects.toList.filterMap EngineEffect.posted?).filterMap Event.ready?).count id
      + (readiedOf (log ++ [step])).count id
      = if 0 < id ∧ id ≤ step.after.pipeline.issued then 1 else 0 := by
  have counted := traced.readied id
  obtain ⟨count, rfl, issued⟩ := turnover.begun_range
  -- The event goes from the queue to the log, and the works that begin are numbered on.
  have moved : (program.queue.filterMap Event.ready?).count id
      = event.ready?.toList.count id + (later.filterMap Event.ready?).count id := by
    rw [first]
    cases ready : event.ready? <;> simp [ready, List.count_cons, Nat.add_comm]
  rw [EngineStep.readiedOf_snoc, List.filterMap_append, ready_posted, issued, same]
  simp only [List.count_append, List.append_nil, List.count_range_1']
  split at counted <;> split <;> split <;> omega

theorem finished_take (step : EngineStep) (same : step.event = event) :
    finishedOf (log ++ [step])
        ++ (later ++ step.effects.toList.filterMap EngineEffect.posted?).filterMap Event.sent?
      = (linksOf (log ++ [step])).filterMap ended? := by
  have finished := traced.finished
  have moved : program.queue.filterMap Event.sent?
      = event.sent?.toList ++ later.filterMap Event.sent? := by
    rw [first]
    cases sent : event.sent? <;> simp [sent]
  rw [EngineStep.finishedOf_snoc, EngineStep.linksOf_snoc, List.filterMap_append, sent_posted, same,
    List.filterMap_append, ← finished, moved]
  simp [EngineStep.links]

omit first in
theorem accepted_take (step : EngineStep) (same : step.before = program.engine)
    (moves : FrameMove step.before.manager step.after.manager step.submission? step.links) :
    (submissionsOf (log ++ [step])).filterMap Submission.accepted?
      = (linksOf (log ++ [step])).filterMap ended? ++ step.after.manager.sending := by
  have now : step.submission?.toList.filterMap Submission.accepted?
      = (step.submission?.bind Submission.accepted?).toList := by
    cases submits : step.submission? with
    | none => rfl
    | some submission => cases accepted : submission.accepted? <;> simp [accepted]
  have moved := moves.sending
  rw [EngineStep.submissionsOf_snoc, List.filterMap_append, traced.accepted, now,
    EngineStep.linksOf_snoc, List.filterMap_append, ← same, List.append_assoc, moved,
    List.append_assoc]

theorem lengths_take (logged : Logged ω settings program log) (world : ω) {id : RequestId}
    {audio : Bytes} (submits : ⟨id, audio, .ok ()⟩
      ∈ submissionsOf (log ++ [program.engine.step settings event world])) :
    ∀ length ∈ (program.engine.step settings event world).after.pipeline.length? id,
      length = audio.length := by
  intro length noted
  rw [EngineStep.submissionsOf_snoc] at submits
  rcases List.mem_append.mp submits with earlier | now
  · obtain ⟨step, member, submission⟩ := List.mem_filterMap.mp earlier
    have ended : id ∈ readiedOf log :=
      List.mem_filterMap.mpr ⟨step, member, logged.ready_of_submission member submission⟩
    -- The work on that request has ended, so the event is not the end of it.
    obtain ⟨issued, apart⟩ := traced.known_of_readied ended
    have reports := EngineTurn.reports_handle program.engine world settings event
    have kept := reports.lengths id issued (apart event (by simp [first])) length noted
    exact traced.lengths id audio earlier length kept
  · have submission := Option.mem_toList.mp now
    exact EngineTurn.length?_submitted submission settings length noted

theorem published_take (world : ω) {told : Event} {length : Nat}
    (tells : (told, length) ∈ publicationsOf (log ++ [program.engine.step settings event world])) :
    ∃ id audio, told = .sendFinished id (.ok ()) ∧ audio.length = length ∧
      Delivered (log ++ [program.engine.step settings event world]) id audio := by
  rw [EngineStep.publicationsOf_snoc] at tells
  rcases List.mem_append.mp tells with earlier | now
  · obtain ⟨id, audio, about, noted, delivered⟩ := traced.published told length earlier
    exact ⟨id, audio, about, noted, delivered.snoc _⟩
  · obtain ⟨noted, sent, same⟩ := List.mem_map.mp now
    obtain ⟨rfl, rfl⟩ := Prod.mk.inj same
    have reports := EngineTurn.reports_handle program.engine world settings event
    obtain ⟨id, about, known⟩ := Engine.mem_published.mp (reports.sent ▸ sent)
    -- The end of the sending was on the queue, so the audio was delivered by then.
    have queued : .sendFinished id (.ok ()) ∈ program.queue := by
      rw [first, ← about]
      exact List.mem_cons_self
    obtain ⟨audio, delivered⟩ := traced.queued id queued
    have length := traced.lengths id audio delivered.submission noted known
    exact ⟨id, audio, about, length.symm, delivered.snoc _⟩

theorem take (logged : Logged ω settings program log) (world : ω) :
    Traced (take { program with queue := later } settings event world)
      (log ++ [program.engine.step settings event world]) := by
  let step := program.engine.step settings event world
  have moves : FrameMove step.before.manager step.after.manager step.submission? step.links :=
    EngineTurn.moves_handle settings event logged.unfinished
  have turns : EngineTurn.Turns program.engine event.request?
      (EngineTurn.handle { engine := program.engine, world } settings event).2 :=
    EngineTurn.turns_handle settings event logged.unfinished
  obtain ⟨underway, delivered⟩ := traced.underway.moved moves
  exact {
    readied := traced.readied_take first step rfl turns.1
    accepted := traced.accepted_take step rfl moves
    finished := traced.finished_take first step rfl
    lengths := fun id audio submits => traced.lengths_take first logged world submits
    underway
    queued := by
      intro id member
      rcases List.mem_append.mp member with waiting | posted
      · have queued : .sendFinished id (.ok ()) ∈ program.queue := by
          rw [first]
          exact List.mem_cons_of_mem _ waiting
        obtain ⟨audio, earlier⟩ := traced.queued id queued
        exact ⟨audio, earlier.snoc step⟩
      · exact delivered id (completed_of_posted posted)
    published := fun told length tells => traced.published_take first world tells }

omit first in
theorem queue {event : Event} (unsent : event.sent? = none) {works : List RequestId}
    (readied : ∀ id : RequestId, works.count id + event.ready?.toList.count id = program.works.count id) :
    Traced { program with queue := program.queue ++ [event], works } log := by
  refine ⟨fun id => ?_, traced.accepted, ?_, traced.lengths, traced.underway, ?_, traced.published⟩
  · rw [← traced.readied id, ← readied id]
    cases ready : event.ready? <;>
      simp [List.filterMap_append, ready, Nat.add_assoc, Nat.add_comm, Nat.add_left_comm]
  · simpa [List.filterMap_append, unsent] using traced.finished
  · intro id member
    rcases List.mem_append.mp member with waiting | now
    · exact traced.queued id waiting
    · rw [← List.mem_singleton.mp now] at unsent
      cases unsent

end Traced

theorem Logged.traced (logged : Logged ω settings program log) : program.Traced log := by
  induction logged with
  | new policy => exact traced_new policy
  | take world logged first _ ih => exact ih.take first logged world
  | @answer program log id result _ working ih =>
    refine ih.queue rfl fun other => ?_
    have some_work := List.count_pos_iff.mpr working
    by_cases same : id = other
    · subst same
      simp [Event.ready?]
      omega
    · simp [Event.ready?, same, Ne.symm same]
  | @post program log event _ unasked ih =>
    have silent : event.sent? = none ∧ event.ready? = none := by
      cases event <;> first | exact ⟨rfl, rfl⟩ | cases unasked
    exact ih.queue silent.1 fun id => by simp [silent.2]

/-! ### What is published -/

theorem eq_of_filterMap_nodup {α β : Type} {give : α → Option β} {list : List α}
    (nodup : (list.filterMap give).Nodup) {first second : α} (one : first ∈ list) (other : second ∈ list)
    {value : β} (gives : give first = some value) (gives' : give second = some value) :
    first = second := by
  rw [List.Nodup, List.pairwise_filterMap] at nodup
  have symmetric : Std.Symm fun first second : α =>
      ∀ value, give first = some value → ∀ value', give second = some value' → value ≠ value' :=
    ⟨fun _ _ apart value gives value' gives' => (apart value' gives' value gives).symm⟩
  by_contra apart
  exact nodup.forall one other apart value gives value gives' rfl

/-- A request whose audio is not delivered, or not yet: its lease was taken back before its work ended, or
its audio was not taken for sending, or the sending failed, or part of the frame is still left. -/
inductive Undelivered (program : Program) (log : List EngineStep) (id : RequestId) : Prop where
  | discarded {step : EngineStep} {result : Except ServiceError Bytes} {request : Request} :
      step ∈ log → step.event = .audioReady id result →
      step.before.pipeline.request? id = some request → request.revoked = true →
      Undelivered program log id
  | refused {audio : Bytes} {refusal : SendError} :
      ⟨id, audio, .error refusal⟩ ∈ submissionsOf log → Undelivered program log id
  | failed {error : ChannelError} :
      .completed id (.error error) ∈ linksOf log → Undelivered program log id
  | underway : id ∈ program.engine.manager.sending → Undelivered program log id

namespace Logged

variable (logged : Logged ω settings program log)

include logged

theorem tags_nodup : ((submissionsOf log).map Submission.tag).Nodup := by
  -- Audio is submitted when the work on its request ends, and that happens once.
  have once := logged.traced.readied_nodup
  rw [submissionsOf, List.map_filterMap]
  rw [readiedOf, List.Nodup, List.pairwise_filterMap] at once
  rw [List.Nodup, List.pairwise_filterMap]
  refine once.imp_of_mem fun {first second} one other apart tag told tag' told' => ?_
  obtain ⟨submission, submits, rfl⟩ := Option.map_eq_some_iff.mp told
  obtain ⟨submission', submits', rfl⟩ := Option.map_eq_some_iff.mp told'
  exact apart _ (logged.ready_of_submission one submits) _ (logged.ready_of_submission other submits')

theorem ended_nodup : ((linksOf log).filterMap ended? ++ program.engine.manager.sending).Nodup := by
  have tags := logged.tags_nodup
  rw [← logged.traced.accepted, List.Nodup, List.pairwise_filterMap]
  rw [List.Nodup, List.pairwise_map] at tags
  refine tags.imp fun apart tag taken tag' taken' => ?_
  rw [← Submission.accepted?_tag taken, ← Submission.accepted?_tag taken']
  exact apart

theorem submitted_once {id : RequestId} {audio : Bytes} {answer : Except SendError Unit}
    (submits : ⟨id, audio, answer⟩ ∈ submissionsOf log) :
    (submissionsOf log).filter (·.tag = id) = [⟨id, audio, answer⟩] := by
  have tags := logged.tags_nodup
  obtain ⟨earlier, later, split⟩ := List.append_of_mem submits
  rw [split, List.map_append, List.map_cons] at tags
  obtain ⟨-, others, apart⟩ := List.nodup_append.mp tags
  have before : earlier.filter (·.tag = id) = [] := by
    refine List.filter_eq_nil_iff.mpr fun submission member same => ?_
    exact apart _ (List.mem_map_of_mem member) _ List.mem_cons_self (of_decide_eq_true same)
  have after : later.filter (·.tag = id) = [] := by
    refine List.filter_eq_nil_iff.mpr fun submission member same => ?_
    have here := List.mem_map_of_mem (f := Submission.tag) member
    rw [of_decide_eq_true same] at here
    exact (List.nodup_cons.mp others).1 here
  rw [split, List.filter_append, List.filter_cons, before, after]
  simp

theorem published_once : ((publicationsOf log).filterMap (·.1.sent?)).Nodup := by
  have finished : (finishedOf log).Nodup := by
    have ended := (List.nodup_append.mp logged.ended_nodup).1
    rw [← logged.traced.finished] at ended
    exact (List.nodup_append.mp ended).1
  -- A step publishes for the request of its own event at most, and no event comes twice.
  have single : ∀ step ∈ log,
      (step.publications.filterMap (·.1.sent?)).Sublist step.event.sent?.toList := by
    intro step member
    obtain ⟨engine, event, world, rfl⟩ := logged.steps step member
    have published := (EngineTurn.reports_handle engine world settings event).sent
    rw [EngineStep.publications, Engine.step, published]
    unfold Engine.published
    split
    · next id => cases engine.pipeline.length? id <;> simp [Event.sent?]
    · exact List.nil_sublist _
  refine List.Nodup.sublist ?_ finished
  clear finished logged
  induction log with
  | nil => exact List.Sublist.refl _
  | cons step log ih =>
    have first := single step List.mem_cons_self
    have later := ih fun step member => single step (List.mem_cons_of_mem _ member)
    have split : finishedOf (step :: log) = step.event.sent?.toList ++ finishedOf log := by
      cases sent : step.event.sent? <;> simp [finishedOf, sent]
    rw [publicationsOf, List.flatMap_cons, List.filterMap_append, split]
    exact first.append later

theorem gave_submitted {id : RequestId} {audio : Bytes} {answer : Except SendError Unit}
    (submits : ⟨id, audio, answer⟩ ∈ submissionsOf log) {step : EngineStep} (member : step ∈ log)
    {result : Except ServiceError Bytes} (about : step.event = .audioReady id result) :
    result = .ok audio ∧ step.submission? = some ⟨id, audio, answer⟩ := by
  obtain ⟨submitting, among, submission⟩ := List.mem_filterMap.mp submits
  have ends : step.event.ready? = some id := by
    rw [about]
    rfl
  obtain rfl := eq_of_filterMap_nodup logged.traced.readied_nodup among member
    (logged.ready_of_submission among submission) ends
  have given := (logged.readied among submission).symm.trans about
  exact ⟨(Event.audioReady.inj given).2.symm, submission⟩

theorem published_of_finished {step : EngineStep} (member : step ∈ log) {id : RequestId}
    (ends : step.event = .sendFinished id (.ok ())) :
    ∃ bytes, step.publications = [(step.event, bytes)] := by
  obtain ⟨request, known⟩ := logged.known step member id (by rw [ends]; rfl)
  obtain ⟨engine, event, world, rfl⟩ := logged.steps step member
  obtain rfl : event = .sendFinished id (.ok ()) := ends
  have published := (EngineTurn.reports_handle engine world settings (.sendFinished id (.ok ()))).sent
  have noted : engine.pipeline.length? id = some request.audioLength :=
    Option.map_eq_some_iff.mpr ⟨request, known, rfl⟩
  refine ⟨request.audioLength, ?_⟩
  simp [EngineStep.publications, Engine.step, published, Engine.published, noted]

theorem not_delivered {id : RequestId} (undelivered : Undelivered program log id) (audio : Bytes) :
    ¬Delivered log id audio := by
  intro delivered
  have ended := logged.ended_nodup
  have completed := delivered.completed
  have submission := delivered.submission
  cases undelivered with
  | @discarded step result request member about known revoked =>
    -- The step that discarded the audio would be the one that submitted it.
    have submits := (logged.gave_submitted submission member about).2
    obtain ⟨engine, event, world, rfl⟩ := logged.steps step member
    obtain rfl : event = .audioReady id result := about
    have nothing : EngineTurn.submission? { engine, world } (.audioReady id result) = none :=
      EngineTurn.submission?_revoked known revoked
    exact absurd (nothing.symm.trans submits) (by simp)
  | @refused audio' refusal refused =>
    have twice := (logged.submitted_once submission).symm.trans (logged.submitted_once refused)
    simp at twice
  | @failed error failed =>
    have same := eq_of_filterMap_nodup (List.nodup_append.mp ended).1 completed failed rfl rfl
    simp at same
  | underway sending =>
    exact (List.nodup_append.mp ended).2.2 id (LinkEffect.mem_ended completed) id sending rfl

end Logged

/-- Whatever is asked and reported in whatever order, and whatever the sinks take, a length is published
only when the end of the sending of some request is handled. The audio that the work on this request gave
has this length, it was submitted once, and the sink of the session that it was submitted to took its
whole frame before the sending ended. No request is published twice, and none that was discarded or
refused, whose sending failed, or whose frame is not all taken; but every success that is handled is
published. -/
theorem audioSent_truthful (logged : Logged ω settings program log) :
    (∀ event bytes, (event, bytes) ∈ publicationsOf log → ∃ id audio,
      event = .sendFinished id (.ok ()) ∧ audio.length = bytes ∧
      (∀ step ∈ log, ∀ result, step.event = .audioReady id result → result = .ok audio) ∧
      (submissionsOf log).filter (·.tag = id) = [⟨id, audio, .ok ()⟩] ∧ Delivered log id audio) ∧
    ((publicationsOf log).filterMap (·.1.sent?)).Nodup ∧
    (∀ id, Undelivered program log id →
      ∀ event bytes, (event, bytes) ∈ publicationsOf log → event.sent? ≠ some id) ∧
    (∀ step ∈ log, ∀ id, step.event = .sendFinished id (.ok ()) →
      ∃ bytes, step.publications = [(step.event, bytes)]) := by
  refine ⟨?_, logged.published_once, ?_, fun step member id => logged.published_of_finished member⟩
  · intro event bytes told
    obtain ⟨id, audio, about, length, delivered⟩ := logged.traced.published event bytes told
    exact ⟨id, audio, about, length,
      fun step member result ends => (logged.gave_submitted delivered.submission member ends).1,
      logged.submitted_once delivered.submission, delivered⟩
  · intro id undelivered event bytes told about
    obtain ⟨other, audio, rfl, -, delivered⟩ := logged.traced.published event bytes told
    obtain rfl : other = id := Option.some.inj about
    exact logged.not_delivered undelivered audio delivered

/-- The audio of one request waits for room while that of another is refused, and then is sent. -/
theorem audioSent_truthful_waiting : ∃ program log, Logged Bench.Rig {} program log ∧
    (publicationsOf log).map (fun told => (told.1.sent?, told.2)) = [(some 1, 2)] ∧
    (submissionsOf log).map (fun made => (made.payload, made.accepted?))
      = [([5, 6], some 1), ([9], none)] ∧
    Delivered log 1 [5, 6] := by
  let glasses : PeripheralId := ⟨"glasses"⟩
  let rig : Bench.Rig := { power := .on, saved := some glasses, wires := #[.scripted {}] }
  let images : Bench.Rig := { wires := #[.scripted { queue := [1, 0, 0, 0, 7, 1, 0, 0, 0, 8] }] }
  have sent : ∃ program log, Logged Bench.Rig {} program log ∧
      (publicationsOf log).map (fun told => (told.1.sent?, told.2)) = [(some 1, 2)] ∧
      (submissionsOf log).map (fun made => (made.payload, made.accepted?))
        = [([5, 6], some 1), ([9], none)] := by
    have new : Logged Bench.Rig {} _ _ := .new .concurrent
    have on := new.hear rfl (.radio (.power .on)) rfl (by simp) rig
    have linked := on.hear (by decide +kernel) (.radio (.connected glasses)) rfl (by simp) rig
    have live := linked.hear (by decide +kernel) (.radio (.channelOpened glasses (.ok ⟨7, 0⟩))) rfl
      (by simp) rig
    have read := live.hear (by decide +kernel) (.stream ⟨7, .inbound, .opened⟩) rfl (by simp) rig
    have both := read.hear (by decide +kernel) (.stream ⟨7, .outbound, .opened⟩) rfl (by simp) rig
    have begun := both.hear (by decide +kernel) (.stream ⟨7, .inbound, .bytesAvailable⟩) rfl
      (by simp) images
    have answered := begun.answer (.ok [5, 6]) (by decide +kernel : 1 ∈ _)
    have waiting := answered.take rig (alone _ (by decide +kernel) _) (by simp)
    have again := waiting.answer (.ok [9]) (by decide +kernel : 2 ∈ _)
    have refused := again.take rig (alone _ (by decide +kernel) _) (by simp)
    have taken := refused.hear (by decide +kernel) (.stream ⟨7, .outbound, .spaceAvailable⟩) rfl
      (by simp) rig
    have finished := taken.take rig (alone_succeeded _ 1 (by decide +kernel)) (by simp)
    exact ⟨_, _, finished, by decide +kernel, by decide +kernel⟩
  obtain ⟨program, log, logged, published, submitted⟩ := sent
  refine ⟨program, log, logged, published, submitted, ?_⟩
  obtain ⟨⟨event, bytes⟩, all, told⟩ := List.map_eq_singleton_iff.mp published
  obtain ⟨about, rfl⟩ := Prod.mk.inj told
  obtain ⟨id, audio, rfl, -, -, -, delivered⟩ :=
    (audioSent_truthful logged).1 event 2 (all ▸ List.mem_cons_self)
  obtain rfl : id = 1 := Option.some.inj about
  -- Only one of the two payloads was taken.
  have among : (audio, some 1) ∈ (submissionsOf log).map fun made => (made.payload, made.accepted?) :=
    List.mem_map.mpr ⟨_, delivered.submission, rfl⟩
  obtain rfl : audio = [5, 6] := by simpa [submitted] using among
  exact delivered

end Program

end

end Sightline
