import Sightline.Proofs.Link.Custody
import Sightline.Proofs.Link.Sends

/-! What becomes of a frame on the streams of its session.

`Sends` speaks of the bytes that some sink took, and `Custody` of the streams that were used. Taken
together: while a frame is under way, only the sink of its own session takes bytes, and those are off its
front (`Carries`). `FrameMove` says so of every operation, a submission included. -/

set_option autoImplicit false

namespace Sightline

namespace LinkEffect

def acceptedBy (pair : StreamPair) : LinkEffect → Bytes
  | .stream other call => if other = pair then call.accepted else []
  | _ => []

def acceptedOn (pair : StreamPair) (effects : List LinkEffect) : Bytes :=
  effects.flatMap (acceptedBy pair)

@[simp] theorem acceptedOn_append (pair : StreamPair) (effects more : List LinkEffect) :
    acceptedOn pair (effects ++ more) = acceptedOn pair effects ++ acceptedOn pair more :=
  List.flatMap_append

def ended? : LinkEffect → Option Tag
  | .completed tag _ => some tag
  | _ => none

theorem mem_ended {effects : List LinkEffect} {tag : Tag} {result : SendResult}
    (member : .completed tag result ∈ effects) : tag ∈ effects.filterMap ended? :=
  List.mem_filterMap.mpr ⟨_, member, rfl⟩

theorem not_completed {effects : List LinkEffect} (untold : effects.filterMap ended? = []) (tag : Tag)
    (result : SendResult) : .completed tag result ∉ effects := by
  intro member
  have told := mem_ended member
  simp [untold] at told

theorem toldIn_facts (effects : List LinkEffect) :
    SendFact.toldIn (effects.filterMap fact?) = effects.filterMap ended? := by
  have same : (fun effect : LinkEffect => effect.fact?.bind SendFact.told?) = ended? := by
    funext effect
    cases effect <;> rfl
  rw [SendFact.toldIn, List.filterMap_filterMap, same]

def Only (pair : StreamPair) (effects : List LinkEffect) : Prop :=
  ∀ other call, .stream other call ∈ effects → other = pair

theorem Only.of_subset {pair : StreamPair} {effects part : List LinkEffect} (only : Only pair effects)
    (among : part ⊆ effects) : Only pair part :=
  fun other call member => only other call (among member)

theorem Only.written {pair : StreamPair} {effects : List LinkEffect} (only : Only pair effects) :
    SendFact.written (effects.filterMap fact?) = acceptedOn pair effects := by
  induction effects with
  | nil => rfl
  | cons effect effects ih =>
    have later := ih fun other call member => only other call (List.mem_cons_of_mem _ member)
    have first : (effect.fact?.elim [] SendFact.bytes) = effect.acceptedBy pair := by
      cases effect with
      | stream other call =>
        have same := only other call List.mem_cons_self
        simp [fact?, acceptedBy, same, SendFact.bytes]
      | _ => rfl
    rw [acceptedOn, List.flatMap_cons, ← first]
    cases fact : effect.fact? <;>
      simpa [List.filterMap_cons, fact, SendFact.written, acceptedOn] using later

end LinkEffect

open LinkEffect (acceptedOn ended? Only)

theorem Manager.held?_isSome_of_outgoing {manager : Manager} {outgoing : Outgoing}
    (sending : manager.outgoing = some outgoing) : ∃ pair, manager.held? = some pair := by
  obtain ⟨session, live, -⟩ := Option.bind_eq_some_iff.mp sending
  exact ⟨session.pair, by simp [held?, live]⟩

/-- What becomes of a frame that is sent over a stream pair: it stays under way, and the sink took bytes
off its front; or it ends, and if that is a success then the sink took all that was left of it before. -/
inductive Carries (pair : StreamPair) (outgoing : Outgoing) (manager : Manager)
    (effects : List LinkEffect) : Prop where
  | goesOn {later : Outgoing} : manager.outgoing = some later → manager.held? = some pair →
      later.tag = outgoing.tag → effects.filterMap ended? = [] →
      outgoing.left = acceptedOn pair effects ++ later.left →
      Carries pair outgoing manager effects
  | ends {first last : List LinkEffect} {result : SendResult} : manager.outgoing = none →
      effects = first ++ .completed outgoing.tag result :: last → first.filterMap ended? = [] →
      last.filterMap ended? = [] → (result = .ok () → acceptedOn pair first = outgoing.left) →
      Carries pair outgoing manager effects

theorem Carries.of_chain {pair : StreamPair} {outgoing : Outgoing} {manager : Manager}
    {effects : List LinkEffect} (only : Only pair effects)
    (held : manager.held? = some pair ∨ manager.held? = none)
    (chain : Sends.Chain (some outgoing) manager.outgoing (effects.filterMap LinkEffect.fact?)) :
    Carries pair outgoing manager effects := by
  rcases chain.fate with ⟨later, sending, tag, untold, left⟩ |
    ⟨gone, facts, result, rest, split, before, after, whole⟩
  · rw [LinkEffect.toldIn_facts] at untold
    rw [only.written] at left
    refine .goesOn sending (held.resolve_right fun none => ?_) tag untold left
    obtain ⟨pair, some⟩ := Manager.held?_isSome_of_outgoing sending
    simp [none] at some
  · obtain ⟨first, later, rfl, rfl, tail⟩ := List.filterMap_eq_append_iff.mp split
    obtain ⟨silent, effect, last, rfl, nothing, told, rfl⟩ := List.filterMap_eq_cons_iff.mp tail
    have completed : effect = .completed outgoing.tag result := by
      cases effect <;> simp_all [LinkEffect.fact?]
    subst completed
    -- The effects between the last fact and the telling are no facts.
    have unheard : silent.filterMap LinkEffect.fact? = [] := List.filterMap_eq_nil_iff.mpr nothing
    have facts : (first ++ silent).filterMap LinkEffect.fact? = first.filterMap LinkEffect.fact? := by
      rw [List.filterMap_append, unheard, List.append_nil]
    refine .ends gone (List.append_assoc first silent _).symm ?_ ?_ fun success => ?_
    · rw [← LinkEffect.toldIn_facts, facts]
      exact before
    · rw [← LinkEffect.toldIn_facts]
      exact after
    · have among : Only pair (first ++ silent) := only.of_subset <| by
        rw [← List.append_assoc]
        exact List.subset_append_left _ _
      rw [← among.written, facts]
      exact whole success

namespace LinkTurn

variable {ω : Type} {manager : Manager} {world : ω} {pair : StreamPair} {turn : LinkTurn ω}

theorem Keeps.only (keeps : LinkTurn.Keeps { manager, world } turn)
    (held : manager.held? = some pair) : Only pair turn.effects.toList ∧
      (turn.manager.held? = some pair ∨ turn.manager.held? = none) := by
  obtain ⟨uses, used, custody⟩ := keeps
  rw [LinkEffect.usesIn_empty, List.nil_append] at used
  generalize turn.manager.held? = after at custody ⊢
  replace custody : Custody (some pair) after uses := held ▸ custody
  have own : ∀ use ∈ uses, use.1 = pair := by
    cases custody with
    | kept | released =>
      intro use member
      obtain ⟨call, -, rfl⟩ := List.mem_map.mp member
      rfl
  refine ⟨fun other call done => ?_, ?_⟩
  · have use : (other, call) ∈ LinkEffect.usesIn turn.effects :=
      List.mem_filterMap.mpr ⟨_, done, rfl⟩
    exact own _ (used ▸ use)
  · cases custody with
    | kept => exact .inl rfl
    | released => exact .inr rfl

theorem carries_of_keeps {outgoing : Outgoing} (keeps : LinkTurn.Keeps { manager, world } turn)
    (held : manager.held? = some pair)
    (chain : Sends.Chain (some outgoing) turn.manager.outgoing (LinkEffect.factsIn turn.effects)) :
    Carries pair outgoing turn.manager turn.effects.toList :=
  .of_chain (keeps.only held).1 (keeps.only held).2 chain

theorem held_of_submitted [Streams ω] {payload : Bytes} {tag : Tag}
    (accepted : (submit { manager, world } payload tag).1 = .ok ()) :
    ∃ pair, manager.held? = some pair := by
  unfold submit at accepted
  split at accepted
  · next session live =>
    simp only at live
    exact ⟨session.pair, by simp [Manager.held?, Manager.session?, live]⟩
  · cases accepted

variable [Radio ω] [Streams ω] [IdentityStore ω]

theorem carries_operate (settings : RadioSettings) {operation : LinkOperation}
    (other : ∀ payload tag, operation ≠ .submit payload tag)
    (unfinished : ∀ o ∈ manager.outgoing, o.Unfinished) {outgoing : Outgoing}
    (sending : manager.outgoing = some outgoing) (held : manager.held? = some pair) :
    Carries pair outgoing (operate { manager, world } settings operation).manager
      (operate { manager, world } settings operation).effects.toList := by
  cases given : operation.handed? with
  | none =>
    have sent : LinkTurn.Sent { manager, world } (operate { manager, world } settings operation) :=
      sent_operate unfinished settings other
    obtain ⟨facts, booked, chain⟩ := sent
    refine carries_of_keeps (keeps_operate { manager, world } settings given) held ?_
    rw [booked]
    simpa [sending] using chain
  | some late =>
    -- The streams of a frame that is under way are held, so late ones are closed unused.
    rcases operate_handed { manager, world } settings given with ⟨empty, -⟩ | refused
    · simp [held] at empty
    · rw [refused]
      exact .goesOn sending held rfl rfl
        (by simp [refuse, acceptedOn, LinkEffect.acceptedBy, StreamCall.accepted])

end LinkTurn

structure Submission where
  tag : Tag
  payload : Bytes
  answer : Except SendError Unit

def Submission.accepted? (submission : Submission) : Option Tag :=
  match submission.answer with
  | .ok () => some submission.tag
  | .error _ => none

theorem Submission.accepted?_tag {submission : Submission} {tag : Tag}
    (accepted : submission.accepted? = some tag) : submission.tag = tag := by
  unfold accepted? at accepted
  split at accepted
  · exact Option.some.inj accepted
  · cases accepted

inductive FrameMove (before after : Manager) (submission? : Option Submission)
    (effects : List LinkEffect) : Prop where
  | idle : before.outgoing = none → after.outgoing = none →
      submission?.bind Submission.accepted? = none → effects.filterMap ended? = [] →
      FrameMove before after submission? effects
  | carries {pair : StreamPair} {outgoing : Outgoing} : before.outgoing = some outgoing →
      before.held? = some pair → submission?.bind Submission.accepted? = none →
      Carries pair outgoing after effects → FrameMove before after submission? effects
  | begins {pair : StreamPair} {payload : Bytes} {tag : Tag} : before.outgoing = none →
      before.held? = some pair → submission? = some ⟨tag, payload, .ok ()⟩ →
      Carries pair (Session.begun payload tag) after effects →
      FrameMove before after submission? effects

namespace FrameMove

variable {ω : Type}

theorem still (manager : Manager) {submission? : Option Submission}
    (refused : submission?.bind Submission.accepted? = none) :
    FrameMove manager manager submission? [] := by
  cases sending : manager.outgoing with
  | none => exact .idle sending sending refused rfl
  | some outgoing =>
    obtain ⟨pair, held⟩ := Manager.held?_isSome_of_outgoing sending
    exact .carries sending held refused (.goesOn sending held rfl rfl rfl)

theorem submit [Streams ω] (manager : Manager) (world : ω) (payload : Bytes) (tag : Tag) :
    FrameMove manager (LinkTurn.submit { manager, world } payload tag).2.manager
      (some ⟨tag, payload, (LinkTurn.submit { manager, world } payload tag).1⟩)
      (LinkTurn.submit { manager, world } payload tag).2.effects.toList := by
  rcases LinkTurn.submit_cases manager world payload tag with ⟨answer, idle, sends⟩ | ⟨refusal, refused⟩
  · obtain ⟨pair, held⟩ := LinkTurn.held_of_submitted answer
    have chain := (Sends.Chain.refl _).tail sends
    rw [answer]
    exact .begins idle held rfl
      (LinkTurn.carries_of_keeps (LinkTurn.keeps_submit _ payload tag) held chain)
  · rw [refused]
    exact still manager rfl

theorem operate [Radio ω] [Streams ω] [IdentityStore ω] {manager : Manager} (world : ω)
    (settings : RadioSettings) (unfinished : ∀ o ∈ manager.outgoing, o.Unfinished)
    {operation : LinkOperation}
    (other : ∀ payload tag, operation ≠ .submit payload tag) :
    FrameMove manager (LinkTurn.operate { manager, world } settings operation).manager none
      (LinkTurn.operate { manager, world } settings operation).effects.toList := by
  -- With no frame under way no operation but a submit can start one.
  cases sending : manager.outgoing with
  | none =>
    have sent : LinkTurn.Sent { manager, world }
        (LinkTurn.operate { manager, world } settings operation) :=
      LinkTurn.sent_operate unfinished settings other
    obtain ⟨facts, booked, chain⟩ := sent
    simp only [sending, LinkEffect.factsIn_empty, List.nil_append] at booked chain
    obtain ⟨gone, untold⟩ := chain.idle
    refine .idle sending gone rfl ?_
    rw [← booked] at untold
    rw [← LinkEffect.toldIn_facts]
    exact untold
  | some outgoing =>
    obtain ⟨pair, held⟩ := Manager.held?_isSome_of_outgoing sending
    exact .carries sending held rfl
      (LinkTurn.carries_operate settings other unfinished sending held)

end FrameMove

end Sightline
