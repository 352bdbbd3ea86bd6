import Sightline.Proofs.Channel.Sends
import Sightline.Proofs.Link.Steps

/-! What the operations of a connection do to the frame under way in its session.

Most small steps leave it alone, a notification may let it go on, and a session that is torn down gives
it up. `LinkTurn.Sent` says so of a whole operation. -/

set_option autoImplicit false

namespace Sightline

namespace LinkEffect

def fact? : LinkEffect → Option SendFact
  | .stream _ use => some (.wrote use.accepted)
  | .completed tag result => some (.told tag result)
  | _ => none

def factsIn (effects : Array LinkEffect) : List SendFact := effects.toList.filterMap fact?

@[simp] theorem factsIn_empty : factsIn #[] = [] := rfl

@[simp] theorem factsIn_push (effects : Array LinkEffect) (effect : LinkEffect) :
    factsIn (effects.push effect) = factsIn effects ++ effect.fact?.toList := by
  cases same : effect.fact? <;> simp [factsIn, same]

@[simp] theorem factsIn_append (effects more : Array LinkEffect) :
    factsIn (effects ++ more) = factsIn effects ++ factsIn more := by
  simp [factsIn]

@[simp] theorem factsIn_notes (pair : StreamPair) (notes : Array Session.Note) :
    factsIn (notes.map (ofNote pair)) = Session.factsOf notes := by
  have same : fact? ∘ ofNote pair = Session.Note.fact? := by
    funext note
    cases note <;> rfl
  rw [factsIn, Session.factsOf, Array.toList_map, List.filterMap_map, same]

end LinkEffect

def Manager.outgoing (manager : Manager) : Option Outgoing :=
  manager.session?.bind Session.outgoing

theorem Manager.outgoing_of_absent {manager : Manager}
    (absent : ∀ session, manager.slot = .live session → session.outgoing = none) :
    manager.outgoing = none := by
  unfold Manager.outgoing Manager.session?
  split
  · next session live => exact absent session live
  · rfl

namespace LinkTurn

open LinkEffect (factsIn)

variable {ω : Type}

def Sent (start turn : LinkTurn ω) : Prop :=
  ∃ facts, factsIn turn.effects = factsIn start.effects ++ facts ∧
    Sends.Chain start.manager.outgoing turn.manager.outgoing facts

theorem Sent.refl (turn : LinkTurn ω) : turn.Sent turn := ⟨[], by simp, .refl _⟩

section

variable {start turn : LinkTurn ω} (sent : start.Sent turn)

include sent

theorem Sent.silent {next : LinkTurn ω} (same : next.manager.outgoing = turn.manager.outgoing)
    (facts : factsIn next.effects = factsIn turn.effects) : start.Sent next := by
  unfold Sent
  rw [same, facts]
  exact sent

theorem Sent.sends {next : LinkTurn ω} (more : List SendFact)
    (facts : factsIn next.effects = factsIn turn.effects ++ more)
    (sends : Sends turn.manager.outgoing next.manager.outgoing more) : start.Sent next := by
  obtain ⟨earlier, same, chain⟩ := sent
  exact ⟨earlier ++ more, by rw [facts, same, List.append_assoc], chain.tail sends⟩

theorem Sent.unfinished (unfinished : ∀ o ∈ start.manager.outgoing, o.Unfinished) :
    ∀ o ∈ turn.manager.outgoing, o.Unfinished := by
  obtain ⟨facts, -, chain⟩ := sent
  exact chain.unfinished unfinished

variable [Streams ω]

theorem Sent.teardown (unfinished : ∀ o ∈ turn.manager.outgoing, o.Unfinished) :
    start.Sent turn.teardown := by
  cases slot : turn.manager.slot with
  | vacant | opening id =>
    refine sent.silent ?_ ?_
    · simp [Manager.outgoing, Manager.session?, slot]
    · simp [LinkTurn.teardown, slot, setSlot]
  | live session =>
    have here : turn.manager.outgoing = session.outgoing := by
      simp [Manager.outgoing, Manager.session?, slot]
    have gone : turn.teardown.manager.outgoing = none := by
      simp [Manager.outgoing, Manager.session?]
    refine sent.sends (Session.factsOf (session.close turn.world).2) ?_ ?_
    · simp [LinkTurn.teardown, slot]
    · rw [here, gone]
      exact session.close_sends turn.world (here ▸ unfinished)

theorem Sent.refuse (pair : StreamPair) : start.Sent (turn.refuse pair) := by
  have quiet : SendFact.Quiet [.wrote [], .wrote []] := by simp [SendFact.Quiet]
  refine sent.sends _ ?_ (.quiet quiet)
  simp [LinkTurn.refuse, factsIn, LinkEffect.fact?, StreamCall.accepted]

theorem Sent.handle {session : Session} (event : StreamEvent)
    (unfinished : ∀ o ∈ turn.manager.outgoing, o.Unfinished)
    (live : turn.manager.slot = .live session) :
    start.Sent (turn.absorb session.pair (session.handle event turn.world).2) := by
  have here : turn.manager.outgoing = session.outgoing := by
    simp [Manager.outgoing, Manager.session?, live]
  refine sent.sends (Session.factsOf (session.handle event turn.world).2.notes) ?_ ?_
  · simp [absorb]
  · rw [here]
    exact session.handle_sends event turn.world (here ▸ unfinished)

end

theorem submit_cases [Streams ω] (manager : Manager) (world : ω) (payload : Bytes) (tag : Tag) :
    ((submit { manager, world } payload tag).1 = .ok () ∧ manager.outgoing = none ∧
        Sends (some (Session.begun payload tag))
          (submit { manager, world } payload tag).2.manager.outgoing
          (factsIn (submit { manager, world } payload tag).2.effects)) ∨
      ∃ refusal, submit { manager, world } payload tag = (.error refusal, { manager, world }) := by
  unfold submit
  split
  · next session live =>
    simp only at live
    split
    · rcases session.submit_cases payload tag world with
        ⟨answer, idle, -, turn⟩ | ⟨refusal, -, refused⟩
      · refine .inl ⟨answer, ?_, ?_⟩
        · simp [Manager.outgoing, Manager.session?, live, idle]
        · have pumped := Session.pump_sends
            { session with outgoing := some (Session.begun payload tag) } world
            (by rintro _ ⟨rfl⟩; exact Session.begun_unfinished payload tag)
          rw [← turn] at pumped
          simpa [absorb, Manager.outgoing, Manager.session?] using pumped
      · refine .inr ⟨refusal, ?_⟩
        simp [refused, absorb, ← live]
    · exact .inr ⟨.noSession, rfl⟩
  · exact .inr ⟨.noSession, rfl⟩

theorem sent_connect [Radio ω] (turn : LinkTurn ω) (settings : RadioSettings) :
    turn.Sent (turn.connect settings).2 := by
  -- A wish to connect starts a scan, which no small step does.
  rcases turn.connect_cases settings with ⟨accepted, -⟩ | ⟨refusal, refused⟩
  · rw [accepted]
    refine (Sent.refl turn).silent rfl ?_
    simp [startScan, publish, LinkTurn.request, nextAttempt, LinkEffect.fact?]
  · rw [refused]
    exact .refl turn

variable [Radio ω] [Streams ω] [IdentityStore ω] {given : Option StreamPair}
  {start turn : LinkTurn ω}

theorem sent_of_steps (unfinished : ∀ o ∈ start.manager.outgoing, o.Unfinished)
    (steps : Steps given start turn) : start.Sent turn := by
  induction steps with
  | refl => exact .refl start
  | publish state _ _ ih => exact ih.silent rfl (by simp [publish, LinkEffect.fact?])
  | request request _ ih => exact ih.silent rfl (by simp [LinkTurn.request, LinkEffect.fact?])
  | saveIdentity id _ ih => exact ih.silent rfl (by simp [saveIdentity, LinkEffect.fact?])
  | clearIdentity _ ih => exact ih.silent rfl (by simp [clearIdentity, LinkEffect.fact?])
  | notes _ _ slot ih => exact ih.silent (by simp [Manager.outgoing, Manager.session?, slot]) rfl
  | setSlot _ absent later ih =>
    -- Neither the slot before nor the one after holds a session.
    refine ih.silent ?_ rfl
    rw [Manager.outgoing_of_absent fun session live => absurd live (absent session)]
    exact Manager.outgoing_of_absent fun session live => absurd live (later session)
  | adopt _ absent _ unsending ih =>
    refine ih.silent ?_ rfl
    rw [Manager.outgoing_of_absent fun session live => absurd live (absent session)]
    exact Manager.outgoing_of_absent fun session live => Slot.live.inj live ▸ unsending
  | teardown _ ih => exact ih.teardown (ih.unfinished unfinished)
  | @refuse _ pair _ _ ih => exact ih.refuse pair
  | handle event _ live ih => exact ih.handle event (ih.unfinished unfinished) live

theorem sent_operate (unfinished : ∀ o ∈ turn.manager.outgoing, o.Unfinished)
    (settings : RadioSettings) {operation : LinkOperation}
    (other : ∀ payload tag, operation ≠ .submit payload tag) :
    turn.Sent (turn.operate settings operation) := by
  by_cases wished : operation = .connect
  · subst wished
    exact turn.sent_connect settings
  · exact sent_of_steps unfinished (turn.steps_operate settings wished other)

end LinkTurn

end Sightline
