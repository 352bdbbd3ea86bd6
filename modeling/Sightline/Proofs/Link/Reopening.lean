import Sightline.Proofs.Link.Answers
import Sightline.Proofs.Link.Final

/-! How often a channel is opened again.

A channel that dies on a live link is opened again, and the manager counts. The count begins anew when a
link comes up, when a channel is open both ways, and when the radio is lost; between two such moments it
counts every channel that is asked for (`Manager.Stretch`), so that there are at most `maxReopens`, and
after as many the next channel that dies takes its link down (`reopens_bounded`). -/

set_option autoImplicit false

namespace Sightline

def RadioRequest.channelsAsked (asked : List RadioRequest) : Nat :=
  (asked.filterMap channel?).length

open RadioRequest (channelsAsked)

@[simp] theorem RadioRequest.channelsAsked_append (asked more : List RadioRequest) :
    channelsAsked (asked ++ more) = channelsAsked asked + channelsAsked more := by
  simp [channelsAsked]

namespace Manager

section

variable {ω : Type} [Radio ω] [IdentityStore ω]

/-- The radio coming on finds a link up: that of the peripheral kept over a restart, or else that of the
remembered one. -/
def adopts (manager : Manager) (settings : RadioSettings) (world : ω) : Bool :=
  (manager.state = .idle || manager.state = .disconnected) &&
  match manager.wasRestored, manager.restored with
  | true, some kept => kept.link = .connected
  | _, _ =>
    match IdentityStore.load world with
    | .ok (some id) => id ∈ Radio.connected world settings.service
    | _ => false

/-- The link comes up, or the channel is open both ways from now on, or the radio is lost. -/
def renews [Streams ω] (manager : Manager) (settings : RadioSettings) (world : ω) :
    LinkOperation → Bool
  | .report (.connected id) => manager.tracked = some id
  | .report (.power .on) => manager.adopts settings world
  | .report (.power _) => true
  | .streamEvent event => manager.session?.any fun session =>
    !session.isOpen && (session.handle event world).2.session.isOpen
  | _ => false

end

/-- Part of a run in which no link comes up, no channel comes to be open both ways and the radio is not
lost: where it ends, and all that was asked of the radio. -/
inductive Stretch (ω : Type) [Radio ω] [Streams ω] [IdentityStore ω] (settings : RadioSettings)
    (start : Manager) : List RadioRequest → Manager → Prop where
  | start : Stretch ω settings start [] start
  | step {asked : List RadioRequest} {manager : Manager} (operation : LinkOperation) (world : ω) :
      Stretch ω settings start asked manager → manager.renews settings world operation = false →
      Stretch ω settings start (asked ++ (manager.step settings world operation).asked)
        (manager.step settings world operation).after

end Manager

/-! ### What one operation does to the count -/

namespace LinkTurn

variable {ω : Type} [Radio ω]

def Counts (start turn : LinkTurn ω) : Prop :=
  ∃ asked, turn.requests = start.requests ++ asked ∧
    turn.manager.reopens = start.manager.reopens + channelsAsked asked

namespace Counts

variable {start turn next : LinkTurn ω}

omit [Radio ω] in
theorem refl (turn : LinkTurn ω) : turn.Counts turn := ⟨[], by simp, by simp [channelsAsked]⟩

omit [Radio ω] in
theorem kept (counts : start.Counts turn) (reopens : next.manager.reopens = turn.manager.reopens)
    (requests : next.requests = turn.requests) : start.Counts next := by
  obtain ⟨asked, same, count⟩ := counts
  exact ⟨asked, requests.trans same, reopens.trans count⟩

theorem request (counts : start.Counts turn) {request : RadioRequest}
    (other : request.channel? = none) : start.Counts (turn.request request) := by
  obtain ⟨asked, same, count⟩ := counts
  exact ⟨asked ++ [request], by simp [same], by simp [count, channelsAsked, other]⟩

end Counts

variable [Streams ω]

/-- A channel that dies on a live link is opened again up to the limit, and then takes the link down. -/
theorem channelLost_up (turn : LinkTurn ω) (settings : RadioSettings) {id : PeripheralId}
    (tracked : turn.manager.tracked = some id)
    (up : Radio.link turn.teardown.world id = .connected) :
    turn.channelLost settings = if turn.manager.reopens < maxReopens then
        ((turn.teardown.setReopens (turn.manager.reopens + 1)).publish .connecting).openChannel
          settings id
      else (turn.teardown.request (.cancelConnection id)).publish .disconnected := by
  simp [channelLost, tracked, up]

theorem counts_channelLost {start turn : LinkTurn ω} (counts : start.Counts turn)
    (settings : RadioSettings) : start.Counts (turn.channelLost settings) := by
  have torn : start.Counts turn.teardown := counts.kept (by simp) (by simp)
  cases tracked : turn.manager.tracked with
  | none => exact torn.kept (by simp [channelLost, tracked]) (by simp [channelLost, tracked])
  | some id =>
    cases link : Radio.link turn.teardown.world id with
    | connected =>
      rw [turn.channelLost_up settings tracked link]
      split
      · obtain ⟨asked, same, count⟩ := counts
        refine ⟨asked ++ [.openChannel id settings.psm], by simp [same], ?_⟩
        simp [count, channelsAsked, RadioRequest.channel?, Nat.add_assoc]
      · exact (torn.request rfl).kept rfl (by simp)
    | disconnected | connecting | disconnecting =>
      refine torn.kept ?_ ?_ <;> simp [channelLost, tracked, link]

theorem counts_streamEvent (turn : LinkTurn ω) (settings : RadioSettings) (event : StreamEvent)
    (closed : ∀ session, turn.manager.slot = .live session →
      session.isOpen = false → (session.handle event turn.world).2.session.isOpen = false) :
    turn.Counts (turn.streamEvent settings event).2 := by
  unfold streamEvent
  split
  · next session live =>
    have handles := session.handles event turn.world
    have stays := closed session live
    generalize session.handle event turn.world = handled at handles stays
    obtain ⟨outcome, result⟩ := handled
    have absorbed : turn.Counts (turn.absorb session.pair result) :=
      (Counts.refl turn).kept rfl (by simp)
    cases outcome with
    | nothing | frames => exact absorbed
    | opened =>
      -- It would be open both ways from now on.
      rcases handles.isOpen with ⟨-, before, opened⟩ | ⟨other, -⟩
      · simp [stays before] at opened
      · exact absurd rfl other
    | terminated error => exact counts_channelLost absorbed settings
  · exact .refl turn

variable [IdentityStore ω]

theorem counts_rejoinSaved {start turn : LinkTurn ω} (counts : start.Counts turn)
    (settings : RadioSettings)
    (down : ∀ id, IdentityStore.load turn.world = .ok (some id) →
      id ∉ Radio.connected turn.world settings.service) :
    start.Counts (turn.rejoinSaved settings) := by
  have asking : start.Counts (turn.request (.listConnected settings.service)) := counts.request rfl
  unfold rejoinSaved
  split
  · exact counts
  · next id remembered =>
    have loaded : IdentityStore.load turn.world = .ok (some id) := by
      unfold saved at remembered
      split at remembered
      · next answer => rw [answer, remembered]
      · cases remembered
    simp only [if_neg (down id loaded)]
    refine Counts.request ?_ rfl
    exact asking.kept rfl (by simp)

theorem counts_rejoinRestored {start turn : LinkTurn ω} (counts : start.Counts turn)
    (settings : RadioSettings)
    (down : match turn.manager.restored with
      | some kept => kept.link ≠ .connected
      | none => ∀ id, IdentityStore.load turn.world = .ok (some id) →
        id ∉ Radio.connected turn.world settings.service) :
    start.Counts (turn.rejoinRestored settings) := by
  unfold rejoinRestored
  simp only
  split
  · next unknown =>
    rw [unknown] at down
    refine counts_rejoinSaved ?_ settings down
    exact counts.kept rfl rfl
  · next id link known =>
    rw [known] at down
    have tracking : start.Counts (LinkTurn.publish (LinkTurn.track { turn with
        manager := { turn.manager with wasRestored := false, restored := none } } id)
        .connecting) := counts.kept rfl (by simp [requests_manager])
    -- A restored link that is up would be adopted, which resets the counter.
    split
    · exact absurd rfl down
    · exact tracking
    · exact tracking.request rfl
    · exact tracking.request rfl

theorem counts_powerOn (turn : LinkTurn ω) (settings : RadioSettings)
    (down : turn.manager.adopts settings turn.world = false) :
    turn.Counts (turn.powerChanged settings .on) := by
  have idle : turn.Counts (turn.publish .idle) := (Counts.refl turn).kept rfl (by simp)
  rcases turn.powerOn_cases settings with ⟨resting, rejoins⟩ | ⟨-, same⟩
  · have atRest : (decide (turn.manager.state = .idle) || decide (turn.manager.state = .disconnected))
        = true := by simpa using resting
    rw [Manager.adopts, atRest, Bool.true_and] at down
    rw [rejoins]
    cases restarted : turn.manager.wasRestored with
    | false =>
      refine counts_rejoinSaved idle settings fun id loaded => ?_
      change IdentityStore.load turn.world = _ at loaded
      change id ∉ Radio.connected turn.world settings.service
      simpa [restarted, loaded] using down
    | true =>
      refine counts_rejoinRestored idle settings ?_
      cases known : turn.manager.restored with
      | none =>
        simp only [publish, known]
        intro id loaded
        simpa [restarted, known, loaded] using down
      | some kept => simpa [publish, restarted, known] using down
  · rw [same]
    exact .refl turn

end LinkTurn

variable {ω : Type} [Radio ω] [Streams ω] [IdentityStore ω] {settings : RadioSettings}

namespace Manager

theorem reopens_step (manager : Manager) (world : ω) {operation : LinkOperation}
    (still : manager.renews settings world operation = false) :
    (manager.step settings world operation).after.reopens
      = manager.reopens + channelsAsked (manager.step settings world operation).asked := by
  have counted : ∀ {turn : LinkTurn ω}, LinkTurn.Counts { manager, world } turn →
      turn.manager.reopens = manager.reopens + channelsAsked turn.requests := by
    rintro turn ⟨asked, same, count⟩
    simpa [same] using count
  by_cases power : operation = .report (.power .on)
  · subst power
    exact counted (LinkTurn.counts_powerOn { manager, world } settings still)
  by_cases told : ∃ event, operation = .streamEvent event
  · obtain ⟨event, rfl⟩ := told
    refine counted (LinkTurn.counts_streamEvent { manager, world } settings event ?_)
    rintro session (live : manager.slot = .live session) before
    simpa [renews, session?, live, before] using still
  -- The other operations that ask for a channel begin the count anew.
  · have operated := operates settings manager world operation
    simp only [step]
    generalize (LinkTurn.operate { manager, world } settings operation).requests = asked,
      (LinkTurn.operate { manager, world } settings operation).manager = after at operated ⊢
    cases operated with
    | idle | busy | adopted | rejoined => exact absurd rfl power
    | greeted | reopened | channelLost => exact absurd ⟨_, rfl⟩ told
    | @powerLost other lost =>
      cases other with
      | on => exact absurd rfl lost
      | off | unknown => simp [renews] at still
    | linkedUp tracked => simp [renews, tracked] at still
    | lookedUp asked | characterised asked =>
      rcases asked with rfl | ⟨_, rfl⟩ <;> rfl
    | _ => rfl

omit [Radio ω] [Streams ω] [IdentityStore ω] in
theorem Operates.reopens_le {manager after : Manager} {operation : LinkOperation}
    {asked : List RadioRequest} (operates : Operates settings manager operation after asked)
    (within : manager.reopens ≤ maxReopens) : after.reopens ≤ maxReopens := by
  cases operates with
  | reopened _ _ below => exact below
  | adopted | linkedUp | powerLost | greeted => exact Nat.zero_le _
  | _ => exact within

theorem reopens_le_of_reachable {manager : Manager} (reachable : manager.Reachable ω settings) :
    manager.reopens ≤ maxReopens := by
  induction reachable with
  | new => exact Nat.zero_le _
  | step operation world _ ih => exact (operates settings _ world operation).reopens_le ih

variable {start manager : Manager} {asked : List RadioRequest}

theorem Stretch.reachable (stretch : Stretch ω settings start asked manager)
    (reachable : start.Reachable ω settings) : manager.Reachable ω settings := by
  induction stretch with
  | start => exact reachable
  | step operation world _ _ ih => exact ih.step operation world

theorem Stretch.reopens (stretch : Stretch ω settings start asked manager) :
    manager.reopens = start.reopens + channelsAsked asked := by
  induction stretch with
  | start => rfl
  | step operation world _ still ih =>
    rw [reopens_step _ world still, ih, RadioRequest.channelsAsked_append, Nat.add_assoc]

end Manager

/-- The count never exceeds the limit. In a stretch it goes up with every channel that is asked for, so
that at most `maxReopens` are. A channel that then dies on a link still reported up takes the link down,
and nothing is opened; below the limit it is opened again. -/
theorem reopens_bounded {start : Manager} (reachable : start.Reachable ω settings) :
    start.reopens ≤ maxReopens ∧
    ∀ {asked : List RadioRequest} {manager : Manager}, start.Stretch ω settings asked manager →
      start.reopens + channelsAsked asked = manager.reopens ∧ channelsAsked asked ≤ maxReopens ∧
      ∀ (world : ω) event session error, manager.slot = .live session →
        (session.handle event world).1 = .terminated error →
        ∃ id, manager.tracked = some id ∧
          (Radio.link (session.closedAfter event world) id = .connected →
            let step := manager.step settings world (.streamEvent event)
            (channelsAsked asked = maxReopens → step.asked = [.cancelConnection id] ∧
              step.after.state = .disconnected ∧ step.after.slot = .vacant) ∧
            (manager.reopens < maxReopens → step.asked = [.openChannel id settings.psm] ∧
              step.after.state = .connecting ∧ step.after.slot = .opening id)) := by
  refine ⟨Manager.reopens_le_of_reachable reachable, fun {asked manager} stretch => ?_⟩
  have count := stretch.reopens
  have bound := Manager.reopens_le_of_reachable (stretch.reachable reachable)
  refine ⟨count.symm, by omega, fun world event session error live ended => ?_⟩
  have consistent := Manager.consistent_of_reachable (stretch.reachable reachable)
  rw [Manager.Consistent, live] at consistent
  obtain ⟨id, tracked, -⟩ := consistent.of_live
  refine ⟨id, tracked, fun up => ?_⟩
  -- What the session does to its streams asks nothing of the radio.
  let served := LinkTurn.absorb { manager, world } session.pair (session.handle event world).2
  have told : LinkTurn.operate { manager, world } settings (.streamEvent event)
      = served.channelLost settings := by
    simp [LinkTurn.operate, LinkTurn.streamEvent, live, ended, served]
  have quiet : served.teardown.requests = [] := by simp [served]
  have linked : Radio.link served.teardown.world id = .connected := up
  simp only [Manager.step, told, served.channelLost_up settings tracked linked]
  constructor
  · intro full
    have many : ¬served.manager.reopens < maxReopens := by
      change ¬manager.reopens < maxReopens
      omega
    simp [many, quiet]
  · intro few
    have below : served.manager.reopens < maxReopens := few
    simp [below, quiet]

/-- The remembered glasses answer with one channel after the other, each of which ends before its streams
are open. -/
theorem reopens_bounded_thrice :
    let glasses : PeripheralId := ⟨"glasses"⟩
    let rig : Bench.Rig :=
      { power := .on, saved := some glasses, connected := [glasses],
        links := [(glasses, .connected)] }
    ∃ start asked manager, Manager.Reachable Bench.Rig {} start ∧
      Manager.Stretch Bench.Rig {} start asked manager ∧ channelsAsked asked = maxReopens ∧
      (manager.step {} rig (.streamEvent ⟨7, .inbound, .ended⟩)).asked
        = [.cancelConnection glasses] := by
  intro glasses rig
  have run : ∃ start asked manager, Manager.Reachable Bench.Rig {} start ∧
      Manager.Stretch Bench.Rig {} start asked manager ∧ channelsAsked asked = maxReopens ∧
      manager.tracked = some glasses ∧
      manager.slot = .live (.start ⟨7, 3⟩ defaultMtu.toNat defaultFrameLimit.toNat) := by
    refine ⟨_, _, _, .step (.report (.power .on)) rig .new, Manager.Stretch.start
      |>.step (.report (.channelOpened glasses (.ok ⟨7, 0⟩))) rig (by decide +kernel)
      |>.step (.streamEvent ⟨7, .inbound, .ended⟩) rig (by decide +kernel)
      |>.step (.report (.channelOpened glasses (.ok ⟨7, 1⟩))) rig (by decide +kernel)
      |>.step (.streamEvent ⟨7, .inbound, .ended⟩) rig (by decide +kernel)
      |>.step (.report (.channelOpened glasses (.ok ⟨7, 2⟩))) rig (by decide +kernel)
      |>.step (.streamEvent ⟨7, .inbound, .ended⟩) rig (by decide +kernel)
      |>.step (.report (.channelOpened glasses (.ok ⟨7, 3⟩))) rig (by decide +kernel), ?_⟩
    decide +kernel
  obtain ⟨start, asked, manager, reachable, stretch, full, known, live⟩ := run
  obtain ⟨-, bounded⟩ := reopens_bounded reachable
  obtain ⟨-, -, lost⟩ := bounded stretch
  obtain ⟨id, tracked, dropped⟩ := lost rig ⟨7, .inbound, .ended⟩ _ .endOfStream live rfl
  obtain rfl : glasses = id := Option.some.inj (known.symm.trans tracked)
  refine ⟨start, asked, manager, reachable, stretch, full, ((dropped ?_).1 full).1⟩
  decide +kernel

end Sightline
