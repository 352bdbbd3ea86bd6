import Sightline.Bench.Rig
import Sightline.Proofs.Channel.Sends
import Sightline.Proofs.Link.Run

/-! What state, tracked peripheral and slot say of each other.

The three change apart from each other, but only five situations are ever left by an operation:
`Situation` lists them. -/

set_option autoImplicit false

namespace Sightline

/-- The situations that a connection can be in between two operations. -/
inductive Situation : ConnectionState → Option PeripheralId → Slot → Prop where
  /-- Nothing is under way with the glasses; they may still be known. -/
  | resting {state : ConnectionState} {tracked : Option PeripheralId} :
      state ≠ .connecting → state ≠ .connected → Situation state tracked .vacant
  /-- The link is being brought up. -/
  | linking (id : PeripheralId) : Situation .connecting (some id) .vacant
  | opening (id : PeripheralId) : Situation .connecting (some id) (.opening id)
  /-- The channel is there, and a stream has still to report open. -/
  | greeting (id : PeripheralId) {session : Session} : session.isOpen = false →
      Situation .connecting (some id) (.live session)
  | connected (id : PeripheralId) {session : Session} : session.isOpen = true →
      Situation .connected (some id) (.live session)

namespace Situation

variable {state : ConnectionState} {tracked : Option PeripheralId} {slot : Slot}

theorem idle (tracked : Option PeripheralId) : Situation .idle tracked .vacant :=
  .resting (by simp) (by simp)

theorem scanning (tracked : Option PeripheralId) : Situation .scanning tracked .vacant :=
  .resting (by simp) (by simp)

theorem disconnected (tracked : Option PeripheralId) : Situation .disconnected tracked .vacant :=
  .resting (by simp) (by simp)

theorem vacant (situation : Situation state tracked slot) (unlinked : state ≠ .connecting)
    (unconnected : state ≠ .connected) : slot = .vacant := by
  cases situation with
  | resting => rfl
  | linking | opening | greeting => exact absurd rfl unlinked
  | connected => exact absurd rfl unconnected

theorem vacant_of_untracked (situation : Situation state none slot) : slot = .vacant := by
  cases situation
  rfl

theorem of_opening {id : PeripheralId} (situation : Situation state tracked (.opening id)) :
    state = .connecting ∧ tracked = some id := by
  cases situation
  exact ⟨rfl, rfl⟩

theorem of_live {session : Session} (situation : Situation state tracked (.live session)) :
    ∃ id, tracked = some id ∧ ((state = .connecting ∧ session.isOpen = false) ∨
      (state = .connected ∧ session.isOpen = true)) := by
  cases situation with
  | greeting id closed => exact ⟨id, rfl, .inl ⟨rfl, closed⟩⟩
  | connected id opened => exact ⟨id, rfl, .inr ⟨rfl, opened⟩⟩

theorem underway (situation : Situation state tracked slot) (taken : slot ≠ .vacant) :
    state = .connecting ∨ state = .connected := by
  cases situation with
  | resting | linking => exact absurd rfl taken
  | opening | greeting => exact .inl rfl
  | connected => exact .inr rfl

theorem tracked_of_underway (situation : Situation state tracked slot)
    (underway : state = .connecting ∨ state = .connected) : ∃ id, tracked = some id := by
  cases situation with
  | resting unlinked unconnected =>
    rcases underway with linked | connected
    · exact absurd linked unlinked
    · exact absurd connected unconnected
  | linking id | opening id | greeting id | connected id => exact ⟨id, rfl⟩

theorem connected_iff (situation : Situation state tracked slot) :
    state = .connected ↔ ∃ session, slot = .live session ∧ session.isOpen = true := by
  cases situation with
  | resting _ unconnected => simp [unconnected]
  | linking | opening => simp
  | greeting id closed => simp [closed]
  | connected id opened => simp [opened]

theorem live {session session' : Session} (situation : Situation state tracked (.live session))
    (same : session'.isOpen = session.isOpen) : Situation state tracked (.live session') := by
  obtain ⟨id, rfl, ⟨rfl, closed⟩ | ⟨rfl, opened⟩⟩ := situation.of_live
  · exact .greeting id (same.trans closed)
  · exact .connected id (same.trans opened)

end Situation

def Manager.Consistent (manager : Manager) : Prop :=
  Situation manager.state manager.tracked manager.slot

namespace LinkTurn

variable {ω : Type} {turn : LinkTurn ω} (consistent : turn.manager.Consistent)

include consistent

theorem consistent_connect [Radio ω] (settings : RadioSettings) :
    (turn.connect settings).2.manager.Consistent := by
  rcases turn.connect_cases settings with ⟨accepted, resting⟩ | ⟨refusal, refused⟩
  · -- A scan starts only at rest, where the slot is vacant.
    have vacant : turn.manager.slot = .vacant := by
      apply consistent.vacant <;> intro state <;> simp [state] at resting
    rw [accepted]
    simpa [Manager.Consistent, vacant] using Situation.scanning turn.manager.tracked
  · rw [refused]
    exact consistent

theorem consistent_stopScan [Radio ω] (scanning : turn.manager.state = .scanning) :
    (((turn.request .stopScan).nextAttempt).publish .disconnected).manager.Consistent := by
  have vacant := consistent.vacant (by simp [scanning]) (by simp [scanning])
  simpa [Manager.Consistent, request, nextAttempt, publish, vacant] using
    Situation.disconnected turn.manager.tracked

theorem consistent_disconnect [Radio ω] [Streams ω] [IdentityStore ω] :
    turn.disconnect.manager.Consistent := by
  have cleared : turn.clearIdentity.manager.Consistent := consistent
  rcases turn.disconnect_cases with ⟨scanning, left⟩ | ⟨-, -, left⟩ | ⟨-, id, -, -, left⟩ |
    ⟨-, id, -, -, left⟩
  · rw [left]
    exact consistent_stopScan cleared scanning
  · rw [left]
    simpa [Manager.Consistent, publish] using
      Situation.disconnected turn.clearIdentity.manager.tracked
  · rw [left]
    exact consistent
  · rw [left]
    simpa [Manager.Consistent, publish, untrack] using Situation.disconnected none

theorem consistent_scanTimeout [Radio ω] (attempt : Nat) :
    (turn.scanTimeout attempt).manager.Consistent := by
  unfold scanTimeout
  split
  · next timely => exact consistent_stopScan consistent timely.2
  · exact consistent

/-! ### Reports of the radio -/

variable (settings : RadioSettings)

omit consistent in
theorem consistent_linkUp [Radio ω] [Streams ω] [IdentityStore ω] {id : PeripheralId}
    (tracked : turn.manager.tracked = some id) : (turn.linkUp settings id).manager.Consistent := by
  simpa [Manager.Consistent, tracked] using Situation.opening id

theorem consistent_rejoinSaved [Radio ω] [Streams ω] [IdentityStore ω]
    (vacant : turn.manager.slot = .vacant) : (turn.rejoinSaved settings).manager.Consistent := by
  unfold rejoinSaved
  split
  · exact consistent
  · next id _ =>
    simp only
    split
    · exact consistent_linkUp settings rfl
    · simpa [Manager.Consistent, request, track, publish, vacant] using Situation.linking id

theorem consistent_rejoinRestored [Radio ω] [Streams ω] [IdentityStore ω]
    (vacant : turn.manager.slot = .vacant) :
    (turn.rejoinRestored settings).manager.Consistent := by
  unfold rejoinRestored
  simp only
  split
  · refine consistent_rejoinSaved ?_ settings vacant
    exact consistent
  · next id link _ =>
    have linking := Situation.linking id
    split
    · exact consistent_linkUp settings rfl
    · simpa [Manager.Consistent, track, publish, vacant] using linking
    · simpa [Manager.Consistent, track, publish, request, vacant] using linking
    · simpa [Manager.Consistent, track, publish, request, vacant] using linking

theorem consistent_powerChanged [Radio ω] [Streams ω] [IdentityStore ω] (power : Power) :
    (turn.powerChanged settings power).manager.Consistent := by
  have gone : turn.reset.manager.Consistent := by
    simpa [Manager.Consistent] using Situation.disconnected none
  cases power with
  | off | unknown => exact gone
  | on =>
    rcases turn.powerOn_cases settings with ⟨resting, rejoins⟩ | ⟨-, same⟩
    · have vacant : turn.manager.slot = .vacant := by
        apply consistent.vacant <;> intro state <;> simp [state] at resting
      have idle : (turn.publish .idle).manager.Consistent := by
        simpa [Manager.Consistent, publish, vacant] using Situation.idle turn.manager.tracked
      rw [rejoins]
      split
      · exact consistent_rejoinRestored idle settings vacant
      · exact consistent_rejoinSaved idle settings vacant
    · rw [same]
      exact consistent

theorem consistent_found [Radio ω] (id : PeripheralId) : (turn.found id).manager.Consistent := by
  unfold found
  split
  · next scanning =>
    have vacant := consistent.vacant (by simp [scanning]) (by simp [scanning])
    simpa [Manager.Consistent, request, nextAttempt, track, publish, vacant] using
      Situation.linking id
  · exact consistent

theorem consistent_linkDown [Streams ω] (id : PeripheralId) (reconnecting : Bool) :
    (turn.linkDown id reconnecting).manager.Consistent := by
  unfold linkDown
  split
  · exact consistent
  · next tracked =>
    rw [Decidable.not_not] at tracked
    simp only
    split
    · simpa [Manager.Consistent, publish, tracked] using Situation.linking id
    · simpa [Manager.Consistent, publish, untrack, setDropping] using Situation.disconnected none

theorem consistent_channelOpened [Radio ω] [Streams ω] (id : PeripheralId)
    (result : Except String StreamPair) : (turn.channelOpened settings id result).manager.Consistent := by
  unfold channelOpened
  split
  · split <;> exact consistent
  · next expected =>
    rw [Decidable.not_not] at expected
    have situation := consistent
    -- The channel was asked for, so its peripheral is the tracked one.
    rw [Manager.Consistent, expected] at situation
    obtain ⟨state, tracked⟩ := situation.of_opening
    split
    · simp only [Manager.Consistent, setSlot, state, tracked]
      exact .greeting id rfl
    · simpa [Manager.Consistent, publish, request, setDropping, setSlot] using
        Situation.disconnected turn.manager.tracked

theorem consistent_report [Radio ω] [Streams ω] [IdentityStore ω] (report : RadioReport) :
    (turn.report settings report).manager.Consistent := by
  cases report with
  | power power => exact consistent_powerChanged consistent settings power
  | restored kept =>
    obtain ⟨restored, noted⟩ := turn.restored_cases settings kept
    rw [noted]
    exact consistent
  | discovered id => exact consistent_found consistent id
  | connected id =>
    unfold LinkTurn.report
    simp only
    split
    · next tracked => exact consistent_linkUp settings tracked
    · exact consistent
  | connectFailed id =>
    unfold LinkTurn.report
    simp only
    split
    · simpa [Manager.Consistent, publish, untrack] using Situation.disconnected none
    · exact consistent
  | disconnected id reconnecting => exact consistent_linkDown consistent id reconnecting
  | services id result =>
    rcases turn.services_cases settings id result with same | asked
    · rwa [same]
    · rwa [asked]
  | characteristics id service result =>
    rcases turn.characteristics_cases settings id service result with same | ⟨uuid, asked⟩
    · rwa [same]
    · rwa [asked]
  | notification | value => exact consistent
  | channelOpened id result => exact consistent_channelOpened consistent settings id result

/-! ### Notifications and submissions -/

omit consistent in
theorem consistent_channelLost [Radio ω] [Streams ω] {id : PeripheralId}
    (tracked : turn.manager.tracked = some id) :
    (turn.channelLost settings).manager.Consistent := by
  unfold channelLost
  simp only [manager_teardown, tracked]
  split
  · split
    · simpa [Manager.Consistent, publish, setReopens, tracked] using Situation.opening id
    · simpa [Manager.Consistent, publish, request] using Situation.disconnected turn.manager.tracked
  · simpa [Manager.Consistent, publish, tracked] using Situation.linking id
  · simpa [Manager.Consistent, publish] using Situation.disconnected turn.manager.tracked
  · simpa [Manager.Consistent, publish] using Situation.disconnected turn.manager.tracked

theorem consistent_streamEvent [Radio ω] [Streams ω] (event : StreamEvent) :
    (turn.streamEvent settings event).2.manager.Consistent := by
  unfold streamEvent
  split
  · next session live =>
    have situation := consistent
    rw [Manager.Consistent, live] at situation
    obtain ⟨id, tracked, _⟩ := situation.of_live
    have handles := session.handles event turn.world
    generalize session.handle event turn.world = handled at handles
    obtain ⟨outcome, result⟩ := handled
    -- The completing report makes the connection; any other notification leaves the session as open
    -- as it was, or ends it.
    rcases handles.isOpen with ⟨rfl, -, opened⟩ | ⟨other, same⟩
    · simp only [Manager.Consistent, publish, setReopens, absorb, tracked]
      exact .connected id opened
    · have absorbed : (turn.absorb session.pair result).manager.Consistent := situation.live same
      cases outcome with
      | opened => exact absurd rfl other
      | nothing | frames => exact absorbed
      | terminated error => exact consistent_channelLost settings tracked
  · exact consistent

theorem consistent_submit [Streams ω] (payload : Bytes) (tag : Tag) :
    (turn.submit payload tag).2.manager.Consistent := by
  unfold submit
  split
  · next session live =>
    have situation := consistent
    rw [Manager.Consistent, live] at situation
    split
    · exact situation.live (session.isOpen_of_submit payload tag turn.world)
    · exact consistent
  · exact consistent

theorem consistent_operate [Radio ω] [Streams ω] [IdentityStore ω]
    (operation : LinkOperation) : (turn.operate settings operation).manager.Consistent := by
  cases operation with
  | connect => exact consistent_connect consistent settings
  | disconnect => exact consistent_disconnect consistent
  | scanTimeout attempt => exact consistent_scanTimeout consistent attempt
  | report report => exact consistent_report consistent settings report
  | streamEvent event => exact consistent_streamEvent consistent settings event
  | submit payload tag => exact consistent_submit consistent payload tag

omit consistent in
theorem noSession_iff [Streams ω] (payload : Bytes) (tag : Tag) :
    (turn.submit payload tag).1 = .error .noSession ↔
      ¬∃ session, turn.manager.slot = .live session ∧ session.isOpen = true := by
  unfold submit
  split
  · next session live =>
    by_cases opened : session.isOpen = true
    · rcases session.submit_cases payload tag turn.world with ⟨answer, -⟩ | ⟨refusal, other, refused⟩
      · simp [opened, answer, live]
      · simp [opened, live, refused, other]
    · simp [opened, live]
  · next absent =>
    simp only [true_iff, not_exists, not_and]
    intro session live
    exact absurd live (absent session)

end LinkTurn

variable {ω : Type} [Radio ω] [Streams ω] [IdentityStore ω]

theorem Manager.consistent_of_reachable {settings : RadioSettings} {manager : Manager}
    (reachable : manager.Reachable ω settings) : manager.Consistent := by
  induction reachable with
  | new => exact Situation.disconnected none
  | step operation world _ ih => exact LinkTurn.consistent_operate ih settings operation

/-- State, tracked peripheral and slot agree in every manager that any operations lead to: frames can
move exactly when the session is open both ways; a slot that is taken belongs to the tracked peripheral
while it is being connected to or connected; the branch for a channel lost with no peripheral tracked
is never taken; and a submission finds no session exactly when the connection is not up. -/
theorem Manager.reachable_consistent {settings : RadioSettings} {manager : Manager}
    (reachable : manager.Reachable ω settings) :
    (manager.state = .connected ↔ ∃ session, manager.slot = .live session ∧
      session.inboundOpen = true ∧ session.outboundOpen = true) ∧
    (manager.slot ≠ .vacant → (manager.state = .connecting ∨ manager.state = .connected) ∧
      ∃ id, manager.tracked = some id) ∧
    (∀ id, manager.slot = .opening id → manager.tracked = some id) ∧
    (manager.state = .connecting ∨ manager.state = .connected → ∃ id, manager.tracked = some id) ∧
    (manager.state = .idle ∨ manager.state = .scanning ∨ manager.state = .disconnected →
      manager.slot = .vacant) ∧
    (∀ (world : ω) event session error, manager.slot = .live session →
      (session.handle event world).1 = .terminated error →
      ∃ id, (LinkTurn.absorb { manager, world } session.pair
        (session.handle event world).2).teardown.manager.tracked = some id) ∧
    (∀ (world : ω) payload tag, (LinkTurn.submit { manager, world } payload tag).1
      = .error .noSession ↔ manager.state ≠ .connected) := by
  have consistent := Manager.consistent_of_reachable reachable
  refine ⟨?_, ?_, ?_, consistent.tracked_of_underway, ?_, ?_, ?_⟩
  · simpa [Session.isOpen] using consistent.connected_iff
  · intro taken
    exact ⟨consistent.underway taken, consistent.tracked_of_underway (consistent.underway taken)⟩
  · intro id opening
    rw [Manager.Consistent, opening] at consistent
    exact consistent.of_opening.2
  · intro resting
    apply consistent.vacant <;> rintro state <;> simp [state] at resting
  -- The peripheral outlives the session that is torn down, so the branch without one is not taken.
  · intro world event session error live _
    rw [Manager.Consistent, live] at consistent
    obtain ⟨id, tracked, -⟩ := consistent.of_live
    exact ⟨id, by simpa [LinkTurn.absorb] using tracked⟩
  · intro world payload tag
    rw [LinkTurn.noSession_iff, ne_eq, consistent.connected_iff]

/-- The radio comes on, the remembered glasses answer, and both streams of their channel open. -/
theorem reachable_consistent_connected :
    ∃ manager, Manager.Reachable Bench.Rig {} manager ∧ manager.state = .connected ∧
      ∃ session, manager.slot = .live session ∧ session.inboundOpen = true ∧
        session.outboundOpen = true := by
  let glasses : PeripheralId := ⟨"glasses"⟩
  let rig : Bench.Rig := { power := .on, saved := some glasses }
  have run : ∃ manager, Manager.Reachable Bench.Rig {} manager ∧ manager.state = .connected := by
    refine ⟨_, Manager.Reachable.new
      |>.step (.report (.power .on)) rig
      |>.step (.report (.connected glasses)) rig
      |>.step (.report (.channelOpened glasses (.ok ⟨7, 0⟩))) rig
      |>.step (.streamEvent ⟨7, .inbound, .opened⟩) rig
      |>.step (.streamEvent ⟨7, .outbound, .opened⟩) rig, ?_⟩
    decide +kernel
  obtain ⟨manager, reachable, connected⟩ := run
  exact ⟨manager, reachable, connected, (Manager.reachable_consistent reachable).1.mp connected⟩

end Sightline
