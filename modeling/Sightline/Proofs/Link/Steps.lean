import Sightline.Proofs.Link.Run

/-! Every operation is made of small steps.

`LinkTurn.Steps` says what an operation other than a wish to connect or a submission can do, one small
step after the other. What each small step keeps, every such operation keeps; the operations are looked
into here, and not again for every property. -/

set_option autoImplicit false

namespace Sightline

namespace LinkTurn

variable {ω : Type} [Radio ω] [Streams ω] [IdentityStore ω]

/-- Turns that small steps lead to, where `given` is what the operation hands over. A slot is set only
where no session is. A session begins only with streams that were handed over, and sends nothing at
first; other streams are never refused. -/
inductive Steps (given : Option StreamPair) (start : LinkTurn ω) : LinkTurn ω → Prop where
  | refl : Steps given start start
  | publish {turn : LinkTurn ω} (state : ConnectionState) : Steps given start turn →
      state ≠ .scanning → Steps given start (turn.publish state)
  | request {turn : LinkTurn ω} (request : RadioRequest) : Steps given start turn →
      Steps given start (turn.request request)
  | saveIdentity {turn : LinkTurn ω} (id : PeripheralId) : Steps given start turn →
      Steps given start (turn.saveIdentity id)
  | clearIdentity {turn : LinkTurn ω} : Steps given start turn →
      Steps given start turn.clearIdentity
  /-- Something other than the state and the slot changes in the manager. -/
  | notes {turn : LinkTurn ω} {manager : Manager} : Steps given start turn →
      manager.state = turn.manager.state → manager.slot = turn.manager.slot →
      Steps given start { turn with manager }
  | setSlot {turn : LinkTurn ω} {slot : Slot} : Steps given start turn →
      (∀ session, turn.manager.slot ≠ .live session) → (∀ session, slot ≠ .live session) →
      Steps given start (turn.setSlot slot)
  | adopt {turn : LinkTurn ω} {session : Session} : Steps given start turn →
      (∀ session, turn.manager.slot ≠ .live session) → session.pair ∈ given →
      session.outgoing = none → Steps given start (turn.setSlot (.live session))
  | teardown {turn : LinkTurn ω} : Steps given start turn → Steps given start turn.teardown
  | refuse {turn : LinkTurn ω} {pair : StreamPair} : Steps given start turn → pair ∈ given →
      Steps given start (turn.refuse pair)
  | handle {turn : LinkTurn ω} {session : Session} (event : StreamEvent) : Steps given start turn →
      turn.manager.slot = .live session →
      Steps given start (turn.absorb session.pair (session.handle event turn.world).2)

namespace Steps

variable {given : Option StreamPair} {start turn : LinkTurn ω} (steps : Steps given start turn)
  (settings : RadioSettings)

include steps

theorem nextAttempt : Steps given start turn.nextAttempt := steps.notes rfl rfl

theorem track (id : PeripheralId) : Steps given start (turn.track id) := steps.notes rfl rfl

theorem untrack : Steps given start turn.untrack := steps.notes rfl rfl

theorem setDropping (dropping : Bool) : Steps given start (turn.setDropping dropping) :=
  steps.notes rfl rfl

theorem setReopens (reopens : Nat) : Steps given start (turn.setReopens reopens) :=
  steps.notes rfl rfl

theorem stopScan : Steps given start (((turn.request .stopScan).nextAttempt).publish .disconnected) :=
  (steps.request .stopScan).nextAttempt.publish .disconnected (by simp)

theorem disconnect : Steps given start turn.disconnect := by
  have cleared := steps.clearIdentity
  rcases turn.disconnect_cases with ⟨-, left⟩ | ⟨-, -, left⟩ | ⟨-, id, -, -, left⟩ |
    ⟨-, id, -, -, left⟩
  · rw [left]
    exact cleared.stopScan
  · rw [left]
    exact cleared.teardown.publish .disconnected (by simp)
  · rw [left]
    exact (cleared.setDropping true).request _
  · rw [left]
    exact cleared.teardown.untrack.publish .disconnected (by simp)

theorem scanTimeout (attempt : Nat) : Steps given start (turn.scanTimeout attempt) := by
  unfold LinkTurn.scanTimeout
  split
  · exact steps.stopScan
  · exact steps

theorem openChannel (id : PeripheralId) (absent : ∀ session, turn.manager.slot ≠ .live session) :
    Steps given start (turn.openChannel settings id) :=
  (steps.request _).setSlot absent (by simp)

theorem linkUp (id : PeripheralId) : Steps given start (turn.linkUp settings id) := by
  have torn := ((steps.saveIdentity id).teardown.setReopens 0).publish .connecting (by simp)
  -- The teardown left no session, so the slot may be set.
  refine (torn.request _).openChannel settings id ?_
  simp [LinkTurn.request, LinkTurn.publish, LinkTurn.setReopens]

theorem reset : Steps given start turn.reset := by
  have torn := steps.nextAttempt.teardown
  unfold LinkTurn.reset
  refine Steps.publish .disconnected ?_ (by simp)
  exact torn.notes rfl rfl

theorem rejoinSaved : Steps given start (turn.rejoinSaved settings) := by
  unfold LinkTurn.rejoinSaved
  split
  · exact steps
  · next id _ =>
    have asked := ((steps.request (.listConnected settings.service)).track id).publish .connecting
      (by simp)
    simp only
    split
    · exact asked.linkUp settings id
    · exact asked.request _

theorem rejoinRestored : Steps given start (turn.rejoinRestored settings) := by
  unfold LinkTurn.rejoinRestored
  extract_lets restored _ forgetful
  have forgotten : Steps given start forgetful := steps.notes rfl rfl
  clear_value restored
  cases restored with
  | none => exact forgotten.rejoinSaved settings
  | some kept =>
    have published := (forgotten.track kept.id).publish .connecting (by simp)
    simp only
    split
    · exact published.linkUp settings kept.id
    · exact published
    · exact published.request _
    · exact published.request _

theorem powerChanged (power : Power) : Steps given start (turn.powerChanged settings power) := by
  cases power with
  | off | unknown => exact steps.reset
  | on =>
    have idle := steps.publish .idle (by simp)
    rcases turn.powerOn_cases settings with ⟨-, rejoins⟩ | ⟨-, same⟩
    · rw [rejoins]
      split
      · exact idle.rejoinRestored settings
      · exact idle.rejoinSaved settings
    · rw [same]
      exact steps

theorem found (id : PeripheralId) : Steps given start (turn.found id) := by
  unfold LinkTurn.found
  split
  · have tracked := (steps.request .stopScan).nextAttempt.track id
    exact (tracked.publish .connecting (by simp)).request _
  · exact steps

theorem linkDown (id : PeripheralId) (reconnecting : Bool) :
    Steps given start (turn.linkDown id reconnecting) := by
  unfold LinkTurn.linkDown
  split
  · exact steps
  · simp only
    split
    · exact steps.teardown.publish .connecting (by simp)
    · exact (steps.teardown.setDropping false).untrack.publish .disconnected (by simp)

theorem channelOpened (id : PeripheralId) {result : Except String StreamPair}
    (handed : ∀ pair, result = .ok pair → pair ∈ given) :
    Steps given start (turn.channelOpened settings id result) := by
  unfold LinkTurn.channelOpened
  split
  · split
    · exact steps.refuse (handed _ rfl)
    · exact steps
  · next expected =>
    rw [Decidable.not_not] at expected
    have absent : ∀ session, turn.manager.slot ≠ .live session := by simp [expected]
    split
    · exact steps.adopt absent (handed _ rfl) rfl
    · have vacant : Steps given start (turn.setSlot .vacant) := steps.setSlot absent (by simp)
      exact ((vacant.setDropping true).request _).publish .disconnected (by simp)

theorem report (report : RadioReport) (handed : ∀ pair ∈ report.handed?, pair ∈ given) :
    Steps given start (turn.report settings report) := by
  cases report with
  | power power => exact steps.powerChanged settings power
  | restored kept =>
    obtain ⟨restored, noted⟩ := turn.restored_cases settings kept
    rw [noted]
    exact steps.notes rfl rfl
  | discovered id => exact steps.found id
  | connected id =>
    unfold LinkTurn.report
    simp only
    split
    · exact steps.linkUp settings id
    · exact steps
  | connectFailed id =>
    unfold LinkTurn.report
    simp only
    split
    · exact steps.teardown.untrack.publish .disconnected (by simp)
    · exact steps
  | disconnected id reconnecting => exact steps.linkDown id reconnecting
  | services id result =>
    rcases turn.services_cases settings id result with same | asked
    · rw [same]
      exact steps
    · rw [asked]
      exact steps.request _
  | characteristics id service result =>
    rcases turn.characteristics_cases settings id service result with same | ⟨uuid, asked⟩
    · rw [same]
      exact steps
    · rw [asked]
      exact steps.request _
  | notification | value => exact steps
  | channelOpened id result =>
    refine steps.channelOpened settings id ?_
    rintro pair rfl
    exact handed pair rfl

theorem channelLost : Steps given start (turn.channelLost settings) := by
  have torn := steps.teardown
  unfold LinkTurn.channelLost
  simp only
  split
  · exact torn.publish .disconnected (by simp)
  · split
    · split
      · refine ((torn.setReopens _).publish .connecting (by simp)).openChannel settings _ ?_
        simp [LinkTurn.publish, LinkTurn.setReopens]
      · exact (torn.request _).publish .disconnected (by simp)
    · exact torn.publish .connecting (by simp)
    · exact torn.publish .disconnected (by simp)
    · exact torn.publish .disconnected (by simp)

theorem streamEvent (event : StreamEvent) : Steps given start (turn.streamEvent settings event).2 := by
  unfold LinkTurn.streamEvent
  split
  · next session live =>
    have absorbed := steps.handle event live
    simp only
    split
    · exact absorbed
    · exact (absorbed.setReopens 0).publish .connected (by simp)
    · exact absorbed
    · exact absorbed.channelLost settings
  · exact steps

end Steps

/-- Any operation but a wish to connect or a submission is made of small steps. -/
theorem steps_operate (turn : LinkTurn ω) (settings : RadioSettings) {operation : LinkOperation}
    (unwished : operation ≠ .connect) (unsubmitted : ∀ payload tag, operation ≠ .submit payload tag) :
    Steps operation.handed? turn (turn.operate settings operation) := by
  have start : Steps operation.handed? turn turn := .refl
  cases operation with
  | connect => exact absurd rfl unwished
  | disconnect => exact start.disconnect
  | scanTimeout attempt => exact start.scanTimeout attempt
  | report report => exact start.report settings report fun _ handed => handed
  | streamEvent event => exact start.streamEvent settings event
  | submit payload tag => exact absurd rfl (unsubmitted payload tag)

end LinkTurn

end Sightline
