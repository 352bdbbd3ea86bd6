import Sightline.Proofs.Link.Run

/-! The numbers of scan attempts carry nothing.

A manager whose attempts are numbered further on does the same as before, with the same numbers further
on: every small step and every operation commutes with `LinkTurn.shift`. Numbers are only compared with
each other, and that is all that the proofs use. -/

set_option autoImplicit false

namespace Sightline

/-- The same manager, with its scan attempts numbered further on. -/
def Manager.shift (distance : Nat) (manager : Manager) : Manager :=
  { manager with attempt := manager.attempt + distance }

def LinkEffect.shift (distance : Nat) : LinkEffect → LinkEffect
  | .scanTimer attempt => .scanTimer (attempt + distance)
  | effect => effect

theorem LinkEffect.shift_notes (distance : Nat) (pair : StreamPair) (notes : Array Session.Note) :
    (notes.map (ofNote pair)).map (shift distance) = notes.map (ofNote pair) := by
  have same : shift distance ∘ ofNote pair = ofNote pair := by
    funext note
    cases note <;> rfl
  rw [Array.map_map, same]

def LinkOperation.shift (distance : Nat) : LinkOperation → LinkOperation
  | .scanTimeout attempt => .scanTimeout (attempt + distance)
  | operation => operation

def LinkTurn.shift {ω : Type} (distance : Nat) (turn : LinkTurn ω) : LinkTurn ω where
  manager := turn.manager.shift distance
  world := turn.world
  effects := turn.effects.map (.shift distance)

namespace Manager

variable (distance : Nat) (manager : Manager)

@[simp] theorem shift_state : (manager.shift distance).state = manager.state := rfl

@[simp] theorem shift_tracked : (manager.shift distance).tracked = manager.tracked := rfl

@[simp] theorem shift_restored : (manager.shift distance).restored = manager.restored := rfl

@[simp] theorem shift_wasRestored : (manager.shift distance).wasRestored = manager.wasRestored := rfl

@[simp] theorem shift_dropping : (manager.shift distance).dropping = manager.dropping := rfl

@[simp] theorem shift_reopens : (manager.shift distance).reopens = manager.reopens := rfl

@[simp] theorem shift_slot : (manager.shift distance).slot = manager.slot := rfl

end Manager

namespace LinkTurn

variable {ω : Type} (distance : Nat) (turn : LinkTurn ω)

@[simp] theorem shift_manager : (turn.shift distance).manager = turn.manager.shift distance := rfl

@[simp] theorem shift_world : (turn.shift distance).world = turn.world := rfl

theorem shift_start (manager : Manager) (world : ω) :
    ({ manager, world } : LinkTurn ω).shift distance
      = { manager := manager.shift distance, world } := by
  simp [shift]

/-! ### Small steps -/

@[simp] theorem shift_publish (state : ConnectionState) :
    (turn.shift distance).publish state = (turn.publish state).shift distance := by
  simp [publish, shift, Manager.shift, LinkEffect.shift]

@[simp] theorem shift_request [Radio ω] (request : RadioRequest) :
    (turn.shift distance).request request = (turn.request request).shift distance := by
  simp [LinkTurn.request, shift, LinkEffect.shift]

@[simp] theorem shift_nextAttempt :
    (turn.shift distance).nextAttempt = turn.nextAttempt.shift distance := by
  simp [nextAttempt, shift, Manager.shift, Nat.add_right_comm]

@[simp] theorem shift_track (id : PeripheralId) :
    (turn.shift distance).track id = (turn.track id).shift distance := rfl

@[simp] theorem shift_untrack : (turn.shift distance).untrack = turn.untrack.shift distance := rfl

@[simp] theorem shift_setDropping (dropping : Bool) :
    (turn.shift distance).setDropping dropping = (turn.setDropping dropping).shift distance := rfl

@[simp] theorem shift_setReopens (reopens : Nat) :
    (turn.shift distance).setReopens reopens = (turn.setReopens reopens).shift distance := rfl

@[simp] theorem shift_setSlot (slot : Slot) :
    (turn.shift distance).setSlot slot = (turn.setSlot slot).shift distance := rfl

@[simp] theorem shift_saveIdentity [IdentityStore ω] (id : PeripheralId) :
    (turn.shift distance).saveIdentity id = (turn.saveIdentity id).shift distance := by
  simp [saveIdentity, shift, LinkEffect.shift]

@[simp] theorem shift_clearIdentity [IdentityStore ω] :
    (turn.shift distance).clearIdentity = turn.clearIdentity.shift distance := by
  simp [clearIdentity, shift, LinkEffect.shift]

@[simp] theorem shift_saved [IdentityStore ω] : (turn.shift distance).saved = turn.saved := rfl

@[simp] theorem shift_absorb (pair : StreamPair) (result : Session.Turn ω) :
    (turn.shift distance).absorb pair result = (turn.absorb pair result).shift distance := by
  simp [absorb, shift, -Array.map_map, LinkEffect.shift_notes, Manager.shift]

@[simp] theorem shift_teardown [Streams ω] :
    (turn.shift distance).teardown = turn.teardown.shift distance := by
  cases slot : turn.manager.slot with
  | vacant | opening => simp [teardown, slot]
  | live session => simp [teardown, slot, shift, -Array.map_map, LinkEffect.shift_notes, Manager.shift]

@[simp] theorem shift_refuse [Streams ω] (pair : StreamPair) :
    (turn.shift distance).refuse pair = (turn.refuse pair).shift distance := by
  simp [refuse, shift, LinkEffect.shift]

@[simp] theorem shift_openChannel [Radio ω] (settings : RadioSettings) (id : PeripheralId) :
    (turn.shift distance).openChannel settings id
      = (turn.openChannel settings id).shift distance := by
  simp [openChannel]

/-! ### Operations -/

section Commands

variable [Radio ω] (settings : RadioSettings)

@[simp] theorem shift_startScan :
    (turn.shift distance).startScan settings = (turn.startScan settings).shift distance := by
  simp only [startScan, shift_publish, shift_request, shift_nextAttempt]
  generalize ((turn.publish .scanning).request (.startScan settings.service)).nextAttempt = started
  simp [shift, LinkEffect.shift, Manager.shift]

theorem shift_connect : (turn.shift distance).connect settings
    = ((turn.connect settings).1, (turn.connect settings).2.shift distance) := by
  unfold connect
  simp only [shift_manager, shift_world, Manager.shift_state, Manager.shift_tracked, shift_startScan]
  split
  · rfl
  · split
    · rfl
    · split
      · rfl
      · split
        · rfl
        · split <;> rfl

theorem shift_scanTimeout (attempt : Nat) :
    (turn.shift distance).scanTimeout (attempt + distance)
      = (turn.scanTimeout attempt).shift distance := by
  have same : attempt + distance = (turn.manager.shift distance).attempt
      ↔ attempt = turn.manager.attempt := Nat.add_right_cancel_iff
  unfold scanTimeout
  simp only [shift_manager, same, Manager.shift_state]
  split
  · simp
  · rfl

theorem shift_scanTimeout_late {attempt : Nat} (late : attempt < distance) :
    (turn.shift distance).scanTimeout attempt = turn.shift distance := by
  have other : attempt ≠ (turn.manager.shift distance).attempt := by
    simp only [Manager.shift]
    omega
  simp [scanTimeout, other]

end Commands

theorem shift_disconnect [Radio ω] [Streams ω] [IdentityStore ω] :
    (turn.shift distance).disconnect = turn.disconnect.shift distance := by
  unfold disconnect
  simp only [shift_clearIdentity, shift_manager, shift_world, Manager.shift_state,
    Manager.shift_tracked]
  split
  · simp
  · split
    · simp
    · split <;> simp

variable (settings : RadioSettings)

@[simp] theorem shift_linkUp [Radio ω] [Streams ω] [IdentityStore ω] (id : PeripheralId) :
    (turn.shift distance).linkUp settings id = (turn.linkUp settings id).shift distance := by
  simp [linkUp]

theorem shift_reset [Streams ω] : (turn.shift distance).reset = turn.reset.shift distance := by
  unfold reset
  rw [shift_nextAttempt, shift_teardown]
  generalize turn.nextAttempt.teardown = torn
  exact shift_publish distance { torn with manager := { torn.manager with
    tracked := none, restored := none, wasRestored := false, dropping := false, reopens := 0 } }
    .disconnected

@[simp] theorem shift_rejoinSaved [Radio ω] [Streams ω] [IdentityStore ω] :
    (turn.shift distance).rejoinSaved settings = (turn.rejoinSaved settings).shift distance := by
  unfold rejoinSaved
  simp only [shift_saved, shift_world, shift_request, shift_track, shift_publish, shift_linkUp]
  split
  · rfl
  · split <;> rfl

theorem shift_rejoinRestored [Radio ω] [Streams ω] [IdentityStore ω] :
    (turn.shift distance).rejoinRestored settings
      = (turn.rejoinRestored settings).shift distance := by
  let forgetful : LinkTurn ω :=
    { turn with manager := { turn.manager with wasRestored := false, restored := none } }
  unfold rejoinRestored
  rw [shift_manager, Manager.shift_restored]
  cases turn.manager.restored with
  | none => exact forgetful.shift_rejoinSaved distance settings
  | some peripheral =>
    obtain ⟨id, link⟩ := peripheral
    have published : ((forgetful.shift distance).track id).publish .connecting
        = ((forgetful.track id).publish .connecting).shift distance := by simp
    cases link with
    | connected => exact (congrArg (linkUp · settings id) published).trans (shift_linkUp ..)
    | connecting => exact published
    | disconnected | disconnecting =>
      exact (congrArg (LinkTurn.request · (.connect id {})) published).trans (shift_request ..)

theorem shift_powerChanged [Radio ω] [Streams ω] [IdentityStore ω] (power : Power) :
    (turn.shift distance).powerChanged settings power
      = (turn.powerChanged settings power).shift distance := by
  cases power with
  | off | unknown => exact turn.shift_reset distance
  | on =>
    simp only [powerChanged, shift_manager, Manager.shift_state]
    split
    · rfl
    · rfl
    · rfl
    all_goals
      simp only [shift_publish, shift_manager, Manager.shift_wasRestored, shift_rejoinRestored,
        shift_rejoinSaved]
      split <;> rfl

theorem shift_restartReported [IdentityStore ω] (kept : List RestoredPeripheral) :
    (turn.shift distance).restartReported kept = (turn.restartReported kept).shift distance := by
  have saved : ({ turn.shift distance with
      manager := { (turn.shift distance).manager with wasRestored := true } } : LinkTurn ω).saved
      = ({ turn with manager := { turn.manager with wasRestored := true } } : LinkTurn ω).saved := rfl
  unfold restartReported
  simp only [saved]
  split
  · rfl
  · split <;> rfl

theorem shift_found [Radio ω] (id : PeripheralId) :
    (turn.shift distance).found id = (turn.found id).shift distance := by
  by_cases scanning : turn.manager.state = .scanning <;> simp [found, scanning]

theorem shift_linkDown [Streams ω] (id : PeripheralId) (reconnecting : Bool) :
    (turn.shift distance).linkDown id reconnecting
      = (turn.linkDown id reconnecting).shift distance := by
  unfold linkDown
  simp only [shift_manager, Manager.shift_tracked, shift_teardown, Manager.shift_dropping]
  split
  · rfl
  · split <;> simp

theorem shift_channelOpened [Radio ω] [Streams ω] (id : PeripheralId)
    (result : Except String StreamPair) :
    (turn.shift distance).channelOpened settings id result
      = (turn.channelOpened settings id result).shift distance := by
  by_cases expected : turn.manager.slot = .opening id <;>
    cases result <;> simp [channelOpened, expected]

theorem shift_report [Radio ω] [Streams ω] [IdentityStore ω] (report : RadioReport) :
    (turn.shift distance).report settings report
      = (turn.report settings report).shift distance := by
  cases report with
  | power power => exact turn.shift_powerChanged distance settings power
  | restored kept => exact turn.shift_restartReported distance kept
  | discovered id => exact turn.shift_found distance id
  | connected id =>
    by_cases tracked : turn.manager.tracked = some id <;> simp [LinkTurn.report, tracked]
  | connectFailed id =>
    by_cases tracked : turn.manager.tracked = some id <;> simp [LinkTurn.report, tracked]
  | disconnected id reconnecting => exact turn.shift_linkDown distance id reconnecting
  | services id result =>
    cases result with
    | error => rfl
    | ok services =>
      simp only [LinkTurn.report]
      split <;> simp
  | characteristics id service result =>
    cases result with
    | error => rfl
    | ok characteristics =>
      simp only [LinkTurn.report, foundCharacteristics]
      split <;> simp
  | notification | value => rfl
  | channelOpened id result => exact turn.shift_channelOpened distance settings id result

theorem shift_channelLost [Radio ω] [Streams ω] : (turn.shift distance).channelLost settings
    = (turn.channelLost settings).shift distance := by
  unfold channelLost
  simp only [shift_teardown, shift_manager, shift_world, Manager.shift_tracked,
    Manager.shift_reopens]
  split
  · simp
  · split
    · split <;> simp
    all_goals simp

theorem shift_streamEvent [Radio ω] [Streams ω] (event : StreamEvent) :
    (turn.shift distance).streamEvent settings event
      = ((turn.streamEvent settings event).1, (turn.streamEvent settings event).2.shift distance) := by
  unfold streamEvent
  simp only [shift_manager, shift_world, Manager.shift_slot]
  split
  · simp only [shift_absorb]
    split
    · rfl
    · simp
    · rfl
    · rw [shift_channelLost]
  · rfl

theorem shift_submit [Streams ω] (payload : Bytes) (tag : Tag) :
    (turn.shift distance).submit payload tag
      = ((turn.submit payload tag).1, (turn.submit payload tag).2.shift distance) := by
  unfold submit
  simp only [shift_manager, shift_world, Manager.shift_slot]
  split
  · split
    · simp only [shift_absorb]
    · rfl
  · rfl

/-- An operation does the same with all numbers further on. -/
theorem shift_operate [Radio ω] [Streams ω] [IdentityStore ω] (operation : LinkOperation) :
    (turn.shift distance).operate settings (operation.shift distance)
      = (turn.operate settings operation).shift distance := by
  cases operation with
  | connect => exact congrArg Prod.snd (turn.shift_connect distance settings)
  | disconnect => exact turn.shift_disconnect distance
  | scanTimeout attempt => exact turn.shift_scanTimeout distance attempt
  | report report => exact turn.shift_report distance settings report
  | streamEvent event => exact congrArg Prod.snd (turn.shift_streamEvent distance settings event)
  | submit payload tag => exact congrArg Prod.snd (turn.shift_submit distance payload tag)

end LinkTurn

end Sightline
