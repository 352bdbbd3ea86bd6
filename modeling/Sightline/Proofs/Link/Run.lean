import Sightline.Link.Manager

/-! Runs of a connection.

`LinkTurn.operate` applies any one operation, and a manager is `Reachable` if some operations lead to
it from a new one. The surroundings may become anything in between, so the radio and the store may
answer whatever they like. -/

set_option autoImplicit false

namespace Sightline

inductive LinkOperation where
  | connect
  | disconnect
  | scanTimeout (attempt : Nat)
  | report (report : RadioReport)
  | streamEvent (event : StreamEvent)
  | submit (payload : Bytes) (tag : Tag)

def RadioReport.handed? : RadioReport → Option StreamPair
  | .channelOpened _ (.ok pair) => some pair
  | _ => none

def LinkOperation.handed? : LinkOperation → Option StreamPair
  | .report news => news.handed?
  | _ => none

theorem LinkOperation.handed?_eq_some {operation : LinkOperation} {pair : StreamPair} :
    operation.handed? = some pair ↔ ∃ id, operation = .report (.channelOpened id (.ok pair)) := by
  constructor
  · intro handed
    unfold handed? RadioReport.handed? at handed
    split at handed
    · split at handed
      · next id given =>
        obtain rfl : given = pair := Option.some.inj handed
        exact ⟨id, rfl⟩
      · cases handed
    · cases handed
  · rintro ⟨id, rfl⟩
    rfl

namespace LinkTurn

variable {ω : Type} [Radio ω] [Streams ω] [IdentityStore ω]

def operate (turn : LinkTurn ω) (settings : RadioSettings) : LinkOperation → LinkTurn ω
  | .connect => (turn.connect settings).2
  | .disconnect => turn.disconnect
  | .scanTimeout attempt => turn.scanTimeout attempt
  | .report report => turn.report settings report
  | .streamEvent event => (turn.streamEvent settings event).2
  | .submit payload tag => (turn.submit payload tag).2

end LinkTurn

/-- Managers that operations lead to from a new one, in surroundings of the given kind. -/
inductive Manager.Reachable (ω : Type) [Radio ω] [Streams ω] [IdentityStore ω]
    (settings : RadioSettings) : Manager → Prop where
  | new : Reachable ω settings {}
  | step {manager : Manager} (operation : LinkOperation) (world : ω) :
      Reachable ω settings manager →
      Reachable ω settings (LinkTurn.operate { manager, world } settings operation).manager

/-- A manager after some operations from a new one, with them and all that they did to the
surroundings. -/
inductive Manager.Logged (ω : Type) [Radio ω] [Streams ω] [IdentityStore ω]
    (settings : RadioSettings) : Manager → List LinkOperation → Array LinkEffect → Prop where
  | new : Logged ω settings {} [] #[]
  | operate {manager : Manager} {operations : List LinkOperation} {effects : Array LinkEffect}
      (operation : LinkOperation) (world : ω) : Logged ω settings manager operations effects →
      Logged ω settings (LinkTurn.operate { manager, world } settings operation).manager
        (operations ++ [operation])
        (effects ++ (LinkTurn.operate { manager, world } settings operation).effects)

/-! ### What the steps make of the manager -/

namespace LinkTurn

variable {ω : Type}

@[simp] theorem manager_teardown [Streams ω] (turn : LinkTurn ω) :
    turn.teardown.manager = { turn.manager with slot := .vacant } := by
  unfold teardown
  split <;> rfl

@[simp] theorem manager_openChannel [Radio ω] (turn : LinkTurn ω) (settings : RadioSettings)
    (id : PeripheralId) : (turn.openChannel settings id).manager
      = { turn.manager with slot := .opening id } := rfl

@[simp] theorem manager_linkUp [Radio ω] [Streams ω] [IdentityStore ω] (turn : LinkTurn ω)
    (settings : RadioSettings) (id : PeripheralId) : (turn.linkUp settings id).manager
      = { turn.manager with state := .connecting, reopens := 0, slot := .opening id } := by
  simp [linkUp, request, publish, setReopens, saveIdentity]

@[simp] theorem manager_reset [Streams ω] (turn : LinkTurn ω) :
    turn.reset.manager = { attempt := turn.manager.attempt + 1 } := by
  simp [reset, publish, nextAttempt]

@[simp] theorem manager_startScan [Radio ω] (turn : LinkTurn ω) (settings : RadioSettings) :
    (turn.startScan settings).manager
      = { turn.manager with state := .scanning, attempt := turn.manager.attempt + 1 } := rfl

/-- A wish to connect starts a scan, which it does only at rest, or it changes nothing. -/
theorem connect_cases [Radio ω] (turn : LinkTurn ω) (settings : RadioSettings) :
    (turn.connect settings = (.ok (), turn.startScan settings) ∧
        (turn.manager.state = .idle ∨ turn.manager.state = .disconnected)) ∨
      ∃ refusal, turn.connect settings = (.error refusal, turn) := by
  unfold connect
  split
  · exact .inr ⟨_, rfl⟩
  · split
    · exact .inr ⟨_, rfl⟩
    · next startable =>
      have resting : turn.manager.state = .idle ∨ turn.manager.state = .disconnected := by
        by_cases idle : turn.manager.state = .idle
        · exact .inl idle
        · exact .inr (Decidable.of_not_not fun other => startable ⟨idle, other⟩)
      split
      · exact .inr ⟨_, rfl⟩
      · split
        · exact .inl ⟨rfl, resting⟩
        · split
          · exact .inr ⟨_, rfl⟩
          · exact .inr ⟨_, rfl⟩
          · exact .inl ⟨rfl, resting⟩
          · exact .inl ⟨rfl, resting⟩

/-- What a disconnection by the user does: it ends a scan, or there is nothing to drop, or the link is
dropped and its loss waited for, or the link is down already. -/
theorem disconnect_cases [Radio ω] [Streams ω] [IdentityStore ω] (turn : LinkTurn ω) :
    (turn.manager.state = .scanning ∧
      turn.disconnect = ((turn.clearIdentity.request .stopScan).nextAttempt).publish .disconnected) ∨
    (turn.manager.state ≠ .scanning ∧ turn.manager.tracked = none ∧
      turn.disconnect = turn.clearIdentity.teardown.publish .disconnected) ∨
    (turn.manager.state ≠ .scanning ∧ ∃ id, turn.manager.tracked = some id ∧
      Radio.link turn.clearIdentity.world id ≠ .disconnected ∧
      turn.disconnect
        = (turn.clearIdentity.setDropping true).request (.cancelConnection id)) ∨
    (turn.manager.state ≠ .scanning ∧ ∃ id, turn.manager.tracked = some id ∧
      Radio.link turn.clearIdentity.world id = .disconnected ∧
      turn.disconnect = turn.clearIdentity.teardown.untrack.publish .disconnected) := by
  unfold disconnect
  simp only
  split
  · next scanning => exact .inl ⟨scanning, rfl⟩
  · next other =>
    right
    split
    · next untracked => exact .inl ⟨other, untracked, rfl⟩
    · next id tracked =>
      right
      -- Any link that is not down is cancelled by the radio; the others are torn down here.
      split
      · next link => exact .inl ⟨other, id, tracked, by simp [link], rfl⟩
      · next link => exact .inl ⟨other, id, tracked, by simp [link], rfl⟩
      · next link => exact .inl ⟨other, id, tracked, by simp [link], rfl⟩
      · next link => exact .inr ⟨other, id, tracked, link, rfl⟩

section Reports

variable [Radio ω] [Streams ω] [IdentityStore ω] (turn : LinkTurn ω) (settings : RadioSettings)

/-- The radio coming on is a reason to look for remembered glasses, but only at rest. -/
theorem powerOn_cases :
    ((turn.manager.state = .idle ∨ turn.manager.state = .disconnected) ∧
        turn.powerChanged settings .on = if turn.manager.wasRestored then
          (turn.publish .idle).rejoinRestored settings
        else (turn.publish .idle).rejoinSaved settings) ∨
      (¬(turn.manager.state = .idle ∨ turn.manager.state = .disconnected) ∧
        turn.powerChanged settings .on = turn) := by
  unfold powerChanged
  simp only
  split
  · next state => exact .inr ⟨by simp [state], rfl⟩
  · next state => exact .inr ⟨by simp [state], rfl⟩
  · next state => exact .inr ⟨by simp [state], rfl⟩
  · next state => exact .inl ⟨.inl state, rfl⟩
  · next state => exact .inl ⟨.inr state, rfl⟩

/-- A report of what was restored changes nothing but what is remembered of the restart. -/
theorem restored_cases (kept : List RestoredPeripheral) :
    ∃ restored, turn.report settings (.restored kept)
      = { turn with manager := { turn.manager with wasRestored := true, restored } } := by
  unfold report restartReported
  simp only
  split
  · exact ⟨turn.manager.restored, rfl⟩
  · split
    · exact ⟨turn.manager.restored, rfl⟩
    · exact ⟨_, rfl⟩

theorem services_cases (id : PeripheralId) (result : Except String (List Uuid)) :
    turn.report settings (.services id result) = turn ∨
      turn.report settings (.services id result) = turn.request
        (.discoverCharacteristics id settings.service settings.keepAlive) := by
  cases result with
  | error => exact .inl rfl
  | ok services =>
    simp only [report]
    split
    · exact .inr rfl
    · exact .inl rfl

theorem characteristics_cases (id : PeripheralId) (service : Uuid)
    (result : Except String (List Characteristic)) :
    turn.report settings (.characteristics id service result) = turn ∨
      ∃ uuid, turn.report settings (.characteristics id service result)
        = turn.request (.subscribe id service uuid) := by
  cases result with
  | error => exact .inl rfl
  | ok characteristics =>
    simp only [report, foundCharacteristics]
    split
    · exact .inr ⟨_, rfl⟩
    · exact .inl rfl

end Reports

end LinkTurn

end Sightline
