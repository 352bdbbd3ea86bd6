import Sightline.Proofs.Link.Invariant
import Sightline.Proofs.Link.Unbound

/-! What takes the glasses up again.

With an empty store, no scan running and no wish to connect, an operation is `Final` unless it is one of
four hazards (`final_operate`). Each operation is looked into once. -/

set_option autoImplicit false

namespace Sightline

def Session.closedAfter {ω : Type} [Streams ω] (session : Session) (event : StreamEvent)
    (world : ω) : ω :=
  ((session.handle event world).2.session.close (session.handle event world).2.world).1

/-- What takes the glasses up again: a late report that the link is up, the radio coming on with glasses
remembered from a restart, a channel that dies while the link is said to be up, and a report that the
radio is bringing back a link that nobody marked as dropped. -/
def Manager.Hazard {ω : Type} [Radio ω] [Streams ω] (manager : Manager) (world : ω) :
    LinkOperation → Prop
  | .report (.connected id) => manager.tracked = some id
  | .report (.power power) =>
    power = .on ∧ (manager.state = .idle ∨ manager.state = .disconnected) ∧
      manager.wasRestored = true ∧ manager.restored ≠ none
  | .report (.disconnected id reconnecting _) =>
    manager.tracked = some id ∧ reconnecting = true ∧ manager.dropping = false ∧
      (manager.state = .idle ∨ manager.state = .disconnected)
  | .streamEvent event => ∃ session id error, manager.slot = .live session ∧
    manager.tracked = some id ∧ (session.handle event world).1 = .terminated error ∧
      Radio.link (session.closedAfter event world) id = .connected ∧ manager.reopens < maxReopens
  | _ => False

namespace LinkTurn

variable {ω : Type}

/-- What an operation after a disconnection should leave. -/
structure Final [IdentityStore ω] (works : ω → Prop) (before : Manager) (after : LinkTurn ω) :
    Prop where
  /-- Nothing is saved, connected to or opened, and the store stays empty. -/
  unbound : after.Unbound works
  resting : before.state = .idle ∨ before.state = .disconnected →
    after.manager.state ≠ .connecting

namespace Final

variable [IdentityStore ω] {works : ω → Prop} {turn : LinkTurn ω}

theorem kept {next : LinkTurn ω} (unbound : next.Unbound works)
    (same : next.manager.state = turn.manager.state) : Final works turn.manager next := by
  refine ⟨unbound, ?_⟩
  rw [same]
  rintro (idle | disconnected) connecting
  · simp [idle] at connecting
  · simp [disconnected] at connecting

theorem disconnected {next : LinkTurn ω} (unbound : next.Unbound works)
    (disconnected : next.manager.state = .disconnected) : Final works turn.manager next :=
  ⟨unbound, fun _ connecting => by simp [disconnected] at connecting⟩

end Final

section Operations

variable [IdentityStore ω] [Radio ω] {works : ω → Prop} {turn : LinkTurn ω}

theorem final_connect (unbound : turn.Unbound works) {settings : RadioSettings}
    (refused : (turn.connect settings).1 ≠ .ok ()) :
    Final works turn.manager (turn.connect settings).2 := by
  rcases turn.connect_cases settings with ⟨accepted, -⟩ | ⟨refusal, same⟩
  · rw [accepted] at refused
    exact absurd rfl refused
  · rw [same]
    exact .kept unbound rfl

theorem binding_openChannel (turn : LinkTurn ω) (settings : RadioSettings) (id : PeripheralId) :
    ¬(turn.openChannel settings id).Unbound works := by
  intro unbound
  exact unbound.1 (.radio (.openChannel id settings.psm)) (by simp [openChannel, request, setSlot])
    trivial

variable [Streams ω] (store : WorkingStore works) (unbound : turn.Unbound works)

include store unbound

omit unbound in
theorem unbound_disconnect (working : works turn.world)
    (harmless : ∀ effect ∈ turn.effects, ¬effect.Binds) : turn.disconnect.Unbound works := by
  have cleared : turn.clearIdentity.Unbound works := by
    refine ⟨?_, (store.clear _ working).2⟩
    intro effect member
    rcases Array.mem_push.mp member with before | rfl
    · exact harmless effect before
    · simp [LinkEffect.Binds]
  rcases turn.disconnect_cases with ⟨-, left⟩ | ⟨-, -, left⟩ | ⟨-, id, -, -, left⟩ |
    ⟨-, id, -, -, left⟩
  · rw [left]
    exact (cleared.request store (by simp [LinkEffect.Binds])).publish _
  · rw [left]
    exact (cleared.teardown store).publish _
  · rw [left]
    exact Unbound.request store cleared (by simp [LinkEffect.Binds])
  · rw [left]
    exact Unbound.publish (cleared.teardown store) _

theorem final_disconnect : Final works turn.manager turn.disconnect := by
  have left_unbound := unbound_disconnect store unbound.2.1 unbound.1
  rcases turn.disconnect_cases with ⟨-, left⟩ | ⟨-, -, left⟩ | ⟨-, id, -, -, left⟩ |
    ⟨-, id, -, -, left⟩
  · exact .disconnected left_unbound (by rw [left]; rfl)
  · exact .disconnected left_unbound (by rw [left]; rfl)
  · exact .kept left_unbound (by rw [left]; rfl)
  · exact .disconnected left_unbound (by rw [left]; rfl)

theorem final_scanTimeout (attempt : Nat) :
    Final works turn.manager (turn.scanTimeout attempt) := by
  unfold scanTimeout
  split
  · exact .disconnected ((unbound.request store (by simp [LinkEffect.Binds])).publish _) rfl
  · exact .kept unbound rfl

theorem final_submit (payload : Bytes) (tag : Tag) :
    Final works turn.manager (turn.submit payload tag).2 := by
  unfold submit
  split
  · next session _ =>
    split
    · exact .kept (unbound.submit store session payload tag) rfl
    · exact .kept unbound rfl
  · exact .kept unbound rfl

/-! ### Reports of the radio -/

variable (settings : RadioSettings)

theorem final_reset : Final works turn.manager turn.reset := by
  have torn : turn.nextAttempt.teardown.Unbound works := Unbound.teardown store unbound
  exact .disconnected (Unbound.publish torn _) rfl

omit store in
theorem rejoinSaved_forgotten : turn.rejoinSaved settings = turn := by
  simp [rejoinSaved, saved, unbound.2.2]

omit store in
theorem rejoinRestored_forgotten (restored : turn.manager.restored = none) :
    turn.rejoinRestored settings = { turn with
      manager := { turn.manager with wasRestored := false, restored := none } } := by
  have forgetful : Unbound works { turn with
      manager := { turn.manager with wasRestored := false, restored := none } } := unbound
  unfold rejoinRestored
  simp only [restored]
  exact rejoinSaved_forgotten forgetful settings

omit store unbound in
theorem connecting_of_rejoinRestored (turn : LinkTurn ω) {kept : RestoredPeripheral}
    (restored : turn.manager.restored = some kept) :
    (turn.rejoinRestored settings).manager.state = .connecting := by
  unfold rejoinRestored
  simp only [restored]
  split
  · simp
  · rfl
  · rfl
  · rfl

theorem final_powerChanged (power : Power) :
    Final works turn.manager (turn.powerChanged settings power) ↔
      ¬(power = .on ∧ (turn.manager.state = .idle ∨ turn.manager.state = .disconnected) ∧
        turn.manager.wasRestored = true ∧ turn.manager.restored ≠ none) := by
  cases power with
  | off | unknown => exact iff_of_true (final_reset store unbound) (by simp)
  | on =>
    have idle := unbound.publish .idle
    rcases turn.powerOn_cases settings with ⟨resting, rejoins⟩ | ⟨busy, same⟩
    · rw [rejoins]
      split
      · next restarted =>
        -- Only a peripheral that was handed back still has something to connect to.
        cases restored : turn.manager.restored with
        | none =>
          rw [rejoinRestored_forgotten idle settings restored]
          exact iff_of_true ⟨idle, by simp [publish]⟩ (by simp)
        | some kept =>
          have taken := connecting_of_rejoinRestored settings (turn.publish .idle) restored
          exact iff_of_false (fun final => final.resting resting taken) (by simp [resting, restarted])
      · next restarted =>
        rw [rejoinSaved_forgotten idle settings]
        exact iff_of_true ⟨idle, by simp [publish]⟩ (by simp [restarted])
    · rw [same]
      exact iff_of_true (.kept unbound rfl) (by simp [busy])

theorem final_channelOpened (id : PeripheralId) (result : Except String StreamPair) :
    Final works turn.manager (turn.channelOpened settings id result) := by
  unfold channelOpened
  split
  · split
    · exact .kept (unbound.refuse store _) rfl
    · exact .kept unbound rfl
  · split
    · exact .kept unbound rfl
    · exact .disconnected (Unbound.publish (Unbound.request store unbound
        (by simp [LinkEffect.Binds])) _) rfl

omit store in
theorem final_connected (id : PeripheralId) :
    Final works turn.manager (turn.report settings (.connected id)) ↔
      ¬turn.manager.tracked = some id := by
  unfold report
  simp only
  split
  · next tracked =>
    refine iff_of_false ?_ (not_not_intro tracked)
    intro final
    exact binding_openChannel _ settings id final.unbound
  · next untracked => exact iff_of_true (.kept unbound rfl) untracked

theorem final_linkDown (id : PeripheralId) (reconnecting : Bool) :
    Final works turn.manager (turn.linkDown id reconnecting) ↔
      ¬(turn.manager.tracked = some id ∧ reconnecting = true ∧ turn.manager.dropping = false ∧
        (turn.manager.state = .idle ∨ turn.manager.state = .disconnected)) := by
  have torn := unbound.teardown store
  unfold linkDown
  split
  · next untracked => exact iff_of_true (.kept unbound rfl) (fun hazard => untracked hazard.1)
  · next tracked =>
    rw [Decidable.not_not] at tracked
    simp only [manager_teardown, Bool.and_eq_true, Bool.not_eq_true']
    split
    · next waiting =>
      constructor
      -- A stack that retries by itself puts the manager back to connecting, whatever its state was.
      · intro final hazard
        exact final.resting hazard.2.2.2 rfl
      · intro harmless
        exact ⟨torn.publish _, fun resting => absurd ⟨tracked, waiting.1, waiting.2, resting⟩ harmless⟩
    · next final =>
      refine iff_of_true (.disconnected (Unbound.publish torn _) rfl) ?_
      exact fun hazard => final ⟨hazard.2.1, hazard.2.2.1⟩

theorem final_report (unscanning : turn.manager.state ≠ .scanning)
    (report : RadioReport) : Final works turn.manager (turn.report settings report) ↔
      ¬turn.manager.Hazard turn.world (.report report) := by
  have same : Final works turn.manager turn := .kept unbound rfl
  -- A discovery is passed over without a scan, and of the others only the three reports that can be
  -- hazards have an exact condition.
  cases report with
  | power power => exact final_powerChanged store unbound settings power
  | restored kept =>
    obtain ⟨restored, noted⟩ := turn.restored_cases settings kept
    rw [noted]
    exact iff_of_true (.kept unbound rfl) (fun hazard => hazard)
  | discovered id =>
    refine iff_of_true ?_ (fun hazard => hazard)
    unfold LinkTurn.report found
    simp only [unscanning, if_false]
    exact same
  | connected id => exact final_connected unbound settings id
  | connectFailed id =>
    refine iff_of_true ?_ (fun hazard => hazard)
    unfold LinkTurn.report
    simp only
    split
    · exact .disconnected (Unbound.publish (unbound.teardown store) _) rfl
    · exact same
  | disconnected id reconnecting => exact final_linkDown store unbound id reconnecting
  | services id result =>
    refine iff_of_true ?_ (fun hazard => hazard)
    rcases turn.services_cases settings id result with passed | asked
    · rwa [passed]
    · rw [asked]
      exact .kept (unbound.request store (by simp [LinkEffect.Binds])) rfl
  | characteristics id service result =>
    refine iff_of_true ?_ (fun hazard => hazard)
    rcases turn.characteristics_cases settings id service result with passed | ⟨uuid, asked⟩
    · rwa [passed]
    · rw [asked]
      exact .kept (unbound.request store (by simp [LinkEffect.Binds])) rfl
  | notification | value => exact iff_of_true same (fun hazard => hazard)
  | channelOpened id result =>
    exact iff_of_true (final_channelOpened store unbound settings id result) (fun hazard => hazard)

theorem final_channelLost {before : Manager} {id : PeripheralId}
    (underway : ¬(before.state = .idle ∨ before.state = .disconnected))
    (tracked : turn.manager.tracked = some id) :
    Final works before (turn.channelLost settings) ↔
      ¬(Radio.link turn.teardown.world id = .connected ∧ turn.manager.reopens < maxReopens) := by
  have torn := unbound.teardown store
  -- The session was open, so the state was not at rest and only what is taken up counts.
  have vacuous : ∀ {next : LinkTurn ω}, next.Unbound works → Final works before next :=
    fun after => ⟨after, fun resting => absurd resting underway⟩
  unfold channelLost
  simp only [manager_teardown, tracked]
  split
  · next up =>
    split
    · next few =>
      refine iff_of_false ?_ (not_not_intro ⟨up, few⟩)
      intro final
      exact binding_openChannel _ settings id final.unbound
    · next many =>
      refine iff_of_true (vacuous ((torn.request store ?_).publish _)) fun hazard => many hazard.2
      simp [LinkEffect.Binds]
  · next down => exact iff_of_true (vacuous (torn.publish _)) (by simp [down])
  · next down => exact iff_of_true (vacuous (torn.publish _)) (by simp [down])
  · next down => exact iff_of_true (vacuous (torn.publish _)) (by simp [down])

theorem final_streamEvent (consistent : turn.manager.Consistent) (event : StreamEvent) :
    Final works turn.manager (turn.streamEvent settings event).2 ↔
      ¬turn.manager.Hazard turn.world (.streamEvent event) := by
  cases slot : turn.manager.slot with
  | vacant | opening =>
    refine iff_of_true ?_ ?_
    · simpa only [streamEvent, slot] using Final.kept unbound rfl
    · rintro ⟨session, id, error, live, -⟩
      rw [slot] at live
      cases live
  | live session =>
    rw [Manager.Consistent, slot] at consistent
    obtain ⟨id, tracked, state⟩ := consistent.of_live
    have underway : ¬(turn.manager.state = .idle ∨ turn.manager.state = .disconnected) := by
      rcases state with ⟨state, -⟩ | ⟨state, -⟩ <;> simp [state]
    have absorbed := unbound.handle store session event
    simp only [streamEvent, slot]
    cases outcome : (session.handle event turn.world).1 with
    | nothing | frames frames =>
      refine iff_of_true (.kept absorbed rfl) ?_
      rintro ⟨other, id, error, live, -, ended, -⟩
      cases slot.symm.trans live
      simp [outcome] at ended
    | opened =>
      refine iff_of_true ⟨Unbound.publish absorbed _, by simp [publish]⟩ ?_
      rintro ⟨other, id, error, live, -, ended, -⟩
      cases slot.symm.trans live
      simp [outcome] at ended
    -- Only the end of the session can lead to a reopening.
    | terminated error =>
      rw [final_channelLost store absorbed settings underway tracked]
      refine not_congr ⟨?_, ?_⟩
      · rintro ⟨up, few⟩
        exact ⟨session, id, error, slot, tracked, outcome, up, few⟩
      · rintro ⟨other, same, error, live, known, -, up, few⟩
        cases slot.symm.trans live
        cases tracked.symm.trans known
        exact ⟨up, few⟩

end Operations

variable [Radio ω] [Streams ω] [IdentityStore ω] {works : ω → Prop} {settings : RadioSettings}

def Granted (turn : LinkTurn ω) (settings : RadioSettings) (operation : LinkOperation) : Prop :=
  operation = .connect ∧ (turn.connect settings).1 = .ok ()

/-- What an operation leaves is final unless it is one of the hazards. -/
theorem final_operate (store : WorkingStore works) {turn : LinkTurn ω}
    (unbound : turn.Unbound works) (consistent : turn.manager.Consistent)
    (unscanning : turn.manager.state ≠ .scanning) {operation : LinkOperation}
    (ungranted : ¬turn.Granted settings operation) :
    Final works turn.manager (turn.operate settings operation) ↔
      ¬turn.manager.Hazard turn.world operation := by
  cases operation with
  | connect =>
    have refused : (turn.connect settings).1 ≠ .ok () := fun granted => ungranted ⟨rfl, granted⟩
    exact iff_of_true (final_connect unbound refused) (fun hazard => hazard)
  | disconnect => exact iff_of_true (final_disconnect store unbound) (fun hazard => hazard)
  | scanTimeout attempt =>
    exact iff_of_true (final_scanTimeout store unbound attempt) (fun hazard => hazard)
  | report report => exact final_report store unbound settings unscanning report
  | streamEvent event => exact final_streamEvent store unbound settings consistent event
  | submit payload tag =>
    exact iff_of_true (final_submit store unbound payload tag) (fun hazard => hazard)

end LinkTurn

end Sightline
