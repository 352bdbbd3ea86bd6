import Sightline.Bench.Rig
import Sightline.Proofs.Link.Final
import Sightline.Proofs.Link.Steps

/-! What a disconnection by the user is followed by.

A user who disconnects is done with the glasses: until the next wish to connect, nothing should be
saved, connected to or opened. That is so exactly when the disconnection leaves no peripheral tracked
and none remembered from a restart (`disconnect_final_iff`); otherwise some report of the radio or of
the streams, on its way already, takes the glasses up again. -/

set_option autoImplicit false

namespace Sightline

namespace LinkTurn

variable {ω : Type} [Radio ω] [Streams ω] [IdentityStore ω] {works : ω → Prop}
  {settings : RadioSettings}

theorem unscanning_of_steps {given : Option StreamPair} {start turn : LinkTurn ω}
    (steps : Steps given start turn) (unscanning : start.manager.state ≠ .scanning) :
    turn.manager.state ≠ .scanning := by
  -- A small step publishes any state but that of a scan.
  induction steps with
  | refl => exact unscanning
  | publish state _ other _ => exact other
  | notes _ same _ ih => rwa [same]
  | teardown _ ih => simpa using ih
  | request _ _ ih | saveIdentity _ _ ih | clearIdentity _ ih | setSlot _ _ _ ih
  | adopt _ _ _ _ ih | refuse _ _ ih | handle _ _ _ ih => exact ih

/-- Only a wish to connect that is granted starts a scan. -/
theorem unscanning_operate {turn : LinkTurn ω} {operation : LinkOperation}
    (ungranted : ¬turn.Granted settings operation) (unscanning : turn.manager.state ≠ .scanning) :
    (turn.operate settings operation).manager.state ≠ .scanning := by
  cases operation with
  | connect =>
    rcases turn.connect_cases settings with ⟨accepted, -⟩ | ⟨refusal, refused⟩
    · exact absurd ⟨rfl, by rw [accepted]⟩ ungranted
    · rwa [operate, refused]
  | submit payload tag =>
    simp only [operate, submit]
    split
    · split <;> exact unscanning
    · exact unscanning
  | disconnect | scanTimeout | report | streamEvent =>
    exact unscanning_of_steps (turn.steps_operate settings (by simp) (by simp)) unscanning

theorem disconnect_leaves (turn : LinkTurn ω) : turn.disconnect.manager.state ≠ .scanning ∧
    turn.disconnect.manager.restored = turn.manager.restored := by
  rcases turn.disconnect_cases with ⟨-, left⟩ | ⟨-, -, left⟩ | ⟨other, id, -, -, left⟩ |
    ⟨-, id, -, -, left⟩
  · rw [left]
    exact ⟨by simp [publish], rfl⟩
  · rw [left]
    exact ⟨by simp [publish], by simp [publish, clearIdentity]⟩
  · rw [left]
    exact ⟨other, rfl⟩
  · rw [left]
    exact ⟨by simp [publish], by simp [publish, untrack, clearIdentity]⟩

/-- A peripheral stays tracked if a scan was running or its link is not down yet. -/
theorem untracked_disconnect_iff (turn : LinkTurn ω) :
    turn.disconnect.manager.tracked = none ↔ ∀ id, turn.manager.tracked = some id →
      turn.manager.state ≠ .scanning ∧
        Radio.link (IdentityStore.clear turn.world).2 id = .disconnected := by
  rcases turn.disconnect_cases with ⟨scanning, left⟩ | ⟨-, untracked, left⟩ |
    ⟨-, id, tracked, link, left⟩ | ⟨other, id, tracked, link, left⟩
  · have same : (((turn.clearIdentity.request .stopScan).nextAttempt).publish
        .disconnected).manager.tracked = turn.manager.tracked := rfl
    rw [left, same]
    simp [scanning, Option.eq_none_iff_forall_ne_some]
  · rw [left]
    simp [publish, clearIdentity, untracked]
  · rw [left]
    refine iff_of_false (by simp [request, setDropping, clearIdentity, tracked]) ?_
    intro down
    exact link (down id tracked).2
  · rw [left]
    refine iff_of_true (by simp [publish, untrack]) ?_
    intro other_id same
    cases tracked.symm.trans same
    exact ⟨other, link⟩

theorem disconnected_of_untracked {turn : LinkTurn ω}
    (untracked : turn.disconnect.manager.tracked = none) :
    turn.disconnect.manager.state = .disconnected := by
  rcases turn.disconnect_cases with ⟨-, left⟩ | ⟨-, -, left⟩ | ⟨-, id, tracked, -, left⟩ |
    ⟨-, id, -, -, left⟩
  · rw [left]
    rfl
  · rw [left]
    rfl
  · rw [left] at untracked
    simp [request, setDropping, clearIdentity, tracked] at untracked
  · rw [left]
    rfl

omit [Radio ω] [Streams ω] in
theorem restarted_forgotten {turn : LinkTurn ω} (unbound : turn.Unbound works)
    (kept : List RestoredPeripheral) : turn.restartReported kept
      = { turn with manager := { turn.manager with wasRestored := true } } := by
  have forgotten : ({ turn with manager := { turn.manager with wasRestored := true } } :
      LinkTurn ω).saved = none := by simp [saved, unbound.2.2]
  simp only [restartReported, forgotten]

def Released (turn : LinkTurn ω) : Prop :=
  turn.manager.tracked = none ∧ turn.manager.restored = none

section Released

variable {turn : LinkTurn ω} (released : turn.Released)

include released

omit [IdentityStore ω] in
theorem Released.harmless (operation : LinkOperation) :
    ¬turn.manager.Hazard turn.world operation := by
  intro hazard
  cases operation with
  | connect | disconnect | scanTimeout | submit => exact hazard
  | streamEvent event =>
    obtain ⟨session, id, error, -, tracked, -⟩ := hazard
    simp [released.1] at tracked
  | report report =>
    cases report with
    | power => exact hazard.2.2.2 released.2
    | connected id => simp [Manager.Hazard, released.1] at hazard
    | disconnected id => simp [Manager.Hazard, released.1] at hazard
    | restored | discovered | connectFailed | services | characteristics | notification | value
    | channelOpened => exact hazard

theorem released_disconnect : turn.disconnect.Released := by
  refine ⟨?_, (turn.disconnect_leaves).2.trans released.2⟩
  rw [untracked_disconnect_iff]
  intro id tracked
  simp [released.1] at tracked

theorem released_report (unbound : turn.Unbound works) (vacant : turn.manager.slot = .vacant)
    (unscanning : turn.manager.state ≠ .scanning) (report : RadioReport) :
    (turn.report settings report).Released := by
  -- With nothing tracked and nothing restored no report has anything to resume.
  cases report with
  | power power =>
    cases power with
    | off | unknown =>
      simp only [LinkTurn.report, LinkTurn.powerChanged, Released, manager_reset, and_self]
    | on =>
      have idle := unbound.publish .idle
      rcases turn.powerOn_cases settings with ⟨-, rejoins⟩ | ⟨-, same⟩
      · simp only [LinkTurn.report, rejoins]
        split
        · rw [rejoinRestored_forgotten idle settings released.2]
          exact ⟨released.1, rfl⟩
        · rw [rejoinSaved_forgotten idle settings]
          exact released
      · simp only [LinkTurn.report, same]
        exact released
  | restored kept =>
    rw [LinkTurn.report, restarted_forgotten unbound]
    exact released
  | discovered id => simpa [LinkTurn.report, found, unscanning] using released
  | connected id => simpa [LinkTurn.report, released.1] using released
  | connectFailed id => simpa [LinkTurn.report, released.1] using released
  | disconnected id => simpa [LinkTurn.report, linkDown, released.1] using released
  | services id result =>
    rcases turn.services_cases settings id result with same | asked
    · rwa [same]
    · rwa [asked]
  | characteristics id service result =>
    rcases turn.characteristics_cases settings id service result with same | ⟨uuid, asked⟩
    · rwa [same]
    · rwa [asked]
  | notification | value => exact released
  | channelOpened id result =>
    simp only [LinkTurn.report, channelOpened, vacant]
    cases result <;> exact released

theorem released_operate (unbound : turn.Unbound works) (vacant : turn.manager.slot = .vacant)
    (unscanning : turn.manager.state ≠ .scanning) {operation : LinkOperation}
    (ungranted : ¬turn.Granted settings operation) :
    (turn.operate settings operation).Released := by
  cases operation with
  | connect =>
    rcases turn.connect_cases settings with ⟨accepted, -⟩ | ⟨refusal, refused⟩
    · exact absurd ⟨rfl, by rw [accepted]⟩ ungranted
    · rwa [operate, refused]
  | disconnect => exact released_disconnect released
  | scanTimeout attempt => simpa [operate, scanTimeout, unscanning] using released
  | report report => exact released_report released unbound vacant unscanning report
  | streamEvent event => simpa [operate, streamEvent, vacant] using released
  | submit payload tag => simpa [operate, submit, vacant] using released

end Released

end LinkTurn

section Aftermath

variable {ω : Type} [Radio ω] [Streams ω] [IdentityStore ω]

/-- What can be left after a disconnection, and the surroundings that the next operation meets, while
every operation so far was final. Between two operations the surroundings may become anything in which
the store works and remembers the same. -/
inductive Aftermath (works : ω → Prop) (settings : RadioSettings) (left : LinkTurn ω) :
    Manager → ω → Prop where
  | returned {world : ω} : Later works left.world world →
      Aftermath works settings left left.manager world
  | next {manager : Manager} {world later : ω} (operation : LinkOperation) :
      Aftermath works settings left manager world →
      ¬LinkTurn.Granted { manager, world } settings operation →
      LinkTurn.Final works manager (LinkTurn.operate { manager, world } settings operation) →
      Later works (LinkTurn.operate { manager, world } settings operation).world later →
      Aftermath works settings left
        (LinkTurn.operate { manager, world } settings operation).manager later

variable {works : ω → Prop} {settings : RadioSettings} {left : LinkTurn ω}

omit [Radio ω] [Streams ω] in
theorem unbound_of_forgotten {manager : Manager} {world : ω} (forgotten : Forgotten works world) :
    LinkTurn.Unbound works { manager, world } :=
  ⟨by simp, forgotten⟩

theorem Aftermath.holds {manager : Manager} {world : ω}
    (aftermath : Aftermath works settings left manager world)
    (reachable : left.manager.Reachable ω settings) (forgotten : Forgotten works left.world)
    (unscanning : left.manager.state ≠ .scanning) :
    manager.Consistent ∧ Forgotten works world ∧ manager.state ≠ .scanning := by
  have reached : manager.Reachable ω settings ∧ Forgotten works world ∧
      manager.state ≠ .scanning := by
    induction aftermath with
    | returned later => exact ⟨reachable, forgotten.later later, unscanning⟩
    | @next manager world _ operation _ ungranted final later ih =>
      obtain ⟨reached, _, unscanning⟩ := ih
      exact ⟨reached.step operation world, final.unbound.2.later later,
        LinkTurn.unscanning_operate ungranted unscanning⟩
  exact ⟨Manager.consistent_of_reachable reached.1, reached.2⟩

theorem Aftermath.released {manager : Manager} {world : ω}
    (aftermath : Aftermath works settings left manager world)
    (reachable : left.manager.Reachable ω settings) (forgotten : Forgotten works left.world)
    (unscanning : left.manager.state ≠ .scanning) (released : left.Released) :
    LinkTurn.Released ({ manager, world } : LinkTurn ω) := by
  induction aftermath with
  | returned later => exact released
  | @next manager world _ operation before ungranted final later ih =>
    obtain ⟨consistent, empty, still⟩ := before.holds reachable forgotten unscanning
    -- With nothing tracked no slot is taken, so there is no channel and no stream to be told of.
    have vacant : manager.slot = .vacant := by
      rw [Manager.Consistent, show manager.tracked = none from ih.1] at consistent
      exact consistent.vacant_of_untracked
    exact LinkTurn.released_operate ih (unbound_of_forgotten empty) vacant still ungranted

/-- The operation may come next, and it is no wish to connect that is granted. -/
def Aftermath.Coming (works : ω → Prop) (settings : RadioSettings) (left : LinkTurn ω)
    (manager : Manager) (world : ω) (operation : LinkOperation) : Prop :=
  Aftermath works settings left manager world ∧
    ¬LinkTurn.Granted { manager, world } settings operation

theorem Aftermath.final_iff {manager : Manager} {world : ω} {operation : LinkOperation}
    (store : WorkingStore works) (reachable : left.manager.Reachable ω settings)
    (forgotten : Forgotten works left.world) (unscanning : left.manager.state ≠ .scanning)
    (coming : Coming works settings left manager world operation) :
    LinkTurn.Final works manager (LinkTurn.operate { manager, world } settings operation) ↔
      ¬manager.Hazard world operation := by
  obtain ⟨consistent, empty, still⟩ := coming.1.holds reachable forgotten unscanning
  exact LinkTurn.final_operate store (unbound_of_forgotten empty) consistent still coming.2

/-- If all that can come is final, then nothing is tracked or remembered: a late report that the link is
up would find the one, and the radio coming on after a restart the other. -/
theorem Aftermath.released_of_final (store : WorkingStore works)
    (reachable : left.manager.Reachable ω settings) (forgotten : Forgotten works left.world)
    (unscanning : left.manager.state ≠ .scanning)
    (resting : left.manager.tracked = none → left.manager.state = .disconnected)
    (final : ∀ manager world operation, Coming works settings left manager world operation →
      LinkTurn.Final works manager (LinkTurn.operate { manager, world } settings operation)) :
    left.Released := by
  have here : Aftermath works settings left left.manager left.world :=
    .returned ⟨forgotten.1, rfl⟩
  have harmless : ∀ manager world operation, Coming works settings left manager world operation →
      ¬manager.Hazard world operation := by
    intro manager world operation coming
    exact (final_iff store reachable forgotten unscanning coming).mp (final _ _ _ coming)
  -- A link that is said to be up at once would find a tracked peripheral.
  have untracked : left.manager.tracked = none := by
    cases tracked : left.manager.tracked with
    | none => rfl
    | some id =>
      exact absurd tracked (harmless _ _ (.report (.connected id)) ⟨here, by simp [LinkTurn.Granted]⟩)
  refine ⟨untracked, ?_⟩
  cases restored : left.manager.restored with
  | none => rfl
  | some kept =>
    -- A second restart that kept nothing is reported, and then the radio comes on.
    have first : Coming works settings left left.manager left.world (.report (.restored [])) :=
      ⟨here, by simp [LinkTurn.Granted]⟩
    have next := Aftermath.next _ first.1 first.2 (final _ _ _ first)
      ⟨(final _ _ _ first).unbound.2.1, rfl⟩
    have same : LinkTurn.operate { manager := left.manager, world := left.world } settings
        (.report (.restored [])) = { manager := { left.manager with wasRestored := true }
                                     world := left.world } :=
      LinkTurn.restarted_forgotten (unbound_of_forgotten forgotten) []
    rw [same] at next
    have hazard := harmless _ _ (.report (.power .on)) ⟨next, by simp [LinkTurn.Granted]⟩
    exact absurd ⟨rfl, .inr (resting untracked), rfl, by simp [restored]⟩ hazard

/-- After a disconnection by the user, and until the next wish to connect that is granted, an operation
saves, connects to or opens nothing, leaves the store empty and does not start connecting, unless it is
one of the hazards. All that can come is final exactly when no peripheral was remembered from a restart
and a tracked one, if any, was seen to be disconnected already, with no scan running. -/
theorem disconnect_final_iff (store : WorkingStore works) {manager : Manager}
    (reachable : manager.Reachable ω settings) {world : ω} (working : works world) :
    let left := LinkTurn.disconnect { manager, world }
    (∀ later now operation, Aftermath.Coming works settings left later now operation →
      (LinkTurn.Final works later
        (LinkTurn.operate { manager := later, world := now } settings operation) ↔
          ¬later.Hazard now operation)) ∧
    ((∀ later now operation, Aftermath.Coming works settings left later now operation →
      LinkTurn.Final works later
        (LinkTurn.operate { manager := later, world := now } settings operation)) ↔
      manager.restored = none ∧ ∀ id, manager.tracked = some id → manager.state ≠ .scanning ∧
        Radio.link (IdentityStore.clear world).2 id = .disconnected) := by
  intro left
  have reached : left.manager.Reachable ω settings := reachable.step .disconnect world
  obtain ⟨unscanning, restored⟩ := LinkTurn.disconnect_leaves ({ manager, world } : LinkTurn ω)
  have unbound : left.Unbound works := LinkTurn.unbound_disconnect store working (by simp)
  have steps : ∀ later now operation, Aftermath.Coming works settings left later now operation →
      (LinkTurn.Final works later
        (LinkTurn.operate { manager := later, world := now } settings operation) ↔
          ¬later.Hazard now operation) :=
    fun _ _ _ coming => Aftermath.final_iff store reached unbound.2 unscanning coming
  -- Every later step is final just when nothing is left to resume: neither a tracked peripheral
  -- nor a restored one.
  refine ⟨steps, ?_⟩
  rw [← LinkTurn.untracked_disconnect_iff ({ manager, world } : LinkTurn ω)]
  constructor
  · intro final
    have released := Aftermath.released_of_final store reached unbound.2 unscanning
      LinkTurn.disconnected_of_untracked final
    exact ⟨restored.symm.trans released.2, released.1⟩
  · rintro ⟨unrestored, untracked⟩
    have released : left.Released := ⟨untracked, restored.trans unrestored⟩
    intro later now operation coming
    rw [steps later now operation coming]
    exact (coming.1.released reached unbound.2 unscanning released).harmless operation

end Aftermath

namespace Bench.Rig

def StoreWorks (rig : Rig) : Prop := rig.loadFails = false ∧ rig.clearFails = false

theorem later_of_change {α : Type} {rig : Rig} (works : rig.StoreWorks) (handle : Handle)
    (absent : α) (act : Wire → α × Wire) :
    Later StoreWorks rig (rig.change handle absent act).2 := by
  unfold change
  split
  · exact ⟨works, rfl⟩
  · exact ⟨works, rfl⟩

theorem workingStore : WorkingStore StoreWorks where
  clear rig works := by
    simp [IdentityStore.clear, IdentityStore.load, Forgotten, StoreWorks, works.1, works.2]
  perform rig request works := by
    cases request <;> exact ⟨works, rfl⟩
  read rig handle wanted works := later_of_change works handle _ _
  write rig handle offered works := later_of_change works handle _ _
  closeInbound rig handle works := later_of_change works handle _ _
  closeOutbound rig handle works := later_of_change works handle _ _

end Bench.Rig

/-- Glasses whose link is down already are let go for good. -/
theorem disconnect_final_down :
    let glasses : PeripheralId := ⟨"glasses"⟩
    let manager : Manager := { state := .connecting, tracked := some glasses }
    manager.Reachable Bench.Rig {} ∧ ∀ later now operation,
      Aftermath.Coming Bench.Rig.StoreWorks {} (LinkTurn.disconnect { manager, world := {} })
        later now operation →
      LinkTurn.Final Bench.Rig.StoreWorks later
        (LinkTurn.operate { manager := later, world := now } {} operation) := by
  intro glasses manager
  let rig : Bench.Rig := { power := .on, saved := some glasses }
  have reachable : manager.Reachable Bench.Rig {} :=
    Manager.Reachable.new |>.step (.report (.power .on)) rig
  have working : Bench.Rig.StoreWorks {} := ⟨rfl, rfl⟩
  have final := (disconnect_final_iff Bench.Rig.workingStore reachable working).2.mpr
  refine ⟨reachable, final ⟨rfl, ?_⟩⟩
  intro id _
  exact ⟨by simp [manager], rfl⟩

/-- A report that the link is up, on its way when the user disconnects, saves the glasses again and
opens a channel to them. -/
theorem disconnect_not_final :
    let glasses : PeripheralId := ⟨"glasses"⟩
    let rig : Bench.Rig := { power := .on, links := [(glasses, .connecting)] }
    let manager : Manager := { state := .connecting, tracked := some glasses, attempt := 2 }
    let left := LinkTurn.disconnect { manager, world := rig }
    let late := LinkTurn.operate { manager := left.manager, world := left.world } {}
      (.report (.connected glasses))
    manager.Reachable Bench.Rig {} ∧ rig.StoreWorks ∧ left.world.saved = none ∧
      Aftermath.Coming Bench.Rig.StoreWorks {} left left.manager left.world
        (.report (.connected glasses)) ∧
      .saveIdentity glasses ∈ late.effects ∧
      .radio (.openChannel glasses defaultPsm) ∈ late.effects ∧
      late.world.saved = some glasses ∧
      ¬LinkTurn.Final Bench.Rig.StoreWorks left.manager late := by
  intro glasses rig manager left late
  have reachable : manager.Reachable Bench.Rig {} :=
    Manager.Reachable.new |>.step (.report (.power .on)) rig
      |>.step .connect rig |>.step (.report (.discovered glasses none none)) rig
  have effects : late.effects = #[.saveIdentity glasses, .published .connecting,
      .radio (.discoverServices glasses ({} : RadioSettings).service),
      .radio (.openChannel glasses defaultPsm)] := rfl
  have saves : .saveIdentity glasses ∈ late.effects := by simp [effects]
  refine ⟨reachable, ⟨rfl, rfl⟩, rfl, ⟨.returned ⟨⟨rfl, rfl⟩, rfl⟩, by simp [LinkTurn.Granted]⟩,
    saves, by simp [effects], rfl, ?_⟩
  intro final
  exact final.unbound.1 _ saves trivial

end Sightline
