import Sightline.Bench.Rig
import Sightline.Proofs.Link.History

/-! Whether a link that the radio brings back is waited for.

A link that is dropped on purpose is marked, so that its loss is final. The mark is not one of the link:
it stays until a loss of a tracked peripheral's link is handled or the radio loses power, and meets
whatever link is tracked by then (`reconnect_awaited_iff`). -/

set_option autoImplicit false

namespace Sightline

def RadioRequest.cancels : RadioRequest → Bool
  | .cancelConnection _ => true
  | _ => false

namespace LinkStep

/-- The tracking of a peripheral begins: it was found, or is remembered, or was kept over a restart, and
is connected to or taken over. -/
def tracks (step : LinkStep) : Bool :=
  (match step.operation with
    | .report (.discovered _ _ _) | .report (.power _) => true
    | _ => false) &&
  step.before.state ≠ .connecting && step.after.state = .connecting

/-- A link is dropped on purpose: by the user, or because its channel could not be opened. -/
def drops (step : LinkStep) : Bool :=
  (match step.operation with
    | .disconnect | .report (.channelOpened _ (.error _)) => true
    | _ => false) &&
  step.asked.any RadioRequest.cancels

/-- The loss of a tracked peripheral's link is handled, or the radio is lost. -/
def settles (step : LinkStep) : Bool :=
  match step.operation with
  | .report (.disconnected id _ _) => step.before.tracked = some id
  | _ => step.losesPower

/-- The user wished to disconnect, or a channel to the peripheral could not be opened. -/
def spoils (id : PeripheralId) (step : LinkStep) : Bool :=
  match step.operation with
  | .disconnect => true
  | .report (.channelOpened other (.error _)) => other = id
  | _ => false

inductive DropMove (step : LinkStep) : Prop where
  | settled : step.settles = true → step.after.dropping = false → DropMove step
  | dropped : step.settles = false → step.drops = true → step.after.dropping = true → DropMove step
  | kept : step.settles = false → step.drops = false → step.after.dropping = step.before.dropping →
      DropMove step

theorem drop_move {settings : RadioSettings} {step : LinkStep}
    (operates : Manager.Operates settings step.before step.operation step.after step.asked) :
    DropMove step := by
  obtain ⟨before, operation, after, asked⟩ := step
  simp only at operates
  -- The mark is set by the two drops of a live link and cleared by what settles the link.
  cases operates with
  | powerLost lost => exact .settled (by simpa [settles, losesPower] using lost) rfl
  | linkAwaited tracked unmarked => exact .settled (by simpa [settles] using tracked) unmarked
  | linkLost tracked => exact .settled (by simpa [settles] using tracked) rfl
  | dropped => exact .dropped rfl rfl rfl
  | channelFailed => exact .dropped rfl rfl rfl
  | scanEnded _ ended =>
    rcases ended with rfl | rfl
    · exact .kept rfl rfl rfl
    · exact .kept rfl rfl rfl
  | stranger other news =>
    rcases news with rfl | ⟨_, rfl⟩ | ⟨_, _, rfl⟩
    · exact .kept rfl rfl rfl
    · exact .kept rfl rfl rfl
    · exact .kept (by simpa [settles] using other) rfl rfl
  | unasked =>
    refine .kept rfl ?_ rfl
    simp [drops]
  | sessionless _ news | served _ news =>
    rcases news with ⟨_, rfl⟩ | ⟨_, _, rfl⟩
    · exact .kept rfl rfl rfl
    · exact .kept rfl rfl rfl
  | _ => exact .kept rfl rfl rfl

/-- Tracking goes on only with what was tracked before, unless it begins. -/
theorem tracked_before {settings : RadioSettings} {step : LinkStep}
    (operates : Manager.Operates settings step.before step.operation step.after step.asked)
    (unbegun : step.tracks = false) {id : PeripheralId} (tracked : step.after.tracked = some id) :
    step.before.tracked = some id := by
  obtain ⟨before, operation, after, asked⟩ := step
  simp only at operates tracked ⊢
  cases operates with
  | droppedBefore | linkFailed | linkLost | powerLost => cases tracked
  | adopted resting | rejoined resting =>
    rcases resting with state | state <;> simp [tracks, state] at unbegun
  | found scanning => simp [tracks, scanning] at unbegun
  | _ => exact tracked

end LinkStep

open LinkStep

variable {ω : Type} [Radio ω] [Streams ω] [IdentityStore ω] {settings : RadioSettings}
  {past : List LinkStep} {manager : Manager}

namespace Manager

/-- The mark of a dropped link is there exactly if a link was dropped and that was not settled yet. -/
theorem Run.dropping_iff (run : Run ω settings past manager) :
    manager.dropping = true ↔ ∃ step ∈ since settles past, step.drops = true := by
  refine run.holds (by simp) fun past step _ operates kept => ?_
  cases drop_move operates with
  | settled settles unmarked => simp [since_cons, settles, unmarked]
  | dropped unsettled drops marked => simp [since_cons, unsettled, drops, marked]
  | kept unsettled undropped same => simpa [since_cons, unsettled, undropped, same] using kept

theorem Run.tracked_since (run : Run ω settings past manager) :
    ∀ id, manager.tracked = some id → ∀ step ∈ since tracks past, step.before.tracked = some id := by
  refine run.holds (by simp) fun past step _ operates kept id tracked => ?_
  cases begun : step.tracks with
  | true => simp [since_cons, begun]
  | false =>
    have before := tracked_before operates begun tracked
    simpa [since_cons, begun, before] using kept id before

/-- A link that was not to be dropped was not dropped: its own channel is the only one that can fail. -/
theorem Run.undropped (run : Run ω settings past manager) {id : PeripheralId}
    (tracked : manager.tracked = some id)
    (unspoiled : ∀ step ∈ since tracks past, step.spoils id = false) :
    ∀ step ∈ since tracks past, step.drops = false := by
  intro step member
  have same := run.tracked_since id tracked step member
  obtain ⟨consistent, operates⟩ := run.operated step (since_subset _ _ member)
  have clear := unspoiled step member
  obtain ⟨before, operation, after, asked⟩ := step
  simp only at operates same consistent
  cases operates with
  | scanEnded | adopted | rejoined | found | linkedUp | reopened => simp [drops, RadioRequest.cancels]
  | dropped => simp [spoils] at clear
  | channelFailed expected =>
    rw [Manager.Consistent, expected] at consistent
    simp [spoils, Option.some.inj (consistent.of_opening.2.symm.trans same)] at clear
  | _ => simp [drops]

omit [Radio ω] [Streams ω] [IdentityStore ω] in
theorem Operates.lost {id : PeripheralId} {reason : Option String} {after : Manager}
    {asked : List RadioRequest}
    (operates : Operates settings manager (.report (.disconnected id true reason)) after asked)
    (tracked : manager.tracked = some id) :
    (after.tracked = some id ↔ manager.dropping = false) ∧
      (after.tracked = some id → after.state = .connecting) := by
  cases operates with
  | scanEnded _ impossible | sessionless _ impossible | served _ impossible => simp at impossible
  | @stranger named _ other news =>
    have same : id = named := by simpa using news
    exact absurd (same ▸ tracked) other
  | linkAwaited _ unmarked => exact ⟨iff_of_true tracked unmarked, fun _ => rfl⟩
  | linkLost _ final => simp [final.resolve_left (by simp)]

omit [Radio ω] [Streams ω] [IdentityStore ω] in
theorem Operates.up {id : PeripheralId} {after : Manager} {asked : List RadioRequest}
    (operates : Operates settings manager (.report (.connected id)) after asked) :
    .openChannel id settings.psm ∈ asked ↔ manager.tracked = some id := by
  cases operates with
  | scanEnded _ impossible | sessionless _ impossible | served _ impossible => simp at impossible
  | @stranger named _ other news =>
    have same : id = named := by simpa using news
    simpa [same] using other
  | linkedUp tracked => simp [tracked]

end Manager

/-- Of a tracked peripheral whose link was not to be dropped, a loss that the radio mends is waited out,
and the link made use of when it is back, exactly if no link that was dropped on purpose is unsettled.
Such a link is an earlier one: the losses that settle it are those reported while their own peripheral
was tracked. -/
theorem reconnect_awaited_iff (run : Manager.Run ω settings past manager) {id : PeripheralId}
    (tracked : manager.tracked = some id)
    (unspoiled : ∀ step ∈ since tracks past, step.spoils id = false) (world : ω)
    (reason : Option String) :
    let lost := manager.step settings world (.report (.disconnected id true reason))
    (lost.after.state = .connecting ∧ lost.after.tracked = some id ↔
      ∀ step ∈ since settles past, step.drops = false) ∧
    (∀ later : ω, .openChannel id settings.psm ∈
        (lost.after.step settings later (.report (.connected id))).asked ↔
      ∀ step ∈ since settles past, step.drops = false) ∧
    ∀ step ∈ since tracks past, step.drops = false := by
  intro lost
  -- The mark is clear just when no drop came after the link was last settled.
  have clear_iff : (∀ step ∈ since settles past, step.drops = false) ↔
      manager.dropping = false := by
    rw [← Bool.not_eq_true, run.dropping_iff]
    simp
  obtain ⟨awaited, connecting⟩ := (Manager.operates settings manager world _).lost tracked
  rw [clear_iff, ← awaited]
  refine ⟨and_iff_right_of_imp connecting, fun later => ?_, run.undropped tracked unspoiled⟩
  exact (Manager.operates settings lost.after later _).up

/-- The user drops the link to the remembered glasses, which is then lost; other glasses are found, and
the loss of their link is waited out. -/
theorem reconnect_awaited_iff_settled :
    let other : PeripheralId := ⟨"other"⟩
    ∃ past manager, Manager.Run Bench.Rig {} past manager ∧
      (∃ step ∈ past, step.drops = true) ∧ manager.tracked = some other ∧
      (∀ step ∈ since tracks past, step.spoils other = false) ∧
      let lost := manager.step {} ({} : Bench.Rig) (.report (.disconnected other true none))
      lost.after.state = .connecting ∧ lost.after.tracked = some other := by
  intro other
  let glasses : PeripheralId := ⟨"glasses"⟩
  let rig : Bench.Rig := { power := .on, saved := some glasses }
  have run : ∃ past manager, Manager.Run Bench.Rig {} past manager ∧
      (∃ step ∈ past, step.drops = true) ∧ manager.tracked = some other ∧
      (∀ step ∈ since tracks past, step.spoils other = false) ∧
      ∀ step ∈ since settles past, step.drops = false := by
    refine ⟨_, _, Manager.Run.new
      |>.step (.report (.power .on)) rig
      |>.step .disconnect { rig with links := [(glasses, .connecting)] }
      |>.step (.report (.disconnected glasses false none)) rig
      |>.step .connect rig
      |>.step (.report (.discovered other none none)) rig
      |>.step (.report (.connected other)) rig, ?_⟩
    decide +kernel
  obtain ⟨past, manager, run, dropped, tracked, unspoiled, settled⟩ := run
  exact ⟨past, manager, run, dropped, tracked, unspoiled,
    (reconnect_awaited_iff run tracked unspoiled {} none).1.mpr settled⟩

/-- The user drops the link to the remembered glasses, which then fails to come up; other glasses are
found, and the loss of their link is final. -/
theorem reconnect_not_awaited :
    let other : PeripheralId := ⟨"other"⟩
    ∃ past manager, Manager.Run Bench.Rig {} past manager ∧ manager.tracked = some other ∧
      (∀ step ∈ since tracks past, step.spoils other = false) ∧
      let lost := manager.step {} ({} : Bench.Rig) (.report (.disconnected other true none))
      lost.after.state = .disconnected ∧ lost.after.tracked = none := by
  intro other
  let glasses : PeripheralId := ⟨"glasses"⟩
  let rig : Bench.Rig := { power := .on, saved := some glasses }
  refine ⟨_, _, Manager.Run.new
    |>.step (.report (.power .on)) rig
    |>.step .disconnect { rig with links := [(glasses, .connecting)] }
    |>.step (.report (.connectFailed glasses "cancelled")) rig
    |>.step .connect rig
    |>.step (.report (.discovered other none none)) rig
    |>.step (.report (.connected other)) rig, ?_⟩
  decide +kernel

end Sightline
