import Sightline.Proofs.Link.PowerLoss
import Sightline.Proofs.Link.Scan

/-! Which scan a timer ends.

A timer knows only the number of the scan that it was started for, and comes when it likes. It ends that
scan if the scanning state has held since, and otherwise it does nothing at all
(`timeout_ends_own_scan`): numbers are not given twice, and no way but a new scan leads back into the
scanning state. -/

set_option autoImplicit false

namespace Sightline

open LinkEffect (timersIn)

namespace LinkStep

/-- The number of the scan that began last, if the scanning state has held since. -/
def scanHeld? : List LinkStep → Option Nat
  | [] => none
  | step :: past =>
    if step.startsScan then some step.after.attempt
    else if step.after.state = .scanning then scanHeld? past
    else none

/-- A scan begins under a new number, outside the scanning state. -/
structure Begins (step : LinkStep) : Prop where
  wished : step.operation = .connect
  before : step.before.state ≠ .scanning
  after : step.after.state = .scanning
  numbered : step.after.attempt = step.before.attempt + 1

theorem begins_or_goes_on {settings : RadioSettings} {step : LinkStep}
    (operates : Manager.Operates settings step.before step.operation step.after step.asked) :
    (step.startsScan = true ∧ step.Begins) ∨
      (step.startsScan = false ∧ (step.after.state = .scanning →
        step.before.state = .scanning ∧ step.after.attempt = step.before.attempt)) := by
  obtain ⟨before, operation, after, asked⟩ := step
  simp only at operates
  cases operates with
  | scans resting =>
    refine .inl ⟨rfl, rfl, ?_, rfl, rfl⟩
    rintro (scanning : before.state = .scanning)
    simp [scanning] at resting
  | refused | lateTimeout | busy | restarted | unsought | notified | valued | unasked | stranger
    | sessionless => exact .inr ⟨rfl, fun scanning => ⟨scanning, rfl⟩⟩
  | dropped | handedOver | served => exact .inr ⟨rfl, fun scanning => ⟨scanning, rfl⟩⟩
  | lookedUp asked | characterised asked =>
    refine .inr ⟨?_, fun scanning => ⟨scanning, rfl⟩⟩
    rcases asked with rfl | ⟨_, rfl⟩ <;> rfl
  | scanEnded | nothingToDrop | droppedBefore | powerLost | idle | found | linkedUp | linkFailed
    | linkAwaited | linkLost | channelFailed | greeted | reopened =>
    exact .inr ⟨rfl, fun scanning => by simp at scanning⟩
  | adopted _ asked =>
    refine .inr ⟨?_, fun scanning => by simp at scanning⟩
    rcases asked with rfl | rfl <;> rfl
  | rejoined _ asked =>
    refine .inr ⟨?_, fun scanning => by simp at scanning⟩
    rcases asked with rfl | rfl | rfl <;> rfl
  | channelLost _ states asked =>
    refine .inr ⟨?_, fun scanning => ?_⟩
    · rcases asked with rfl | ⟨_, rfl⟩ <;> rfl
    · rcases states with rfl | rfl <;> simp at scanning

end LinkStep

open LinkStep

variable {ω : Type} [Radio ω] [Streams ω] [IdentityStore ω] {settings : RadioSettings}
  {past : List LinkStep} {manager : Manager}

theorem Manager.Run.scanHeld (run : Manager.Run ω settings past manager) :
    scanHeld? past = if manager.state = .scanning then some manager.attempt else none := by
  refine run.holds rfl fun past step _ operates kept => ?_
  rcases begins_or_goes_on operates with ⟨starts, begins⟩ | ⟨other, goesOn⟩
  · simp [scanHeld?, starts, begins.after]
  · by_cases scanning : step.after.state = .scanning
    · obtain ⟨before, same⟩ := goesOn scanning
      simp [scanHeld?, other, scanning, kept, before, same]
    · simp [scanHeld?, other, scanning]

/-- The number of a scan is not that of a later one, so the manager has it, in the scanning state, exactly
if that state has held since the scan began. -/
theorem Manager.Run.scan_held_iff (run : Manager.Run ω settings past manager) :
    ∀ later start earlier, past = later ++ start :: earlier → start.startsScan = true →
      start.after.attempt ≤ manager.attempt ∧
      (start.after.attempt = manager.attempt ∧ manager.state = .scanning ↔
        ∀ step ∈ later, step.after.state = .scanning) := by
  refine run.holds (by simp) fun past step _ operates kept later start earlier same starts => ?_
  cases later with
  | nil =>
    -- The scan has just begun.
    obtain ⟨rfl, rfl⟩ := List.cons.inj same
    rcases begins_or_goes_on operates with ⟨-, begins⟩ | ⟨other, -⟩
    · simp [begins.after]
    · simp [starts] at other
  | cons latest later =>
    obtain ⟨rfl, rfl⟩ := List.cons.inj same
    obtain ⟨bound, held⟩ := kept later start earlier rfl starts
    refine ⟨Nat.le_trans bound operates.attempt_le, ?_⟩
    rw [List.forall_mem_cons, ← held]
    rcases begins_or_goes_on operates with ⟨-, begins⟩ | ⟨-, goesOn⟩
    · have later_number := begins.numbered
      exact iff_of_false (by omega) fun both => begins.before both.2.2
    · constructor
      · rintro ⟨number, scanning⟩
        obtain ⟨before, unchanged⟩ := goesOn scanning
        exact ⟨scanning, number.trans unchanged, before⟩
      · rintro ⟨scanning, number, -⟩
        exact ⟨number.trans (goesOn scanning).2.symm, scanning⟩

/-- A step begins a scan exactly if it is a wish to connect that is granted, and exactly then a timer is
started, which is given the number of that scan. -/
theorem Manager.startsScan_iff (settings : RadioSettings) (manager : Manager) (world : ω)
    (operation : LinkOperation) :
    let step := manager.step settings world operation
    (step.startsScan = true ↔
      operation = .connect ∧ (LinkTurn.connect { manager, world } settings).1 = .ok ()) ∧
    timersIn (LinkTurn.operate { manager, world } settings operation).effects
      = if step.startsScan then [step.after.attempt] else [] := by
  intro step
  by_cases wished : operation = .connect
  · subst wished
    rcases LinkTurn.connect_cases { manager, world } settings with ⟨granted, -⟩ | ⟨refusal, refused⟩
    · have starts : step.startsScan = true := by
        simp only [step, Manager.step, LinkTurn.operate, granted]
        rfl
      refine ⟨by simp [starts, granted], ?_⟩
      rw [if_pos starts]
      simp [step, Manager.step, LinkTurn.operate, granted, LinkTurn.timers_startScan]
    · have other : step.startsScan = false := by
        simp only [step, Manager.step, LinkTurn.operate, refused]
        rfl
      refine ⟨by simp [other, refused], ?_⟩
      simp [other, LinkTurn.operate, refused]
  · have other : step.startsScan = false := by
      have operated : Operates settings step.before step.operation step.after step.asked :=
        operates settings manager world operation
      rcases begins_or_goes_on operated with ⟨-, begins⟩ | ⟨other, -⟩
      · exact absurd begins.wished wished
      · exact other
    refine ⟨by simp [other, wished], ?_⟩
    rw [LinkTurn.timers_unwished _ settings wished, other]
    rfl

/-- A timer does something exactly if its number is that of the scan that began last and the scanning
state has held since: the scan is stopped, the connection is given up, and the number is used up. Any
other number, whenever and however often it comes, changes nothing, neither the manager nor its
surroundings. In particular the timer of a scan ends that scan and no other. The numbers are those that
granted wishes to connect give to the timers they start. -/
theorem timeout_ends_own_scan (run : Manager.Run ω settings past manager) (world : ω) :
    (∀ attempt, LinkTurn.scanTimeout { manager, world } attempt
      = if scanHeld? past = some attempt then
          { manager := { manager with state := .disconnected, attempt := attempt + 1 }
            world := Radio.perform world .stopScan
            effects := #[.radio .stopScan, .published .disconnected] }
        else { manager, world }) ∧
    (∀ later start earlier, past = later ++ start :: earlier → start.startsScan = true →
      (LinkTurn.scanTimeout { manager, world } start.after.attempt = { manager, world } ↔
        ∃ step ∈ later, step.after.state ≠ .scanning)) ∧
    (∀ operation, let step := manager.step settings world operation
      (step.startsScan = true ↔
        operation = .connect ∧ (LinkTurn.connect { manager, world } settings).1 = .ok ()) ∧
      timersIn (LinkTurn.operate { manager, world } settings operation).effects
        = if step.startsScan then [step.after.attempt] else []) := by
  have acts : ∀ attempt, attempt = manager.attempt ∧ manager.state = .scanning →
      LinkTurn.scanTimeout { manager, world } attempt
        = { manager := { manager with state := .disconnected, attempt := attempt + 1 }
            world := Radio.perform world .stopScan
            effects := #[.radio .stopScan, .published .disconnected] } := by
    rintro attempt ⟨rfl, scanning⟩
    simp [LinkTurn.scanTimeout, scanning, LinkTurn.request, LinkTurn.nextAttempt, LinkTurn.publish]
  have idles : ∀ attempt, ¬(attempt = manager.attempt ∧ manager.state = .scanning) →
      LinkTurn.scanTimeout { manager, world } attempt = { manager, world } :=
    fun attempt other => if_neg other
  refine ⟨fun attempt => ?_, fun later start earlier same starts => ?_,
    Manager.startsScan_iff settings manager world⟩
  · have own : scanHeld? past = some attempt ↔ attempt = manager.attempt ∧ manager.state = .scanning := by
      rw [run.scanHeld]
      by_cases scanning : manager.state = .scanning <;> simp [scanning, eq_comm]
    split
    · next held => exact acts attempt (own.mp held)
    · next other => exact idles attempt (mt own.mpr other)
  -- The number of a scan stays the current one as long as the scan does, and not longer.
  · have held := (run.scan_held_iff later start earlier same starts).2
    by_cases own : start.after.attempt = manager.attempt ∧ manager.state = .scanning
    · refine iff_of_false ?_ ?_
      · rw [acts _ own]
        intro unchanged
        simp at unchanged
      · rintro ⟨step, member, left⟩
        exact left (held.mp own step member)
    · refine iff_of_true (idles _ own) ?_
      simpa using mt held.mpr own

/-- The user ends a scan and begins another: the first timer does nothing, and the second ends its
scan. -/
theorem timeout_ends_own_scan_second :
    let rig : Bench.Rig := { power := .on }
    ∃ past manager, Manager.Run Bench.Rig {} past manager ∧ scanHeld? past = some 3 ∧
      LinkTurn.scanTimeout { manager, world := rig } 1 = { manager, world := rig } ∧
      (LinkTurn.scanTimeout { manager, world := rig } 3).manager.state = .disconnected := by
  intro rig
  have run : ∃ past manager, Manager.Run Bench.Rig {} past manager ∧ scanHeld? past = some 3 := by
    refine ⟨_, _, Manager.Run.new
      |>.step .connect rig
      |>.step .disconnect rig
      |>.step .connect rig
      |>.step (.scanTimeout 1) rig, ?_⟩
    decide +kernel
  obtain ⟨past, manager, run, held⟩ := run
  obtain ⟨timers, -⟩ := timeout_ends_own_scan run rig
  refine ⟨past, manager, run, held, ?_, ?_⟩
  · rw [timers, if_neg (by simp [held])]
  · rw [timers, if_pos held]

end Sightline
