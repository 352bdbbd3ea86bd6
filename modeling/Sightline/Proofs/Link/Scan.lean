import Sightline.Bench.Rig
import Sightline.Proofs.Link.History

/-! Which scans are stopped.

A scan is outstanding from the request to start it until the next request to stop it. It is stopped by
whatever was meant to end it; a report about the link of a peripheral that is still tracked ends the
scanning state and leaves the scan running (`scan_outstanding_iff`). -/

set_option autoImplicit false

namespace Sightline

def RadioRequest.startsScan : RadioRequest → Bool
  | .startScan _ => true
  | _ => false

/-- Whether a scan is outstanding after a request, if it was before. -/
def RadioRequest.scanAfter (outstanding : Bool) : RadioRequest → Bool
  | .startScan _ => true
  | .stopScan => false
  | _ => outstanding

def RadioRequest.aboutScan : RadioRequest → Bool
  | .startScan _ | .stopScan => true
  | _ => false

/-- None of the requests is about a scan. -/
def RadioRequest.Quiet (asked : List RadioRequest) : Prop := asked.any aboutScan = false

theorem RadioRequest.Quiet.other {asked : List RadioRequest} {request : RadioRequest}
    (quiet : Quiet asked) (member : request ∈ asked) : request.aboutScan = false :=
  Bool.eq_false_iff.mpr (List.any_eq_false.mp quiet request member)

namespace LinkStep

def startsScan (step : LinkStep) : Bool := step.asked.any RadioRequest.startsScan

/-- During a scan, a report came about the link of a peripheral that is still tracked. -/
def strays (step : LinkStep) : Bool :=
  step.before.state = .scanning &&
    match step.operation with
    | .report (.connected id) | .report (.connectFailed id _) | .report (.disconnected id _ _) =>
      step.before.tracked = some id
    | _ => false

/-- A scan was started and has not been stopped since. -/
def scanOutstanding : List LinkStep → Bool
  | [] => false
  | step :: past => step.asked.foldl RadioRequest.scanAfter (scanOutstanding past)

inductive ScanMove (step : LinkStep) : Prop where
  | started {service : Uuid} : step.before.state ≠ .scanning → step.after.state = .scanning →
      step.asked = [.startScan service] → ScanMove step
  | stopped {more : List RadioRequest} : step.before.state = .scanning →
      step.after.state ≠ .scanning → step.asked = .stopScan :: more → RadioRequest.Quiet more →
      step.losesPower = false → step.strays = false → ScanMove step
  /-- The scanning state is left, and the scan is not stopped. -/
  | forgotten : step.before.state = .scanning → step.after.state ≠ .scanning →
      RadioRequest.Quiet step.asked → step.losesPower = true ∨ step.strays = true → ScanMove step
  | untouched : (step.after.state = .scanning ↔ step.before.state = .scanning) →
      RadioRequest.Quiet step.asked → (step.before.state = .scanning → step.losesPower = false) →
      step.strays = false → ScanMove step

variable {step : LinkStep}

theorem strays_of_unscanning (other : step.before.state ≠ .scanning) : step.strays = false := by
  simp [strays, other]

namespace ScanMove

theorem outside (before : step.before.state ≠ .scanning) (after : step.after.state ≠ .scanning)
    (quiet : RadioRequest.Quiet step.asked) : ScanMove step :=
  .untouched (iff_of_false after before) quiet (absurd · before) (strays_of_unscanning before)

theorem left (after : step.after.state ≠ .scanning) (quiet : RadioRequest.Quiet step.asked)
    (lost : step.before.state = .scanning → step.losesPower = true ∨ step.strays = true) :
    ScanMove step := by
  by_cases scanning : step.before.state = .scanning
  · exact .forgotten scanning after quiet (lost scanning)
  · exact .outside scanning after quiet

end ScanMove

theorem scan_move {settings : RadioSettings} (consistent : step.before.Consistent)
    (operates : Manager.Operates settings step.before step.operation step.after step.asked) :
    ScanMove step := by
  obtain ⟨before, operation, after, asked⟩ := step
  simp only at consistent operates
  -- No scan runs while a slot is taken, nor at rest.
  have unscanning : before.slot ≠ .vacant → before.state ≠ .scanning := by
    intro taken scanning
    simpa [scanning] using consistent.underway taken
  have unscanningAtRest : before.state = .idle ∨ before.state = .disconnected →
      before.state ≠ .scanning := by
    rintro resting scanning
    simp [scanning] at resting
  cases operates with
  | refused | lateTimeout | busy | restarted | unsought | notified | valued | unasked =>
    exact .untouched .rfl rfl (fun _ => rfl) (by simp [strays])
  | stranger other news =>
    refine .untouched .rfl rfl ?_ ?_
    · rcases news with rfl | ⟨_, rfl⟩ | ⟨_, _, rfl⟩ <;> simp [losesPower]
    · rcases news with rfl | ⟨_, rfl⟩ | ⟨_, _, rfl⟩ <;> simp [strays, other]
  | sessionless absent news =>
    refine .untouched .rfl rfl ?_ ?_
    · rcases news with ⟨_, rfl⟩ | ⟨_, _, rfl⟩ <;> simp [losesPower]
    · rcases news with ⟨_, rfl⟩ | ⟨_, _, rfl⟩ <;> simp [strays]
  | lookedUp asked | characterised asked =>
    refine .untouched .rfl ?_ (fun _ => rfl) (by simp [strays])
    rcases asked with rfl | ⟨_, rfl⟩ <;> rfl
  | scans resting => exact .started (unscanningAtRest resting) rfl rfl
  | scanEnded scanning ended =>
    rcases ended with rfl | rfl <;> exact .stopped scanning (by simp) rfl rfl rfl (by simp [strays])
  | found scanning => exact .stopped scanning (by simp) rfl rfl rfl (by simp [strays])
  | powerLost lost => exact .left (by simp) rfl fun _ => .inl (by simpa [losesPower] using lost)
  | linkedUp tracked | linkFailed tracked | linkAwaited tracked | linkLost tracked =>
    refine .left (by simp) rfl ?_
    rintro (scanning : before.state = .scanning)
    exact .inr (by simp [strays, scanning, tracked])
  | nothingToDrop other | droppedBefore other => exact .outside other (by simp) rfl
  | dropped other => exact .outside other other rfl
  | idle resting => exact .outside (unscanningAtRest resting) (by simp) rfl
  | adopted resting asked =>
    refine .outside (unscanningAtRest resting) (by simp) ?_
    rcases asked with rfl | rfl <;> rfl
  | rejoined resting asked =>
    refine .outside (unscanningAtRest resting) (by simp) ?_
    rcases asked with rfl | rfl | rfl <;> rfl
  | handedOver taken | served taken =>
    have other := unscanning (by simp [taken])
    exact .outside other other rfl
  | channelFailed taken | greeted taken | reopened taken =>
    exact .outside (unscanning (by simp [taken])) (by simp) rfl
  | channelLost live states asked =>
    refine .outside (unscanning (by simp [live])) ?_ ?_
    · rcases states with rfl | rfl <;> simp
    · rcases asked with rfl | ⟨_, rfl⟩ <;> rfl

/-! ### Runs -/

theorem scanAfter_of_quiet {asked : List RadioRequest} (quiet : RadioRequest.Quiet asked)
    (outstanding : Bool) : asked.foldl RadioRequest.scanAfter outstanding = outstanding := by
  induction asked with
  | nil => rfl
  | cons request asked ih =>
    obtain ⟨first, later⟩ := Bool.or_eq_false_iff.mp (List.any_cons.symm.trans quiet)
    have same : RadioRequest.scanAfter outstanding request = outstanding := by
      cases request with
      | startScan | stopScan => cases first
      | _ => rfl
    rw [List.foldl_cons, same]
    exact ih later

theorem unstarted_of_quiet {asked : List RadioRequest} (quiet : RadioRequest.Quiet asked) :
    asked.any RadioRequest.startsScan = false := by
  rw [List.any_eq_false]
  intro request member
  have other := quiet.other member
  cases request with
  | startScan => cases other
  | _ => simp [RadioRequest.startsScan]

/-- What is known of the last scan: while scanning it is outstanding and nothing has strayed; later, and
while the radio stays on, it is outstanding only if something strayed. -/
structure ScanKept (past : List LinkStep) (manager : Manager) : Prop where
  running : manager.state = .scanning → scanOutstanding past = true ∧
    ∀ step ∈ since startsScan past, step.losesPower = false ∧ step.strays = false
  ended : manager.state ≠ .scanning →
    (∀ step ∈ since startsScan past, step.losesPower = false) →
    (scanOutstanding past = true ↔ ∃ step ∈ since startsScan past, step.strays = true)

theorem ScanKept.next {past : List LinkStep} (kept : ScanKept past step.before)
    (move : ScanMove step) : ScanKept (step :: past) step.after := by
  -- Within a scanning period the radio scans; after it, it does so just when a stray report ended
  -- the period.
  cases move with
  | started other scanning asked =>
    have starts : step.startsScan = true := by simp [startsScan, asked, RadioRequest.startsScan]
    refine ⟨fun _ => ⟨?_, ?_⟩, fun left => absurd scanning left⟩
    · simp [scanOutstanding, asked, RadioRequest.scanAfter]
    · simp [since_cons, starts]
  | @stopped more scanning left asked quiet powered near =>
    have unstarted : step.startsScan = false := by
      rw [startsScan, asked, List.any_cons]
      exact unstarted_of_quiet quiet
    have stopped : scanOutstanding (step :: past) = false := by
      simp [scanOutstanding, asked, RadioRequest.scanAfter, scanAfter_of_quiet quiet]
    refine ⟨fun scanning => absurd scanning left, fun _ _ => iff_of_false (by simp [stopped]) ?_⟩
    simpa [since_cons, unstarted, near] using fun other member =>
      ((kept.running scanning).2 other member).2
  | forgotten scanning left quiet lost =>
    have unstarted : step.startsScan = false := unstarted_of_quiet quiet
    refine ⟨fun scanning => absurd scanning left, fun _ powered => iff_of_true ?_ ?_⟩
    · rw [scanOutstanding, scanAfter_of_quiet quiet]
      exact (kept.running scanning).1
    · -- The radio stayed on, so it was a stray report that ended the scanning state.
      simp only [since_cons, unstarted, Bool.false_eq_true, if_false, List.mem_cons,
        forall_eq_or_imp] at powered
      have near : step.strays = true := lost.resolve_left (by simp [powered.1])
      exact ⟨step, by simp [since_cons, unstarted], near⟩
  | untouched same quiet powered near =>
    have unstarted : step.startsScan = false := unstarted_of_quiet quiet
    refine ⟨fun scanning => ?_, fun left still => ?_⟩
    · obtain ⟨outstanding, clear⟩ := kept.running (same.mp scanning)
      refine ⟨?_, ?_⟩
      · rw [scanOutstanding, scanAfter_of_quiet quiet]
        exact outstanding
      · simpa [since_cons, unstarted, near, powered (same.mp scanning)] using clear
    · simp only [since_cons, unstarted, Bool.false_eq_true, if_false, List.mem_cons,
        forall_eq_or_imp] at still
      rw [scanOutstanding, scanAfter_of_quiet quiet,
        kept.ended (fun scanning => left (same.mpr scanning)) still.2]
      simp [since_cons, unstarted, near]

end LinkStep

open LinkStep

variable {ω : Type} [Radio ω] [Streams ω] [IdentityStore ω] {settings : RadioSettings}
  {past : List LinkStep} {manager : Manager}

theorem Manager.Run.scanKept (run : Manager.Run ω settings past manager) :
    ScanKept past manager := by
  refine run.holds ⟨?_, ?_⟩ ?_
  · rintro ⟨⟩
  · simp [scanOutstanding]
  · intro past step before operates kept
    exact kept.next (scan_move before.consistent operates)

omit [Streams ω] [IdentityStore ω] in
/-- A wish to connect is refused because of a scan exactly if the radio, at rest and on, is scanning. -/
theorem LinkTurn.alreadyScanning_iff (turn : LinkTurn ω) (settings : RadioSettings) :
    (turn.connect settings).1 = .error .alreadyScanning ↔ Radio.power turn.world = .on ∧
      (turn.manager.state = .idle ∨ turn.manager.state = .disconnected) ∧
      Radio.isScanning turn.world = true := by
  have resting_iff : ¬(turn.manager.state ≠ .idle ∧ turn.manager.state ≠ .disconnected) ↔
      turn.manager.state = .idle ∨ turn.manager.state = .disconnected := by
    simp only [ne_eq, Decidable.not_and_iff_not_or_not, Decidable.not_not]
  unfold connect
  split
  · next off => simp [off]
  · next on =>
    split
    · next busy => simp [mt resting_iff.mpr (not_not_intro busy)]
    · next rests =>
      have resting := resting_iff.mp rests
      split
      · next scanning => simp [Decidable.not_not.mp on, resting, scanning]
      · next quiet =>
        refine iff_of_false ?_ fun outcome => quiet outcome.2.2
        split
        · simp
        · split <;> simp

/-- While the radio stays on after a scan was started, the scan is outstanding exactly in the scanning
state, unless a report about the link of a peripheral that was still tracked came during the scan. Any
other way out of the scanning state stops the scan, and such a report does not; and with a radio that
scans as it was asked to, a wish to connect at rest is refused because of a scan exactly after such a
report. -/
theorem scan_outstanding_iff (run : Manager.Run ω settings past manager)
    (powered : ∀ step ∈ since startsScan past, step.losesPower = false) :
    ((scanOutstanding past = true ↔ manager.state = .scanning) ↔
      ∀ step ∈ since startsScan past, step.strays = false) ∧
    (∀ (world : ω) operation, let step := manager.step settings world operation
      manager.state = .scanning → step.after.state ≠ .scanning → step.losesPower = false →
        (.stopScan ∈ step.asked ↔ step.strays = false)) ∧
    (∀ world : ω, Radio.isScanning world = scanOutstanding past →
      ((LinkTurn.connect { manager, world } settings).1 = .error .alreadyScanning ↔
        Radio.power world = .on ∧ (manager.state = .idle ∨ manager.state = .disconnected) ∧
          ∃ step ∈ since startsScan past, step.strays = true)) := by
  have kept := run.scanKept
  refine ⟨⟨?_, ?_⟩, ?_, ?_⟩
  · intro agree
    by_cases scanning : manager.state = .scanning
    · exact fun step member => ((kept.running scanning).2 step member).2
    · intro step member
      rw [← Bool.not_eq_true]
      intro near
      exact scanning (agree.mp ((kept.ended scanning powered).mpr ⟨step, member, near⟩))
  · intro clear
    by_cases scanning : manager.state = .scanning
    · exact iff_of_true (kept.running scanning).1 scanning
    · refine iff_of_false ?_ scanning
      rw [kept.ended scanning powered]
      rintro ⟨step, member, near⟩
      simp [clear step member] at near
  · intro world operation step scanning left still
    have move : ScanMove step :=
      scan_move run.consistent (Manager.operates settings manager world operation)
    cases move with
    | started other => exact absurd scanning other
    | stopped _ _ asked _ _ near => exact iff_of_true (by simp [asked]) near
    | forgotten _ _ quiet lost =>
      refine iff_of_false (fun stopped => Bool.noConfusion (quiet.other stopped)) ?_
      simp [lost.resolve_left (by simp [still])]
    | untouched same => exact absurd (same.mpr scanning) left
  -- A resting manager is past its scanning period, so the stray report decides.
  · intro world honest
    rw [LinkTurn.alreadyScanning_iff, honest]
    refine and_congr_right fun _ => and_congr_right fun resting => kept.ended ?_ powered
    intro scanning
    simp [scanning] at resting

/-- The channel fails and the user wishes to connect again; the earlier link is still tracked during the
new scan, and nothing is reported about it. -/
theorem scan_outstanding_iff_tracked :
    ∃ past manager, Manager.Run Bench.Rig {} past manager ∧ manager.tracked = some ⟨"glasses"⟩ ∧
      (∀ step ∈ since startsScan past, step.losesPower = false) ∧ manager.state = .scanning ∧
      scanOutstanding past = true := by
  let glasses : PeripheralId := ⟨"glasses"⟩
  let rig : Bench.Rig := { power := .on, saved := some glasses }
  have run : ∃ past manager, Manager.Run Bench.Rig {} past manager ∧
      manager.tracked = some glasses ∧ manager.state = .scanning ∧
      (∀ step ∈ since startsScan past, step.losesPower = false) ∧
      ∀ step ∈ since startsScan past, step.strays = false := by
    refine ⟨_, _, Manager.Run.new
      |>.step (.report (.power .on)) rig
      |>.step (.report (.connected glasses)) rig
      |>.step (.report (.channelOpened glasses (.error "PSM not registered"))) rig
      |>.step .connect rig
      |>.step (.report (.disconnected ⟨"other"⟩ false none)) rig, ?_⟩
    decide +kernel
  obtain ⟨past, manager, run, tracked, scanning, powered, clear⟩ := run
  exact ⟨past, manager, run, tracked, powered, scanning,
    ((scan_outstanding_iff run powered).1.mpr clear).mpr scanning⟩

/-- A report about the earlier link during the new scan ends the scanning state, and the scan goes on;
the next wish to connect is refused because of it. -/
theorem scan_forgotten :
    let glasses : PeripheralId := ⟨"glasses"⟩
    let rig : Bench.Rig := { power := .on, saved := some glasses }
    ∃ past manager, Manager.Run Bench.Rig {} past manager ∧
      (∀ step ∈ since startsScan past, step.losesPower = false) ∧
      scanOutstanding past = true ∧ manager.state = .disconnected ∧
      (LinkTurn.connect { manager, world := { rig with scanning := true } } {}).1
        = .error .alreadyScanning := by
  intro glasses rig
  refine ⟨_, _, Manager.Run.new
    |>.step (.report (.power .on)) rig
    |>.step (.report (.connected glasses)) rig
    |>.step (.report (.channelOpened glasses (.error "PSM not registered"))) rig
    |>.step .connect rig
    |>.step (.report (.disconnected glasses false none)) rig, ?_, ?_, rfl, rfl⟩
  · decide +kernel
  · decide +kernel

end Sightline
