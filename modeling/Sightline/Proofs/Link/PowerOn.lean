import Mathlib.Data.List.TakeWhile
import Sightline.Proofs.Link.History
import Sightline.Proofs.Link.PowerLoss

/-! What the radio coming on leads to.

At rest the manager goes on with the peripheral that the radio kept over a restart, and without one with
the remembered one (`Manager.rejoins?`); what it asks of the radio follows from what is known of the link.
What was kept is then used up: it was reported since the radio last came on at rest or went off
(`Manager.Run.restored_reported`). Main statement: `powerOn_rejoins`. -/

set_option autoImplicit false

namespace Sightline

variable {ω : Type} [Radio ω] [Streams ω] [IdentityStore ω] {settings : RadioSettings}
  {past : List LinkStep} {manager : Manager}

/-- Nothing is under way that the radio coming on could disturb. -/
def Manager.Resting (manager : Manager) : Prop :=
  manager.state = .idle ∨ manager.state = .disconnected

instance : DecidablePred Manager.Resting := fun manager =>
  inferInstanceAs (Decidable (manager.state = .idle ∨ manager.state = .disconnected))

/-- The peripheral to go on with, and what is known of its link: the one kept over a restart, else the
remembered one. -/
def Manager.rejoins? (settings : RadioSettings) (manager : Manager) (world : ω) :
    Option RestoredPeripheral :=
  match manager.restored, IdentityStore.load world with
  | some kept, _ => some kept
  | none, .ok (some id) =>
    some ⟨id, if id ∈ Radio.connected world settings.service then .connected else .disconnected⟩
  | none, _ => none

/-- What is asked of the radio to go on with a peripheral: its channel if the link is up, the link if it
is down, and nothing while the link is coming up. -/
def RestoredPeripheral.requests (settings : RadioSettings) (peripheral : RestoredPeripheral) :
    List RadioRequest :=
  match peripheral.link with
  | .connected =>
    [.discoverServices peripheral.id settings.service, .openChannel peripheral.id settings.psm]
  | .connecting => []
  | .disconnected | .disconnecting => [.connect peripheral.id {}]

namespace LinkTurn

variable (settings) (turn : LinkTurn ω)

omit [Radio ω] [Streams ω] in
theorem saved_eq_some {id : PeripheralId} :
    turn.saved = some id ↔ IdentityStore.load turn.world = .ok (some id) := by
  unfold saved
  split <;> simp_all

theorem rejoinSaved_of_saved {id : PeripheralId} (remembered : turn.saved = some id) :
    let link := if id ∈ Radio.connected turn.world settings.service then
      LinkStatus.connected else .disconnected
    (turn.rejoinSaved settings).manager.state = .connecting ∧
    (turn.rejoinSaved settings).manager.tracked = some id ∧
    (turn.rejoinSaved settings).requests = turn.requests ++
      (.listConnected settings.service :: RestoredPeripheral.requests settings ⟨id, link⟩) := by
  unfold rejoinSaved
  simp only [remembered]
  split <;> simp [RestoredPeripheral.requests]

theorem rejoinSaved_of_none (forgotten : turn.saved = none) : turn.rejoinSaved settings = turn := by
  unfold rejoinSaved
  rw [forgotten]

theorem kept_rejoinSaved :
    (turn.rejoinSaved settings).manager.restored = turn.manager.restored ∧
    (turn.rejoinSaved settings).manager.wasRestored = turn.manager.wasRestored := by
  rcases Manager.rejoinSaved_cases settings turn with same | ⟨id, up | down⟩
  · rw [same]
    exact ⟨rfl, rfl⟩
  · simp [up]
  · simp [down]

theorem rejoinRestored_of_some {peripheral : RestoredPeripheral}
    (kept : turn.manager.restored = some peripheral) :
    (turn.rejoinRestored settings).manager.state = .connecting ∧
    (turn.rejoinRestored settings).manager.tracked = some peripheral.id ∧
    (turn.rejoinRestored settings).requests = turn.requests ++ peripheral.requests settings ∧
    (turn.rejoinRestored settings).manager.restored = none ∧
    (turn.rejoinRestored settings).manager.wasRestored = false := by
  obtain ⟨id, link⟩ := peripheral
  unfold rejoinRestored
  simp only [kept]
  cases link <;> simp [RestoredPeripheral.requests, requests_manager]

theorem rejoinRestored_of_none (unkept : turn.manager.restored = none) :
    turn.rejoinRestored settings = rejoinSaved
      { turn with manager := { turn.manager with wasRestored := false } } settings := by
  obtain ⟨⟨_, _, restored, _, _, _, _, _⟩, world, effects⟩ := turn
  obtain rfl : restored = none := unkept
  rfl

omit [Radio ω] [Streams ω] in
theorem manager_restarted (kept : List RestoredPeripheral) :
    (turn.restartReported kept).manager
      = { turn.manager with
          wasRestored := true
          restored := match IdentityStore.load turn.world with
            | .ok (some id) => (kept.find? (·.id = id)).or turn.manager.restored
            | _ => turn.manager.restored } := by
  unfold restartReported saved
  simp only
  cases IdentityStore.load turn.world with
  | error reason => rfl
  | ok remembered =>
    cases remembered with
    | none => rfl
    | some id =>
      simp only
      cases kept.find? (·.id = id) <;> rfl

theorem restored_of_restart (kept : List RestoredPeripheral) :
    (turn.report settings (.restored kept)).manager.wasRestored = true ∧
    ((turn.report settings (.restored kept)).manager.restored = turn.manager.restored ∨
      ∃ peripheral ∈ kept,
        (turn.report settings (.restored kept)).manager.restored = some peripheral) := by
  simp only [report, manager_restarted, true_and]
  split
  · next id _ =>
    cases found : kept.find? (·.id = id) with
    | none => exact .inl rfl
    | some peripheral => exact .inr ⟨peripheral, List.mem_of_find?_eq_some found, rfl⟩
  · exact .inl rfl

end LinkTurn

/-- Only reports of a restart and of the power change what is remembered of a restart. -/
theorem Manager.Operates.keeps_restart {later : Manager} {operation : LinkOperation}
    {asked : List RadioRequest} (operates : Operates settings manager operation later asked)
    (unrestarted : ∀ kept, operation ≠ .report (.restored kept))
    (unpowered : ∀ power, operation ≠ .report (.power power)) :
    later.restored = manager.restored ∧ later.wasRestored = manager.wasRestored := by
  cases operates with
  | restarted => exact absurd rfl (unrestarted _)
  | powerLost | busy | idle | adopted | rejoined => exact absurd rfl (unpowered _)
  | _ => exact ⟨rfl, rfl⟩

/-! ### What was kept over a restart -/

/-- The radio went off, or came on at rest: what was kept over a restart is used up. -/
def LinkStep.usesKept (step : LinkStep) : Bool :=
  match step.operation with
  | .report (.power power) => power ≠ .on || step.before.Resting
  | _ => false

def LinkStep.restarts (step : LinkStep) : Bool :=
  match step.operation with
  | .report (.restored _) => true
  | _ => false

theorem LinkStep.split_of_mem_since {marked : LinkStep → Bool} {step : LinkStep}
    (member : step ∈ since marked past) :
    ∃ later earlier, past = later ++ step :: earlier ∧ ∀ other ∈ later, marked other = false := by
  obtain ⟨later, earlier, split⟩ := List.append_of_mem member
  refine ⟨later, earlier ++ past.dropWhile (fun other => !marked other), ?_, fun other here => ?_⟩
  · rw [← List.cons_append, ← List.append_assoc, ← split]
    exact (List.takeWhile_append_dropWhile).symm
  · have among : other ∈ since marked past := by
      rw [split]
      exact List.mem_append_left _ here
    simpa using List.mem_takeWhile_imp among

/-- What a manager remembers of a restart was reported since the last time that such reports were used
up. -/
structure Manager.Remembers (past : List LinkStep) (manager : Manager) : Prop where
  noted : manager.wasRestored = true ↔ ∃ step ∈ LinkStep.since LinkStep.usesKept past, step.restarts
  reported : ∀ peripheral, manager.restored = some peripheral →
    ∃ step ∈ LinkStep.since LinkStep.usesKept past, ∃ kept,
      step.operation = .report (.restored kept) ∧ peripheral ∈ kept

theorem Manager.Remembers.unkept (remembers : manager.Remembers past)
    (unnoted : manager.wasRestored = false) : manager.restored = none := by
  cases same : manager.restored with
  | none => rfl
  | some peripheral =>
    obtain ⟨step, member, kept, restart, -⟩ := remembers.reported peripheral same
    have noted := remembers.noted.mpr ⟨step, member, by simp [LinkStep.restarts, restart]⟩
    simp [unnoted] at noted

/-- What is left at rest when the radio came on: what was kept is used up, and the manager goes on with
the given peripheral, or with none. -/
def LinkTurn.GoesOn (settings : RadioSettings) (queries : List RadioRequest) (left : LinkTurn ω)
    (peripheral : Option RestoredPeripheral) : Prop :=
  left.manager.restored = none ∧ left.manager.wasRestored = false ∧
  match peripheral with
  | some peripheral =>
    left.manager.state = .connecting ∧ left.manager.tracked = some peripheral.id ∧
      left.requests = queries ++ peripheral.requests settings
  | none => left.manager.state = .idle ∧ left.requests = []

namespace LinkTurn

variable (settings)

theorem goesOn_rejoinSaved {turn : LinkTurn ω} (idle : turn.manager.state = .idle)
    (unasked : turn.requests = []) (unkept : turn.manager.restored = none)
    (unnoted : turn.manager.wasRestored = false) :
    (turn.rejoinSaved settings).GoesOn settings [.listConnected settings.service]
      (turn.manager.rejoins? settings turn.world) := by
  obtain ⟨restored, noted⟩ := turn.kept_rejoinSaved settings
  refine ⟨restored.trans unkept, noted.trans unnoted, ?_⟩
  cases remembered : turn.saved with
  | none =>
    have nothing : turn.manager.rejoins? settings turn.world = none := by
      unfold Manager.rejoins?
      unfold saved at remembered
      split at remembered <;> simp_all
    rw [nothing, turn.rejoinSaved_of_none settings remembered]
    exact ⟨idle, unasked⟩
  | some id =>
    have loaded := turn.saved_eq_some.mp remembered
    obtain ⟨connecting, tracked, requests⟩ := turn.rejoinSaved_of_saved settings remembered
    rw [unasked, List.nil_append] at requests
    simp only [Manager.rejoins?, unkept, loaded]
    exact ⟨connecting, tracked, requests⟩

theorem goesOn_powerOn {manager : Manager} (world : ω) (resting : manager.Resting)
    (unkept : manager.wasRestored = false → manager.restored = none) :
    (operate { manager, world } settings (.report (.power .on))).GoesOn settings
      (if manager.restored = none then [.listConnected settings.service] else [])
      (manager.rejoins? settings world) := by
  rcases powerOn_cases { manager, world } settings with ⟨-, rejoins⟩ | ⟨busy, -⟩
  · change operate _ settings (.report (.power .on)) = _ at rejoins
    rw [rejoins]
    cases kept : manager.restored with
    | none =>
      rw [if_pos rfl]
      have same : ∀ wasRestored, { manager with wasRestored }.rejoins? settings world
          = manager.rejoins? settings world := fun _ => rfl
      split
      · rw [rejoinRestored_of_none settings _ kept]
        exact goesOn_rejoinSaved settings rfl (by simp [requests_manager]) kept rfl
      · next unnoted =>
        exact goesOn_rejoinSaved settings rfl (by simp) kept (Bool.eq_false_iff.mpr unnoted)
    | some peripheral =>
      -- A peripheral is kept from a restart only, and the restart is on record.
      have noted : manager.wasRestored = true := by
        rw [← Bool.not_eq_false]
        intro unnoted
        simp [unkept unnoted] at kept
      obtain ⟨connecting, tracked, requests, used, forgotten⟩ :=
        (publish { manager, world } .idle).rejoinRestored_of_some settings kept
      rw [if_pos noted, if_neg (by simp)]
      refine ⟨used, forgotten, ?_⟩
      simp only [Manager.rejoins?, kept]
      exact ⟨connecting, tracked, by simpa using requests⟩
  · exact absurd resting busy

theorem powerOn_busy {manager : Manager} (world : ω) (busy : ¬manager.Resting) :
    operate { manager, world } settings (.report (.power .on)) = { manager, world } := by
  rcases powerOn_cases { manager, world } settings with ⟨resting, -⟩ | ⟨-, same⟩
  · exact absurd resting busy
  · exact same

end LinkTurn

namespace Manager

theorem Remembers.used {step : LinkStep} (uses : step.usesKept = true)
    (unkept : step.after.restored = none) (unnoted : step.after.wasRestored = false) :
    step.after.Remembers (step :: past) := by
  constructor <;> simp [LinkStep.since_cons, uses, unkept, unnoted]

theorem Remembers.passed {step : LinkStep} (remembers : step.before.Remembers past)
    (keeps : step.usesKept = false) (silent : step.restarts = false)
    (same : step.after.restored = step.before.restored ∧
      step.after.wasRestored = step.before.wasRestored) :
    step.after.Remembers (step :: past) := by
  constructor
  · rw [same.2, remembers.noted]
    simp [LinkStep.since_cons, keeps, silent]
  · intro peripheral kept
    obtain ⟨earlier, member, reported⟩ := remembers.reported peripheral (same.1 ▸ kept)
    refine ⟨earlier, ?_, reported⟩
    simp [LinkStep.since_cons, keeps, member]

theorem Remembers.restarted (remembers : manager.Remembers past) (world : ω)
    (kept : List RestoredPeripheral) :
    let step := manager.step settings world (.report (.restored kept))
    step.after.Remembers (step :: past) := by
  intro step
  obtain ⟨noted, reported⟩ :=
    ({ manager, world } : LinkTurn ω).restored_of_restart settings kept
  have since : LinkStep.since LinkStep.usesKept (step :: past)
      = step :: LinkStep.since LinkStep.usesKept past := LinkStep.since_cons ..
  constructor
  · rw [since]
    exact iff_of_true noted ⟨step, List.mem_cons_self, rfl⟩
  · intro peripheral same
    rw [since]
    rcases reported with before | ⟨other, member, now⟩
    · obtain ⟨earlier, known, found⟩ := remembers.reported peripheral (before.symm.trans same)
      exact ⟨earlier, List.mem_cons_of_mem _ known, found⟩
    · obtain rfl : other = peripheral := Option.some.inj (now.symm.trans same)
      exact ⟨step, List.mem_cons_self, kept, rfl, member⟩

theorem Remembers.powered (remembers : manager.Remembers past) (world : ω) (power : Power) :
    let step := manager.step settings world (.report (.power power))
    step.after.Remembers (step :: past) := by
  intro step
  -- Going on from rest uses what was kept, and losing power forgets it; a busy manager ignores
  -- the news.
  by_cases on : power = .on
  · subst on
    by_cases resting : manager.Resting
    · obtain ⟨unkept, unnoted, -⟩ :=
        LinkTurn.goesOn_powerOn settings world resting remembers.unkept
      exact .used (by simp [LinkStep.usesKept, step, Manager.step, resting]) unkept unnoted
    · have same : step.after = manager :=
        congrArg LinkTurn.manager (LinkTurn.powerOn_busy settings world resting)
      have keeps : step.usesKept = false := by
        simp [LinkStep.usesKept, step, Manager.step, resting]
      exact remembers.passed keeps rfl ⟨by rw [same]; rfl, by rw [same]; rfl⟩
  · have reset : step.after = { attempt := manager.attempt + 1 } :=
      (congrArg LinkTurn.manager (LinkTurn.powerLost manager world on)).trans
        (LinkTurn.manager_reset _)
    have uses : step.usesKept = true := by
      simp [LinkStep.usesKept, step, Manager.step, on]
    exact .used uses (by rw [reset]) (by rw [reset])

theorem Remembers.step (remembers : manager.Remembers past) (world : ω) (operation : LinkOperation) :
    (manager.step settings world operation).after.Remembers
      (manager.step settings world operation :: past) := by
  by_cases restart : ∃ kept, operation = .report (.restored kept)
  · obtain ⟨kept, rfl⟩ := restart
    exact remembers.restarted world kept
  by_cases power : ∃ power, operation = .report (.power power)
  · obtain ⟨power, rfl⟩ := power
    exact remembers.powered world power
  have keeps := (operates settings manager world operation).keeps_restart
    (fun kept same => restart ⟨kept, same⟩) (fun other same => power ⟨other, same⟩)
  let step := manager.step settings world operation
  have before : step.before.Remembers past := remembers
  refine before.passed (?_ : step.usesKept = false) ?_ keeps
  · unfold LinkStep.usesKept
    split
    · next other same => exact absurd ⟨other, same⟩ power
    · rfl
  · unfold LinkStep.restarts
    split
    · next kept same => exact absurd ⟨kept, same⟩ restart
    · rfl

theorem Run.remembers (run : Run ω settings past manager) : manager.Remembers past := by
  induction run with
  | new => constructor <;> simp
  | step operation world _ ih => exact ih.step world operation

end Manager

/-- The radio coming on, after any run and whatever store and radio answer. At rest the manager goes on
with the peripheral that was kept over a restart, and without one with the remembered one: it is
connecting and tracks that peripheral, of which it asks what the link calls for, after a look at the list
of connected peripherals where none was kept. With neither it is idle and asks for nothing. What was kept
is used up: it is one that a report of a restart listed, and since then the radio neither came on at rest
nor went off. While a scan, a link or a session is under way nothing changes at all. A report of a restart
keeps the first peripheral listed that is the remembered one. -/
theorem powerOn_rejoins (run : Manager.Run ω settings past manager) (world : ω) :
    let left := LinkTurn.operate { manager, world } settings (.report (.power .on))
    (manager.state = .idle ∨ manager.state = .disconnected →
      left.manager.restored = none ∧ left.manager.wasRestored = false ∧
      match manager.rejoins? settings world with
      | some peripheral =>
        left.manager.state = .connecting ∧ left.manager.tracked = some peripheral.id ∧
          left.requests = (if manager.restored = none then [.listConnected settings.service] else [])
            ++ peripheral.requests settings
      | none => left.manager.state = .idle ∧ left.requests = []) ∧
    (manager.state = .scanning ∨ manager.state = .connecting ∨ manager.state = .connected →
      left = { manager, world }) ∧
    (∀ peripheral, manager.restored = some peripheral →
      ∃ later report earlier kept, past = later ++ report :: earlier ∧
        report.operation = .report (.restored kept) ∧ peripheral ∈ kept ∧
        ∀ step ∈ later, step.usesKept = false) ∧
    (∀ kept, (LinkTurn.operate { manager, world } settings (.report (.restored kept))).manager
      = { manager with
          wasRestored := true
          restored := match IdentityStore.load world with
            | .ok (some id) => (kept.find? (·.id = id)).or manager.restored
            | _ => manager.restored }) := by
  intro left
  have remembers := run.remembers
  refine ⟨fun resting => LinkTurn.goesOn_powerOn settings world resting remembers.unkept,
    fun underway => LinkTurn.powerOn_busy settings world ?_, fun peripheral kept => ?_, fun kept => ?_⟩
  · rintro (resting | resting) <;> simp [resting] at underway
  · obtain ⟨report, member, listed, restart, among⟩ := remembers.reported peripheral kept
    obtain ⟨later, earlier, split, unused⟩ := LinkStep.split_of_mem_since member
    exact ⟨later, report, earlier, listed, split, restart, among, unused⟩
  · exact LinkTurn.manager_restarted { manager, world } kept

/-- After a restart in which the link of the remembered glasses was kept up, their channel is opened at
once. -/
theorem powerOn_rejoins_kept :
    let glasses : PeripheralId := ⟨"glasses"⟩
    let rig : Bench.Rig := { power := .on, saved := some glasses }
    ∃ past manager, Manager.Run Bench.Rig {} past manager ∧ manager.state = .disconnected ∧
      manager.restored = some ⟨glasses, .connected⟩ ∧
      let left := LinkTurn.operate { manager, world := rig } {} (.report (.power .on))
      left.manager.state = .connecting ∧ left.manager.tracked = some glasses ∧
      left.manager.restored = none ∧
      left.requests = [.discoverServices glasses glassesService, .openChannel glasses defaultPsm] := by
  intro glasses rig
  have run : ∃ past manager, Manager.Run Bench.Rig {} past manager ∧
      manager.state = .disconnected ∧ manager.restored = some ⟨glasses, .connected⟩ := by
    refine ⟨_, _, Manager.Run.new
      |>.step (.report (.restored [⟨⟨"other"⟩, .connecting⟩, ⟨glasses, .connected⟩])) rig, ?_⟩
    decide +kernel
  obtain ⟨past, manager, run, resting, kept⟩ := run
  obtain ⟨used, -, goes⟩ := (powerOn_rejoins run rig).1 (.inr resting)
  simp only [Manager.rejoins?, kept] at goes
  obtain ⟨connecting, tracked, requests⟩ := goes
  exact ⟨past, manager, run, resting, kept, connecting, tracked, used, requests⟩

end Sightline
