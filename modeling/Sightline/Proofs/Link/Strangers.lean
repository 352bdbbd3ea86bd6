import Sightline.Bench.Rig
import Sightline.Proofs.Link.History

/-! Peripherals other than the tracked one.

A report about another peripheral is passed over, except by the search for the keep-alive
characteristic: what was found on a peripheral is followed up on that peripheral, whether it is
tracked or not (`RadioReport.followUp?`). Nothing else is asked of a peripheral that is not tracked
(`named_tracked_iff`). -/

set_option autoImplicit false

namespace Sightline

/-- What was found on a peripheral in the search for the keep-alive characteristic. -/
def RadioReport.searches : RadioReport → Bool
  | .services _ _ | .characteristics _ _ _ => true
  | _ => false

/-- The next request of the search. It is put to the peripheral that the report is about. -/
def RadioReport.followUp? (settings : RadioSettings) : RadioReport → Option RadioRequest
  | .services id (.ok found) =>
    if settings.service ∈ found then
      some (.discoverCharacteristics id settings.service settings.keepAlive)
    else none
  | .characteristics id service (.ok found) =>
    match found.find? (·.uuid = settings.keepAlive) with
    | some ⟨uuid, true⟩ => some (.subscribe id service uuid)
    | _ => none
  | _ => none

def RadioReport.isDiscovery : RadioReport → Bool
  | .discovered _ _ _ => true
  | _ => false

/-- The operation may begin to track a peripheral, and asks something of it only after that. -/
def LinkOperation.tracks : LinkOperation → Bool
  | .report (.power .on) => true
  | .report news => news.isDiscovery
  | _ => false

/-- The search is followed up on a peripheral that is not tracked. -/
def Manager.Strays (manager : Manager) (settings : RadioSettings) (operation : LinkOperation) :
    Prop :=
  ∃ report, operation = .report report ∧ (report.followUp? settings).isSome = true ∧
    report.peripheral? ≠ manager.tracked

def LinkEffect.stores : LinkEffect → Bool
  | .saveIdentity _ | .clearIdentity => true
  | _ => false

namespace RadioReport

variable {settings : RadioSettings} {report : RadioReport}

theorem followUp?_eq_none (other : report.searches = false) :
    report.followUp? settings = none := by
  cases report with
  | services | characteristics => cases other
  | _ => rfl

theorem peripheral?_of_searches (search : report.searches = true) :
    ∃ id, report.peripheral? = some id := by
  cases report with
  | services id | characteristics id => exact ⟨id, rfl⟩
  | _ => cases search

theorem peripheral?_followUp {request : RadioRequest}
    (next : report.followUp? settings = some request) :
    request.peripheral? = report.peripheral? := by
  unfold followUp? at next
  split at next
  · split at next
    · obtain rfl := Option.some.inj next
      rfl
    · cases next
  · split at next
    · obtain rfl := Option.some.inj next
      rfl
    · cases next
  · cases next

end RadioReport

namespace LinkTurn

variable {ω : Type}

/-- Closes the streams that come with the report, if any. -/
def turnAway [Streams ω] (turn : LinkTurn ω) (report : RadioReport) : LinkTurn ω :=
  match report.handed? with
  | some pair => turn.refuse pair
  | none => turn

def ask [Radio ω] (turn : LinkTurn ω) : Option RadioRequest → LinkTurn ω
  | some request => turn.request request
  | none => turn

section

variable (turn : LinkTurn ω) (report : RadioReport) (next : Option RadioRequest)

@[simp] theorem manager_turnAway [Streams ω] : (turn.turnAway report).manager = turn.manager := by
  unfold turnAway
  split <;> rfl

@[simp] theorem requests_turnAway [Streams ω] :
    (turn.turnAway report).requests = turn.requests := by
  unfold turnAway
  split <;> simp

@[simp] theorem stores_turnAway [Streams ω] :
    (turn.turnAway report).effects.any LinkEffect.stores = turn.effects.any LinkEffect.stores := by
  unfold turnAway
  split <;> simp [refuse, LinkEffect.stores]

@[simp] theorem manager_ask [Radio ω] : (turn.ask next).manager = turn.manager := by
  cases next <;> rfl

@[simp] theorem requests_ask [Radio ω] :
    (turn.ask next).requests = turn.requests ++ next.toList := by
  cases next <;> simp [ask]

@[simp] theorem stores_ask [Radio ω] :
    (turn.ask next).effects.any LinkEffect.stores = turn.effects.any LinkEffect.stores := by
  cases next <;> simp [ask, request, LinkEffect.stores]

end

variable [Radio ω] [Streams ω] [IdentityStore ω] (turn : LinkTurn ω) (settings : RadioSettings)

theorem report_search {report : RadioReport} (search : report.searches = true) :
    turn.report settings report = turn.ask (report.followUp? settings) := by
  cases report with
  | services id result =>
    cases result with
    | error => simp only [LinkTurn.report, RadioReport.followUp?, ask]
    | ok found =>
      simp only [LinkTurn.report, RadioReport.followUp?]
      split <;> rfl
  | characteristics id service result =>
    cases result with
    | error => simp only [LinkTurn.report, RadioReport.followUp?, ask]
    | ok found =>
      simp only [LinkTurn.report, foundCharacteristics, RadioReport.followUp?]
      cases found.find? (·.uuid = settings.keepAlive) with
      | none => rfl
      | some characteristic => rcases characteristic with ⟨uuid, _ | _⟩ <;> rfl
  | _ => cases search

/-- A report about a peripheral that is neither tracked nor asked for a channel is turned away, but
for the search. -/
theorem report_stranger {report : RadioReport} {id : PeripheralId}
    (about : report.peripheral? = some id) (old : report.isDiscovery = false)
    (untracked : turn.manager.tracked ≠ some id) (unasked : turn.manager.slot ≠ .opening id) :
    turn.report settings report = (turn.turnAway report).ask (report.followUp? settings) := by
  -- None of the handlers has a use for a stranger, except to look further into its services.
  cases report with
  | power | restored => cases about
  | discovered => cases old
  | connected | connectFailed =>
    obtain rfl := Option.some.inj about
    simp [LinkTurn.report, untracked, turnAway, RadioReport.handed?, RadioReport.followUp?, ask]
  | disconnected =>
    obtain rfl := Option.some.inj about
    simp [LinkTurn.report, linkDown, untracked, turnAway, RadioReport.handed?,
      RadioReport.followUp?, ask]
  | services | characteristics => exact turn.report_search settings rfl
  | notification | value => rfl
  | channelOpened other result =>
    obtain rfl := Option.some.inj about
    simp only [LinkTurn.report, channelOpened, if_pos unasked]
    cases result <;> rfl

end LinkTurn

variable {ω : Type} [Radio ω] [Streams ω] [IdentityStore ω] {settings : RadioSettings}

omit [Radio ω] [Streams ω] [IdentityStore ω] in
theorem Manager.Operates.named {manager after : Manager} {operation : LinkOperation}
    {asked : List RadioRequest} (operates : Operates settings manager operation after asked)
    (consistent : manager.Consistent)
    (other : ∀ report, operation = .report report → report.searches = false)
    {request : RadioRequest} (made : request ∈ asked) {id : PeripheralId}
    (named : request.peripheral? = some id) :
    after.tracked = some id ∧ (operation.tracks = false → manager.tracked = some id) := by
  -- An operation never names two peripherals.
  have only : ∀ known, (∀ other ∈ asked,
      other.peripheral? = none ∨ other.peripheral? = some known) → known = id := by
    intro known about
    simpa [named, eq_comm] using about request made
  cases operates with
  | lookedUp | characterised => cases other _ rfl
  | scans | scanEnded =>
    obtain rfl := List.mem_singleton.mp made
    cases named
  | @dropped known _ tracked | @linkedUp known tracked | @reopened _ _ known _ tracked =>
    obtain rfl := only known (by simp [RadioRequest.peripheral?])
    exact ⟨tracked, fun _ => tracked⟩
  | @adopted known _ _ _ _ asked =>
    obtain rfl := only known (by rcases asked with rfl | rfl <;> simp [RadioRequest.peripheral?])
    exact ⟨rfl, fun still => by cases still⟩
  | @rejoined known _ _ _ _ asked =>
    obtain rfl := only known (by
      rcases asked with rfl | rfl | rfl <;> simp [RadioRequest.peripheral?])
    exact ⟨rfl, fun still => by cases still⟩
  | @found known =>
    obtain rfl := only known (by simp [RadioRequest.peripheral?])
    exact ⟨rfl, fun still => by cases still⟩
  | @channelFailed known _ opening =>
    obtain rfl := only known (by simp [RadioRequest.peripheral?])
    rw [Manager.Consistent, opening] at consistent
    exact ⟨consistent.of_opening.2, fun _ => consistent.of_opening.2⟩
  | channelLost _ _ asked dropped =>
    rcases asked with rfl | ⟨known, rfl⟩
    · cases made
    · obtain rfl := only known (by simp [RadioRequest.peripheral?])
      have tracked := dropped known (List.mem_singleton.mpr rfl)
      exact ⟨tracked, fun _ => tracked⟩
  | _ => cases made

/-- What the search asks next is asked of the tracked peripheral exactly if the report is about it. -/
theorem Manager.search_named_iff (manager : Manager) (world : ω) {report : RadioReport}
    (search : report.searches = true) :
    let left := LinkTurn.operate { manager, world } settings (.report report)
    (∀ request ∈ left.requests, ∀ id, request.peripheral? = some id →
      left.manager.tracked = some id ∧
        (LinkOperation.tracks (.report report) = false → manager.tracked = some id)) ↔
      ¬manager.Strays settings (.report report) := by
  intro left
  have followed : left = LinkTurn.ask { manager, world } (report.followUp? settings) :=
    LinkTurn.report_search _ settings search
  have same : left.manager = manager := by simp [followed]
  have asked : left.requests = (report.followUp? settings).toList := by simp [followed]
  constructor
  · rintro tracked ⟨other, reported, next, stray⟩
    obtain rfl := LinkOperation.report.inj reported
    obtain ⟨request, next⟩ := Option.isSome_iff_exists.mp next
    obtain ⟨id, about⟩ := RadioReport.peripheral?_of_searches search
    have named := (RadioReport.peripheral?_followUp next).trans about
    have known := (tracked request (by simp [asked, next]) id named).1
    exact stray (about.trans (same ▸ known).symm)
  · intro straight request made id named
    have next : report.followUp? settings = some request := by simpa [asked] using made
    have about := (RadioReport.peripheral?_followUp next).symm.trans named
    have tracked : manager.tracked = some id := by
      refine Decidable.of_not_not fun untracked => straight ⟨report, rfl, by simp [next], ?_⟩
      rw [about]
      exact Ne.symm untracked
    exact ⟨same ▸ tracked, fun _ => tracked⟩

/-- What is asked of a peripheral is asked of the tracked one, except that the search is followed up
on any other: the peripheral is tracked when the operation ends, and was before it unless the
operation began to track it. A report about another peripheral is turned away: manager and store stay
as they are, and nothing is asked but what the search asks next. -/
theorem named_tracked_iff {manager : Manager} (reachable : manager.Reachable ω settings) (world : ω) :
    (∀ operation, let left := LinkTurn.operate { manager, world } settings operation
      (∀ request ∈ left.requests, ∀ id, request.peripheral? = some id →
        left.manager.tracked = some id ∧
          (operation.tracks = false → manager.tracked = some id)) ↔
      ¬manager.Strays settings operation) ∧
    ∀ report id, report.peripheral? = some id → report.isDiscovery = false →
      manager.tracked ≠ some id →
      let left := LinkTurn.operate { manager, world } settings (.report report)
      left = (LinkTurn.turnAway { manager, world } report).ask (report.followUp? settings) ∧
        left.manager = manager ∧ left.effects.any LinkEffect.stores = false ∧
        left.requests = (report.followUp? settings).toList := by
  have consistent := Manager.consistent_of_reachable reachable
  constructor
  · intro operation left
    -- The two look-ups name whatever peripheral they are given; all else names its own.
    by_cases search : ∃ report, operation = .report report ∧ report.searches = true
    · obtain ⟨report, rfl, search⟩ := search
      exact manager.search_named_iff world search
    · have other : ∀ report, operation = .report report → report.searches = false := by
        intro report same
        simpa using fun found => search ⟨report, same, found⟩
      refine iff_of_true ?_ ?_
      · intro request made id named
        exact (Manager.operates settings manager world operation).named consistent other made named
      · rintro ⟨report, same, next, -⟩
        simp [RadioReport.followUp?_eq_none (other report same)] at next
  · intro report id about old untracked left
    have unasked : manager.slot ≠ .opening id := by
      intro opening
      rw [Manager.Consistent, opening] at consistent
      exact untracked consistent.of_opening.2
    have away : left = (LinkTurn.turnAway { manager, world } report).ask (report.followUp? settings) :=
      LinkTurn.report_stranger _ settings about old untracked unasked
    refine ⟨away, ?_, ?_, ?_⟩ <;> simp [away]

/-- Characteristics of the tracked glasses are looked for when their services are known, while a
report about another peripheral changes nothing. -/
theorem named_tracked_iff_tracked :
    let glasses : PeripheralId := ⟨"glasses"⟩
    let other : PeripheralId := ⟨"other"⟩
    let rig : Bench.Rig := { power := .on, saved := some glasses }
    let settings : RadioSettings := {}
    let found : LinkOperation := .report (.services glasses (.ok [settings.service]))
    ∃ manager, Manager.Reachable Bench.Rig settings manager ∧ manager.tracked = some glasses ∧
      (LinkTurn.operate { manager, world := rig } settings found).requests
        = [.discoverCharacteristics glasses settings.service settings.keepAlive] ∧
      ¬manager.Strays settings found ∧
      (LinkTurn.operate { manager, world := rig } settings
        (.report (.disconnected other false none))).manager = manager := by
  intro glasses other rig settings found
  have run : ∃ manager, Manager.Reachable Bench.Rig settings manager ∧
      manager.tracked = some glasses := by
    refine ⟨_, Manager.Reachable.new
      |>.step (.report (.power .on)) rig
      |>.step (.report (.connected glasses)) rig, ?_⟩
    decide +kernel
  obtain ⟨manager, reachable, tracked⟩ := run
  obtain ⟨named, passed⟩ := named_tracked_iff reachable rig
  have asked : (LinkTurn.operate { manager, world := rig } settings found).requests
      = [.discoverCharacteristics glasses settings.service settings.keepAlive] := by
    simp [LinkTurn.operate, found, LinkTurn.report]
  refine ⟨manager, reachable, tracked, asked, (named found).mp ?_, ?_⟩
  · intro request made id about
    rw [asked, List.mem_singleton] at made
    obtain rfl := made
    obtain rfl := Option.some.inj about
    exact ⟨tracked, fun _ => tracked⟩
  · refine (passed (.disconnected other false none) other rfl rfl ?_).2.1
    simp [tracked, glasses, other]

/-- The link to the glasses is lost for good before their services are known; the search is followed
up all the same. -/
theorem search_of_untracked :
    let glasses : PeripheralId := ⟨"glasses"⟩
    let rig : Bench.Rig := { power := .on, saved := some glasses }
    let settings : RadioSettings := {}
    let found : LinkOperation := .report (.services glasses (.ok [settings.service]))
    ∃ manager, Manager.Reachable Bench.Rig settings manager ∧ manager.tracked = none ∧
      (LinkTurn.operate { manager, world := rig } settings found).requests
        = [.discoverCharacteristics glasses settings.service settings.keepAlive] ∧
      (LinkTurn.operate { manager, world := rig } settings found).manager.tracked = none := by
  intro glasses rig settings found
  refine ⟨_, Manager.Reachable.new
    |>.step (.report (.power .on)) rig
    |>.step (.report (.connected glasses)) rig
    |>.step (.report (.disconnected glasses false none)) rig, ?_⟩
  decide +kernel

end Sightline
