import Sightline.Proofs.Link.Run

/-! What an operation makes of the manager, and what it asks of the radio.

`Manager.Operates` lists the ways in which an operation is applied, with the manager that each leaves
and its requests in order. Whatever concerns only these two is proved over its cases, and the operations
are not looked into again. -/

set_option autoImplicit false

namespace Sightline

def LinkEffect.request? : LinkEffect → Option RadioRequest
  | .radio request => some request
  | _ => none

def LinkTurn.requests {ω : Type} (turn : LinkTurn ω) : List RadioRequest :=
  turn.effects.toList.filterMap LinkEffect.request?

namespace LinkTurn

variable {ω : Type} (turn : LinkTurn ω)

/-! ### Managers and requests of the small steps -/

@[simp] theorem manager_publish (state : ConnectionState) :
    (turn.publish state).manager = { turn.manager with state } := rfl

@[simp] theorem manager_request [Radio ω] (request : RadioRequest) :
    (turn.request request).manager = turn.manager := rfl

@[simp] theorem manager_clearIdentity [IdentityStore ω] :
    turn.clearIdentity.manager = turn.manager := rfl

@[simp] theorem manager_nextAttempt :
    turn.nextAttempt.manager = { turn.manager with attempt := turn.manager.attempt + 1 } := rfl

@[simp] theorem manager_track (id : PeripheralId) :
    (turn.track id).manager = { turn.manager with tracked := some id } := rfl

@[simp] theorem manager_untrack :
    turn.untrack.manager = { turn.manager with tracked := none } := rfl

@[simp] theorem manager_setDropping (dropping : Bool) :
    (turn.setDropping dropping).manager = { turn.manager with dropping } := rfl

@[simp] theorem manager_setReopens (reopens : Nat) :
    (turn.setReopens reopens).manager = { turn.manager with reopens } := rfl

@[simp] theorem manager_setSlot (slot : Slot) :
    (turn.setSlot slot).manager = { turn.manager with slot } := rfl

@[simp] theorem manager_absorb (pair : StreamPair) (result : Session.Turn ω) :
    (turn.absorb pair result).manager
      = { turn.manager with slot := .live result.session } := rfl

theorem requests_manager (manager : Manager) :
    requests { turn with manager } = turn.requests := rfl

@[simp] theorem requests_start (manager : Manager) (world : ω) :
    requests { manager, world } = [] := rfl

@[simp] theorem requests_publish (state : ConnectionState) :
    (turn.publish state).requests = turn.requests := by
  simp [requests, publish, LinkEffect.request?]

@[simp] theorem requests_request [Radio ω] (request : RadioRequest) :
    (turn.request request).requests = turn.requests ++ [request] := by
  simp [requests, LinkTurn.request, LinkEffect.request?]

@[simp] theorem requests_saveIdentity [IdentityStore ω] (id : PeripheralId) :
    (turn.saveIdentity id).requests = turn.requests := by
  simp [requests, saveIdentity, LinkEffect.request?]

@[simp] theorem requests_clearIdentity [IdentityStore ω] :
    turn.clearIdentity.requests = turn.requests := by
  simp [requests, clearIdentity, LinkEffect.request?]

@[simp] theorem requests_nextAttempt : turn.nextAttempt.requests = turn.requests := rfl

@[simp] theorem requests_track (id : PeripheralId) : (turn.track id).requests = turn.requests := rfl

@[simp] theorem requests_untrack : turn.untrack.requests = turn.requests := rfl

@[simp] theorem requests_setDropping (dropping : Bool) :
    (turn.setDropping dropping).requests = turn.requests := rfl

@[simp] theorem requests_setReopens (reopens : Nat) :
    (turn.setReopens reopens).requests = turn.requests := rfl

@[simp] theorem requests_setSlot (slot : Slot) : (turn.setSlot slot).requests = turn.requests := rfl

theorem request?_ofNote (pair : StreamPair) (note : Session.Note) :
    (LinkEffect.ofNote pair note).request? = none := by
  cases note <;> rfl

theorem requests_notes (pair : StreamPair) (notes : Array Session.Note) :
    (notes.map (LinkEffect.ofNote pair)).toList.filterMap LinkEffect.request? = [] := by
  rw [Array.toList_map, List.filterMap_eq_nil_iff]
  intro effect member
  obtain ⟨note, -, rfl⟩ := List.mem_map.mp member
  exact request?_ofNote pair note

@[simp] theorem requests_absorb (pair : StreamPair) (result : Session.Turn ω) :
    (turn.absorb pair result).requests = turn.requests := by
  rw [requests, absorb, Array.toList_append, List.filterMap_append, requests_notes, List.append_nil,
    requests]

variable [Streams ω]

@[simp] theorem requests_teardown : turn.teardown.requests = turn.requests := by
  unfold teardown
  split
  · rw [requests, Array.toList_append, List.filterMap_append, requests_notes, List.append_nil,
      requests]
  · rfl

@[simp] theorem requests_refuse (pair : StreamPair) :
    (turn.refuse pair).requests = turn.requests := by
  simp [requests, refuse, LinkEffect.request?]

@[simp] theorem requests_reset : turn.reset.requests = turn.requests := by
  unfold reset
  rw [requests_publish]
  exact (requests_teardown turn.nextAttempt)

omit [Streams ω] in
@[simp] theorem requests_openChannel [Radio ω] (settings : RadioSettings) (id : PeripheralId) :
    (turn.openChannel settings id).requests
      = turn.requests ++ [.openChannel id settings.psm] := by
  simp [openChannel]

@[simp] theorem requests_linkUp [Radio ω] [IdentityStore ω] (settings : RadioSettings)
    (id : PeripheralId) : (turn.linkUp settings id).requests
      = turn.requests ++ [.discoverServices id settings.service, .openChannel id settings.psm] := by
  simp [linkUp]

end LinkTurn

/-- All the ways in which an operation is applied: what it makes of the manager, and what it asks of the
radio. -/
inductive Manager.Operates (settings : RadioSettings) (manager : Manager) :
    LinkOperation → Manager → List RadioRequest → Prop where
  | refused : Operates settings manager .connect manager []
  | scans : manager.state = .idle ∨ manager.state = .disconnected →
      Operates settings manager .connect
        { manager with state := .scanning, attempt := manager.attempt + 1 }
        [.startScan settings.service]
  /-- The user or the timer ends the scan. -/
  | scanEnded {operation : LinkOperation} : manager.state = .scanning →
      operation = .disconnect ∨ operation = .scanTimeout manager.attempt →
      Operates settings manager operation
        { manager with state := .disconnected, attempt := manager.attempt + 1 } [.stopScan]
  | lateTimeout {attempt : Nat} : ¬(attempt = manager.attempt ∧ manager.state = .scanning) →
      Operates settings manager (.scanTimeout attempt) manager []
  | nothingToDrop : manager.state ≠ .scanning → manager.tracked = none →
      Operates settings manager .disconnect
        { manager with state := .disconnected, slot := .vacant } []
  | dropped {id : PeripheralId} : manager.state ≠ .scanning → manager.tracked = some id →
      Operates settings manager .disconnect { manager with dropping := true }
        [.cancelConnection id]
  | droppedBefore {id : PeripheralId} : manager.state ≠ .scanning → manager.tracked = some id →
      Operates settings manager .disconnect
        { manager with state := .disconnected, tracked := none, slot := .vacant } []
  | powerLost {power : Power} : power ≠ .on →
      Operates settings manager (.report (.power power)) { attempt := manager.attempt + 1 } []
  | busy : ¬(manager.state = .idle ∨ manager.state = .disconnected) →
      Operates settings manager (.report (.power .on)) manager []
  /-- The radio came on, and no glasses are remembered. -/
  | idle {wasRestored : Bool} : manager.state = .idle ∨ manager.state = .disconnected →
      Operates settings manager (.report (.power .on))
        { manager with state := .idle, wasRestored } []
  /-- The radio came on with the link to the remembered glasses up. -/
  | adopted {id : PeripheralId} {restored : Option RestoredPeripheral} {wasRestored : Bool}
      {asked : List RadioRequest} : manager.state = .idle ∨ manager.state = .disconnected →
      asked = [.discoverServices id settings.service, .openChannel id settings.psm] ∨
        asked = [.listConnected settings.service, .discoverServices id settings.service,
          .openChannel id settings.psm] →
      Operates settings manager (.report (.power .on))
        { manager with
          state := .connecting, tracked := some id, restored, wasRestored, reopens := 0,
          slot := .opening id } asked
  /-- The radio came on, and the remembered glasses are connected to, or are being connected to by the
  radio already. -/
  | rejoined {id : PeripheralId} {restored : Option RestoredPeripheral} {wasRestored : Bool}
      {asked : List RadioRequest} : manager.state = .idle ∨ manager.state = .disconnected →
      asked = [] ∨ asked = [.connect id {}] ∨
        asked = [.listConnected settings.service, .connect id {}] →
      Operates settings manager (.report (.power .on))
        { manager with state := .connecting, tracked := some id, restored, wasRestored } asked
  | restarted {kept : List RestoredPeripheral} {restored : Option RestoredPeripheral} :
      Operates settings manager (.report (.restored kept))
        { manager with wasRestored := true, restored } []
  | unsought {id : PeripheralId} {name : Option String} {strength : Option Int} :
      manager.state ≠ .scanning →
      Operates settings manager (.report (.discovered id name strength)) manager []
  | found {id : PeripheralId} {name : Option String} {strength : Option Int} :
      manager.state = .scanning →
      Operates settings manager (.report (.discovered id name strength))
        { manager with
          state := .connecting, tracked := some id, attempt := manager.attempt + 1 }
        [.stopScan, .connect id {}]
  /-- A report about the link of a peripheral that is not tracked. -/
  | stranger {id : PeripheralId} {report : RadioReport} : manager.tracked ≠ some id →
      report = .connected id ∨ (∃ reason, report = .connectFailed id reason) ∨
        (∃ reconnecting reason, report = .disconnected id reconnecting reason) →
      Operates settings manager (.report report) manager []
  | linkedUp {id : PeripheralId} : manager.tracked = some id →
      Operates settings manager (.report (.connected id))
        { manager with state := .connecting, reopens := 0, slot := .opening id }
        [.discoverServices id settings.service, .openChannel id settings.psm]
  | linkFailed {id : PeripheralId} {reason : String} : manager.tracked = some id →
      Operates settings manager (.report (.connectFailed id reason))
        { manager with state := .disconnected, tracked := none, slot := .vacant } []
  /-- The radio brings the link back by itself. -/
  | linkAwaited {id : PeripheralId} {reason : Option String} : manager.tracked = some id →
      manager.dropping = false →
      Operates settings manager (.report (.disconnected id true reason))
        { manager with state := .connecting, slot := .vacant } []
  | linkLost {id : PeripheralId} {reconnecting : Bool} {reason : Option String} :
      manager.tracked = some id → reconnecting = false ∨ manager.dropping = true →
      Operates settings manager (.report (.disconnected id reconnecting reason))
        { manager with state := .disconnected, tracked := none, dropping := false, slot := .vacant }
        []
  | lookedUp {id : PeripheralId} {result : Except String (List Uuid)}
      {asked : List RadioRequest} : asked = [] ∨
        asked = [.discoverCharacteristics id settings.service settings.keepAlive] →
      Operates settings manager (.report (.services id result)) manager asked
  | characterised {id : PeripheralId} {service : Uuid}
      {result : Except String (List Characteristic)} {asked : List RadioRequest} :
      asked = [] ∨ (∃ uuid, asked = [.subscribe id service uuid]) →
      Operates settings manager (.report (.characteristics id service result)) manager asked
  | notified {id : PeripheralId} {characteristic : Uuid} {result : Except String Bool} :
      Operates settings manager (.report (.notification id characteristic result)) manager []
  | valued {id : PeripheralId} {characteristic : Uuid} {value : Bytes} :
      Operates settings manager (.report (.value id characteristic value)) manager []
  /-- A channel that was not asked for. -/
  | unasked {id : PeripheralId} {result : Except String StreamPair} :
      manager.slot ≠ .opening id →
      Operates settings manager (.report (.channelOpened id result)) manager []
  | handedOver {id : PeripheralId} {pair : StreamPair} : manager.slot = .opening id →
      Operates settings manager (.report (.channelOpened id (.ok pair)))
        { manager with
          slot := .live (.start pair settings.mtu.toNat settings.frameLimit.toNat) } []
  | channelFailed {id : PeripheralId} {reason : String} : manager.slot = .opening id →
      Operates settings manager (.report (.channelOpened id (.error reason)))
        { manager with state := .disconnected, dropping := true, slot := .vacant }
        [.cancelConnection id]
  /-- There is no session that could be told of anything. -/
  | sessionless {operation : LinkOperation} : (∀ session, manager.slot ≠ .live session) →
      (∃ event, operation = .streamEvent event) ∨
        (∃ payload tag, operation = .submit payload tag) →
      Operates settings manager operation manager []
  /-- Only the session changes. -/
  | served {session later : Session} {operation : LinkOperation} : manager.slot = .live session →
      (∃ event, operation = .streamEvent event) ∨
        (∃ payload tag, operation = .submit payload tag) →
      Operates settings manager operation { manager with slot := .live later } []
  | greeted {session later : Session} {event : StreamEvent} : manager.slot = .live session →
      Operates settings manager (.streamEvent event)
        { manager with state := .connected, reopens := 0, slot := .live later } []
  /-- The channel died on a live link. -/
  | reopened {session : Session} {event : StreamEvent} {id : PeripheralId} :
      manager.slot = .live session → manager.tracked = some id → manager.reopens < maxReopens →
      Operates settings manager (.streamEvent event)
        { manager with
          state := .connecting, reopens := manager.reopens + 1, slot := .opening id }
        [.openChannel id settings.psm]
  /-- The channel died, and the link's own reports decide what comes of it. -/
  | channelLost {session : Session} {event : StreamEvent} {state : ConnectionState}
      {asked : List RadioRequest} : manager.slot = .live session →
      state = .connecting ∨ state = .disconnected →
      asked = [] ∨ (∃ id, asked = [.cancelConnection id]) →
      (∀ id, .cancelConnection id ∈ asked → manager.tracked = some id) →
      Operates settings manager (.streamEvent event) { manager with state, slot := .vacant } asked

namespace Manager

variable {ω : Type} [Radio ω] (settings : RadioSettings) (manager : Manager) (world : ω)

theorem operates_connect : Operates settings manager .connect
    (LinkTurn.connect { manager, world } settings).2.manager
    (LinkTurn.connect { manager, world } settings).2.requests := by
  rcases LinkTurn.connect_cases { manager, world } settings with
    ⟨accepted, resting⟩ | ⟨refusal, refused⟩
  · rw [accepted]
    exact .scans resting
  · rw [refused]
    exact .refused

theorem operates_scanTimeout (attempt : Nat) : Operates settings manager (.scanTimeout attempt)
    (LinkTurn.scanTimeout { manager, world } attempt).manager
    (LinkTurn.scanTimeout { manager, world } attempt).requests := by
  unfold LinkTurn.scanTimeout
  split
  · next timely => exact .scanEnded timely.2 (.inr (congrArg _ timely.1))
  · next late => exact .lateTimeout late

variable [Streams ω]

omit [Radio ω] in
theorem operates_submit (payload : Bytes) (tag : Tag) :
    Operates settings manager (.submit payload tag)
      (LinkTurn.submit { manager, world } payload tag).2.manager
      (LinkTurn.submit { manager, world } payload tag).2.requests := by
  have submission : (∃ event, LinkOperation.submit payload tag = .streamEvent event) ∨
      ∃ other name, LinkOperation.submit payload tag = .submit other name := .inr ⟨_, _, rfl⟩
  unfold LinkTurn.submit
  split
  · next session live =>
    split
    · simp only [LinkTurn.requests_absorb]
      exact .served live submission
    · have served : Operates settings manager (.submit payload tag)
          { manager with slot := .live session } [] := .served live submission
      rwa [← live] at served
  · next absent => exact .sessionless absent submission

variable [IdentityStore ω]

theorem operates_disconnect : Operates settings manager .disconnect
    (LinkTurn.disconnect { manager, world }).manager
    (LinkTurn.disconnect { manager, world }).requests := by
  rcases LinkTurn.disconnect_cases { manager, world } with ⟨scanning, left⟩ |
    ⟨other, untracked, left⟩ | ⟨other, id, tracked, -, left⟩ | ⟨other, id, tracked, -, left⟩
  · rw [left]
    exact .scanEnded scanning (.inl rfl)
  · rw [left]
    simpa using Operates.nothingToDrop other untracked
  · rw [left]
    exact .dropped other tracked
  · rw [left]
    simpa using Operates.droppedBefore other tracked

/-! ### Reports of the radio -/

theorem rejoinSaved_cases (turn : LinkTurn ω) : turn.rejoinSaved settings = turn ∨
    ∃ id, turn.rejoinSaved settings
        = (((turn.request (.listConnected settings.service)).track id).publish .connecting).linkUp
            settings id ∨
      turn.rejoinSaved settings
        = (((turn.request (.listConnected settings.service)).track id).publish .connecting).request
            (.connect id {}) := by
  unfold LinkTurn.rejoinSaved
  split
  · exact .inl rfl
  · next id _ =>
    refine .inr ⟨id, ?_⟩
    simp only
    split
    · exact .inl rfl
    · exact .inr rfl

variable {manager}

theorem operates_rejoinSaved (resting : manager.state = .idle ∨ manager.state = .disconnected)
    {wasRestored : Bool} {turn : LinkTurn ω}
    (idle : turn.manager = { manager with state := .idle, wasRestored })
    (unasked : turn.requests = []) :
    Operates settings manager (.report (.power .on)) (turn.rejoinSaved settings).manager
      (turn.rejoinSaved settings).requests := by
  rcases rejoinSaved_cases settings turn with same | ⟨id, up | down⟩
  · rw [same, idle, unasked]
    exact .idle resting
  · have adopted : Operates settings manager (.report (.power .on))
        { manager with
          state := .connecting, tracked := some id, wasRestored, reopens := 0, slot := .opening id }
        [.listConnected settings.service, .discoverServices id settings.service,
          .openChannel id settings.psm] := .adopted resting (.inr rfl)
    simpa [up, idle, unasked] using adopted
  · have rejoined : Operates settings manager (.report (.power .on))
        { manager with state := .connecting, tracked := some id, wasRestored }
        [.listConnected settings.service, .connect id {}] := .rejoined resting (.inr (.inr rfl))
    simpa [down, idle, unasked] using rejoined

theorem operates_rejoinRestored (resting : manager.state = .idle ∨ manager.state = .disconnected)
    {turn : LinkTurn ω} (idle : turn.manager = { manager with state := .idle })
    (unasked : turn.requests = []) :
    Operates settings manager (.report (.power .on)) (turn.rejoinRestored settings).manager
      (turn.rejoinRestored settings).requests := by
  have same : turn.manager.restored = manager.restored := by rw [idle]
  unfold LinkTurn.rejoinRestored
  simp only [same]
  split
  -- With nothing handed back the saved identity is tried instead.
  · next unknown =>
    have forgetful : { turn.manager with wasRestored := false, restored := none }
        = { manager with state := .idle, wasRestored := false } := by simp [idle, unknown]
    exact operates_rejoinSaved settings resting forgetful unasked
  · next id link _ =>
    have rejoined : ∀ {asked : List RadioRequest}, asked = [] ∨ asked = [.connect id {}] →
        Operates settings manager (.report (.power .on))
          { manager with
            state := .connecting, tracked := some id, restored := none, wasRestored := false }
          asked :=
      fun asked => .rejoined resting (asked.imp_right .inl)
    have adopted : Operates settings manager (.report (.power .on))
        { manager with
          state := .connecting, tracked := some id, restored := none, wasRestored := false,
          reopens := 0, slot := .opening id }
        [.discoverServices id settings.service, .openChannel id settings.psm] :=
      .adopted resting (.inl rfl)
    split
    · simpa [LinkTurn.requests_manager, idle, unasked] using adopted
    · simpa [LinkTurn.requests_manager, idle, unasked] using rejoined (.inl rfl)
    · simpa [LinkTurn.requests_manager, idle, unasked] using rejoined (.inr rfl)
    · simpa [LinkTurn.requests_manager, idle, unasked] using rejoined (.inr rfl)

variable (manager)

theorem operates_powerChanged (power : Power) :
    Operates settings manager (.report (.power power))
      (LinkTurn.powerChanged { manager, world } settings power).manager
      (LinkTurn.powerChanged { manager, world } settings power).requests := by
  cases power with
  | off | unknown =>
    simp only [LinkTurn.powerChanged, LinkTurn.manager_reset, LinkTurn.requests_reset]
    exact .powerLost (by simp)
  | on =>
    rcases LinkTurn.powerOn_cases { manager, world } settings with
      ⟨resting, rejoins⟩ | ⟨other, same⟩
    · rw [rejoins]
      split
      · exact operates_rejoinRestored settings resting rfl (by simp)
      · exact operates_rejoinSaved settings resting rfl (by simp)
    · rw [same]
      exact .busy other

omit [Streams ω] [IdentityStore ω] in
theorem operates_found (id : PeripheralId) (name : Option String) (strength : Option Int) :
    Operates settings manager (.report (.discovered id name strength))
      (LinkTurn.found { manager, world } id).manager
      (LinkTurn.found { manager, world } id).requests := by
  unfold LinkTurn.found
  split
  · next scanning => exact .found scanning
  · next other => exact .unsought other

omit [Radio ω] [IdentityStore ω] in
theorem operates_linkDown (id : PeripheralId) (reconnecting : Bool) (reason : Option String) :
    Operates settings manager (.report (.disconnected id reconnecting reason))
      (LinkTurn.linkDown { manager, world } id reconnecting).manager
      (LinkTurn.linkDown { manager, world } id reconnecting).requests := by
  unfold LinkTurn.linkDown
  split
  · next other => exact .stranger other (.inr (.inr ⟨_, _, rfl⟩))
  · next tracked =>
    rw [Decidable.not_not] at tracked
    simp only
    split
    · next awaited =>
      simp only [LinkTurn.manager_teardown, Bool.and_eq_true, Bool.not_eq_true'] at awaited
      obtain ⟨rfl, unmarked⟩ := awaited
      simpa using Operates.linkAwaited tracked unmarked
    · next final =>
      have reason : reconnecting = false ∨ manager.dropping = true := by
        cases reconnecting with
        | false => exact .inl rfl
        | true => exact .inr (by simpa using final)
      simpa using Operates.linkLost tracked reason

omit [IdentityStore ω] in
theorem operates_channelOpened (id : PeripheralId) (result : Except String StreamPair) :
    Operates settings manager (.report (.channelOpened id result))
      (LinkTurn.channelOpened { manager, world } settings id result).manager
      (LinkTurn.channelOpened { manager, world } settings id result).requests := by
  unfold LinkTurn.channelOpened
  split
  · next other =>
    split
    · simp only [LinkTurn.requests_refuse]
      exact .unasked other
    · exact .unasked other
  · next expected =>
    rw [Decidable.not_not] at expected
    split
    · exact .handedOver expected
    · exact .channelFailed expected

theorem operates_report (report : RadioReport) : Operates settings manager (.report report)
    (LinkTurn.report { manager, world } settings report).manager
    (LinkTurn.report { manager, world } settings report).requests := by
  cases report with
  | power power => exact operates_powerChanged settings manager world power
  | restored kept =>
    obtain ⟨restored, noted⟩ := LinkTurn.restored_cases { manager, world } settings kept
    rw [noted]
    exact .restarted
  | discovered id name strength => exact operates_found settings manager world id name strength
  | connected id =>
    unfold LinkTurn.report
    simp only
    split
    · next tracked =>
      simp only [LinkTurn.manager_linkUp, LinkTurn.requests_linkUp]
      exact .linkedUp tracked
    · next other => exact .stranger other (.inl rfl)
  | connectFailed id reason =>
    unfold LinkTurn.report
    simp only
    split
    · next tracked =>
      have failed : Operates settings manager (.report (.connectFailed id reason))
          { manager with state := .disconnected, tracked := none, slot := .vacant } [] :=
        .linkFailed tracked
      simpa using failed
    · next other => exact .stranger other (.inr (.inl ⟨reason, rfl⟩))
  | disconnected id reconnecting reason =>
    exact operates_linkDown settings manager world id reconnecting reason
  | services id result =>
    rcases LinkTurn.services_cases { manager, world } settings id result with same | asked
    · rw [same]
      exact .lookedUp (.inl rfl)
    · rw [asked]
      exact .lookedUp (.inr rfl)
  | characteristics id service result =>
    rcases LinkTurn.characteristics_cases { manager, world } settings id service result with
      same | ⟨uuid, asked⟩
    · rw [same]
      exact .characterised (.inl rfl)
    · rw [asked]
      exact .characterised (.inr ⟨uuid, rfl⟩)
  | notification => exact .notified
  | value => exact .valued
  | channelOpened id result => exact operates_channelOpened settings manager world id result

/-! ### Notifications of the streams -/

omit [IdentityStore ω] in
theorem operates_channelLost {session later : Session} (live : manager.slot = .live session)
    (event : StreamEvent) {turn : LinkTurn ω}
    (served : turn.manager = { manager with slot := .live later }) (unasked : turn.requests = []) :
    Operates settings manager (.streamEvent event) (turn.channelLost settings).manager
      (turn.channelLost settings).requests := by
  have lost : ∀ {state : ConnectionState}, state = .connecting ∨ state = .disconnected →
      Operates settings manager (.streamEvent event) { manager with state, slot := .vacant } [] :=
    fun state => .channelLost live state (.inl rfl) (by simp)
  have tracked : turn.teardown.manager.tracked = manager.tracked := by simp [served]
  have reopens : turn.teardown.manager.reopens = manager.reopens := by simp [served]
  unfold LinkTurn.channelLost
  simp only [tracked, reopens]
  split
  · simpa [served, unasked] using lost (.inr rfl)
  · next id same =>
    -- A tracked peripheral whose link is up is asked again until the reopenings are used up.
    split
    · split
      · next below =>
        have reopened : Operates settings manager (.streamEvent event)
            { manager with
              state := .connecting, reopens := manager.reopens + 1, slot := .opening id }
            [.openChannel id settings.psm] := .reopened live same below
        simpa [served, unasked] using reopened
      · have dropped : Operates settings manager (.streamEvent event)
            { manager with state := .disconnected, slot := .vacant } [.cancelConnection id] :=
          .channelLost live (.inr rfl) (.inr ⟨id, rfl⟩) (by simp [same])
        simpa [served, unasked] using dropped
    · simpa [served, unasked] using lost (.inl rfl)
    · simpa [served, unasked] using lost (.inr rfl)
    · simpa [served, unasked] using lost (.inr rfl)

omit [IdentityStore ω] in
theorem operates_streamEvent (event : StreamEvent) :
    Operates settings manager (.streamEvent event)
      (LinkTurn.streamEvent { manager, world } settings event).2.manager
      (LinkTurn.streamEvent { manager, world } settings event).2.requests := by
  have notification : (∃ other, LinkOperation.streamEvent event = .streamEvent other) ∨
      ∃ payload tag, LinkOperation.streamEvent event = .submit payload tag := .inl ⟨event, rfl⟩
  unfold LinkTurn.streamEvent
  split
  · next session live =>
    simp only
    split
    · simp only [LinkTurn.requests_absorb]
      exact .served live notification
    · simp only [LinkTurn.requests_publish, LinkTurn.requests_setReopens, LinkTurn.requests_absorb]
      exact .greeted live
    · simp only [LinkTurn.requests_absorb]
      exact .served live notification
    · exact operates_channelLost settings manager live event rfl (by simp)
  · next absent => exact .sessionless absent notification

theorem operates (operation : LinkOperation) : Operates settings manager operation
    (LinkTurn.operate { manager, world } settings operation).manager
    (LinkTurn.operate { manager, world } settings operation).requests := by
  cases operation with
  | connect => exact operates_connect settings manager world
  | disconnect => exact operates_disconnect settings manager world
  | scanTimeout attempt => exact operates_scanTimeout settings manager world attempt
  | report report => exact operates_report settings manager world report
  | streamEvent event => exact operates_streamEvent settings manager world event
  | submit payload tag => exact operates_submit settings manager world payload tag

end Manager

end Sightline
