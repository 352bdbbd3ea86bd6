import Sightline.Channel.Session
import Sightline.Link.Report
import Sightline.Link.State
import Sightline.Settings

/-! The connection to the glasses: it finds them, links to them, opens the channel, opens it again
when it dies on a live link, and forgets them when told to.

Every operation is a transformation of a `Turn`: the manager, its surroundings, and what has been
done to the surroundings so far. The small steps come first (`publish`, `request`, `teardown` and
others); each operation is a composition of them. -/

set_option autoImplicit false

namespace Sightline

inductive Slot where
  | vacant
  /-- A channel to this peripheral has been asked for and not been handed over yet. -/
  | opening (id : PeripheralId)
  | live (session : Session)
  deriving DecidableEq, Repr

structure Manager where
  state : ConnectionState := .disconnected
  /-- The peripheral being connected or connected to. -/
  tracked : Option PeripheralId := none
  /-- The peripheral remembered from before a restart, until it is used. -/
  restored : Option RestoredPeripheral := none
  /-- A restart was reported and not acted upon yet. -/
  wasRestored : Bool := false
  /-- The link is being dropped on purpose, so its loss is final. -/
  dropping : Bool := false
  /-- Reopened channels since the channel or the link last came up. -/
  reopens : Nat := 0
  /-- Changes whenever a scan starts or ends, so that a late timer can be told apart. -/
  attempt : Nat := 0
  slot : Slot := .vacant
  deriving DecidableEq, Repr

inductive LinkEffect where
  | stream (pair : StreamPair) (call : StreamCall)
  | completed (tag : Tag) (result : SendResult)
  | radio (request : RadioRequest)
  | saveIdentity (id : PeripheralId)
  | clearIdentity
  /-- The state was announced, even if it is the same as before. -/
  | published (state : ConnectionState)
  /-- A timer was started that reports the end of the given scan attempt. -/
  | scanTimer (attempt : Nat)
  /-- A chunk's end did not fit a machine word; the program cannot go on. -/
  | overflow
  /-- No buffer could be had for a chunk; the program cannot go on, and has read nothing. -/
  | unbuffered

def LinkEffect.ofNote (pair : StreamPair) : Session.Note → LinkEffect
  | .call call => .stream pair call
  | .completed tag result => .completed tag result
  | .overflow => .overflow
  | .unbuffered => .unbuffered

structure LinkTurn (ω : Type) where
  manager : Manager
  world : ω
  effects : Array LinkEffect := #[]

def Manager.session? (manager : Manager) : Option Session :=
  match manager.slot with
  | .live session => some session
  | _ => none

namespace LinkTurn

variable {ω : Type}

/-! ### Small steps -/

def publish (turn : LinkTurn ω) (state : ConnectionState) : LinkTurn ω :=
  { turn with
    manager := { turn.manager with state }
    effects := turn.effects.push (.published state) }

def request [Radio ω] (turn : LinkTurn ω) (request : RadioRequest) : LinkTurn ω :=
  { turn with
    world := Radio.perform turn.world request
    effects := turn.effects.push (.radio request) }

def nextAttempt (turn : LinkTurn ω) : LinkTurn ω :=
  { turn with manager := { turn.manager with attempt := turn.manager.attempt + 1 } }

def track (turn : LinkTurn ω) (id : PeripheralId) : LinkTurn ω :=
  { turn with manager := { turn.manager with tracked := some id } }

def untrack (turn : LinkTurn ω) : LinkTurn ω :=
  { turn with manager := { turn.manager with tracked := none } }

def setDropping (turn : LinkTurn ω) (dropping : Bool) : LinkTurn ω :=
  { turn with manager := { turn.manager with dropping } }

def setReopens (turn : LinkTurn ω) (reopens : Nat) : LinkTurn ω :=
  { turn with manager := { turn.manager with reopens } }

def setSlot (turn : LinkTurn ω) (slot : Slot) : LinkTurn ω :=
  { turn with manager := { turn.manager with slot } }

def saveIdentity [IdentityStore ω] (turn : LinkTurn ω) (id : PeripheralId) : LinkTurn ω :=
  { turn with
    world := (IdentityStore.save turn.world id).2
    effects := turn.effects.push (.saveIdentity id) }

def clearIdentity [IdentityStore ω] (turn : LinkTurn ω) : LinkTurn ω :=
  { turn with
    world := (IdentityStore.clear turn.world).2
    effects := turn.effects.push .clearIdentity }

def saved [IdentityStore ω] (turn : LinkTurn ω) : Option PeripheralId :=
  match IdentityStore.load turn.world with
  | .ok id => id
  | .error _ => none

def absorb (turn : LinkTurn ω) (pair : StreamPair) (result : Session.Turn ω) : LinkTurn ω :=
  { manager := { turn.manager with slot := .live result.session }
    world := result.world
    effects := turn.effects ++ result.notes.map (.ofNote pair) }

def teardown [Streams ω] (turn : LinkTurn ω) : LinkTurn ω :=
  match turn.manager.slot with
  | .live session =>
    let (world, notes) := session.close turn.world
    { manager := { turn.manager with slot := .vacant }
      world
      effects := turn.effects ++ notes.map (.ofNote session.pair) }
  | _ => turn.setSlot .vacant

def refuse [Streams ω] (turn : LinkTurn ω) (pair : StreamPair) : LinkTurn ω :=
  { turn with
    world := Streams.closeOutbound (Streams.closeInbound turn.world pair.handle) pair.handle
    effects := turn.effects ++ #[.stream pair .closeInbound, .stream pair .closeOutbound] }

def openChannel [Radio ω] (turn : LinkTurn ω) (settings : RadioSettings) (id : PeripheralId) :
    LinkTurn ω :=
  (turn.request (.openChannel id settings.psm)).setSlot (.opening id)

/-! ### Commands -/

def startScan [Radio ω] (turn : LinkTurn ω) (settings : RadioSettings) : LinkTurn ω :=
  let turn := ((turn.publish .scanning).request (.startScan settings.service)).nextAttempt
  { turn with effects := turn.effects.push (.scanTimer turn.manager.attempt) }

def connect [Radio ω] (turn : LinkTurn ω) (settings : RadioSettings) :
    Except ConnectRefusal Unit × LinkTurn ω :=
  if Radio.power turn.world ≠ .on then (.error .radioUnavailable, turn)
  else if turn.manager.state ≠ .idle ∧ turn.manager.state ≠ .disconnected then
    (.error (.busy turn.manager.state), turn)
  else if Radio.isScanning turn.world then (.error .alreadyScanning, turn)
  else
    match turn.manager.tracked with
    | none => (.ok (), turn.startScan settings)
    | some id =>
      match Radio.link turn.world id with
      | .connected | .connecting => (.error (.peripheralActive id), turn)
      | .disconnected | .disconnecting => (.ok (), turn.startScan settings)

def disconnect [Radio ω] [Streams ω] [IdentityStore ω] (turn : LinkTurn ω) : LinkTurn ω :=
  let turn := turn.clearIdentity
  if turn.manager.state = .scanning then
    ((turn.request .stopScan).nextAttempt).publish .disconnected
  else
    match turn.manager.tracked with
    | none => turn.teardown.publish .disconnected
    | some id =>
      match Radio.link turn.world id with
      | .connected | .connecting | .disconnecting =>
        (turn.setDropping true).request (.cancelConnection id)
      | .disconnected => turn.teardown.untrack.publish .disconnected

def scanTimeout [Radio ω] (turn : LinkTurn ω) (attempt : Nat) : LinkTurn ω :=
  if attempt = turn.manager.attempt ∧ turn.manager.state = .scanning then
    ((turn.request .stopScan).nextAttempt).publish .disconnected
  else turn

/-! ### Reports of the radio -/

section Reports

variable [Radio ω] [Streams ω] [IdentityStore ω]

def linkUp (turn : LinkTurn ω) (settings : RadioSettings) (id : PeripheralId) : LinkTurn ω :=
  ((((turn.saveIdentity id).teardown.setReopens 0).publish .connecting).request
    (.discoverServices id settings.service)).openChannel settings id

def reset (turn : LinkTurn ω) : LinkTurn ω :=
  let turn := turn.nextAttempt.teardown
  ({ turn with
    manager := { turn.manager with
      tracked := none, restored := none, wasRestored := false, dropping := false,
      reopens := 0 } }).publish .disconnected

def rejoinSaved (turn : LinkTurn ω) (settings : RadioSettings) : LinkTurn ω :=
  match turn.saved with
  | none => turn
  | some id =>
    let known := Radio.connected turn.world settings.service
    let turn := ((turn.request (.listConnected settings.service)).track id).publish .connecting
    if id ∈ known then turn.linkUp settings id
    else turn.request (.connect id {})

/-- Goes on with the peripheral that the radio kept over a restart, or else connects to the
remembered one. -/
def rejoinRestored (turn : LinkTurn ω) (settings : RadioSettings) : LinkTurn ω :=
  let restored := turn.manager.restored
  let turn := { turn with
    manager := { turn.manager with wasRestored := false, restored := none } }
  match restored with
  | none => turn.rejoinSaved settings
  | some ⟨id, link⟩ =>
    let turn := (turn.track id).publish .connecting
    match link with
    | .connected => turn.linkUp settings id
    | .connecting => turn
    | .disconnected | .disconnecting => turn.request (.connect id {})

def powerChanged (turn : LinkTurn ω) (settings : RadioSettings) : Power → LinkTurn ω
  | .on =>
    match turn.manager.state with
    | .scanning | .connecting | .connected => turn
    | .idle | .disconnected =>
      let turn := turn.publish .idle
      if turn.manager.wasRestored then turn.rejoinRestored settings
      else turn.rejoinSaved settings
  | .off | .unknown => turn.reset

def restartReported (turn : LinkTurn ω) (kept : List RestoredPeripheral) : LinkTurn ω :=
  let turn := { turn with manager := { turn.manager with wasRestored := true } }
  match turn.saved with
  | none => turn
  | some id =>
    match kept.find? (·.id = id) with
    | none => turn
    | some peripheral =>
      { turn with manager := { turn.manager with restored := some peripheral } }

def found (turn : LinkTurn ω) (id : PeripheralId) : LinkTurn ω :=
  if turn.manager.state = .scanning then
    ((((turn.request .stopScan).nextAttempt).track id).publish .connecting).request
      (.connect id {})
  else turn

/-- The link was lost. The radio's own attempt to bring it back is waited for, unless the link was
dropped on purpose. -/
def linkDown (turn : LinkTurn ω) (id : PeripheralId) (reconnecting : Bool) : LinkTurn ω :=
  if turn.manager.tracked ≠ some id then turn
  else
    let turn := turn.teardown
    if reconnecting && !turn.manager.dropping then turn.publish .connecting
    else ((turn.setDropping false).untrack).publish .disconnected

def foundCharacteristics (turn : LinkTurn ω) (settings : RadioSettings) (id : PeripheralId)
    (service : Uuid) (characteristics : List Characteristic) : LinkTurn ω :=
  match characteristics.find? (·.uuid = settings.keepAlive) with
  | some ⟨uuid, true⟩ => turn.request (.subscribe id service uuid)
  | _ => turn

/-- A channel was handed over, or could not be opened. One that was not asked for is closed. -/
def channelOpened (turn : LinkTurn ω) (settings : RadioSettings) (id : PeripheralId)
    (result : Except String StreamPair) : LinkTurn ω :=
  if turn.manager.slot ≠ .opening id then
    match result with
    | .ok pair => turn.refuse pair
    | .error _ => turn
  else
    match result with
    | .ok pair =>
      turn.setSlot (.live (.start pair settings.mtu.toNat settings.frameLimit.toNat))
    | .error _ =>
      (((turn.setSlot .vacant).setDropping true).request (.cancelConnection id)).publish
        .disconnected

def report (turn : LinkTurn ω) (settings : RadioSettings) : RadioReport → LinkTurn ω
  | .power power => turn.powerChanged settings power
  | .restored kept => turn.restartReported kept
  | .discovered id _ _ => turn.found id
  | .connected id => if turn.manager.tracked = some id then turn.linkUp settings id else turn
  | .connectFailed id _ =>
    if turn.manager.tracked = some id then turn.teardown.untrack.publish .disconnected else turn
  | .disconnected id reconnecting _ => turn.linkDown id reconnecting
  | .services id (.ok services) =>
    if settings.service ∈ services then
      turn.request (.discoverCharacteristics id settings.service settings.keepAlive)
    else turn
  | .services _ (.error _) => turn
  | .characteristics id service (.ok characteristics) =>
    turn.foundCharacteristics settings id service characteristics
  | .characteristics _ _ (.error _) => turn
  | .notification _ _ _ => turn
  | .value _ _ _ => turn
  | .channelOpened id result => turn.channelOpened settings id result

/-! ### Notifications of the streams -/

/-- The channel died. On a live link it is opened again, up to `maxReopens` times; otherwise the
reports of the link decide. -/
def channelLost (turn : LinkTurn ω) (settings : RadioSettings) : LinkTurn ω :=
  let turn := turn.teardown
  match turn.manager.tracked with
  | none => turn.publish .disconnected
  | some id =>
    match Radio.link turn.world id with
    | .connected =>
      if turn.manager.reopens < maxReopens then
        ((turn.setReopens (turn.manager.reopens + 1)).publish .connecting).openChannel settings id
      else (turn.request (.cancelConnection id)).publish .disconnected
    | .connecting => turn.publish .connecting
    | .disconnecting | .disconnected => turn.publish .disconnected

def streamEvent (turn : LinkTurn ω) (settings : RadioSettings) (event : StreamEvent) :
    List Bytes × LinkTurn ω :=
  match turn.manager.slot with
  | .live session =>
    let (outcome, result) := session.handle event turn.world
    let turn := turn.absorb session.pair result
    match outcome with
    | .nothing => ([], turn)
    | .opened => ([], (turn.setReopens 0).publish .connected)
    | .frames frames => (frames, turn)
    | .terminated _ => ([], turn.channelLost settings)
  | _ => ([], turn)

def submit (turn : LinkTurn ω) (payload : Bytes) (tag : Tag) :
    Except SendError Unit × LinkTurn ω :=
  match turn.manager.slot with
  | .live session =>
    if session.isOpen then
      let (answer, result) := session.submit payload tag turn.world
      (answer, turn.absorb session.pair result)
    else (.error .noSession, turn)
  | _ => (.error .noSession, turn)

end Reports

end LinkTurn

end Sightline
