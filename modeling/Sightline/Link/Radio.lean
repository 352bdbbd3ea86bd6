import Sightline.Uuid

/-! The radio as the connection manager sees it: what can be asked of it, what it reports, and the
store that remembers which glasses belong to this device.

Like streams, the radio and the store live in surroundings `ω` about which nothing is promised: a
query may answer anything, and the store may fail. -/

set_option autoImplicit false

namespace Sightline

inductive Power where
  | on
  | off
  /-- Not known yet, resetting, or not allowed. -/
  | unknown
  deriving DecidableEq, Repr

inductive LinkStatus where
  | disconnected
  | connecting
  | connected
  | disconnecting
  deriving DecidableEq, Repr

structure PeripheralId where
  text : String
  deriving DecidableEq, Repr

structure ConnectOptions where
  /-- The radio brings a lost link back by itself. -/
  reconnects : Bool := true
  /-- The user is told when the link comes up. -/
  notifies : Bool := true
  deriving DecidableEq, Repr

structure RestoredPeripheral where
  id : PeripheralId
  link : LinkStatus
  deriving DecidableEq, Repr

structure Characteristic where
  uuid : Uuid
  notifies : Bool
  deriving DecidableEq, Repr

/-- What the manager asks of the radio. All answers but the list of connected peripherals come
later, as reports. -/
inductive RadioRequest where
  | startScan (service : Uuid)
  | stopScan
  | listConnected (service : Uuid)
  | connect (id : PeripheralId) (options : ConnectOptions)
  | cancelConnection (id : PeripheralId)
  | discoverServices (id : PeripheralId) (service : Uuid)
  | discoverCharacteristics (id : PeripheralId) (service characteristic : Uuid)
  | subscribe (id : PeripheralId) (service characteristic : Uuid)
  | openChannel (id : PeripheralId) (psm : UInt16)
  deriving DecidableEq, Repr

def RadioRequest.peripheral? : RadioRequest → Option PeripheralId
  | .startScan _ | .stopScan | .listConnected _ => none
  | .connect id _ | .cancelConnection id | .discoverServices id _
  | .discoverCharacteristics id _ _ | .subscribe id _ _ | .openChannel id _ => some id

class Radio (ω : Type) where
  power : ω → Power
  isScanning : ω → Bool
  link : ω → PeripheralId → LinkStatus
  /-- Peripherals with the service that are connected already, by this program or another. -/
  connected : ω → Uuid → List PeripheralId
  perform : ω → RadioRequest → ω

class IdentityStore (ω : Type) where
  load : ω → Except String (Option PeripheralId)
  save : ω → PeripheralId → Except String Unit × ω
  clear : ω → Except String Unit × ω

end Sightline
