import Sightline.Channel.Streams
import Sightline.Link.Radio

/-! What the radio reports of its own accord. -/

set_option autoImplicit false

namespace Sightline

/-- One report of the radio. A failure is its reason in words. -/
inductive RadioReport where
  | power (power : Power)
  /-- Told once, before the first power report, when the program was started again. -/
  | restored (peripherals : List RestoredPeripheral)
  | discovered (id : PeripheralId) (name : Option String) (strength : Option Int)
  | connected (id : PeripheralId)
  | connectFailed (id : PeripheralId) (reason : String)
  /-- `reconnecting` says that the radio is bringing the link back already. -/
  | disconnected (id : PeripheralId) (reconnecting : Bool) (reason : Option String)
  | services (id : PeripheralId) (result : Except String (List Uuid))
  | characteristics (id : PeripheralId) (service : Uuid)
      (result : Except String (List Characteristic))
  | notification (id : PeripheralId) (characteristic : Uuid) (result : Except String Bool)
  | value (id : PeripheralId) (characteristic : Uuid) (value : Bytes)
  | channelOpened (id : PeripheralId) (result : Except String StreamPair)

def RadioReport.peripheral? : RadioReport → Option PeripheralId
  | .power _ | .restored _ => none
  | .discovered id _ _ | .connected id | .connectFailed id _ | .disconnected id _ _
  | .services id _ | .characteristics id _ _ | .notification id _ _ | .value id _ _
  | .channelOpened id _ => some id

end Sightline
