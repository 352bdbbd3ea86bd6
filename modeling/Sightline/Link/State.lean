import Sightline.Link.Radio

/-! The life of a connection as its user sees it, and why a wish to connect is refused. -/

set_option autoImplicit false

namespace Sightline

inductive ConnectionState where
  /-- The radio is on and nothing is under way. -/
  | idle
  | scanning
  /-- The glasses are known, and the link or its channel is not up yet. -/
  | connecting
  /-- Frames can move. -/
  | connected
  | disconnected
  deriving DecidableEq, Repr

def ConnectionState.name : ConnectionState → String
  | .idle => "Idle"
  | .scanning => "Scanning"
  | .connecting => "Connecting"
  | .connected => "Connected"
  | .disconnected => "Disconnected"

def ConnectionState.all : List ConnectionState :=
  [.idle, .scanning, .connecting, .connected, .disconnected]

inductive ConnectRefusal where
  | radioUnavailable
  | busy (state : ConnectionState)
  | alreadyScanning
  | peripheralActive (id : PeripheralId)
  deriving DecidableEq, Repr

def ConnectRefusal.message : ConnectRefusal → String
  | .radioUnavailable => "Bluetooth is not powered on"
  | .busy state => "cannot start a scan while " ++ state.name
  | .alreadyScanning => "already scanning for peripherals"
  | .peripheralActive id => "already connected/connecting to peripheral " ++ id.text

end Sightline
