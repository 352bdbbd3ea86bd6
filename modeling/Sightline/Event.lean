import Sightline.Link.Report
import Sightline.Pipeline

/-! Everything that the engine is told, in one queue. -/

set_option autoImplicit false

namespace Sightline

inductive Command where
  | connect
  /-- Drop the link and forget the glasses. -/
  | disconnect
  | shutdown
  deriving DecidableEq, Repr

inductive Event where
  | radio (report : RadioReport)
  | stream (event : StreamEvent)
  | command (command : Command)
  | scanTimeout (attempt : Nat)
  | audioReady (request : RequestId) (result : Except ServiceError Bytes)
  | sendFinished (request : RequestId) (result : SendResult)
  | leaseRevoked (generation : Generation)

end Sightline
