/-! Background time: a host keeps the program running while a lease is held, and may take the time
back.

The host lives in surroundings `ω` about which nothing is promised. -/

set_option autoImplicit false

namespace Sightline

abbrev Token := Nat

/-- Surroundings with a host of background time. `ν` is what the host tells when it takes the time
of a lease back. -/
class BackgroundHost (ν : outParam Type) (ω : Type) where
  beginLease : ω → String → ν → Token × ω
  endLease : ω → Token → ω

end Sightline
