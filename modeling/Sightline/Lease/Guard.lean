import Sightline.Lease.Host

/-! A lease in somebody's hands. However often it is given back, the host hears of it once. -/

set_option autoImplicit false

namespace Sightline

structure Guard where
  token : Option Token
  deriving DecidableEq, Repr

namespace Guard

variable {ν ω : Type} [BackgroundHost ν ω]

def isHeld (guard : Guard) : Bool := guard.token.isSome

def acquire (world : ω) (name : String) (notice : ν) : Guard × ω :=
  let (token, world) := BackgroundHost.beginLease world name notice
  (⟨some token⟩, world)

def release (guard : Guard) (world : ω) : Option Token × Guard × ω :=
  match guard.token with
  | some token => (some token, ⟨none⟩, BackgroundHost.endLease world token)
  | none => (none, guard, world)

end Guard

end Sightline
