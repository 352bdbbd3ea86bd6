import Sightline.Bytes
import Sightline.Http.Address
import Sightline.Text.Base64

/-! Requests to a service. -/

set_option autoImplicit false

namespace Sightline.Http

structure Request where
  host : Host
  target : String
  authorization : String
  body : String
  deriving DecidableEq, Repr

def isHeaderText (text : String) : Bool :=
  text.toList.all fun c => c = '\t' || (32 ≤ c.toNat && c.toNat ≠ 127)

/-- The request to an address with a key, none if either cannot be sent. A user whom the address names
goes before the key. -/
def Request.make? (address key body : String) : Option Request := do
  let address ← Address.ofText? address
  let keyed := "Bearer " ++ key
  guard (isHeaderText keyed)
  let authorization := match address.credentials with
    | some credentials => "Basic " ++ Text.base64 (Bytes.ofText credentials)
    | none => keyed
  return { host := address.host, target := address.target, authorization, body }

end Sightline.Http
