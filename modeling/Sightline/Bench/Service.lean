import Sightline.Speech

/-! A service on the bench: it answers its calls as planned, or keeps them waiting. -/

set_option autoImplicit false

namespace Sightline.Bench

/-- A service; `none` in the plan, and every call beyond it, waits to be answered by hand. -/
structure Service (α : Type) where
  plan : List (Option (Except ServiceError α)) := []
  /-- Calls made so far; they are numbered from one. -/
  calls : Nat := 0
  /-- Calls that wait, each with the request that made it. -/
  waiting : List (Nat × Nat) := []

namespace Service

variable {α : Type}

def call (service : Service α) (request : Nat) : Option (Except ServiceError α) × Service α :=
  let number := service.calls + 1
  match service.plan with
  | some answer :: plan => (some answer, { service with plan, calls := number })
  | none :: plan =>
    (none, { plan, calls := number, waiting := service.waiting ++ [(number, request)] })
  | [] =>
    (none, { plan := [], calls := number, waiting := service.waiting ++ [(number, request)] })

def reply (service : Service α) (number : Nat) : Option Nat × Service α :=
  ((service.waiting.find? (·.1 = number)).map (·.2),
    { service with waiting := service.waiting.filter (·.1 ≠ number) })

end Service

end Sightline.Bench
