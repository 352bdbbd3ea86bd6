import Sightline.Lease.Host

/-! A host that takes every lease back after a fixed budget of time.

Each lease has a watcher. Its first step sets the deadline, counted from then; a later step finds
the deadline reached, or the lease ended, or neither. When a step finds both, either may be looked
at first, and the outcome is the same. A lease whose deadline is reached lapses: it leaves the table
at once, and its expiry is told in a step of its own, before which anything else may happen. -/

set_option autoImplicit false

namespace Sightline

/-- Thirty years, in milliseconds: the longest time that a timer waits. One that is to wait longer
waits so long. -/
def longestWait : Nat := 946080000000

inductive Watch (ν : Type) where
  /-- The deadline is set by the first step. -/
  | waiting (deadline : Option Nat)
  /-- The lease was taken out of the table, and its expiry is still to be told. -/
  | lapsed (notice : ν)
  deriving DecidableEq, Repr

/-- The host: leases that were neither ended nor have lapsed, each with what is told when it
expires, and the watchers that have not finished. -/
structure TimedHost (ν : Type) where
  /-- Milliseconds that a lease lasts, if a timer can wait so long. -/
  budget : Nat
  issued : Nat := 0
  live : List (Token × ν) := []
  watchers : List (Token × Watch ν) := []
  deriving DecidableEq, Repr

namespace TimedHost

variable {ν : Type}

def begin (host : TimedHost ν) (notice : ν) : Token × TimedHost ν :=
  let token := host.issued + 1
  (token,
    { host with
      issued := token
      live := host.live ++ [(token, notice)]
      watchers := host.watchers ++ [(token, .waiting none)] })

def finish (host : TimedHost ν) (token : Token) : TimedHost ν :=
  { host with live := host.live.filter (·.1 ≠ token) }

inductive Outcome (ν : Type) where
  | waits (deadline : Nat)
  | ended
  | lapsed
  | expired (notice : ν)
  deriving DecidableEq, Repr

def notice? (host : TimedHost ν) (token : Token) : Option ν :=
  (host.live.find? (·.1 = token)).map (·.2)

def unwatch (host : TimedHost ν) (token : Token) : TimedHost ν :=
  { host with watchers := host.watchers.filter (·.1 ≠ token) }

def rewatch (host : TimedHost ν) (token : Token) (watch : Watch ν) : TimedHost ν :=
  { host with
    watchers := host.watchers.map fun (other, held) =>
      if other = token then (other, watch) else (other, held) }

/-- A step of the watcher of a lease at the time `now`. With `clockFirst` the deadline is looked at
before the end of the lease. A watcher that has finished takes no step. -/
def step (host : TimedHost ν) (now : Nat) (clockFirst : Bool) (token : Token) :
    Outcome ν × TimedHost ν :=
  match host.watchers.find? (·.1 = token) with
  | none => (.ended, host)
  | some (_, .lapsed notice) => (.expired notice, host.unwatch token)
  | some (_, .waiting set) =>
    let deadline := set.getD (now + min host.budget longestWait)
    let due : Bool := deadline ≤ now
    let ended := (host.notice? token).isNone
    if due && (clockFirst || !ended) then
      match host.notice? token with
      | some notice => (.lapsed, (host.finish token).rewatch token (.lapsed notice))
      | none => (.ended, (host.finish token).unwatch token)
    else if ended then (.ended, host.unwatch token)
    else (.waits deadline, host.rewatch token (.waiting (some deadline)))

end TimedHost

end Sightline
