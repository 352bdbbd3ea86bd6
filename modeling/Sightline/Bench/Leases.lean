import Sightline.Bench.Rig
import Sightline.Lease.Guard

/-! Leases on the bench, without a pipeline: a host, and guards over its leases. -/

set_option autoImplicit false

namespace Sightline.Bench

inductive LeaseMark where
  | begun (token : Token) (name : String)
  | ended (token : Token)
  /-- The host took back the lease of this name. -/
  | expired (name : String)
  deriving DecidableEq, Repr

structure LeaseBench where
  host : RigHost String
  guards : Array (Option Guard) := #[]
  now : Nat := 0
  marks : Array LeaseMark := #[]

instance : BackgroundHost String LeaseBench where
  beginLease bench name notice :=
    let (token, host) := bench.host.begin notice
    (token, { bench with host, marks := bench.marks.push (.begun token name) })
  endLease bench token :=
    { bench with host := bench.host.finish token, marks := bench.marks.push (.ended token) }

namespace LeaseBench

def begin (bench : LeaseBench) (name : String) : Token × LeaseBench :=
  BackgroundHost.beginLease bench name name

def finish (bench : LeaseBench) (token : Token) : LeaseBench := BackgroundHost.endLease bench token

def acquire (bench : LeaseBench) (name : String) : Nat × LeaseBench :=
  let (guard, bench) := Guard.acquire bench name name
  (bench.guards.size, { bench with guards := bench.guards.push (some guard) })

def release (bench : LeaseBench) (index : Nat) : Option Bool × LeaseBench :=
  match bench.guards[index]? with
  | some (some guard) =>
    let (ended, guard, bench) := guard.release bench
    (some ended.isSome,
      { bench with guards := bench.guards.setIfInBounds index (some guard) })
  | _ => (none, bench)

def drop (bench : LeaseBench) (index : Nat) : Option Bool × LeaseBench :=
  match bench.guards[index]? with
  | none => (none, bench)
  | some none => (some false, bench)
  | some (some guard) =>
    let (_, _, bench) := guard.release bench
    (some true, { bench with guards := bench.guards.setIfInBounds index none })

def expire (bench : LeaseBench) (token : Token) : Bool × LeaseBench :=
  let (notice, host) := bench.host.expire token
  match notice with
  | none => (false, { bench with host })
  | some name => (true, { bench with host, marks := bench.marks.push (.expired name) })

/-- Lets every watcher of a timed host go on, in the order in which the leases began. As all leases
last equally long, this is also the order of their deadlines. -/
def settle (bench : LeaseBench) : LeaseBench :=
  match bench.host with
  | .manual _ _ => bench
  | .timed host =>
    host.watchers.foldl (fun bench watcher =>
      let (outcome, host) := bench.host.watch bench.now watcher.1
      let bench := { bench with host }
      match outcome with
      | .expired name => { bench with marks := bench.marks.push (.expired name) }
      | _ => bench) bench

def advance (bench : LeaseBench) (millis : Nat) : LeaseBench :=
  { bench with now := bench.now + millis }

end LeaseBench

end Sightline.Bench
