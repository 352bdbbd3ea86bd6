import Sightline.Bench.Clock
import Sightline.Bench.Wire
import Sightline.Lease.Timed
import Sightline.Link.Radio
import Sightline.Pipeline

/-! The rig: surroundings that hold stream pairs, a radio, a store and a host of background time,
all of which do as they were set up to do. -/

set_option autoImplicit false

namespace Sightline.Bench

inductive RigHost (ν : Type) where
  | manual (issued : Nat) (live : List (Token × ν))
  | timed (host : TimedHost ν)

namespace RigHost

variable {ν : Type}

def ofBudget (budget : Option Nat) : RigHost ν :=
  match budget with
  | none => .manual 0 []
  | some budget => .timed { budget }

def begin (host : RigHost ν) (notice : ν) : Token × RigHost ν :=
  match host with
  | .manual issued live => (issued + 1, .manual (issued + 1) (live ++ [(issued + 1, notice)]))
  | .timed host =>
    let (token, host) := host.begin notice
    (token, .timed host)

def finish (host : RigHost ν) (token : Token) : RigHost ν :=
  match host with
  | .manual issued live => .manual issued (live.filter (·.1 ≠ token))
  | .timed host => .timed (host.finish token)

def expire (host : RigHost ν) (token : Token) : Option ν × RigHost ν :=
  match host with
  | .manual issued live =>
    ((live.find? (·.1 = token)).map (·.2), .manual issued (live.filter (·.1 ≠ token)))
  | .timed host => (none, .timed host)

/-- The watcher of a lease goes on until it waits or has finished, and nothing comes in between. -/
def watch (host : RigHost ν) (now : Nat) (token : Token) : TimedHost.Outcome ν × RigHost ν :=
  match host with
  | .manual issued live => (.ended, .manual issued live)
  | .timed host =>
    let (outcome, host) :=
      match host.step now true token with
      | (.lapsed, host) => host.step now true token
      | other => other
    (outcome, .timed host)

end RigHost

structure Rig where
  wires : Array Wire := #[]
  /-- The channel number of each stream pair. -/
  channels : Array Nat := #[]
  power : Power := .unknown
  scanning : Bool := false
  /-- Links that were set; all others are disconnected. -/
  links : List (PeripheralId × LinkStatus) := []
  connected : List PeripheralId := []
  saved : Option PeripheralId := none
  loadFails : Bool := false
  saveFails : Bool := false
  clearFails : Bool := false
  host : RigHost Generation := .manual 0 []

namespace Rig

def wire? (rig : Rig) (handle : Handle) : Option Wire := rig.wires[handle]?

def change {α : Type} (rig : Rig) (handle : Handle) (absent : α) (act : Wire → α × Wire) :
    α × Rig :=
  match rig.wires[handle]? with
  | none => (absent, rig)
  | some wire =>
    let (answer, wire) := act wire
    (answer, { rig with wires := rig.wires.setIfInBounds handle wire })

def add (rig : Rig) (channel : Nat) (wire : Wire) : StreamPair × Rig :=
  (⟨channel, rig.wires.size⟩,
    { rig with wires := rig.wires.push wire, channels := rig.channels.push channel })

def latest? (rig : Rig) (channel : Option Nat) : Option Handle :=
  (List.range rig.channels.size).reverse.find? fun handle =>
    match channel with
    | none => true
    | some channel => rig.channels[handle]? == some channel

def far {α : Type} (rig : Rig) (channel : Option Nat) (act : Wire → Option α × Wire) :
    Option α × Rig :=
  match rig.latest? channel with
  | none => (none, rig)
  | some handle => rig.change handle none act

def isScripted (rig : Rig) (handle : Handle) : Bool :=
  match rig.wires[handle]? with
  | some (.scripted _) => true
  | _ => false

def linkOf (rig : Rig) (id : PeripheralId) : LinkStatus :=
  match rig.links.find? (·.1 = id) with
  | some (_, link) => link
  | none => .disconnected

def setLink (rig : Rig) (id : PeripheralId) (link : LinkStatus) : Rig :=
  { rig with links := (id, link) :: rig.links }

def storeFailure : String := "identity writer has stopped"

theorem getElem?_of_change {α : Type} {rig rig' : Rig} {handle : Handle} {absent answer : α}
    {act : Wire → α × Wire} {wire : Wire} (there : rig.wires[handle]? = some wire)
    (h : rig.change handle absent act = (answer, rig')) :
    (act wire).1 = answer ∧ rig'.wires[handle]? = some (act wire).2 := by
  unfold change at h
  rw [there] at h
  simp only [Prod.mk.injEq] at h
  obtain ⟨rfl, rfl⟩ := h
  refine ⟨rfl, ?_⟩
  have := (Array.getElem?_eq_some_iff.mp there).1
  simp [this]

instance : Streams Rig where
  available rig handle := (rig.wire? handle).elim 0 (·.available)
  read rig handle wanted := rig.change handle (.ok []) (·.read wanted)
  write rig handle offered := rig.change handle (.ok 0) (·.write offered)
  closeInbound rig handle := (rig.change handle () fun wire => ((), wire.closeInbound)).2
  closeOutbound rig handle := (rig.change handle () fun wire => ((), wire.closeOutbound)).2
  held rig handle := (rig.wire? handle).elim 0 (·.held)
  length_le_of_read := by
    intro rig rig' handle wanted got h
    cases there : rig.wires[handle]? with
    | none =>
      simp only [change, there, Prod.mk.injEq, Except.ok.injEq] at h
      simp [← h.1]
    | some wire =>
      obtain ⟨answer, -⟩ := getElem?_of_change there h
      exact Wire.length_le_of_read (show wire.read wanted = (.ok got, (wire.read wanted).2) from
        Prod.ext answer rfl)
  held_of_read := by
    intro rig rig' handle wanted got h
    cases there : rig.wires[handle]? with
    | none =>
      simp only [change, there, Prod.mk.injEq, Except.ok.injEq] at h
      obtain ⟨rfl, rfl⟩ := h
      simp
    | some wire =>
      obtain ⟨answer, left⟩ := getElem?_of_change there h
      simp only [wire?, there, left, Option.elim_some]
      exact Wire.held_of_read (Prod.ext answer rfl)

instance : Radio Rig where
  power rig := rig.power
  isScanning rig := rig.scanning
  link := linkOf
  connected rig _ := rig.connected
  perform rig request :=
    match request with
    | .startScan _ => { rig with scanning := true }
    | .stopScan => { rig with scanning := false }
    | _ => rig

instance : IdentityStore Rig where
  load rig := if rig.loadFails then .error storeFailure else .ok rig.saved
  save rig id :=
    if rig.saveFails then (.error storeFailure, rig) else (.ok (), { rig with saved := some id })
  clear rig :=
    if rig.clearFails then (.error storeFailure, rig) else (.ok (), { rig with saved := none })

instance : BackgroundHost Generation Rig where
  beginLease rig _ notice :=
    let (token, host) := rig.host.begin notice
    (token, { rig with host })
  endLease rig token := { rig with host := rig.host.finish token }

end Rig

end Sightline.Bench
