import Sightline.App
import Sightline.Bench.Basic

/-! An engine on the bench: fed event by event, or as a task that takes its queue down. -/

set_option autoImplicit false

namespace Sightline.Bench

structure EngineBench where
  bench : Bench
  engine : Engine
  settings : RadioSettings
  status : EngineStatus := .running
  /-- The next scan that is started kills the engine, with this reason. -/
  fault : Option String := none

namespace EngineBench

def ofSettings (settings : RadioSettings) (saved : Option PeripheralId) (policy : Concurrency)
    (budget : Option Nat) (describer : Service String) (synthesizer : Service Bytes) :
    EngineBench :=
  { bench :=
      { rig := { saved, host := .ofBudget budget }, scanSeconds := settings.scanSeconds.toNat
        describer, synthesizer }
    engine := { pipeline := { policy } }
    settings }

def overflowReason : String := "attempt to add with overflow"

def unbufferedReason : String := "capacity overflow"

def lethal? (fault : Option String) : EngineEffect → Option String
  | .link (.radio (.startScan _)) => fault
  | .link .overflow => some overflowReason
  | .link .unbuffered => some unbufferedReason
  | _ => none

def survived (fault : Option String) : List EngineEffect → List EngineEffect × Option String
  | [] => ([], none)
  | effect :: later =>
    match lethal? fault effect with
    | some reason => ([], some reason)
    | none =>
      let (effects, reason) := survived fault later
      (effect :: effects, reason)

/-- Gives one event to the engine; whether it goes on. An engine that is killed leaves the scan that
killed it undone; one that finds no buffer has done nothing. -/
def take (on : EngineBench) (event : Event) : Bool × EngineBench :=
  let (continues, turn) :=
    EngineTurn.handle { engine := on.engine, world := on.bench.rig } on.settings event
  let (effects, reason) := survived on.fault turn.effects.toList
  match reason with
  | none =>
    (continues, { on with
      bench := effects.foldl follow { on.bench with rig := turn.world }, engine := turn.engine })
  | some reason =>
    if turn.effects.any (· matches .link .unbuffered) then
      (false, { on with status := .failed reason })
    else
      let rig := { turn.world with scanning := on.bench.rig.scanning }
      (false, { on with
        bench := effects.foldl follow { on.bench with rig }, engine := turn.engine
        status := .failed reason })

def pump (on : EngineBench) : Nat → List Event × EngineBench
  | 0 => ([], on)
  | most + 1 =>
    match on.bench.events with
    | [] => ([], on)
    | event :: events =>
      let (_, on) := { on with bench := { on.bench with events } }.take event
      let (later, on) := on.pump most
      (event :: later, on)

def leave (on : EngineBench) : EngineBench :=
  let bench := { on.bench with events := [], accepting := false, listener := .absent }
  let status := match on.status with
    | .failed reason => .failed reason
    | _ => .stopped
  match on.engine.pipeline.lease with
  | none => { on with bench, status }
  | some held =>
    let rig := BackgroundHost.endLease bench.rig held.token
    { on with
      bench := { bench with rig }.mark (.engine (.pipeline (.leaseEnded held.token)))
      status }

/-- The engine takes events off its queue until there are none, until it stops, or until its turn is
over; then it goes to the end of the line. -/
def work (on : EngineBench) : Nat → EngineBench
  | 0 => { on with bench := on.bench.start .engine }
  | more + 1 =>
    match on.bench.events with
    | [] => { on with bench := { on.bench with listener := .waiting } }
    | event :: events =>
      let (continues, on) := { on with bench := { on.bench with events } }.take event
      if continues then on.work more else on.leave

def settleFor (on : EngineBench) : Nat → EngineBench
  | 0 => on
  | more + 1 =>
    match on.bench.line with
    | [] => on
    | job :: line =>
      let on := { on with bench := { on.bench with line } }
      match job with
      | .engine => (if on.status = .running then on.work Engine.turnLength else on).settleFor more
      | job => { on with bench := on.bench.run job }.settleFor more

def settle (on : EngineBench) : EngineBench := on.settleFor patience

def spawn (on : EngineBench) : EngineBench :=
  { on with bench := { on.bench.start .engine with listener := .scheduled } }

def send (on : EngineBench) (event : Event) : Bool × EngineBench :=
  (on.bench.accepting, { on with bench := on.bench.post event })

def command (on : EngineBench) (command : Command) : Except AppError Unit × EngineBench :=
  (on.status.accept, { on with bench := on.bench.post (.command command) })

def shutdown (on : EngineBench) : Except AppError Unit × EngineBench :=
  let on := (on.command .shutdown).2.settle
  (on.status.outcome, on)

end EngineBench

end Sightline.Bench
