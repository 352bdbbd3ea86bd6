import Sightline.Bench.Basic

/-! A connection on the bench, without a pipeline. The ends of sendings are only recorded. -/

set_option autoImplicit false

namespace Sightline.Bench

structure LinkBench where
  bench : Bench
  manager : Manager := {}
  settings : RadioSettings

namespace LinkBench

def ofSettings (settings : RadioSettings) (saved : Option PeripheralId) : LinkBench :=
  { bench := { rig := { saved }, scanSeconds := settings.scanSeconds.toNat }, settings }

def operate {α : Type} (on : LinkBench) (operation : LinkTurn Rig → α × LinkTurn Rig) :
    α × LinkBench :=
  let (answer, turn) := operation { manager := on.manager, world := on.bench.rig }
  (answer,
    { on with
      manager := turn.manager
      bench := turn.effects.foldl followLink { on.bench with rig := turn.world } })

def report (on : LinkBench) (report : RadioReport) : LinkBench :=
  (on.operate fun turn => ((), turn.report on.settings report)).2

def connect (on : LinkBench) : Except ConnectRefusal Unit × LinkBench :=
  on.operate (·.connect on.settings)

def disconnect (on : LinkBench) : LinkBench := (on.operate fun turn => ((), turn.disconnect)).2

def scanTimeout (on : LinkBench) (attempt : Nat) : LinkBench :=
  (on.operate fun turn => ((), turn.scanTimeout attempt)).2

def streamEvent (on : LinkBench) (event : StreamEvent) : List Bytes × LinkBench :=
  on.operate (·.streamEvent on.settings event)

def submit (on : LinkBench) (payload : Bytes) (tag : Tag) : Except SendError Unit × LinkBench :=
  on.operate (·.submit payload tag)

def pump (on : LinkBench) : List Event × LinkBench :=
  let events := on.bench.events
  (events,
    events.foldl (fun on event =>
      match event with
      | .scanTimeout attempt => on.scanTimeout attempt
      | _ => on)
      { on with bench := { on.bench with events := [] } })

end LinkBench

end Sightline.Bench
