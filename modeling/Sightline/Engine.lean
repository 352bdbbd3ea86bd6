import Sightline.Event
import Sightline.Link.Manager

/-! The engine: the connection and the pipeline, fed from one queue of events.

Frames that the connection receives become images of the pipeline, and audio that the pipeline makes
is submitted to the connection. -/

set_option autoImplicit false

namespace Sightline

structure Engine where
  manager : Manager := {}
  pipeline : Pipeline
  deriving DecidableEq, Repr

inductive EngineEffect where
  | link (effect : LinkEffect)
  | pipeline (effect : PipelineEffect)

structure EngineTurn (ω : Type) where
  engine : Engine
  world : ω
  effects : Array EngineEffect := #[]

namespace EngineTurn

variable {ω α : Type}

def onLink (turn : EngineTurn ω) (operation : LinkTurn ω → α × LinkTurn ω) : α × EngineTurn ω :=
  let (answer, result) := operation { manager := turn.engine.manager, world := turn.world }
  (answer,
    { engine := { turn.engine with manager := result.manager }
      world := result.world
      effects := turn.effects ++ result.effects.map .link })

def onPipeline (turn : EngineTurn ω) (operation : PipelineTurn ω → α × PipelineTurn ω) :
    α × EngineTurn ω :=
  let (answer, result) := operation { pipeline := turn.engine.pipeline, world := turn.world }
  (answer,
    { engine := { turn.engine with pipeline := result.pipeline }
      world := result.world
      effects := turn.effects ++ result.effects.map .pipeline })

variable [Radio ω] [Streams ω] [IdentityStore ω] [BackgroundHost Generation ω]

def images (turn : EngineTurn ω) (frames : List Bytes) : EngineTurn ω :=
  frames.foldl (fun turn frame => (turn.onPipeline fun part => ((), part.image frame)).2) turn

def audioReady (turn : EngineTurn ω) (id : RequestId) (result : Except ServiceError Bytes) :
    EngineTurn ω :=
  match turn.onPipeline (·.audioReady id result) with
  | (none, turn) => turn
  | (some audio, turn) =>
    let (answer, turn) := turn.onLink (·.submit audio id)
    (turn.onPipeline fun part => ((), part.submitted id answer)).2

def handle (turn : EngineTurn ω) (settings : RadioSettings) : Event → Bool × EngineTurn ω
  | .radio report => (true, (turn.onLink fun part => ((), part.report settings report)).2)
  | .stream event =>
    let (frames, turn) := turn.onLink (·.streamEvent settings event)
    (true, turn.images frames)
  | .scanTimeout attempt => (true, (turn.onLink fun part => ((), part.scanTimeout attempt)).2)
  | .audioReady id result => (true, turn.audioReady id result)
  | .sendFinished id result =>
    (true, (turn.onPipeline fun part => ((), part.sendFinished id result)).2)
  | .leaseRevoked generation =>
    (true, (turn.onPipeline fun part => ((), part.leaseRevoked generation)).2)
  | .command .connect => (true, (turn.onLink (·.connect settings)).2)
  | .command .disconnect => (true, (turn.onLink fun part => ((), part.disconnect)).2)
  | .command .shutdown => (false, turn)

end EngineTurn

end Sightline
