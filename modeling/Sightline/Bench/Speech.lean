import Sightline.Bench.Basic

/-! A pipeline on the bench, with a session that takes or refuses audio as it was set up to do. -/

set_option autoImplicit false

namespace Sightline.Bench

structure SpeechBench where
  bench : Bench
  pipeline : Pipeline
  /-- What the session answers to every submission. -/
  refusal : Option SendError := none
  /-- Submissions that were taken, in order; one whose end was told is gone. -/
  sendings : Array (Option RequestId) := #[]

namespace SpeechBench

def operate {α : Type} (on : SpeechBench) (operation : PipelineTurn Rig → α × PipelineTurn Rig) :
    α × SpeechBench :=
  let (answer, turn) := operation { pipeline := on.pipeline, world := on.bench.rig }
  (answer,
    { on with
      pipeline := turn.pipeline
      bench := turn.effects.foldl followPipeline { on.bench with rig := turn.world } })

def image (on : SpeechBench) (image : Bytes) : SpeechBench :=
  (on.operate fun turn => ((), turn.image image)).2

def submit (on : SpeechBench) (request : RequestId) (audio : Bytes) :
    Except SendError Unit × SpeechBench :=
  match on.refusal with
  | some refusal => (.error refusal, { on with bench := on.bench.mark (.submitted audio false) })
  | none =>
    (.ok (),
      { on with
        bench := on.bench.mark (.submitted audio true)
        sendings := on.sendings.push (some request) })

def audioReady (on : SpeechBench) (request : RequestId) (result : Except ServiceError Bytes) :
    SpeechBench :=
  match on.operate (·.audioReady request result) with
  | (none, on) => on
  | (some audio, on) =>
    let (answer, on) := on.submit request audio
    (on.operate fun turn => ((), turn.submitted request answer)).2

def sendFinished (on : SpeechBench) (request : RequestId) (result : SendResult) : SpeechBench :=
  (on.operate fun turn => ((), turn.sendFinished request result)).2

def leaseRevoked (on : SpeechBench) (generation : Generation) : SpeechBench :=
  (on.operate fun turn => ((), turn.leaseRevoked generation)).2

def complete (on : SpeechBench) (index : Nat) (result : SendResult) : Bool × SpeechBench :=
  match on.sendings[index]? with
  | some (some request) =>
    (true,
      { on with
        bench := on.bench.post (.sendFinished request result)
        sendings := on.sendings.setIfInBounds index none })
  | _ => (false, on)

def dispatch (on : SpeechBench) : Event → SpeechBench
  | .audioReady request result => on.audioReady request result
  | .sendFinished request result => on.sendFinished request result
  | .leaseRevoked generation => on.leaseRevoked generation
  | _ => on

def pump (on : SpeechBench) : Nat → List Event × SpeechBench
  | 0 => ([], on)
  | most + 1 =>
    match on.bench.events with
    | [] => ([], on)
    | event :: events =>
      let on := { on with bench := { on.bench with events } }.dispatch event
      let (later, on) := on.pump most
      (event :: later, on)

end SpeechBench

end Sightline.Bench
