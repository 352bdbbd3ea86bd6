import Sightline.Channel.Error
import Sightline.Lease.Host
import Sightline.Settings
import Sightline.Speech

/-! The work on images: every image that arrives becomes one request, which is described, spoken and
sent back.

One lease of background time covers all requests that still matter. When the host takes it back,
the requests it covered go on, but what comes of them is dropped. Sending is the connection's
business: `audioReady` gives the audio to be sent, and `submitted` takes the answer. -/

set_option autoImplicit false

namespace Sightline

abbrev RequestId := Nat

abbrev Generation := Nat

inductive Indication where
  | none
  | imageReceived (bytes : Nat)
  | audioSent (bytes : Nat)
  | failed (reason : String)
  deriving DecidableEq, Repr

structure Request where
  id : RequestId
  /-- The lease that covered the request when it began. -/
  lease : Generation
  /-- That lease was taken back. -/
  revoked : Bool := false
  audioLength : Nat := 0
  deriving DecidableEq, Repr

structure HeldLease where
  generation : Generation
  token : Token
  deriving DecidableEq, Repr

structure Pipeline where
  policy : Concurrency
  issued : RequestId := 0
  requests : List Request := []
  generations : Generation := 0
  lease : Option HeldLease := none
  deriving DecidableEq, Repr

inductive PipelineEffect where
  | indicated (indication : Indication)
  | leaseBegun (token : Token)
  | leaseEnded (token : Token)
  /-- Work on an image began; its end is reported by an audio-ready event. -/
  | started (request : RequestId) (image : Bytes)

structure PipelineTurn (ω : Type) where
  pipeline : Pipeline
  world : ω
  effects : Array PipelineEffect := #[]

def Pipeline.leaseName : String := "Image Processing"

def Pipeline.request? (pipeline : Pipeline) (id : RequestId) : Option Request :=
  pipeline.requests.find? (·.id = id)

namespace PipelineTurn

variable {ω : Type} [BackgroundHost Generation ω]

def indicate (turn : PipelineTurn ω) (indication : Indication) : PipelineTurn ω :=
  { turn with effects := turn.effects.push (.indicated indication) }

def ensureLease (turn : PipelineTurn ω) : Generation × PipelineTurn ω :=
  match turn.pipeline.lease with
  | some held => (held.generation, turn)
  | none =>
    let generation := turn.pipeline.generations + 1
    let (token, world) := BackgroundHost.beginLease turn.world Pipeline.leaseName generation
    (generation,
      { pipeline := { turn.pipeline with
          generations := generation, lease := some ⟨generation, token⟩ }
        world
        effects := turn.effects.push (.leaseBegun token) })

def endLease (turn : PipelineTurn ω) : PipelineTurn ω :=
  match turn.pipeline.lease with
  | none => turn
  | some held =>
    { pipeline := { turn.pipeline with lease := none }
      world := BackgroundHost.endLease turn.world held.token
      effects := turn.effects.push (.leaseEnded held.token) }

/-- Forgets a request, and ends the lease once no request matters any more. -/
def finish (turn : PipelineTurn ω) (id : RequestId) : PipelineTurn ω :=
  let remaining := turn.pipeline.requests.filter (·.id ≠ id)
  let turn := { turn with pipeline := { turn.pipeline with requests := remaining } }
  if remaining.all (·.revoked) then turn.endLease else turn

def image (turn : PipelineTurn ω) (image : Bytes) : PipelineTurn ω :=
  if image.isEmpty then turn
  else if turn.pipeline.policy = .dropWhileBusy ∧ turn.pipeline.requests ≠ [] then turn
  else
    let id := turn.pipeline.issued + 1
    let (generation, turn) := (turn.indicate (.imageReceived image.length)).ensureLease
    { turn with
      pipeline := { turn.pipeline with
        issued := id, requests := turn.pipeline.requests ++ [{ id, lease := generation }] }
      effects := turn.effects.push (.started id image) }

def noteLength (turn : PipelineTurn ω) (id : RequestId) (length : Nat) : PipelineTurn ω :=
  { turn with
    pipeline := { turn.pipeline with
      requests := turn.pipeline.requests.map fun request =>
        if request.id = id then { request with audioLength := length } else request } }

/-- The work on a request's image ended. The audio that it gives is to be submitted under the
request's number. -/
def audioReady (turn : PipelineTurn ω) (id : RequestId) (result : Except ServiceError Bytes) :
    Option Bytes × PipelineTurn ω :=
  match turn.pipeline.request? id with
  | none => (none, turn)
  | some request =>
    if request.revoked then (none, turn.finish id)
    else
      match result with
      | .ok audio => (some audio, turn.noteLength id audio.length)
      | .error error => (none, (turn.finish id).indicate (.failed error.message))

def submitted (turn : PipelineTurn ω) (id : RequestId) :
    Except SendError Unit → PipelineTurn ω
  | .ok () => turn
  | .error refusal => (turn.finish id).indicate (.failed refusal.message)

def sendFinished (turn : PipelineTurn ω) (id : RequestId) (result : SendResult) :
    PipelineTurn ω :=
  match turn.pipeline.request? id with
  | none => turn.finish id
  | some request =>
    (turn.finish id).indicate <|
      match result with
      | .ok () => .audioSent request.audioLength
      | .error error => .failed error.message

/-- The host takes a lease back. A notice about a lease no longer held is ignored. -/
def leaseRevoked (turn : PipelineTurn ω) (generation : Generation) : PipelineTurn ω :=
  match turn.pipeline.lease with
  | none => turn
  | some held =>
    if held.generation ≠ generation then turn
    else
      let turn := turn.endLease
      { turn with
        pipeline := { turn.pipeline with
          requests := turn.pipeline.requests.map fun request =>
            if request.lease = generation then { request with revoked := true } else request } }

end PipelineTurn

end Sightline
