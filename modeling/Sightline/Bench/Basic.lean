import Sightline.Bench.Clock
import Sightline.Bench.Rig
import Sightline.Bench.Service
import Sightline.Engine

/-! The bench: a rig with a clock, services and the tasks that a program around the engine runs.

Tasks run one after the other, first come, first served; a task that was started or woken goes to the
end of the line. Everything that is done on the way is recorded as marks, in order. -/

set_option autoImplicit false

namespace Sightline.Bench

inductive Job where
  | lease (token : Token)
  | scanTimer (attempt millis : Nat)
  | scanDue (attempt : Nat)
  | work (request : RequestId)
  | engine
  deriving DecidableEq, Repr

inductive Mark where
  | engine (effect : EngineEffect)
  | described (call : Nat) (image : Bytes)
  | synthesized (call : Nat) (text : String)
  | submitted (audio : Bytes) (taken : Bool)

inductive Listener where
  | absent
  | waiting
  /-- The engine is in the line already, or at work. -/
  | scheduled
  deriving DecidableEq, Repr

end Bench

structure Bench where
  rig : Bench.Rig := {}
  clock : Bench.Clock Bench.Job := {}
  line : List Bench.Job := []
  events : List Event := []
  accepting : Bool := true
  listener : Bench.Listener := .absent
  describer : Bench.Service String := {}
  synthesizer : Bench.Service Bytes := {}
  works : List (RequestId × SpeechStage) := []
  scanSeconds : Nat := 0
  state : ConnectionState := .disconnected
  indication : Indication := .none
  marks : Array Bench.Mark := #[]

namespace Bench

def start (bench : Bench) (job : Job) : Bench := { bench with line := bench.line ++ [job] }

def mark (bench : Bench) (mark : Mark) : Bench := { bench with marks := bench.marks.push mark }

def post (bench : Bench) (event : Event) : Bench :=
  if bench.accepting then
    let bench := { bench with events := bench.events ++ [event] }
    if bench.listener = .waiting then { bench.start .engine with listener := .scheduled }
    else bench
  else bench

def followLink (bench : Bench) (effect : LinkEffect) : Bench :=
  let bench := bench.mark (.engine (.link effect))
  match effect with
  | .scanTimer attempt => bench.start (.scanTimer attempt (1000 * bench.scanSeconds))
  | .published state => { bench with state }
  | _ => bench

def followPipeline (bench : Bench) (effect : PipelineEffect) : Bench :=
  let bench := bench.mark (.engine (.pipeline effect))
  match effect with
  | .indicated indication => { bench with indication }
  | .leaseBegun token =>
    match bench.rig.host with
    | .manual _ _ => bench
    | .timed _ => bench.start (.lease token)
  | .leaseEnded _ => bench
  | .started request image =>
    { bench with works := bench.works ++ [(request, SpeechStage.describe image)] }.start
      (.work request)

def follow (bench : Bench) : EngineEffect → Bench
  | .link (.completed tag result) =>
    (bench.followLink (.completed tag result)).post (.sendFinished tag result)
  | .link effect => bench.followLink effect
  | .pipeline effect => bench.followPipeline effect

def setWork (bench : Bench) (request : RequestId) (stage : SpeechStage) : Bench :=
  { bench with
    works := bench.works.map fun work => if work.1 = request then (request, stage) else work }

def workOn (bench : Bench) (request : RequestId) : Nat → SpeechStage → Bench
  | 0, _ => bench
  | more + 1, .describe image =>
    let (answer, describer) := bench.describer.call request
    let bench := { bench with describer }.mark (.described describer.calls image)
    match answer with
    | some answer => bench.workOn request more (.described answer)
    | none => bench
  | more + 1, .synthesize text =>
    let (answer, synthesizer) := bench.synthesizer.call request
    let bench := { bench with synthesizer }.mark (.synthesized synthesizer.calls text)
    match answer with
    | some answer => bench.workOn request more (.spoken answer)
    | none => bench
  | _ + 1, .done result =>
    { bench with works := bench.works.filter (·.1 ≠ request) }.post (.audioReady request result)

def watchLease (bench : Bench) (token : Token) : Bench :=
  let (outcome, host) := bench.rig.host.watch bench.clock.now token
  let bench := { bench with rig := { bench.rig with host } }
  match outcome with
  | .waits deadline => { bench with clock := bench.clock.set deadline (.lease token) }
  | .expired generation => bench.post (.leaseRevoked generation)
  | .ended | .lapsed => bench

def run (bench : Bench) : Job → Bench
  | .lease token => bench.watchLease token
  | .scanTimer attempt millis =>
    if millis = 0 then bench.post (.scanTimeout attempt)
    else
      let deadline := bench.clock.now + min millis longestWait
      { bench with clock := bench.clock.set deadline (.scanDue attempt) }
  | .scanDue attempt => bench.post (.scanTimeout attempt)
  | .work request =>
    match bench.works.find? (·.1 = request) with
    | some (_, stage) => bench.workOn request 3 stage
    | none => bench
  | .engine => bench

def advance (bench : Bench) (millis : Nat) : Bench :=
  let (due, clock) := bench.clock.advance millis
  { bench with clock, line := bench.line ++ due }

def replyDescribe (bench : Bench) (call : Nat) (answer : Except ServiceError String) :
    Bool × Bench :=
  let (request, describer) := bench.describer.reply call
  match request with
  | none => (false, bench)
  | some request =>
    (true, ({ bench with describer }.setWork request (.described answer)).start (.work request))

def replySynthesize (bench : Bench) (call : Nat) (answer : Except ServiceError Bytes) :
    Bool × Bench :=
  let (request, synthesizer) := bench.synthesizer.reply call
  match request with
  | none => (false, bench)
  | some request =>
    (true, ({ bench with synthesizer }.setWork request (.spoken answer)).start (.work request))

def expire (bench : Bench) (token : Token) : Bool × Bench :=
  let (notice, host) := bench.rig.host.expire token
  let bench := { bench with rig := { bench.rig with host } }
  match notice with
  | none => (false, bench)
  | some generation => (true, bench.post (.leaseRevoked generation))

def settleFor (bench : Bench) : Nat → Bench
  | 0 => bench
  | more + 1 =>
    match bench.line with
    | [] => bench
    | job :: line => ({ bench with line }.run job).settleFor more

def patience : Nat := 1000000

def settle (bench : Bench) : Bench := bench.settleFor patience

end Bench

end Sightline
