import Sightline.Engine
import Sightline.Text.Quoted

/-! The program as its user sees it: an engine that runs until it is stopped or fails, and commands
that are posted to it.

The engine shares its thread with the other tasks: it takes a number of events in one turn, and then
lets the others go first. -/

set_option autoImplicit false

namespace Sightline

inductive EngineStatus where
  | running
  | stopped
  /-- The engine came to an end that was not asked for; the reason in words. -/
  | failed (reason : String)
  deriving DecidableEq, Repr

inductive AppError where
  | notRunning
  | engineFailed (reason : String)
  deriving DecidableEq, Repr

def AppError.message : AppError → String
  | .notRunning => "Engine is not running"
  | .engineFailed reason => "Engine task failed: task panicked with message " ++ Text.quoted reason

def EngineStatus.accept : EngineStatus → Except AppError Unit
  | .running => .ok ()
  | .stopped | .failed _ => .error .notRunning

def EngineStatus.outcome : EngineStatus → Except AppError Unit
  | .running | .stopped => .ok ()
  | .failed reason => .error (.engineFailed reason)

namespace Engine

def turnLength : Nat := 128

end Engine

end Sightline
