import Sightline.Bytes

/-! From an image to speech: one service describes the image, another speaks the description. The
first failure is the result. -/

set_option autoImplicit false

namespace Sightline

inductive ServiceError where
  /-- The service answered with a status other than success. -/
  | status (code : Nat) (body : String)
  | malformed (reason : String)
  | emptyDescription
  /-- The service was not reached, or broke off. -/
  | unreachable
  deriving DecidableEq, Repr

def ServiceError.message : ServiceError → String
  | .status code body => "service responded with status " ++ toString code ++ ": " ++ body
  | .malformed reason => "could not parse service response: " ++ reason
  | .emptyDescription => "service returned an empty description"
  | .unreachable => "http request failed"

inductive SpeechStage where
  | describe (image : Bytes)
  | synthesize (text : String)
  | done (result : Except ServiceError Bytes)

def SpeechStage.described : Except ServiceError String → SpeechStage
  | .ok text => .synthesize text
  | .error error => .done (.error error)

def SpeechStage.spoken (result : Except ServiceError Bytes) : SpeechStage := .done result

end Sightline
