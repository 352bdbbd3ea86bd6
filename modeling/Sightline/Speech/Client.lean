import Sightline.Http.Reply
import Sightline.Http.Request
import Sightline.Json.Document
import Sightline.Settings
import Sightline.Speech.Description
import Sightline.Text.Base64
import Sightline.Text.Mended

/-! The requests that ask the services for a description and for speech, and what their replies
mean. -/

set_option autoImplicit false

namespace Sightline

open Json

namespace ServiceSettings

def address (settings : ServiceSettings) (service : String) : String :=
  String.ofList (settings.base.toList.reverse.dropWhile (· = '/')).reverse ++ "/" ++ service

def visionDocument (settings : ServiceSettings) (image : Bytes) : Document :=
  let prompt := .object [("type", .string "input_text"), ("text", .string settings.prompt)]
  let picture := .object
    [("type", .string "input_image"),
     ("image_url", .string ("data:image/jpeg;base64," ++ Text.base64 image)),
     ("detail", .string settings.detail)]
  .object
    [("model", .string settings.visionModel),
     ("input", .list
       [.object [("role", .string "user"), ("content", .list [prompt, picture])]])]

def speechDocument (settings : ServiceSettings) (text : String) : Document :=
  .object
    [("model", .string settings.speechModel),
     ("input", .string text),
     ("voice", .string settings.voice),
     ("instructions", .string settings.manner),
     ("response_format", .string settings.audioFormat)]

def visionRequest? (settings : ServiceSettings) (key : String) (image : Bytes) :
    Option Http.Request :=
  Http.Request.make? (settings.address "responses") key (settings.visionDocument image).compact

def speechRequest? (settings : ServiceSettings) (key text : String) : Option Http.Request :=
  Http.Request.make? (settings.address "audio/speech") key (settings.speechDocument text).compact

end ServiceSettings

/-- The body of a reply of success. A body that is cut short is a failure to reach the service; of
other replies it is taken for an empty one. -/
def served : Option Http.Reply → Except ServiceError Bytes
  | none => .error .unreachable
  | some reply =>
    if reply.isSuccess then
      if reply.isWhole then .ok reply.body else .error .unreachable
    else .error (.status reply.status (if reply.isWhole then Text.mended reply.body else ""))

def servedDescription (reply : Option Http.Reply) : Except ServiceError String :=
  served reply >>= description

end Sightline
