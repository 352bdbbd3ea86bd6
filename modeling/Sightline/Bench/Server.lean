import Sightline.Http.Host
import Sightline.Http.Reply

/-! A service on the bench: it takes one request, gives one scripted answer and hangs up. It stands
behind every number of a host, and behind one name. -/

set_option autoImplicit false

namespace Sightline.Bench

structure Server where
  status : Nat := 200
  phrase : String := ""
  body : Bytes := []
  /-- How many bytes more than there are the answer announces. -/
  missing : Nat := 0
  /-- There is no answer at all. -/
  hangsUp : Bool := false

namespace Server

def answersFor : Http.Host → Bool
  | .name text => text = "localhost"
  | .short _ | .long _ => true

def answer (server : Server) : Bytes :=
  let lines :=
    ["HTTP/1.1 " ++ Nat.repr server.status ++ " " ++ server.phrase,
     "content-length: " ++ Nat.repr (server.body.length + server.missing),
     "connection: close", "", ""]
  Bytes.ofText ("\r\n".intercalate lines) ++ server.body

/-- What comes back from the service. It takes no second request, so an answer that sends the client
to another address leads to nothing. -/
def reply? (server : Server) : Option Http.Reply :=
  if server.hangsUp then none
  else (Http.Reply.read? server.answer).filter fun reply => !reply.sendsOn

end Server

end Sightline.Bench
