import Sightline.App
import Sightline.Bench.Basic
import Sightline.Bench.Leases
import Sightline.Http.Request
import Sightline.Identity
import Sightline.Json.Document
import Sightline.Json.Fault
import Sightline.Settings.File
import Sightline.Text.Blank

/-! What happened on the bench, written down as JSON: values, failures and marks.

A failure is written with its kind and its message, a mark as a list that begins with its name, and
bytes in hexadecimal digits, or as their length, hash and ends if there are many. -/

set_option autoImplicit false

namespace Sightline.Bench.Transcript

open Json

/-! ### Values -/

def orNull {α : Type} (write : α → Document) : Option α → Document
  | none => .null
  | some value => write value

def digits (bytes : Bytes) : String :=
  String.ofList (bytes.flatMap fun b => Uuid.hexDigits 2 b.toNat)

def hash (bytes : Bytes) : UInt64 :=
  bytes.foldl (fun hash b => (hash ^^^ b.toUInt64) * 1099511628211) 14695981039346656037

def shownBytes : Nat := 64

def bytes (bytes : Bytes) : Document :=
  let length := bytes.length
  if length ≤ shownBytes then .string (digits bytes)
  else
    .object
      [("len", .natural length),
       ("fnv1a64", .string (String.ofList (Uuid.hexDigits 16 (hash bytes).toNat))),
       ("head", .string (digits (bytes.take 8))),
       ("tail", .string (digits (bytes.drop (length - 8))))]

def peripheral (id : PeripheralId) : Document := .string id.text

def uuid (uuid : Uuid) : Document := .string uuid.text

def frames (frames : List Bytes) : Document := .object [("frames", .list (frames.map bytes))]

def taken (taken : Taken) : Document :=
  .object [("bytes", bytes taken.bytes), ("space_freed", .bool taken.spaceFreed)]

def indication : Indication → Document
  | .none => .string "None"
  | .imageReceived length => .object [("ImageReceived", .natural length)]
  | .audioSent length => .object [("AudioSent", .natural length)]
  | .failed reason => .object [("Failed", .string reason)]

def session (session : Session) : Document :=
  .object
    [("channel", .natural session.pair.channel), ("open", .bool session.isOpen),
     ("sending", .bool session.isSending), ("writable", .bool session.writable),
     ("mtu", .natural session.mtu), ("expected", orNull .natural session.incoming.expected),
     ("buffered", .natural session.incoming.buffer.size)]

def guard (guard : Guard) : Document :=
  .object [("held", .bool guard.isHeld), ("token", orNull .natural guard.token)]

def shownBody : Nat := 4096

def posted (request : Http.Request) : Document :=
  .object
    [("method", .string "POST"), ("target", .string request.target),
     ("authorization", .string (Text.trim request.authorization)),
     ("content_type", .string "application/json"),
     ("body",
      if request.body.utf8ByteSize ≤ shownBody then .string request.body
      else bytes (Bytes.ofText request.body))]

/-! ### Failures -/

def failure (kind message : String) : Document :=
  .object [("error", .string kind), ("message", .string message)]

def channelError (error : ChannelError) : Document :=
  let kind := match error with
    | .stream _ => "Stream"
    | .endOfStream => "EndOfStream"
    | .shortHeader _ => "ShortHeader"
    | .frameTooLarge _ _ => "FrameTooLarge"
    | .read _ => "Read"
    | .write _ => "Write"
    | .sessionClosed => "SessionClosed"
  failure kind error.message

def sendError (error : SendError) : Document :=
  let kind := match error with
    | .inFlight => "InFlight"
    | .noSession => "NoSession"
    | .payloadTooLarge _ => "PayloadTooLarge"
  failure kind error.message

def serviceError (error : ServiceError) : Document :=
  match error with
  | .status _ _ => failure "Status" error.message
  | .malformed _ => failure "Malformed" error.message
  | .emptyDescription => failure "EmptyDescription" error.message
  | .unreachable => .object [("error", .string "Http")]

def connectRefusal (refusal : ConnectRefusal) : Document :=
  let kind := match refusal with
    | .radioUnavailable => "RadioUnavailable"
    | .busy _ => "Busy"
    | .alreadyScanning => "AlreadyScanning"
    | .peripheralActive _ => "PeripheralActive"
  failure kind refusal.message

def appError (error : AppError) : Document := failure "engine" error.message

def fault (fault : Fault) : Document := failure "Json" fault.message

def diskKind : DiskFault → String
  | .notFound => "NotFound"
  | .notFolder => "NotADirectory"
  | .isFolder => "IsADirectory"
  | .alreadyThere => "AlreadyExists"
  | .nameTooLong => "InvalidFilename"
  | .strayZero => "InvalidInput"
  | .notText => "InvalidData"

def diskFault (fault : DiskFault) : Document := failure ("io::" ++ diskKind fault) fault.message

def settingsError : SettingsError → Document
  | .disk fault => diskFault fault
  | .format found => fault found

def identityError (error : IdentityError) : Document :=
  let kind := match error with
    | .disk fault => "Io::" ++ diskKind fault
    | .format _ => "Format"
    | .writerStopped => "WriterStopped"
  failure kind error.message

/-! ### Answers -/

def done {ε : Type} (write : ε → Document) : Except ε Unit → Document
  | .ok () => .string "ok"
  | .error error => write error

def sendResult : SendResult → Document := done channelError

def received : Except ChannelError (List Bytes) → Document
  | .ok whole => frames whole
  | .error error => channelError error

def outcome : Session.Outcome → Document
  | .nothing => .string "nothing"
  | .opened => .string "opened"
  | .frames whole => frames whole
  | .terminated error => .object [("terminated", channelError error)]

def audio : Except ServiceError Bytes → Document
  | .ok audio => .object [("audio", bytes audio)]
  | .error error => serviceError error

def description : Except ServiceError String → Document
  | .ok text => .object [("text", .string text)]
  | .error error => serviceError error

/-! ### Marks -/

def entry (name : String) (values : List Document) : Document := .list (.string name :: values)

def call (channel : Nat) : StreamCall → Document
  | .read wanted (.ok got) =>
    entry "read" [.natural channel, .natural wanted, .natural got.length]
  | .read wanted (.error _) => entry "read_fail" [.natural channel, .natural wanted]
  | .write offered (.ok count) =>
    entry "write" [.natural channel, .natural offered.length, bytes (offered.take count)]
  | .write offered (.error _) => entry "write_fail" [.natural channel, .natural offered.length]
  | .closeInbound => entry "close_in" [.natural channel]
  | .closeOutbound => entry "close_out" [.natural channel]

def calls (rig : Rig) (pair : StreamPair) (calls : List StreamCall) : List Document :=
  if rig.isScripted pair.handle then calls.map (call pair.channel) else []

def completion (tag : Tag) (result : SendResult) : Document :=
  entry "completion" [.natural tag, sendResult result]

def request : RadioRequest → Document
  | .startScan service => entry "start_scan" [uuid service]
  | .stopScan => entry "stop_scan" []
  | .listConnected service => entry "connected_peripherals" [uuid service]
  | .connect id options =>
    entry "connect" [peripheral id, .bool options.reconnects, .bool options.notifies]
  | .cancelConnection id => entry "cancel_connection" [peripheral id]
  | .discoverServices id service => entry "discover_services" [peripheral id, uuid service]
  | .discoverCharacteristics id service characteristic =>
    entry "discover_characteristics" [peripheral id, uuid service, uuid characteristic]
  | .subscribe id service characteristic =>
    entry "subscribe" [peripheral id, uuid service, uuid characteristic]
  | .openChannel id psm => entry "open_channel" [peripheral id, .natural psm.toNat]

def linkEffect (rig : Rig) (ends : Bool) : LinkEffect → List Document
  | .stream pair call => calls rig pair [call]
  | .completed tag result => if ends then [completion tag result] else []
  | .radio made => [request made]
  | .saveIdentity id => [entry "save_identity" [peripheral id]]
  | .clearIdentity => [entry "clear_identity" []]
  | .published _ | .scanTimer _ | .overflow | .unbuffered => []

def notes (rig : Rig) (pair : StreamPair) (notes : Array Session.Note) : List Document :=
  notes.toList.flatMap fun note => linkEffect rig true (.ofNote pair note)

def mark (rig : Rig) (ends : Bool) : Mark → List Document
  | .engine (.link effect) => linkEffect rig ends effect
  | .engine (.pipeline (.leaseBegun token)) =>
    [entry "lease_begin" [.natural token, .string Pipeline.leaseName]]
  | .engine (.pipeline (.leaseEnded token)) => [entry "lease_end" [.natural token]]
  | .engine (.pipeline _) => []
  | .described call image => [entry "describe" [.natural call, bytes image]]
  | .synthesized call text => [entry "synthesize" [.natural call, .string text]]
  | .submitted audio true => [entry "submit" [bytes audio]]
  | .submitted audio false => [entry "submit_rejected" [bytes audio]]

def marks (bench : Bench) (ends : Bool) : Document :=
  .list (bench.marks.toList.flatMap (mark bench.rig ends))

def leaseMark : LeaseMark → Document
  | .begun token name => entry "lease_begin" [.natural token, .string name]
  | .ended token => entry "lease_end" [.natural token]
  | .expired name => entry "expired" [.string name]

def event : Event → Document
  | .scanTimeout attempt => entry "ScanTimeout" [.natural attempt]
  | .audioReady request (.ok audio) => entry "AudioReady" [.natural request, bytes audio]
  | .audioReady request (.error error) =>
    entry "AudioReady" [.natural request, serviceError error]
  | .sendFinished request result => entry "SendFinished" [.natural request, sendResult result]
  | .leaseRevoked generation => entry "LeaseRevoked" [.natural generation]
  | .radio _ | .stream _ | .command _ => .null

def events (events : List Event) : Document := .list (events.map event)

def published (bench : Bench) : Bool :=
  bench.marks.any fun
    | .engine (.link (.published _)) => true
    | _ => false

def indicated (bench : Bench) : Bool :=
  bench.marks.any fun
    | .engine (.pipeline (.indicated _)) => true
    | _ => false

end Sightline.Bench.Transcript
