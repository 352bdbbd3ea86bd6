/-! What can go wrong on a channel, and the words for it. -/

set_option autoImplicit false

namespace Sightline

/-- A failure of the byte streams of a channel. Every one of them ends the session it arises in,
except that a failed write ends only the frame it was part of. -/
inductive ChannelError where
  | stream (reason : String)
  | endOfStream
  /-- A header read gave fewer bytes than the source had promised. -/
  | shortHeader (count : Nat)
  | frameTooLarge (announced limit : Nat)
  | read (reason : String)
  | write (reason : String)
  | sessionClosed
  deriving DecidableEq, Repr

def ChannelError.message : ChannelError → String
  | .stream reason => "stream error: " ++ reason
  | .endOfStream => "stream end encountered"
  | .shortHeader count =>
    "could not read 4 bytes for length, read " ++ toString count
  | .frameTooLarge announced limit =>
    "incoming frame of " ++ toString announced ++ " bytes exceeds the " ++ toString limit
      ++ " byte limit"
  | .read reason => "stream read error: " ++ reason
  | .write reason => "stream write error: " ++ reason
  | .sessionClosed => "channel session closed"

abbrev SendResult := Except ChannelError Unit

inductive SendError where
  | inFlight
  | noSession
  | payloadTooLarge (length : Nat)
  deriving DecidableEq, Repr

def SendError.message : SendError → String
  | .inFlight => "a frame is already being sent"
  | .noSession => "no open channel session"
  | .payloadTooLarge length =>
    "payload of " ++ toString length ++ " bytes does not fit a 32-bit length header"

end Sightline
