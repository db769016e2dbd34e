import BrickControl.Bytes.Hex

/-!
# Faults

What can go wrong between a program and a brick.

* `LineFault` is a failure of the line itself;
* `Fault` is a failure of an operation;
* `Fault.message` is the text that a user sees.
-/

namespace BrickControl

/-- A failure of the line under a transport. -/
inductive LineFault where
  /-- A signal broke into the call. -/
  | interrupted
  | timedOut
  | wouldBlock
  | brokenPipe
  | notConnected
  | permissionDenied
  /-- The line reported its end. -/
  | endReported
  /-- The line ended before all bytes were read. -/
  | endedEarly
  /-- The line took no more bytes before all were written. -/
  | tookNothing
  /-- Any other failure, by its text. -/
  | other (text : String)
  deriving DecidableEq, Repr, Inhabited

/-- The text of a failure of the line. -/
def LineFault.message : LineFault → String
  | .interrupted => "operation interrupted"
  | .timedOut => "timed out"
  | .wouldBlock => "operation would block"
  | .brokenPipe => "broken pipe"
  | .notConnected => "not connected"
  | .permissionDenied => "permission denied"
  | .endReported => "unexpected end of file"
  | .endedEarly => "failed to fill whole buffer"
  | .tookNothing => "failed to write whole buffer"
  | .other text => text

/-- A failure of an operation. -/
inductive Fault where
  /-- The device was used before it was initialised. -/
  | notInitialised
  /-- A sensor port outside 1 to 4. -/
  | invalidPort (port : UInt8)
  /-- The line failed. -/
  | line (cause : LineFault)
  /-- The serial device failed. -/
  | serial (text : String)
  /-- A reply, or its payload, has too few bytes. -/
  | shortReply (bytes : Nat)
  /-- The length field of a reply does not count the bytes after it. -/
  | lengthMismatch (declared actual : Nat)
  /-- A reply has a message type that no reply has. -/
  | unknownReplyType (kind : UInt8)
  /-- A reply answers another command. -/
  | counterMismatch (expected got : UInt16)
  /-- The brick refused the command. -/
  | replyError (counter : UInt16)
  /-- No reply came. -/
  | noReply
  deriving DecidableEq, Repr, Inhabited

/-- The text of a fault. -/
def Fault.message : Fault → String
  | .notInitialised => "device used before initialise()"
  | .invalidPort port => "invalid sensor port " ++ toString port ++ " (expected 1..=4)"
  | .line cause => "io: " ++ cause.message
  | .serial text => "serial: " ++ text
  | .shortReply bytes => "reply too short: " ++ toString bytes ++ " bytes"
  | .lengthMismatch declared actual =>
    "reply length field says " ++ toString declared ++ ", got " ++ toString actual
  | .unknownReplyType kind => "unknown reply type 0x" ++ Hex.text [kind]
  | .counterMismatch expected got =>
    "reply counter " ++ toString got ++ " does not match request " ++ toString expected
  | .replyError counter => "brick reported an error for message " ++ toString counter
  | .noReply => "no reply received"

end BrickControl
