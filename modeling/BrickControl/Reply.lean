import BrickControl.Bytecode
import BrickControl.Fault
import BrickControl.Single

/-!
# Replies

A reply frame is a length field, the counter of the command it answers, a message type that tells whether the
brick accepted the command, and the bytes of the command's global variables.

* `Reply.parse` reads a frame;
* `Reply.encode` writes one;
* `Reply.expectOk` checks that a reply answers a command and that the command was accepted;
* `Reply.single` reads a number out of the payload.
-/

namespace BrickControl

/-- Did the brick accept the command? -/
inductive ReplyStatus where
  | ok
  | error
  deriving DecidableEq, Repr, Inhabited

/-- The message type of a status. -/
def ReplyStatus.typeByte : ReplyStatus → UInt8
  | .ok => Bytecode.replyOk
  | .error => Bytecode.replyError

/-- The status of a message type; `none` if no reply has that type. -/
def ReplyStatus.ofTypeByte? (kind : UInt8) : Option ReplyStatus :=
  if kind = Bytecode.replyOk then some .ok
  else if kind = Bytecode.replyError then some .error
  else none

/-- A reply of the brick. -/
structure Reply where
  /-- The counter of the command that is answered. -/
  counter : UInt16
  status : ReplyStatus
  /-- The bytes of the global variables, in the order of their allocation. -/
  payload : List UInt8
  deriving DecidableEq, Repr, Inhabited

namespace Reply

/-- Reads one whole frame. Too few bytes for a header come before a wrong length field, and that before an
unknown message type. -/
def parse : List UInt8 → Except Fault Reply
  | l₀ :: l₁ :: c₀ :: c₁ :: kind :: payload =>
    let declared := LittleEndian.decode [l₀, l₁]
    let actual := payload.length + 3
    if declared = actual then
      match ReplyStatus.ofTypeByte? kind with
      | some status => .ok ⟨UInt16.ofNat (LittleEndian.decode [c₀, c₁]), status, payload⟩
      | none => .error (.unknownReplyType kind)
    else .error (.lengthMismatch declared actual)
  | frame => .error (.shortReply frame.length)

/-- The frame of a reply. -/
def encode (reply : Reply) : List UInt8 :=
  LittleEndian.encode 2 (reply.payload.length + 3) ++ LittleEndian.encode 2 reply.counter.toNat ++
    reply.status.typeByte :: reply.payload

/-- The reply itself, if it answers the command of that counter and the command was accepted. -/
def expectOk (reply : Reply) (counter : UInt16) : Except Fault Reply :=
  if reply.counter = counter then
    match reply.status with
    | .ok => .ok reply
    | .error => .error (.replyError reply.counter)
  else .error (.counterMismatch counter reply.counter)

/-- The number in the four payload bytes from `offset` on. -/
def single (reply : Reply) (offset : Nat) : Except Fault Single :=
  if offset + 4 ≤ reply.payload.length then
    .ok (Single.ofBytes ((reply.payload.drop offset).take 4))
  else .error (.shortReply reply.payload.length)

/-- Does the reply answer an earlier command than the one of that counter? Counters wrap around, so a reply
is late if its counter lies in the half of the circle behind the command's. -/
def isLate (reply : Reply) (counter : UInt16) : Bool :=
  let age := counter - reply.counter
  age != 0 && age < 0x8000

end Reply

end BrickControl
