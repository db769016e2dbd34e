import BrickControl.Command
import BrickControl.Fault
import BrickControl.Outputs
import BrickControl.Sensor

/-!
# Operations and requests

An operation is a call on the device as its caller makes it, with any arguments. A request is what a packet
asks of the brick, with every argument in the range of its field.

* `Operation.plan` clamps the arguments, or finds that nothing is to be sent;
* `Request.command` is the direct command of a request, `Request.packet` its bytes.
-/

namespace BrickControl

/-! ### Limits -/

/-- The highest frequency of a tone, in hertz. -/
def maxFrequencyHz : UInt32 := 10000

/-- The longest duration of a tone in milliseconds, which travels in a signed field of two bytes. -/
def maxDurationMs : UInt32 := 32767

/-- The loudest volume level of the brick. -/
def maxVolumeLevel : UInt32 := 13

/-- The highest speed of a motor, in either direction. -/
def maxSpeed : Int32 := 100

/-- The volume level of a percentage: `maxVolumeLevel` parts, rounded up, so that whatever is audible stays
audible. Anything above one hundred counts as one hundred. -/
def volumeLevel (percent : UInt32) : UInt8 :=
  ((min percent 100 * maxVolumeLevel + 99) / 100).toUInt8

/-! ### Operations -/

/-- A call on the device. -/
inductive Operation where
  /-- Play a tone of a frequency, a duration and a volume in percent. -/
  | tone (hz ms volume : UInt32)
  /-- Set the button lights. -/
  | led (status : UInt8)
  /-- Run motors at a speed. -/
  | motor (outputs : Outputs) (speed : Int32)
  /-- Stop motors, with or without braking. -/
  | stop (outputs : Outputs) (brake : Bool)
  /-- Let every motor coast and silence the speaker. -/
  | stopAll
  /-- Put off the brick's sleep. -/
  | keepAlive (minutes : UInt8)
  /-- Read the sensor at an input port. -/
  | sensor (port : UInt8) (kind : SensorKind)
  deriving DecidableEq, Repr, Inhabited

/-- What a packet asks of the brick. -/
inductive Request where
  | tone (hz ms : UInt32) (level : UInt8)
  | led (status : UInt8)
  | motor (outputs : Outputs) (speed : Int32)
  | stop (outputs : Outputs) (brake : Bool)
  | stopAll
  | keepAlive (minutes : UInt8)
  | sensor (port : UInt8) (kind : SensorKind)
  deriving DecidableEq, Repr, Inhabited

/-- What becomes of an operation on an initialised device. -/
inductive Plan where
  /-- Nothing is sent, because the arguments are refused. -/
  | refused (fault : Fault)
  /-- Nothing is sent, because the tone could not be heard. -/
  | inaudible (hz ms volume : UInt32)
  /-- A packet is sent. -/
  | requested (request : Request)
  deriving DecidableEq, Repr

/-- Clamps the arguments of an operation, or finds that nothing is to be sent. -/
def Operation.plan : Operation → Plan
  | .tone hz ms volume =>
    if ms = 0 ∨ volume = 0 then .inaudible hz ms volume
    else .requested (.tone (min hz maxFrequencyHz) (min ms maxDurationMs) (volumeLevel volume))
  | .led status => .requested (.led status)
  | .motor outputs speed => .requested (.motor outputs (max (-maxSpeed) (min speed maxSpeed)))
  | .stop outputs brake => .requested (.stop outputs brake)
  | .stopAll => .requested .stopAll
  | .keepAlive minutes => .requested (.keepAlive minutes)
  | .sensor port kind =>
    if 1 ≤ port ∧ port ≤ 4 then .requested (.sensor port kind) else .refused (.invalidPort port)

/-! ### Requests on the wire -/

namespace Request

/-- A short constant operand. -/
def short (value : UInt8) : Code := .param (.lc0 value.toInt8)

/-- The layer of the brick and a set of outputs, which open the operands of every motor op code. -/
def motors (outputs : Outputs) : List Code :=
  [short Bytecode.layerMaster, short outputs.mask]

/-- The op codes of a request, with their operands. -/
def codes : Request → List Code
  | .tone hz ms level =>
    [.op Bytecode.opSound, .sub Bytecode.soundTone, short level,
      .param (.lc2 hz.toUInt16.toInt16), .param (.lc2 ms.toUInt16.toInt16)]
  | .led status =>
    [.op Bytecode.opUiWrite, .sub Bytecode.uiWriteLed, .param (.lc1 status.toInt8)]
  | .motor outputs speed =>
    .op Bytecode.opOutputSpeed :: motors outputs ++
      .param (.lc1 speed.toInt8) :: .op Bytecode.opOutputStart :: motors outputs
  | .stop outputs brake =>
    .op Bytecode.opOutputStop :: motors outputs ++ [short (if brake then 1 else 0)]
  | .stopAll =>
    .op Bytecode.opOutputStop :: motors Outputs.all ++
      [short 0, .op Bytecode.opSound, .sub Bytecode.soundBreak]
  | .keepAlive minutes =>
    [.op Bytecode.opKeepAlive, .param (Param.constant (Int32.ofNat minutes.toNat))]
  | .sensor port kind =>
    [.op Bytecode.opInputDevice, .sub Bytecode.inputDeviceReadySi,
      short Bytecode.layerMaster, short (port - 1),
      .param (Param.constant (Int32.ofNat kind.typeMode.1.toNat)), short kind.typeMode.2,
      short 1, .param (.gv0 0)]

/-- The bytes of global variables that the reply carries: one number for a sensor, no reply otherwise. -/
def globals : Request → Option UInt16
  | .sensor _ _ => some 4
  | _ => none

/-- The direct command of a request. -/
def command (request : Request) (counter : UInt16) : Command :=
  ⟨counter, request.globals, request.codes⟩

/-- The packet of a request. -/
def packet (request : Request) (counter : UInt16) : List UInt8 := (request.command counter).bytes

end Request

end BrickControl
