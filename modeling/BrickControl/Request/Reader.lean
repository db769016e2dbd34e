import BrickControl.Command.Reader
import BrickControl.Param.Reader
import BrickControl.Request

/-!
# Reading requests

A packet that a device sends tells which request it carries, with every operand.

* `Request.ofBody?` reads the request that op codes with their operands spell;
* `Request.read?` reads a whole packet, and gives the counter with the request.
-/

namespace BrickControl

/-- The value of a constant parameter; `none` for a global variable. -/
def Param.value? : Param → Option Int
  | .lc0 v => some v.toInt
  | .lc1 v => some v.toInt
  | .lc2 v => some v.toInt
  | .lc4 v => some v.toInt
  | .gv0 _ => none

namespace Request

/-- The operands behind an op code and nothing behind them. -/
def operands? (count : Nat) (bytes : List UInt8) : Option (List Param) :=
  match Param.readMany? count bytes with
  | some (operands, []) => some operands
  | _ => none

/-- The operands of a tone. -/
def toneOf? (bytes : List UInt8) : Option Request :=
  match operands? 3 bytes with
  | some [.lc0 level, .lc2 hz, .lc2 ms] =>
    some (.tone hz.toUInt16.toUInt32 ms.toUInt16.toUInt32 level.toUInt8)
  | _ => none

/-- The operand of the button lights. -/
def ledOf? (bytes : List UInt8) : Option Request :=
  match operands? 1 bytes with
  | some [.lc1 status] => some (.led status.toUInt8)
  | _ => none

/-- The operands of a speed, and the start of the same outputs. -/
def motorOf? (bytes : List UInt8) : Option Request :=
  match Param.readMany? 3 bytes with
  | some ([.lc0 0, .lc0 mask, .lc1 speed], op :: rest) =>
    if op = Bytecode.opOutputStart ∧ operands? 2 rest = some [.lc0 0, .lc0 mask] then
      (Outputs.ofMask? mask.toUInt8).map fun outputs => .motor outputs speed.toInt32
    else none
  | _ => none

/-- The operands of a stop, and the silence that follows if everything stops. -/
def stopOf? (bytes : List UInt8) : Option Request :=
  match Param.readMany? 3 bytes with
  | some ([.lc0 0, .lc0 mask, .lc0 brake], rest) =>
    match Outputs.ofMask? mask.toUInt8 with
    | none => none
    | some outputs =>
      if rest = [] then
        if brake = 0 then some (.stop outputs false)
        else if brake = 1 then some (.stop outputs true)
        else none
      else if rest = [Bytecode.opSound, Bytecode.soundBreak] ∧ outputs = Outputs.all ∧ brake = 0 then
        some .stopAll
      else none
  | _ => none

/-- The operand of a keep-alive. -/
def keepAliveOf? (bytes : List UInt8) : Option Request :=
  match operands? 1 bytes with
  | some [minutes] => minutes.value?.map fun value => .keepAlive (UInt8.ofNat value.toNat)
  | _ => none

/-- The operands of a sensor. -/
def sensorOf? (bytes : List UInt8) : Option Request :=
  match operands? 6 bytes with
  | some [.lc0 0, .lc0 port, device, .lc0 mode, .lc0 1, .gv0 0] =>
    match device.value? with
    | none => none
    | some value =>
      (SensorKind.ofTypeMode? (UInt8.ofNat value.toNat, mode.toUInt8)).map fun kind =>
        .sensor (port.toUInt8 + 1) kind
  | _ => none

/-- The request that a body spells. -/
def ofBody? : List UInt8 → Option Request
  | [] => none
  | op :: rest =>
    if op = Bytecode.opOutputSpeed then motorOf? rest
    else if op = Bytecode.opOutputStop then stopOf? rest
    else if op = Bytecode.opKeepAlive then keepAliveOf? rest
    else
      match rest with
      | [] => none
      | sub :: rest =>
        if op = Bytecode.opSound ∧ sub = Bytecode.soundTone then toneOf? rest
        else if op = Bytecode.opUiWrite ∧ sub = Bytecode.uiWriteLed then ledOf? rest
        else if op = Bytecode.opInputDevice ∧ sub = Bytecode.inputDeviceReadySi then sensorOf? rest
        else none

/-- The counter and the request of a packet. -/
def read? (packet : List UInt8) : Option (UInt16 × Request) :=
  match Packet.read? packet with
  | none => none
  | some fields => (ofBody? fields.body).map fun request => (fields.counter, request)

end Request

end BrickControl
