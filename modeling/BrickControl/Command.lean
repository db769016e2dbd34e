import BrickControl.Param

/-!
# Direct commands

A direct command is one packet: a length field, a message counter, a message type, the sizes of the variables
it allocates, and a body of op codes with their operands.

* `Code` is one piece of a body;
* `Command` is a command before it is written;
* `Command.bytes` writes the packet, whose length field counts everything after it.
-/

namespace BrickControl

/-- One piece of the body of a command. -/
inductive Code where
  /-- An op code. -/
  | op (code : UInt8)
  /-- A sub-code, written as it is. -/
  | sub (code : UInt8)
  /-- An operand. -/
  | param (operand : Param)
  deriving DecidableEq, Repr, Inhabited

/-- The bytes of one piece. -/
def Code.bytes : Code → List UInt8
  | .op code => [code]
  | .sub code => [code]
  | .param operand => operand.encode

/-- A direct command. -/
structure Command where
  /-- The number by which a reply names the command it answers. -/
  counter : UInt16
  /-- Bytes of global variables that the reply is to carry; `none` asks for no reply. -/
  globals : Option UInt16
  /-- The body. -/
  codes : List Code
  deriving DecidableEq, Repr, Inhabited

namespace Command

/-- Does the sender wait for a reply? -/
def expectsReply (c : Command) : Bool := c.globals.isSome

/-- The message type. -/
def typeByte (c : Command) : UInt8 :=
  if c.expectsReply then Bytecode.commandReply else Bytecode.commandNoReply

/-- The allocation field: ten bits for global variables, and six clear bits for local ones. -/
def allocation (c : Command) : UInt16 := c.globals.getD 0 &&& 0x03FF

/-- The body as it is written. -/
def body (c : Command) : List UInt8 := c.codes.flatMap Code.bytes

/-- The packet. The length field counts counter, type, allocation and body, modulo its two bytes. -/
def bytes (c : Command) : List UInt8 :=
  LittleEndian.encode 2 (c.body.length + 5) ++ LittleEndian.encode 2 c.counter.toNat ++
    c.typeByte :: LittleEndian.encode 2 c.allocation.toNat ++ c.body

/-- A packet is seven bytes longer than its body. -/
@[simp] theorem bytes_length (c : Command) : c.bytes.length = c.body.length + 7 := by
  simp only [bytes, List.length_append, List.length_cons, LittleEndian.encode_length]
  omega

end Command

end BrickControl
