/-!
# Byte codes of the brick

The numbers that the firmware gives to message types, op codes, sub-codes and parameter tags, and the sizes
of the fixed parts of a packet.
-/

namespace BrickControl.Bytecode

/-! ### Message types -/

/-- A direct command whose sender waits for a reply. -/
def commandReply : UInt8 := 0x00

/-- A direct command that asks for no reply. -/
def commandNoReply : UInt8 := 0x80

/-- A reply to a command that the brick accepted. -/
def replyOk : UInt8 := 0x02

/-- A reply to a command that the brick refused. -/
def replyError : UInt8 := 0x04

/-! ### Op codes -/

def opUiWrite : UInt8 := 0x82
def opKeepAlive : UInt8 := 0x90
def opSound : UInt8 := 0x94
def opInputDevice : UInt8 := 0x99
def opOutputStop : UInt8 := 0xA3
def opOutputSpeed : UInt8 := 0xA5
def opOutputStart : UInt8 := 0xA6

/-! ### Sub-codes -/

def uiWriteLed : UInt8 := 0x1B
def soundBreak : UInt8 := 0x00
def soundTone : UInt8 := 0x01
def inputDeviceReadySi : UInt8 := 0x1D

/-! ### Parameter tags -/

/-- Tag of a constant in one byte. -/
def tagByte : UInt8 := 0x81

/-- Tag of a constant in two bytes. -/
def tagWord : UInt8 := 0x82

/-- Tag of a constant in four bytes. -/
def tagLong : UInt8 := 0x83

/-- Tag of a global variable, with the index in the low five bits. -/
def tagGlobal : UInt8 := 0x60

/-! ### Layout -/

/-- The daisy-chain layer of the brick that the sender talks to. -/
def layerMaster : UInt8 := 0

/-- Bytes of the length field that opens every packet. -/
def lengthBytes : Nat := 2

/-- Bytes between the length field and the byte after the first op code: counter, type, allocation, op code. -/
def basicOffset : Nat := 6

end BrickControl.Bytecode
