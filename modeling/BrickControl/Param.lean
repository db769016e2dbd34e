import BrickControl.Bytes.LittleEndian
import BrickControl.Bytecode

/-!
# Parameters

A parameter is a constant or a reference to a global variable, written in the form that the firmware reads
from the byte code stream.

* `Param.constant` chooses the shortest form of a constant;
* `Param.encode` writes a parameter.
-/

namespace BrickControl

/-- A parameter of an op code. -/
inductive Param where
  /-- A short constant of six bits, meant for -31 to 31. -/
  | lc0 (value : Int8)
  /-- A constant in one byte. -/
  | lc1 (value : Int8)
  /-- A constant in two bytes. -/
  | lc2 (value : Int16)
  /-- A constant in four bytes. -/
  | lc4 (value : Int32)
  /-- A global variable, which is a slot of the reply; meant for indices below 32. -/
  | gv0 (index : UInt8)
  deriving DecidableEq, Repr, Inhabited

namespace Param

/-- The shortest constant that carries `value`. -/
def constant (value : Int32) : Param :=
  if -31 ≤ value ∧ value ≤ 31 then .lc0 value.toInt8
  else if -128 ≤ value ∧ value ≤ 127 then .lc1 value.toInt8
  else if -32768 ≤ value ∧ value ≤ 32767 then .lc2 value.toInt16
  else .lc4 value

/-- The bytes of a parameter; a short constant keeps its low six bits, a global index its low five. -/
def encode : Param → List UInt8
  | .lc0 value => [value.toUInt8 &&& 0x3F]
  | .lc1 value => [Bytecode.tagByte, value.toUInt8]
  | .lc2 value => Bytecode.tagWord :: LittleEndian.encode 2 value.toUInt16.toNat
  | .lc4 value => Bytecode.tagLong :: LittleEndian.encode 4 value.toUInt32.toNat
  | .gv0 index => [Bytecode.tagGlobal ||| (index &&& 0x1F)]

/-- Every parameter takes at least one byte. -/
theorem encode_ne_nil (p : Param) : p.encode ≠ [] := by
  cases p <;> simp [encode]

end Param

end BrickControl
