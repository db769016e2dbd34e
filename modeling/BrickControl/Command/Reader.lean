import BrickControl.Command

/-!
# Reading command packets

`Packet.read?` takes a packet apart into the fields of its header and its body, and checks that the length
field counts the bytes after it.
-/

namespace BrickControl

/-- The fields of a command packet. -/
structure Packet where
  counter : UInt16
  /-- The message type. -/
  typeByte : UInt8
  /-- Bytes of global variables: the low ten bits of the allocation field. -/
  globals : Nat
  /-- Bytes of local variables: the high six bits of the allocation field. -/
  locals : Nat
  body : List UInt8
  deriving DecidableEq, Repr, Inhabited

/-- Reads one whole packet; `none` for a cut header or a length field that does not fit. -/
def Packet.read? : List UInt8 → Option Packet
  | l₀ :: l₁ :: c₀ :: c₁ :: kind :: a₀ :: a₁ :: body =>
    if LittleEndian.decode [l₀, l₁] = body.length + 5 then
      some {
        counter := UInt16.ofNat (LittleEndian.decode [c₀, c₁])
        typeByte := kind
        globals := LittleEndian.decode [a₀, a₁] % 1024
        locals := LittleEndian.decode [a₀, a₁] / 1024
        body := body }
    else none
  | _ => none

end BrickControl
