import BrickControl.Param

/-!
# Reading parameters

The firmware tells the form of a parameter by its first byte: two clear top bits open a short constant, the
top bits 011 a global variable, and three tags the longer constants.

* `Param.read?` reads one parameter and gives the bytes after it;
* `Param.readMany?` reads a known number of them.
-/

namespace BrickControl.Param

/-- The two's complement number in the low six bits of a byte. -/
def signedSix (b : UInt8) : Int8 := Int8.ofInt (Int.bmod b.toNat 64)

/-- Reads the parameter that the bytes open with; `none` where no parameter opens them. -/
def read? : List UInt8 → Option (Param × List UInt8)
  | [] => none
  | tag :: rest =>
    if tag < 0x40 then some (.lc0 (signedSix tag), rest)
    else if tag &&& 0xE0 = Bytecode.tagGlobal then some (.gv0 (tag &&& 0x1F), rest)
    else if tag = Bytecode.tagByte then
      match rest with
      | a :: rest => some (.lc1 a.toInt8, rest)
      | _ => none
    else if tag = Bytecode.tagWord then
      match rest with
      | a :: b :: rest => some (.lc2 (UInt16.ofNat (LittleEndian.decode [a, b])).toInt16, rest)
      | _ => none
    else if tag = Bytecode.tagLong then
      match rest with
      | a :: b :: c :: d :: rest =>
        some (.lc4 (UInt32.ofNat (LittleEndian.decode [a, b, c, d])).toInt32, rest)
      | _ => none
    else none

/-- Reads `count` parameters in a row. -/
def readMany? : Nat → List UInt8 → Option (List Param × List UInt8)
  | 0, bytes => some ([], bytes)
  | count + 1, bytes =>
    match read? bytes with
    | none => none
    | some (p, rest) =>
      match readMany? count rest with
      | none => none
      | some (ps, rest) => some (p :: ps, rest)

end BrickControl.Param
