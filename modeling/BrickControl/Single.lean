import BrickControl.Bytes.LittleEndian

/-!
# Single-precision numbers

A sensor value is a 32-bit binary floating-point number. It is kept as its bits, so that every pattern,
also that of a signed zero or of any NaN, stays what the brick sent.

* `Single` is such a number;
* `Single.ofBytes` reads one from four little-endian bytes, `Single.bytes` writes it;
* `Single.magnitude` is the mantissa and exponent of a finite one.
-/

namespace BrickControl

/-- A single-precision number, by its bits. -/
structure Single where
  bits : UInt32
  deriving DecidableEq, Repr, Inhabited

namespace Single

/-- The number that four little-endian bytes spell. -/
def ofBytes (bytes : List UInt8) : Single := ⟨UInt32.ofNat (LittleEndian.decode bytes)⟩

/-- The four little-endian bytes of a number. -/
def bytes (x : Single) : List UInt8 := LittleEndian.encode 4 x.bits.toNat

/-- The weight of the sign bit. -/
def signWeight : Nat := 2147483648

/-- The number of fractions, which is also the weight of the hidden bit of a mantissa. -/
def fractions : Nat := 8388608

/-- The sign bit. -/
def isNegative (x : Single) : Bool := signWeight ≤ x.bits.toNat

/-- The biased exponent: 0 for zero and the subnormal numbers, 255 for infinities and NaNs. -/
def exponentField (x : Single) : Nat := x.bits.toNat / fractions % 256

/-- The fraction bits. -/
def fractionField (x : Single) : Nat := x.bits.toNat % fractions

/-- Is it no number? -/
def isNaN (x : Single) : Bool := x.exponentField == 255 && x.fractionField != 0

/-- Is it one of the infinities? -/
def isInfinite (x : Single) : Bool := x.exponentField == 255 && x.fractionField == 0

/-- Is it one of the zeros? -/
def isZero (x : Single) : Bool := x.exponentField == 0 && x.fractionField == 0

/-- The mantissa `m` and the exponent `e` of a finite number, whose magnitude is `m * 2 ^ e / 2 ^ 149`. -/
def magnitude (x : Single) : Nat × Nat :=
  if x.exponentField = 0 then (x.fractionField, 0)
  else (x.fractionField + fractions, x.exponentField - 1)

/-- A number is read back from its bytes. -/
theorem ofBytes_bytes (x : Single) : ofBytes x.bytes = x := by
  have hx : x.bits.toNat < LittleEndian.size 4 := x.bits.toNat_lt
  simp only [ofBytes, bytes, LittleEndian.decode_encode_of_lt hx, UInt32.ofNat_toNat]

/-- Four bytes are those of the number that they spell. -/
theorem bytes_ofBytes {bs : List UInt8} (h : bs.length = 4) : (ofBytes bs).bytes = bs := by
  have hlt := LittleEndian.decode_lt bs
  rw [h] at hlt
  rw [ofBytes, bytes, UInt32.toNat_ofNat_of_lt' hlt, ← h]
  exact LittleEndian.encode_decode bs

end Single

end BrickControl
