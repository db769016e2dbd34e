/-!
# Little-endian numbers

Numbers travel least significant byte first, in fields whose width is fixed by the format.

* `encode width n` writes the low `width` bytes of `n`;
* `decode bs` reads the number that the bytes `bs` spell.

A field of a width has `size width` values. `decode_encode` says that a field keeps the number modulo its
size, so a number that fits is read back unchanged, and `encode_decode` that every field of bytes is the
encoding of what it spells.
-/

namespace BrickControl.LittleEndian

/-- The number of values that a field of a width can hold. -/
def size : Nat → Nat
  | 0 => 1
  | width + 1 => 256 * size width

/-- The low `width` bytes of `n`, least significant first. -/
def encode : Nat → Nat → List UInt8
  | 0, _ => []
  | width + 1, n => UInt8.ofNat n :: encode width (n / 256)

/-- The number spelt by bytes that come least significant first. -/
def decode : List UInt8 → Nat
  | [] => 0
  | b :: rest => b.toNat + 256 * decode rest

@[simp] theorem size_zero : size 0 = 1 := rfl

@[simp] theorem size_succ (width : Nat) : size (width + 1) = 256 * size width := rfl

@[simp] theorem encode_zero (n : Nat) : encode 0 n = [] := rfl

@[simp] theorem encode_succ (width n : Nat) :
    encode (width + 1) n = UInt8.ofNat n :: encode width (n / 256) := rfl

@[simp] theorem decode_nil : decode [] = 0 := rfl

@[simp] theorem decode_cons (b : UInt8) (rest : List UInt8) :
    decode (b :: rest) = b.toNat + 256 * decode rest := rfl

/-- A field is as long as its width. -/
@[simp] theorem encode_length (width n : Nat) : (encode width n).length = width := by
  induction width generalizing n with
  | zero => rfl
  | succ width ih => simp only [encode_succ, List.length_cons, ih]

/-- A field of bytes spells a number below its size. -/
theorem decode_lt (bs : List UInt8) : decode bs < size bs.length := by
  induction bs with
  | nil => exact Nat.zero_lt_one
  | cons b rest ih =>
    have hb : b.toNat < 256 := b.toNat_lt
    rw [decode_cons, List.length_cons, size_succ]
    omega

/-- Reading a field gives the number written, modulo the size of the field. -/
theorem decode_encode (width n : Nat) : decode (encode width n) = n % size width := by
  induction width generalizing n with
  | zero => rw [encode_zero, decode_nil, size_zero, Nat.mod_one]
  | succ width ih =>
    have hlow : (UInt8.ofNat n).toNat = n % 256 := UInt8.toNat_ofNat'
    rw [size_succ, Nat.mod_mul, encode_succ, decode_cons, ih, hlow]

/-- A number that fits its field is read back unchanged. -/
theorem decode_encode_of_lt {width n : Nat} (h : n < size width) :
    decode (encode width n) = n := by
  rw [decode_encode, Nat.mod_eq_of_lt h]

/-- Every field is the encoding of the number it spells. -/
theorem encode_decode (bs : List UInt8) : encode bs.length (decode bs) = bs := by
  induction bs with
  | nil => rfl
  | cons b rest ih =>
    have hb : b.toNat < 256 := b.toNat_lt
    have hdiv : (b.toNat + 256 * decode rest) / 256 = decode rest := by omega
    have hlow : UInt8.ofNat (b.toNat + 256 * decode rest) = b := by
      apply UInt8.toNat_inj.1
      rw [UInt8.toNat_ofNat']
      omega
    simp only [List.length_cons, encode_succ, decode_cons, hdiv, hlow, ih]

end BrickControl.LittleEndian
