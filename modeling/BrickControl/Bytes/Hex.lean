/-!
# Hex dumps

Packets are shown as one group of two upper-case digits per byte, the groups parted by single spaces.

* `dump` writes the groups of a list of bytes;
* `read?` reads such a dump and refuses every other text;
* `text` is `dump` as a string.
-/

namespace BrickControl.Hex

/-- The upper-case hexadecimal digit of a number below 16. -/
def digit (n : Nat) : Char :=
  if n < 10 then Char.ofNat (48 + n) else Char.ofNat (55 + n)

/-- The number of an upper-case hexadecimal digit. -/
def digit? (c : Char) : Option Nat :=
  if 48 ≤ c.toNat ∧ c.toNat ≤ 57 then some (c.toNat - 48)
  else if 65 ≤ c.toNat ∧ c.toNat ≤ 70 then some (c.toNat - 55)
  else none

/-- The two digits of a byte. -/
def group (b : UInt8) : List Char := [digit (b.toNat / 16), digit (b.toNat % 16)]

/-- The byte of two digits. -/
def group? (high low : Char) : Option UInt8 :=
  match digit? high, digit? low with
  | some h, some l => some (UInt8.ofNat (16 * h + l))
  | _, _ => none

/-- One group per byte, single spaces between groups and none at the ends. -/
def dump : List UInt8 → List Char
  | [] => []
  | [b] => group b
  | b :: c :: rest => group b ++ ' ' :: dump (c :: rest)

/-- Reads a dump back; a text that is not a dump is refused. -/
def read? : List Char → Option (List UInt8)
  | [] => some []
  | [high, low] => (group? high low).map fun b => [b]
  | high :: low :: space :: next :: rest =>
    if space = ' ' then
      match group? high low, read? (next :: rest) with
      | some b, some bs => some (b :: bs)
      | _, _ => none
    else none
  | _ => none

/-- The hex dump of a list of bytes. -/
def text (bytes : List UInt8) : String := String.ofList (dump bytes)

end BrickControl.Hex
