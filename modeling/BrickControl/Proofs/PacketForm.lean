import BrickControl.Command.Reader
import BrickControl.Proofs.Framing
import BrickControl.Proofs.ReplyFormat

/-!
# The form of a command packet

A packet says its length, its counter, its message type and its allocation before the body. The length field has
two bytes, so it tells the length of the packet while the body has at most `Command.maxBody` bytes; up to there a
packet is a frame of its own, is read back field by field, and is no reply.

* `Command.exists_header`: the bytes of a packet, and the numbers that its fields spell;
* `Command.isFrame_bytes`: its length field counts what follows it;
* `Command.read?_bytes`: every field is read back;
* `Command.parse_bytes`: read as a reply, it is refused for its own message type;
* `Command.length_field_tells_iff`: with a longer body the field says less than there is, and whoever reads by it
  takes the front of the packet for all of it.
-/

namespace BrickControl.Command

/-- The longest body that a length field of two bytes can count, with five bytes of header before it. -/
def maxBody : Nat := 65530

/-- No piece of a body takes more than five bytes. -/
theorem length_body_le (c : Command) : c.body.length ≤ 5 * c.codes.length := by
  have hpiece : ∀ code : Code, code.bytes.length ≤ 5 := by
    rintro (code | code | operand)
    · exact Nat.le_of_ble_eq_true rfl
    · exact Nat.le_of_ble_eq_true rfl
    · cases operand <;> exact Nat.le_of_ble_eq_true rfl
  unfold body
  induction c.codes with
  | nil => exact Nat.le_refl 0
  | cons code codes ih =>
    have hcode := hpiece code
    rw [List.flatMap_cons, List.length_append, List.length_cons]
    omega

/-- The fields of a packet, whatever its length. -/
theorem exists_header (c : Command) :
    ∃ l₀ l₁ c₀ c₁ a₀ a₁,
      c.bytes = l₀ :: l₁ :: c₀ :: c₁ :: c.typeByte :: a₀ :: a₁ :: c.body ∧
      LittleEndian.decode [l₀, l₁] = (c.body.length + 5) % 65536 ∧
      LittleEndian.decode [c₀, c₁] = c.counter.toNat ∧
      LittleEndian.decode [a₀, a₁] = c.allocation.toNat := by
  obtain ⟨l₀, l₁, hlength, hdeclared⟩ := Reply.exists_encode_two (c.body.length + 5)
  obtain ⟨c₀, c₁, hcounter, hcount⟩ := Reply.exists_encode_two c.counter.toNat
  obtain ⟨a₀, a₁, hallocation, hallocated⟩ := Reply.exists_encode_two c.allocation.toNat
  refine ⟨l₀, l₁, c₀, c₁, a₀, a₁, ?_, hdeclared, ?_, ?_⟩
  · rw [bytes, hlength, hcounter, hallocation]
    rfl
  · rw [hcount, Nat.mod_eq_of_lt c.counter.toNat_lt]
  · rw [hallocated, Nat.mod_eq_of_lt c.allocation.toNat_lt]

theorem declared_of_le {c : Command} (h : c.body.length ≤ maxBody) :
    (c.body.length + 5) % 65536 = c.body.length + 5 := by
  unfold maxBody at h
  exact Nat.mod_eq_of_lt (by omega)

/-- Ten bits of the allocation are for global variables, and none for local ones. -/
theorem toNat_allocation (c : Command) :
    c.allocation.toNat = (c.globals.getD 0).toNat % 1024 := by
  rw [allocation, UInt16.toNat_and]
  exact Nat.and_two_pow_sub_one_eq_mod _ 10

theorem isFrame_bytes {c : Command} (h : c.body.length ≤ maxBody) : IsFrame c.bytes := by
  obtain ⟨l₀, l₁, c₀, c₁, a₀, a₁, hbytes, hdeclared, -⟩ := c.exists_header
  rw [declared_of_le h] at hdeclared
  rw [hbytes]
  refine ⟨?_, ?_⟩
  · simp only [List.length_cons, Bytecode.lengthBytes]
    omega
  · show _ = 2 + LittleEndian.decode [l₀, l₁]
    rw [hdeclared]
    simp only [List.length_cons]
    omega

/-- **A packet is read back**: its counter, its type, the low ten bits of its globals, and its body. -/
theorem read?_bytes {c : Command} (h : c.body.length ≤ maxBody) :
    Packet.read? c.bytes = some {
      counter := c.counter
      typeByte := c.typeByte
      globals := (c.globals.getD 0).toNat % 1024
      locals := 0
      body := c.body } := by
  obtain ⟨l₀, l₁, c₀, c₁, a₀, a₁, hbytes, hdeclared, hcounter, hallocation⟩ := c.exists_header
  rw [declared_of_le h] at hdeclared
  rw [toNat_allocation] at hallocation
  have hbound : (c.globals.getD 0).toNat % 1024 < 1024 := Nat.mod_lt _ (by decide)
  rw [hbytes, Packet.read?, if_pos hdeclared, hcounter, hallocation, Nat.mod_mod,
    Nat.div_eq_of_lt hbound, UInt16.ofNat_toNat]

/-- **A packet is no reply**: its length is right, and no reply has its message type. -/
theorem parse_bytes {c : Command} (h : c.body.length ≤ maxBody) :
    Reply.parse c.bytes = .error (.unknownReplyType c.typeByte) := by
  obtain ⟨l₀, l₁, c₀, c₁, a₀, a₁, hbytes, hdeclared, -⟩ := c.exists_header
  rw [declared_of_le h] at hdeclared
  have hkind : c.typeByte ≠ 0x02 ∧ c.typeByte ≠ 0x04 := by
    unfold typeByte
    split
    · decide
    · decide
  have hroom : 5 ≤ c.bytes.length := by
    rw [bytes_length]
    omega
  rw [hbytes] at hroom ⊢
  exact Reply.parse_eq_error_iff.2 (.unknown hroom hdeclared rfl hkind.1 hkind.2)

/-! ### Bodies of any length -/

theorem declared_bytes (c : Command) :
    LittleEndian.decode (c.bytes.take Bytecode.lengthBytes) = (c.body.length + 5) % 65536 := by
  obtain ⟨l₀, l₁, c₀, c₁, a₀, a₁, hbytes, hdeclared, -⟩ := c.exists_header
  rw [hbytes]
  exact hdeclared

theorem length_following (c : Command) :
    (c.bytes.drop Bytecode.lengthBytes).length = c.body.length + 5 := by
  rw [List.length_drop, bytes_length]
  rfl

theorem length_body_of_forall {c : Command} {size : Nat}
    (h : ∀ code ∈ c.codes, code.bytes.length = size) : c.body.length = c.codes.length * size := by
  unfold body
  generalize c.codes = codes at h ⊢
  induction codes with
  | nil => rw [List.flatMap_nil, List.length_nil, List.length_nil, Nat.zero_mul]
  | cons code codes ih =>
    have hlater := ih fun other hmem => h other (List.mem_cons_of_mem code hmem)
    rw [List.flatMap_cons, List.length_append, List.length_cons, h code List.mem_cons_self,
      hlater, Nat.succ_mul, Nat.add_comm]

/-- By its length field a packet is cut after the bytes that the field says, never too late. -/
theorem cutFrame?_bytes (c : Command) :
    let size := Bytecode.lengthBytes + LittleEndian.decode (c.bytes.take Bytecode.lengthBytes)
    cutFrame? c.bytes = some (c.bytes.take size, c.bytes.drop size) := by
  intro size
  have hsize : size = 2 + (c.body.length + 5) % 65536 := congrArg (2 + ·) c.declared_bytes
  have hless := Nat.mod_le (c.body.length + 5) 65536
  have hlength := c.bytes_length
  refine if_pos ⟨?_, ?_⟩
  · show 2 ≤ c.bytes.length
    omega
  · show size ≤ c.bytes.length
    omega

/-- **The length field tells the length exactly while the body fits.** For any counter, any globals and any pieces in
any number, the field says how many bytes follow it, modulo 65536. That is their number exactly if the body has at
most `maxBody` bytes, as it has with 13106 pieces or fewer; and exactly then nothing is left of the packet behind the
frame that is cut off by the field. -/
theorem length_field_tells_iff (c : Command) :
    let declared := LittleEndian.decode (c.bytes.take Bytecode.lengthBytes)
    let following := (c.bytes.drop Bytecode.lengthBytes).length
    declared = following % 65536 ∧
    (declared = following ↔ c.body.length ≤ maxBody) ∧
    (c.codes.length ≤ 13106 → declared = following) ∧
    ∃ left, cutFrame? c.bytes = some (c.bytes.take (Bytecode.lengthBytes + declared), left) ∧
      (left = [] ↔ c.body.length ≤ maxBody) := by
  intro declared following
  have hdeclared : declared = (c.body.length + 5) % 65536 := c.declared_bytes
  have hfollowing : following = c.body.length + 5 := c.length_following
  have hlength := c.bytes_length
  have hpieces := c.length_body_le
  have hmax : maxBody = 65530 := rfl
  have htells : declared = following ↔ c.body.length ≤ maxBody := by
    omega
  refine ⟨by rw [hdeclared, hfollowing], htells, ?_, _, c.cutFrame?_bytes, ?_⟩
  · intro hfew
    exact htells.2 (by omega)
  · show c.bytes.drop (2 + declared) = [] ↔ _
    rw [List.drop_eq_nil_iff, ← htells]
    omega

/-- The longest body that fits, of pieces of five bytes: the field says 65535, and that many bytes follow. -/
theorem length_field_tells_longest :
    let c : Command := ⟨0, some 4, List.replicate 13106 (.param (.lc4 70000))⟩
    c.codes.length ≤ 13106 ∧ (c.bytes.drop Bytecode.lengthBytes).length = 65535 ∧
      LittleEndian.decode (c.bytes.take Bytecode.lengthBytes) = 65535 := by
  intro c
  have hcount : c.codes.length = 13106 := List.length_replicate
  have hbody : c.body.length = c.codes.length * 5 := by
    refine length_body_of_forall ?_
    intro code hmem
    rw [List.eq_of_mem_replicate hmem]
    rfl
  have hfollowing := c.length_following
  obtain ⟨-, -, htells, -⟩ := c.length_field_tells_iff
  have hsays := htells (Nat.le_of_eq hcount)
  omega

/-- A body of one byte too many: the field says that nothing follows, and 65536 bytes do. -/
theorem length_field_says_nothing_follows :
    let c : Command := ⟨65531, none, List.replicate 65531 (.sub 0xA5)⟩
    LittleEndian.decode (c.bytes.take Bytecode.lengthBytes) = 0 ∧
      (c.bytes.drop Bytecode.lengthBytes).length = 65536 := by
  intro c
  have hcount : c.codes.length = 65531 := List.length_replicate
  have hbody : c.body.length = c.codes.length * 1 := by
    refine length_body_of_forall ?_
    intro code hmem
    rw [List.eq_of_mem_replicate hmem]
    rfl
  have hdeclared := c.declared_bytes
  have hfollowing := c.length_following
  omega

end BrickControl.Command
