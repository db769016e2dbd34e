import BrickControl.Proofs.ReplyFormat

/-!
# Numbers in a payload

A payload has no structure of its own: a number is read from any offset, as long as four bytes stand there. Where a
payload is a row of numbers, all of them are found, each at four times its index, with the very bits that were put
there.

* `Reply.single_eq_ok_iff` and `Reply.single_of_short`: what is read at an offset, and where nothing can be read;
* `Reply.drop_flatMap_bytes`: behind the first numbers of a row begins the row of the others;
* `Reply.single_flatMap_bytes`: the numbers of a row are read by their index, and nothing else is;
* `Reply.slots_read_exactly`: the same for whole frames, with every offset of every payload.
-/

namespace BrickControl

namespace Single

theorem bytes_length (x : Single) : x.bytes.length = 4 := LittleEndian.encode_length 4 x.bits.toNat

/-- Four bytes spell one number only. -/
theorem eq_ofBytes_iff {x : Single} {bs : List UInt8} (h : bs.length = 4) :
    x = ofBytes bs ↔ x.bytes = bs := by
  constructor
  · rintro rfl
    exact bytes_ofBytes h
  · rintro rfl
    exact (ofBytes_bytes x).symm

end Single

namespace Reply

/-! ### One number -/

theorem single_of_short {reply : Reply} {offset : Nat} (h : ¬ offset + 4 ≤ reply.payload.length) :
    reply.single offset = .error (.shortReply reply.payload.length) := by
  rw [single, if_neg h]

/-- **A number is read exactly where four bytes stand**, and they are its bytes. -/
theorem single_eq_ok_iff {reply : Reply} {offset : Nat} {x : Single} :
    reply.single offset = .ok x ↔
      offset + 4 ≤ reply.payload.length ∧ x.bytes = (reply.payload.drop offset).take 4 := by
  by_cases hroom : offset + 4 ≤ reply.payload.length
  · have hfour : ((reply.payload.drop offset).take 4).length = 4 := by
      rw [List.length_take, List.length_drop]
      omega
    rw [single, if_pos hroom, Except.ok.injEq, eq_comm, Single.eq_ofBytes_iff hfour]
    exact (and_iff_right hroom).symm
  · rw [single_of_short hroom]
    exact iff_of_false (by simp) fun h => hroom h.1

/-! ### Rows of numbers -/

theorem length_flatMap_bytes (xs : List Single) :
    (xs.flatMap Single.bytes).length = 4 * xs.length := by
  induction xs with
  | nil => rfl
  | cons x xs ih =>
    rw [List.flatMap_cons, List.length_append, x.bytes_length, ih, List.length_cons]
    omega

/-- Behind the first numbers of a row begins the row of the others. -/
theorem drop_flatMap_bytes (xs : List Single) :
    ∀ i, (xs.flatMap Single.bytes).drop (4 * i) = (xs.drop i).flatMap Single.bytes := by
  induction xs with
  | nil =>
    intro i
    rw [List.flatMap_nil, List.drop_nil, List.drop_nil, List.flatMap_nil]
  | cons x xs ih =>
    intro i
    cases i with
    | zero => rfl
    | succ i =>
      have hskip : 4 * (i + 1) = x.bytes.length + 4 * i := by
        rw [x.bytes_length]
        omega
      rw [List.flatMap_cons, hskip, List.drop_length_add_append, ih i, List.drop_succ_cons]

/-- **The numbers of a row are read by their index**, and at such offsets nothing else is. -/
theorem single_flatMap_bytes {reply : Reply} {xs : List Single}
    (h : reply.payload = xs.flatMap Single.bytes) (i : Nat) (x : Single) :
    reply.single (4 * i) = .ok x ↔ xs[i]? = some x := by
  have hlength := length_flatMap_bytes xs
  rw [single_eq_ok_iff, h, drop_flatMap_bytes, hlength]
  constructor
  · rintro ⟨hroom, hbytes⟩
    have hi : i < xs.length := by omega
    rw [List.drop_eq_getElem_cons hi, List.flatMap_cons,
      List.take_left' (xs[i].bytes_length)] at hbytes
    rw [List.getElem?_eq_getElem hi, ← Single.ofBytes_bytes xs[i], ← hbytes, Single.ofBytes_bytes]
  · intro hx
    obtain ⟨hi, rfl⟩ := List.getElem?_eq_some_iff.1 hx
    refine ⟨by omega, ?_⟩
    rw [List.drop_eq_getElem_cons hi, List.flatMap_cons, List.take_left' (xs[i].bytes_length)]

/-- The most numbers that a frame has room for. -/
def maxSlots : Nat := 16383

/-- **The slots of a reply are read exactly.** The frame of any row of at most 16383 numbers is read as a reply, with
any counter and any status, and its slots are the numbers bit by bit, NaNs and signed zeros like all others; behind
the last one there is none. At any offset of any payload a number is read exactly if four bytes stand there; these are
its bytes, and where there are fewer the length of the payload is reported. -/
theorem slots_read_exactly :
    (∀ (counter : UInt16) (status : ReplyStatus) (patterns : List UInt32),
      patterns.length ≤ maxSlots →
        let reply : Reply :=
          ⟨counter, status, patterns.flatMap fun bits => LittleEndian.encode 4 bits.toNat⟩
        parse reply.encode = .ok reply ∧
          ∀ i bits, reply.single (4 * i) = .ok ⟨bits⟩ ↔ patterns[i]? = some bits) ∧
    ∀ (reply : Reply) (offset : Nat),
      (offset + 4 ≤ reply.payload.length → ∃ x, reply.single offset = .ok x ∧
        ∀ k < 4, (LittleEndian.encode 4 x.bits.toNat)[k]? = reply.payload[offset + k]?) ∧
      (¬ offset + 4 ≤ reply.payload.length →
        reply.single offset = .error (.shortReply reply.payload.length)) := by
  refine ⟨?_, ?_⟩
  · intro counter status patterns hfew reply
    have hrow : reply.payload = (patterns.map Single.mk).flatMap Single.bytes := by
      rw [List.flatMap_map]
      rfl
    have hfits : reply.payload.length ≤ maxPayload := by
      unfold maxSlots at hfew
      rw [hrow, length_flatMap_bytes, List.length_map, maxPayload]
      omega
    refine ⟨parse_encode hfits, ?_⟩
    intro i bits
    rw [single_flatMap_bytes hrow, List.getElem?_map, Option.map_eq_some_iff]
    constructor
    · rintro ⟨bits', hbits, hsame⟩
      rw [hbits, Single.mk.inj hsame]
    · intro hbits
      exact ⟨bits, hbits, rfl⟩
  · intro reply offset
    refine ⟨?_, single_of_short⟩
    intro hroom
    have hread : reply.single offset = .ok _ := if_pos hroom
    refine ⟨_, hread, ?_⟩
    intro k hk
    have hbytes := (single_eq_ok_iff.1 hread).2
    rw [Single.bytes] at hbytes
    rw [hbytes, List.getElem?_take_of_lt hk, List.getElem?_drop]

/-- A signalling NaN and a negative zero behind it, in a refusal. -/
theorem slots_read_exactly_of_nan :
    let patterns : List UInt32 := [0x7F800001, 0x80000000]
    let reply : Reply := ⟨7, .error, [1, 0, 128, 127, 0, 0, 0, 128]⟩
    patterns.length ≤ maxSlots ∧
      parse [11, 0, 7, 0, 4, 1, 0, 128, 127, 0, 0, 0, 128] = .ok reply ∧
      reply.single 0 = .ok ⟨0x7F800001⟩ ∧ reply.single 4 = .ok ⟨0x80000000⟩ ∧
      reply.single 5 = .error (.shortReply 8) := by
  intro patterns reply
  have hfew : patterns.length ≤ maxSlots := by decide
  obtain ⟨hframes, hoffsets⟩ := slots_read_exactly
  have hframe : reply.encode = [11, 0, 7, 0, 4, 1, 0, 128, 127, 0, 0, 0, 128] := by decide
  obtain ⟨hparse, hslots⟩ := hframes 7 .error patterns hfew
  exact ⟨hfew, hframe ▸ hparse, (hslots 0 _).2 rfl, (hslots 1 _).2 rfl,
    (hoffsets reply 5).2 (by decide)⟩

end Reply

end BrickControl
