import BrickControl.Reply

/-!
# The form of a reply frame

A frame that carries a reply says its length, the counter it answers, whether the command was accepted, and its
payload. The length field has two bytes, so a payload that fits has at most `Reply.maxPayload` bytes.

* `Reply.parse_encode`: a reply that fits is read back from its frame;
* `Reply.of_parse_ok`: what is read is a reply that fits, and the frame is the one written for it;
* `Reply.Refuses` says in which order the reasons to refuse a frame come;
* `Reply.fault_of_parse`: what a frame can be refused for;
* `Reply.parse_exact`: exactly the written frames are read, and every other one is refused for the first reason that
  applies;
* `Reply.isLate_iff`: lateness in terms of the distance between two counters.
-/

namespace BrickControl

theorem ReplyStatus.ofTypeByte?_typeByte (status : ReplyStatus) :
    ofTypeByte? status.typeByte = some status := by
  cases status <;> rfl

theorem ReplyStatus.typeByte_of_ofTypeByte? {kind : UInt8} {status : ReplyStatus}
    (h : ofTypeByte? kind = some status) : status.typeByte = kind := by
  unfold ofTypeByte? at h
  split at h
  · rename_i hkind
    obtain rfl := Option.some.inj h
    exact hkind.symm
  · split at h
    · rename_i hkind
      obtain rfl := Option.some.inj h
      exact hkind.symm
    · exact absurd h (by simp)

theorem ReplyStatus.ofTypeByte?_eq_none_iff {kind : UInt8} :
    ofTypeByte? kind = none ↔ kind ≠ 0x02 ∧ kind ≠ 0x04 := by
  unfold ofTypeByte?
  by_cases hok : kind = Bytecode.replyOk
  · rw [if_pos hok]
    exact iff_of_false (by simp) fun h => h.1 hok
  · by_cases herror : kind = Bytecode.replyError
    · rw [if_neg hok, if_pos herror]
      exact iff_of_false (by simp) fun h => h.2 herror
    · rw [if_neg hok, if_neg herror]
      exact iff_of_true rfl ⟨hok, herror⟩

namespace Reply

/-- The longest payload that a length field of two bytes can count, with three bytes of header before it. -/
def maxPayload : Nat := 65532

theorem exists_encode_two (n : Nat) :
    ∃ low high, LittleEndian.encode 2 n = [low, high] ∧
      LittleEndian.decode [low, high] = n % 65536 := by
  refine ⟨_, _, rfl, ?_⟩
  exact LittleEndian.decode_encode 2 n

/-- **A reply that fits its frame is read back from it.** -/
theorem parse_encode {reply : Reply} (h : reply.payload.length ≤ maxPayload) :
    parse reply.encode = .ok reply := by
  unfold maxPayload at h
  obtain ⟨l₀, l₁, hlength, hdeclared⟩ := exists_encode_two (reply.payload.length + 3)
  obtain ⟨c₀, c₁, hcounter, hcount⟩ := exists_encode_two reply.counter.toNat
  have hread : LittleEndian.decode [l₀, l₁] = reply.payload.length + 3 := by
    rw [hdeclared, Nat.mod_eq_of_lt (by omega)]
  have hnumber : UInt16.ofNat (LittleEndian.decode [c₀, c₁]) = reply.counter := by
    rw [hcount, Nat.mod_eq_of_lt reply.counter.toNat_lt, UInt16.ofNat_toNat]
  rw [encode, hlength, hcounter]
  simp only [List.cons_append, List.nil_append, parse]
  rw [if_pos hread, ReplyStatus.ofTypeByte?_typeByte, hnumber]

/-- **What is read was written for a reply that fits.** -/
theorem of_parse_ok {frame : List UInt8} {reply : Reply} (h : parse frame = .ok reply) :
    reply.payload.length ≤ maxPayload ∧ frame = reply.encode := by
  unfold parse at h
  split at h
  · rename_i l₀ l₁ c₀ c₁ kind payload
    simp only at h
    split at h
    · rename_i hdeclared
      split at h
      · rename_i status hstatus
        obtain rfl := Except.ok.inj h
        -- the fields are the bytes of the numbers that they spell
        have hlength : LittleEndian.encode 2 (payload.length + 3) = [l₀, l₁] := by
          rw [← hdeclared]
          exact LittleEndian.encode_decode [l₀, l₁]
        have hfits : LittleEndian.decode [c₀, c₁] < 65536 := LittleEndian.decode_lt [c₀, c₁]
        have hcounter : LittleEndian.encode 2
            (UInt16.ofNat (LittleEndian.decode [c₀, c₁])).toNat = [c₀, c₁] := by
          rw [UInt16.toNat_ofNat_of_lt' hfits]
          exact LittleEndian.encode_decode [c₀, c₁]
        have hbound : LittleEndian.decode [l₀, l₁] < 65536 := LittleEndian.decode_lt [l₀, l₁]
        refine ⟨?_, ?_⟩
        · show payload.length ≤ 65532
          omega
        · show _ = LittleEndian.encode 2 (payload.length + 3) ++ LittleEndian.encode 2 _ ++
            status.typeByte :: payload
          rw [hlength, hcounter, ReplyStatus.typeByte_of_ofTypeByte? hstatus]
          rfl
      · exact absurd h (by simp)
    · exact absurd h (by simp)
  · exact absurd h (by simp)

/-- Why a frame is refused: it has no room for a header, or else its length field does not count the bytes behind
it, or else no reply has its message type. -/
inductive Refuses (frame : List UInt8) : Fault → Prop where
  | short (h : frame.length < 5) : Refuses frame (.shortReply frame.length)
  | miscounted (h : 5 ≤ frame.length)
      (hlength : LittleEndian.decode (frame.take 2) ≠ frame.length - 2) :
      Refuses frame
        (.lengthMismatch (LittleEndian.decode (frame.take 2)) (frame.length - 2))
  | unknown {kind : UInt8} (h : 5 ≤ frame.length)
      (hlength : LittleEndian.decode (frame.take 2) = frame.length - 2)
      (hkind : frame[4]? = some kind) (hok : kind ≠ 0x02) (herror : kind ≠ 0x04) :
      Refuses frame (.unknownReplyType kind)

theorem parse_of_short {frame : List UInt8} (h : frame.length < 5) :
    parse frame = .error (.shortReply frame.length) := by
  unfold parse
  split
  · rename_i l₀ l₁ c₀ c₁ kind payload
    simp only [List.length_cons] at h
    omega
  · rfl

theorem exists_header {frame : List UInt8} (h : 5 ≤ frame.length) :
    ∃ l₀ l₁ c₀ c₁ kind payload, frame = l₀ :: l₁ :: c₀ :: c₁ :: kind :: payload := by
  match frame, h with
  | l₀ :: l₁ :: c₀ :: c₁ :: kind :: payload, _ => exact ⟨l₀, l₁, c₀, c₁, kind, payload, rfl⟩

/-- A frame is refused exactly for the first reason that applies. -/
theorem parse_eq_error_iff {frame : List UInt8} {fault : Fault} :
    parse frame = .error fault ↔ Refuses frame fault := by
  constructor
  · intro h
    rcases Nat.lt_or_ge frame.length 5 with hshort | hroom
    · rw [parse_of_short hshort] at h
      obtain rfl := Except.error.inj h
      exact .short hshort
    · obtain ⟨l₀, l₁, c₀, c₁, kind, payload, rfl⟩ := exists_header hroom
      simp only [parse] at h
      split at h
      · rename_i hdeclared
        split at h
        · exact absurd h (by simp)
        · rename_i hstatus
          obtain rfl := Except.error.inj h
          obtain ⟨hok, herror⟩ := ReplyStatus.ofTypeByte?_eq_none_iff.1 hstatus
          exact .unknown hroom hdeclared rfl hok herror
      · rename_i hdeclared
        obtain rfl := Except.error.inj h
        exact .miscounted hroom hdeclared
  · intro h
    cases h with
    | short hshort => exact parse_of_short hshort
    | miscounted hroom hlength =>
      obtain ⟨l₀, l₁, c₀, c₁, kind, payload, rfl⟩ := exists_header hroom
      simp only [parse]
      exact if_neg hlength
    | unknown hroom hlength hkind hok herror =>
      obtain ⟨l₀, l₁, c₀, c₁, kind, payload, rfl⟩ := exists_header hroom
      obtain rfl := Option.some.inj hkind
      simp only [parse]
      rw [if_pos (show LittleEndian.decode [l₀, l₁] = payload.length + 3 from hlength),
        ReplyStatus.ofTypeByte?_eq_none_iff.2 ⟨hok, herror⟩]

/-- **Frames and replies correspond exactly.** A frame is read as a reply exactly if it is the one written for that
reply, with a payload that fits; every other frame is refused for the first reason that applies, and one that is
longer than any length field can say for its length. -/
theorem parse_exact (frame : List UInt8) :
    (∀ reply, parse frame = .ok reply ↔
      reply.payload.length ≤ maxPayload ∧ frame = reply.encode) ∧
    (∀ fault, parse frame = .error fault ↔ Refuses frame fault) ∧
    (65537 < frame.length → parse frame = .error
      (.lengthMismatch (LittleEndian.decode (frame.take 2)) (frame.length - 2))) := by
  refine ⟨fun reply => ⟨of_parse_ok, ?_⟩, fun fault => parse_eq_error_iff, fun hlong => ?_⟩
  · rintro ⟨hfits, rfl⟩
    exact parse_encode hfits
  · have hfield : (frame.take 2).length = 2 := by
      rw [List.length_take]
      omega
    have hdeclared := LittleEndian.decode_lt (frame.take 2)
    rw [hfield, show LittleEndian.size 2 = 65536 from rfl] at hdeclared
    exact parse_eq_error_iff.2 (.miscounted (by omega) (by omega))

/-- A frame of one byte more than a length field can count is refused for its length. -/
theorem parse_exact_too_long :
    parse (2 :: List.replicate 65537 0) = .error (.lengthMismatch 2 65536) := by
  have hlength : (2 :: List.replicate 65537 (0 : UInt8)).length = 65538 := by
    rw [List.length_cons, List.length_replicate]
  obtain ⟨-, -, hlong⟩ := parse_exact (2 :: List.replicate 65537 0)
  rw [hlong (by omega), hlength]
  rfl

/-- A frame is refused for its form only. -/
theorem fault_of_parse {frame : List UInt8} {fault : Fault} (h : parse frame = .error fault) :
    fault = .shortReply frame.length ∨
      (∃ declared actual, fault = .lengthMismatch declared actual) ∨
      ∃ kind, fault = .unknownReplyType kind := by
  cases parse_eq_error_iff.1 h with
  | short _ => exact .inl rfl
  | miscounted _ _ => exact .inr (.inl ⟨_, _, rfl⟩)
  | unknown _ _ _ _ _ => exact .inr (.inr ⟨_, rfl⟩)

/-- A reply is late exactly when its counter lies less than half a circle behind, but not level. -/
theorem isLate_iff {reply : Reply} {counter : UInt16} :
    reply.isLate counter = true ↔
      0 < (counter - reply.counter).toNat ∧ (counter - reply.counter).toNat < 32768 := by
  simp only [isLate, Bool.and_eq_true, bne_iff_ne, ne_eq, decide_eq_true_eq, ← UInt16.toNat_inj,
    UInt16.lt_iff_toNat_lt]
  exact and_congr_left fun _ => Nat.pos_iff_ne_zero.symm

end Reply

end BrickControl
