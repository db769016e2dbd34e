import BrickControl.Param.Reader
import BrickControl.Request.Reader

/-!
# The form of a parameter

The first byte of a parameter tells its form, and with it how many bytes follow; so parameters written one behind the
other are read back one by one. The two forms of a single byte keep six bits of a constant, or five of an index, and
what needs more loses the others.

* `Param.Fits`: the form of a parameter has room for its operand;
* `Param.read?_append` and `Param.readMany?_append`: parameters that fit are read back in front of anything;
* `Param.constant_keeps`: the form chosen for a constant has room for it, and keeps its value.
-/

namespace BrickControl.Param

/-! ### Six bits -/

theorem toInt_eq_bmod (v : Int8) : v.toInt = (v.toUInt8.toNat : Int).bmod 256 :=
  BitVec.toInt_eq_toNat_bmod v.toBitVec

theorem toNat_sixBits (b : UInt8) : (b &&& 0x3F).toNat = b.toNat % 64 := by
  rw [UInt8.toNat_and]
  exact Nat.and_two_pow_sub_one_eq_mod _ 6

/-- Six bits of a number, read as a number with a sign. -/
theorem toInt_signedSix (v : Int8) : (signedSix (v.toUInt8 &&& 0x3F)).toInt = v.toInt.bmod 64 := by
  have hsix : ((v.toUInt8 &&& 0x3F).toNat : Int).bmod 64 = v.toInt.bmod 64 := by
    rw [toNat_sixBits, toInt_eq_bmod, Int.bmod_bmod_of_dvd (by decide), Int.natCast_emod]
    exact Int.emod_bmod _ 64
  have hlow : -32 ≤ v.toInt.bmod 64 := Int.le_bmod (by decide)
  have hhigh : v.toInt.bmod 64 < 32 := Int.bmod_lt (by decide)
  rw [signedSix, Int8.toInt_ofInt, hsix]
  exact Int.bmod_eq_of_le (Int.le_trans (by decide) hlow) (Int.lt_trans hhigh (by decide))

/-! ### Parameters that fit -/

/-- The form of a parameter has room for its operand. -/
def Fits : Param → Prop
  | .lc0 value => -32 ≤ value.toInt ∧ value.toInt ≤ 31
  | .gv0 index => index.toNat < 32
  | _ => True

instance : DecidablePred Fits
  | .lc0 value => inferInstanceAs (Decidable (-32 ≤ value.toInt ∧ value.toInt ≤ 31))
  | .lc1 _ => inferInstanceAs (Decidable True)
  | .lc2 _ => inferInstanceAs (Decidable True)
  | .lc4 _ => inferInstanceAs (Decidable True)
  | .gv0 index => inferInstanceAs (Decidable (index.toNat < 32))

theorem signedSix_of_fits {v : Int8} (h : (lc0 v).Fits) : signedSix (v.toUInt8 &&& 0x3F) = v := by
  obtain ⟨hlow, hhigh⟩ := h
  apply Int8.toInt_inj.1
  rw [toInt_signedSix]
  exact Int.bmod_eq_of_le (by omega) (by omega)

/-! ### Reading by the first byte -/

theorem read?_of_short {tag : UInt8} (h : tag < 0x40) (rest : List UInt8) :
    read? (tag :: rest) = some (.lc0 (signedSix tag), rest) := if_pos h

theorem read?_of_global {tag : UInt8} (hlong : ¬ tag < 0x40)
    (h : tag &&& 0xE0 = Bytecode.tagGlobal) (rest : List UInt8) :
    read? (tag :: rest) = some (.gv0 (tag &&& 0x1F), rest) :=
  (if_neg hlong).trans (if_pos h)

theorem read?_byte (a : UInt8) (rest : List UInt8) :
    read? (Bytecode.tagByte :: a :: rest) = some (.lc1 a.toInt8, rest) := rfl

theorem read?_word (a b : UInt8) (rest : List UInt8) :
    read? (Bytecode.tagWord :: a :: b :: rest) =
      some (.lc2 (UInt16.ofNat (LittleEndian.decode [a, b])).toInt16, rest) := rfl

theorem read?_long (a b c d : UInt8) (rest : List UInt8) :
    read? (Bytecode.tagLong :: a :: b :: c :: d :: rest) =
      some (.lc4 (UInt32.ofNat (LittleEndian.decode [a, b, c, d])).toInt32, rest) := rfl

theorem sixBits_lt (b : UInt8) : b &&& 0x3F < 0x40 := by
  rw [UInt8.lt_iff_toNat_lt, UInt8.toNat_and]
  exact Nat.lt_of_le_of_lt Nat.and_le_right (by decide)

/-- The tag of a global variable leaves five bits to its index. -/
theorem global_tag {index : UInt8} (h : index.toNat < 32) :
    let tag := Bytecode.tagGlobal ||| (index &&& 0x1F)
    ¬ tag < 0x40 ∧ tag &&& 0xE0 = Bytecode.tagGlobal ∧ tag &&& 0x1F = index := by
  have hall : ∀ n : Fin 32, let tag := Bytecode.tagGlobal ||| (UInt8.ofNat n &&& 0x1F)
      ¬ tag < 0x40 ∧ tag &&& 0xE0 = Bytecode.tagGlobal ∧ tag &&& 0x1F = UInt8.ofNat n := by
    decide
  simpa only [UInt8.ofNat_toNat] using hall ⟨index.toNat, h⟩

/-- **A parameter that fits is read back**, whatever follows it. -/
theorem read?_append {p : Param} (h : p.Fits) (rest : List UInt8) :
    read? (p.encode ++ rest) = some (p, rest) := by
  cases p with
  | lc0 v =>
    show read? ((v.toUInt8 &&& 0x3F) :: rest) = _
    rw [read?_of_short (sixBits_lt _), signedSix_of_fits h]
  | lc1 v =>
    show read? (Bytecode.tagByte :: v.toUInt8 :: rest) = _
    rw [read?_byte, Int8.toInt8_toUInt8]
  | lc2 v =>
    have hword : LittleEndian.decode (LittleEndian.encode 2 v.toUInt16.toNat) = v.toUInt16.toNat :=
      LittleEndian.decode_encode_of_lt v.toUInt16.toNat_lt
    show read? (Bytecode.tagWord :: (LittleEndian.encode 2 v.toUInt16.toNat ++ rest)) = _
    refine (read?_word _ _ rest).trans ?_
    show some (lc2 (UInt16.ofNat
      (LittleEndian.decode (LittleEndian.encode 2 v.toUInt16.toNat))).toInt16, rest) = _
    rw [hword, UInt16.ofNat_toNat, Int16.toInt16_toUInt16]
  | lc4 v =>
    have hlong : LittleEndian.decode (LittleEndian.encode 4 v.toUInt32.toNat) = v.toUInt32.toNat :=
      LittleEndian.decode_encode_of_lt v.toUInt32.toNat_lt
    show read? (Bytecode.tagLong :: (LittleEndian.encode 4 v.toUInt32.toNat ++ rest)) = _
    refine (read?_long _ _ _ _ rest).trans ?_
    show some (lc4 (UInt32.ofNat
      (LittleEndian.decode (LittleEndian.encode 4 v.toUInt32.toNat))).toInt32, rest) = _
    rw [hlong, UInt32.ofNat_toNat, Int32.toInt32_toUInt32]
  | gv0 index =>
    obtain ⟨hlong, htag, hindex⟩ := global_tag h
    show read? ((Bytecode.tagGlobal ||| (index &&& 0x1F)) :: rest) = _
    rw [read?_of_global hlong htag, hindex]

/-- **Parameters in a row are read back one by one.** -/
theorem readMany?_append {ps : List Param} (h : ∀ p ∈ ps, p.Fits) (rest : List UInt8) :
    readMany? ps.length (ps.flatMap encode ++ rest) = some (ps, rest) := by
  induction ps with
  | nil => rfl
  | cons p ps ih =>
    have hlater := ih fun q hq => h q (List.mem_cons_of_mem p hq)
    rw [List.flatMap_cons, List.append_assoc, List.length_cons, readMany?,
      read?_append (h p List.mem_cons_self)]
    simp only [hlater]

/-! ### Constants -/

theorem toInt_toInt8 {v : Int32} (h : -128 ≤ v.toInt ∧ v.toInt ≤ 127) :
    v.toInt8.toInt = v.toInt := by
  rw [Int32.toInt_toInt8]
  exact Int.bmod_eq_of_le (by omega) (by omega)

theorem toInt_toInt16 {v : Int32} (h : -32768 ≤ v.toInt ∧ v.toInt ≤ 32767) :
    v.toInt16.toInt = v.toInt := by
  rw [Int32.toInt_toInt16]
  exact Int.bmod_eq_of_le (by omega) (by omega)

/-- **The form of a constant has room for it**, and keeps its value. -/
theorem constant_keeps (v : Int32) : (constant v).Fits ∧ (constant v).value? = some v.toInt := by
  unfold constant
  split
  · rename_i hshort
    have hrange : -31 ≤ v.toInt ∧ v.toInt ≤ 31 :=
      hshort.imp Int32.le_iff_toInt_le.1 Int32.le_iff_toInt_le.1
    have hvalue := toInt_toInt8 (v := v) (by omega)
    refine ⟨?_, congrArg some hvalue⟩
    show -32 ≤ v.toInt8.toInt ∧ v.toInt8.toInt ≤ 31
    omega
  · split
    · rename_i hbyte
      have hrange : -128 ≤ v.toInt ∧ v.toInt ≤ 127 :=
        hbyte.imp Int32.le_iff_toInt_le.1 Int32.le_iff_toInt_le.1
      exact ⟨trivial, congrArg some (toInt_toInt8 hrange)⟩
    · split
      · rename_i hword
        have hrange : -32768 ≤ v.toInt ∧ v.toInt ≤ 32767 :=
          hword.imp Int32.le_iff_toInt_le.1 Int32.le_iff_toInt_le.1
        exact ⟨trivial, congrArg some (toInt_toInt16 hrange)⟩
      · exact ⟨trivial, rfl⟩

end BrickControl.Param
