import BrickControl.Proofs.ParamForm

/-!
# Streams of parameters

The operands of an op code stand one behind the other, with nothing between them and nothing that says how many there
are; the firmware knows their number from the op code. Each of them ends where its first byte says, and bytes that
open with one parameter open with no other, so the whole stream is read in one way only. An operand that is too big
for its form loses its high bits, but never turns into one of another form.

* `Param.kept` is what the bytes of a parameter keep of it, and `Param.Form` the five forms;
* `Param.read?_encode_append`: this is what is read back, whatever follows;
* `Param.encode_append_inj` and `Param.encode_flatMap_eq_iff`: bytes tell what they keep, and where it ends;
* `Param.streams_read_back`: parameters that fit are read back from a stream, and which of the others share their bytes.
-/

namespace BrickControl.Param

/-! ### What the bytes keep -/

/-- What the bytes of a parameter keep of it: six bits of a short constant, five of a global index, and all of the
longer constants. -/
def kept : Param → Param
  | .lc0 value => .lc0 (signedSix (value.toUInt8 &&& 0x3F))
  | .lc1 value => .lc1 value
  | .lc2 value => .lc2 value
  | .lc4 value => .lc4 value
  | .gv0 index => .gv0 (index &&& 0x1F)

/-- The forms of a parameter, which the first byte tells apart. -/
inductive Form where
  | short
  | byte
  | word
  | long
  | global
  deriving DecidableEq, Repr

def form : Param → Form
  | .lc0 _ => .short
  | .lc1 _ => .byte
  | .lc2 _ => .word
  | .lc4 _ => .long
  | .gv0 _ => .global

theorem form_kept (p : Param) : p.kept.form = p.form := by
  cases p <;> rfl

theorem toNat_fiveBits (index : UInt8) : (index &&& 0x1F).toNat = index.toNat % 32 := by
  rw [UInt8.toNat_and]
  exact Nat.and_two_pow_sub_one_eq_mod _ 5

/-- The low six bits of a number with a sign. -/
theorem sixBits_eq_emod (v : Int8) : ((v.toUInt8 &&& 0x3F).toNat : Int) = v.toInt % 64 := by
  have hdvd : (64 : Int) ∣ ((256 : Nat) : Int) := by decide
  rw [toNat_sixBits, Int.natCast_emod, toInt_eq_bmod, ← Int.emod_emod_of_dvd _ hdvd, Int.bmod_emod,
    Int.emod_emod_of_dvd _ hdvd]
  rfl

theorem fits_kept (p : Param) : p.kept.Fits := by
  cases p with
  | lc0 v =>
    show -32 ≤ (signedSix (v.toUInt8 &&& 0x3F)).toInt ∧ (signedSix (v.toUInt8 &&& 0x3F)).toInt ≤ 31
    have hlow : -32 ≤ v.toInt.bmod 64 := Int.le_bmod (by decide)
    have hhigh : v.toInt.bmod 64 < 32 := Int.bmod_lt (by decide)
    rw [toInt_signedSix]
    omega
  | gv0 index =>
    show (index &&& 0x1F).toNat < 32
    rw [toNat_fiveBits]
    exact Nat.mod_lt _ (by decide)
  | _ => trivial

theorem kept_of_fits {p : Param} (h : p.Fits) : p.kept = p := by
  cases p with
  | lc0 v => rw [kept, signedSix_of_fits h]
  | gv0 index =>
    have hindex : index &&& 0x1F = index := by
      rw [← UInt8.toNat_inj, toNat_fiveBits]
      exact Nat.mod_eq_of_lt h
    rw [kept, hindex]
  | _ => rfl

/-- What is kept is written the same. -/
theorem encode_kept (p : Param) : p.kept.encode = p.encode := by
  cases p with
  | lc0 v =>
    have hsame : (signedSix (v.toUInt8 &&& 0x3F)).toUInt8 &&& 0x3F = v.toUInt8 &&& 0x3F := by
      rw [← UInt8.toNat_inj, ← Int.natCast_inj, sixBits_eq_emod, sixBits_eq_emod, toInt_signedSix]
      exact Int.bmod_emod
    exact congrArg (fun b => [b]) hsame
  | gv0 index =>
    show [Bytecode.tagGlobal ||| ((index &&& 0x1F) &&& 0x1F)] = [Bytecode.tagGlobal ||| (index &&& 0x1F)]
    rw [UInt8.and_assoc, UInt8.and_self]
  | _ => rfl

/-! ### One parameter -/

/-- **What the bytes of a parameter keep is read back**, whatever follows them. -/
theorem read?_encode_append (p : Param) (rest : List UInt8) :
    read? (p.encode ++ rest) = some (p.kept, rest) := by
  rw [← p.encode_kept]
  exact read?_append p.fits_kept rest

/-- Bytes that open with two parameters open with the same one twice, as far as they keep it. -/
theorem encode_append_inj {p q : Param} {rest left : List UInt8}
    (h : p.encode ++ rest = q.encode ++ left) : p.kept = q.kept ∧ rest = left := by
  have hread := p.read?_encode_append rest
  rw [h, q.read?_encode_append left, Option.some.injEq, Prod.mk.injEq] at hread
  exact ⟨hread.1.symm, hread.2.symm⟩

theorem encode_eq_iff {p q : Param} : p.encode = q.encode ↔ p.kept = q.kept := by
  constructor
  · intro h
    exact (encode_append_inj (congrArg (· ++ []) h)).1
  · intro h
    rw [← p.encode_kept, h, q.encode_kept]

/-- Short constants are written alike exactly if they agree in six bits. -/
theorem encode_lc0_eq_iff {v w : Int8} :
    (lc0 v).encode = (lc0 w).encode ↔ v.toInt % 64 = w.toInt % 64 := by
  rw [← sixBits_eq_emod, ← sixBits_eq_emod, Int.natCast_inj, UInt8.toNat_inj]
  exact List.singleton_inj

/-- References to global variables are written alike exactly if their indices agree in five bits. -/
theorem encode_gv0_eq_iff {i j : UInt8} :
    (gv0 i).encode = (gv0 j).encode ↔ i.toNat % 32 = j.toNat % 32 := by
  rw [encode_eq_iff, kept, kept, gv0.injEq, ← toNat_fiveBits, ← toNat_fiveBits, UInt8.toNat_inj]

/-! ### Parameters in a row -/

theorem encode_flatMap_kept (ps : List Param) : (ps.map kept).flatMap encode = ps.flatMap encode := by
  rw [List.flatMap_map]
  exact congrArg (fun f => List.flatMap f ps) (funext encode_kept)

/-- **Streams that are the same byte by byte keep the same parameters**, one by one. -/
theorem encode_flatMap_eq_iff {ps qs : List Param} :
    ps.flatMap encode = qs.flatMap encode ↔ ps.map kept = qs.map kept := by
  constructor
  · -- induction on one stream: its first parameter ends where the first one of the other stream ends
    induction ps generalizing qs with
    | nil =>
      intro h
      cases qs with
      | nil => rfl
      | cons q qs =>
        rw [List.flatMap_nil, List.flatMap_cons] at h
        exact absurd (List.append_eq_nil_iff.1 h.symm).1 q.encode_ne_nil
    | cons p ps ih =>
      intro h
      cases qs with
      | nil =>
        rw [List.flatMap_nil, List.flatMap_cons] at h
        exact absurd (List.append_eq_nil_iff.1 h).1 p.encode_ne_nil
      | cons q qs =>
        rw [List.flatMap_cons, List.flatMap_cons] at h
        obtain ⟨hfirst, hlater⟩ := encode_append_inj h
        rw [List.map_cons, List.map_cons, hfirst, ih hlater]
  · intro h
    rw [← encode_flatMap_kept ps, h, encode_flatMap_kept]

theorem map_kept_of_fits {ps : List Param} (h : ∀ p ∈ ps, p.Fits) : ps.map kept = ps :=
  (List.map_congr_left fun p hp => kept_of_fits (h p hp)).trans ps.map_id'

/-- **Streams of parameters are read in one way only.** Parameters that fit their forms, any number of them, are read
back in front of anything, and reading stops where they end; so two such streams with the same bytes are the same.
Whether they fit or not, short constants share their bytes exactly if they agree modulo 64, and global references
exactly if they agree modulo 32; and bytes that open with a parameter are read as one of its form, which ends where it
ends, so they open with none of another form. -/
theorem streams_read_back :
    (∀ (ps : List Param) (rest : List UInt8), (∀ p ∈ ps, p.Fits) →
      readMany? ps.length (ps.flatMap encode ++ rest) = some (ps, rest)) ∧
    (∀ ps qs : List Param, (∀ p ∈ ps, p.Fits) → (∀ q ∈ qs, q.Fits) →
      ps.flatMap encode = qs.flatMap encode → ps = qs) ∧
    (∀ v w : Int8, (lc0 v).encode = (lc0 w).encode ↔ v.toInt % 64 = w.toInt % 64) ∧
    (∀ i j : UInt8, (gv0 i).encode = (gv0 j).encode ↔ i.toNat % 32 = j.toNat % 32) ∧
    (∀ (p : Param) (rest : List UInt8), ∃ q, read? (p.encode ++ rest) = some (q, rest) ∧
      q.form = p.form ∧ q.encode = p.encode) ∧
    (∀ (p q : Param) (rest left : List UInt8), p.encode ++ rest = q.encode ++ left →
      p.form = q.form ∧ p.encode = q.encode ∧ rest = left) := by
  refine ⟨fun ps rest h => readMany?_append h rest, ?_, fun v w => encode_lc0_eq_iff,
    fun i j => encode_gv0_eq_iff, ?_, ?_⟩
  · intro ps qs hps hqs h
    rw [← map_kept_of_fits hps, ← map_kept_of_fits hqs]
    exact encode_flatMap_eq_iff.1 h
  · intro p rest
    exact ⟨p.kept, p.read?_encode_append rest, p.form_kept, p.encode_kept⟩
  · intro p q rest left h
    obtain ⟨hkept, hrest⟩ := encode_append_inj h
    refine ⟨?_, encode_eq_iff.2 hkept, hrest⟩
    rw [← p.form_kept, hkept, q.form_kept]

/-- Five operands, one of each form, in front of two bytes that look like another one: the byte 0x81 in the word and
the byte 0x60 behind it are data, and 33 keeps the index 1 only. -/
theorem streams_read_back_of_each_form :
    let ps : List Param := [.lc0 (-31), .lc2 24705, .gv0 31, .lc1 (-127), .lc4 (-2147483648)]
    (∀ p ∈ ps, p.Fits) ∧
    ps.flatMap encode = [0x21, 0x82, 0x81, 0x60, 0x7F, 0x81, 0x81, 0x83, 0, 0, 0, 0x80] ∧
    readMany? 5 (ps.flatMap encode ++ [0x81, 0x60]) = some (ps, [0x81, 0x60]) ∧
    (gv0 33).encode = (gv0 1).encode ∧ (lc0 33).encode ≠ (lc0 32).encode := by
  intro ps
  have hfits : ∀ p ∈ ps, p.Fits := by decide
  obtain ⟨hread, -, hshort, hglobal, -, -⟩ := streams_read_back
  refine ⟨hfits, by decide, hread ps [0x81, 0x60] hfits, (hglobal 33 1).2 (by decide), ?_⟩
  intro h
  exact absurd ((hshort 33 32).1 h) (by decide)

end BrickControl.Param
