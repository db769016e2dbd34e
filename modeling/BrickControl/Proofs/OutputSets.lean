import BrickControl.Outputs

/-!
# Sets of outputs and their masks

A set of outputs is told by which of the four it holds, and its mask holds the same in its lowest four bits.

* `Output.index` is the bit of an output, `Outputs.has` tells whether an output is in a set;
* `Outputs.eq_of_has`: sets with the same outputs are the same;
* `Outputs.testBit_mask`: the bits of a mask are the outputs of the set, and there are no others;
* `Outputs.mask_union`: the mask of a union has the bits of both masks;
* `Outputs.ofMask?_mask`: a set is read back from its mask.
-/

namespace BrickControl

namespace Output

/-- The bit of the output in a mask, from 0 for output A. -/
def index : Output → Nat
  | a => 0
  | b => 1
  | c => 2
  | d => 3

theorem index_injective {one other : Output} (h : one.index = other.index) : one = other := by
  cases one <;> cases other <;> cases h <;> rfl

theorem exists_index {i : Nat} (h : i < 4) : ∃ output : Output, output.index = i := by
  match i, h with
  | 0, _ => exact ⟨a, rfl⟩
  | 1, _ => exact ⟨b, rfl⟩
  | 2, _ => exact ⟨c, rfl⟩
  | 3, _ => exact ⟨d, rfl⟩

end Output

namespace Outputs

/-! ### Membership -/

/-- Is the output in the set? -/
def has (outputs : Outputs) : Output → Bool
  | .a => outputs.a
  | .b => outputs.b
  | .c => outputs.c
  | .d => outputs.d

theorem eq_of_has {s t : Outputs} (h : ∀ output, s.has output = t.has output) : s = t := by
  obtain ⟨a, b, c, d⟩ := s
  obtain ⟨a', b', c', d'⟩ := t
  have ha : a = a' := h .a
  have hb : b = b' := h .b
  have hc : c = c' := h .c
  have hd : d = d' := h .d
  rw [ha, hb, hc, hd]

theorem has_union (s t : Outputs) (output : Output) :
    (s.union t).has output = (s.has output || t.has output) := by
  cases output <;> rfl

theorem has_empty (output : Output) : empty.has output = false := by
  cases output <;> rfl

theorem has_only (one output : Output) : (only one).has output = true ↔ one = output := by
  cases one <;> cases output <;> decide

theorem union_assoc (s t u : Outputs) : (s.union t).union u = s.union (t.union u) := by
  apply eq_of_has
  intro output
  rw [has_union, has_union, has_union, has_union, Bool.or_assoc]

theorem empty_union (s : Outputs) : empty.union s = s := by
  apply eq_of_has
  intro output
  rw [has_union, has_empty, Bool.false_or]

theorem eq_empty_iff (outputs : Outputs) : outputs = empty ↔ ∀ output, outputs.has output = false := by
  constructor
  · rintro rfl
    exact has_empty
  · intro h
    apply eq_of_has
    intro output
    rw [h output, has_empty]

theorem union_ne_empty {s : Outputs} (h : s ≠ empty) (t : Outputs) :
    s.union t ≠ empty := by
  obtain ⟨a, b, c, d⟩ := s
  obtain ⟨a', b', c', d'⟩ := t
  revert a b c d a' b' c' d'
  decide

/-- The empty set is refused. -/
theorem ne_empty_of_parse {text : String} {outputs : Outputs}
    (h : parse text = .ok outputs) : outputs ≠ empty := by
  rw [parse] at h
  split at h
  · rw [← Except.ok.inj h]
    decide
  · split at h
    · exact absurd h (by simp)
    · rename_i outputs' hletters
      split at h
      · exact absurd h (by simp)
      · rename_i hne
        exact Except.ok.inj h ▸ hne

/-! ### Masks -/

theorem mask_le (outputs : Outputs) : outputs.mask.toNat ≤ 15 := by
  obtain ⟨a, b, c, d⟩ := outputs
  revert a b c d
  decide

theorem mask_pos {outputs : Outputs} (h : outputs ≠ empty) : 1 ≤ outputs.mask.toNat := by
  obtain ⟨a, b, c, d⟩ := outputs
  revert a b c d
  decide

/-- The mask of a union has the bits of both masks. -/
theorem mask_union (s t : Outputs) : (s.union t).mask = s.mask ||| t.mask := by
  obtain ⟨a, b, c, d⟩ := s
  obtain ⟨a', b', c', d'⟩ := t
  revert a b c d a' b' c' d'
  decide

theorem ofMask?_mask (outputs : Outputs) :
    ofMask? outputs.mask.toInt8.toUInt8 = some outputs := by
  obtain ⟨a, b, c, d⟩ := outputs
  revert a b c d
  decide

theorem testBit_mask_index (outputs : Outputs) (output : Output) :
    outputs.mask.toNat.testBit output.index = outputs.has output := by
  obtain ⟨a, b, c, d⟩ := outputs
  revert a b c d
  cases output <;> decide

/-- **The bits of a mask are the outputs of the set**, and there are no others. -/
theorem testBit_mask (outputs : Outputs) (i : Nat) :
    outputs.mask.toNat.testBit i = true ↔
      ∃ output : Output, output.index = i ∧ outputs.has output = true := by
  constructor
  · intro h
    rcases Nat.lt_or_ge i 4 with hi | hi
    · obtain ⟨output, rfl⟩ := Output.exists_index hi
      exact ⟨output, rfl, by rwa [← testBit_mask_index]⟩
    · have hpow : 2 ^ 4 ≤ 2 ^ i := Nat.pow_le_pow_right (by decide) hi
      have hsmall : outputs.mask.toNat < 2 ^ i :=
        Nat.lt_of_lt_of_le (Nat.lt_succ_of_le outputs.mask_le) hpow
      rw [Nat.testBit_lt_two_pow hsmall] at h
      cases h
  · rintro ⟨output, rfl, h⟩
    rwa [testBit_mask_index]

theorem eq_all_of_mask {outputs : Outputs} (h : outputs.mask = 15) : outputs = all := by
  obtain ⟨a, b, c, d⟩ := outputs
  revert a b c d
  decide

end Outputs

end BrickControl
