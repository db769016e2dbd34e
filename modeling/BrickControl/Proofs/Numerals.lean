import Mathlib.Data.List.Forall2
import Mathlib.Data.Nat.Digits.Defs
import BrickControl.Numeral

/-!
# What a numeral writes

A numeral is read digit by digit, and reading ends as soon as the number has grown too large. A number never gets
smaller by one more digit, so nothing that fits in the end is refused on the way, and nothing is read that does not fit.

* `Numeral.IsDigit base c d`: the character is the digit of that value;
* `Numeral.Spells base text n`: the text is an optional plus and at least one digit, and the digits write the number;
* `Numeral.digit?_eq_some_iff`: which digit a character is;
* `Numeral.behind` and `Numeral.le_behind`: the number that digits write behind one that was read;
* `Numeral.digits_eq_ok_iff`: the scan over the digits, by induction on them with the number read so far generalised;
* `Numeral.natural_eq_ok_iff`: a text is read as a number up to a bound exactly if it spells that number.
-/

namespace BrickControl.Numeral

/-! ### Digits -/

/-- The digits of base 16 by their values. -/
def smallDigits : List Char :=
  ['0', '1', '2', '3', '4', '5', '6', '7', '8', '9', 'a', 'b', 'c', 'd', 'e', 'f']

/-- The digits of base 16 by their values, with capital letters. -/
def capitalDigits : List Char :=
  ['0', '1', '2', '3', '4', '5', '6', '7', '8', '9', 'A', 'B', 'C', 'D', 'E', 'F']

/-- The character is the digit of the value `d` in that base, in either case. -/
def IsDigit (base : Nat) (c : Char) (d : Nat) : Prop :=
  d < base ∧ (smallDigits[d]? = some c ∨ capitalDigits[d]? = some c)

instance (base : Nat) (c : Char) (d : Nat) : Decidable (IsDigit base c d) :=
  inferInstanceAs (Decidable (d < base ∧ (smallDigits[d]? = some c ∨ capitalDigits[d]? = some c)))

/-- In both tables a digit has its place among the code points: the decimal digits from 48, the letters from `first` and
ten more. -/
theorem table_eq_iff {table : List Char} {first : Nat} (hlength : table.length = 16)
    (htable : ∀ d < 16, table[d]?.map Char.toNat = some (if d < 10 then 48 + d else first + d))
    {c : Char} {d : Nat} :
    table[d]? = some c ↔ d < 16 ∧ c.toNat = if d < 10 then 48 + d else first + d := by
  constructor
  · intro h
    have hd : d < 16 := hlength ▸ (List.getElem?_eq_some_iff.mp h).1
    have hvalue := htable d hd
    rw [h] at hvalue
    exact ⟨hd, Option.some.inj hvalue⟩
  · rintro ⟨hd, hc⟩
    obtain ⟨digit, hdigit, hvalue⟩ := Option.map_eq_some_iff.mp (htable d hd)
    rw [hdigit, Char.toNat_inj.mp (hvalue.trans hc.symm)]

theorem isDigit_iff {base : Nat} {c : Char} {d : Nat} :
    IsDigit base c d ↔ d < base ∧ d < 16 ∧
      (c.toNat = (if d < 10 then 48 + d else 87 + d) ∨ c.toNat = if d < 10 then 48 + d else 55 + d) := by
  have hsmall : smallDigits[d]? = some c ↔ d < 16 ∧ c.toNat = if d < 10 then 48 + d else 87 + d :=
    table_eq_iff rfl (by decide)
  have hcapital : capitalDigits[d]? = some c ↔ d < 16 ∧ c.toNat = if d < 10 then 48 + d else 55 + d :=
    table_eq_iff rfl (by decide)
  rw [IsDigit, hsmall, hcapital, ← and_or_left]

/-- **A character is read as the digit that it is in one of the tables.** -/
theorem digit?_eq_some_iff {base : Nat} {c : Char} {d : Nat} :
    digit? base c = some d ↔ IsDigit base c d := by
  have hdecimal : ('0' ≤ c ∧ c ≤ '9') ↔ (48 ≤ c.toNat ∧ c.toNat ≤ 57) := Iff.rfl
  have hsmall : ('a' ≤ c ∧ c ≤ 'f') ↔ (97 ≤ c.toNat ∧ c.toNat ≤ 102) := Iff.rfl
  have hcapital : ('A' ≤ c ∧ c ≤ 'F') ↔ (65 ≤ c.toNat ∧ c.toNat ≤ 70) := Iff.rfl
  rw [isDigit_iff]
  simp only [digit?, hdecimal, hsmall, hcapital, Option.ite_none_right_eq_some, Option.some.injEq]
  split_ifs <;> omega

theorem IsDigit.toNat_le {c : Char} {d : Nat} (h : IsDigit 10 c d) : c.toNat ≤ 57 := by
  obtain ⟨hd, -, hc⟩ := isDigit_iff.mp h
  rw [if_pos hd, if_pos hd] at hc
  omega

/-! ### Numbers -/

/-- The number that digits write behind a number that was read, the digit of the least value last. -/
def behind (base read : Nat) (values : List Nat) : Nat :=
  Nat.ofDigits base (values.reverse ++ [read])

theorem behind_nil (base read : Nat) : behind base read [] = read :=
  Nat.ofDigits_singleton

theorem behind_cons (base read d : Nat) (values : List Nat) :
    behind base read (d :: values) = behind base (read * base + d) values := by
  show Nat.ofDigits base ((d :: values).reverse ++ [read]) = Nat.ofDigits base (values.reverse ++ [read * base + d])
  have hpair : Nat.ofDigits base [d, read] = read * base + d := by
    rw [Nat.ofDigits_cons, Nat.ofDigits_singleton, Nat.add_comm, Nat.mul_comm]
  rw [List.reverse_cons, List.append_assoc, List.singleton_append, Nat.ofDigits_append, hpair,
    Nat.ofDigits_append, Nat.ofDigits_singleton]

/-- Digits behind a number make it no smaller. -/
theorem le_behind {base : Nat} (hbase : 1 ≤ base) (read : Nat) (values : List Nat) :
    read ≤ behind base read values := by
  induction values generalizing read with
  | nil => rw [behind_nil]
  | cons d values ih =>
    rw [behind_cons]
    have hgrown : read ≤ read * base + d :=
      Nat.le_trans (Nat.le_mul_of_pos_right read hbase) (Nat.le_add_right _ d)
    exact Nat.le_trans hgrown (ih _)

theorem behind_zero (base : Nat) (values : List Nat) :
    behind base 0 values = Nat.ofDigits base values.reverse := by
  rw [behind, Nat.ofDigits_append_zero]

/-! ### Texts -/

/-- The text is an optional plus and one or more digits of the base, and `n` is the number that they write. -/
def Spells (base : Nat) (text : List Char) (n : Nat) : Prop :=
  ∃ (figures : List Char) (values : List Nat), (text = figures ∨ text = '+' :: figures) ∧ figures ≠ [] ∧
    List.Forall₂ (IsDigit base) figures values ∧ n = Nat.ofDigits base values.reverse

variable {base bound : Nat} {overflow : NumeralFault}

/-- **The scan gives the number of the digits if it is within the bound.** Where it stops early the number that was read
is too large already, and it would only grow. -/
theorem digits_eq_ok_iff (hbase : 1 ≤ base) {read n : Nat} (hread : read ≤ bound) (figures : List Char) :
    digits base bound overflow read figures = .ok n ↔
      (∃ values, List.Forall₂ (IsDigit base) figures values ∧ n = behind base read values) ∧ n ≤ bound := by
  induction figures generalizing read with
  | nil =>
    rw [digits, Except.ok.injEq]
    constructor
    · rintro rfl
      exact ⟨⟨[], .nil, (behind_nil base read).symm⟩, hread⟩
    · rintro ⟨⟨values, hvalues, rfl⟩, -⟩
      cases hvalues
      exact (behind_nil base read).symm
  | cons c rest ih =>
    rw [digits]
    split
    case h_1 hdigit =>
      constructor
      · intro h
        cases h
      · rintro ⟨⟨values, hvalues, -⟩, -⟩
        obtain ⟨d, values, hd, -, rfl⟩ := List.forall₂_cons_left_iff.mp hvalues
        rw [digit?_eq_some_iff.mpr hd] at hdigit
        cases hdigit
    case h_2 d hdigit =>
      -- The first digit is settled, so the digits write behind `read` what the rest writes behind both.
      have hcons : (∃ values, List.Forall₂ (IsDigit base) (c :: rest) values ∧ n = behind base read values) ↔
          ∃ values, List.Forall₂ (IsDigit base) rest values ∧ n = behind base (read * base + d) values := by
        constructor
        · rintro ⟨values, hvalues, rfl⟩
          obtain ⟨e, others, he, hothers, rfl⟩ := List.forall₂_cons_left_iff.mp hvalues
          rw [digit?_eq_some_iff.mpr he] at hdigit
          cases hdigit
          exact ⟨others, hothers, behind_cons base read d others⟩
        · rintro ⟨values, hvalues, rfl⟩
          exact ⟨d :: values, .cons (digit?_eq_some_iff.mp hdigit) hvalues, (behind_cons base read d values).symm⟩
      rw [hcons]
      split
      case isTrue hlarge =>
        constructor
        · intro h
          cases h
        · rintro ⟨⟨values, -, rfl⟩, hbound⟩
          have hgrows := le_behind hbase (read * base + d) values
          omega
      case isFalse hsmall => exact ih (Nat.le_of_not_lt hsmall)

theorem unsigned_eq_ok_iff (hbase : 1 ≤ base) {n : Nat} (figures : List Char) :
    unsigned base bound overflow figures = .ok n ↔
      (∃ values, figures ≠ [] ∧ List.Forall₂ (IsDigit base) figures values ∧
        n = Nat.ofDigits base values.reverse) ∧ n ≤ bound := by
  cases figures with
  | nil => simp [unsigned]
  | cons c rest =>
    rw [unsigned, digits_eq_ok_iff hbase (Nat.zero_le bound)]
    simp only [behind_zero, ne_eq, reduceCtorEq, not_false_eq_true, true_and]

/-- A sign is no digit. -/
theorem not_isDigit_plus (d : Nat) : ¬ IsDigit base '+' d := by
  rw [← digit?_eq_some_iff]
  simp [digit?]

/-- **A text is read as a number exactly if it spells that number and the number is within the bound.** -/
theorem natural_eq_ok_iff (hbase : 1 ≤ base) {n : Nat} (text : List Char) :
    natural base bound text = .ok n ↔ Spells base text n ∧ n ≤ bound := by
  unfold natural
  split
  case h_1 =>
    constructor
    · intro h
      cases h
    · rintro ⟨⟨figures, values, htext, hne, -⟩, -⟩
      rcases htext with rfl | htext
      · exact absurd rfl hne
      · cases htext
  case h_2 rest =>
    rw [unsigned_eq_ok_iff hbase]
    refine and_congr_left fun _ => ?_
    constructor
    · rintro ⟨values, hne, hvalues, hn⟩
      exact ⟨rest, values, .inr rfl, hne, hvalues, hn⟩
    · rintro ⟨figures, values, rfl | htext, hne, hvalues, hn⟩
      · obtain ⟨d, -, hd, -⟩ := List.forall₂_cons_left_iff.mp hvalues
        exact absurd hd (not_isDigit_plus d)
      · cases htext
        exact ⟨values, hne, hvalues, hn⟩
  case h_3 c rest hplus =>
    rw [unsigned_eq_ok_iff hbase]
    refine and_congr_left fun _ => ?_
    constructor
    · rintro ⟨values, hne, hvalues, hn⟩
      exact ⟨c :: rest, values, .inl rfl, hne, hvalues, hn⟩
    · rintro ⟨figures, values, rfl | htext, hne, hvalues, hn⟩
      · exact ⟨values, hne, hvalues, hn⟩
      · cases htext
        exact absurd rfl hplus

/-- A text spells at most one number. -/
theorem Spells.unique (hbase : 1 ≤ base) {text : List Char} {n m : Nat} (hn : Spells base text n)
    (hm : Spells base text m) : n = m := by
  have hreadn : natural base (max n m) text = .ok n :=
    (natural_eq_ok_iff hbase text).mpr ⟨hn, Nat.le_max_left n m⟩
  have hreadm : natural base (max n m) text = .ok m :=
    (natural_eq_ok_iff hbase text).mpr ⟨hm, Nat.le_max_right n m⟩
  exact Except.ok.inj (hreadn.symm.trans hreadm)

/-- A text that spells a number begins with a plus or a digit. -/
theorem Spells.exists_cons {text : List Char} {n : Nat} (h : Spells base text n) :
    ∃ c rest, text = c :: rest ∧ (c = '+' ∨ ∃ d, IsDigit base c d) := by
  obtain ⟨figures, values, htext, hne, hvalues, -⟩ := h
  obtain ⟨c, rest, rfl⟩ := List.exists_cons_of_ne_nil hne
  rcases htext with rfl | rfl
  · obtain ⟨d, -, hd, -⟩ := List.forall₂_cons_left_iff.mp hvalues
    exact ⟨c, rest, rfl, .inr ⟨d, hd⟩⟩
  · exact ⟨'+', c :: rest, rfl, .inl rfl⟩

/-- Behind the first character, which may be a plus, a digit follows. -/
theorem Spells.second {c second : Char} {rest : List Char} {n : Nat}
    (h : Spells base (c :: second :: rest) n) : ∃ d, IsDigit base second d := by
  obtain ⟨figures, values, htext, -, hvalues, -⟩ := h
  rcases htext with rfl | htext
  · obtain ⟨-, others, -, hothers, -⟩ := List.forall₂_cons_left_iff.mp hvalues
    obtain ⟨d, -, hd, -⟩ := List.forall₂_cons_left_iff.mp hothers
    exact ⟨d, hd⟩
  · cases htext
    obtain ⟨d, -, hd, -⟩ := List.forall₂_cons_left_iff.mp hvalues
    exact ⟨d, hd⟩

end BrickControl.Numeral
