import Mathlib.Data.List.Basic
import Mathlib.Data.List.Forall2
import BrickControl.Text.Folded

/-!
# The case of ASCII letters

Characters are folded one by one, and nothing but an ASCII letter has a case. So which characters become a given letter
is settled by their code points.

* `LetterPair capital small`: the two are one ASCII letter;
* `LetterPair.toUpper_eq_iff` and `LetterPair.toLower_eq_iff`: what becomes the letter is the letter, in either case;
* `toUpper_toLower`: a capital made from the small letter is the capital of the letter;
* `fold_eq_iff`: a name is folded in two steps, its letters first and its underscores then;
* `Alike c d` and `fold_eq_fold_iff`: texts are folded alike exactly if they are alike character by character;
* `find?_name_eq_some_iff`: what is looked up by a name of its own is found.
-/

namespace BrickControl.Text

theorem toNat_toUpper (c : Char) :
    c.toUpper.toNat = if 97 ≤ c.toNat ∧ c.toNat ≤ 122 then c.toNat - 32 else c.toNat := by
  unfold Char.toUpper
  split
  case isTrue h =>
    have hsmall : 97 ≤ c.toNat ∧ c.toNat ≤ 122 := h
    rw [if_pos hsmall]
    show (c.val + ('A'.val - 'a'.val)).toNat = c.toNat - 32
    -- The difference is negative, so the code point goes once around the word.
    rw [UInt32.toNat_add]
    show (c.toNat + 4294967264) % 4294967296 = c.toNat - 32
    omega
  case isFalse h =>
    have hother : ¬ (97 ≤ c.toNat ∧ c.toNat ≤ 122) := h
    rw [if_neg hother]

theorem toNat_toLower (c : Char) :
    c.toLower.toNat = if 65 ≤ c.toNat ∧ c.toNat ≤ 90 then c.toNat + 32 else c.toNat := by
  unfold Char.toLower
  split
  case isTrue h =>
    have hcapital : 65 ≤ c.toNat ∧ c.toNat ≤ 90 := h
    rw [if_pos hcapital]
    show (c.val + ('a'.val - 'A'.val)).toNat = c.toNat + 32
    rw [UInt32.toNat_add]
    show (c.toNat + 32) % 4294967296 = c.toNat + 32
    omega
  case isFalse h =>
    have hother : ¬ (65 ≤ c.toNat ∧ c.toNat ≤ 90) := h
    rw [if_neg hother]

theorem toUpper_toLower (c : Char) : c.toLower.toUpper = c.toUpper := by
  apply Char.toNat_inj.mp
  rw [toNat_toUpper, toNat_toUpper, toNat_toLower]
  split_ifs <;> omega

/-- A letter of the ASCII alphabet, as a capital and small. -/
structure LetterPair (capital small : Char) : Prop where
  first : 65 ≤ capital.toNat
  last : capital.toNat ≤ 90
  apart : small.toNat = capital.toNat + 32

namespace LetterPair

variable {capital small : Char}

theorem toUpper_eq_iff (h : LetterPair capital small) (c : Char) :
    c.toUpper = capital ↔ c = capital ∨ c = small := by
  obtain ⟨hfirst, hlast, hapart⟩ := h
  rw [← Char.toNat_inj, ← Char.toNat_inj, ← Char.toNat_inj, toNat_toUpper]
  split_ifs <;> omega

theorem toLower_eq_iff (h : LetterPair capital small) (c : Char) :
    c.toLower = small ↔ c = small ∨ c = capital := by
  obtain ⟨hfirst, hlast, hapart⟩ := h
  rw [← Char.toNat_inj, ← Char.toNat_inj, ← Char.toNat_inj, toNat_toLower]
  split_ifs <;> omega

end LetterPair

/-! ### Folded names -/

theorem toLower_of_lt {c : Char} (h : c.toNat < 65) : c.toLower = c := by
  apply Char.toNat_inj.mp
  rw [toNat_toLower, if_neg (by omega)]

/-- A character is folded in two steps: it is made small, and an underscore then becomes a hyphen. -/
theorem foldChar_eq (c : Char) :
    foldChar c = if c.toLower = '_' then '-' else c.toLower := by
  have hunderscore : c.toLower = '_' ↔ c = '_' := by
    rw [← Char.toNat_inj, ← Char.toNat_inj, toNat_toLower]
    show ite _ _ _ = 95 ↔ c.toNat = 95
    split_ifs <;> omega
  simp only [foldChar, hunderscore]

/-- **A name is compared in small letters and with hyphens for underscores.** -/
theorem fold_eq_iff (s name : String) :
    fold s = name ↔
      (s.toList.map Char.toLower).map (fun c => if c = '_' then '-' else c) = name.toList := by
  have hsteps : s.toList.map foldChar =
      (s.toList.map Char.toLower).map (fun c => if c = '_' then '-' else c) := by
    rw [List.map_map]
    exact List.map_congr_left fun c _ => foldChar_eq c
  rw [fold, hsteps, ← String.toList_inj, String.toList_ofList]

theorem toNat_foldChar (c : Char) :
    (foldChar c).toNat =
      if c.toNat = 95 then 45
      else if 65 ≤ c.toNat ∧ c.toNat ≤ 90 then c.toNat + 32 else c.toNat := by
  have hunderscore : c = '_' ↔ c.toNat = 95 := Char.toNat_inj.symm
  unfold foldChar
  by_cases h : c = '_'
  · rw [if_pos h, if_pos (hunderscore.mp h)]
    rfl
  · rw [if_neg h, if_neg fun hnat => h (hunderscore.mpr hnat), toNat_toLower]

/-- Characters that differ at most in the case of an ASCII letter, or as an underscore and a hyphen do. -/
inductive Alike : Char → Char → Prop where
  | same (c : Char) : Alike c c
  | capital {c d : Char} (h : LetterPair c d) : Alike c d
  | small {c d : Char} (h : LetterPair d c) : Alike c d
  | underscore : Alike '_' '-'
  | hyphen : Alike '-' '_'

/-- **Characters are folded alike exactly if they are alike.** -/
theorem foldChar_eq_foldChar_iff (c d : Char) : foldChar c = foldChar d ↔ Alike c d := by
  constructor
  · intro h
    have hcode := congrArg Char.toNat h
    rw [toNat_foldChar, toNat_foldChar] at hcode
    have hcases : c.toNat = d.toNat ∨
        (65 ≤ c.toNat ∧ c.toNat ≤ 90 ∧ d.toNat = c.toNat + 32) ∨
        (65 ≤ d.toNat ∧ d.toNat ≤ 90 ∧ c.toNat = d.toNat + 32) ∨
        (c.toNat = 95 ∧ d.toNat = 45) ∨ (c.toNat = 45 ∧ d.toNat = 95) := by
      split_ifs at hcode <;> omega
    rcases hcases with hsame | ⟨hfirst, hlast, hapart⟩ | ⟨hfirst, hlast, hapart⟩ | ⟨hc, hd⟩ | ⟨hc, hd⟩
    · rw [Char.toNat_inj.mp hsame]
      exact .same d
    · exact .capital ⟨hfirst, hlast, hapart⟩
    · exact .small ⟨hfirst, hlast, hapart⟩
    · have hunderscore : c = '_' := Char.toNat_inj.mp hc
      have hhyphen : d = '-' := Char.toNat_inj.mp hd
      rw [hunderscore, hhyphen]
      exact .underscore
    · have hhyphen : c = '-' := Char.toNat_inj.mp hc
      have hunderscore : d = '_' := Char.toNat_inj.mp hd
      rw [hhyphen, hunderscore]
      exact .hyphen
  · intro h
    have hpair {capital small : Char} (h : LetterPair capital small) :
        foldChar capital = foldChar small := by
      obtain ⟨hfirst, hlast, hapart⟩ := h
      apply Char.toNat_inj.mp
      rw [toNat_foldChar, toNat_foldChar]
      split_ifs <;> omega
    cases h with
    | same => rfl
    | capital h => exact hpair h
    | small h => exact (hpair h).symm
    | underscore => rfl
    | hyphen => rfl

/-- **Texts are folded alike exactly if they are alike**, one character after the other. -/
theorem fold_eq_fold_iff (s t : String) : fold s = fold t ↔ List.Forall₂ Alike s.toList t.toList := by
  rw [fold, fold, String.ofList_inj, ← List.forall₂_eq_eq_eq, List.forall₂_map_left_iff,
    List.forall₂_map_right_iff]
  simp only [foldChar_eq_foldChar_iff]

/-- What is looked up by a name that it shares with nothing else is found. -/
theorem find?_name_eq_some_iff {α : Type} {entries : List α} {name : α → String}
    (hall : ∀ a, a ∈ entries) (hown : Function.Injective name) {text : String} {a : α} :
    entries.find? (fun entry => decide (name entry = text)) = some a ↔ name a = text := by
  constructor
  · intro h
    simpa using List.find?_some h
  · intro h
    rcases hfind : entries.find? (fun entry => decide (name entry = text)) with _ | found
    · have hnone := List.find?_eq_none.mp hfind a (hall a)
      exact absurd (by simpa using h) hnone
    · have hfound : name found = text := by simpa using List.find?_some hfind
      rw [hown (hfound.trans h.symm)]

end BrickControl.Text
