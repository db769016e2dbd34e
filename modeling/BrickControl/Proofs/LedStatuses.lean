import BrickControl.CommandLine.Option
import BrickControl.Proofs.LetterCase
import BrickControl.Proofs.Numerals

/-!
# Statuses of the button lights

A status is written as the name of a pattern, as a hexadecimal number or as a decimal one. The three are told apart by
the first two characters, so it does not matter in which order they are tried, and a number that is no byte is refused
instead of being cut off to one.

* `Led.names`: the names of the patterns and their numbers;
* `Led.Writes text form n`: the text writes the number in one of the three forms;
* `Led.Form.of` and `Led.Writes.form_eq`: the form of a text, told by its first characters;
* `Led.Writes.unique`: a text writes at most one number, in one form;
* `Led.status?_eq_some_iff`: the byte that is read is the number that the text writes;
* `led_statuses_read_as_written`: what is read, what is refused, and that nothing is written in two ways.
-/

namespace BrickControl

namespace Led

/-- The names of the patterns with the numbers of the firmware. -/
def names : List (String × Nat) :=
  [("off", 0), ("green", 1), ("red", 2), ("orange", 3), ("green-flash", 4), ("red-flash", 5),
    ("orange-flash", 6), ("green-pulse", 7), ("red-pulse", 8), ("orange-pulse", 9)]

/-- The ways to write a status. -/
inductive Form where
  | name
  | hexadecimal
  | decimal
  deriving DecidableEq, Repr

/-- The text writes the number `n` in the given form. -/
inductive Writes (text : String) : Form → Nat → Prop where
  /-- The letters of a name may be capitals, and its hyphens underscores. -/
  | name {name : String} {n : Nat} (hname : (name, n) ∈ names)
      (htext : (text.toList.map Char.toLower).map (fun c => if c = '_' then '-' else c) = name.toList) :
      Writes text .name n
  | hexadecimal {mark : Char} {figures : List Char} {n : Nat} (hmark : mark = 'x' ∨ mark = 'X')
      (htext : text.toList = '0' :: mark :: figures) (hn : Numeral.Spells 16 figures n) :
      Writes text .hexadecimal n
  | decimal {n : Nat} (hn : Numeral.Spells 10 text.toList n) : Writes text .decimal n

/-! ### Names -/

theorem mem_names_iff {name : String} {n : Nat} :
    (name, n) ∈ names ↔ ∃ pattern : LedPattern, pattern.name = name ∧ pattern.byte.toNat = n := by
  have htable : names = LedPattern.all.map fun pattern => (pattern.name, pattern.byte.toNat) := rfl
  rw [htable, List.mem_map]
  constructor
  · rintro ⟨pattern, -, hpattern⟩
    exact ⟨pattern, congrArg Prod.fst hpattern, congrArg Prod.snd hpattern⟩
  · rintro ⟨pattern, rfl, rfl⟩
    exact ⟨pattern, pattern.mem_all, rfl⟩

theorem name_injective {one other : LedPattern} (h : one.name = other.name) : one = other := by
  cases one <;> cases other <;> first | rfl | exact absurd h (by decide)

theorem parse?_eq_some_iff {text : String} {pattern : LedPattern} :
    LedPattern.parse? text = some pattern ↔ pattern.name = Text.fold text :=
  Text.find?_name_eq_some_iff LedPattern.mem_all fun _ _ => name_injective

/-- **The names that are read are those of the table.** -/
theorem writes_name_iff {text : String} {n : Nat} :
    Writes text .name n ↔ ∃ pattern, LedPattern.parse? text = some pattern ∧ pattern.byte.toNat = n := by
  constructor
  · rintro ⟨hname, htext⟩
    obtain ⟨pattern, rfl, hbyte⟩ := mem_names_iff.mp hname
    exact ⟨pattern, parse?_eq_some_iff.mpr ((Text.fold_eq_iff text _).mpr htext).symm, hbyte⟩
  · rintro ⟨pattern, hparse, hbyte⟩
    exact .name (mem_names_iff.mpr ⟨pattern, rfl, hbyte⟩)
      ((Text.fold_eq_iff text _).mp (parse?_eq_some_iff.mp hparse).symm)

/-! ### The form of a text -/

/-- The form that the first characters of a text allow. A name begins with a letter; what is left is decimal, if it is
anything. -/
def Form.of : List Char → Form
  | '0' :: 'x' :: _ => .hexadecimal
  | '0' :: 'X' :: _ => .hexadecimal
  | c :: _ => if 65 ≤ c.toNat then .name else .decimal
  | [] => .decimal

theorem Form.of_letter {c : Char} (h : 65 ≤ c.toNat) (rest : List Char) : of (c :: rest) = .name := by
  unfold of
  split
  case h_1 heq =>
    cases heq
    exact absurd h (by decide)
  case h_2 heq =>
    cases heq
    exact absurd h (by decide)
  case h_3 heq =>
    cases heq
    exact if_pos h
  case h_4 heq => cases heq

theorem exists_letter_of_name {name : String} {n : Nat} (h : (name, n) ∈ names) :
    ∃ c rest, name.toList = c :: rest ∧ 65 ≤ c.toNat := by
  obtain ⟨pattern, rfl, -⟩ := mem_names_iff.mp h
  cases pattern <;> exact ⟨_, _, rfl, by decide⟩

/-- **The first two characters tell the form.** -/
theorem Writes.form_eq {text : String} {form : Form} {n : Nat} (h : Writes text form n) :
    form = Form.of text.toList := by
  cases h with
  | name hname htext =>
    obtain ⟨c, rest, hcons, hletter⟩ := exists_letter_of_name hname
    rw [hcons, List.map_map] at htext
    obtain ⟨d, rest', htext', hd, -⟩ := List.map_eq_cons_iff.mp htext
    have hfirst : 65 ≤ d.toNat := by
      by_contra hlow
      -- A character below the letters is folded to itself.
      have hsame : d.toLower = d := Text.toLower_of_lt (by omega)
      have hne : d ≠ '_' := by
        rintro rfl
        exact hlow (by decide)
      rw [Function.comp_apply, hsame, if_neg hne] at hd
      rw [hd] at hlow
      exact hlow hletter
    rw [htext', Form.of_letter hfirst]
  | hexadecimal hmark htext _ =>
    rw [htext]
    rcases hmark with rfl | rfl
    · rfl
    · rfl
  | decimal hn =>
    unfold Form.of
    split
    case h_1 rest heq =>
      rw [heq] at hn
      obtain ⟨d, hd⟩ := hn.second
      exact absurd hd.toNat_le (by decide)
    case h_2 rest heq =>
      rw [heq] at hn
      obtain ⟨d, hd⟩ := hn.second
      exact absurd hd.toNat_le (by decide)
    case h_3 c rest _ _ heq =>
      rw [heq] at hn
      obtain ⟨first, rest, hcons, hfirst⟩ := hn.exists_cons
      cases hcons
      have hlow : c.toNat < 65 := by
        rcases hfirst with rfl | ⟨d, hd⟩
        · decide
        · exact Nat.lt_of_le_of_lt hd.toNat_le (by decide)
      rw [if_neg (Nat.not_le_of_lt hlow)]
    case h_4 => rfl

/-- **A text writes at most one number, and in one form.** -/
theorem Writes.unique {text : String} {form form' : Form} {n n' : Nat} (h : Writes text form n)
    (h' : Writes text form' n') : form = form' ∧ n = n' := by
  have hform : form = form' := h.form_eq.trans h'.form_eq.symm
  subst hform
  refine ⟨rfl, ?_⟩
  cases form with
  | name =>
    obtain ⟨pattern, hparse, rfl⟩ := writes_name_iff.mp h
    obtain ⟨pattern', hparse', rfl⟩ := writes_name_iff.mp h'
    rw [Option.some.inj (hparse.symm.trans hparse')]
  | hexadecimal =>
    cases h with
    | hexadecimal _ htext hn =>
    cases h' with
    | hexadecimal _ htext' hn' =>
    cases htext.symm.trans htext'
    exact hn.unique (by decide) hn'
  | decimal =>
    cases h with
    | decimal hn =>
    cases h' with
    | decimal hn' => exact hn.unique (by decide) hn'

/-! ### Bytes -/

theorem byteOf_eq_some_iff {base : Nat} (hbase : 1 ≤ base) (figures : List Char) (b : UInt8) :
    ((Numeral.natural base 255 figures).toOption).map UInt8.ofNat = some b ↔
      Numeral.Spells base figures b.toNat := by
  have hbyte : b.toNat ≤ 255 := Nat.le_of_lt_succ b.toNat_lt
  constructor
  · intro h
    rcases hread : Numeral.natural base 255 figures with fault | n
    · rw [hread] at h
      cases h
    · rw [hread] at h
      obtain ⟨hspells, hn⟩ := (Numeral.natural_eq_ok_iff hbase figures).mp hread
      have hb : UInt8.ofNat n = b := Option.some.inj h
      have hvalue : b.toNat = n := by
        rw [← hb, UInt8.toNat_ofNat']
        omega
      rwa [hvalue]
  · intro h
    rw [(Numeral.natural_eq_ok_iff hbase figures).mpr ⟨h, hbyte⟩]
    show some (UInt8.ofNat b.toNat) = some b
    rw [UInt8.ofNat_toNat]

theorem writes_hexadecimal_iff {text : String} {mark : Char} {figures : List Char} {n : Nat}
    (hmark : mark = 'x' ∨ mark = 'X') (htext : text.toList = '0' :: mark :: figures) :
    (∃ form, form ≠ .name ∧ Writes text form n) ↔ Numeral.Spells 16 figures n := by
  constructor
  · rintro ⟨form, -, h⟩
    have hform : form = .hexadecimal := by
      rw [h.form_eq, htext]
      rcases hmark with rfl | rfl
      · rfl
      · rfl
    subst hform
    cases h with
    | hexadecimal _ htext' hn =>
    cases htext.symm.trans htext'
    exact hn
  · intro hn
    exact ⟨.hexadecimal, by decide, .hexadecimal hmark htext hn⟩

/-- **The byte of a text that is no name is the number that it writes.** -/
theorem byte?_eq_some_iff {text : String} {b : UInt8} :
    byte? text.toList = some b ↔ ∃ form, form ≠ .name ∧ Writes text form b.toNat := by
  unfold byte?
  split
  case h_1 rest heq =>
    rw [byteOf_eq_some_iff (by decide), writes_hexadecimal_iff (.inl rfl) heq]
  case h_2 rest heq =>
    rw [byteOf_eq_some_iff (by decide), writes_hexadecimal_iff (.inr rfl) heq]
  case h_3 hsmall hcapital =>
    rw [byteOf_eq_some_iff (by decide)]
    constructor
    · intro hn
      exact ⟨.decimal, by decide, .decimal hn⟩
    · rintro ⟨form, hname, h⟩
      cases h with
      | name => exact absurd rfl hname
      | hexadecimal hmark htext _ =>
        rcases hmark with rfl | rfl
        · exact absurd htext (hsmall _)
        · exact absurd htext (hcapital _)
      | decimal hn => exact hn

/-- **The byte that is read is the number that the text writes**, in whichever form. -/
theorem status?_eq_some_iff {text : String} {b : UInt8} :
    status? text = some b ↔ ∃ form, Writes text form b.toNat := by
  rw [status?]
  rcases hparse : LedPattern.parse? text with _ | pattern
  · show byte? text.toList = some b ↔ _
    rw [byte?_eq_some_iff]
    constructor
    · rintro ⟨form, -, h⟩
      exact ⟨form, h⟩
    · rintro ⟨form, h⟩
      refine ⟨form, ?_, h⟩
      rintro rfl
      obtain ⟨pattern, hsome, -⟩ := writes_name_iff.mp h
      rw [hparse] at hsome
      cases hsome
  · have hname : Writes text .name pattern.byte.toNat := writes_name_iff.mpr ⟨pattern, hparse, rfl⟩
    show some pattern.byte = some b ↔ _
    constructor
    · intro h
      rw [← Option.some.inj h]
      exact ⟨.name, hname⟩
    · rintro ⟨form, h⟩
      rw [UInt8.toNat_inj.mp (hname.unique h).2]

end Led

namespace CommandLine

theorem statusOf_eq_ok_iff {text : String} {b : UInt8} :
    statusOf text = .ok b ↔ ∃ form, Led.Writes text form b.toNat := by
  rw [← Led.status?_eq_some_iff, statusOf]
  rcases Led.status? text with _ | status
  · simp
  · simp

/-- **What writes no byte is refused**, numbers that are too large included. -/
theorem statusOf_eq_error_iff {text : String} :
    statusOf text = .error "led status must be a pattern name or a byte value" ↔
      ∀ form n, Led.Writes text form n → 255 < n := by
  constructor
  · intro hrefused form n h
    by_contra hsmall
    have hbyte : (UInt8.ofNat n).toNat = n := by
      rw [UInt8.toNat_ofNat']
      omega
    have hread : statusOf text = .ok (UInt8.ofNat n) := statusOf_eq_ok_iff.mpr ⟨form, hbyte.symm ▸ h⟩
    rw [hrefused] at hread
    cases hread
  · intro hlarge
    rcases hstatus : Led.status? text with _ | b
    · rw [statusOf, hstatus]
    · obtain ⟨form, h⟩ := Led.status?_eq_some_iff.mp hstatus
      have hbyte := b.toNat_lt
      have hmore := hlarge form _ h
      omega

end CommandLine

/-- **A status of the button lights is read as it is written**: a byte is read if and only if the text writes it, as a
name, in hexadecimal or in decimal figures; whatever writes no byte is refused, a larger number included; and no text
writes two numbers, or one in two forms. -/
theorem led_statuses_read_as_written :
    (∀ (text : String) (b : UInt8),
      CommandLine.statusOf text = .ok b ↔ ∃ form, Led.Writes text form b.toNat) ∧
    (∀ text : String,
      CommandLine.statusOf text = .error "led status must be a pattern name or a byte value" ↔
        ∀ form n, Led.Writes text form n → 255 < n) ∧
    (∀ (text : String) (form form' : Led.Form) (n n' : Nat),
      Led.Writes text form n → Led.Writes text form' n' → form = form' ∧ n = n') :=
  ⟨fun _ _ => CommandLine.statusOf_eq_ok_iff, fun _ => CommandLine.statusOf_eq_error_iff,
    fun _ _ _ _ _ h h' => h.unique h'⟩

/-- A status in each form, and the first number that is no byte. -/
theorem led_statuses_read_up_to_255 :
    CommandLine.statusOf "Red_Flash" = .ok 5 ∧
    CommandLine.statusOf "0X+0fF" = .ok 255 ∧
    CommandLine.statusOf "+007" = .ok 7 ∧
    CommandLine.statusOf "256" = .error "led status must be a pattern name or a byte value" := by
  obtain ⟨hread, hrefused, hunique⟩ := led_statuses_read_as_written
  have hname : Led.Writes "Red_Flash" .name 5 :=
    @Led.Writes.name _ "red-flash" 5 (by decide) (by decide)
  have hhexadecimal : Led.Writes "0X+0fF" .hexadecimal 255 :=
    @Led.Writes.hexadecimal _ 'X' ['+', '0', 'f', 'F'] 255 (.inr rfl) (by decide)
      ⟨['0', 'f', 'F'], [0, 15, 15], .inr rfl, by decide,
        .cons (by decide) (.cons (by decide) (.cons (by decide) .nil)), by decide⟩
  have hdecimal : Led.Writes "+007" .decimal 7 :=
    .decimal ⟨['0', '0', '7'], [0, 0, 7], .inr (by decide), by decide,
      .cons (by decide) (.cons (by decide) (.cons (by decide) .nil)), by decide⟩
  have hlarge : Led.Writes "256" .decimal 256 :=
    .decimal ⟨['2', '5', '6'], [2, 5, 6], .inl (by decide), by decide,
      .cons (by decide) (.cons (by decide) (.cons (by decide) .nil)), by decide⟩
  refine ⟨(hread _ _).mpr ⟨.name, hname⟩, (hread _ _).mpr ⟨.hexadecimal, hhexadecimal⟩,
    (hread _ _).mpr ⟨.decimal, hdecimal⟩, (hrefused _).mpr ?_⟩
  intro form n h
  obtain ⟨-, hn⟩ := hunique "256" form .decimal n 256 h hlarge
  omega

end BrickControl
