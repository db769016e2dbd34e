import BrickControl.Proofs.LetterCase
import BrickControl.Proofs.OutputSets

/-!
# Letters of outputs

A text of outputs is read by the letters that occur in it. It is the word `all`, or it has a character that names no
output and is refused for the first such character, or it names nothing, or it names the set of the outputs whose
letters occur. Neither the order of the letters nor their case nor what separates them tells anything, and two texts
behind one another name the outputs of both.

* `Output.OccursIn`, `Outputs.IsStray`, `Outputs.IsClean` and `Outputs.SpellsAll` say what a text is made of, by its
  characters;
* `Outputs.Reads text result`: the result that the characters of the text ask for;
* `Outputs.ofLetters_of_clean`, `Outputs.ofLetters_of_stray` and `Outputs.ofLetters_append`: the scan over the letters,
  by induction on them;
* `Outputs.reads_parse` and `Outputs.Reads.parse_eq`: there is always such a result, and `Outputs.parse` gives it;
* `outputs_read_by_letters`: what follows for every text, and for two.
-/

namespace BrickControl

namespace Output

/-- The capital letter. -/
def capital : Output → Char
  | a => 'A'
  | b => 'B'
  | c => 'C'
  | d => 'D'

/-- The small letter. -/
def small : Output → Char
  | a => 'a'
  | b => 'b'
  | c => 'c'
  | d => 'd'

/-- The letter of the output is somewhere in the text, as a capital or small. -/
def OccursIn (output : Output) (text : String) : Prop :=
  output.capital ∈ text.toList ∨ output.small ∈ text.toList

instance (output : Output) (text : String) : Decidable (output.OccursIn text) :=
  inferInstanceAs (Decidable (output.capital ∈ text.toList ∨ output.small ∈ text.toList))

theorem letterPair (output : Output) : Text.LetterPair output.capital output.small := by
  cases output <;> exact ⟨by decide, by decide, by decide⟩

theorem ofLetter?_eq_some_iff (letter : Char) (output : Output) :
    ofLetter? letter = some output ↔ letter = output.capital := by
  constructor
  · intro h
    unfold ofLetter? at h
    split at h <;> cases h <;> rfl
  · rintro rfl
    cases output <;> rfl

/-- **An output is named by its letter in either case**, and by no other character. -/
theorem ofLetter?_toUpper (letter : Char) (output : Output) :
    ofLetter? letter.toUpper = some output ↔ letter = output.capital ∨ letter = output.small :=
  (ofLetter?_eq_some_iff _ output).trans (output.letterPair.toUpper_eq_iff letter)

end Output

namespace Outputs

/-! ### What a text is made of -/

/-- A character that is neither a separator nor the letter of an output. -/
def IsStray (c : Char) : Prop :=
  c ∉ [',', ' ', '+', 'A', 'B', 'C', 'D', 'a', 'b', 'c', 'd']

instance (c : Char) : Decidable (IsStray c) :=
  inferInstanceAs (Decidable (c ∉ [',', ' ', '+', 'A', 'B', 'C', 'D', 'a', 'b', 'c', 'd']))

/-- Every character is a separator or the letter of an output. -/
def IsClean (cs : List Char) : Prop := ∀ c ∈ cs, ¬ IsStray c

instance (cs : List Char) : Decidable (IsClean cs) :=
  List.decidableBAll (fun c => ¬ IsStray c) cs

/-- The text is the word `all`, each letter in either case. -/
def SpellsAll (text : String) : Prop :=
  ∃ x y z, text.toList = [x, y, z] ∧
    (x = 'a' ∨ x = 'A') ∧ (y = 'l' ∨ y = 'L') ∧ (z = 'l' ∨ z = 'L')

/-- What reading a text of outputs gives, said of its characters. -/
inductive Reads (text : String) : Except OutputsFault Outputs → Prop where
  /-- The word for all four. -/
  | all {outputs : Outputs} (hall : SpellsAll text) (hmask : outputs.mask = 15) :
      Reads text (.ok outputs)
  /-- The first character that names no output is refused, as a capital if it is a letter. -/
  | stray {before after : List Char} {c : Char} (hall : ¬ SpellsAll text)
      (htext : text.toList = before ++ c :: after) (hbefore : IsClean before)
      (hc : IsStray c) : Reads text (.error (.badLetter c.toUpper))
  /-- There are separators only. -/
  | blank (h : ∀ c ∈ text.toList, c = ',' ∨ c = ' ' ∨ c = '+') : Reads text (.error .empty)
  /-- Bit by bit, the mask says which letters occur. -/
  | letters {outputs : Outputs} (hclean : IsClean text.toList)
      (hnamed : ∃ output : Output, output.OccursIn text)
      (hmask : ∀ i, outputs.mask.toNat.testBit i = true ↔
        ∃ output : Output, output.index = i ∧ output.OccursIn text) : Reads text (.ok outputs)

theorem isSeparator_iff (c : Char) : isSeparator c = true ↔ c = ',' ∨ c = ' ' ∨ c = '+' := by
  simp only [isSeparator, Bool.or_eq_true, beq_iff_eq, or_assoc]

/-- A separator has no case, and no letter becomes one. -/
theorem isSeparator_toLower (c : Char) : isSeparator c.toLower = isSeparator c := by
  apply Bool.eq_iff_iff.mpr
  simp only [isSeparator_iff, ← Char.toNat_inj, Text.toNat_toLower]
  show ite _ _ _ = 44 ∨ ite _ _ _ = 32 ∨ ite _ _ _ = 43 ↔ c.toNat = 44 ∨ c.toNat = 32 ∨ c.toNat = 43
  split_ifs <;> omega

/-- **A character that is no stray is a separator or names an output.** -/
theorem not_isStray_iff (c : Char) :
    ¬ IsStray c ↔ isSeparator c = true ∨ ∃ output : Output, c = output.capital ∨ c = output.small := by
  rw [IsStray, not_not, isSeparator_iff]
  constructor
  · intro h
    simp only [List.mem_cons, List.not_mem_nil, or_false] at h
    rcases h with h | h | h | h | h | h | h | h | h | h | h
    · exact .inl (.inl h)
    · exact .inl (.inr (.inl h))
    · exact .inl (.inr (.inr h))
    · exact .inr ⟨.a, .inl h⟩
    · exact .inr ⟨.b, .inl h⟩
    · exact .inr ⟨.c, .inl h⟩
    · exact .inr ⟨.d, .inl h⟩
    · exact .inr ⟨.a, .inr h⟩
    · exact .inr ⟨.b, .inr h⟩
    · exact .inr ⟨.c, .inr h⟩
    · exact .inr ⟨.d, .inr h⟩
  · rintro ((rfl | rfl | rfl) | ⟨output, rfl | rfl⟩)
    · decide
    · decide
    · decide
    · cases output <;> decide
    · cases output <;> decide

/-- A stray character is neither passed over nor read. -/
theorem IsStray.not_read {c : Char} (h : IsStray c) :
    isSeparator c = false ∧ Output.ofLetter? c.toUpper = none := by
  constructor
  · rw [← Bool.not_eq_true]
    exact fun hsep => (not_isStray_iff c).mpr (.inl hsep) h
  · rw [Option.eq_none_iff_forall_ne_some]
    intro output hletter
    exact (not_isStray_iff c).mpr (.inr ⟨output, (Output.ofLetter?_toUpper c output).mp hletter⟩) h

theorem isAll_iff (text : String) : isAll text = true ↔ SpellsAll text := by
  have hA : Text.LetterPair 'A' 'a' := ⟨by decide, by decide, by decide⟩
  have hL : Text.LetterPair 'L' 'l' := ⟨by decide, by decide, by decide⟩
  rw [isAll, beq_iff_eq]
  constructor
  · intro h
    obtain ⟨x, rest, htext, hx, h⟩ := List.map_eq_cons_iff.mp h
    obtain ⟨y, rest', hrest, hy, h⟩ := List.map_eq_cons_iff.mp h
    obtain ⟨z, rest'', hrest', hz, h⟩ := List.map_eq_cons_iff.mp h
    rw [List.map_eq_nil_iff] at h
    subst h hrest' hrest
    exact ⟨x, y, z, htext, (hA.toLower_eq_iff x).mp hx, (hL.toLower_eq_iff y).mp hy,
      (hL.toLower_eq_iff z).mp hz⟩
  · rintro ⟨x, y, z, htext, hx, hy, hz⟩
    rw [htext]
    show [x.toLower, y.toLower, z.toLower] = _
    rw [(hA.toLower_eq_iff x).mpr hx, (hL.toLower_eq_iff y).mpr hy, (hL.toLower_eq_iff z).mpr hz]

/-- The word `all` has a letter that names no output, so a text without such letters is not the word. -/
theorem not_spellsAll_of_clean {text : String} (h : IsClean text.toList) :
    ¬ SpellsAll text := by
  rintro ⟨x, y, z, htext, -, -, hz⟩
  have hmem : z ∈ text.toList := by
    rw [htext]
    simp
  rcases hz with rfl | rfl
  · exact h _ hmem (by decide)
  · exact h _ hmem (by decide)

/-! ### The scan over the letters -/

/-- The letters of a text: what is left of it without the separators. -/
def lettersOf (cs : List Char) : List Char :=
  cs.filter fun c => decide (c ∉ [',', ' ', '+'])

theorem lettersOf_separator {c : Char} (h : isSeparator c = true) (cs : List Char) :
    lettersOf (c :: cs) = lettersOf cs := by
  rw [isSeparator_iff] at h
  exact List.filter_cons_of_neg (by rw [decide_eq_true_iff, not_not]; simpa using h)

theorem lettersOf_letter {c : Char} (h : isSeparator c = false) (cs : List Char) :
    lettersOf (c :: cs) = c :: lettersOf cs := by
  rw [← Bool.not_eq_true, isSeparator_iff] at h
  exact List.filter_cons_of_pos (by simpa using h)

theorem parse_of_not_all {text : String} (h : ¬ SpellsAll text) :
    parse text = match ofLetters (lettersOf text.toList) with
      | .error fault => .error fault
      | .ok outputs => if outputs = empty then .error .empty else .ok outputs := by
  have hall : ¬ isAll text = true := by rwa [isAll_iff]
  have hletters : (text.toList.filter fun c => !isSeparator c) = lettersOf text.toList := by
    apply List.filter_congr
    intro c hc
    rw [Bool.eq_iff_iff, Bool.not_eq_true', ← Bool.not_eq_true, isSeparator_iff, decide_eq_true_iff]
    simp
  rw [← hletters]
  exact if_neg hall

theorem ofLetters_named {c : Char} {output : Output}
    (h : c = output.capital ∨ c = output.small) (rest : List Char) :
    ofLetters (c :: rest) = (ofLetters rest).map (union (only output)) := by
  rw [ofLetters, (Output.ofLetter?_toUpper c output).mpr h]

/-- What the scan does with a character that is no stray: it passes over it, or reads the letter of an output. -/
theorem separator_or_named {c : Char} (h : ¬ IsStray c) :
    isSeparator c = true ∨
      isSeparator c = false ∧ ∃ output : Output, c = output.capital ∨ c = output.small := by
  rcases hsep : isSeparator c with _ | _
  · rcases (not_isStray_iff c).mp h with hsep' | hnamed
    · rw [hsep] at hsep'
      cases hsep'
    · exact .inr ⟨rfl, hnamed⟩
  · exact .inl rfl

theorem not_letter_of_separator {c : Char} (h : isSeparator c = true) (output : Output) :
    c ≠ output.capital ∧ c ≠ output.small := by
  rcases (isSeparator_iff c).mp h with rfl | rfl | rfl <;> cases output <;> decide

/-- A character names at most one output. -/
theorem named_unique {c : Char} {one output : Output} (h : c = one.capital ∨ c = one.small) :
    c = output.capital ∨ c = output.small ↔ one = output := by
  rw [← Output.ofLetter?_toUpper] at h ⊢
  rw [h, Option.some.injEq]

/-- **Where every character is a separator or a letter, the outputs are those whose letters occur.** -/
theorem ofLetters_of_clean (cs : List Char) (h : IsClean cs) :
    ∃ outputs, ofLetters (lettersOf cs) = .ok outputs ∧
      ∀ output : Output, outputs.has output = true ↔ output.capital ∈ cs ∨ output.small ∈ cs := by
  induction cs with
  | nil => exact ⟨empty, rfl, fun output => by simp [has_empty]⟩
  | cons c cs ih =>
    obtain ⟨outputs, hread, hhas⟩ := ih fun d hd => h d (List.mem_cons_of_mem c hd)
    rcases separator_or_named (h c List.mem_cons_self) with hsep | ⟨hsep, one, hone⟩
    · refine ⟨outputs, by rw [lettersOf_separator hsep, hread], ?_⟩
      intro output
      obtain ⟨hcapital, hsmall⟩ := not_letter_of_separator hsep output
      rw [hhas, List.mem_cons, List.mem_cons]
      simp only [hcapital.symm, hsmall.symm, false_or]
    · refine ⟨(only one).union outputs, ?_, ?_⟩
      · rw [lettersOf_letter hsep, ofLetters_named hone, hread]
        rfl
      · intro output
        rw [has_union, Bool.or_eq_true, has_only, hhas, ← named_unique hone, List.mem_cons, List.mem_cons,
          eq_comm (a := c), eq_comm (a := c)]
        exact or_or_or_comm

/-- **The first stray character is refused**, whatever stands before it or behind. -/
theorem ofLetters_of_stray {before : List Char} (hbefore : IsClean before) {c : Char}
    (hc : IsStray c) (after : List Char) :
    ofLetters (lettersOf (before ++ c :: after)) = .error (.badLetter c.toUpper) := by
  obtain ⟨hsep, hletter⟩ := hc.not_read
  induction before with
  | nil =>
    show ofLetters (lettersOf (c :: after)) = _
    rw [lettersOf_letter hsep, ofLetters, hletter]
  | cons d before ih =>
    have hrest := ih fun e he => hbefore e (List.mem_cons_of_mem d he)
    rw [List.cons_append]
    rcases separator_or_named (hbefore d List.mem_cons_self) with hd | ⟨hd, output, hnamed⟩
    · rw [lettersOf_separator hd, hrest]
    · rw [lettersOf_letter hd, ofLetters_named hnamed, hrest]
      rfl

/-- **Letters behind letters name the outputs of both.** -/
theorem ofLetters_append {s : List Char} {a : Outputs} (h : ofLetters s = .ok a) (t : List Char) :
    ofLetters (s ++ t) = (ofLetters t).map a.union := by
  induction s generalizing a with
  | nil =>
    cases h
    show ofLetters t = (ofLetters t).map empty.union
    cases ofLetters t with
    | error fault => rfl
    | ok b =>
      show Except.ok b = Except.ok (empty.union b)
      rw [empty_union]
  | cons c s ih =>
    rw [ofLetters] at h
    rw [List.cons_append, ofLetters]
    split at h
    · cases h
    · rename_i output hletter
      rcases hs : ofLetters s with fault | a'
      · rw [hs] at h
        cases h
      · rw [hs] at h
        cases h
        show (ofLetters (s ++ t)).map _ = _
        rw [ih hs]
        cases ofLetters t with
        | error fault => rfl
        | ok b =>
          show Except.ok ((only output).union (a'.union b)) = Except.ok _
          rw [union_assoc]

/-! ### What a text is read as -/

variable {text : String}

theorem parse_of_all (h : SpellsAll text) : parse text = .ok all := by
  rw [parse, if_pos ((isAll_iff text).mpr h)]

/-- A text without stray characters is refused only if no letter occurs. -/
theorem parse_of_clean (h : IsClean text.toList) :
    ∃ outputs : Outputs, (∀ output : Output, outputs.has output = true ↔ output.OccursIn text) ∧
      parse text = if outputs = empty then .error .empty else .ok outputs := by
  obtain ⟨outputs, hread, hhas⟩ := ofLetters_of_clean text.toList h
  refine ⟨outputs, hhas, ?_⟩
  rw [parse_of_not_all (not_spellsAll_of_clean h), hread]

theorem parse_of_stray {before after : List Char} {c : Char} (hall : ¬ SpellsAll text)
    (htext : text.toList = before ++ c :: after) (hbefore : IsClean before)
    (hc : IsStray c) : parse text = .error (.badLetter c.toUpper) := by
  rw [parse_of_not_all hall, htext, ofLetters_of_stray hbefore hc]

theorem exists_first_stray {cs : List Char} (h : ¬ IsClean cs) :
    ∃ before c after, cs = before ++ c :: after ∧ IsClean before ∧ IsStray c := by
  rcases hfind : cs.find? (fun c => decide (IsStray c)) with _ | c
  · refine absurd (fun c hc => ?_) h
    simpa using List.find?_eq_none.mp hfind c hc
  · obtain ⟨hc, before, after, hcs, hbefore⟩ := List.find?_eq_some_iff_append.mp hfind
    exact ⟨before, c, after, hcs, fun d hd => by simpa using hbefore d hd, by simpa using hc⟩

/-- **What the characters of a text ask for is what it is read as.** -/
theorem Reads.parse_eq {result : Except OutputsFault Outputs} (h : Reads text result) :
    parse text = result := by
  cases h with
  | all hall hmask => rw [parse_of_all hall, eq_all_of_mask hmask]
  | stray hall htext hbefore hc => exact parse_of_stray hall htext hbefore hc
  | blank h =>
    have hsep : ∀ c ∈ text.toList, isSeparator c = true := fun c hc => (isSeparator_iff c).mpr (h c hc)
    have hclean : IsClean text.toList := by
      intro c hc
      exact (not_isStray_iff c).mpr (.inl (hsep c hc))
    obtain ⟨outputs, hhas, hparse⟩ := parse_of_clean hclean
    have hempty : outputs = empty := by
      rw [eq_empty_iff]
      intro output
      rw [← Bool.not_eq_true, hhas]
      rintro (hmem | hmem)
      · exact (not_letter_of_separator (hsep _ hmem) output).1 rfl
      · exact (not_letter_of_separator (hsep _ hmem) output).2 rfl
    rw [hparse, if_pos hempty]
  | letters hclean hnamed hmask =>
    rename_i outputs
    obtain ⟨read, hhas, hparse⟩ := parse_of_clean hclean
    have hsame : read = outputs := by
      apply eq_of_has
      intro output
      rw [Bool.eq_iff_iff, hhas, ← testBit_mask_index outputs, hmask]
      constructor
      · exact fun hoccurs => ⟨output, rfl, hoccurs⟩
      · rintro ⟨other, hindex, hoccurs⟩
        rwa [← Output.index_injective hindex]
    have hne : read ≠ empty := by
      obtain ⟨output, hoccurs⟩ := hnamed
      intro hempty
      have hnot := (eq_empty_iff read).mp hempty output
      rw [(hhas output).mpr hoccurs] at hnot
      cases hnot
    rw [hparse, if_neg hne, hsame]

/-- **Every text is read as its characters ask for.** -/
theorem reads_parse (text : String) : Reads text (parse text) := by
  by_cases hall : SpellsAll text
  · rw [parse_of_all hall]
    exact .all hall rfl
  by_cases hclean : IsClean text.toList
  · obtain ⟨outputs, hhas, hparse⟩ := parse_of_clean hclean
    rw [hparse]
    split
    case isTrue hempty =>
      rw [eq_empty_iff] at hempty
      refine .blank fun c hc => ?_
      rw [← isSeparator_iff]
      rcases separator_or_named (hclean c hc) with hsep | ⟨-, output, hnamed⟩
      · exact hsep
      · have hoccurs : output.OccursIn text := by
          rcases hnamed with rfl | rfl
          · exact .inl hc
          · exact .inr hc
        rw [← hhas, hempty] at hoccurs
        cases hoccurs
    case isFalse hne =>
      refine .letters hclean ?_ ?_
      · by_contra hnone
        refine hne ((eq_empty_iff outputs).mpr fun output => ?_)
        rw [← Bool.not_eq_true, hhas]
        exact fun hoccurs => hnone ⟨output, hoccurs⟩
      · intro i
        rw [testBit_mask]
        exact exists_congr fun output => and_congr_right fun _ => hhas output
  · obtain ⟨before, c, after, htext, hbefore, hc⟩ := exists_first_stray hclean
    rw [parse_of_stray hall htext hbefore hc]
    exact .stray hall htext hbefore hc

theorem parse_eq_iff (text : String) (result : Except OutputsFault Outputs) :
    parse text = result ↔ Reads text result := by
  constructor
  · rintro rfl
    exact reads_parse text
  · exact Reads.parse_eq

/-! ### Two texts -/

variable {s t : String}

/-- **Neither the order of the letters nor how often they occur tells anything.** -/
theorem parse_eq_of_occursIn (hs : IsClean s.toList) (ht : IsClean t.toList)
    (h : ∀ output : Output, output.OccursIn s ↔ output.OccursIn t) : parse s = parse t := by
  obtain ⟨a, ha, hsread⟩ := parse_of_clean hs
  obtain ⟨b, hb, htread⟩ := parse_of_clean ht
  have hsame : a = b := by
    apply eq_of_has
    intro output
    rw [Bool.eq_iff_iff, ha, hb, h]
  rw [hsread, htread, hsame]

/-- **What separates the letters tells nothing**, not even in a refusal. -/
theorem parse_eq_of_lettersOf (hs : ¬ SpellsAll s) (ht : ¬ SpellsAll t)
    (h : lettersOf s.toList = lettersOf t.toList) : parse s = parse t := by
  rw [parse_of_not_all hs, parse_of_not_all ht, h]

theorem ofLetters_eq_of_toLower {cs ds : List Char} (h : cs.map Char.toLower = ds.map Char.toLower) :
    ofLetters (lettersOf cs) = ofLetters (lettersOf ds) := by
  induction cs generalizing ds with
  | nil =>
    rw [List.map_nil, eq_comm, List.map_eq_nil_iff] at h
    rw [h]
  | cons c cs ih =>
    obtain ⟨d, ds, rfl, hd, hds⟩ := List.map_eq_cons_iff.mp h.symm
    have hupper : c.toUpper = d.toUpper := by
      rw [← Text.toUpper_toLower c, ← hd, Text.toUpper_toLower]
    have hsep : isSeparator c = isSeparator d := by
      rw [← isSeparator_toLower c, ← hd, isSeparator_toLower]
    have hrest := ih hds.symm
    rcases hc : isSeparator c with _ | _
    · rw [lettersOf_letter hc, lettersOf_letter (hsep ▸ hc), ofLetters, ofLetters, hupper, hrest]
    · rw [lettersOf_separator hc, lettersOf_separator (hsep ▸ hc), hrest]

/-- **The case of letters tells nothing**, not even in a refusal. -/
theorem parse_eq_of_toLower (h : s.toList.map Char.toLower = t.toList.map Char.toLower) :
    parse s = parse t := by
  have hall : SpellsAll s ↔ SpellsAll t := by
    rw [← isAll_iff, ← isAll_iff, isAll, isAll, h]
  by_cases hs : SpellsAll s
  · rw [parse_of_all hs, parse_of_all (hall.mp hs)]
  · rw [parse_of_not_all hs, parse_of_not_all (mt hall.mpr hs), ofLetters_eq_of_toLower h]

theorem clean_of_parse {outputs : Outputs} (hall : ¬ SpellsAll s) (h : parse s = .ok outputs) :
    IsClean s.toList := by
  have hreads := reads_parse s
  rw [h] at hreads
  cases hreads with
  | all hword _ => exact absurd hword hall
  | letters hclean _ _ => exact hclean

theorem ofLetters_of_parse {outputs : Outputs} (hall : ¬ SpellsAll s) (h : parse s = .ok outputs) :
    ofLetters (lettersOf s.toList) = .ok outputs := by
  rw [parse_of_not_all hall] at h
  split at h
  · cases h
  · rename_i read hread
    split at h
    · cases h
    · rw [hread]
      exact h

/-- **Two texts behind one another name the outputs of both.** -/
theorem parse_append {a b : Outputs} (hs : ¬ SpellsAll s) (ht : ¬ SpellsAll t)
    (ha : parse s = .ok a) (hb : parse t = .ok b) : parse (s ++ t) = .ok (a.union b) := by
  have hclean : IsClean (s ++ t).toList := by
    intro c hc
    rw [String.toList_append, List.mem_append] at hc
    rcases hc with hc | hc
    · exact clean_of_parse hs ha c hc
    · exact clean_of_parse ht hb c hc
  have hread : ofLetters (lettersOf (s ++ t).toList) = .ok (a.union b) := by
    rw [String.toList_append, lettersOf, List.filter_append]
    show ofLetters (lettersOf s.toList ++ lettersOf t.toList) = _
    rw [ofLetters_append (ofLetters_of_parse hs ha), ofLetters_of_parse ht hb]
    rfl
  have hne : a.union b ≠ empty := union_ne_empty (ne_empty_of_parse ha) b
  rw [parse_of_not_all (not_spellsAll_of_clean hclean), hread]
  exact if_neg hne

end Outputs

/-- **A text of outputs is read by the letters that occur in it.** What it is read as, or refused for, is what its
characters ask for. Of texts without stray characters those with the same letters are read alike; texts that differ in
the case of letters only are, and, but for the word `all`, texts that differ in their separators only. Two texts that
are read and are not that word are read together as the union, and the masks are joined bit by bit. -/
theorem outputs_read_by_letters :
    (∀ (text : String) (result : Except OutputsFault Outputs),
      Outputs.parse text = result ↔ Outputs.Reads text result) ∧
    (∀ s t : String, Outputs.IsClean s.toList → Outputs.IsClean t.toList →
      (∀ output : Output, output.OccursIn s ↔ output.OccursIn t) →
        Outputs.parse s = Outputs.parse t) ∧
    (∀ s t : String, s.toList.map Char.toLower = t.toList.map Char.toLower →
      Outputs.parse s = Outputs.parse t) ∧
    (∀ s t : String, ¬ Outputs.SpellsAll s → ¬ Outputs.SpellsAll t →
      Outputs.lettersOf s.toList = Outputs.lettersOf t.toList →
        Outputs.parse s = Outputs.parse t) ∧
    (∀ (s t : String) (a b : Outputs), ¬ Outputs.SpellsAll s → ¬ Outputs.SpellsAll t →
      Outputs.parse s = .ok a → Outputs.parse t = .ok b →
        Outputs.parse (s ++ t) = .ok (a.union b) ∧ (a.union b).mask = a.mask ||| b.mask) :=
  ⟨Outputs.parse_eq_iff,
    fun _ _ hs ht h => Outputs.parse_eq_of_occursIn hs ht h,
    fun _ _ h => Outputs.parse_eq_of_toLower h,
    fun _ _ hs ht h => Outputs.parse_eq_of_lettersOf hs ht h,
    fun _ _ a b hs ht ha hb => ⟨Outputs.parse_append hs ht ha hb, a.mask_union b⟩⟩

/-- Letters in either order and case, one of them twice, and the refusal of what is no letter of an output. -/
theorem outputs_read_by_letters_of_four :
    Outputs.parse "b, A+b" = Outputs.parse "ab" ∧
    Outputs.parse "aL+L" = .error (.badLetter 'L') ∧
    Outputs.parse ("ab" ++ ",D") = .ok ⟨true, true, false, true⟩ := by
  have hword : ∀ {text : String}, text.toList.length ≠ 3 → ¬ Outputs.SpellsAll text := by
    rintro text hlength ⟨x, y, z, htext, -⟩
    rw [htext] at hlength
    exact hlength rfl
  obtain ⟨hreads, hletters, -, -, happend⟩ := outputs_read_by_letters
  refine ⟨hletters "b, A+b" "ab" (by decide) (by decide) ?_, ?_, ?_⟩
  · intro output
    cases output <;> decide
  · exact (hreads "aL+L" _).mpr
      (@Outputs.Reads.stray _ ['a'] ['+', 'L'] 'L' (hword (by decide)) (by decide) (by decide)
        (by decide))
  · exact (happend "ab" ",D" ⟨true, true, false, false⟩ ⟨false, false, false, true⟩
      (hword (by decide)) (hword (by decide)) (by decide) (by decide)).1

end BrickControl
