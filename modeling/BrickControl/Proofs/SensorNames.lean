import BrickControl.Sensor
import BrickControl.Proofs.LetterCase
import BrickControl.Text.Blank

/-!
# Names of sensors

A kind of sensor is found by its name, in letters of either case and with underscores for hyphens; an infrared sensor
has a second name. The names are made of small ASCII letters and hyphens, so whatever else stands in a text, a blank at
an end of it included, keeps it from being a name.

* `SensorKind.IsNamed text kind`: the text is a name of the kind, and `SensorKind.names` the table of all names;
* `SensorKind.ofFolded?_eq_some_iff`: a folded name is looked up in the table, where the written names stand and `ir`;
* `SensorKind.parse_eq_error_iff`: what is no name is handed back as it was given;
* `SensorKind.letterOrLine_of_parse`: what a text that is read is made of;
* `SensorKind.sensor_names_resolve_exactly`: which texts are read, which are refused, and which are read alike.
-/

namespace BrickControl.SensorKind

/-! ### Names -/

/-- The folded names that are read, each with its kind. -/
def names : List (String × SensorKind) :=
  [("touch", .touch), ("color-reflect", .colorReflect), ("color-ambient", .colorAmbient), ("color", .color),
    ("infrared", .infrared), ("ir", .infrared), ("ultrasonic", .ultrasonic), ("gyro", .gyro),
    ("nxt-touch", .nxtTouch), ("nxt-light", .nxtLight), ("nxt-sound", .nxtSound),
    ("nxt-ultrasonic", .nxtUltrasonic), ("nxt-temperature", .nxtTemperature)]

/-- The text, in small letters and then with hyphens for underscores, is the written name of the kind, or it is the
second name of an infrared sensor. -/
def IsNamed (text : String) (kind : SensorKind) : Prop :=
  let folded := (text.toList.map Char.toLower).map fun c => if c = '_' then '-' else c
  folded = kind.name.toList ∨ (folded = "ir".toList ∧ kind = .infrared)

theorem name_injective : Function.Injective name := by
  intro one other h
  cases one <;> cases other <;> first | rfl | exact absurd h (by decide)

theorem name_ne_alias (kind : SensorKind) : kind.name ≠ infraredAlias := by
  cases kind <;> decide

/-- The table has the written names and one more. -/
theorem mem_names_iff {folded : String} {kind : SensorKind} :
    (folded, kind) ∈ names ↔ folded = kind.name ∨ (folded = infraredAlias ∧ kind = .infrared) := by
  cases kind <;> simp [names, name, infraredAlias]

/-- **A folded name is looked up in the table.** -/
theorem ofFolded?_eq_some_iff {folded : String} {kind : SensorKind} :
    ofFolded? folded = some kind ↔ (folded, kind) ∈ names := by
  rw [mem_names_iff, ofFolded?]
  by_cases halias : folded = infraredAlias
  · have hname : folded ≠ kind.name := fun h => kind.name_ne_alias (h.symm.trans halias)
    rw [if_pos halias, Option.some.injEq, eq_comm]
    constructor
    · intro h
      exact .inr ⟨halias, h⟩
    · intro h
      exact (h.resolve_left hname).2
  · rw [if_neg halias, Text.find?_name_eq_some_iff mem_all name_injective]
    constructor
    · intro h
      exact .inl h.symm
    · rintro (h | ⟨h, -⟩)
      · exact h.symm
      · exact absurd h halias

theorem mem_names_fold_iff {text : String} {kind : SensorKind} :
    (Text.fold text, kind) ∈ names ↔ IsNamed text kind := by
  rw [mem_names_iff, Text.fold_eq_iff, Text.fold_eq_iff]
  rfl

/-! ### What is read -/

theorem parse_eq_ok_iff {text : String} {kind : SensorKind} :
    parse text = .ok kind ↔ (Text.fold text, kind) ∈ names := by
  rw [← ofFolded?_eq_some_iff, parse]
  rcases ofFolded? (Text.fold text) with _ | found
  · simp
  · simp

/-- **What is no name is handed back as it was given.** -/
theorem parse_eq_error_iff {text : String} :
    parse text = .error ⟨text⟩ ↔ ∀ kind, ¬ IsNamed text kind := by
  simp only [← mem_names_fold_iff, ← ofFolded?_eq_some_iff, parse]
  rcases ofFolded? (Text.fold text) with _ | found
  · simp
  · simp

theorem parse_name (kind : SensorKind) : parse kind.name = .ok kind := by
  rw [parse_eq_ok_iff, mem_names_iff]
  left
  cases kind <;> decide

/-- Texts that are folded alike are read alike. -/
theorem parse_of_fold_eq {s t : String} (h : Text.fold s = Text.fold t) :
    (∃ kind, parse s = .ok kind ∧ parse t = .ok kind) ∨
      (parse s = .error ⟨s⟩ ∧ parse t = .error ⟨t⟩) := by
  rw [parse, parse, h]
  rcases ofFolded? (Text.fold t) with _ | found
  · exact .inr ⟨rfl, rfl⟩
  · exact .inl ⟨found, rfl, rfl⟩

/-! ### The characters of a name -/

/-- Names are made of small ASCII letters and hyphens. -/
theorem smallOrHyphen_of_mem_names {folded : String} {kind : SensorKind} (h : (folded, kind) ∈ names) :
    ∀ c ∈ folded.toList, c.toNat = 45 ∨ (97 ≤ c.toNat ∧ c.toNat ≤ 122) := by
  have hall : ∀ entry ∈ names,
      (entry.1.toList.all fun c => c.toNat = 45 ∨ (97 ≤ c.toNat ∧ c.toNat ≤ 122)) = true := by
    decide
  intro c hc
  simpa using List.all_eq_true.mp (hall _ h) c hc

/-- **A text that is read has ASCII letters, hyphens and underscores only.** -/
theorem letterOrLine_of_parse {text : String} {kind : SensorKind} (h : parse text = .ok kind) :
    ∀ c ∈ text.toList, c.toNat = 45 ∨ c.toNat = 95 ∨ (65 ≤ c.toNat ∧ c.toNat ≤ 90) ∨
      (97 ≤ c.toNat ∧ c.toNat ≤ 122) := by
  intro c hc
  have hmem : Text.foldChar c ∈ (Text.fold text).toList := by
    rw [Text.fold, String.toList_ofList]
    exact List.mem_map_of_mem hc
  have hfolded := smallOrHyphen_of_mem_names (parse_eq_ok_iff.mp h) _ hmem
  rw [Text.toNat_foldChar] at hfolded
  split_ifs at hfolded <;> omega

/-- None of these characters is a blank. -/
theorem not_isBlank_of_letterOrLine {c : Char}
    (h : c.toNat = 45 ∨ c.toNat = 95 ∨ (65 ≤ c.toNat ∧ c.toNat ≤ 90) ∨ (97 ≤ c.toNat ∧ c.toNat ≤ 122)) :
    Text.isBlank c = false := by
  rw [Bool.eq_false_iff]
  intro hblank
  obtain ⟨range, hrange, hfirst, hlast⟩ := (Text.inRanges_iff _ _).mp hblank
  have hbeside : ∀ range ∈ Text.blanks, range.2 ≤ 32 ∨ 133 ≤ range.1 := by decide
  have hside := hbeside range hrange
  omega

/-- **The names of sensors are resolved exactly.** A text is read as a kind if and only if it is a name of the kind, and
these are the names of the table; any other text is handed back as it was given. So texts that differ only in the case
of ASCII letters and in underscores for hyphens are read as the same kind, or each of them is refused; the written name
of a kind is read as this kind; and what has a character outside ASCII, or a blank at an end or elsewhere, is refused. -/
theorem sensor_names_resolve_exactly :
    (∀ (text : String) (kind : SensorKind), parse text = .ok kind ↔ IsNamed text kind) ∧
    (∀ (text : String) (kind : SensorKind), IsNamed text kind ↔ (Text.fold text, kind) ∈ names) ∧
    (∀ text : String, parse text = .error ⟨text⟩ ↔ ∀ kind, ¬ IsNamed text kind) ∧
    (∀ s t : String, List.Forall₂ Text.Alike s.toList t.toList →
      (∃ kind, parse s = .ok kind ∧ parse t = .ok kind) ∨
        (parse s = .error ⟨s⟩ ∧ parse t = .error ⟨t⟩)) ∧
    (∀ kind : SensorKind, parse kind.name = .ok kind) ∧
    (∀ text : String, (∃ c ∈ text.toList, 128 ≤ c.toNat ∨ Text.isBlank c = true) →
      parse text = .error ⟨text⟩) := by
  refine ⟨fun text kind => parse_eq_ok_iff.trans mem_names_fold_iff,
    fun text kind => mem_names_fold_iff.symm, fun text => parse_eq_error_iff, ?_, parse_name, ?_⟩
  · intro s t halike
    exact parse_of_fold_eq ((Text.fold_eq_fold_iff s t).mpr halike)
  · rintro text ⟨c, hc, hother⟩
    rw [parse_eq_error_iff]
    intro kind hnamed
    have hplain := letterOrLine_of_parse (parse_eq_ok_iff.mpr (mem_names_fold_iff.mpr hnamed)) c hc
    rcases hother with hforeign | hblank
    · omega
    · rw [not_isBlank_of_letterOrLine hplain] at hblank
      cases hblank

/-- A name in two spellings, and two texts that only look like names: the s of the one is the long s, and behind the
other one stands a blank. -/
theorem sensor_names_resolve_exactly_in_capitals :
    List.Forall₂ Text.Alike "NXT_Sound".toList "nxt-sOUND".toList ∧
    parse "NXT_Sound" = .ok .nxtSound ∧ parse "nxt-sOUND" = .ok .nxtSound ∧
    parse "nxt-ſound" = .error ⟨"nxt-ſound"⟩ ∧ parse "IR " = .error ⟨"IR "⟩ := by
  obtain ⟨hread, -, -, halike, -, hrefused⟩ := sensor_names_resolve_exactly
  have hspellings : List.Forall₂ Text.Alike "NXT_Sound".toList "nxt-sOUND".toList := by
    rw [← Text.fold_eq_fold_iff]
    decide
  have hfirst : parse "NXT_Sound" = .ok .nxtSound := (hread _ _).mpr (.inl (by decide))
  refine ⟨hspellings, hfirst, ?_, hrefused _ ⟨'ſ', by decide, .inl (by decide)⟩,
    hrefused _ ⟨' ', by decide, .inr (by decide)⟩⟩
  rcases halike _ _ hspellings with ⟨kind, hone, hother⟩ | ⟨hone, -⟩
  · rw [hother, ← hone, hfirst]
  · rw [hfirst] at hone
    cases hone

end BrickControl.SensorKind
