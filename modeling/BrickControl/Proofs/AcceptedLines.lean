import BrickControl.CommandLine.Invocation
import BrickControl.Proofs.OutputSets

/-!
# What an accepted command line can ask for

A command line is accepted option by option, and each option refuses values out of its range. So whatever every option
of a verb keeps of the settings, the whole command line keeps, and an accepted task has a port that exists and outputs
that were named.

* `Opt.Keeps`: an option keeps a property of the settings;
* `scanVerb_keeps` and `scanRoot_keeps`: a scan keeps what its options keep, word by word;
* `Settings.AreInRange` and `Verb.keeps_areInRange`: the ranges that every option keeps;
* `Outputs.Obtainable`: the sets of outputs that can be made, none of them empty;
* `Invocation.inRange_of_parse`: the arguments of an accepted task are in range.
-/

namespace BrickControl

/-! ### Sets of outputs -/

/-- A set of outputs that can be made: read from a text, one of the constants, or a union. -/
inductive Outputs.Obtainable : Outputs → Prop where
  | parsed {text : String} {outputs : Outputs} (h : parse text = .ok outputs) : Obtainable outputs
  | only (output : Output) : Obtainable (Outputs.only output)
  | all : Obtainable Outputs.all
  | union {s t : Outputs} (hs : Obtainable s) (ht : Obtainable t) : Obtainable (s.union t)

/-- No set of outputs that can be made is empty. -/
theorem Outputs.Obtainable.ne_empty {outputs : Outputs} (h : outputs.Obtainable) :
    outputs ≠ Outputs.empty := by
  induction h with
  | parsed h => exact ne_empty_of_parse h
  | only output => cases output <;> decide
  | all => decide
  | union hs ht ihs iht => exact union_ne_empty ihs _

namespace CommandLine

/-! ### What options keep -/

section Keeps

variable (P : Settings → Prop)

def ValueOption.Keeps (option : ValueOption) : Prop :=
  ∀ text settings after, P settings → option.store text settings = .ok after → P after

def Flag.Keeps (flag : Flag) : Prop := ∀ settings, P settings → P (flag.mark settings)

/-- An option keeps a property of the settings, whatever its value. -/
def Opt.Keeps : Opt → Prop
  | .help => True
  | .flag f => f.Keeps P
  | .value option => option.Keeps P

/-- A property of the settings holds between two words, and what waits to be settled keeps it. -/
structure Scan.Holds (scan : Scan) : Prop where
  settings : P scan.settings
  waiting : ∀ option value, scan.waiting = some (option, value) → option.Keeps P

variable {P} {scan after : Scan}

theorem Scan.Holds.note {name usage : String} (h : scan.Holds P)
    (hnote : scan.note name usage = .ok after) : after.Holds P := by
  rw [Scan.note] at hnote
  split at hnote
  · exact absurd hnote (by simp)
  · obtain rfl := Except.ok.inj hnote
    exact ⟨h.settings, h.waiting⟩

theorem Scan.Holds.assign {option : ValueOption} {value : String} (h : scan.Holds P)
    (hkeeps : option.Keeps P) (hassign : scan.assign option value = .ok after) :
    after.Holds P := by
  rw [Scan.assign] at hassign
  split at hassign
  · exact absurd hassign (by simp)
  · rename_i noted hnote
    have hnoted := h.note hnote
    split at hassign
    · exact absurd hassign (by simp)
    · rename_i settings hstore
      obtain rfl := Except.ok.inj hassign
      exact ⟨hkeeps _ _ _ hnoted.settings hstore, hnoted.waiting⟩

theorem Scan.Holds.settle (h : scan.Holds P) (hsettle : scan.settle = .ok after) :
    after.Holds P := by
  rw [Scan.settle] at hsettle
  split at hsettle
  · exact Except.ok.inj hsettle ▸ h
  · exact absurd hsettle (by simp)
  · rename_i option value hwaiting
    have hbare : Scan.Holds P { scan with waiting := none } :=
      ⟨h.settings, fun _ _ hnone => absurd hnone (by simp)⟩
    exact hbare.assign (h.waiting _ _ hwaiting) hsettle

theorem Scan.Holds.mark {flag : Flag} (h : scan.Holds P) (hkeeps : flag.Keeps P)
    (hmark : scan.mark flag = .ok after) : after.Holds P := by
  rw [Scan.mark] at hmark
  split at hmark
  · exact absurd hmark (by simp)
  · rename_i settled hsettle
    split at hmark
    · exact absurd hmark (by simp)
    · rename_i noted hnote
      have hnoted := (h.settle hsettle).note hnote
      obtain rfl := Except.ok.inj hmark
      exact ⟨hkeeps _ hnoted.settings, hnoted.waiting⟩

/-- Asking for help never goes on. -/
theorem Scan.help_ne_ok (scan after : Scan) (topic : Topic) : scan.help topic ≠ .ok after := by
  rw [Scan.help]
  split <;> simp

theorem keeps_of_findLong? {options : List Opt} {name : String} {option : Opt}
    (hkeeps : ∀ option ∈ options, option.Keeps P) (h : findLong? options name = some option) :
    option.Keeps P :=
  hkeeps option (List.mem_of_find?_eq_some h)

theorem keeps_of_findShort? {options : List Opt} {letter : Char} {option : Opt}
    (hkeeps : ∀ option ∈ options, option.Keeps P) (h : findShort? options letter = some option) :
    option.Keeps P :=
  hkeeps option (List.mem_of_find?_eq_some h)

theorem Scan.Holds.long {topic : Topic} {options : List Opt} {name : String}
    {value : Option String} (h : scan.Holds P) (hkeeps : ∀ option ∈ options, option.Keeps P)
    (hlong : scan.long topic options name value = .ok after) : after.Holds P := by
  unfold Scan.long at hlong
  split at hlong
  · exact absurd hlong (by simp)
  · rename_i option value hfind
    split at hlong
    · exact absurd hlong (by simp)
    · rename_i settled hsettle
      exact (h.settle hsettle).assign (keeps_of_findLong? hkeeps hfind) hlong
  · rename_i option hfind
    split at hlong
    · exact absurd hlong (by simp)
    · rename_i settled hsettle
      obtain rfl := Except.ok.inj hlong
      refine ⟨(h.settle hsettle).settings, ?_⟩
      intro option' value' hwaiting
      obtain ⟨rfl, -⟩ := Prod.mk.inj (Option.some.inj hwaiting)
      exact keeps_of_findLong? hkeeps hfind
  · rename_i flag hfind
    exact h.mark (keeps_of_findLong? hkeeps hfind) hlong
  · exact absurd hlong (by simp)
  · exact absurd hlong (scan.help_ne_ok after topic)
  · exact absurd hlong (by simp)

theorem Scan.Holds.short {topic : Topic} {options : List Opt}
    (hkeeps : ∀ option ∈ options, option.Keeps P) :
    ∀ (letters : List Char) {scan : Scan}, scan.Holds P →
      scan.short topic options letters = .ok after → after.Holds P := by
  intro letters
  induction letters with
  | nil =>
    intro scan h hshort
    exact Except.ok.inj hshort ▸ h
  | cons letter rest ih =>
    intro scan h hshort
    rw [Scan.short] at hshort
    split at hshort
    · rename_i flag hfind
      split at hshort
      · exact absurd hshort (by simp)
      · rename_i marked hmark
        exact ih (h.mark (keeps_of_findShort? hkeeps hfind) hmark) hshort
    · exact absurd hshort (scan.help_ne_ok after topic)
    · exact absurd hshort (by simp)

theorem Scan.keeps_of_takes {form : Form} {option : ValueOption} (h : scan.Holds P)
    (htakes : scan.takes form = some option) : option.Keeps P := by
  rw [Scan.takes] at htakes
  split at htakes
  · rename_i option' hwaiting
    split at htakes
    · exact Option.some.inj htakes ▸ h.waiting _ _ hwaiting
    · exact absurd htakes (by simp)
  · exact absurd htakes (by simp)

theorem Scan.Holds.end (h : scan.Holds P) {settings : Settings}
    (hend : scan.settle.map Scan.settings = .ok settings) : P settings := by
  cases hsettle : scan.settle with
  | error refusal =>
    rw [hsettle] at hend
    exact absurd hend (by simp [Except.map])
  | ok settled =>
    rw [hsettle] at hend
    exact Except.ok.inj hend ▸ (h.settle hsettle).settings

/-- **A scan keeps what its options keep**, up to the end of the words. -/
theorem scanVerb_keeps {verb : Verb} (hkeeps : ∀ option ∈ verb.options, option.Keeps P)
    {settings : Settings} :
    ∀ (words : List String) {scan : Scan}, scan.Holds P →
      scanVerb verb scan words = .ok settings → P settings := by
  -- induction on the words left; the option that waits is part of what the scan holds
  intro words
  induction words with
  | nil =>
    intro scan h hscan
    exact h.end hscan
  | cons word rest ih =>
    intro scan h hscan
    unfold scanVerb at hscan
    simp only at hscan
    split at hscan
    · -- the word is the value that an option waits for
      rename_i option htakes
      have hwaits : Scan.Holds P { scan with waiting := some (option, some word) } := by
        refine ⟨h.settings, ?_⟩
        intro option' value' hwaiting
        obtain ⟨rfl, -⟩ := Prod.mk.inj (Option.some.inj hwaiting)
        exact Scan.keeps_of_takes h htakes
      exact ih hwaits hscan
    · split at hscan
      · exact absurd hscan (by simp)
      · split at hscan
        · exact h.end hscan
        · exact absurd hscan (by simp)
      · split at hscan
        · exact absurd hscan (by simp)
        · rename_i hlong
          exact ih (h.long hkeeps hlong) hscan
      · split at hscan
        · exact absurd hscan (by simp)
        · rename_i hshort
          exact ih (Scan.Holds.short hkeeps _ h hshort) hscan

/-- The words before a verb keep what the options of the program keep. -/
theorem scanRoot_keeps (hkeeps : ∀ option ∈ rootOptions, option.Keeps P) {settings : Settings}
    {verb : Verb} {behind : List String} :
    ∀ (words : List String) {scan : Scan}, scan.Holds P →
      scanRoot scan words = .ok (settings, verb, behind) → P settings := by
  intro words
  induction words with
  | nil =>
    intro scan h hscan
    exact absurd hscan (by simp [scanRoot])
  | cons word rest ih =>
    intro scan h hscan
    unfold scanRoot at hscan
    split at hscan
    · exact (Prod.mk.inj (Except.ok.inj hscan)).1 ▸ h.settings
    · split at hscan
      · exact absurd hscan (by simp)
      · split at hscan
        · exact absurd hscan (by simp)
        · split at hscan
          · exact absurd hscan (by simp)
          · split at hscan <;> exact absurd hscan (by simp)
        · split at hscan
          · exact absurd hscan (by simp)
          · rename_i hlong
            exact ih (h.long hkeeps hlong) hscan
        · split at hscan
          · exact absurd hscan (by simp)
          · rename_i hshort
            exact ih (Scan.Holds.short hkeeps _ h hshort) hscan

/-- **A command line keeps what every option keeps.** -/
theorem Invocation.keeps_of_parse {words : List String} {invocation : Invocation}
    (hstart : P {}) (hroot : ∀ option ∈ rootOptions, option.Keeps P)
    (hverb : ∀ verb : Verb, ∀ option ∈ verb.options, option.Keeps P)
    (h : parse words = .ok invocation) :
    ∃ settings verb, P settings ∧ Task.ofSettings settings verb = .ok invocation.task := by
  have hbegins : ∀ settings, P settings → (Scan.start settings).Holds P :=
    fun settings hsettings => ⟨hsettings, fun _ _ hnone => absurd hnone (by simp [Scan.start])⟩
  rw [parse] at h
  split at h
  · exact absurd h (by simp)
  · rename_i settings verb behind hscan
    have hsettings := scanRoot_keeps hroot words (hbegins {} hstart) hscan
    split at h
    · exact absurd h (by simp)
    · rename_i settings' hscan'
      have hsettings' := scanVerb_keeps (hverb verb) behind (hbegins settings hsettings) hscan'
      split at h
      · exact absurd h (by simp)
      · rename_i task htask
        rw [← Except.ok.inj h]
        exact ⟨settings', verb, hsettings', htask⟩

end Keeps

/-! ### Ranges -/

/-- Settings in which every value that was given is in the range of its option. -/
structure Settings.AreInRange (settings : Settings) : Prop where
  port : ∀ port, settings.port = some port → 1 ≤ port ∧ port ≤ 4
  outputs : ∀ outputs, settings.outputs = some outputs → outputs.Obtainable

/-- An option that puts a value into the settings, once that was read, keeps the ranges if the value is in its own. -/
theorem ValueOption.keeps_of_put {α : Type} {option : ValueOption}
    {read : String → Except String α} {put : α → Settings → Settings}
    (hstore : option.store = fun text settings => (read text).map fun a => put a settings)
    (hput : ∀ text a settings, read text = .ok a → settings.AreInRange →
      (put a settings).AreInRange) : option.Keeps Settings.AreInRange := by
  intro text settings after hsettings hafter
  rw [hstore] at hafter
  simp only at hafter
  cases hread : read text with
  | error reason =>
    rw [hread] at hafter
    exact absurd hafter (by simp [Except.map])
  | ok a =>
    rw [hread] at hafter
    exact Except.ok.inj hafter ▸ hput text a settings hread hsettings

/-- An option that puts its value elsewhere keeps the ranges. -/
theorem ValueOption.keeps_of_aside {α : Type} {option : ValueOption}
    {read : String → Except String α} {put : α → Settings → Settings}
    (hstore : option.store = fun text settings => (read text).map fun a => put a settings)
    (hput : ∀ a settings, (put a settings).port = settings.port ∧
      (put a settings).outputs = settings.outputs) : option.Keeps Settings.AreInRange := by
  refine keeps_of_put hstore fun text a settings hread h => ⟨?_, ?_⟩
  · rw [(hput a settings).1]
    exact h.port
  · rw [(hput a settings).2]
    exact h.outputs

theorem numberIn_range {low high n : Int} {text : String} (h : numberIn low high text = .ok n) :
    low ≤ n ∧ n ≤ high := by
  rw [numberIn] at h
  split at h
  · exact absurd h (by simp)
  · split at h
    · rename_i hrange
      exact Except.ok.inj h ▸ hrange
    · exact absurd h (by simp)

theorem portOption_keeps : portOption.Keeps Settings.AreInRange := by
  refine ValueOption.keeps_of_put rfl fun text n settings hread h => ⟨?_, h.outputs⟩
  intro port hport
  obtain ⟨hlow, hhigh⟩ := numberIn_range hread
  have hn : (UInt8.ofNat n.toNat).toNat = n.toNat := by
    rw [UInt8.toNat_ofNat']
    omega
  rw [← Option.some.inj hport, UInt8.le_iff_toNat_le, UInt8.le_iff_toNat_le, hn]
  exact ⟨by show 1 ≤ n.toNat; omega, by show n.toNat ≤ 4; omega⟩

theorem outputsOption_keeps (help : String) :
    (outputsOption help).Keeps Settings.AreInRange := by
  refine ValueOption.keeps_of_put rfl fun text outputs settings hread h => ⟨h.port, ?_⟩
  intro outputs' houtputs
  have hparsed : Outputs.parse text = .ok outputs := by
    rw [outputsOf] at hread
    split at hread
    · rename_i hparse
      rw [hparse, Except.ok.inj hread]
    · exact absurd hread (by simp)
  exact Option.some.inj houtputs ▸ .parsed hparsed

/-- **Every option keeps the ranges**: most put their values elsewhere, the others check them. -/
theorem Verb.keeps_areInRange (verb : Verb) :
    ∀ option ∈ verb.options, option.Keeps Settings.AreInRange := by
  have hshared : ∀ option ∈ [Opt.value deviceOption, .flag verboseOption, .value baudOption,
      .value timeoutOption, .flag dryRunOption], option.Keeps Settings.AreInRange := by
    simp only [List.forall_mem_cons]
    refine ⟨?_, fun settings h => ⟨h.port, h.outputs⟩, ?_, ?_,
      fun settings h => ⟨h.port, h.outputs⟩, by simp⟩
    · intro text settings after h hstore
      exact Except.ok.inj hstore ▸ ⟨h.port, h.outputs⟩
    · exact ValueOption.keeps_of_aside rfl fun _ _ => ⟨rfl, rfl⟩
    · exact ValueOption.keeps_of_aside rfl fun _ _ => ⟨rfl, rfl⟩
  have hown : ∀ option ∈ verb.ownOptions, option.Keeps Settings.AreInRange := by
    cases verb with
    | motor =>
      simp only [Verb.ownOptions, List.forall_mem_cons]
      exact ⟨outputsOption_keeps _, ValueOption.keeps_of_aside rfl fun _ _ => ⟨rfl, rfl⟩, by simp⟩
    | stop =>
      simp only [Verb.ownOptions, List.forall_mem_cons]
      exact ⟨outputsOption_keeps _, fun settings h => ⟨h.port, h.outputs⟩, by simp⟩
    | sensor =>
      simp only [Verb.ownOptions, List.forall_mem_cons]
      exact ⟨portOption_keeps, ValueOption.keeps_of_aside rfl fun _ _ => ⟨rfl, rfl⟩,
        ValueOption.keeps_of_aside rfl fun _ _ => ⟨rfl, rfl⟩,
        ValueOption.keeps_of_aside rfl fun _ _ => ⟨rfl, rfl⟩, by simp⟩
    | tone =>
      simp only [Verb.ownOptions, List.forall_mem_cons]
      exact ⟨ValueOption.keeps_of_aside rfl fun _ _ => ⟨rfl, rfl⟩,
        ValueOption.keeps_of_aside rfl fun _ _ => ⟨rfl, rfl⟩,
        ValueOption.keeps_of_aside rfl fun _ _ => ⟨rfl, rfl⟩, by simp⟩
    | led | keepAlive =>
      simp only [Verb.ownOptions, List.forall_mem_cons]
      exact ⟨ValueOption.keeps_of_aside rfl fun _ _ => ⟨rfl, rfl⟩, by simp⟩
  intro option hmem
  rw [Verb.options, List.mem_append, List.mem_append, List.mem_singleton] at hmem
  rcases hmem with (hmem | hmem) | rfl
  · exact hshared option hmem
  · exact hown option hmem
  · trivial

/-- A task whose arguments are in the ranges of their options. -/
def Task.InRange : Task → Prop
  | .motor outputs _ => outputs.Obtainable
  | .stop (some outputs) _ => outputs.Obtainable
  | .sensor port _ _ _ => 1 ≤ port ∧ port ≤ 4
  | _ => True

theorem Task.inRange_of_settings {settings : Settings} (h : settings.AreInRange) {verb : Verb}
    {task : Task} (htask : Task.ofSettings settings verb = .ok task) : task.InRange := by
  cases verb with
  | motor =>
    rw [ofSettings] at htask
    split at htask
    · rename_i outputs speed houtputs hspeed
      exact Except.ok.inj htask ▸ h.outputs outputs houtputs
    · exact absurd htask (by simp)
  | stop =>
    rw [ofSettings] at htask
    rw [← Except.ok.inj htask]
    cases houtputs : settings.outputs with
    | none => trivial
    | some outputs => exact h.outputs outputs houtputs
  | sensor =>
    rw [ofSettings] at htask
    split at htask
    · rename_i port kind hport hkind
      exact Except.ok.inj htask ▸ h.port port hport
    · exact absurd htask (by simp)
  | led =>
    rw [ofSettings] at htask
    split at htask
    · exact Except.ok.inj htask ▸ trivial
    · exact absurd htask (by simp)
  | tone => exact Except.ok.inj htask ▸ trivial
  | keepAlive => exact Except.ok.inj htask ▸ trivial

/-- **The arguments of an accepted task are in range.** -/
theorem Invocation.inRange_of_parse {words : List String} {invocation : Invocation}
    (h : parse words = .ok invocation) : invocation.task.InRange := by
  have hstart : Settings.AreInRange {} :=
    ⟨fun _ hnone => absurd hnone (by simp), fun _ hnone => absurd hnone (by simp)⟩
  have hroot : ∀ option ∈ rootOptions, option.Keeps Settings.AreInRange := by
    simp only [rootOptions, List.forall_mem_cons]
    exact ⟨fun settings hsettings => ⟨hsettings.port, hsettings.outputs⟩, trivial, by simp⟩
  obtain ⟨settings, verb, hsettings, htask⟩ :=
    keeps_of_parse hstart hroot Verb.keeps_areInRange h
  exact Task.inRange_of_settings hsettings htask

end CommandLine

end BrickControl
