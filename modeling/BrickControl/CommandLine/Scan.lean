import BrickControl.CommandLine.Option

/-!
# Scanning a command line

The words of a command line are read from the left. An option with a value is settled, that is looked up
among those given before and read, only when the next option comes or the words end; a word that has no place
is refused at once, whatever waits to be settled.

* `Form.of` tells options from other words;
* `Scan` is the state between two words, `Scan.settle` settles what waits;
* `scanRoot` reads up to the verb, `scanVerb` what follows it.
-/

namespace BrickControl.CommandLine

/-! ### The form of a word -/

/-- What a word looks like. -/
inductive Form where
  /-- Two hyphens, behind which nothing is an option. -/
  | separator
  /-- Two hyphens and a name, with a value behind an equals sign or without. -/
  | long (name : String) (value : Option String)
  /-- One hyphen and letters. -/
  | short (letters : List Char)
  /-- Anything else. -/
  | plain
  deriving DecidableEq, Repr

/-- The name of a long option, and the value behind the first equals sign. -/
def splitValue (cs : List Char) : String × Option String :=
  match cs.dropWhile (· != '=') with
  | _ :: value => (String.ofList (cs.takeWhile (· != '=')), some (String.ofList value))
  | [] => (String.ofList cs, none)

/-- The form of a word. -/
def Form.of (word : String) : Form :=
  match word.toList with
  | ['-', '-'] => .separator
  | '-' :: '-' :: rest => let (name, value) := splitValue rest; .long name value
  | ['-'] => .plain
  | '-' :: letters => .short letters
  | _ => .plain

/-! ### Settling options -/

/-- The state between two words. -/
structure Scan where
  settings : Settings
  /-- The names of the options settled so far. -/
  given : List String
  /-- The option that waits to be settled, with its value once that is there. -/
  waiting : Option (ValueOption × Option String)

namespace Scan

/-- No option has been given yet. -/
def start (settings : Settings) : Scan := ⟨settings, [], none⟩

/-- Notes that an option is given, for the first time. -/
def note (scan : Scan) (name usage : String) : Except Refusal Scan :=
  if scan.given.contains name then .error (.repeated usage)
  else .ok { scan with given := name :: scan.given }

/-- Settles an option with its value. -/
def assign (scan : Scan) (option : ValueOption) (value : String) : Except Refusal Scan :=
  match scan.note option.name option.usage with
  | .error refusal => .error refusal
  | .ok scan =>
    match option.store value scan.settings with
    | .error reason => .error (.invalidValue value option.usage reason)
    | .ok settings => .ok { scan with settings := settings }

/-- Settles the option that waits. -/
def settle (scan : Scan) : Except Refusal Scan :=
  match scan.waiting with
  | none => .ok scan
  | some (option, none) => .error (.missingValue option.usage)
  | some (option, some value) => { scan with waiting := none }.assign option value

/-- Gives a flag or asks for help, after what waits is settled. -/
def mark (scan : Scan) (flag : Flag) : Except Refusal Scan :=
  match scan.settle with
  | .error refusal => .error refusal
  | .ok scan =>
    match scan.note flag.name flag.usage with
    | .error refusal => .error refusal
    | .ok scan => .ok { scan with settings := flag.mark scan.settings }

/-- Asks for help, after what waits is settled. -/
def help (scan : Scan) (topic : Topic) : Except Refusal Scan :=
  match scan.settle with
  | .error refusal => .error refusal
  | .ok _ => .error (.help topic)

/-- A long option. -/
def long (scan : Scan) (topic : Topic) (options : List Opt) (name : String)
    (value : Option String) : Except Refusal Scan :=
  match findLong? options name, value with
  | none, _ => .error (.unknownArgument ("--" ++ name))
  | some (.value option), some value =>
    match scan.settle with
    | .error refusal => .error refusal
    | .ok scan => scan.assign option value
  | some (.value option), none =>
    match scan.settle with
    | .error refusal => .error refusal
    | .ok scan => .ok { scan with waiting := some (option, none) }
  | some (.flag flag), none => scan.mark flag
  | some (.flag flag), some value => .error (.unexpectedValue value flag.usage)
  | some .help, none => scan.help topic
  | some .help, some value => .error (.unexpectedValue value ("--" ++ helpWord))

/-- The letters behind one hyphen, one option each; no option with a value has a letter. -/
def short (scan : Scan) (topic : Topic) (options : List Opt) : List Char → Except Refusal Scan
  | [] => .ok scan
  | letter :: rest =>
    match findShort? options letter with
    | some (.flag flag) =>
      match scan.mark flag with
      | .error refusal => .error refusal
      | .ok scan => scan.short topic options rest
    | some .help => scan.help topic
    | _ => .error (.unknownArgument (String.ofList ['-', letter]))

/-- Does the word go to the option that waits for its value? -/
def takes (scan : Scan) (form : Form) : Option ValueOption :=
  match scan.waiting with
  | some (option, none) => if option.hyphens || form == .plain then some option else none
  | _ => none

end Scan

/-! ### The two levels -/

/-- Reads the words behind a verb. -/
def scanVerb (verb : Verb) : Scan → List String → Except Refusal Settings
  | scan, [] => scan.settle.map Scan.settings
  | scan, word :: rest =>
    let form := Form.of word
    match scan.takes form with
    | some option => scanVerb verb { scan with waiting := some (option, some word) } rest
    | none =>
      match form with
      | .plain => .error (.unknownArgument word)
      | .separator =>
        match rest with
        | [] => scan.settle.map Scan.settings
        | next :: _ => .error (.unknownArgument next)
      | .long name value =>
        match scan.long (.verb verb) verb.options name value with
        | .error refusal => .error refusal
        | .ok scan => scanVerb verb scan rest
      | .short letters =>
        match scan.short (.verb verb) verb.options letters with
        | .error refusal => .error refusal
        | .ok scan => scanVerb verb scan rest

/-- The help that the words behind `help` ask for. -/
def helpOn : List String → Refusal
  | [] => .help .program
  | word :: rest =>
    match Verb.ofWord? word, rest with
    | some verb, [] => .help (.verb verb)
    | some _, next :: _ => .unknownVerb next
    | none, rest =>
      if word = helpWord then
        match rest with
        | [] => .help .help
        | next :: _ => .unknownVerb next
      else .unknownVerb word

/-- Is there nothing to do, or was a verb forgotten? -/
def withoutVerb (scan : Scan) : Refusal :=
  if scan.given.isEmpty then .nothing else .missingVerb

/-- Reads up to the verb; gives the settings so far, the verb, and the words behind it. -/
def scanRoot : Scan → List String → Except Refusal (Settings × Verb × List String)
  | scan, [] => .error (withoutVerb scan)
  | scan, word :: rest =>
    match Verb.ofWord? word with
    | some verb => .ok (scan.settings, verb, rest)
    | none =>
      if word = helpWord then .error (helpOn rest)
      else
        match Form.of word with
        | .plain => .error (.unknownVerb word)
        | .separator =>
          match rest with
          | [] => .error (withoutVerb scan)
          | next :: _ =>
            if Refusal.verbWords.contains next then .error (.unknownArgument next)
            else .error (.unknownVerb next)
        | .long name value =>
          match scan.long .program rootOptions name value with
          | .error refusal => .error refusal
          | .ok scan => scanRoot scan rest
        | .short letters =>
          match scan.short .program rootOptions letters with
          | .error refusal => .error refusal
          | .ok scan => scanRoot scan rest

end BrickControl.CommandLine
