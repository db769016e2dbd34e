import BrickControl.Text.Blank
import BrickControl.Text.Lines
import BrickControl.Text.Terminal

/-!
# Refused command lines

A command line is refused for a cause, or because it asks for help.

* `Verb` is what a command line can ask the program to do, `Topic` what help can be about;
* `Refusal` is a cause, `Refusal.message` the text of it, `Refusal.lines` what a stream shows of it;
* `Refusal.exitCode` is what the program ends with.
-/

namespace BrickControl.CommandLine

/-- The name of the program. -/
def programName : String := "ev3-direct"

/-- What a command line can ask for. -/
inductive Verb where
  | tone
  | led
  | motor
  | stop
  | sensor
  | keepAlive
  deriving DecidableEq, Repr

namespace Verb

/-- Every verb, in the order of the help text. -/
def all : List Verb := [.tone, .led, .motor, .stop, .sensor, .keepAlive]

/-- The word on the command line. -/
def word : Verb → String
  | .tone => "tone"
  | .led => "led"
  | .motor => "motor"
  | .stop => "stop"
  | .sensor => "sensor"
  | .keepAlive => "keep-alive"

/-- What the verb does, in one line. -/
def about : Verb → String
  | .tone => "Play a tone on the brick speaker"
  | .led => "Set the button LED pattern"
  | .motor => "Run motors at a given speed"
  | .stop => "Stop motors (all outputs and sound when no ports are given)"
  | .sensor => "Read a sensor value"
  | .keepAlive => "Reset the brick's sleep timer"

/-- The verb of a word. -/
def ofWord? (s : String) : Option Verb := all.find? fun verb => decide (verb.word = s)

end Verb

/-- The word that asks for help. -/
def helpWord : String := "help"

/-- What help can be about. -/
inductive Topic where
  /-- The program. -/
  | program
  | verb (verb : Verb)
  /-- Help itself. -/
  | help
  deriving DecidableEq, Repr

/-- The first line of a help text. -/
def Topic.about : Topic → String
  | .program => "Drive a LEGO EV3 brick with direct commands"
  | .verb v => v.about
  | .help => "Print this message or the help of the given subcommand(s)"

/-- Why a command line is not carried out. Options are named as a usage line names them. -/
inductive Refusal where
  /-- Help was asked for. -/
  | help (topic : Topic)
  /-- Nothing was asked for. -/
  | nothing
  /-- Flags were given, but no verb. -/
  | missingVerb
  /-- A word where a verb is due, that is none. -/
  | unknownVerb (word : String)
  /-- A word or option that has no place. -/
  | unknownArgument (word : String)
  /-- A value for a flag. -/
  | unexpectedValue (value flag : String)
  /-- An option without its value. -/
  | missingValue (option : String)
  /-- A value that the option does not take, with the reason. -/
  | invalidValue (value option reason : String)
  /-- An option given twice. -/
  | repeated (option : String)
  /-- Options that the verb cannot do without. -/
  | missingOptions (options : List String)
  deriving DecidableEq, Repr

namespace Refusal

/-- The words that may follow the name of the program. -/
def verbWords : List String := Verb.all.map Verb.word ++ [helpWord]

/-- The whole complaint, with what the user typed made fit for a terminal. -/
def complaint (medium : Text.Terminal.Medium) : Refusal → String
  | .help topic => topic.about
  | .nothing => Topic.about .program
  | .missingVerb =>
    "error: '" ++ programName ++ "' requires a subcommand but one was not provided\n  [subcommands: " ++
      ", ".intercalate verbWords ++ "]"
  | .unknownVerb word => "error: unrecognized subcommand '" ++ Text.Terminal.plain medium word ++ "'"
  | .unknownArgument word => "error: unexpected argument '" ++ Text.Terminal.plain medium word ++ "' found"
  | .unexpectedValue value flag =>
    "error: unexpected value '" ++ Text.Terminal.plain medium value ++ "' for '" ++ flag ++
      "' found; no more were expected"
  | .missingValue option =>
    "error: a value is required for '" ++ option ++ "' but none was supplied"
  | .invalidValue value option reason =>
    "error: invalid value '" ++ Text.Terminal.plain medium value ++ "' for '" ++ option ++ "': " ++ reason
  | .repeated option => "error: the argument '" ++ option ++ "' cannot be used multiple times"
  | .missingOptions options =>
    "error: the following required arguments were not provided:" ++
      String.join (options.map fun option => "\n  " ++ option)

/-- The first paragraph of the complaint, which is all that is kept of it, without blanks at its end. -/
def message (refusal : Refusal) : String :=
  String.ofList (Text.trimEnd (Text.firstParagraph (refusal.complaint .message).toList))

/-- The lines of the complaint on a stream, up to the first empty one. -/
def lines (refusal : Refusal) : List String :=
  (Text.lines (refusal.complaint .stream)).takeWhile (· != "")

/-- Help that was asked for is a success. -/
def exitCode : Refusal → Nat
  | .help _ => 0
  | _ => 2

end Refusal

end BrickControl.CommandLine
