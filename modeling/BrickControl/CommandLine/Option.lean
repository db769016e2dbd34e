import BrickControl.CommandLine.Refusal
import BrickControl.Led
import BrickControl.Outputs
import BrickControl.Sensor

/-!
# Options

The options of the command line: how each is written, what its help says, and what it does to the settings.

* `Settings` holds every setting with its default;
* `Opt` is an option: a flag, the flag that asks for help, or an option with a value;
* `rootOptions` and `Verb.options` list the options of the program and of each verb.
-/

namespace BrickControl.CommandLine

/-- What the options set. -/
structure Settings where
  verbose : Bool := false
  device : String := "/dev/rfcomm0"
  baud : UInt32 := 115200
  timeoutMs : UInt64 := 1000
  dryRun : Bool := false
  hz : UInt32 := 440
  ms : UInt32 := 500
  volume : UInt32 := 100
  status : Option UInt8 := none
  outputs : Option Outputs := none
  speed : Option Int32 := none
  brake : Bool := false
  port : Option UInt8 := none
  kind : Option SensorKind := none
  count : UInt32 := 1
  intervalMs : UInt64 := 100
  minutes : UInt8 := 30
  deriving DecidableEq, Repr

/-- An option without a value. -/
structure Flag where
  name : String
  short : Option Char
  help : String
  mark : Settings → Settings

/-- An option with one value. -/
structure ValueOption where
  name : String
  /-- The name of the value in a usage line. -/
  label : String
  help : String
  /-- The default that the help shows. -/
  default : Option String
  /-- May the value begin with a hyphen, even where it looks like an option? -/
  hyphens : Bool
  /-- Reads the value into the settings, or gives the reason why not. -/
  store : String → Settings → Except String Settings

/-- An option. -/
inductive Opt where
  /-- The flag that asks for help. -/
  | help
  | flag (flag : Flag)
  | value (option : ValueOption)

/-- The option with its value, as a usage line writes it. -/
def ValueOption.usage (option : ValueOption) : String :=
  "--" ++ option.name ++ " <" ++ option.label ++ ">"

/-- A flag as a usage line writes it. -/
def Flag.usage (flag : Flag) : String := "--" ++ flag.name

/-- The name behind two hyphens. -/
def Opt.name : Opt → String
  | .help => helpWord
  | .flag f => f.name
  | .value option => option.name

/-- The letter behind one hyphen. -/
def Opt.short? : Opt → Option Char
  | .help => some 'h'
  | .flag f => f.short
  | .value _ => none

/-! ### Values -/

/-- The largest number of eight bytes with a sign. -/
def maxSigned : Nat := 9223372036854775807

/-- The largest number of eight bytes without a sign. -/
def maxUnsigned : Nat := 18446744073709551615

/-- A number in a range; outside of it the reason names the range. -/
def numberIn (low high : Int) (text : String) : Except String Int :=
  match Numeral.integer 10 (maxSigned + 1) maxSigned text.toList with
  | .error fault => .error fault.message
  | .ok n =>
    if low ≤ n ∧ n ≤ high then .ok n
    else .error (toString n ++ " is not in " ++ toString low ++ "..=" ++ toString high)

/-- A count of milliseconds in eight bytes. -/
def longMs (text : String) : Except String UInt64 :=
  match Numeral.natural 10 maxUnsigned text.toList with
  | .error fault => .error fault.message
  | .ok n => .ok (UInt64.ofNat n)

/-- A number of four bytes, without sign. -/
def word32 (text : String) : Except String UInt32 :=
  (numberIn 0 4294967295 text).map fun n => UInt32.ofNat n.toNat

/-- A status of the button lights. -/
def statusOf (text : String) : Except String UInt8 :=
  match Led.status? text with
  | some status => .ok status
  | none => .error "led status must be a pattern name or a byte value"

/-- A set of motor outputs. -/
def outputsOf (text : String) : Except String Outputs :=
  match Outputs.parse text with
  | .ok outputs => .ok outputs
  | .error fault => .error fault.message

/-- A kind of sensor. -/
def kindOf (text : String) : Except String SensorKind :=
  match SensorKind.parse text with
  | .ok kind => .ok kind
  | .error unknown => .error unknown.message

/-! ### The options -/

def deviceOption : ValueOption := {
  name := "dev", label := "DEV", help := "Serial device path (Bluetooth RFCOMM or USB)"
  default := some "/dev/rfcomm0", hyphens := false
  store := fun text settings => .ok { settings with device := text } }

def verboseOption : Flag := {
  name := "verbose", short := some 'v', help := "Log every packet (same as RUST_LOG=debug)"
  mark := fun settings => { settings with verbose := true } }

def baudOption : ValueOption := {
  name := "baud", label := "BAUD", help := "Baud rate", default := some "115200", hyphens := false
  store := fun text settings => (word32 text).map fun n => { settings with baud := n } }

def timeoutOption : ValueOption := {
  name := "timeout-ms", label := "TIMEOUT_MS", help := "Read timeout for replies in milliseconds"
  default := some "1000", hyphens := false
  store := fun text settings => (longMs text).map fun n => { settings with timeoutMs := n } }

def dryRunOption : Flag := {
  name := "dry-run", short := none, help := "Print encoded packets instead of sending them"
  mark := fun settings => { settings with dryRun := true } }

def hzOption : ValueOption := {
  name := "hz", label := "HZ", help := "Frequency in Hz (capped at 10000)"
  default := some "440", hyphens := false
  store := fun text settings => (word32 text).map fun n => { settings with hz := n } }

def msOption : ValueOption := {
  name := "ms", label := "MS", help := "Duration in milliseconds (0 sends nothing)"
  default := some "500", hyphens := false
  store := fun text settings => (word32 text).map fun n => { settings with ms := n } }

def volumeOption : ValueOption := {
  name := "volume", label := "VOLUME", help := "Volume in percent (0 sends nothing)"
  default := some "100", hyphens := false
  store := fun text settings => (word32 text).map fun n => { settings with volume := n } }

def statusOption : ValueOption := {
  name := "status", label := "STATUS"
  help := "Pattern name (off, green, red-flash, orange-pulse, ...) or raw byte"
  default := none, hyphens := false
  store := fun text settings => (statusOf text).map fun n => { settings with status := some n } }

/-- The option that names motor outputs, with the help of its verb. -/
def outputsOption (help : String) : ValueOption := {
  name := "ports", label := "PORTS", help := help, default := none, hyphens := false
  store := fun text settings =>
    (outputsOf text).map fun outputs => { settings with outputs := some outputs } }

/-- The outputs that a motor command runs. -/
def motorOutputsOption : ValueOption :=
  outputsOption "Output ports, e.g. \"A\", \"BC\" or \"all\""

/-- The outputs that a stop command stops. -/
def stopOutputsOption : ValueOption :=
  outputsOption "Output ports to stop; omit to stop everything"

def speedOption : ValueOption := {
  name := "speed", label := "SPEED", help := "Speed -100..=100", default := none, hyphens := true
  store := fun text settings =>
    (numberIn (-2147483648) 2147483647 text).map fun n =>
      { settings with speed := some (Int32.ofInt n) } }

def brakeOption : Flag := {
  name := "brake", short := none, help := "Brake instead of coasting"
  mark := fun settings => { settings with brake := true } }

def portOption : ValueOption := {
  name := "port", label := "PORT", help := "Input port 1..=4", default := none, hyphens := false
  store := fun text settings =>
    (numberIn 1 4 text).map fun n => { settings with port := some (UInt8.ofNat n.toNat) } }

def kindOption : ValueOption := {
  name := "kind", label := "KIND"
  help := "Sensor kind (touch, color, infrared, ultrasonic, gyro, nxt-light, ...)"
  default := none, hyphens := false
  store := fun text settings => (kindOf text).map fun kind => { settings with kind := some kind } }

def countOption : ValueOption := {
  name := "count", label := "COUNT", help := "Number of readings"
  default := some "1", hyphens := false
  store := fun text settings => (word32 text).map fun n => { settings with count := n } }

def intervalOption : ValueOption := {
  name := "interval-ms", label := "INTERVAL_MS", help := "Pause between readings in milliseconds"
  default := some "100", hyphens := false
  store := fun text settings => (longMs text).map fun n => { settings with intervalMs := n } }

def minutesOption : ValueOption := {
  name := "minutes", label := "MINUTES", help := "Minutes until the brick may sleep"
  default := some "30", hyphens := false
  store := fun text settings =>
    (numberIn 0 255 text).map fun n => { settings with minutes := UInt8.ofNat n.toNat } }

/-- The options of the program itself, which stand before the verb. -/
def rootOptions : List Opt := [.flag verboseOption, .help]

/-- The options that only one verb has. -/
def Verb.ownOptions : Verb → List Opt
  | .tone => [.value hzOption, .value msOption, .value volumeOption]
  | .led => [.value statusOption]
  | .motor => [.value motorOutputsOption, .value speedOption]
  | .stop => [.value stopOutputsOption, .flag brakeOption]
  | .sensor => [.value portOption, .value kindOption, .value countOption, .value intervalOption]
  | .keepAlive => [.value minutesOption]

/-- The options that a verb cannot do without. -/
def Verb.needs : Verb → List ValueOption
  | .led => [statusOption]
  | .motor => [motorOutputsOption, speedOption]
  | .sensor => [portOption, kindOption]
  | _ => []

/-- The options of a verb, in the order of its help text. -/
def Verb.options (verb : Verb) : List Opt :=
  [.value deviceOption, .flag verboseOption, .value baudOption, .value timeoutOption,
    .flag dryRunOption] ++ verb.ownOptions ++ [.help]

/-- The option of a name. -/
def findLong? (options : List Opt) (name : String) : Option Opt :=
  options.find? fun option => decide (option.name = name)

/-- The option of a letter. -/
def findShort? (options : List Opt) (letter : Char) : Option Opt :=
  options.find? fun option => decide (option.short? = some letter)

end BrickControl.CommandLine
