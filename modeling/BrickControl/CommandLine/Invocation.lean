import BrickControl.CommandLine.Scan

/-!
# Invocations

What an accepted command line asks for, with every option that its verb needs.

* `Task` is what is to be done, `Invocation` the task with the settings around it;
* `Task.ofSettings` finds the options that are missing;
* `Invocation.parse` reads a command line.
-/

namespace BrickControl.CommandLine

/-- What is to be done. -/
inductive Task where
  | tone (hz ms volume : UInt32)
  | led (status : UInt8)
  | motor (outputs : Outputs) (speed : Int32)
  /-- Stop some outputs, or everything where none are named. -/
  | stop (outputs : Option Outputs) (brake : Bool)
  /-- Read a sensor a number of times, with a pause between the readings. -/
  | sensor (port : UInt8) (kind : SensorKind) (count : UInt32) (intervalMs : UInt64)
  | keepAlive (minutes : UInt8)
  deriving DecidableEq, Repr

/-- How the brick is reached. -/
structure SerialSettings where
  device : String
  baud : UInt32
  timeoutMs : UInt64
  /-- Packets are printed and not sent. -/
  dryRun : Bool
  deriving DecidableEq, Repr

/-- An accepted command line. -/
structure Invocation where
  verbose : Bool
  task : Task
  serial : SerialSettings
  deriving DecidableEq, Repr

/-- The refusal that names the options a verb needs and was not given. Whether each was given is told in the
order of `Verb.needs`. -/
def Verb.missing (verb : Verb) (given : List Bool) : Refusal :=
  .missingOptions (((given.zip verb.needs).filter fun need => !need.1).map fun need => need.2.usage)

/-- The task of a verb; an option that the verb cannot do without must have been given. -/
def Task.ofSettings (settings : Settings) : Verb → Except Refusal Task
  | .tone => .ok (.tone settings.hz settings.ms settings.volume)
  | .led =>
    match settings.status with
    | some status => .ok (.led status)
    | none => .error (Verb.led.missing [false])
  | .motor =>
    match settings.outputs, settings.speed with
    | some outputs, some speed => .ok (.motor outputs speed)
    | outputs, speed => .error (Verb.motor.missing [outputs.isSome, speed.isSome])
  | .stop => .ok (.stop settings.outputs settings.brake)
  | .sensor =>
    match settings.port, settings.kind with
    | some port, some kind => .ok (.sensor port kind settings.count settings.intervalMs)
    | port, kind => .error (Verb.sensor.missing [port.isSome, kind.isSome])
  | .keepAlive => .ok (.keepAlive settings.minutes)

/-- Reads a command line, without the name of the program. -/
def Invocation.parse (words : List String) : Except Refusal Invocation :=
  match scanRoot (Scan.start {}) words with
  | .error refusal => .error refusal
  | .ok (settings, verb, rest) =>
    match scanVerb verb (Scan.start settings) rest with
    | .error refusal => .error refusal
    | .ok settings =>
      match Task.ofSettings settings verb with
      | .error refusal => .error refusal
      | .ok task =>
        .ok {
          verbose := settings.verbose
          task := task
          serial := ⟨settings.device, settings.baud, settings.timeoutMs, settings.dryRun⟩ }

end BrickControl.CommandLine
