import BrickControl.CommandLine.Help
import BrickControl.CommandLine.Invocation
import BrickControl.Device
import BrickControl.Line
import BrickControl.LogFilter
import BrickControl.Recorder

/-!
# The program

The program carries out one task on one brick, and leaves a transcript: what it printed, what it complained
about, and its exit code.

* `Task.run` carries out a task on a device, over any transport;
* `Program.run` is the whole program, on a host that gives it a log filter and opens serial lines.
-/

namespace BrickControl

open CommandLine

/-! ### Tasks -/

/-- A fault, with what the program was doing. -/
structure Failure where
  context : String
  fault : Fault
  deriving DecidableEq, Repr

/-- The failure in one line. -/
def Failure.message (failure : Failure) : String :=
  failure.context ++ ": " ++ failure.fault.message

/-- How far a task has come. -/
structure Progress (σ : Type) where
  device : Device σ
  /-- The lines printed, the last one first. -/
  printed : List String
  /-- The events reported, the last one first. -/
  events : List Event

/-- What a task leaves. -/
structure TaskOutcome (σ : Type) where
  result : Except Failure Unit
  progress : Progress σ

namespace Progress

variable {σ : Type} [Transport σ]

/-- Carries out one operation; a value read from a sensor is printed. -/
def perform (progress : Progress σ) (operation : Operation) : Except Fault Unit × Progress σ :=
  let outcome := progress.device.perform operation
  let events := outcome.events.reverse ++ progress.events
  match outcome.result with
  | .ok (.reading value) => (.ok (), ⟨outcome.state, value.text :: progress.printed, events⟩)
  | .ok _ => (.ok (), ⟨outcome.state, progress.printed, events⟩)
  | .error fault => (.error fault, ⟨outcome.state, progress.printed, events⟩)

/-- Carries out one operation in a context. -/
def order (progress : Progress σ) (context : String) (operation : Operation) : TaskOutcome σ :=
  match progress.perform operation with
  | (.ok (), progress) => ⟨.ok (), progress⟩
  | (.error fault, progress) => ⟨.error ⟨context, fault⟩, progress⟩

/-- Reads a sensor `count` times, up to the first fault. In a dry run nothing answers, and a missing reply is
no fault. -/
def readings (dryRun : Bool) (port : UInt8) (kind : SensorKind) :
    Nat → Progress σ → TaskOutcome σ
  | 0, progress => ⟨.ok (), progress⟩
  | count + 1, progress =>
    match progress.perform (.sensor port kind) with
    | (.ok (), progress) => readings dryRun port kind count progress
    | (.error fault, progress) =>
      if fault = .noReply ∧ dryRun then readings dryRun port kind count progress
      else ⟨.error ⟨"read " ++ kind.name ++ " on port " ++ toString port, fault⟩, progress⟩

end Progress

/-- Initialises the device and carries out the task. -/
def CommandLine.Task.run {σ : Type} [Transport σ] (task : Task) (dryRun : Bool)
    (device : Device σ) : TaskOutcome σ :=
  let ready := device.initialise
  let progress : Progress σ := ⟨ready.state, [], ready.events.reverse⟩
  match task with
  | .tone hz ms volume => progress.order "play tone" (.tone hz ms volume)
  | .led status => progress.order "set led" (.led status)
  | .motor outputs speed => progress.order "motor speed" (.motor outputs speed)
  | .stop (some outputs) brake => progress.order "stop motor" (.stop outputs brake)
  | .stop none _ => progress.order "stop all" .stopAll
  | .sensor port kind count _ => progress.readings dryRun port kind count.toNat
  | .keepAlive minutes => progress.order "keep alive" (.keepAlive minutes)

/-! ### The whole program -/

/-- What the program finds around it. -/
structure Host where
  /-- The text of a log filter, if one is set. -/
  logFilter : Option String
  /-- Opens the serial line of a device path, or gives the reason why not. -/
  openLine : String → Except String Line

/-- What a run of the program leaves. -/
structure Transcript where
  exitCode : Nat
  stdout : List String
  stderr : List String
  deriving DecidableEq, Repr

namespace Program

/-- The filter of the host, or that of the command line where the host's is missing or malformed. -/
def filter (host : Host) (verbose : Bool) : LogFilter :=
  (host.logFilter.bind LogFilter.ofText?).getD (LogFilter.ofLevel (if verbose then .debug else .info))

/-- The log lines of events, of which the last one comes first. -/
def logLines (filter : LogFilter) (events : List Event) : List String :=
  (events.reverse.filter filter.allows).map Event.line

/-- The complaint about a failure. -/
def complaint : Except Failure Unit → List String
  | .ok () => []
  | .error failure =>
    ["Error: " ++ failure.context, "", "Caused by:", "    " ++ failure.fault.message]

/-- The exit code of a result. -/
def exitCode : Except Failure Unit → Nat
  | .ok () => 0
  | .error _ => 1

/-- A dry run: the packets are recorded, and printed behind what the task printed. -/
def dryRun (filter : LogFilter) (task : Task) : Transcript :=
  let outcome := task.run true (Device.new Recorder.empty)
  let packets := outcome.progress.device.link.drain.1
  { exitCode := exitCode outcome.result
    stdout := outcome.progress.printed.reverse ++ packets.map Hex.text
    stderr := logLines filter outcome.progress.events ++ complaint outcome.result }

/-- A run over a serial line. -/
def lineRun (filter : LogFilter) (task : Task) (serial : SerialSettings) (line : Line) :
    Transcript :=
  let outcome := task.run false (Device.new line)
  let events := outcome.progress.events ++ [.connected serial.device serial.baud]
  { exitCode := exitCode outcome.result
    stdout := outcome.progress.printed.reverse
    stderr := logLines filter events ++ complaint outcome.result }

/-- The transcript of a refusal: help that was asked for is printed, and all else is a complaint. -/
def refused : Refusal → Transcript
  | .help topic => ⟨0, topic.lines, []⟩
  | refusal => ⟨refusal.exitCode, [], refusal.lines⟩

/-- The program, on a command line without its name. -/
def run (host : Host) (words : List String) : Transcript :=
  match Invocation.parse words with
  | .error refusal => refused refusal
  | .ok invocation =>
    let chosen := filter host invocation.verbose
    if invocation.serial.dryRun then dryRun chosen invocation.task
    else
      match host.openLine invocation.serial.device with
      | .error reason =>
        ⟨1, [], Text.lines ("Error: open " ++ invocation.serial.device ++ ": " ++ reason)⟩
      | .ok line => lineRun chosen invocation.task invocation.serial line

end Program

end BrickControl
