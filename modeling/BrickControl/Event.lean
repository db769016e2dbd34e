import BrickControl.Bytes.Hex
import BrickControl.Outputs
import BrickControl.Sensor
import BrickControl.Single.Decimal

/-!
# Log events

What a device, its transport and a program report while they work.

* `Event` is one report;
* `Event.level`, `Event.message` and `Event.fields` are what a log shows of it;
* `Event.target` names the part of the program that reports, for a filter to choose by;
* `Event.line` is the line of a log.
-/

namespace BrickControl

/-- How urgent an event is; a filter may also let nothing pass, or all. -/
inductive Level where
  | error
  | warn
  | info
  | debug
  | trace
  deriving DecidableEq, Repr

/-- Every level, the most urgent first. -/
def Level.all : List Level := [.error, .warn, .info, .debug, .trace]

/-- The name of a level in a log. -/
def Level.name : Level → String
  | .error => "ERROR"
  | .warn => "WARN"
  | .info => "INFO"
  | .debug => "DEBUG"
  | .trace => "TRACE"

/-- From the most urgent level, 1, to the least. -/
def Level.rank : Level → Nat
  | .error => 1
  | .warn => 2
  | .info => 3
  | .debug => 4
  | .trace => 5

/-- One report. -/
inductive Event where
  /-- The serial device was opened. -/
  | connected (device : String) (baud : UInt32)
  /-- The device was initialised. -/
  | initialised
  /-- A packet is about to be handed to the transport. -/
  | sending (counter : UInt16) (reply : Bool) (bytes : List UInt8)
  /-- The recorder has kept a packet. -/
  | recorded (bytes : List UInt8)
  /-- A frame came over the line. -/
  | received (bytes : List UInt8)
  /-- A tone that could not be heard was not sent. -/
  | toneSuppressed (hz ms volume : UInt32)
  | tone (hz ms : UInt32) (level : UInt8)
  | led (status : UInt8)
  | motorSpeed (outputs : Outputs) (speed : Int32)
  | motorStop (outputs : Outputs) (brake : Bool)
  | stopAll
  /-- A reply to an earlier command was dropped. -/
  | lateReply (expected got : UInt16)
  /-- A sensor was read. -/
  | sensor (port : UInt8) (kind : SensorKind) (value : Single)
  deriving DecidableEq, Repr

namespace Event

/-- The level of an event. -/
def level : Event → Level
  | .sending _ _ _ | .recorded _ | .received _ | .sensor _ _ _ => .debug
  | .toneSuppressed _ _ _ | .lateReply _ _ => .warn
  | _ => .info

/-- The text of an event. -/
def message : Event → String
  | .connected _ _ => "connected"
  | .initialised => "ev3 initialised"
  | .sending _ _ _ => "send"
  | .recorded _ => "logged packet"
  | .received _ => "received"
  | .toneSuppressed _ _ _ => "tone suppressed"
  | .tone _ _ _ => "tone"
  | .led _ => "led"
  | .motorSpeed _ _ => "motor speed"
  | .motorStop _ _ => "motor stop"
  | .stopAll => "stop all"
  | .lateReply _ _ => "stale reply dropped"
  | .sensor _ _ _ => "sensor"

/-- The data of an event: names with values, in a fixed order. -/
def fields : Event → List (String × String)
  | .connected device baud => [("dev", device), ("baud", toString baud)]
  | .initialised => []
  | .sending counter reply bytes =>
    [("counter", toString counter), ("reply", toString reply), ("bytes", Hex.text bytes)]
  | .recorded bytes => [("bytes", Hex.text bytes)]
  | .received bytes => [("bytes", Hex.text bytes)]
  | .toneSuppressed hz ms volume =>
    [("frequency_hz", toString hz), ("duration_ms", toString ms),
      ("volume_percent", toString volume)]
  | .tone hz ms level => [("hz", toString hz), ("ms", toString ms), ("level", toString level)]
  | .led status => [("status", toString status)]
  | .motorSpeed outputs speed => [("ports", toString outputs.mask), ("speed", toString speed)]
  | .motorStop outputs brake => [("ports", toString outputs.mask), ("brake", toString brake)]
  | .stopAll => []
  | .lateReply expected got => [("expected", toString expected), ("got", toString got)]
  | .sensor port kind value =>
    [("port", toString port), ("kind", kind.name), ("value", value.text)]

/-- The part of the program that reports. -/
def target : Event → String
  | .connected _ _ => "ev3_direct"
  | .recorded _ => "ev3_direct::connection"
  | .received _ => "ev3_direct::port"
  | _ => "ev3_direct::ev3"

/-- A field as a log shows it. -/
def fieldText (field : String × String) : String := field.1 ++ "=" ++ field.2

/-- The line of a log, without its time. -/
def line (event : Event) : String :=
  " ".intercalate (event.level.name :: event.message :: event.fields.map fieldText)

end Event

end BrickControl
