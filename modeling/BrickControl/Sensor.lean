import BrickControl.Text.Folded
import BrickControl.Text.Quoted

/-!
# Sensors

The kinds of sensor that the brick can read, their names, and the device type and mode that ask for them.

* `SensorKind.name` is the written name;
* `SensorKind.parse` reads a name, folded, and takes `ir` for `infrared`;
* `SensorKind.typeMode` is the firmware's pair of device type and mode, `SensorKind.ofTypeMode?` the way back.
-/

namespace BrickControl

/-- A kind of sensor. -/
inductive SensorKind where
  | touch
  | colorReflect
  | colorAmbient
  | color
  | infrared
  | ultrasonic
  | gyro
  | nxtTouch
  | nxtLight
  | nxtSound
  | nxtUltrasonic
  | nxtTemperature
  deriving DecidableEq, Repr, Inhabited

/-- A name that no kind of sensor has, as it was given. -/
structure UnknownSensor where
  name : String
  deriving DecidableEq, Repr

/-- The text of the refusal. -/
def UnknownSensor.message (unknown : UnknownSensor) : String :=
  "unknown sensor kind: " ++ Text.Quoted.string unknown.name

namespace SensorKind

/-- Every kind, once. -/
def all : List SensorKind :=
  [.touch, .colorReflect, .colorAmbient, .color, .infrared, .ultrasonic, .gyro,
    .nxtTouch, .nxtLight, .nxtSound, .nxtUltrasonic, .nxtTemperature]

/-- The written name. -/
def name : SensorKind → String
  | .touch => "touch"
  | .colorReflect => "color-reflect"
  | .colorAmbient => "color-ambient"
  | .color => "color"
  | .infrared => "infrared"
  | .ultrasonic => "ultrasonic"
  | .gyro => "gyro"
  | .nxtTouch => "nxt-touch"
  | .nxtLight => "nxt-light"
  | .nxtSound => "nxt-sound"
  | .nxtUltrasonic => "nxt-ultrasonic"
  | .nxtTemperature => "nxt-temperature"

/-- The second name of an infrared sensor. -/
def infraredAlias : String := "ir"

/-- The kind of a folded name. -/
def ofFolded? (folded : String) : Option SensorKind :=
  if folded = infraredAlias then some .infrared
  else all.find? fun kind => decide (kind.name = folded)

/-- Reads a name; a name that stays unknown is handed back as it was given. -/
def parse (s : String) : Except UnknownSensor SensorKind :=
  match ofFolded? (Text.fold s) with
  | some kind => .ok kind
  | none => .error ⟨s⟩

/-- The firmware's device type and mode. -/
def typeMode : SensorKind → UInt8 × UInt8
  | .nxtTouch => (1, 0)
  | .nxtLight => (2, 0)
  | .nxtSound => (3, 0)
  | .nxtUltrasonic => (5, 0)
  | .nxtTemperature => (6, 0)
  | .touch => (16, 0)
  | .colorReflect => (29, 0)
  | .colorAmbient => (29, 1)
  | .color => (29, 2)
  | .ultrasonic => (30, 0)
  | .gyro => (32, 0)
  | .infrared => (33, 0)

/-- The kind of a device type and mode. -/
def ofTypeMode? (typeMode : UInt8 × UInt8) : Option SensorKind :=
  all.find? fun kind => decide (kind.typeMode = typeMode)

/-- The list of kinds misses none. -/
theorem mem_all (kind : SensorKind) : kind ∈ all := by
  cases kind <;> decide

end SensorKind

end BrickControl
