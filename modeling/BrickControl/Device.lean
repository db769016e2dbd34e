import BrickControl.Reply
import BrickControl.Request
import BrickControl.Transport

/-!
# Devices

A device drives one brick over a transport. It numbers the packets it sends, and reads a sensor by matching
the reply to the number of its request.

* `Device.initialise` starts the numbering;
* `Device.perform` carries out one operation;
* `Device.awaitReply` is the part of it that receives: replies to earlier requests, which came too late to be
  waited for, are dropped until another frame decides.
-/

namespace BrickControl

/-- What an operation gives back. -/
inductive Answer where
  /-- Nothing but that it was done. -/
  | done
  /-- Whether a tone was sent. -/
  | played (sent : Bool)
  /-- The value of a sensor. -/
  | reading (value : Single)
  deriving DecidableEq, Repr

/-- A brick behind a transport. -/
structure Device (σ : Type) where
  link : σ
  /-- The number of the next packet. -/
  counter : UInt16
  initialised : Bool
  deriving Repr

namespace Device

variable {σ : Type}

/-- A device that is not initialised yet. -/
def new (link : σ) : Device σ := ⟨link, 0, false⟩

/-- Makes the device ready, with packets numbered from zero. -/
def initialise (device : Device σ) : Outcome (Device σ) Unit :=
  ⟨.ok (), { device with counter := 0, initialised := true }, [.initialised]⟩

/-- The event that reports a request done; some requests have none. -/
def doneEvents : Request → List Event
  | .tone hz ms level => [.tone hz ms level]
  | .led status => [.led status]
  | .motor outputs speed => [.motorSpeed outputs speed]
  | .stop outputs brake => [.motorStop outputs brake]
  | .stopAll => [.stopAll]
  | .keepAlive _ => []
  | .sensor _ _ => []

variable [Transport σ]

/-- Sends a request under the device's counter, which moves on only when the transport took the packet. -/
def submit (device : Device σ) (request : Request) : Outcome (Device σ) Unit :=
  let packet := request.packet device.counter
  let report := Event.sending device.counter (request.command device.counter).expectsReply packet
  let sent := Transport.send device.link packet
  match sent.result with
  | .ok () =>
    ⟨.ok (), { device with link := sent.state, counter := device.counter + 1 },
      report :: sent.events⟩
  | .error fault => ⟨.error fault, { device with link := sent.state }, report :: sent.events⟩

/-- Receives until a frame comes that is no late reply: that frame's reply, or its fault. -/
def awaitReply (counter : UInt16) (link : σ) : Outcome σ Reply :=
  let next := Transport.receive link
  match _h : next.result with
  | .error fault => ⟨.error fault, next.state, next.events⟩
  | .ok frame =>
    match Reply.parse frame with
    | .error fault => ⟨.error fault, next.state, next.events⟩
    | .ok reply =>
      if reply.isLate counter then
        let rest := awaitReply counter next.state
        ⟨rest.result, rest.state,
          next.events ++ .lateReply counter reply.counter :: rest.events⟩
      else ⟨.ok reply, next.state, next.events⟩
termination_by Transport.pending link
decreasing_by exact Transport.pending_receive link frame _h

/-- The value of a reply to the command of that counter. -/
def value (counter : UInt16) (reply : Reply) : Except Fault Single :=
  match reply.expectOk counter with
  | .ok reply => reply.single 0
  | .error fault => .error fault

/-- Sends the request of a sensor and reads its value out of the reply. -/
def readSensor (device : Device σ) (port : UInt8) (kind : SensorKind) :
    Outcome (Device σ) Answer :=
  let sent := device.submit (.sensor port kind)
  match sent.result with
  | .error fault => ⟨.error fault, sent.state, sent.events⟩
  | .ok () =>
    let received := awaitReply device.counter sent.state.link
    let after := { sent.state with link := received.state }
    match received.result with
    | .error fault => ⟨.error fault, after, sent.events ++ received.events⟩
    | .ok reply =>
      match value device.counter reply with
      | .error fault => ⟨.error fault, after, sent.events ++ received.events⟩
      | .ok x =>
        ⟨.ok (.reading x), after, sent.events ++ received.events ++ [.sensor port kind x]⟩

/-- Sends a request and reports it done. -/
def order (device : Device σ) (request : Request) (answer : Answer) : Outcome (Device σ) Answer :=
  let sent := device.submit request
  match sent.result with
  | .error fault => ⟨.error fault, sent.state, sent.events⟩
  | .ok () => ⟨.ok answer, sent.state, sent.events ++ doneEvents request⟩

/-- Carries out an operation. A device that is not initialised refuses all of them. -/
def perform (device : Device σ) (operation : Operation) : Outcome (Device σ) Answer :=
  if device.initialised then
    match operation.plan with
    | .refused fault => ⟨.error fault, device, []⟩
    | .inaudible hz ms volume =>
      ⟨.ok (.played false), device, [.toneSuppressed hz ms volume]⟩
    | .requested (.sensor port kind) => device.readSensor port kind
    | .requested (.tone hz ms level) => device.order (.tone hz ms level) (.played true)
    | .requested request => device.order request .done
  else ⟨.error .notInitialised, device, []⟩

end Device

end BrickControl
