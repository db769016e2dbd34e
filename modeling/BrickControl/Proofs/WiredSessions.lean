import BrickControl.Proofs.LineReading
import BrickControl.Proofs.LineWriting
import BrickControl.Proofs.Sessions

/-!
# Sessions over a line that may fail

Between two calls anything may happen to a line: bytes come in, and what its next writes and its next flush will
do is settled anew. This file follows a device through all of that, and the packets that the line takes.

* `Wiring` and `Line.wire`: what happens to a line from outside;
* `Device.HandsOver`: the three ends of an operation that hands over a packet;
* `Device.perform_line`: an operation over a line hands over the packet of its request, or has none;
* `Entry.packet` is what the line took in a step, `Session.sendings` are the steps in which it took something;
* `Entry.step_line`: a step has a whole packet taken, or nothing.
-/

namespace BrickControl

/-! ### What happens to a line -/

/-- What is settled for a line between two calls. -/
structure Wiring where
  /-- What comes in, behind what waits already. -/
  reads : List Arrival
  writeLimit : Option Nat
  writeFault : Option LineFault
  flushFault : Option LineFault
  deriving DecidableEq, Repr

/-- The line with all that settled. -/
def Line.wire (line : Line) (wiring : Wiring) : Line :=
  { line with
    arrivals := line.arrivals ++ wiring.reads
    writeLimit := wiring.writeLimit
    writeFault := wiring.writeFault
    flushFault := wiring.flushFault }

namespace Device

/-! ### Operations over a line -/

/-- The ends of an operation that hands a packet over to a line: its result, and the device after it. -/
inductive HandsOver (device : Device Line) (packet : List UInt8) :
    Except Fault Answer → Device Line → Prop where
  /-- The write failed, and nothing was taken. -/
  | unwritten {fault : LineFault} (hwrite : device.link.writeFailure = some fault) :
      HandsOver device packet (.error (.line fault))
        { device with link := { device.link with writeFault := none } }
  /-- The flush failed when the whole packet had been taken, and the counter stays. -/
  | unflushed {fault : LineFault} (hwrite : device.link.writeFailure = none)
      (hflush : device.link.flushFault = some fault) :
      HandsOver device packet (.error (.line fault))
        { device with link := device.link.afterSending packet }
  /-- Neither failed: the counter moves on, and what waits may be read. -/
  | sent {result : Except Fault Answer} (hwrite : device.link.writeFailure = none)
      (hflush : device.link.flushFault = none) (arrivals : List Arrival) :
      HandsOver device packet result
        { device with
          link := { device.link.afterSending packet with arrivals := arrivals }
          counter := device.counter + 1 }

/-- The line has the whole packet or nothing of it, and only a packet that was flushed moves the counter on. -/
theorem HandsOver.effect {device after : Device Line} {packet : List UInt8}
    {result : Except Fault Answer} (h : device.HandsOver packet result after) :
    (after.link.written = device.link.written ∧ after.counter = device.counter) ∨
    (after.link.written = device.link.written ++ packet ∧
      after.counter = device.counter + if device.link.flushFault ≠ none then 0 else 1) := by
  cases h with
  | unwritten hwrite => exact .inl ⟨rfl, rfl⟩
  | unflushed hwrite hflush =>
    refine .inr ⟨device.link.written_afterSending packet, ?_⟩
    rw [if_pos (by simp [hflush])]
    exact (UInt16.add_zero _).symm
  | sent hwrite hflush arrivals =>
    refine .inr ⟨device.link.written_afterSending packet, ?_⟩
    rw [if_neg (by simp [hflush])]

variable (device : Device Line)

/-- Handing over a packet fails as it is written or as it is flushed, or succeeds. -/
theorem submit_line (request : Request) :
    (∃ fault, device.link.writeFailure = some fault ∧
      device.submit request = ⟨.error (.line fault),
        { device with link := { device.link with writeFault := none } },
        [device.report request]⟩) ∨
    (∃ fault, device.link.writeFailure = none ∧ device.link.flushFault = some fault ∧
      device.submit request = ⟨.error (.line fault),
        { device with link := device.link.afterSending (request.packet device.counter) },
        [device.report request]⟩) ∨
    (device.link.writeFailure = none ∧ device.link.flushFault = none ∧
      device.submit request = ⟨.ok (),
        { device with
          link := device.link.afterSending (request.packet device.counter)
          counter := device.counter + 1 },
        [device.report request]⟩) := by
  have hsend : Transport.send device.link (request.packet device.counter) = _ :=
    device.link.send_eq (request.packet_ne_nil device.counter)
  cases hwrite : device.link.writeFailure with
  | some fault =>
    rw [hwrite] at hsend
    rw [submit_of_unsent device (congrArg Outcome.result hsend), hsend]
    exact .inl ⟨fault, rfl, rfl⟩
  | none =>
    rw [hwrite] at hsend
    cases hflush : device.link.flushFault with
    | some fault =>
      rw [hflush] at hsend
      rw [submit_of_unsent device (congrArg Outcome.result hsend), hsend]
      exact .inr (.inl ⟨fault, rfl, rfl, rfl⟩)
    | none =>
      rw [hflush] at hsend
      rw [submit_of_sent device (congrArg Outcome.result hsend), hsend]
      exact .inr (.inr ⟨rfl, rfl, rfl⟩)

theorem state_awaitReply_line (counter : UInt16) (line : Line) :
    (awaitReply counter line).state =
      { line with arrivals := (awaitReply counter line).state.arrivals } := by
  have hreceive : ∀ line : Line,
      { (Transport.receive line).state with arrivals := [] } = { line with arrivals := [] } := by
    intro line
    rw [show (Transport.receive line).state = _ from line.state_receive]
  have hkept := awaitReply_keeps (fun line : Line => { line with arrivals := [] }) hreceive
    counter line
  exact congrArg (fun other : Line =>
    { other with arrivals := (awaitReply counter line).state.arrivals }) hkept

theorem order_handsOver (request : Request) (answer : Answer) :
    device.HandsOver (request.packet device.counter) (device.order request answer).result
      (device.order request answer).state := by
  rcases device.submit_line request with ⟨fault, hwrite, hsubmit⟩ |
    ⟨fault, hwrite, hflush, hsubmit⟩ | ⟨hwrite, hflush, hsubmit⟩
  · rw [order_of_unsent (congrArg Outcome.result hsubmit), hsubmit]
    exact .unwritten hwrite
  · rw [order_of_unsent (congrArg Outcome.result hsubmit), hsubmit]
    exact .unflushed hwrite hflush
  · rw [order_of_sent (congrArg Outcome.result hsubmit), hsubmit]
    exact .sent hwrite hflush device.link.arrivals

theorem readSensor_handsOver (port : UInt8) (kind : SensorKind) :
    device.HandsOver ((Request.sensor port kind).packet device.counter)
      (device.readSensor port kind).result (device.readSensor port kind).state := by
  rcases device.submit_line (.sensor port kind) with ⟨fault, hwrite, hsubmit⟩ |
    ⟨fault, hwrite, hflush, hsubmit⟩ | ⟨hwrite, hflush, hsubmit⟩
  · rw [readSensor_of_unsent (congrArg Outcome.result hsubmit), hsubmit]
    exact .unwritten hwrite
  · rw [readSensor_of_unsent (congrArg Outcome.result hsubmit), hsubmit]
    exact .unflushed hwrite hflush
  · rw [readSensor_of_sent (congrArg Outcome.result hsubmit), hsubmit]
    dsimp only
    rw [state_awaitReply_line]
    exact .sent hwrite hflush _

/-- **An operation over a line hands over the packet of its request**, or has none and changes nothing. -/
theorem perform_line (operation : Operation) :
    ((device.perform operation).state = device ∧
      (device.initialised = true → operation.request? = none)) ∨
    ∃ request, device.initialised = true ∧ operation.request? = some request ∧
      device.HandsOver (request.packet device.counter) (device.perform operation).result
        (device.perform operation).state := by
  refine perform_of_request (P := fun request outcome =>
    device.HandsOver (request.packet device.counter) outcome.result outcome.state) ?_ ?_ operation
  · intro request
    exact device.order_handsOver request request.doneAnswer
  · intro port kind
    exact device.readSensor_handsOver port kind

end Device

/-! ### What the line takes -/

namespace Entry

/-- The bytes that the line took in a step. -/
def packet (entry : Entry Line) : List UInt8 :=
  entry.after.link.written.drop entry.before.link.written.length

/-- The line could not be flushed after a step's packet. -/
def FlushFails (entry : Entry Line) : Prop := entry.before.link.flushFault ≠ none

instance (entry : Entry Line) : Decidable entry.FlushFails :=
  inferInstanceAs (Decidable (entry.before.link.flushFault ≠ none))

theorem packet_of_written {entry : Entry Line} {bytes : List UInt8}
    (h : entry.after.link.written = entry.before.link.written ++ bytes) : entry.packet = bytes := by
  rw [packet, h, List.drop_left]

theorem packet_of_same {entry : Entry Line}
    (h : entry.after.link.written = entry.before.link.written) : entry.packet = [] :=
  packet_of_written (h.trans (List.append_nil _).symm)

/-- **A step has a whole packet taken, or nothing.** The packet carries the counter of the device, which moves on
if the line could be flushed; without a packet it stays. -/
theorem step_line (device : Device Line) {step : Step Wiring} (hstep : step ≠ .initialise) :
    let entry : Entry Line := ⟨device, step.run Line.wire device⟩
    (entry.packet = [] ∧ entry.after.counter = device.counter) ∨
    ∃ operation request, step = .operate operation ∧ device.initialised = true ∧
      operation.request? = some request ∧ entry.packet = request.packet device.counter ∧
      entry.after.counter = device.counter + if entry.FlushFails then 0 else 1 := by
  cases step with
  | initialise => exact absurd rfl hstep
  | outside wiring => exact .inl ⟨packet_of_same rfl, rfl⟩
  | operate operation =>
    intro entry
    rcases device.perform_line operation with ⟨hsame, -⟩ | ⟨request, hready, hrequest, hends⟩
    · have hafter : entry.after = device := hsame
      refine .inl ⟨packet_of_same ?_, ?_⟩
      · rw [hafter]
      · rw [hafter]
    · rcases hends.effect with ⟨hwritten, hcounter⟩ | ⟨hwritten, hcounter⟩
      · exact .inl ⟨packet_of_same hwritten, hcounter⟩
      · exact .inr ⟨operation, request, rfl, hready, hrequest, packet_of_written hwritten,
          hcounter⟩

end Entry

end BrickControl
