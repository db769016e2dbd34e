import BrickControl.Proofs.Operations
import BrickControl.Recorder

/-!
# What a recorder keeps and answers

The two queues of a recorder have nothing to do with each other: sending adds to one, receiving takes from the
other. A recorder takes every packet, so an operation on it either leaves the device as it was or records one
packet under the device's counter.

* `Recorder.receive_of_nil` and `Recorder.receive_of_cons`: a receive takes the first frame that waits, if any;
* `Device.Records` is the effect of a request on a device over a recorder;
* `Device.perform_recorder`: an operation has that effect, or none.
-/

namespace BrickControl

namespace Recorder

variable (r : Recorder)

/-- A packet sent is the last one recorded. -/
@[simp] theorem toList_send (packet : List UInt8) :
    (r.send packet).state.sent.toList = r.sent.toList ++ [packet] :=
  Queue.toList_push r.sent packet

theorem receive_of_nil {r : Recorder} (h : r.replies.toList = []) :
    r.receive = ⟨.error .noReply, r, []⟩ := by
  rw [receive, Queue.pop?_eq_none_iff.2 h]

/-- The first frame that waits is received, and the others wait on. -/
theorem receive_of_cons {r : Recorder} {frame : List UInt8} {later : List (List UInt8)}
    (h : r.replies.toList = frame :: later) :
    ∃ rest, r.receive = ⟨.ok frame, { r with replies := rest }, []⟩ ∧ rest.toList = later := by
  cases hpop : r.replies.pop? with
  | none =>
    rw [Queue.pop?_eq_none_iff.1 hpop] at h
    exact absurd h (by simp)
  | some taken =>
    obtain ⟨first, rest⟩ := taken
    rw [Queue.toList_of_pop? hpop, List.cons.injEq] at h
    obtain ⟨rfl, rfl⟩ := h
    exact ⟨rest, by rw [receive, hpop], rfl⟩

theorem sent_receive : r.receive.state.sent = r.sent := by
  unfold receive
  split
  · rfl
  · rfl

@[simp] theorem toList_pushReply (frame : List UInt8) :
    (r.pushReply frame).replies.toList = r.replies.toList ++ [frame] :=
  Queue.toList_push r.replies frame

/-- A recorder fails to receive only when nothing waits. -/
theorem fault_of_receive {r : Recorder} {fault : Fault} (h : r.receive.result = .error fault) :
    fault = .noReply := by
  unfold receive at h
  split at h
  · exact absurd h (by simp)
  · exact (Except.error.inj h).symm

/-- Receiving takes frames from the front only. -/
theorem replies_receive : r.receive.state.replies.toList <:+ r.replies.toList := by
  cases hwaiting : r.replies.toList with
  | nil =>
    have hsame : r.receive.state.replies.toList = [] := by rw [receive_of_nil hwaiting, hwaiting]
    simp only [hsame, List.suffix_refl]
  | cons frame later =>
    obtain ⟨rest, hreceive, hrest⟩ := receive_of_cons hwaiting
    rw [hreceive]
    simp only [hrest]
    exact List.suffix_cons frame later

end Recorder

namespace Device

/-! ### Operations over a recorder -/

/-- The effect of a request over a recorder: one packet more, the counter moved on, and replies taken from the
front if any. -/
structure Records (before : Device Recorder) (request : Request) (after : Device Recorder) : Prop where
  initialised : after.initialised = before.initialised
  counter : after.counter = before.counter + 1
  packets : after.link.sent.toList = before.link.sent.toList ++ [request.packet before.counter]
  replies : after.link.replies.toList <:+ before.link.replies.toList

/-- Counters that keep up with a number of packets do so over one more. -/
theorem Records.counter_succ {before after : Device Recorder} {request : Request} {n : Nat}
    (h : before.Records request after) (hcounter : before.counter = UInt16.ofNat n) :
    after.counter = UInt16.ofNat (n + 1) := by
  rw [h.counter, hcounter, UInt16.ofNat_add]
  rfl

variable (device : Device Recorder)

/-- The device after a recorder took the packet of a request. -/
def recorded (request : Request) : Device Recorder :=
  { device with
    link := (device.link.send (request.packet device.counter)).state
    counter := device.counter + 1 }

theorem submit_recorder (request : Request) :
    device.submit request = ⟨.ok (), device.recorded request,
      [device.report request, .recorded (request.packet device.counter)]⟩ :=
  device.submit_of_sent rfl

theorem records_recorded (request : Request) : device.Records request (device.recorded request) :=
  ⟨rfl, rfl, device.link.toList_send _, List.suffix_refl _⟩

theorem sent_awaitReply (counter : UInt16) (link : Recorder) :
    (awaitReply counter link).state.sent = link.sent :=
  awaitReply_keeps Recorder.sent Recorder.sent_receive counter link

theorem replies_awaitReply (counter : UInt16) (link : Recorder) :
    (awaitReply counter link).state.replies.toList <:+ link.replies.toList := by
  fun_induction awaitReply counter link with
  | case1 link next fault hresult => exact link.replies_receive
  | case2 link next frame hresult fault hparse => exact link.replies_receive
  | case3 link next frame hresult reply hparse hlate rest ih => exact ih.trans link.replies_receive
  | case4 link next frame hresult reply hparse htimely => exact link.replies_receive

theorem order_recorder (request : Request) (answer : Answer) :
    device.order request answer = ⟨.ok answer, device.recorded request,
      [device.report request, .recorded (request.packet device.counter)] ++
        doneEvents request⟩ := by
  rw [order_of_sent (congrArg Outcome.result (device.submit_recorder _)), submit_recorder]

/-- Over a recorder, reading a sensor ends with the wait for the reply, whatever it brings. -/
theorem state_readSensor_recorder (port : UInt8) (kind : SensorKind) :
    (device.readSensor port kind).state =
      { device.recorded (.sensor port kind) with
        link :=
          (awaitReply device.counter (device.recorded (.sensor port kind)).link).state } := by
  rw [readSensor_of_sent (congrArg Outcome.result (device.submit_recorder _)), submit_recorder]

theorem result_readSensor_recorder (port : UInt8) (kind : SensorKind) :
    (device.readSensor port kind).result =
      (awaitReply device.counter (device.recorded (.sensor port kind)).link).result.bind
        fun reply => (value device.counter reply).map Answer.reading := by
  rw [readSensor_of_sent (congrArg Outcome.result (device.submit_recorder _)), submit_recorder]

theorem records_readSensor (port : UInt8) (kind : SensorKind) :
    device.Records (.sensor port kind) (device.readSensor port kind).state := by
  have hsent := device.records_recorded (.sensor port kind)
  rw [state_readSensor_recorder]
  refine ⟨hsent.initialised, hsent.counter, ?_, ?_⟩
  · rw [← hsent.packets, sent_awaitReply]
  · exact (replies_awaitReply _ _).trans hsent.replies

/-- **An operation over a recorder has the effect of its request, or none.** -/
theorem perform_recorder (operation : Operation) :
    ((device.perform operation).state = device ∧
      (device.initialised = true → operation.request? = none)) ∨
    ∃ request, device.initialised = true ∧ operation.request? = some request ∧
      device.Records request (device.perform operation).state := by
  refine perform_of_request (P := fun request outcome =>
    device.Records request outcome.state) ?_ ?_ operation
  · intro request
    rw [order_recorder]
    exact device.records_recorded request
  · intro port kind
    exact device.records_readSensor port kind

end Device

end BrickControl
