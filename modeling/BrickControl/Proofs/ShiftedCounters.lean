import BrickControl.Proofs.ReplyQueues
import BrickControl.Proofs.Sessions

/-!
# Counters that begin elsewhere

Counters go round in a circle, and no place on it is special. With every counter moved on by the same shift, the
device's own and those of the frames that wait for it, an operation ends the same, takes the same frames and leaves the
same ones, with the counters moved on by that shift wherever they show: in the packet sent, in faults and in reports.
So nothing that is right of a reading far from the end of the counters goes wrong across it.

* `shiftCounter` moves the counter of a frame or of a packet on, `Fault.shifted` and `Event.shifted` those in a fault
  and in a report;
* `Reply.parse_shiftCounter`, `Reply.lag_shift` and `Reply.decides_shiftCounter`: what a frame is for a device, with
  both counters moved on;
* `Device.ShiftedBy` and `Device.ActsShifted` compare two devices, and what an operation does on them;
* `Device.readSensor_actsShifted` and `Device.perform_actsShifted`: every operation acts shifted;
* `Session.trace_shiftedBy`: so does every session, by induction on its steps;
* `sessions_shift_with_counters`: both.
-/

namespace BrickControl

/-! ### Moving counters on -/

/-- The same frame or packet with its counter moved on. Bytes that have no room for a counter and a type are left as
they are. -/
def shiftCounter (s : UInt16) : List UInt8 → List UInt8
  | l₀ :: l₁ :: c₀ :: c₁ :: kind :: rest =>
    [l₀, l₁] ++ LittleEndian.encode 2 (UInt16.ofNat (LittleEndian.decode [c₀, c₁]) + s).toNat ++
      kind :: rest
  | frame => frame

/-- The same reply to a packet that came so many packets later. -/
def Reply.shifted (s : UInt16) (reply : Reply) : Reply := { reply with counter := reply.counter + s }

/-- The same fault with its counters moved on. -/
def Fault.shifted (s : UInt16) : Fault → Fault
  | .counterMismatch expected got => .counterMismatch (expected + s) (got + s)
  | .replyError counter => .replyError (counter + s)
  | fault => fault

/-- The same event with its counters moved on, those in packets and frames included. -/
def Event.shifted (s : UInt16) : Event → Event
  | .sending counter reply packet => .sending (counter + s) reply (shiftCounter s packet)
  | .recorded packet => .recorded (shiftCounter s packet)
  | .received frame => .received (shiftCounter s frame)
  | .lateReply expected got => .lateReply (expected + s) (got + s)
  | event => event

section Frames

variable (s : UInt16)

theorem length_shiftCounter (frame : List UInt8) :
    (shiftCounter s frame).length = frame.length := by
  unfold shiftCounter
  split
  · simp only [List.length_append, List.length_cons, List.length_nil, LittleEndian.encode_length]
    omega
  · rfl

/-- A packet that is sent later differs in its counter only. -/
theorem Request.packet_add (request : Request) (counter : UInt16) :
    request.packet (counter + s) = shiftCounter s (request.packet counter) := by
  obtain ⟨l₀, l₁, hlength, -⟩ :=
    Reply.exists_encode_two ((request.command counter).body.length + 5)
  obtain ⟨c₀, c₁, hcounter, hcount⟩ := Reply.exists_encode_two counter.toNat
  have hread : UInt16.ofNat (LittleEndian.decode [c₀, c₁]) = counter := by
    rw [hcount, Nat.mod_eq_of_lt counter.toNat_lt, UInt16.ofNat_toNat]
  have hpacket : request.packet counter = l₀ :: l₁ :: c₀ :: c₁ :: (request.command counter).typeByte ::
      (LittleEndian.encode 2 (request.command counter).allocation.toNat ++
        (request.command counter).body) := by
    show LittleEndian.encode 2 _ ++ LittleEndian.encode 2 counter.toNat ++ _ = _
    rw [hlength, hcounter]
    rfl
  rw [hpacket, shiftCounter, hread, ← hlength]
  rfl

namespace Reply

/-! ### What a frame is, with both counters moved on -/

/-- Counters that are moved on together are as far apart as before. -/
theorem lag_shift (counter got : UInt16) : lag (counter + s) (got + s) = lag counter got := by
  rw [lag, lag, UInt16.toNat_add, UInt16.toNat_add]
  omega

theorem shifted_of_parse {frame : List UInt8} {fault : Fault} (h : parse frame = .error fault) :
    fault.shifted s = fault := by
  rcases fault_of_parse h with rfl | ⟨declared, actual, rfl⟩ | ⟨kind, rfl⟩
  · rfl
  · rfl
  · rfl

/-- **Only the counter of a frame is moved on**: its length and its type are read as before. -/
theorem parse_shiftCounter (frame : List UInt8) :
    parse (shiftCounter s frame) = (parse frame).map (shifted s) := by
  rcases Nat.lt_or_ge frame.length 5 with hshort | hroom
  · have hshort' : (shiftCounter s frame).length < 5 := by rwa [length_shiftCounter]
    rw [parse_of_short hshort, parse_of_short hshort', length_shiftCounter]
    rfl
  · obtain ⟨l₀, l₁, c₀, c₁, kind, payload, rfl⟩ := exists_header hroom
    obtain ⟨d₀, d₁, hcounter, hcount⟩ :=
      exists_encode_two (UInt16.ofNat (LittleEndian.decode [c₀, c₁]) + s).toNat
    have hread : UInt16.ofNat (LittleEndian.decode [d₀, d₁]) =
        UInt16.ofNat (LittleEndian.decode [c₀, c₁]) + s := by
      rw [hcount, Nat.mod_eq_of_lt (UInt16.toNat_lt _), UInt16.ofNat_toNat]
    rw [shiftCounter, hcounter]
    simp only [List.cons_append, List.nil_append, parse, hread]
    split
    · split
      · rfl
      · rfl
    · rfl

/-- Whether a reply is late does not depend on where the counters are. -/
theorem isLate_shifted (reply : Reply) (counter : UInt16) :
    (reply.shifted s).isLate (counter + s) = reply.isLate counter := by
  have hlag : lag (counter + s) (reply.shifted s).counter = lag counter reply.counter :=
    lag_shift s counter reply.counter
  rw [Bool.eq_iff_iff, isLate_iff_lag, isLate_iff_lag, hlag]

theorem isPassedOver_shiftCounter (counter : UInt16) (frame : List UInt8) :
    isPassedOver (counter + s) (shiftCounter s frame) = isPassedOver counter frame := by
  have hshifted := parse_shiftCounter s frame
  cases hparse : parse frame with
  | error fault =>
    rw [hparse] at hshifted
    rw [isPassedOver_of_error hparse, isPassedOver_of_error hshifted]
  | ok reply =>
    rw [hparse] at hshifted
    rw [isPassedOver_of_ok hparse, isPassedOver_of_ok hshifted]
    exact isLate_shifted s reply counter

theorem lateReport_shiftCounter (counter : UInt16) (frame : List UInt8) :
    lateReport (counter + s) (shiftCounter s frame) =
      (lateReport counter frame).map (Event.shifted s) := by
  rw [lateReport, lateReport, parse_shiftCounter]
  cases parse frame with
  | error fault => rfl
  | ok reply => rfl

/-- A frame decides a reading the same way. -/
theorem decides_shiftCounter (counter : UInt16) (frame : List UInt8) :
    decides (counter + s) (shiftCounter s frame) =
      (decides counter frame).mapError (Fault.shifted s) := by
  rw [decides, decides, parse_shiftCounter]
  cases hparse : parse frame with
  | error fault =>
    show Except.error fault = Except.error (fault.shifted s)
    rw [shifted_of_parse s hparse]
  | ok reply =>
    have hcounter : (reply.shifted s).counter ≠ counter + s ↔ reply.counter ≠ counter :=
      not_congr (UInt16.add_left_inj s)
    simp only [Except.map, hcounter, apply_ite (Except.mapError (Fault.shifted s))]
    rfl

section Queues

variable (counter : UInt16) (queue : List (List UInt8))

theorem comp_isPassedOver_shiftCounter :
    isPassedOver (counter + s) ∘ shiftCounter s = isPassedOver counter :=
  funext (isPassedOver_shiftCounter s counter)

theorem dropWhile_shiftCounter :
    (queue.map (shiftCounter s)).dropWhile (isPassedOver (counter + s)) =
      (queue.dropWhile (isPassedOver counter)).map (shiftCounter s) := by
  rw [List.dropWhile_map, comp_isPassedOver_shiftCounter]

theorem takeWhile_shiftCounter :
    (queue.map (shiftCounter s)).takeWhile (isPassedOver (counter + s)) =
      (queue.takeWhile (isPassedOver counter)).map (shiftCounter s) := by
  rw [List.takeWhile_map, comp_isPassedOver_shiftCounter]

/-- The frames that a reading takes, and those that it leaves. -/
def taken (counter : UInt16) (queue : List (List UInt8)) : List (List UInt8) :=
  queue.takeWhile (isPassedOver counter) ++ (queue.dropWhile (isPassedOver counter)).head?.toList

theorem taken_append_tail :
    taken counter queue ++ (queue.dropWhile (isPassedOver counter)).tail = queue := by
  have hsplit : queue.takeWhile (isPassedOver counter) ++ queue.dropWhile (isPassedOver counter) =
    queue := List.takeWhile_append_dropWhile
  rw [taken, List.append_assoc]
  cases hrest : queue.dropWhile (isPassedOver counter) with
  | nil => rw [hrest] at hsplit; exact hsplit
  | cons frame later => rw [hrest] at hsplit; exact hsplit

theorem taken_shiftCounter :
    taken (counter + s) (queue.map (shiftCounter s)) =
      (taken counter queue).map (shiftCounter s) := by
  rw [taken, taken, takeWhile_shiftCounter, dropWhile_shiftCounter, List.map_append,
    List.head?_map]
  cases (queue.dropWhile (isPassedOver counter)).head? <;> rfl

end Queues

end Reply

end Frames

namespace Device

open Reply

/-! ### Operations on two devices -/

/-- Two devices over recorders that differ by a shift of all counters. What was recorded before does not matter. -/
structure ShiftedBy (s : UInt16) (device other : Device Recorder) : Prop where
  counter : other.counter = device.counter + s
  initialised : other.initialised = device.initialised
  replies : other.link.replies.toList = device.link.replies.toList.map (shiftCounter s)

/-- What an operation does on one device, it does on the other one with all counters moved on. -/
structure ActsShifted (s : UInt16) (device other : Device Recorder)
    (outcome outcome' : Outcome (Device Recorder) Answer) : Prop where
  result : outcome'.result = outcome.result.mapError (Fault.shifted s)
  /-- The counters stay apart by the shift, and what still waits is the same. -/
  after : ShiftedBy s outcome.state outcome'.state
  /-- The same packets are sent, under counters that are moved on. -/
  packets : ∃ packets,
    outcome.state.link.sent.toList = device.link.sent.toList ++ packets ∧
    outcome'.state.link.sent.toList = other.link.sent.toList ++ packets.map (shiftCounter s)
  /-- The same frames are taken from the front. -/
  frames : ∃ frames,
    device.link.replies.toList = frames ++ outcome.state.link.replies.toList ∧
    other.link.replies.toList =
      frames.map (shiftCounter s) ++ outcome'.state.link.replies.toList
  events : outcome'.events = outcome.events.map (Event.shifted s)

theorem reportValue_shifted (s : UInt16) (port : UInt8) (kind : SensorKind)
    (result : Except Fault Answer) :
    reportValue port kind (result.mapError (Fault.shifted s)) =
      (reportValue port kind result).map (Event.shifted s) := by
  cases result with
  | error fault => rfl
  | ok answer => cases answer <;> rfl

section Shifted

variable {s : UInt16} {device other : Device Recorder} (h : ShiftedBy s device other)
include h

/-- An operation that does nothing to either device acts shifted if what it gives back is. -/
theorem actsShifted_of_same {result result' : Except Fault Answer} {events : List Event}
    (hresult : result' = result.mapError (Fault.shifted s))
    (hevents : events.map (Event.shifted s) = events) :
    ActsShifted s device other ⟨result, device, events⟩ ⟨result', other, events⟩ :=
  ⟨hresult, h, ⟨[], (List.append_nil _).symm, (List.append_nil _).symm⟩, ⟨[], rfl, rfl⟩,
    hevents.symm⟩

theorem shiftedBy_recorded (request : Request) :
    ShiftedBy s (device.recorded request) (other.recorded request) := by
  refine ⟨?_, h.initialised, h.replies⟩
  show other.counter + 1 = device.counter + 1 + s
  rw [h.counter, UInt16.add_assoc, UInt16.add_comm s 1, UInt16.add_assoc]

theorem report_shifted (request : Request) :
    other.report request = (device.report request).shifted s := by
  rw [report, h.counter, Request.packet_add]
  rfl

theorem packets_recorded (request : Request) :
    (device.recorded request).link.sent.toList =
      device.link.sent.toList ++ [request.packet device.counter] ∧
    (other.recorded request).link.sent.toList =
      other.link.sent.toList ++ [request.packet device.counter].map (shiftCounter s) := by
  rw [List.map_singleton, ← Request.packet_add, ← h.counter]
  exact ⟨(device.records_recorded request).packets, (other.records_recorded request).packets⟩

theorem order_actsShifted (request : Request) (answer : Answer) :
    ActsShifted s device other (device.order request answer) (other.order request answer) := by
  have hdone : (doneEvents request).map (Event.shifted s) = doneEvents request := by
    cases request <;> rfl
  rw [order_recorder, order_recorder]
  refine ⟨rfl, shiftedBy_recorded h request, ⟨_, packets_recorded h request⟩, ⟨[], rfl, rfl⟩, ?_⟩
  rw [List.map_append, hdone, List.map_cons, List.map_singleton, ← report_shifted h,
    h.counter, Request.packet_add]
  rfl

/-- **A reading takes the same way through the frames**: it passes over the same ones in front, and the same one
decides. -/
theorem readSensor_actsShifted (port : UInt8) (kind : SensorKind) :
    ActsShifted s device other (device.readSensor port kind) (other.readSensor port kind) := by
  obtain ⟨hresult, hreplies, hevents⟩ := device.readSensor_recorder port kind
  obtain ⟨hresult', hreplies', hevents'⟩ := other.readSensor_recorder port kind
  rw [h.replies, h.counter, dropWhile_shiftCounter] at hresult' hreplies'
  rw [h.replies, h.counter, takeWhile_shiftCounter] at hevents'
  have hrecords := device.records_readSensor port kind
  have hrecords' := other.records_readSensor port kind
  have hsame : (other.readSensor port kind).result =
      (device.readSensor port kind).result.mapError (Fault.shifted s) := by
    rw [hresult, hresult', List.head?_map]
    cases (device.link.replies.toList.dropWhile (isPassedOver device.counter)).head? with
    | none => rfl
    | some frame => exact decides_shiftCounter s device.counter frame
  have hlate : (((device.link.replies.toList.takeWhile (isPassedOver device.counter)).map
      (shiftCounter s)).filterMap (lateReport (device.counter + s))) =
      ((device.link.replies.toList.takeWhile (isPassedOver device.counter)).filterMap
        (lateReport device.counter)).map (Event.shifted s) := by
    rw [List.filterMap_map, List.map_filterMap]
    exact List.filterMap_congr fun frame _ => lateReport_shiftCounter s device.counter frame
  refine ⟨hsame, ⟨?_, ?_, ?_⟩, ?_, ?_, ?_⟩
  · rw [hrecords.counter, hrecords'.counter]
    exact (shiftedBy_recorded h (.sensor port kind)).counter
  · rw [hrecords.initialised, hrecords'.initialised, h.initialised]
  · rw [hreplies, hreplies', List.map_tail]
  · refine ⟨[(Request.sensor port kind).packet device.counter], hrecords.packets, ?_⟩
    rw [hrecords'.packets, h.counter, Request.packet_add, List.map_singleton]
  · refine ⟨taken device.counter device.link.replies.toList, ?_, ?_⟩
    · rw [hreplies, taken_append_tail]
    · rw [hreplies', ← taken_shiftCounter, ← dropWhile_shiftCounter, taken_append_tail, h.replies]
  · rw [hevents, hevents', hsame, reportValue_shifted, hlate, report_shifted h, Request.packet_add]
    simp only [List.map_append, List.map_cons]
    rfl

/-- **Every operation acts shifted.** -/
theorem perform_actsShifted (operation : Operation) :
    ActsShifted s device other (device.perform operation) (other.perform operation) := by
  have hready := h.initialised
  cases hidle : device.initialised with
  | false =>
    rw [hidle] at hready
    rw [perform, perform, hidle, hready, if_neg Bool.false_ne_true, if_neg Bool.false_ne_true]
    exact actsShifted_of_same h rfl rfl
  | true =>
    rw [hidle] at hready
    rw [perform, perform, hidle, hready, if_pos rfl, if_pos rfl]
    cases hplan : operation.plan with
    | refused fault =>
      obtain ⟨port, rfl⟩ := Operation.fault_of_plan hplan
      exact actsShifted_of_same h rfl rfl
    | inaudible hz ms volume => exact actsShifted_of_same h rfl rfl
    | requested request =>
      cases request with
      | sensor port kind => exact readSensor_actsShifted h port kind
      | _ => exact order_actsShifted h _ _

end Shifted

end Device

/-! ### Sessions -/

/-- The same step, with the counter of a reply that comes in moved on. -/
def Step.shifted (s : UInt16) : Step (List UInt8) → Step (List UInt8)
  | .outside frame => .outside (shiftCounter s frame)
  | step => step

/-- Two steps as they were carried out, with all counters moved on in the second one. -/
structure Entry.ShiftedBy (s : UInt16) (entry other : Entry Recorder) : Prop where
  result : other.outcome.result = entry.outcome.result.mapError (Fault.shifted s)
  before : Device.ShiftedBy s entry.before other.before
  after : Device.ShiftedBy s entry.after other.after
  events : other.outcome.events = entry.outcome.events.map (Event.shifted s)

theorem Step.shiftedBy_run {s : UInt16} {device other : Device Recorder}
    (h : device.ShiftedBy s other) {step : Step (List UInt8)} (hstep : step ≠ .initialise) :
    Entry.ShiftedBy s ⟨device, step.run Recorder.pushReply device⟩
      ⟨other, (step.shifted s).run Recorder.pushReply other⟩ := by
  cases step with
  | initialise => exact absurd rfl hstep
  | operate operation =>
    have hacts := Device.perform_actsShifted h operation
    exact ⟨hacts.result, h, hacts.after, hacts.events⟩
  | outside frame =>
    refine ⟨rfl, h, ⟨h.counter, h.initialised, ?_⟩, rfl⟩
    show (other.link.pushReply (shiftCounter s frame)).replies.toList =
      (device.link.pushReply frame).replies.toList.map (shiftCounter s)
    rw [Recorder.toList_pushReply, Recorder.toList_pushReply, h.replies, List.map_append,
      List.map_singleton]

/-- Step by step, a session goes the same way where the counters are moved on. Only another start of the numbering
would bring the two devices to the same place. -/
theorem Session.trace_shiftedBy (s : UInt16) (steps : List (Step (List UInt8))) :
    ∀ {device other : Device Recorder}, device.ShiftedBy s other → .initialise ∉ steps →
      List.Forall₂ (Entry.ShiftedBy s) (trace Recorder.pushReply device steps)
        (trace Recorder.pushReply other (steps.map (Step.shifted s))) := by
  induction steps with
  | nil =>
    intro device other h hsteps
    exact .nil
  | cons step later ih =>
    intro device other h hsteps
    rw [List.mem_cons, not_or] at hsteps
    have hentry := Step.shiftedBy_run h (Ne.symm hsteps.1)
    exact .cons hentry (ih hentry.after hsteps.2)

/-- **No place on the circle of counters is special.** Let every counter be moved on by the same shift, the device's own
and those of any frames that wait for it. Then every operation, and so every reading of any port and kind, gives the
same but for the shift in the counters of its fault; it sends the same packet under the counter moved on, takes the same
frames in number and order, leaves the same ones, reports the same, and the counters of the two devices stay apart by
the shift. So do whole sessions, with replies that come in between. -/
theorem sessions_shift_with_counters {s : UInt16} {device other : Device Recorder}
    (h : device.ShiftedBy s other) :
    (∀ operation, Device.ActsShifted s device other (device.perform operation)
      (other.perform operation)) ∧
    ∀ steps : List (Step (List UInt8)), .initialise ∉ steps →
      List.Forall₂ (Entry.ShiftedBy s) (Session.trace Recorder.pushReply device steps)
        (Session.trace Recorder.pushReply other (steps.map (Step.shifted s))) := by
  refine ⟨Device.perform_actsShifted h, ?_⟩
  intro steps hsteps
  exact Session.trace_shiftedBy s steps h hsteps

/-- The last packet before the counters start over is refused by the brick, and so is packet 2, three packets later,
beyond the end of the counters. Both readings pass over the reply to the packet before, and leave what is no frame. -/
theorem sessions_shift_across_the_end :
    let queue : List (List UInt8) := [[3, 0, 254, 255, 2], [3, 0, 255, 255, 4], [9]]
    let queue' : List (List UInt8) := [[3, 0, 1, 0, 2], [3, 0, 2, 0, 4], [9]]
    let device : Device Recorder := ⟨⟨.empty, .ofList queue⟩, 65535, true⟩
    let other : Device Recorder := ⟨⟨.empty, .ofList queue'⟩, 2, true⟩
    device.ShiftedBy 3 other ∧
    (device.perform (.sensor 1 .touch)).result = .error (.replyError 65535) ∧
    (other.perform (.sensor 1 .touch)).result = .error (.replyError 2) ∧
    (other.perform (.sensor 1 .touch)).state.counter = 3 ∧
    (other.perform (.sensor 1 .touch)).state.link.replies.toList = [[9]] ∧
    List.Forall₂ (Entry.ShiftedBy 3)
      (Session.trace Recorder.pushReply device
        [.operate (.sensor 1 .touch), .outside [3, 0, 0, 0, 4], .operate (.sensor 2 .color)])
      (Session.trace Recorder.pushReply other
        [.operate (.sensor 1 .touch), .outside [3, 0, 3, 0, 4], .operate (.sensor 2 .color)]) := by
  intro queue queue' device other
  have hshift : device.ShiftedBy 3 other := ⟨by decide, rfl, by decide⟩
  obtain ⟨hacts, hsession⟩ := sessions_shift_with_counters hshift
  obtain ⟨hresult, hleft, -⟩ := device.readSensor_recorder 1 .touch
  have hperform : device.perform (.sensor 1 .touch) = device.readSensor 1 .touch :=
    Device.perform_sensor rfl (by decide) .touch
  have hrefused : (device.perform (.sensor 1 .touch)).result = .error (.replyError 65535) := by
    rw [hperform, hresult]
    decide
  have hafter := (hacts (.sensor 1 .touch)).after
  refine ⟨hshift, hrefused, ?_, ?_, ?_, hsession _ (by decide)⟩
  · rw [(hacts (.sensor 1 .touch)).result, hrefused]
    decide
  · rw [hafter.counter, hperform, (device.records_readSensor 1 .touch).counter]
    decide
  · rw [hafter.replies, hperform, hleft]
    decide

end BrickControl
