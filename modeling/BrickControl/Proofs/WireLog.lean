import Mathlib.Data.List.Forall2
import BrickControl.Proofs.HexDumps
import BrickControl.Proofs.PacketForm
import BrickControl.Proofs.RecordedSessions
import BrickControl.Proofs.ShiftedCounters

/-!
# What a log tells of the wire

A device reports a packet before it hands it over, and a recorder reports it once more when it has kept it. So a log
of all events tells every packet twice, and nothing that is no packet; what else it tells of a reading is which frames
the reading passed over, and the value if it got one.

* `Event.shows` and `Event.field?`: what a log shows of an event;
* `Event.ofPacket`: the two events that tell of a packet, by its bytes alone; `Event.Mirror`: events that tell of some
  packets in order;
* `Device.MirrorsPackets` and `Device.perform_mirrorsPackets`: the events of one operation that are about packets are
  those of the packets that it leaves;
* `RecordedSession.mirror_log`: the same for whole sessions, by induction on their steps;
* `Device.LogsOutcome` and `Device.perform_logsOutcome`: what else an operation reports, by what it gives back;
* `RecordedSession.log_mirrors_wire`: the log of every session.
-/

namespace BrickControl

namespace Event

/-! ### What a log shows -/

/-- Does a log show the event at this level and with this text? -/
def shows (level : Level) (message : String) (event : Event) : Bool :=
  decide (event.level = level ∧ event.message = message)

/-- The value of a field, by its name. -/
def field? (event : Event) (name : String) : Option String := event.fields.lookup name

/-- Is the event about a packet that is sent or kept? -/
def isAboutPacket (event : Event) : Bool :=
  event.shows .debug "send" || event.shows .debug "logged packet"

/-- The report of a packet that is about to be handed over, by the packet alone. -/
def sendingOf (packet : List UInt8) : Event :=
  .sending (packetCounter packet) (decide (packet[4]? = some 0x00)) packet

/-- The events that tell of a packet, in their order. -/
def ofPacket (packet : List UInt8) : List Event := [sendingOf packet, .recorded packet]

/-- An event as the log of a packet that is sent: every field is found in the packet. -/
structure TellsSending (event : Event) (packet : List UInt8) : Prop where
  bytes : ((event.field? "bytes").bind fun text => Hex.read? text.toList) = some packet
  counter : event.field? "counter" = some (toString (packetCounter packet))
  /-- A reply is asked for exactly by the type 0. -/
  reply : event.field? "reply" = some (toString (decide (packet[4]? = some 0x00)))

/-- An event as the log of a packet that was kept. -/
def TellsRecording (event : Event) (packet : List UInt8) : Prop :=
  ((event.field? "bytes").bind fun text => Hex.read? text.toList) = some packet

/-- An event as the log of a frame that was passed over while a reply to a packet was waited for. -/
structure TellsLate (request : List UInt8) (event : Event) (frame : List UInt8) : Prop where
  expected : event.field? "expected" = some (toString (packetCounter request))
  got : ∃ reply, Reply.parse frame = .ok reply ∧
    event.field? "got" = some (toString reply.counter)

theorem tellsSending_sendingOf (packet : List UInt8) : (sendingOf packet).TellsSending packet :=
  ⟨Hex.read?_text packet, rfl, rfl⟩

theorem tellsRecording_recorded (packet : List UInt8) :
    (Event.recorded packet).TellsRecording packet :=
  Hex.read?_text packet

/-- The events tell of these packets, of each twice and in order, and no other event is about a packet. -/
def Mirror (events : List Event) (packets : List (List UInt8)) : Prop :=
  events.filter isAboutPacket = packets.flatMap ofPacket

theorem Mirror.append {events later : List Event} {packets more : List (List UInt8)}
    (h : Mirror events packets) (hlater : Mirror later more) :
    Mirror (events ++ later) (packets ++ more) := by
  rw [Mirror, List.filter_append, List.flatMap_append, h, hlater]

section Mirror

variable {events : List Event} {packets : List (List UInt8)} (h : Mirror events packets)
include h

/-- The events of one kind, if every packet has one of them. -/
theorem Mirror.filter_shows (tell : List UInt8 → Event) {message : String}
    (habout : ∀ event : Event, event.shows .debug message = true → event.isAboutPacket = true)
    (hone : ∀ packet, (ofPacket packet).filter (shows .debug message) = [tell packet]) :
    events.filter (shows .debug message) = packets.map tell := by
  have hfirst : events.filter (shows .debug message) =
      (events.filter isAboutPacket).filter (shows .debug message) := by
    rw [List.filter_filter]
    refine List.filter_congr ?_
    intro event _
    cases hshows : event.shows .debug message with
    | false => rfl
    | true => rw [habout event hshows, Bool.and_self]
  rw [hfirst, h, List.filter_flatMap]
  simp only [hone]
  exact List.map_eq_flatMap.symm

/-- **The reports of packets that are sent tell the packets**, one to one and in order. -/
theorem Mirror.sendings : List.Forall₂ TellsSending (events.filter (shows .debug "send")) packets := by
  rw [h.filter_shows sendingOf (fun event hshows => by rw [isAboutPacket, hshows, Bool.true_or])
    fun _ => rfl, List.forall₂_map_left_iff, List.forall₂_same]
  exact fun packet _ => tellsSending_sendingOf packet

/-- **The reports of packets that were kept tell the packets**, one to one and in order. -/
theorem Mirror.recordings :
    List.Forall₂ TellsRecording (events.filter (shows .debug "logged packet")) packets := by
  rw [h.filter_shows recorded (fun event hshows => by rw [isAboutPacket, hshows, Bool.or_true])
    fun _ => rfl, List.forall₂_map_left_iff, List.forall₂_same]
  exact fun packet _ => tellsRecording_recorded packet

theorem Mirror.turns : (events.filter isAboutPacket).map message =
    packets.flatMap fun _ => ["send", "logged packet"] := by
  rw [h, List.map_flatMap]
  rfl

end Mirror

/-- Each frame that is passed over has its warning. -/
theorem forall₂_tellsLate {request : List UInt8} {counter : UInt16}
    (hcounter : packetCounter request = counter) {late : List (List UInt8)}
    (h : ∀ frame ∈ late, Reply.isPassedOver counter frame = true) :
    List.Forall₂ (TellsLate request) (late.filterMap (Reply.lateReport counter)) late := by
  induction late with
  | nil => exact .nil
  | cons frame late ih =>
    have hlater := ih fun other hmem => h other (List.mem_cons_of_mem frame hmem)
    cases hparse : Reply.parse frame with
    | error fault =>
      have hpassed := h frame List.mem_cons_self
      rw [Reply.isPassedOver_of_error hparse] at hpassed
      exact absurd hpassed Bool.false_ne_true
    | ok reply =>
      rw [List.filterMap_cons_some (by rw [Reply.lateReport, hparse])]
      refine .cons ⟨?_, reply, hparse, rfl⟩ hlater
      rw [hcounter]
      rfl

end Event

/-- A frame that decides gives a value or a fault of its own. -/
theorem Reply.decides_gives (counter : UInt16) (frame : List UInt8) :
    (∃ x, decides counter frame = .ok (.reading x)) ∨
      ∃ fault, decides counter frame = .error fault ∧ fault ≠ .noReply := by
  unfold decides
  cases hparse : parse frame with
  | error fault =>
    refine .inr ⟨fault, rfl, ?_⟩
    rcases fault_of_parse hparse with rfl | ⟨declared, actual, rfl⟩ | ⟨kind, rfl⟩
    · simp
    · simp
    · simp
  | ok reply =>
    simp only
    split
    · exact .inr ⟨_, rfl, by simp⟩
    · split
      · exact .inr ⟨_, rfl, by simp⟩
      · split
        · exact .inr ⟨_, rfl, by simp⟩
        · exact .inl ⟨_, rfl⟩

/-! ### Packets -/

theorem Request.typeByte_packet (request : Request) (counter : UInt16) :
    (request.packet counter)[4]? = some (request.command counter).typeByte := by
  obtain ⟨l₀, l₁, c₀, c₁, a₀, a₁, hbytes, -⟩ := (request.command counter).exists_header
  rw [packet, hbytes]
  rfl

theorem Command.typeByte_eq_zero_iff {c : Command} : c.typeByte = 0x00 ↔ c.expectsReply = true := by
  unfold typeByte
  cases c.expectsReply with
  | true => exact iff_of_true rfl rfl
  | false => exact iff_of_false (by decide) Bool.false_ne_true

namespace Device

/-- A device reports a packet by what the packet says itself. -/
theorem report_eq {σ : Type} (device : Device σ) (request : Request) :
    device.report request = .sendingOf (request.packet device.counter) := by
  have hreply : decide ((request.packet device.counter)[4]? = some 0x00) =
      (request.command device.counter).expectsReply := by
    rw [request.typeByte_packet, Bool.eq_iff_iff, decide_eq_true_iff, Option.some.injEq,
      Command.typeByte_eq_zero_iff]
  rw [report, Event.sendingOf, packetCounter_packet, hreply]

/-! ### The packets of an operation -/

/-- The events of an outcome tell of the packets that it adds to those recorded. -/
def MirrorsPackets (device : Device Recorder) (outcome : Outcome (Device Recorder) Answer) : Prop :=
  ∃ packets, outcome.state.link.sent.toList = device.link.sent.toList ++ packets ∧
    Event.Mirror outcome.events packets

theorem filter_doneEvents (request : Request) :
    (doneEvents request).filter Event.isAboutPacket = [] := by
  cases request <;> rfl

theorem filter_reportValue {p : Event → Bool} {port : UInt8} {kind : SensorKind}
    (h : ∀ x, p (.sensor port kind x) = false) (result : Except Fault Answer) :
    (reportValue port kind result).filter p = [] := by
  unfold reportValue
  split
  · rename_i x
    exact List.filter_cons_of_neg (by rw [h x]; exact Bool.false_ne_true)
  · rfl

/-- What is reported of frames that are passed over are warnings. -/
theorem eq_lateReply_of_mem {counter : UInt16} {late : List (List UInt8)} {event : Event}
    (h : event ∈ late.filterMap (Reply.lateReport counter)) :
    ∃ got, event = .lateReply counter got := by
  obtain ⟨frame, -, hreport⟩ := List.mem_filterMap.1 h
  unfold Reply.lateReport at hreport
  split at hreport
  · rename_i reply hparse
    exact ⟨reply.counter, (Option.some.inj hreport).symm⟩
  · exact absurd hreport (by simp)

theorem filter_lateReports {p : Event → Bool} {counter : UInt16}
    (h : ∀ got, p (.lateReply counter got) = false) (late : List (List UInt8)) :
    (late.filterMap (Reply.lateReport counter)).filter p = [] := by
  rw [List.filter_eq_nil_iff]
  intro event hevent
  obtain ⟨got, rfl⟩ := eq_lateReply_of_mem hevent
  rw [h got]
  exact Bool.false_ne_true

/-- A reading reports its packet, the frames that it passes over, and its value. -/
theorem events_readSensor (device : Device Recorder) (port : UInt8) (kind : SensorKind) :
    ∃ late, late = device.link.replies.toList.takeWhile (Reply.isPassedOver device.counter) ∧
      (device.readSensor port kind).events =
        [device.report (.sensor port kind),
            .recorded ((Request.sensor port kind).packet device.counter)] ++
          (late.filterMap (Reply.lateReport device.counter) ++
            reportValue port kind (device.readSensor port kind).result) :=
  ⟨_, rfl, (device.readSensor_recorder port kind).2.2⟩

section Operations

variable (device : Device Recorder)

theorem mirrorsPackets_of_same {outcome : Outcome (Device Recorder) Answer}
    (hstate : outcome.state.link.sent = device.link.sent)
    (hevents : outcome.events.filter Event.isAboutPacket = []) : device.MirrorsPackets outcome :=
  ⟨[], by rw [hstate, List.append_nil], hevents⟩

theorem mirrorsPackets_of_records {request : Request} {outcome : Outcome (Device Recorder) Answer}
    (hrecords : device.Records request outcome.state) {rest : List Event}
    (hevents : outcome.events =
      [device.report request, .recorded (request.packet device.counter)] ++ rest)
    (hrest : rest.filter Event.isAboutPacket = []) : device.MirrorsPackets outcome := by
  refine ⟨[request.packet device.counter], hrecords.packets, ?_⟩
  rw [hevents, report_eq]
  show Event.Mirror _ ([request.packet device.counter] ++ [])
  exact Event.Mirror.append rfl hrest

/-- **An operation tells of the packets that it leaves, and of no other ones.** -/
theorem perform_mirrorsPackets (operation : Operation) :
    device.MirrorsPackets (device.perform operation) := by
  rcases device.perform_cases operation with
    ⟨-, hperform⟩ | ⟨-, fault, -, hperform⟩ | ⟨-, hz, ms, volume, -, hperform⟩ |
    ⟨-, request, -, hperform⟩ | ⟨-, port, kind, -, hperform⟩
  · rw [hperform]
    exact device.mirrorsPackets_of_same rfl rfl
  · rw [hperform]
    exact device.mirrorsPackets_of_same rfl rfl
  · rw [hperform]
    exact device.mirrorsPackets_of_same rfl rfl
  · rw [hperform, order_recorder]
    exact device.mirrorsPackets_of_records (device.records_recorded request) rfl
      (filter_doneEvents request)
  · rw [hperform]
    obtain ⟨late, -, hevents⟩ := device.events_readSensor port kind
    refine device.mirrorsPackets_of_records (device.records_readSensor port kind) hevents ?_
    rw [List.filter_append, filter_lateReports fun _ => rfl, filter_reportValue fun _ => rfl,
      List.append_nil]

theorem run_mirrorsPackets (step : Step (List UInt8)) :
    device.MirrorsPackets (step.run Recorder.pushReply device) := by
  cases step with
  | initialise => exact device.mirrorsPackets_of_same rfl rfl
  | outside frame => exact device.mirrorsPackets_of_same rfl rfl
  | operate operation => exact device.perform_mirrorsPackets operation

end Operations

/-! ### What else an operation reports -/

/-- What a reading reports: one warning for each frame that it passed over. The frames that it took off the queue are
these and the one that decided, if any did. -/
def LogsReading (device : Device Recorder) (outcome : Outcome (Device Recorder) Answer) : Prop :=
  ∃ (request : List UInt8) (skipped : List (List UInt8)) (decided : Option (List UInt8)),
    outcome.state.link.sent.toList = device.link.sent.toList ++ [request] ∧
      device.link.replies.toList =
        skipped ++ decided.toList ++ outcome.state.link.replies.toList ∧
      (decided = none ↔ outcome.result = .error .noReply) ∧
      List.Forall₂ (Event.TellsLate request)
        (outcome.events.filter (Event.shows .warn "stale reply dropped")) skipped

/-- What an operation reports, by what it gives back. -/
structure LogsOutcome (device : Device Recorder) (operation : Operation)
    (outcome : Outcome (Device Recorder) Answer) : Prop where
  /-- A refused operation reports nothing. -/
  refused : (outcome.result = .error .notInitialised ∨
    ∃ port, outcome.result = .error (.invalidPort port)) → outcome.events = []
  /-- A tone that is not sent is only warned of. -/
  suppressed : outcome.result = .ok (.played false) → ∃ event,
    outcome.events = [event] ∧ event.shows .warn "tone suppressed" = true
  reading : device.initialised = true → ∀ port kind, operation = .sensor port kind →
    1 ≤ port ∧ port ≤ 4 → device.LogsReading outcome
  /-- Only readings pass over frames. -/
  unread : (∀ port kind, operation ≠ .sensor port kind) →
    outcome.events.filter (Event.shows .warn "stale reply dropped") = []
  /-- A value is reported exactly if there is one. -/
  value : ∀ x, outcome.result = .ok (.reading x) → ∃ port kind, operation = .sensor port kind ∧
    outcome.events.filter (Event.shows .debug "sensor") = [.sensor port kind x]
  valueless : (∀ x, outcome.result ≠ .ok (.reading x)) →
    outcome.events.filter (Event.shows .debug "sensor") = []

section Readings

variable (device : Device Recorder) (port : UInt8) (kind : SensorKind)

theorem readSensor_gives :
    (∃ x, (device.readSensor port kind).result = .ok (.reading x)) ∨
      ∃ fault, (device.readSensor port kind).result = .error fault := by
  obtain ⟨hresult, -, -⟩ := device.readSensor_recorder port kind
  rw [hresult]
  cases (device.link.replies.toList.dropWhile (Reply.isPassedOver device.counter)).head? with
  | none => exact .inr ⟨.noReply, rfl⟩
  | some frame =>
    rcases Reply.decides_gives device.counter frame with hvalue | ⟨fault, hfault, -⟩
    · exact .inl hvalue
    · exact .inr ⟨fault, hfault⟩

/-- There is no reply exactly if no frame decides. -/
theorem readSensor_noReply_iff :
    (device.link.replies.toList.dropWhile (Reply.isPassedOver device.counter)).head? = none ↔
      (device.readSensor port kind).result = .error .noReply := by
  obtain ⟨hresult, -, -⟩ := device.readSensor_recorder port kind
  rw [hresult]
  cases (device.link.replies.toList.dropWhile (Reply.isPassedOver device.counter)).head? with
  | none => exact iff_of_true rfl rfl
  | some frame =>
    refine iff_of_false (by simp) ?_
    intro hnone
    change Reply.decides device.counter frame = .error .noReply at hnone
    rcases Reply.decides_gives device.counter frame with ⟨x, hvalue⟩ | ⟨fault, hfault, hother⟩
    · exact absurd (hvalue.symm.trans hnone) (by simp)
    · exact hother (Except.error.inj (hfault.symm.trans hnone))

theorem filter_warnings_readSensor :
    (device.readSensor port kind).events.filter (Event.shows .warn "stale reply dropped") =
      (device.link.replies.toList.takeWhile (Reply.isPassedOver device.counter)).filterMap
        (Reply.lateReport device.counter) := by
  obtain ⟨late, hlate, hevents⟩ := device.events_readSensor port kind
  have hall : (late.filterMap (Reply.lateReport device.counter)).filter
      (Event.shows .warn "stale reply dropped") =
      late.filterMap (Reply.lateReport device.counter) := by
    rw [List.filter_eq_self]
    intro event hevent
    obtain ⟨got, rfl⟩ := eq_lateReply_of_mem hevent
    rfl
  rw [hevents, List.filter_append, List.filter_append, hall, filter_reportValue fun _ => rfl,
    List.append_nil, hlate]
  rfl

theorem filter_values_readSensor :
    (device.readSensor port kind).events.filter (Event.shows .debug "sensor") =
      reportValue port kind (device.readSensor port kind).result := by
  obtain ⟨late, -, hevents⟩ := device.events_readSensor port kind
  have hvalue : (reportValue port kind (device.readSensor port kind).result).filter
      (Event.shows .debug "sensor") =
      reportValue port kind (device.readSensor port kind).result := by
    generalize (device.readSensor port kind).result = result
    unfold reportValue
    split
    · rfl
    · rfl
  rw [hevents, List.filter_append, List.filter_append, filter_lateReports fun _ => rfl, hvalue]
  rfl

/-- **A reading warns of every frame that it passes over**, in the order of the queue. -/
theorem readSensor_logsReading : device.LogsReading (device.readSensor port kind) := by
  obtain ⟨-, hleft, -⟩ := device.readSensor_recorder port kind
  refine ⟨(Request.sensor port kind).packet device.counter,
    device.link.replies.toList.takeWhile (Reply.isPassedOver device.counter),
    (device.link.replies.toList.dropWhile (Reply.isPassedOver device.counter)).head?,
    (device.records_readSensor port kind).packets, ?_, device.readSensor_noReply_iff port kind, ?_⟩
  · rw [hleft]
    exact (Reply.taken_append_tail _ _).symm
  · rw [filter_warnings_readSensor]
    refine Event.forall₂_tellsLate (packetCounter_packet _ _) ?_
    intro frame hframe
    exact List.mem_takeWhile_imp hframe

/-- A reading reports its value exactly if it gives one. -/
theorem logsOutcome_readSensor :
    device.LogsOutcome (.sensor port kind) (device.readSensor port kind) := by
  constructor
  case refused =>
    rintro (hearly | ⟨other, hearly⟩)
    · exact absurd trivial (fault_of_readSensor hearly)
    · exact absurd trivial (fault_of_readSensor hearly)
  case suppressed =>
    intro hplayed
    rcases device.readSensor_gives port kind with ⟨x, hx⟩ | ⟨fault, hfault⟩
    · exact absurd (hx.symm.trans hplayed) (by simp)
    · exact absurd (hfault.symm.trans hplayed) (by simp)
  case reading =>
    intro _ port' kind' hsame _
    obtain ⟨rfl, rfl⟩ := Operation.sensor.inj hsame
    exact device.readSensor_logsReading port kind
  case unread => exact fun hother => absurd rfl (hother port kind)
  case value =>
    intro x hx
    refine ⟨port, kind, rfl, ?_⟩
    rw [filter_values_readSensor, hx]
    rfl
  case valueless =>
    intro hnone
    rw [filter_values_readSensor]
    rcases device.readSensor_gives port kind with ⟨x, hx⟩ | ⟨fault, hfault⟩
    · exact absurd hx (hnone x)
    · rw [hfault]
      rfl

end Readings

/-- An order reports no value, and passes over no frame. -/
theorem logsOutcome_order (device : Device Recorder) {operation : Operation} (request : Request)
    (hreading : device.initialised = true → ∀ port kind, operation = .sensor port kind →
      1 ≤ port ∧ port ≤ 4 → device.LogsReading (device.order request request.doneAnswer)) :
    device.LogsOutcome operation (device.order request request.doneAnswer) := by
  rw [order_recorder] at hreading ⊢
  constructor
  case refused => simp
  case suppressed =>
    intro hplayed
    cases request <;> exact absurd hplayed (by simp [Request.doneAnswer])
  case reading => exact hreading
  case unread =>
    intro _
    cases request <;> rfl
  case value =>
    intro x hx
    cases request <;> exact absurd hx (by simp [Request.doneAnswer])
  case valueless =>
    intro _
    cases request <;> rfl

/-- **Every operation reports what it gives back**, and nothing where it is refused. -/
theorem perform_logsOutcome (device : Device Recorder) (operation : Operation) :
    device.LogsOutcome operation (device.perform operation) := by
  have hreading : device.initialised = true → ∀ port kind, operation = .sensor port kind →
      1 ≤ port ∧ port ≤ 4 → device.LogsReading (device.perform operation) := by
    rintro hready port kind rfl hport
    rw [perform_sensor hready hport]
    exact device.readSensor_logsReading port kind
  rcases device.perform_cases operation with
    ⟨-, hperform⟩ | ⟨-, fault, -, hperform⟩ | ⟨-, hz, ms, volume, -, hperform⟩ |
    ⟨-, request, -, hperform⟩ | ⟨-, port, kind, hrequest, hperform⟩
  · rw [hperform] at hreading ⊢
    exact ⟨fun _ => rfl, by simp, hreading, fun _ => rfl, by simp, fun _ => rfl⟩
  · rw [hperform] at hreading ⊢
    exact ⟨fun _ => rfl, by simp, hreading, fun _ => rfl, by simp, fun _ => rfl⟩
  · rw [hperform] at hreading ⊢
    exact ⟨by simp, fun _ => ⟨_, rfl, rfl⟩, hreading, fun _ => rfl, by simp, fun _ => rfl⟩
  · rw [hperform] at hreading ⊢
    exact device.logsOutcome_order request hreading
  · rw [hperform, Operation.eq_sensor_of_request? hrequest]
    exact device.logsOutcome_readSensor port kind

end Device

/-! ### Sessions -/

namespace RecordedSession

/-- All events of a session, in order. -/
def log (steps : List (Step (List UInt8))) : List Event :=
  Session.events (Session.trace Recorder.pushReply (Device.new Recorder.empty) steps)

theorem log_concat (steps : List (Step (List UInt8))) (step : Step (List UInt8)) :
    log (steps ++ [step]) = log steps ++ (step.run Recorder.pushReply (device steps)).events := by
  rw [log, Session.trace_append, Session.events, List.flatMap_append]
  exact congrArg (log steps ++ ·) (List.append_nil _)

/-- **The log of a session tells of its packets**, and of no other ones. -/
theorem mirror_log (steps : List (Step (List UInt8))) : Event.Mirror (log steps) (packets steps) := by
  -- induction on the steps: the last one adds its packets to the log and to the recorder
  induction steps using List.reverseRecOn with
  | nil => rfl
  | append_singleton steps step ih =>
    obtain ⟨added, hpackets, hevents⟩ := (device steps).run_mirrorsPackets step
    have hall : packets (steps ++ [step]) = packets steps ++ added := by
      rw [packets, device_concat, hpackets, packets]
    rw [log_concat, hall]
    exact ih.append hevents

/-- What the log of a session tells, and what the operation that comes next adds to it. -/
structure MirrorsWire (steps : List (Step (List UInt8))) : Prop where
  /-- The reports of packets that are sent tell all packets recorded, in order. -/
  sendings : List.Forall₂ Event.TellsSending
    ((log steps).filter (Event.shows .debug "send")) (packets steps)
  recordings : List.Forall₂ Event.TellsRecording
    ((log steps).filter (Event.shows .debug "logged packet")) (packets steps)
  /-- The two kinds of reports take turns. -/
  turns : ((log steps).filter Event.isAboutPacket).map Event.message =
    (packets steps).flatMap fun _ => ["send", "logged packet"]
  grows : ∀ step, log (steps ++ [step]) =
    log steps ++ (step.run Recorder.pushReply (device steps)).events
  operation : ∀ operation,
    (device steps).LogsOutcome operation ((device steps).perform operation)

/-- **The log mirrors the wire.** In every session the reports of packets that are sent and of packets that were kept
correspond to the packets recorded one to one and in order, and the fields of a report are what the packet says. What
else an operation reports are the frames that a reading passes over, with both counters, its value if it has one, and
the tone that it does not send; a refused operation reports nothing. -/
theorem log_mirrors_wire (steps : List (Step (List UInt8))) : MirrorsWire steps := by
  have hmirror := mirror_log steps
  constructor
  case sendings => exact hmirror.sendings
  case recordings => exact hmirror.recordings
  case turns => exact hmirror.turns
  case grows => exact log_concat steps
  case operation => exact (device steps).perform_logsOutcome

/-- The first reading finds no reply; the second one passes over the late reply to it. -/
example : (log [.initialise, .operate (.sensor 1 .gyro), .outside [7, 0, 0, 0, 2, 0, 0, 64, 65],
      .outside [7, 0, 1, 0, 2, 0, 0, 128, 63], .operate (.sensor 1 .gyro)]).map Event.message =
    ["ev3 initialised", "send", "logged packet", "send", "logged packet", "stale reply dropped",
      "sensor"] := by decide +kernel

end RecordedSession

end BrickControl
