import Mathlib.Data.List.Induction
import BrickControl.Proofs.CounterReuse

/-!
# What the wire holds under faults

A send has two phases, and whatever is settled for a line between two calls, each of them succeeds or fails as a
whole. So the bytes on the wire are always whole packets, and the counter of a device counts the sends in which both
phases succeeded.

* `Line.FailsWriting`, `Line.FailsFlushing` and `Line.Delivers`: the three ends of a send, by its phases;
* `Device.SendsInPhases` and `Device.perform_sendsInPhases`: what an operation leaves, by the end of its send;
* `Session.written_after`: one step adds a whole packet or nothing, so a session adds whole packets;
* `Session.counter_after`: the counter counts the packets delivered;
* `LineSession.holdsWholePackets`: every session over a line, with the effect of whatever operation comes next.
-/

namespace BrickControl

/-! ### Interruptions of a read -/

/-- A signal that breaks into a read is never why the read fails. -/
theorem Arrival.fault_stretch_ne_interrupted (arrivals : List Arrival) :
    (stretch arrivals).fault ≠ .interrupted := by
  induction arrivals with
  | nil => simp [stretch]
  | cons a later ih =>
    cases a with
    | bytes piece =>
      by_cases hpiece : piece = []
      · simp [hpiece, stretch]
      · rw [stretch_bytes_cons hpiece]
        exact ih
    | failure fault =>
      by_cases hfault : fault = .interrupted
      · rw [hfault, stretch_interrupted_cons]
        exact ih
      · rw [stretch_failure_cons hfault]
        exact hfault

theorem Line.receive_ne_interrupted (line : Line) :
    line.receive.result ≠ .error (.line .interrupted) := by
  intro h
  cases hcut : cutFrame? (Arrival.stretch line.arrivals).bytes with
  | none =>
    rw [receive_of_uncut hcut] at h
    exact Arrival.fault_stretch_ne_interrupted _ (Fault.line.inj (Except.error.inj h))
  | some cut =>
    obtain ⟨arrivals, hreceive, -⟩ := receive_of_cut hcut
    rw [hreceive] at h
    exact absurd h (by simp)

/-! ### The phases of a send -/

namespace Line

/-- The packet could not be written. -/
def FailsWriting (line : Line) (packet : List UInt8) (fault : LineFault) : Prop :=
  (line.writeAll packet).1 = .error fault

/-- The packet was written, but the line could not be flushed then. -/
def FailsFlushing (line : Line) (packet : List UInt8) (fault : LineFault) : Prop :=
  (line.writeAll packet).1 = .ok () ∧ (line.writeAll packet).2.flush.1 = .error fault

/-- The packet was written and the line flushed. -/
def Delivers (line : Line) (packet : List UInt8) : Prop :=
  (line.writeAll packet).1 = .ok () ∧ (line.writeAll packet).2.flush.1 = .ok ()

variable {line : Line} {packet : List UInt8} {fault : LineFault}

theorem writeFailure_ne_interrupted (line : Line) : line.writeFailure ≠ some .interrupted := by
  cases hwrite : line.writeFault with
  | none =>
    rw [writeFailure_of_none hwrite]
    split <;> simp
  | some fault =>
    by_cases hfault : fault = .interrupted
    · rw [writeFailure_of_interrupted (hfault ▸ hwrite)]
      split <;> simp
    · rw [writeFailure_of_some hwrite hfault]
      simpa using hfault

theorem failsWriting_iff (hne : packet ≠ []) :
    line.FailsWriting packet fault ↔ line.writeFailure = some fault := by
  rw [FailsWriting, writeAll_eq line hne]
  cases line.writeFailure <;> simp

theorem failsFlushing_iff (hne : packet ≠ []) :
    line.FailsFlushing packet fault ↔
      line.writeFailure = none ∧ line.flushFault = some fault := by
  rw [FailsFlushing, writeAll_eq line hne]
  cases line.writeFailure with
  | some other => simp
  | none =>
    have hflush : (line.afterWriting packet).flushFault = line.flushFault := rfl
    simp only [flush, hflush]
    cases line.flushFault <;> simp

theorem delivers_iff (hne : packet ≠ []) :
    line.Delivers packet ↔ line.writeFailure = none ∧ line.flushFault = none := by
  rw [Delivers, writeAll_eq line hne]
  cases line.writeFailure with
  | some other => simp
  | none =>
    have hflush : (line.afterWriting packet).flushFault = line.flushFault := rfl
    simp only [flush, hflush]
    cases line.flushFault <;> simp

theorem send_ends (line : Line) (hne : packet ≠ []) :
    (∃ fault, line.FailsWriting packet fault) ∨ (∃ fault, line.FailsFlushing packet fault) ∨
      line.Delivers packet := by
  cases hwrite : line.writeFailure with
  | some fault => exact .inl ⟨fault, (failsWriting_iff hne).2 hwrite⟩
  | none =>
    cases hflush : line.flushFault with
    | some fault => exact .inr (.inl ⟨fault, (failsFlushing_iff hne).2 ⟨hwrite, hflush⟩⟩)
    | none => exact .inr (.inr ((delivers_iff hne).2 ⟨hwrite, hflush⟩))

end Line

namespace Device

/-! ### Operations, by the end of their send -/

/-- What an operation with a packet to send leaves of a device over a line. -/
structure SendsInPhases (device : Device Line) (packet : List UInt8)
    (outcome : Outcome (Device Line) Answer) : Prop where
  /-- A write that fails adds no byte, and nothing is read. -/
  unwritten : ∀ fault, device.link.FailsWriting packet fault →
    outcome.result = .error (.line fault) ∧
      outcome.state.link.written = device.link.written ∧
      outcome.state.link.arrivals = device.link.arrivals ∧
      outcome.state.counter = device.counter
  /-- A flush that fails comes when the whole packet is on the wire, and the counter stays all the same. -/
  unflushed : ∀ fault, device.link.FailsFlushing packet fault →
    outcome.result = .error (.line fault) ∧
      outcome.state.link.written = device.link.written ++ packet ∧
      outcome.state.link.arrivals = device.link.arrivals ∧
      outcome.state.counter = device.counter
  delivered : device.link.Delivers packet →
    outcome.state.link.written = device.link.written ++ packet ∧
      outcome.state.counter.toNat = (device.counter.toNat + 1) % 65536
  /-- The phases end in one of these three ways. -/
  ends : (∃ fault, device.link.FailsWriting packet fault) ∨
    (∃ fault, device.link.FailsFlushing packet fault) ∨ device.link.Delivers packet
  /-- A write that a signal broke into is tried again, and so is a read, but a flush is not. -/
  interrupted : outcome.result = .error (.line .interrupted) ↔
    device.link.FailsFlushing packet .interrupted

variable {device : Device Line}

theorem awaitReply_ne_interrupted (counter : UInt16) (line : Line) :
    (awaitReply counter line).result ≠ .error (.line .interrupted) := by
  intro h
  rcases fault_of_awaitReply h with ⟨line', hreceive⟩ | ⟨-, frame, -, hparse⟩
  · exact line'.receive_ne_interrupted hreceive
  · rcases Reply.fault_of_parse hparse with hfault | ⟨declared, actual, hfault⟩ | ⟨kind, hfault⟩
    · exact absurd hfault (by simp)
    · exact absurd hfault (by simp)
    · exact absurd hfault (by simp)

/-- A signal is reported only where it broke into a flush. -/
def ReportsFlush (device : Device Line) (outcome : Outcome (Device Line) Answer) : Prop :=
  outcome.result = .error (.line .interrupted) →
    device.link.writeFailure = none ∧ device.link.flushFault = some .interrupted

theorem submit_reportsFlush {request : Request}
    (h : (device.submit request).result = .error (.line .interrupted)) :
    device.link.writeFailure = none ∧ device.link.flushFault = some .interrupted := by
  rcases device.submit_line request with ⟨fault, hwrite, hsubmit⟩ |
    ⟨fault, hwrite, hflush, hsubmit⟩ | ⟨-, -, hsubmit⟩
  · rw [hsubmit] at h
    rw [Fault.line.inj (Except.error.inj h)] at hwrite
    exact absurd hwrite device.link.writeFailure_ne_interrupted
  · rw [hsubmit] at h
    rw [Fault.line.inj (Except.error.inj h)] at hflush
    exact ⟨hwrite, hflush⟩
  · rw [hsubmit] at h
    exact absurd h (by simp)

theorem order_reportsFlush (request : Request) (answer : Answer) :
    device.ReportsFlush (device.order request answer) := by
  intro h
  cases hsubmit : (device.submit request).result with
  | error fault =>
    rw [order_of_unsent hsubmit] at h
    exact submit_reportsFlush (hsubmit.trans (congrArg Except.error (Except.error.inj h)))
  | ok sent =>
    rw [order_of_sent hsubmit] at h
    exact absurd h (by simp)

theorem readSensor_reportsFlush (port : UInt8) (kind : SensorKind) :
    device.ReportsFlush (device.readSensor port kind) := by
  intro h
  cases hsubmit : (device.submit (.sensor port kind)).result with
  | error fault =>
    rw [readSensor_of_unsent hsubmit] at h
    exact submit_reportsFlush (hsubmit.trans (congrArg Except.error (Except.error.inj h)))
  | ok sent =>
    rw [readSensor_of_sent hsubmit] at h
    rcases of_reading_error h with hwait | ⟨reply, -, hvalue⟩
    · exact absurd hwait (awaitReply_ne_interrupted _ _)
    · rcases fault_of_value hvalue with hfault | hfault | hfault
      · exact absurd hfault (by simp)
      · exact absurd hfault (by simp)
      · exact absurd hfault (by simp)

section HandsOver

variable {packet : List UInt8} {result : Except Fault Answer} {after : Device Line}
  {fault : LineFault}

theorem HandsOver.of_unwritten (h : device.HandsOver packet result after)
    (hwrite : device.link.writeFailure = some fault) :
    result = .error (.line fault) ∧
      after = { device with link := { device.link with writeFault := none } } := by
  cases h with
  | unwritten hwrite' =>
    rw [hwrite, Option.some.injEq] at hwrite'
    exact ⟨by rw [hwrite'], rfl⟩
  | unflushed hwrite' hflush => exact absurd (hwrite.symm.trans hwrite') (by simp)
  | sent hwrite' hflush arrivals => exact absurd (hwrite.symm.trans hwrite') (by simp)

theorem HandsOver.of_unflushed (h : device.HandsOver packet result after)
    (hwrite : device.link.writeFailure = none) (hflush : device.link.flushFault = some fault) :
    result = .error (.line fault) ∧
      after = { device with link := device.link.afterSending packet } := by
  cases h with
  | unwritten hwrite' => exact absurd (hwrite.symm.trans hwrite') (by simp)
  | unflushed hwrite' hflush' =>
    rw [hflush, Option.some.injEq] at hflush'
    exact ⟨by rw [hflush'], rfl⟩
  | sent hwrite' hflush' arrivals => exact absurd (hflush.symm.trans hflush') (by simp)

theorem HandsOver.of_delivered (h : device.HandsOver packet result after)
    (hwrite : device.link.writeFailure = none) (hflush : device.link.flushFault = none) :
    ∃ arrivals, after = { device with
      link := { device.link.afterSending packet with arrivals := arrivals }
      counter := device.counter + 1 } := by
  cases h with
  | unwritten hwrite' => exact absurd (hwrite.symm.trans hwrite') (by simp)
  | unflushed hwrite' hflush' => exact absurd (hflush.symm.trans hflush') (by simp)
  | sent hwrite' hflush' arrivals => exact ⟨arrivals, rfl⟩

end HandsOver

/-- **What an operation hands over, it sends in phases.** -/
theorem HandsOver.sendsInPhases {packet : List UInt8} (hne : packet ≠ [])
    {outcome : Outcome (Device Line) Answer}
    (h : device.HandsOver packet outcome.result outcome.state)
    (hreports : device.ReportsFlush outcome) : device.SendsInPhases packet outcome := by
  constructor
  case unwritten =>
    intro fault hfails
    obtain ⟨hresult, hstate⟩ := h.of_unwritten ((Line.failsWriting_iff hne).1 hfails)
    rw [hstate]
    exact ⟨hresult, rfl, rfl, rfl⟩
  case unflushed =>
    intro fault hfails
    obtain ⟨hwrite, hflush⟩ := (Line.failsFlushing_iff hne).1 hfails
    obtain ⟨hresult, hstate⟩ := h.of_unflushed hwrite hflush
    rw [hstate]
    exact ⟨hresult, device.link.written_afterSending packet, rfl, rfl⟩
  case delivered =>
    intro hdelivers
    obtain ⟨hwrite, hflush⟩ := (Line.delivers_iff hne).1 hdelivers
    obtain ⟨arrivals, hstate⟩ := h.of_delivered hwrite hflush
    rw [hstate]
    refine ⟨device.link.written_afterSending packet, ?_⟩
    rw [UInt16.toNat_add]
    rfl
  case ends => exact device.link.send_ends hne
  case interrupted =>
    rw [Line.failsFlushing_iff hne]
    refine ⟨hreports, ?_⟩
    rintro ⟨hwrite, hflush⟩
    exact (h.of_unflushed hwrite hflush).1

/-- **An operation over a line sends the packet of its request in phases**; without a request it leaves the device
as it was. -/
theorem perform_sendsInPhases (device : Device Line) (operation : Operation) :
    ((device.perform operation).state = device ∧
      (device.initialised = true → operation.request? = none)) ∨
    ∃ request, device.initialised = true ∧ operation.request? = some request ∧
      device.SendsInPhases (request.packet device.counter) (device.perform operation) := by
  refine perform_of_request (P := fun request outcome =>
    device.SendsInPhases (request.packet device.counter) outcome) ?_ ?_ operation
  · intro request
    exact (device.order_handsOver request request.doneAnswer).sendsInPhases
      (request.packet_ne_nil device.counter) (order_reportsFlush request request.doneAnswer)
  · intro port kind
    exact (device.readSensor_handsOver port kind).sendsInPhases
      (Request.packet_ne_nil _ device.counter) (readSensor_reportsFlush port kind)

end Device

/-! ### What steps add -/

/-- A step adds to the wire what the line took in it. -/
theorem Entry.written_step (device : Device Line) (step : Step Wiring) :
    (step.run Line.wire device).state.link.written =
      device.link.written ++ Entry.packet ⟨device, step.run Line.wire device⟩ := by
  have hgrows : ∃ bytes, (step.run Line.wire device).state.link.written =
      device.link.written ++ bytes := by
    cases step with
    | initialise => exact ⟨[], (List.append_nil _).symm⟩
    | outside wiring => exact ⟨[], (List.append_nil _).symm⟩
    | operate operation =>
      rcases device.perform_line operation with ⟨hstate, -⟩ | ⟨request, -, -, hends⟩
      · exact ⟨[], by rw [Step.run, hstate, List.append_nil]⟩
      · rcases hends.effect with ⟨hwritten, -⟩ | ⟨hwritten, -⟩
        · exact ⟨[], hwritten.trans (List.append_nil _).symm⟩
        · exact ⟨_, hwritten⟩
  obtain ⟨bytes, hwritten⟩ := hgrows
  have hpacket : Entry.packet ⟨device, step.run Line.wire device⟩ = bytes :=
    Entry.packet_of_written hwritten
  rw [hpacket]
  exact hwritten

/-- Where the line took a packet, a flush that did not fail delivered it. -/
theorem Entry.flushes_iff_delivers {device : Device Line} {operation : Operation}
    (h : Entry.packet ⟨device, device.perform operation⟩ ≠ []) :
    ¬ Entry.FlushFails ⟨device, device.perform operation⟩ ↔
      device.link.Delivers (Entry.packet ⟨device, device.perform operation⟩) := by
  have hwritten : device.link.writeFailure = none := by
    rcases device.perform_line operation with ⟨hsame, -⟩ | ⟨request, -, -, hends⟩
    · refine absurd (Entry.packet_of_same ?_) h
      exact congrArg (fun after : Device Line => after.link.written) hsame
    · cases hwrite : device.link.writeFailure with
      | none => rfl
      | some fault =>
        -- a write that fails adds nothing, but this step added a packet
        obtain ⟨-, hstate⟩ := hends.of_unwritten hwrite
        refine absurd (Entry.packet_of_same ?_) h
        exact (congrArg (fun after : Device Line => after.link.written) hstate).trans rfl
  rw [Line.delivers_iff h]
  simp only [Entry.FlushFails, ne_eq, not_not, hwritten, true_and]

namespace Session

variable (device : Device Line)

/-- The number of packets that were written and flushed. -/
def delivered (sendings : List (Entry Line)) : Nat :=
  sendings.countP fun sending => !decide sending.FlushFails

theorem sendings_append (steps later : List (Step Wiring)) :
    sendings device (steps ++ later) =
      sendings device steps ++ sendings (after Line.wire device steps) later := by
  rw [sendings, trace_append, List.filter_append]
  rfl

theorem sendings_singleton_of_nil {step : Step Wiring}
    (h : Entry.packet ⟨device, step.run Line.wire device⟩ = []) : sendings device [step] = [] := by
  rw [sendings, trace, trace, List.filter_cons, if_neg (by simpa using h), List.filter_nil]

theorem sendings_singleton_of_ne_nil {step : Step Wiring}
    (h : Entry.packet ⟨device, step.run Line.wire device⟩ ≠ []) :
    sendings device [step] = [⟨device, step.run Line.wire device⟩] := by
  rw [sendings, trace, trace, List.filter_cons, if_pos (by simpa using h), List.filter_nil]

/-- **A session adds whole packets to the wire**: those of its sendings, one behind the other. -/
theorem written_after (steps : List (Step Wiring)) :
    (after Line.wire device steps).link.written =
      device.link.written ++ ((sendings device steps).map Entry.packet).flatten := by
  induction steps using List.reverseRecOn with
  | nil => exact (List.append_nil _).symm
  | append_singleton steps step ih =>
    rw [after_concat, Entry.written_step, ih, sendings_append, List.map_append, List.flatten_append,
      List.append_assoc]
    generalize after Line.wire device steps = current
    by_cases hpacket : Entry.packet ⟨current, step.run Line.wire current⟩ = []
    · rw [sendings_singleton_of_nil current hpacket, hpacket]
      rfl
    · rw [sendings_singleton_of_ne_nil current hpacket]
      simp

/-- **The counter counts the packets delivered**, from the one that the session started with. -/
theorem counter_after {steps : List (Step Wiring)} (h : .initialise ∉ steps) :
    (after Line.wire device steps).counter =
      device.counter + UInt16.ofNat (delivered (sendings device steps)) := by
  induction steps using List.reverseRecOn with
  | nil => exact (UInt16.add_zero _).symm
  | append_singleton steps step ih =>
    rw [List.mem_append, not_or, List.mem_singleton] at h
    rw [after_concat, sendings_append, delivered, List.countP_append]
    have hbefore := ih h.1
    revert hbefore
    generalize after Line.wire device steps = current
    intro hbefore
    rcases Entry.step_line current (Ne.symm h.2) with
      ⟨hnone, hcounter⟩ | ⟨operation, request, rfl, -, -, hpacket, hcounter⟩
    · rw [sendings_singleton_of_nil current hnone]
      exact hcounter.trans hbefore
    · have hsent : Entry.packet ⟨current, (Step.operate operation).run Line.wire current⟩ ≠ [] := by
        rw [hpacket]
        exact request.packet_ne_nil current.counter
      rw [sendings_singleton_of_ne_nil current hsent, List.countP_singleton]
      refine hcounter.trans ?_
      rw [hbefore, delivered, UInt16.ofNat_add, UInt16.add_assoc]
      by_cases hfails : Entry.FlushFails ⟨current, (Step.operate operation).run Line.wire current⟩
      · simp [hfails]
      · simp [hfails]

/-- A packet on the wire is that of an operation, with nothing cut off. -/
theorem whole_of_mem_sendings {steps : List (Step Wiring)} {sending : Entry Line}
    (h : sending ∈ sendings device steps) :
    ∃ earlier operation later request, steps = earlier ++ .operate operation :: later ∧
      sending = ⟨after Line.wire device earlier,
        (after Line.wire device earlier).perform operation⟩ ∧
      sending.before.initialised = true ∧ operation.request? = some request ∧
      sending.packet = request.packet sending.before.counter := by
  rw [sendings, List.mem_filter] at h
  obtain ⟨htrace, hpacket⟩ := h
  obtain ⟨earlier, step, later, rfl, rfl⟩ := mem_trace Line.wire device htrace
  have hstep : step ≠ .initialise := by
    rintro rfl
    rw [Entry.packet_of_same rfl] at hpacket
    exact absurd hpacket (by simp)
  rcases Entry.step_line (after Line.wire device earlier) hstep with
    ⟨hnone, -⟩ | ⟨operation, request, rfl, hready, hrequest, htaken, -⟩
  · rw [hnone] at hpacket
    exact absurd hpacket (by simp)
  · exact ⟨earlier, operation, later, request, rfl, rfl, hready, hrequest, htaken⟩

end Session

/-! ### Sessions -/

namespace LineSession

/-- The device after a session over a line, in whatever state the line was found. -/
def device (line : Line) (steps : List (Step Wiring)) : Device Line :=
  Session.after Line.wire (Device.new line) steps

/-- The steps of a session in which the line took bytes. -/
def sendings (line : Line) (steps : List (Step Wiring)) : List (Entry Line) :=
  Session.sendings (Device.new line) steps

/-- What a session left on the wire and in the counter, and what each operation does after it. -/
structure HoldsWholePackets (line : Line) (steps : List (Step Wiring)) : Prop where
  /-- An operation without a packet to send changes nothing. -/
  unsent : ∀ operation, ((device line steps).initialised = true → operation.request? = none) →
    ((device line steps).perform operation).state = device line steps
  inPhases : ∀ operation request, (device line steps).initialised = true →
    operation.request? = some request →
      (device line steps).SendsInPhases (request.packet (device line steps).counter)
        ((device line steps).perform operation)
  /-- The bytes written are the packets of the sendings, one behind the other. -/
  wire : (device line steps).link.written =
    line.written ++ ((sendings line steps).map Entry.packet).flatten
  /-- Each of them is the whole packet of an operation, and counts as delivered if it was flushed too. -/
  whole : ∀ sending ∈ sendings line steps, ∃ earlier operation later request,
    steps = earlier ++ .operate operation :: later ∧
      sending = ⟨device line earlier, (device line earlier).perform operation⟩ ∧
      operation.request? = some request ∧
      sending.packet = request.packet (device line earlier).counter ∧
      (¬ sending.FlushFails ↔ (device line earlier).link.Delivers sending.packet)
  idle : .initialise ∉ steps → sendings line steps = []
  /-- Since the last initialisation, packets carry the number of those delivered before. -/
  numbered : ∀ earlier later, steps = earlier ++ .initialise :: later → .initialise ∉ later →
    ∃ since, sendings line steps = sendings line earlier ++ since ∧
      (∀ before sending behind, since = before ++ sending :: behind →
        (packetCounter sending.packet).toNat = Session.delivered before % 65536) ∧
      (device line steps).counter.toNat = Session.delivered since % 65536

variable (line : Line)

theorem delivers_of_mem_sendings {steps : List (Step Wiring)} {sending : Entry Line}
    (h : sending ∈ sendings line steps) : ∃ earlier operation later request,
      steps = earlier ++ .operate operation :: later ∧
      sending = ⟨device line earlier, (device line earlier).perform operation⟩ ∧
      operation.request? = some request ∧
      sending.packet = request.packet (device line earlier).counter ∧
      (¬ sending.FlushFails ↔ (device line earlier).link.Delivers sending.packet) := by
  obtain ⟨earlier, operation, later, request, hsteps, rfl, hready, hrequest, hpacket⟩ :=
    Session.whole_of_mem_sendings (Device.new line) h
  refine ⟨earlier, operation, later, request, hsteps, rfl, hrequest, hpacket, ?_⟩
  refine Entry.flushes_iff_delivers ?_
  rw [hpacket]
  exact request.packet_ne_nil _

theorem sendings_of_idle {steps : List (Step Wiring)} (h : .initialise ∉ steps) :
    sendings line steps = [] := by
  rw [List.eq_nil_iff_forall_not_mem]
  intro sending hmem
  obtain ⟨earlier, operation, later, request, rfl, rfl, hready, -⟩ :=
    Session.whole_of_mem_sendings (Device.new line) hmem
  have hidle : (Session.after Line.wire (Device.new line) earlier).initialised = false :=
    Session.initialised_after Line.wire (Device.new line) fun hearlier =>
      h (List.mem_append_left _ hearlier)
  rw [hidle] at hready
  exact absurd hready (by simp)

/-- Behind an initialisation, the packets of a session are numbered from zero by those delivered. -/
theorem numbered_since (earlier : List (Step Wiring)) {later : List (Step Wiring)}
    (h : .initialise ∉ later) : ∃ since,
      sendings line (earlier ++ .initialise :: later) = sendings line earlier ++ since ∧
      (∀ before sending behind, since = before ++ sending :: behind →
        (packetCounter sending.packet).toNat = Session.delivered before % 65536) ∧
      (device line (earlier ++ .initialise :: later)).counter.toNat =
        Session.delivered since % 65536 := by
  let start : Device Line := (device line earlier).initialise.state
  have hsteps : earlier ++ .initialise :: later = earlier ++ [.initialise] ++ later := by
    rw [List.append_assoc, List.singleton_append]
  have hstart : Session.after Line.wire (Device.new line) (earlier ++ [.initialise]) = start :=
    Session.after_concat Line.wire (Device.new line) earlier .initialise
  have hquiet : Session.sendings (device line earlier) [.initialise] = [] :=
    Session.sendings_singleton_of_nil _ (Entry.packet_of_same rfl)
  refine ⟨Session.sendings start later, ?_, ?_, ?_⟩
  · rw [sendings, hsteps, Session.sendings_append, hstart, Session.sendings_append,
      show Session.after Line.wire (Device.new line) earlier = device line earlier from rfl, hquiet,
      List.append_nil]
    rfl
  · intro before sending behind hsince
    have hfollows := Session.follows_sendings h start
    rw [hsince] at hfollows
    have hmem : ∀ entry ∈ before ++ sending :: behind, entry ∈ Session.sendings start later :=
      fun entry hentry => hsince ▸ hentry
    have hcounter := Session.counter_of_follows hfollows fun entry hentry => by
      obtain ⟨-, -, -, -, -, -, hstep⟩ :=
        Session.of_mem_sendings h (hmem entry (List.mem_append_left _ hentry))
      exact hstep
    obtain ⟨-, request, -, -, -, hpacket, -⟩ :=
      Session.of_mem_sendings h (hmem sending (by simp))
    rw [hpacket, packetCounter_packet, hcounter, show start.counter = 0 from rfl,
      UInt16.zero_add, UInt16.toNat_ofNat']
    rfl
  · rw [device, hsteps, Session.after_append, hstart, Session.counter_after start h,
      show start.counter = 0 from rfl, UInt16.zero_add, UInt16.toNat_ofNat']

/-- **The wire holds whole packets, and the counter counts those delivered**, whatever the writes and the flushes
of a session meet. -/
theorem holdsWholePackets (steps : List (Step Wiring)) : HoldsWholePackets line steps := by
  constructor
  case unsent =>
    intro operation hnone
    rcases (device line steps).perform_sendsInPhases operation with
      ⟨hsame, -⟩ | ⟨request, hready, hrequest, -⟩
    · exact hsame
    · rw [hnone hready] at hrequest
      exact absurd hrequest (by simp)
  case inPhases =>
    intro operation request hready hrequest
    rcases (device line steps).perform_sendsInPhases operation with
      ⟨-, hnone⟩ | ⟨request', -, hrequest', hphases⟩
    · rw [hnone hready] at hrequest
      exact absurd hrequest (by simp)
    · rw [hrequest, Option.some.injEq] at hrequest'
      rw [hrequest']
      exact hphases
  case wire => exact Session.written_after (Device.new line) steps
  case whole =>
    intro sending hmem
    exact delivers_of_mem_sendings line hmem
  case idle => exact sendings_of_idle line
  case numbered =>
    rintro earlier later rfl h
    exact numbered_since line earlier h

/-- A write in pieces that a signal broke into, a reading on a line that takes nothing, and a flush that a signal
broke into: three packets are on the wire, of which the last two carry the same counter. -/
theorem holdsWholePackets_of_interruptions :
    let later : List (Step Wiring) := [
      .outside ⟨[], some 4, some .interrupted, none⟩, .operate (.led 1),
      .outside ⟨[.bytes [7, 0]], some 0, none, none⟩, .operate (.sensor 1 .touch),
      .outside ⟨[], none, none, some .interrupted⟩, .operate .stopAll, .operate (.keepAlive 5)]
    let steps := .initialise :: later
    (device Line.idle steps).link.written =
        (Request.led 1).packet 0 ++ (Request.stopAll).packet 1 ++ (Request.keepAlive 5).packet 1 ∧
      (device Line.idle steps).counter.toNat = 2 ∧ (device Line.idle steps).link.unread = 2 := by
  intro later steps
  have hholds := holdsWholePackets Line.idle steps
  have hpackets : (sendings Line.idle steps).map Entry.packet =
      [(Request.led 1).packet 0, (Request.stopAll).packet 1, (Request.keepAlive 5).packet 1] := by
    decide +kernel
  obtain ⟨since, hsince, -, hcounter⟩ := hholds.numbered [] later rfl (by decide)
  have hdelivered : Session.delivered (sendings Line.idle steps) = 2 := by decide +kernel
  rw [hsince] at hdelivered
  refine ⟨?_, ?_, by decide +kernel⟩
  · rw [hholds.wire, hpackets]
    rfl
  · rw [hcounter]
    exact congrArg (· % 65536) hdelivered

end LineSession

end BrickControl
