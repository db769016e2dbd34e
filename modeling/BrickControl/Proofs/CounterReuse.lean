import Mathlib.Data.List.Basic
import BrickControl.Proofs.ReplyFormat
import BrickControl.Proofs.WiredSessions

/-!
# When a counter is used again

The counter moves on when the transport has done all of its work, and a line works in two phases: a packet that
could be written but not flushed has left, and the next one carries the same counter. This file says exactly when
two packets on a line share their counter, and with it, when a reply to the one is taken for a reply to the other.

* `packetCounter` is the counter that a packet carries;
* `Session.Follows`: every packet starts from the counter that the one before left;
* `Session.counter_of_follows`: the counter of a packet is that of an earlier one plus the packets flushed since;
* `Device.perform_acceptsOwn`: what an operation takes for an answer carries its own counter;
* `Session.counters_repeat_iff`: two packets less than a circle apart share their counter exactly if no packet
  from the first one on could be flushed before the second one.
-/

namespace BrickControl

/-! ### Counters on the line -/

/-- The counter of a packet: the two bytes behind its length field. -/
def packetCounter (packet : List UInt8) : UInt16 :=
  UInt16.ofNat (LittleEndian.decode ((packet.drop Bytecode.lengthBytes).take 2))

theorem packetCounter_packet (request : Request) (counter : UInt16) :
    packetCounter (request.packet counter) = counter := by
  obtain ⟨l₀, l₁, hlength, -⟩ :=
    Reply.exists_encode_two ((request.command counter).body.length + 5)
  obtain ⟨c₀, c₁, hcounter, hcount⟩ := Reply.exists_encode_two counter.toNat
  have hbytes : request.packet counter = l₀ :: l₁ :: c₀ :: c₁ ::
      (request.command counter).typeByte ::
        (LittleEndian.encode 2 (request.command counter).allocation.toNat ++
          (request.command counter).body) := by
    rw [Request.packet, Command.bytes, hlength,
      show (request.command counter).counter = counter from rfl, hcounter]
    rfl
  rw [hbytes]
  show UInt16.ofNat (LittleEndian.decode [c₀, c₁]) = counter
  rw [hcount, Nat.mod_eq_of_lt counter.toNat_lt, UInt16.ofNat_toNat]

/-- Less than a circle further, the counter is the same only where none was counted. -/
theorem eq_add_ofNat_iff {counter : UInt16} {n : Nat} (h : n < 65536) :
    counter = counter + UInt16.ofNat n ↔ n = 0 := by
  have hlt := counter.toNat_lt
  rw [← UInt16.toNat_inj, UInt16.toNat_add, UInt16.toNat_ofNat']
  omega

namespace Device

/-! ### Accepted replies -/

/-- A reply that ends a wait is in the last frame that the wait saw. -/
theorem frame_of_awaitReply_ok (counter : UInt16) (line : Line) :
    ∀ {reply : Reply}, (awaitReply counter line).result = .ok reply →
      ∃ frame, (framesSeen (awaitReply counter line).events).getLast? = some frame ∧
        Reply.parse frame = .ok reply := by
  fun_induction awaitReply counter line with
  | case1 line next fault =>
    intro reply h
    exact absurd h (by simp)
  | case2 line next frame hresult fault =>
    intro reply h
    exact absurd h (by simp)
  | case3 line next frame hresult late hparse hlate rest =>
    rename_i ih
    intro reply h
    obtain ⟨last, hlast, hreply⟩ := ih h
    refine ⟨last, ?_, hreply⟩
    rw [framesSeen_append, List.getLast?_append]
    show (framesSeen (awaitReply counter next.state).events).getLast?.or _ = some last
    rw [hlast, Option.some_or]
  | case4 line next frame hresult got hparse =>
    intro reply h
    refine ⟨frame, ?_, Except.ok.inj h ▸ hparse⟩
    rw [show next.events = [.received frame] from (Line.of_receive_ok hresult).1]
    rfl

/-- A wait never ends with a refusal: those are for the device to find in a reply. -/
theorem awaitReply_ne_replyError (counter got : UInt16) (line : Line) :
    (awaitReply counter line).result ≠ .error (.replyError got) := by
  intro h
  rcases fault_of_awaitReply h with ⟨line', hreceive⟩ | ⟨-, frame, -, hparse⟩
  · obtain ⟨cause, hfault⟩ := Line.fault_of_receive hreceive
    exact absurd hfault (by simp)
  · rcases Reply.fault_of_parse hparse with hfault | ⟨declared, actual, hfault⟩ | ⟨kind, hfault⟩
    · exact absurd hfault (by simp)
    · exact absurd hfault (by simp)
    · exact absurd hfault (by simp)

/-- What an operation takes for an answer carries the device's own counter: the value is out of the last frame that
was seen, and a refusal names that counter. -/
structure AcceptsOwn (device : Device Line) (outcome : Outcome (Device Line) Answer) : Prop where
  reading : ∀ x, outcome.result = .ok (.reading x) → ∃ frame reply,
    (framesSeen outcome.events).getLast? = some frame ∧ Reply.parse frame = .ok reply ∧
      reply.single 0 = .ok x ∧ reply.counter = device.counter
  refusal : ∀ got, outcome.result = .error (.replyError got) → got = device.counter

variable (device : Device Line)

theorem acceptsOwn_of_line {fault : LineFault} {state : Device Line} {events : List Event} :
    device.AcceptsOwn ⟨.error (.line fault), state, events⟩ :=
  ⟨fun _ h => absurd h (by simp), fun _ h => absurd h (by simp)⟩

theorem order_acceptsOwn (request : Request) :
    device.AcceptsOwn (device.order request request.doneAnswer) := by
  rcases device.submit_line request with ⟨fault, -, hsubmit⟩ | ⟨fault, -, -, hsubmit⟩ |
    ⟨-, -, hsubmit⟩
  · rw [order_of_unsent (congrArg Outcome.result hsubmit)]
    exact device.acceptsOwn_of_line
  · rw [order_of_unsent (congrArg Outcome.result hsubmit)]
    exact device.acceptsOwn_of_line
  · rw [order_of_sent (congrArg Outcome.result hsubmit)]
    refine ⟨fun x h => ?_, fun got h => absurd h (by simp)⟩
    cases request <;> exact absurd h (by simp [Request.doneAnswer])

theorem readSensor_acceptsOwn (port : UInt8) (kind : SensorKind) :
    device.AcceptsOwn (device.readSensor port kind) := by
  rcases device.submit_line (.sensor port kind) with ⟨fault, -, hsubmit⟩ |
    ⟨fault, -, -, hsubmit⟩ | ⟨-, -, hsubmit⟩
  · rw [readSensor_of_unsent (congrArg Outcome.result hsubmit)]
    exact device.acceptsOwn_of_line
  · rw [readSensor_of_unsent (congrArg Outcome.result hsubmit)]
    exact device.acceptsOwn_of_line
  · rw [readSensor_of_sent (congrArg Outcome.result hsubmit), hsubmit]
    dsimp only
    generalize device.link.afterSending ((Request.sensor port kind).packet device.counter) = line
    refine ⟨fun x h => ?_, fun got h => ?_⟩
    · obtain ⟨reply, hwait, hvalue⟩ := of_reading_ok h
      obtain ⟨frame, hframe, hparse⟩ := frame_of_awaitReply_ok device.counter line hwait
      obtain ⟨hcounter, hsingle⟩ := of_value_ok hvalue
      refine ⟨frame, reply, ?_, hparse, hsingle, hcounter⟩
      rw [framesSeen_append, framesSeen_reportValue, List.append_nil]
      exact hframe
    · rcases of_reading_error h with hwait | ⟨reply, -, hvalue⟩
      · exact absurd hwait (awaitReply_ne_replyError device.counter got line)
      · rcases fault_of_value hvalue with hfault | hfault | hfault
        · exact absurd hfault (by simp)
        · exact Fault.replyError.inj hfault
        · exact absurd hfault (by simp)

theorem perform_acceptsOwn {operation : Operation} {request : Request}
    (hready : device.initialised = true) (hrequest : operation.request? = some request) :
    device.AcceptsOwn (device.perform operation) := by
  rcases perform_of_request (P := fun _ outcome => device.AcceptsOwn outcome)
    device.order_acceptsOwn device.readSensor_acceptsOwn operation with ⟨-, hnone⟩ | ⟨-, -, -, h⟩
  · rw [hnone hready] at hrequest
    exact absurd hrequest (by simp)
  · exact h

end Device

namespace Session

/-! ### Packets of a session -/

/-- The steps in which the line took bytes. -/
def sendings (device : Device Line) (steps : List (Step Wiring)) : List (Entry Line) :=
  (trace Line.wire device steps).filter fun entry => !entry.packet.isEmpty

/-- What the line took in a step is one whole packet, under the counter of the device. -/
theorem of_mem_sendings {device : Device Line} {steps : List (Step Wiring)}
    (h : .initialise ∉ steps) {sending : Entry Line} (hmem : sending ∈ sendings device steps) :
    ∃ operation request, sending.outcome = sending.before.perform operation ∧
      sending.before.initialised = true ∧ operation.request? = some request ∧
      sending.packet = request.packet sending.before.counter ∧
      sending.after.counter = sending.before.counter + if sending.FlushFails then 0 else 1 := by
  rw [sendings, List.mem_filter] at hmem
  obtain ⟨htrace, hpacket⟩ := hmem
  obtain ⟨earlier, step, later, rfl, rfl⟩ := mem_trace Line.wire device htrace
  have hstep : step ≠ .initialise := by
    rintro rfl
    exact h (List.mem_append_right _ List.mem_cons_self)
  rcases Entry.step_line (after Line.wire device earlier) hstep with
    ⟨hnone, -⟩ | ⟨operation, request, rfl, hready, hrequest, htaken, hcounter⟩
  · rw [hnone] at hpacket
    exact absurd hpacket (by simp)
  · exact ⟨operation, request, rfl, hready, hrequest, htaken, hcounter⟩

/-- Steps in a row, where the first starts from a counter and each other one from the counter that the one before
left. -/
def Follows : UInt16 → List (Entry Line) → Prop
  | _, [] => True
  | counter, sending :: later =>
    sending.before.counter = counter ∧ Follows sending.after.counter later

/-- **Packets follow each other**: the steps between two packets leave the counter. -/
theorem follows_sendings {steps : List (Step Wiring)} (h : .initialise ∉ steps) :
    ∀ device : Device Line, Follows device.counter (sendings device steps) := by
  induction steps with
  | nil =>
    intro device
    trivial
  | cons step steps ih =>
    intro device
    rw [List.mem_cons, not_or] at h
    have hlater := ih h.2 (step.run Line.wire device).state
    rw [sendings, trace, List.filter_cons]
    rcases Entry.step_line device (Ne.symm h.1) with
      ⟨hnone, hcounter⟩ | ⟨operation, request, rfl, -, hrequest, htaken, -⟩
    · rw [hnone, if_neg (by simp)]
      exact hcounter ▸ hlater
    · rw [htaken, if_pos (by simpa using request.packet_ne_nil device.counter)]
      exact ⟨rfl, hlater⟩

theorem Follows.of_append {counter : UInt16} {earlier later : List (Entry Line)}
    {sending : Entry Line} (h : Follows counter (earlier ++ sending :: later)) :
    Follows sending.before.counter (sending :: later) := by
  induction earlier generalizing counter with
  | nil => exact ⟨rfl, h.2⟩
  | cons entry earlier ih => exact ih h.2

/-- The counter of a packet is the first one plus the packets that were flushed before it. -/
theorem counter_of_follows {counter : UInt16} {earlier later : List (Entry Line)}
    {sending : Entry Line} (h : Follows counter (earlier ++ sending :: later))
    (hcounts : ∀ entry ∈ earlier,
      entry.after.counter = entry.before.counter + if entry.FlushFails then 0 else 1) :
    sending.before.counter =
      counter + UInt16.ofNat (earlier.countP fun entry => !decide entry.FlushFails) := by
  induction earlier generalizing counter with
  | nil => exact h.1.trans (UInt16.add_zero counter).symm
  | cons entry earlier ih =>
    obtain ⟨hentry, hlater⟩ := h
    have hstep := hcounts entry List.mem_cons_self
    rw [ih hlater fun other hother => hcounts other (List.mem_cons_of_mem _ hother), hstep,
      hentry, List.countP_cons]
    by_cases hfails : entry.FlushFails
    · simp [hfails]
    · simp only [hfails, if_false, decide_false, Bool.not_false, if_true, UInt16.ofNat_add]
      rw [UInt16.add_assoc, UInt16.add_comm 1]
      rfl

theorem countP_flushed_eq_zero_iff {sendings : List (Entry Line)} :
    (sendings.countP fun sending => !decide sending.FlushFails) = 0 ↔
      ∀ sending ∈ sendings, sending.FlushFails := by
  simp [List.countP_eq_zero]

/-- **When counters repeat.** In a session without another initialisation, each packet that the line took is a whole
packet of a request. Of two packets less than a circle apart, the second carries the counter of the first exactly if
no packet from the first one on could be flushed before it. Exactly then, a reading with the second packet takes a
reply to the first one for its own. -/
theorem counters_repeat_iff {device : Device Line} {steps : List (Step Wiring)}
    (h : .initialise ∉ steps) {earlier between later : List (Entry Line)}
    {first second : Entry Line}
    (hsendings : sendings device steps = earlier ++ first :: (between ++ second :: later))
    (hclose : between.length + 1 < 65536) :
    (∀ sending ∈ sendings device steps, ∃ operation request,
      sending.outcome = sending.before.perform operation ∧
        operation.request? = some request ∧
        sending.packet = request.packet sending.before.counter) ∧
    (packetCounter first.packet = packetCounter second.packet ↔
      ∀ sending ∈ first :: between, sending.FlushFails) ∧
    (∀ x, second.outcome.result = .ok (.reading x) → ∃ frame reply,
      (framesSeen second.outcome.events).getLast? = some frame ∧
        Reply.parse frame = .ok reply ∧ reply.single 0 = .ok x ∧
        (reply.counter = packetCounter first.packet ↔
          ∀ sending ∈ first :: between, sending.FlushFails)) ∧
    (∀ got, second.outcome.result = .error (.replyError got) →
      (got = packetCounter first.packet ↔ ∀ sending ∈ first :: between, sending.FlushFails)) := by
  have hmem : ∀ sending ∈ first :: (between ++ second :: later), sending ∈ sendings device steps := by
    intro sending hsending
    rw [hsendings]
    exact List.mem_append_right _ hsending
  obtain ⟨-, request, -, -, -, hfirst, -⟩ := of_mem_sendings h (hmem first List.mem_cons_self)
  obtain ⟨operation', request', houtcome, hready, hrequest, hsecond, -⟩ :=
    of_mem_sendings h (hmem second (by simp))
  have hfollows := follows_sendings h device
  rw [hsendings] at hfollows
  have hcounts : ∀ entry ∈ first :: between,
      entry.after.counter = entry.before.counter + if entry.FlushFails then 0 else 1 := by
    intro entry hentry
    obtain ⟨-, -, -, -, -, -, hcounter⟩ := of_mem_sendings h (hmem entry (by
      rcases List.mem_cons.1 hentry with rfl | hentry
      · exact List.mem_cons_self
      · exact List.mem_cons_of_mem _ (List.mem_append_left _ hentry)))
    exact hcounter
  have hcounter := counter_of_follows
    (show Follows first.before.counter ((first :: between) ++ second :: later) from
      hfollows.of_append) hcounts
  have hrepeat : first.before.counter = second.before.counter ↔
      ∀ sending ∈ first :: between, sending.FlushFails := by
    rw [hcounter, eq_add_ofNat_iff, countP_flushed_eq_zero_iff]
    exact Nat.lt_of_le_of_lt List.countP_le_length hclose
  have haccepts : second.before.AcceptsOwn second.outcome := by
    rw [houtcome]
    exact second.before.perform_acceptsOwn hready hrequest
  rw [hfirst, hsecond, packetCounter_packet, packetCounter_packet]
  refine ⟨?_, hrepeat, ?_, ?_⟩
  · intro sending hsending
    obtain ⟨operation, request, hout, -, hrequest, hpacket, -⟩ := of_mem_sendings h hsending
    exact ⟨operation, request, hout, hrequest, hpacket⟩
  · intro x hx
    obtain ⟨frame, reply, hframe, hparse, hsingle, hown⟩ := haccepts.reading x hx
    exact ⟨frame, reply, hframe, hparse, hsingle, by rw [hown, eq_comm, hrepeat]⟩
  · intro got hgot
    rw [haccepts.refusal got hgot, eq_comm, hrepeat]

/-- Three packets, of which the second could not be flushed: the third carries its counter again. -/
theorem counters_repeat_after_failed_flush :
    let device : Device Line := (Device.new Line.idle).initialise.state
    let steps : List (Step Wiring) := [.operate (.led 1),
      .outside ⟨[], none, none, some .timedOut⟩, .operate (.led 2), .operate .stopAll]
    ∃ first second third : Entry Line, sendings device steps = [first, second, third] ∧
      packetCounter second.packet = packetCounter third.packet := by
  intro device steps
  have hlength : (sendings device steps).length = 3 := by decide +kernel
  obtain ⟨first, second, third, hsendings⟩ := List.length_eq_three.1 hlength
  have hflushes : (sendings device steps).map (fun sending => decide sending.FlushFails) =
      [false, true, false] := by decide +kernel
  have hsecond : second.FlushFails := by
    simp only [hsendings, List.map_cons, List.cons.injEq, decide_eq_true_eq] at hflushes
    exact hflushes.2.1
  obtain ⟨-, hrepeat, -⟩ := counters_repeat_iff (show .initialise ∉ steps by decide)
    (show sendings device steps = [first] ++ second :: ([] ++ third :: []) from hsendings)
    (by decide)
  exact ⟨first, second, third, hsendings, hrepeat.2 (by simpa using hsecond)⟩

/-- Two readings, of which the first could not be flushed: both packets carry the counter 0, and the reply to the
first one is taken for the value of another sensor. -/
theorem late_reply_taken_after_failed_flush :
    let device : Device Line := (Device.new Line.idle).initialise.state
    let steps : List (Step Wiring) := [.outside ⟨[], none, none, some .timedOut⟩,
      .operate (.sensor 1 .touch),
      .outside ⟨[.bytes [7, 0, 0, 0, 2, 0, 0, 128, 63]], none, none, none⟩,
      .operate (.sensor 2 .color)]
    (sendings device steps).map Entry.packet =
        [[13, 0, 0, 0, 0, 4, 0, 153, 29, 0, 0, 16, 0, 1, 96],
          [13, 0, 0, 0, 0, 4, 0, 153, 29, 0, 1, 29, 2, 1, 96]] ∧
      (sendings device steps).map (fun sending => packetCounter sending.packet) = [0, 0] ∧
      (sendings device steps).map (fun sending => sending.outcome.result.toOption) =
        [none, some (.reading (Single.ofBytes [0, 0, 128, 63]))] := by
  decide +kernel

end Session

end BrickControl
