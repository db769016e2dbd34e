import Mathlib.Data.List.Forall2
import BrickControl.Proofs.LineReading
import BrickControl.Proofs.LineWriting
import BrickControl.Proofs.Recording
import BrickControl.Proofs.ReplyFormat
import BrickControl.Proofs.Sessions

/-!
# A line and a recorder in each other's place

A device cannot tell a serial line from a recorder that holds the frames the line brings, but for the fault with
which each of them runs dry. This file finds the simulation between the two, a queue of whole frames against bytes
in pieces of any size, and lifts it to whole sessions.

* `IsSimulation` says what a relation between two transports has to keep; `perform_matches` and `trace_matches`
  lift it to operations and to sessions, for any two transports;
* `Carries` is the relation between a line and a recorder, `carries_isSimulation` that it is a simulation;
* `line_trace_agrees_with_recorder` is the result: the same answers, the same counters and the same packets, step
  by step.
-/

namespace BrickControl

/-! ### Simulations between transports -/

/-- How a fault shows over a line: where a recorder has no reply, a line ends too early. -/
def Fault.overLine : Fault → Fault
  | .noReply => .line .endedEarly
  | fault => fault

/-- Two outcomes with the same result over a line, in related states. -/
structure Matches {σ τ α : Type} (rel : σ → τ → Prop) (o : Outcome σ α) (p : Outcome τ α) :
    Prop where
  result : o.result = p.result.mapError Fault.overLine
  state : rel o.state p.state

/-- A relation that sending and receiving keep, with matching results. -/
structure IsSimulation {σ τ : Type} [Transport σ] [Transport τ] (rel : σ → τ → Prop) : Prop where
  send : ∀ {s : σ} {t : τ}, rel s t → ∀ {packet : List UInt8}, packet ≠ [] →
    Matches rel (Transport.send s packet) (Transport.send t packet)
  receive : ∀ {s : σ} {t : τ}, rel s t → Matches rel (Transport.receive s) (Transport.receive t)

/-- Two devices that differ in their transports only, which are related. -/
structure Device.Related {σ τ : Type} (rel : σ → τ → Prop) (d : Device σ) (e : Device τ) :
    Prop where
  link : rel d.link e.link
  counter : d.counter = e.counter
  initialised : d.initialised = e.initialised

/-- The faults of a frame look the same over every transport. -/
theorem Reply.overLine_of_parse {frame : List UInt8} {fault : Fault}
    (h : parse frame = .error fault) : fault.overLine = fault := by
  rcases fault_of_parse h with rfl | ⟨declared, actual, rfl⟩ | ⟨kind, rfl⟩
  · rfl
  · rfl
  · rfl

theorem Device.overLine_of_value {counter : UInt16} {reply : Reply} {fault : Fault}
    (h : value counter reply = .error fault) : fault.overLine = fault := by
  rcases fault_of_value h with rfl | rfl | rfl
  · rfl
  · rfl
  · rfl

theorem Operation.overLine_of_plan {operation : Operation} {fault : Fault}
    (h : operation.plan = .refused fault) : fault.overLine = fault := by
  obtain ⟨port, rfl⟩ := fault_of_plan h
  rfl

namespace IsSimulation

variable {σ τ : Type} [Transport σ] [Transport τ] {rel : σ → τ → Prop} (h : IsSimulation rel)
include h

theorem submit_matches {d : Device σ} {e : Device τ} (hd : d.Related rel e) (request : Request) :
    Matches (Device.Related rel) (d.submit request) (e.submit request) := by
  obtain ⟨s, counter, ready⟩ := d
  obtain ⟨t, counter', ready'⟩ := e
  obtain ⟨hlink, rfl, rfl⟩ := hd
  have hsend := h.send hlink (request.packet_ne_nil counter)
  have hresult := hsend.result
  cases he : (Transport.send t (request.packet counter)).result with
  | ok u =>
    rw [he] at hresult
    rw [Device.submit_of_sent _ hresult, Device.submit_of_sent _ he]
    exact ⟨rfl, hsend.state, rfl, rfl⟩
  | error fault =>
    rw [he] at hresult
    rw [Device.submit_of_unsent _ hresult, Device.submit_of_unsent _ he]
    exact ⟨rfl, hsend.state, rfl, rfl⟩

/-- The wait goes through the same frames on both sides. -/
theorem awaitReply_matches (counter : UInt16) (t : τ) :
    ∀ {s : σ}, rel s t →
      Matches rel (Device.awaitReply counter s) (Device.awaitReply counter t) := by
  fun_induction Device.awaitReply counter t with
  | case1 t next fault =>
    rename_i hresult
    intro s hlink
    have hreceive := h.receive hlink
    have hs := hreceive.result
    rw [show (Transport.receive t).result = .error fault from hresult] at hs
    rw [Device.awaitReply_of_error hs]
    exact ⟨rfl, hreceive.state⟩
  | case2 t next frame hresult fault =>
    rename_i hparse
    intro s hlink
    have hreceive := h.receive hlink
    have hs := hreceive.result
    rw [show (Transport.receive t).result = .ok frame from hresult] at hs
    rw [Device.awaitReply_of_unparsed hs hparse]
    refine ⟨?_, hreceive.state⟩
    show Except.error fault = Except.error fault.overLine
    rw [Reply.overLine_of_parse hparse]
  | case3 t next frame hresult reply hparse hlate rest =>
    rename_i ih
    intro s hlink
    have hreceive := h.receive hlink
    have hs := hreceive.result
    rw [show (Transport.receive t).result = .ok frame from hresult] at hs
    rw [Device.awaitReply_of_late hs hparse hlate]
    have hrest := ih hreceive.state
    exact ⟨hrest.result, hrest.state⟩
  | case4 t next frame hresult reply hparse =>
    rename_i htimely
    intro s hlink
    have hreceive := h.receive hlink
    have hs := hreceive.result
    rw [show (Transport.receive t).result = .ok frame from hresult] at hs
    rw [Device.awaitReply_of_timely hs hparse (by simpa using htimely)]
    exact ⟨rfl, hreceive.state⟩

theorem order_matches {d : Device σ} {e : Device τ} (hd : d.Related rel e) (request : Request)
    (answer : Answer) :
    Matches (Device.Related rel) (d.order request answer) (e.order request answer) := by
  have hsubmit := h.submit_matches hd request
  have hresult := hsubmit.result
  cases he : (e.submit request).result with
  | error fault =>
    rw [he] at hresult
    rw [Device.order_of_unsent hresult, Device.order_of_unsent he]
    exact ⟨rfl, hsubmit.state⟩
  | ok sent =>
    rw [he] at hresult
    rw [Device.order_of_sent hresult, Device.order_of_sent he]
    exact ⟨rfl, hsubmit.state⟩

theorem readSensor_matches {d : Device σ} {e : Device τ} (hd : d.Related rel e) (port : UInt8)
    (kind : SensorKind) :
    Matches (Device.Related rel) (d.readSensor port kind) (e.readSensor port kind) := by
  have hsubmit := h.submit_matches hd (.sensor port kind)
  have hresult := hsubmit.result
  cases he : (e.submit (.sensor port kind)).result with
  | error fault =>
    rw [he] at hresult
    rw [Device.readSensor_of_unsent hresult, Device.readSensor_of_unsent he]
    exact ⟨rfl, hsubmit.state⟩
  | ok sent =>
    rw [he] at hresult
    have hawait := h.awaitReply_matches e.counter _ hsubmit.state.link
    rw [Device.readSensor_of_sent hresult, Device.readSensor_of_sent he, hd.counter]
    refine ⟨?_, hawait.state, hsubmit.state.counter, hsubmit.state.initialised⟩
    dsimp only
    rw [hawait.result]
    cases (Device.awaitReply e.counter (e.submit (.sensor port kind)).state.link).result with
    | error fault => rfl
    | ok reply =>
      show (Device.value e.counter reply).map Answer.reading =
        ((Device.value e.counter reply).map Answer.reading).mapError Fault.overLine
      cases hvalue : Device.value e.counter reply with
      | error fault =>
        show Except.error fault = Except.error fault.overLine
        rw [Device.overLine_of_value hvalue]
      | ok x => rfl

/-- **Operations over related transports match.** -/
theorem perform_matches {d : Device σ} {e : Device τ} (hd : d.Related rel e)
    (operation : Operation) :
    Matches (Device.Related rel) (d.perform operation) (e.perform operation) := by
  rw [Device.perform, Device.perform, hd.initialised]
  cases e.initialised with
  | false => exact ⟨rfl, hd⟩
  | true =>
    rw [if_pos rfl, if_pos rfl]
    cases hplan : operation.plan with
    | refused fault =>
      refine ⟨?_, hd⟩
      show Except.error fault = Except.error fault.overLine
      rw [Operation.overLine_of_plan hplan]
    | inaudible hz ms volume => exact ⟨rfl, hd⟩
    | requested request =>
      cases request with
      | sensor port kind => exact h.readSensor_matches hd port kind
      | _ => exact h.order_matches hd _ _

end IsSimulation

/-! ### Simulated sessions -/

/-- The same step on two devices that were related before it and are related after it. -/
structure SameStep {σ τ : Type} [Transport σ] [Transport τ] (rel : σ → τ → Prop) (x : Entry σ)
    (y : Entry τ) : Prop where
  before : x.before.Related rel y.before
  outcome : Matches (Device.Related rel) x.outcome y.outcome
  step : ∃ step : Step Empty,
    x.outcome = step.run undisturbed x.before ∧ y.outcome = step.run undisturbed y.before

namespace IsSimulation

variable {σ τ : Type} [Transport σ] [Transport τ] {rel : σ → τ → Prop} (h : IsSimulation rel)
include h

theorem step_matches {d : Device σ} {e : Device τ} (hd : d.Related rel e) (step : Step Empty) :
    Matches (Device.Related rel) (step.run undisturbed d) (step.run undisturbed e) := by
  cases step with
  | initialise => exact ⟨rfl, hd.link, rfl, rfl⟩
  | operate operation => exact h.perform_matches hd operation
  | outside event => exact event.elim

/-- **Sessions over related transports go step by step together.** -/
theorem trace_matches (steps : List (Step Empty)) :
    ∀ {d : Device σ} {e : Device τ}, d.Related rel e →
      List.Forall₂ (SameStep rel) (Session.trace undisturbed d steps)
        (Session.trace undisturbed e steps) := by
  induction steps with
  | nil =>
    intro d e _
    exact .nil
  | cons step steps ih =>
    intro d e hd
    have hstep := h.step_matches hd step
    exact .cons ⟨hd, hstep, step, rfl, rfl⟩ (ih hstep.state)

end IsSimulation

/-! ### A line that carries what a recorder holds -/

/-- A line on which nothing fails carries what a recorder holds: the bytes of the same frames wait on it, however
they are cut, and since it had taken `lead`, when the recorder kept `kept`, it took the packets that the recorder
kept. -/
structure Carries (lead : List UInt8) (kept : List (List UInt8)) (line : Line) (r : Recorder) :
    Prop where
  healthy : line.IsHealthy
  frames : ∀ frame ∈ r.replies.toList, IsFrame frame
  waiting : Arrival.stretch line.arrivals = ⟨r.replies.toList.flatten, .endedEarly, []⟩
  taken : ∃ packets, line.written = lead ++ packets.flatten ∧ r.sent.toList = kept ++ packets

variable {lead : List UInt8} {kept : List (List UInt8)} {line : Line} {r : Recorder}

theorem Carries.send (h : Carries lead kept line r) {packet : List UInt8} (hne : packet ≠ []) :
    Matches (Carries lead kept) (line.send packet) (r.send packet) := by
  rw [Line.send_of_healthy h.healthy hne]
  obtain ⟨packets, hwritten, hsent⟩ := h.taken
  refine ⟨rfl, h.healthy.afterSending packet, h.frames, h.waiting, packets ++ [packet], ?_, ?_⟩
  · rw [Line.written_afterSending, hwritten, List.flatten_append, List.flatten_singleton,
      List.append_assoc]
  · rw [Recorder.toList_send, hsent, List.append_assoc]

theorem Carries.receive (h : Carries lead kept line r) :
    Matches (Carries lead kept) line.receive r.receive := by
  have hwaiting := h.waiting
  cases hreplies : r.replies.toList with
  | nil =>
    rw [hreplies, List.flatten_nil] at hwaiting
    have hdry : line.receive =
        ⟨.error (.line .endedEarly), { line with arrivals := [] }, []⟩ := by
      rw [Line.receive_of_uncut (by rw [hwaiting]; exact cutFrame?_nil), hwaiting]
    rw [hdry, Recorder.receive_of_nil hreplies]
    refine ⟨rfl, ⟨h.healthy.writes, h.healthy.takes, h.healthy.flushes⟩, h.frames, ?_, h.taken⟩
    rw [hreplies, List.flatten_nil]
    rfl
  | cons frame later =>
    rw [hreplies, List.flatten_cons] at hwaiting
    have hframe : IsFrame frame := h.frames frame (by rw [hreplies]; exact List.mem_cons_self)
    obtain ⟨arrivals, hline, hbehind⟩ := Line.receive_of_cut
      (show cutFrame? (Arrival.stretch line.arrivals).bytes = some (frame, later.flatten) by
        rw [hwaiting]; exact cutFrame?_append hframe later.flatten)
    obtain ⟨rest, hrecorder, hrest⟩ := Recorder.receive_of_cons hreplies
    rw [hline, hrecorder]
    refine ⟨rfl, ⟨h.healthy.writes, h.healthy.takes, h.healthy.flushes⟩, ?_, ?_, h.taken⟩
    · intro other hother
      rw [hrest] at hother
      exact h.frames other (by rw [hreplies]; exact List.mem_cons_of_mem frame hother)
    · rw [hbehind, hwaiting, hrest]

theorem carries_isSimulation (lead : List UInt8) (kept : List (List UInt8)) :
    IsSimulation (Carries lead kept) where
  send h _ hne := h.send hne
  receive h := h.receive

theorem Recorder.sent_step (device : Device Recorder) (step : Step Empty) :
    ∃ packets, (step.run undisturbed device).state.link.sent.toList =
      device.link.sent.toList ++ packets := by
  cases step with
  | initialise => exact ⟨[], (List.append_nil _).symm⟩
  | operate operation =>
    rcases device.perform_recorder operation with ⟨hsame, -⟩ | ⟨request, -, -, hrecords⟩
    · refine ⟨[], ?_⟩
      rw [List.append_nil]
      exact congrArg (fun device : Device Recorder => device.link.sent.toList) hsame
    · exact ⟨[request.packet device.counter], hrecords.packets⟩
  | outside event => exact event.elim

/-- What an owner cannot tell apart: a step over a line, and the same step over a recorder. -/
structure StepAgrees (x : Entry Line) (y : Entry Recorder) : Prop where
  /-- The same result, but for the fault with which the transport runs dry. -/
  result : x.outcome.result = y.outcome.result.mapError Fault.overLine
  counter : x.after.counter = y.after.counter
  initialised : x.after.initialised = y.after.initialised
  /-- The line took the packets that the recorder recorded. -/
  packets : ∃ packets, y.after.link.sent.toList = y.before.link.sent.toList ++ packets ∧
    x.after.link.written = x.before.link.written ++ packets.flatten
  /-- The bytes of the frames that still wait for the recorder wait on the line. -/
  waiting : Arrival.content x.after.link.arrivals = y.after.link.replies.toList.flatten

theorem SameStep.agrees {x : Entry Line} {y : Entry Recorder}
    (h : SameStep (Carries lead kept) x y) : StepAgrees x y := by
  obtain ⟨before, ⟨hresult, hafter⟩, step, hx, hy⟩ := h
  refine ⟨hresult, hafter.counter, hafter.initialised, ?_, ?_⟩
  · obtain ⟨packets, hgrown⟩ := Recorder.sent_step y.before step
    obtain ⟨earlier, hearlier, hkept⟩ := before.link.taken
    obtain ⟨all, hall, hkeptAll⟩ := hafter.link.taken
    have hkeptSplit : kept ++ all = kept ++ (earlier ++ packets) := by
      rw [← hkeptAll, hy, hgrown, hkept, List.append_assoc]
    have hsplit : all = earlier ++ packets := List.append_cancel_left hkeptSplit
    refine ⟨packets, ?_, ?_⟩
    · rw [Entry.after, hy, hgrown]
    · rw [Entry.after, hall, hsplit, List.flatten_append, hearlier, List.append_assoc]
  · rw [Entry.after, Arrival.content_eq_stretch, hafter.link.waiting]
    exact List.append_nil _

/-- **A line and a recorder are interchangeable.** Where the bytes of the recorder's frames come over the line in
pieces of any size, broken into by signals only, and the line takes at least one byte a write, every session gives
step by step the same results and the same counters, and puts the same packets out. -/
theorem line_trace_agrees_with_recorder {line : Line} {recorder : Recorder}
    (hframes : ∀ frame ∈ recorder.replies.toList, IsFrame frame)
    (hpieces : ∀ arrival ∈ line.arrivals, arrival.IsSmooth)
    (hcontent : Arrival.content line.arrivals = recorder.replies.toList.flatten)
    (hhealthy : line.IsHealthy) (counter : UInt16) (initialised : Bool)
    (steps : List (Step Empty)) :
    List.Forall₂ StepAgrees
      (Session.trace undisturbed ⟨line, counter, initialised⟩ steps)
      (Session.trace undisturbed ⟨recorder, counter, initialised⟩ steps) := by
  have hcarries : Carries line.written recorder.sent.toList line recorder := by
    refine ⟨hhealthy, hframes, ?_, [], (List.append_nil _).symm, (List.append_nil _).symm⟩
    rw [Arrival.stretch_of_smooth hpieces, hcontent]
  have htrace := (carries_isSimulation line.written recorder.sent.toList).trace_matches steps
    (show Device.Related _ ⟨line, counter, initialised⟩ ⟨recorder, counter, initialised⟩ from
      ⟨hcarries, rfl, rfl⟩)
  exact htrace.imp fun _ _ => SameStep.agrees

/-- Two replies cut inside the length field and inside the payload, with signals between the pieces, and three bytes
a write: the first reply is late for the second reading, and then both run dry. -/
theorem line_trace_agrees_on_cut_replies :
    List.Forall₂ StepAgrees
      (Session.trace undisturbed
        ⟨{ Line.idle with
            arrivals := [.bytes [7], .failure .interrupted, .bytes [0, 0, 0, 2, 0],
              .bytes [0, 128, 63, 7, 0, 1, 0, 2], .failure .interrupted,
              .failure .interrupted, .bytes [0, 0, 0, 64]]
            writeLimit := some 3 }, 0, false⟩
        [.operate .stopAll, .initialise, .operate (.led 1), .operate (.sensor 1 .touch),
          .operate (.sensor 1 .touch)])
      (Session.trace undisturbed
        ⟨{ Recorder.empty with
            replies := .ofList [[7, 0, 0, 0, 2, 0, 0, 128, 63], [7, 0, 1, 0, 2, 0, 0, 0, 64]] },
          0, false⟩
        [.operate .stopAll, .initialise, .operate (.led 1), .operate (.sensor 1 .touch),
          .operate (.sensor 1 .touch)]) :=
  line_trace_agrees_with_recorder (by decide) (by simp [Arrival.IsSmooth]) rfl
    ⟨rfl, by decide, rfl⟩ 0 false _

end BrickControl
