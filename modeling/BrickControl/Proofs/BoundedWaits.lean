import Mathlib.Data.List.Infix
import BrickControl.Proofs.Loopback
import BrickControl.Proofs.Metered
import BrickControl.Proofs.WiredSessions

/-!
# How long a reading waits

The wait for a reply goes on as long as late replies come in, and has no count of its own. Over a line it ends all the
same: a reply has five bytes before its payload, so every turn that goes round has taken five bytes off the line, and
the turn that finds too few is the last one.

* `Device.GoesRound` says that a turn of the wait brings a late reply, `Device.unread_of_goesRound` what that takes;
* `Device.watched` is a device on a line that breaks after a number of receives, whatever waits on it;
* `Device.awaitReply_watched`: a wait uses a fixed number of receives, and goes the same way with any more left;
* `Device.turn_of_awaitReply`: every other turn is the last one;
* `Device.content_awaitReply`: what a wait leaves is the end of what waited before;
* `operations_end`: all of this, for every operation over a line and so for every reading.
-/

namespace BrickControl

open Arrival

/-- The same outcome, with its state seen as another one. -/
def Outcome.mapState {σ τ α : Type} (outcome : Outcome σ α) (view : σ → τ) : Outcome τ α :=
  ⟨outcome.result, view outcome.state, outcome.events⟩

/-! ### What one turn takes -/

/-- What is read as a reply has room for a length field, a counter and a type. -/
theorem Reply.five_le_length {frame : List UInt8} {reply : Reply} (h : parse frame = .ok reply) :
    5 ≤ frame.length := by
  by_contra hshort
  rw [parse_of_short (Nat.lt_of_not_le hshort)] at h
  exact absurd h (by simp)

namespace Line

/-- Whether it succeeds or not, a receive leaves the end of what waited. -/
theorem content_receive (line : Line) :
    content line.receive.state.arrivals <:+ content line.arrivals := by
  rcases line.receive_cases with ⟨frame, -, -, -, hcontent⟩ | ⟨fault, -, -, -, harrivals⟩
  · rw [hcontent]
    exact List.suffix_append frame _
  · rw [harrivals, content_eq_stretch line.arrivals]
    exact List.suffix_append _ _

/-- What these receives do, without a word on how many frames can come in. -/
def connection : Connection Line := ⟨send, receive⟩

end Line

namespace Device

/-- A turn of the wait that is not the last one: it brings a late reply. -/
def GoesRound (counter : UInt16) (line : Line) : Prop :=
  ∃ frame reply, line.receive.result = .ok frame ∧ Reply.parse frame = .ok reply ∧
    reply.isLate counter = true

/-- **A turn that goes round takes at least five bytes.** -/
theorem unread_of_goesRound {counter : UInt16} {line : Line} (h : GoesRound counter line) :
    line.receive.state.unread + 5 ≤ line.unread := by
  obtain ⟨frame, reply, hframe, hparse, -⟩ := h
  have hfive := Reply.five_le_length hparse
  have hlength := congrArg List.length (Line.of_receive_ok hframe).2.2
  rw [List.length_append, ← Line.unread_eq_length, ← Line.unread_eq_length] at hlength
  omega

/-- **The two kinds of turn.** A turn goes round when it brings a late reply, and the wait goes on behind five bytes or
more; any other turn is the last one. -/
theorem turn_of_awaitReply (counter : UInt16) (line : Line) :
    (GoesRound counter line ∧ line.receive.state.unread + 5 ≤ line.unread ∧
      (awaitReply counter line).result = (awaitReply counter line.receive.state).result ∧
      (awaitReply counter line).state = (awaitReply counter line.receive.state).state) ∨
    (¬ GoesRound counter line ∧ (awaitReply counter line).state = line.receive.state) := by
  by_cases hround : GoesRound counter line
  · have hfive := unread_of_goesRound hround
    obtain ⟨frame, reply, hframe, hparse, hlate⟩ := hround
    have hawait : awaitReply counter line = _ := awaitReply_of_late hframe hparse hlate
    refine .inl ⟨⟨frame, reply, hframe, hparse, hlate⟩, hfive, ?_, ?_⟩
    · rw [hawait]
      rfl
    · rw [hawait]
      rfl
  · refine .inr ⟨hround, ?_⟩
    cases hresult : line.receive.result with
    | error fault =>
      have hawait : awaitReply counter line = _ := awaitReply_of_error hresult
      rw [hawait]
      rfl
    | ok frame =>
      cases hparse : Reply.parse frame with
      | error fault =>
        have hawait : awaitReply counter line = _ := awaitReply_of_unparsed hresult hparse
        rw [hawait]
        rfl
      | ok reply =>
        have htimely : reply.isLate counter = false :=
          Bool.eq_false_iff.2 fun hlate => hround ⟨frame, reply, hresult, hparse, hlate⟩
        have hawait : awaitReply counter line = _ := awaitReply_of_timely hresult hparse htimely
        rw [hawait]
        rfl

/-- A wait leaves the end of what waited. -/
theorem content_awaitReply (counter : UInt16) (line : Line) :
    content (awaitReply counter line).state.arrivals <:+ content line.arrivals := by
  fun_induction awaitReply counter line with
  | case1 line next fault hresult => exact line.content_receive
  | case2 line next frame hresult fault hparse => exact line.content_receive
  | case3 line next frame hresult reply hparse hlate rest ih => exact ih.trans line.content_receive
  | case4 line next frame hresult reply hparse htimely => exact line.content_receive

/-! ### A number of receives -/

/-- The device on a line that is watched for a number of receives, and then breaks. -/
def watched (device : Device Line) (receives : Nat) : Device (Metered Line.connection) :=
  ⟨⟨device.link, receives⟩, device.counter, device.initialised⟩

/-- Watched for one receive more, a line receives as it always does. -/
theorem receive_watched (line : Line) (left : Nat) :
    Transport.receive (⟨line, left + 1⟩ : Metered Line.connection) =
      line.receive.mapState (Metered.mk · left) := rfl

/-- **A wait uses a fixed number of receives**: one, and one more for every five bytes that wait at most. However many
more are left, it goes the same way. -/
theorem awaitReply_watched (counter : UInt16) (line : Line) :
    ∃ cost ≤ 1 + line.unread / 5, ∀ spare,
      awaitReply counter (⟨line, cost + spare⟩ : Metered Line.connection) =
        (awaitReply counter line).mapState (Metered.mk · spare) := by
  -- induction on the frames that are passed over, each of which pays for the receive behind it
  fun_induction awaitReply counter line with
  | case1 line next fault hresult =>
    refine ⟨1, Nat.le_add_right _ _, ?_⟩
    intro spare
    have hreceive : (Transport.receive (⟨line, spare + 1⟩ : Metered Line.connection)).result =
      .error fault := hresult
    rw [Nat.add_comm, awaitReply_of_error hreceive, receive_watched]
    rfl
  | case2 line next frame hresult fault hparse =>
    refine ⟨1, Nat.le_add_right _ _, ?_⟩
    intro spare
    have hreceive : (Transport.receive (⟨line, spare + 1⟩ : Metered Line.connection)).result =
      .ok frame := hresult
    rw [Nat.add_comm, awaitReply_of_unparsed hreceive hparse, receive_watched]
    rfl
  | case3 line next frame hresult reply hparse hlate rest ih =>
    obtain ⟨cost, hcost, hrest⟩ := ih
    have hfive : next.state.unread + 5 ≤ line.unread :=
      unread_of_goesRound ⟨frame, reply, hresult, hparse, hlate⟩
    refine ⟨cost + 1, by omega, ?_⟩
    intro spare
    have hreceive :
        (Transport.receive (⟨line, cost + spare + 1⟩ : Metered Line.connection)).result =
          .ok frame := hresult
    have hafter :
        (Transport.receive (⟨line, cost + spare + 1⟩ : Metered Line.connection)).state =
          ⟨next.state, cost + spare⟩ := rfl
    rw [Nat.add_right_comm, awaitReply_of_late hreceive hparse hlate, hafter, hrest]
    rfl
  | case4 line next frame hresult reply hparse htimely =>
    refine ⟨1, Nat.le_add_right _ _, ?_⟩
    intro spare
    have hreceive : (Transport.receive (⟨line, spare + 1⟩ : Metered Line.connection)).result =
      .ok frame := hresult
    rw [Nat.add_comm, awaitReply_of_timely hreceive hparse (Bool.eq_false_iff.2 htimely),
      receive_watched]
    rfl

/-! ### Whole operations -/

variable (device : Device Line)

/-- Sending uses no receive. -/
theorem submit_watched (request : Request) (left : Nat) :
    (device.watched left).submit request = (device.submit request).mapState (watched · left) := by
  cases hsend : (Transport.send device.link (request.packet device.counter)).result with
  | ok sent =>
    rw [device.submit_of_sent hsend, (device.watched left).submit_of_sent hsend]
    rfl
  | error fault =>
    rw [device.submit_of_unsent hsend, (device.watched left).submit_of_unsent hsend]
    rfl

/-- Sending leaves what waits on the line. -/
theorem arrivals_submit (request : Request) :
    (device.submit request).state.link.arrivals = device.link.arrivals := by
  rcases device.submit_line request with ⟨fault, -, hsubmit⟩ | ⟨fault, -, -, hsubmit⟩ |
    ⟨-, -, hsubmit⟩
  · rw [hsubmit]
  · rw [hsubmit]
    rfl
  · rw [hsubmit]
    rfl

theorem order_watched (request : Request) (answer : Answer) (left : Nat) :
    (device.watched left).order request answer =
      (device.order request answer).mapState (watched · left) := by
  have hsubmit := device.submit_watched request left
  cases hresult : (device.submit request).result with
  | ok sent =>
    have hresult' : ((device.watched left).submit request).result = .ok () := by
      rw [hsubmit]
      exact hresult
    rw [order_of_sent hresult, order_of_sent hresult', hsubmit]
    rfl
  | error fault =>
    have hresult' : ((device.watched left).submit request).result = .error fault := by
      rw [hsubmit]
      exact hresult
    rw [order_of_unsent hresult, order_of_unsent hresult', hsubmit]
    rfl

/-- A reading that could not send uses no receive, and any other one as many as its wait. -/
theorem readSensor_watched (port : UInt8) (kind : SensorKind) :
    ∃ cost ≤ 1 + device.link.unread / 5, ∀ spare,
      (device.watched (cost + spare)).readSensor port kind =
        (device.readSensor port kind).mapState (watched · spare) := by
  cases hresult : (device.submit (.sensor port kind)).result with
  | error fault =>
    refine ⟨0, Nat.zero_le _, ?_⟩
    intro spare
    have hsubmit := device.submit_watched (.sensor port kind) spare
    have hresult' : ((device.watched spare).submit (.sensor port kind)).result = .error fault := by
      rw [hsubmit]
      exact hresult
    rw [Nat.zero_add, readSensor_of_unsent hresult, readSensor_of_unsent hresult', hsubmit]
    rfl
  | ok sent =>
    have hunread : (device.submit (.sensor port kind)).state.link.unread = device.link.unread :=
      congrArg Arrival.total (device.arrivals_submit (.sensor port kind))
    obtain ⟨cost, hcost, hwait⟩ :=
      awaitReply_watched device.counter (device.submit (.sensor port kind)).state.link
    refine ⟨cost, hunread ▸ hcost, ?_⟩
    intro spare
    have hsubmit := device.submit_watched (.sensor port kind) (cost + spare)
    have hresult' :
        ((device.watched (cost + spare)).submit (.sensor port kind)).result = .ok () := by
      rw [hsubmit]
      exact hresult
    have hlink : ((device.watched (cost + spare)).submit (.sensor port kind)).state.link =
        ⟨(device.submit (.sensor port kind)).state.link, cost + spare⟩ := by
      rw [hsubmit]
      rfl
    have hcounter : (device.watched (cost + spare)).counter = device.counter := rfl
    rw [readSensor_of_sent hresult, readSensor_of_sent hresult']
    simp only [hlink, hcounter, hwait spare]
    rw [hsubmit]
    rfl

/-- An operation uses a fixed number of receives, and however many more are left, it goes the same way. -/
theorem perform_watched (operation : Operation) :
    ∃ cost ≤ 1 + device.link.unread / 5, ∀ spare,
      (device.watched (cost + spare)).perform operation =
        (device.perform operation).mapState (watched · spare) := by
  have hready : ∀ left, (device.watched left).initialised = device.initialised := fun _ => rfl
  cases hidle : device.initialised with
  | false =>
    refine ⟨0, Nat.zero_le _, ?_⟩
    intro spare
    rw [Nat.zero_add, perform, perform, hready, hidle, if_neg Bool.false_ne_true,
      if_neg Bool.false_ne_true]
    rfl
  | true =>
    simp only [perform, hready, hidle, if_true]
    cases operation.plan with
    | refused fault => exact ⟨0, Nat.zero_le _, fun spare => by rw [Nat.zero_add]; rfl⟩
    | inaudible hz ms volume => exact ⟨0, Nat.zero_le _, fun spare => by rw [Nat.zero_add]; rfl⟩
    | requested request =>
      cases request with
      | sensor port kind => exact device.readSensor_watched port kind
      | _ =>
        refine ⟨0, Nat.zero_le _, ?_⟩
        intro spare
        rw [Nat.zero_add]
        exact device.order_watched _ _ spare

theorem arrivals_order (request : Request) (answer : Answer) :
    (device.order request answer).state.link.arrivals = device.link.arrivals := by
  cases hresult : (device.submit request).result with
  | ok sent => rw [order_of_sent hresult, device.arrivals_submit]
  | error fault => rw [order_of_unsent hresult, device.arrivals_submit]

theorem content_readSensor (port : UInt8) (kind : SensorKind) :
    content (device.readSensor port kind).state.link.arrivals <:+ content device.link.arrivals := by
  rw [← device.arrivals_submit (.sensor port kind)]
  cases hresult : (device.submit (.sensor port kind)).result with
  | ok sent =>
    rw [readSensor_of_sent hresult]
    exact content_awaitReply _ _
  | error fault =>
    rw [readSensor_of_unsent hresult]

/-- An operation leaves the end of what waited. -/
theorem content_perform (operation : Operation) :
    content (device.perform operation).state.link.arrivals <:+ content device.link.arrivals := by
  have horder : ∀ request : Request,
      content (device.order request request.doneAnswer).state.link.arrivals <:+
        content device.link.arrivals := by
    intro request
    rw [arrivals_order]
  rcases perform_of_request (P := fun _ (outcome : Outcome (Device Line) Answer) =>
      content outcome.state.link.arrivals <:+ content device.link.arrivals)
    horder device.content_readSensor operation with ⟨hsame, -⟩ | ⟨-, -, -, hsuffix⟩
  · rw [hsame]
  · exact hsuffix

end Device

/-- **Every operation over a line ends.** Whatever waits on the line, in pieces of any size and with failures anywhere,
an operation uses a fixed number of receives, one more than a fifth of the bytes that wait at most: on a line that
breaks after as many receives it goes the same way, and leaves unused what there are more. For every turn of a wait
that goes round has taken at least five bytes, and every other turn is the last one. What waits afterwards is the end of
what waited before. -/
theorem operations_end (device : Device Line) (operation : Operation) :
    (∃ cost ≤ 1 + device.link.unread / 5, ∀ spare,
      (device.watched (cost + spare)).perform operation =
        (device.perform operation).mapState (Device.watched · spare)) ∧
    (∀ counter line,
      (Device.GoesRound counter line ∧ line.receive.state.unread + 5 ≤ line.unread ∧
        (Device.awaitReply counter line).result =
          (Device.awaitReply counter line.receive.state).result ∧
        (Device.awaitReply counter line).state =
          (Device.awaitReply counter line.receive.state).state) ∨
      (¬ Device.GoesRound counter line ∧
        (Device.awaitReply counter line).state = line.receive.state)) ∧
    content (device.perform operation).state.link.arrivals <:+ content device.link.arrivals := by
  refine ⟨device.perform_watched operation, ?_, device.content_perform operation⟩
  intro counter line
  exact Device.turn_of_awaitReply counter line

/-- Two late replies of five bytes in three pieces: the reading needs all three receives. -/
example :
    let line : Line := { Line.idle with
      arrivals := [.bytes [3, 0, 0], .failure .interrupted, .bytes [0, 2, 3], .bytes [0, 1, 0, 4]] }
    let device : Device Line := ⟨line, 2, true⟩
    ((device.watched 3).perform (.sensor 1 .touch)).result = .error (.line .endedEarly) ∧
    ((device.watched 2).perform (.sensor 1 .touch)).result = .error (.line .brokenPipe) := by
  decide +kernel

end BrickControl
