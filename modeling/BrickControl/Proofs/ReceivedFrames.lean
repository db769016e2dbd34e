import BrickControl.Proofs.ReplyFormat
import BrickControl.Proofs.WiredSessions

/-!
# What a receive takes off a line

Whatever waits on a line, a receive can count on the bytes in front of the first arrival that fails a read: an empty
piece, or a failure other than an interruption. If a whole frame is there, the receive takes it and nothing else; it
reads no further than the last byte of the frame, and a frame of two bytes ends with its length field. Otherwise the
receive uses these bytes up together with the arrival that failed it, and reports that failure.

* `Arrival.ready` are the bytes in front of the first arrival that fails a read, `Arrival.halt` what waits from there
  on, with the failure `Arrival.haltFault`;
* `Arrival.Takes`: bytes are taken off the front of what waits, and what waits behind them stays as it is;
* `Line.readExact_takes` and `Line.receive_takes`: this is how bytes are read;
* `Line.TakesFrame` and `Line.receive_takesFrame`: what a receive does;
* `Device.canComeOverLine_of_fault`: over a line no operation misses a reply, or finds one of a wrong length;
* `receives_take_ready_frames`: both, for every line and every session over it.
-/

namespace BrickControl

namespace Arrival

/-! ### In front of the first failing read -/

instance : DecidablePred IsSmooth
  | .bytes piece => inferInstanceAs (Decidable (piece ≠ []))
  | .failure fault => inferInstanceAs (Decidable (fault = .interrupted))

/-- The bytes in front of the first arrival that fails a read. -/
def ready (arrivals : List Arrival) : List UInt8 :=
  content (arrivals.takeWhile fun a => decide a.IsSmooth)

/-- What waits from the first arrival on that fails a read. -/
def halt (arrivals : List Arrival) : List Arrival := arrivals.dropWhile fun a => decide a.IsSmooth

/-- The failure of a read that meets the first arrival, which fails it. For whoever wants more bytes, an empty piece
ends the line too early, like the end of the line. -/
def haltFault : List Arrival → LineFault
  | .failure fault :: _ => fault
  | _ => .endedEarly

theorem ready_cons_of_smooth {a : Arrival} (h : a.IsSmooth) (later : List Arrival) :
    ready (a :: later) = content [a] ++ ready later ∧ halt (a :: later) = halt later := by
  simp only [ready, halt, List.takeWhile_cons, List.dropWhile_cons, decide_eq_true h, if_true]
  refine ⟨?_, trivial⟩
  cases a with
  | bytes piece => rw [content, content, content, List.append_nil]
  | failure fault => rw [content, content, content, List.nil_append]

theorem ready_cons_of_not_smooth {a : Arrival} (h : ¬ a.IsSmooth) (later : List Arrival) :
    ready (a :: later) = [] ∧ halt (a :: later) = a :: later := by
  simp only [ready, halt, List.takeWhile_cons, List.dropWhile_cons, decide_eq_false h]
  exact ⟨rfl, rfl⟩

/-- A stretch has the bytes that are ready, and ends with the arrival behind them. -/
theorem stretch_eq_ready (arrivals : List Arrival) :
    stretch arrivals = ⟨ready arrivals, haltFault (halt arrivals), (halt arrivals).tail⟩ := by
  induction arrivals with
  | nil => rfl
  | cons a later ih =>
    by_cases hsmooth : a.IsSmooth
    · obtain ⟨hready, hhalt⟩ := ready_cons_of_smooth hsmooth later
      rw [hready, hhalt]
      cases a with
      | bytes piece => rw [stretch_bytes_cons hsmooth, ih, content, content, List.append_nil]
      | failure fault =>
        rw [show fault = .interrupted from hsmooth, stretch_interrupted_cons, ih, content, content,
          List.nil_append]
    · obtain ⟨hready, hhalt⟩ := ready_cons_of_not_smooth hsmooth later
      rw [hready, hhalt]
      cases a with
      | bytes piece =>
        have hempty : piece = [] := Decidable.not_not.1 hsmooth
        rw [hempty]
        rfl
      | failure fault => exact stretch_failure_cons hsmooth later

/-! ### Taking bytes off the front -/

/-- Bytes are taken off the front of what waits: pieces as a whole, and of the last one as much as is wanted. The
interruptions before the last byte go with them, and what waits behind it stays as it is. -/
inductive Takes : List UInt8 → List Arrival → List Arrival → Prop where
  | nothing (arrivals : List Arrival) : Takes [] arrivals arrivals
  | piece {piece bytes : List UInt8} {before after : List Arrival} (hpiece : piece ≠ [])
      (h : Takes bytes before after) : Takes (piece ++ bytes) (.bytes piece :: before) after
  | part {bytes left : List UInt8} (hbytes : bytes ≠ []) (hleft : left ≠ [])
      (later : List Arrival) : Takes bytes (.bytes (bytes ++ left) :: later) (.bytes left :: later)
  | interruption {bytes : List UInt8} {before after : List Arrival} (hbytes : bytes ≠ [])
      (h : Takes bytes before after) : Takes bytes (.failure .interrupted :: before) after

namespace Takes

variable {bytes more : List UInt8} {before after last : List Arrival}

/-- Bytes taken one after the other are taken together. -/
theorem trans (h : Takes bytes before after) (hmore : Takes more after last) :
    Takes (bytes ++ more) before last := by
  induction h with
  | nothing arrivals => exact hmore
  | piece hpiece h ih =>
    rw [List.append_assoc]
    exact .piece hpiece (ih hmore)
  | @part bytes left hbytes hleft later =>
    -- what is left of the piece is taken next: not at all, as a whole, or in part
    cases hmore with
    | nothing =>
      rw [List.append_nil]
      exact .part hbytes hleft later
    | piece hpiece h =>
      rw [← List.append_assoc]
      exact .piece (List.append_ne_nil_of_left_ne_nil hbytes _) h
    | part hmore hlast =>
      rw [← List.append_assoc]
      exact .part (List.append_ne_nil_of_left_ne_nil hbytes _) hlast later
  | interruption hbytes h ih =>
    exact .interruption (List.append_ne_nil_of_left_ne_nil hbytes _) (ih hmore)

/-- What is taken was ready, and the first arrival that fails a read stays where it was. -/
theorem ready_halt (h : Takes bytes before after) :
    ready before = bytes ++ ready after ∧ halt before = halt after := by
  induction h with
  | nothing arrivals => exact ⟨rfl, rfl⟩
  | @piece piece bytes before after hpiece h ih =>
    obtain ⟨hready, hhalt⟩ :=
      ready_cons_of_smooth (show (Arrival.bytes piece).IsSmooth from hpiece) before
    refine ⟨?_, hhalt.trans ih.2⟩
    rw [hready, ih.1, content, content, List.append_nil, List.append_assoc]
  | @part bytes left hbytes hleft later =>
    obtain ⟨hready, hhalt⟩ := ready_cons_of_smooth
      (show (Arrival.bytes (bytes ++ left)).IsSmooth from
        List.append_ne_nil_of_left_ne_nil hbytes left) later
    obtain ⟨hready', hhalt'⟩ :=
      ready_cons_of_smooth (show (Arrival.bytes left).IsSmooth from hleft) later
    refine ⟨?_, hhalt.trans hhalt'.symm⟩
    rw [hready, hready', content, content, content, content, List.append_nil, List.append_nil,
      List.append_assoc]
  | @interruption bytes before after hbytes h ih =>
    obtain ⟨hready, hhalt⟩ :=
      ready_cons_of_smooth (show (Arrival.failure .interrupted).IsSmooth from rfl) before
    refine ⟨?_, hhalt.trans ih.2⟩
    rw [hready, ih.1, content, content, List.nil_append]

end Takes

end Arrival

namespace Line

open Arrival

/-! ### One receive -/

/-- **A read takes its bytes off the front**, and nothing else. -/
theorem readExact_takes {count : Nat} {arrivals rest : List Arrival} {bytes : List UInt8}
    (h : readExact count arrivals = (.ok bytes, rest)) : Takes bytes arrivals rest := by
  fun_induction readExact count arrivals generalizing bytes rest with
  | case1 arrivals =>
    simp only [Prod.mk.injEq, Except.ok.injEq] at h
    obtain ⟨rfl, rfl⟩ := h
    exact .nothing arrivals
  | case2 => simp at h
  | case3 count later ih =>
    have hlength := (readExact_size h).1
    have hbytes : bytes ≠ [] := List.ne_nil_of_length_eq_add_one hlength
    exact .interruption hbytes (ih h)
  | case4 => simp at h
  | case5 => simp at h
  | case6 count piece later hpiece hle =>
    simp only [Prod.mk.injEq, Except.ok.injEq] at h
    obtain ⟨rfl, rfl⟩ := h
    have hne : piece ≠ [] := by simpa using hpiece
    have htake : piece.take (count + 1) ≠ [] := by simpa using hne
    -- the piece is used up, or something is put back
    cases hdrop : piece.drop (count + 1) with
    | nil =>
      have hwhole := List.take_append_drop (count + 1) piece
      have hpieces := Takes.piece hne (.nothing later)
      rw [hdrop, List.append_nil] at hwhole
      rw [List.append_nil] at hpieces
      rw [hwhole]
      exact hpieces
    | cons b left =>
      have hcut := Takes.part htake (List.cons_ne_nil b left) later
      rw [← hdrop, List.take_append_drop, hdrop] at hcut
      exact hcut
  | case7 count piece later hpiece hlong got after hread ih =>
    simp only [Prod.mk.injEq, Except.ok.injEq] at h
    obtain ⟨rfl, rfl⟩ := h
    exact .piece (by simpa using hpiece) (ih hread)
  | case8 => simp at h

theorem receive_takes {line : Line} {frame : List UInt8} (h : line.receive.result = .ok frame) :
    Takes frame line.arrivals line.receive.state.arrivals := by
  unfold receive at h ⊢
  split at h
  · exact absurd h (by simp)
  · rename_i field rest hfield
    split at h
    · exact absurd h (by simp)
    · rename_i body after hbody
      obtain rfl := Except.ok.inj h
      exact (readExact_takes hfield).trans (readExact_takes hbody)

/-- What a receive does, by the bytes in front of the first arrival that fails a read: `size` is the length of the
frame that their first two bytes announce. -/
structure TakesFrame (line : Line) (size : Nat) (outcome : Outcome Line (List UInt8)) : Prop where
  succeeds : (∃ frame, outcome.result = .ok frame) ↔
    2 ≤ (ready line.arrivals).length ∧ size ≤ (ready line.arrivals).length
  /-- The frame is taken, and the rest of what waits stays to be read. -/
  frame : ∀ frame, outcome.result = .ok frame → frame = (ready line.arrivals).take size ∧
    Takes frame line.arrivals outcome.state.arrivals ∧
    ready outcome.state.arrivals = (ready line.arrivals).drop size ∧
    halt outcome.state.arrivals = halt line.arrivals
  /-- Without a frame, what was ready is gone, and so is the arrival that failed the receive. -/
  fault : ∀ fault, outcome.result = .error fault →
    fault = .line (haltFault (halt line.arrivals)) ∧
    outcome.state.arrivals = (halt line.arrivals).tail
  /-- Nothing but what waits is changed. -/
  rest : outcome.state = { line with arrivals := outcome.state.arrivals }

/-- **A receive takes the first frame that is ready**, or uses up what is ready and fails. -/
theorem receive_takesFrame (line : Line) :
    line.TakesFrame (2 + LittleEndian.decode ((ready line.arrivals).take 2)) line.receive := by
  have hstretch := stretch_eq_ready line.arrivals
  generalize hsize : 2 + LittleEndian.decode ((ready line.arrivals).take 2) = size
  by_cases hfits : 2 ≤ (ready line.arrivals).length ∧ size ≤ (ready line.arrivals).length
  · have hcut : cutFrame? (stretch line.arrivals).bytes =
        some ((ready line.arrivals).take size, (ready line.arrivals).drop size) := by
      rw [hstretch, ← hsize]
      exact if_pos (hsize ▸ hfits)
    obtain ⟨arrivals, hreceive, hbehind⟩ := receive_of_cut hcut
    have hresult : line.receive.result = .ok ((ready line.arrivals).take size) :=
      congrArg Outcome.result hreceive
    refine ⟨iff_of_true ⟨_, hresult⟩ hfits, ?_, ?_, line.state_receive⟩
    · intro frame hframe
      have htakes := receive_takes hframe
      obtain ⟨hready, hhalt⟩ := htakes.ready_halt
      obtain rfl : (ready line.arrivals).take size = frame :=
        Except.ok.inj (hresult.symm.trans hframe)
      refine ⟨rfl, htakes, ?_, hhalt.symm⟩
      exact List.append_cancel_left (hready.symm.trans (List.take_append_drop size _).symm)
    · intro fault hfault
      exact absurd (hresult.symm.trans hfault) (by simp)
  · have hcut : cutFrame? (stretch line.arrivals).bytes = none := by
      rw [hstretch]
      exact if_neg (hsize ▸ hfits)
    have hreceive := receive_of_uncut hcut
    rw [hstretch] at hreceive
    have hresult : line.receive.result = .error (.line (haltFault (halt line.arrivals))) :=
      congrArg Outcome.result hreceive
    refine ⟨iff_of_false ?_ hfits, ?_, ?_, line.state_receive⟩
    · rintro ⟨frame, hframe⟩
      exact absurd (hresult.symm.trans hframe) (by simp)
    · intro frame hframe
      exact absurd (hresult.symm.trans hframe) (by simp)
    · intro fault hfault
      refine ⟨(Except.error.inj (hresult.symm.trans hfault)).symm, ?_⟩
      rw [hreceive]

end Line

/-! ### What comes over a line -/

/-- A line fails by itself where a recorder has no reply, and the frames that it brings are as long as they say. -/
def Fault.CanComeOverLine : Fault → Prop
  | .noReply => False
  | .lengthMismatch _ _ => False
  | _ => True

theorem Reply.canComeOverLine_of_parse {frame : List UInt8} {fault : Fault} (hframe : IsFrame frame)
    (h : parse frame = .error fault) : fault.CanComeOverLine := by
  cases parse_eq_error_iff.1 h with
  | short hshort => exact trivial
  | miscounted hroom hlength =>
    have hcounted : frame.length = 2 + LittleEndian.decode (frame.take 2) := hframe.counted
    exact hlength (by omega)
  | unknown hroom hlength hkind hok herror => exact trivial

/-- **Over a line no operation misses a reply or finds one of a wrong length.** -/
theorem Device.canComeOverLine_of_fault {device : Device Line} {operation : Operation} {fault : Fault}
    (h : (device.perform operation).result = .error fault) : fault.CanComeOverLine := by
  cases origin_of_fault h with
  | idle hidle hfault =>
    rw [hfault]
    exact trivial
  | refused hplan =>
    obtain ⟨port, rfl⟩ := Operation.fault_of_plan hplan
    exact trivial
  | unsent packet hsend =>
    obtain ⟨cause, rfl⟩ := Line.fault_of_send hsend
    exact trivial
  | unreceived line hreceive =>
    obtain ⟨cause, rfl⟩ := Line.fault_of_receive hreceive
    exact trivial
  | unparsed line frame hframe hparse =>
    exact Reply.canComeOverLine_of_parse (Line.of_receive_ok hframe).2.1 hparse
  | unanswered reply hvalue =>
    rcases fault_of_value hvalue with rfl | rfl | rfl
    · exact trivial
    · exact trivial
    · exact trivial

theorem Step.canComeOverLine_of_fault {device : Device Line} {step : Step Wiring} {fault : Fault}
    (h : (step.run Line.wire device).result = .error fault) : fault.CanComeOverLine := by
  cases step with
  | initialise => exact absurd h (by simp [Step.run])
  | operate operation => exact Device.canComeOverLine_of_fault h
  | outside wiring => exact absurd h (by simp [Step.run])

/-- **Receives take whole frames off any line.** Whatever waits on a line, in pieces of any size and with failures
anywhere, a receive takes the first frame if all its bytes come before the first arrival that fails a read, and leaves
the rest as it is; otherwise it takes these bytes and that arrival, and reports its failure. So in any session over a
line, whatever happens to the line between two steps, no step fails for a reply of a wrong length or for the lack of
one. -/
theorem receives_take_ready_frames :
    (∀ line : Line, line.TakesFrame
      (2 + LittleEndian.decode ((Arrival.ready line.arrivals).take 2)) line.receive) ∧
    (∀ (device : Device Line) (steps : List (Step Wiring)),
      ∀ entry ∈ Session.trace Line.wire device steps,
        (∀ declared actual, entry.outcome.result ≠ .error (.lengthMismatch declared actual)) ∧
        entry.outcome.result ≠ .error .noReply) := by
  refine ⟨Line.receive_takesFrame, ?_⟩
  intro device steps entry hentry
  obtain ⟨earlier, step, later, -, rfl⟩ := Session.mem_trace Line.wire device hentry
  refine ⟨?_, ?_⟩
  · intro declared actual h
    exact Step.canComeOverLine_of_fault h
  · intro h
    exact Step.canComeOverLine_of_fault h

/-- An empty frame ends with its length field, so it leaves the rest of the piece that it ends in; the next frame
breaks off at an empty piece. A reading on that line finds a reply without a header. -/
theorem receives_take_empty_frame :
    let line : Line := { Line.idle with
      arrivals := [.bytes [0], .failure .interrupted, .bytes [0, 5], .bytes [0, 9], .bytes [],
        .bytes [7]] }
    let device : Device Line := ⟨line, 0, true⟩
    line.receive.result = .ok [0, 0] ∧
    Arrival.Takes [0, 0] line.arrivals [.bytes [5], .bytes [0, 9], .bytes [], .bytes [7]] ∧
    line.receive.state.receive.result = .error (.line .endedEarly) ∧
    line.receive.state.receive.state.arrivals = [.bytes [7]] ∧
    (device.perform (.sensor 1 .touch)).result ≠ .error .noReply := by
  intro line device
  obtain ⟨hreceive, hsession⟩ := receives_take_ready_frames
  have hfirst : line.receive.result = .ok [0, 0] := rfl
  have hsecond : line.receive.state.receive.result = .error (.line .endedEarly) := rfl
  obtain ⟨-, htakes, -⟩ := (hreceive line).frame [0, 0] hfirst
  obtain ⟨-, hleft⟩ := (hreceive line.receive.state).fault _ hsecond
  obtain ⟨-, hmissed⟩ := hsession device [.operate (.sensor 1 .touch)] _ List.mem_cons_self
  exact ⟨hfirst, htakes, hsecond, hleft, hmissed⟩

end BrickControl
