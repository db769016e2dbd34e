import BrickControl.Proofs.WiredSessions

/-!
# Reads that break off

A read that fails has used up the bytes before its failure. Between two frames there are none of those, so a line
that fails there loses nothing; in the middle of a frame there are some, and what is left of the frame is taken
for the beginning of the next one.

* `Arrival.breaks` is what waits behind each read that fails;
* `BreaksBetween` says that every read that fails does so between two frames;
* `Line.received` is what a number of receives bring, as far as they succeed;
* `Line.receive_of_aligned`: one receive takes the next frame, or fails and takes nothing;
* `received_all_iff_breaksBetween`: receives bring every frame exactly if no read fails inside a frame, and then
  the devices above them see these frames only.
-/

namespace BrickControl

namespace Arrival

/-! ### Where reads break off -/

/-- What waits behind each read that fails: behind a failure other than an interruption, and behind a piece without
bytes, which whoever wants bytes takes for the end of the line. -/
def breaks : List Arrival → List (List Arrival)
  | [] => []
  | .bytes piece :: later => if piece.isEmpty then later :: breaks later else breaks later
  | .failure fault :: later =>
    if fault = .interrupted then breaks later else later :: breaks later

theorem breaks_putBack (rest : List UInt8) (arrivals : List Arrival) :
    breaks (Line.putBack rest arrivals) = breaks arrivals := by
  cases rest with
  | nil => rfl
  | cons b rest => rfl

/-- The first read that fails is the one that ends the stretch. -/
theorem breaks_eq_stretch (arrivals : List Arrival) :
    (breaks arrivals = [] ∧ (stretch arrivals).later = []) ∨
      breaks arrivals = (stretch arrivals).later :: breaks (stretch arrivals).later := by
  induction arrivals with
  | nil => exact .inl ⟨rfl, rfl⟩
  | cons a later ih =>
    cases a with
    | bytes piece =>
      by_cases hpiece : piece.isEmpty
      · rw [breaks, stretch, if_pos hpiece, if_pos hpiece]
        exact .inr rfl
      · rw [breaks, stretch, if_neg hpiece, if_neg hpiece]
        exact ih
    | failure fault =>
      by_cases hfault : fault = .interrupted
      · rw [breaks, stretch, if_pos hfault, if_pos hfault]
        exact ih
      · rw [breaks, stretch, if_neg hfault, if_neg hfault]
        exact .inr rfl

/-- What waits behind a read that fails is the last part of what waits. -/
theorem content_of_mem_breaks {behind arrivals : List Arrival} (h : behind ∈ breaks arrivals) :
    content behind <:+ content arrivals := by
  induction arrivals with
  | nil => exact absurd h (by simp [breaks])
  | cons a later ih =>
    cases a with
    | bytes piece =>
      rw [content]
      rw [breaks] at h
      split at h
      · rcases List.mem_cons.1 h with rfl | h
        · exact List.suffix_append _ _
        · exact (ih h).trans (List.suffix_append _ _)
      · exact (ih h).trans (List.suffix_append _ _)
    | failure fault =>
      rw [content]
      rw [breaks] at h
      split at h
      · exact ih h
      · rcases List.mem_cons.1 h with rfl | h
        · exact List.suffix_refl _
        · exact ih h

end Arrival

/-- Every read that fails does so between two of the frames: what waits behind it is the last of them. -/
def BreaksBetween (frames : List (List UInt8)) (arrivals : List Arrival) : Prop :=
  ∀ behind ∈ Arrival.breaks arrivals, ∃ left, left <:+ frames ∧
    Arrival.content behind = left.flatten

/-- What waits on a line are whole frames, and no read fails inside one. -/
structure Aligned (frames : List (List UInt8)) (arrivals : List Arrival) : Prop where
  whole : ∀ frame ∈ frames, IsFrame frame
  content : Arrival.content arrivals = frames.flatten
  breaks : BreaksBetween frames arrivals

namespace Line

open Arrival

variable {line : Line} {frames : List (List UInt8)}

/-! ### One receive -/

/-- A read that succeeds meets no failure, so those ahead stay. -/
theorem breaks_of_readExact {count : Nat} {arrivals rest : List Arrival} {bytes : List UInt8}
    (h : readExact count arrivals = (.ok bytes, rest)) : breaks rest = breaks arrivals := by
  fun_induction readExact count arrivals generalizing bytes rest with
  | case1 arrivals =>
    simp only [Prod.mk.injEq] at h
    rw [h.2]
  | case2 => simp at h
  | case3 count later ih =>
    rw [breaks, if_pos rfl]
    exact ih h
  | case4 => simp at h
  | case5 => simp at h
  | case6 count piece later hpiece hle =>
    simp only [Prod.mk.injEq] at h
    rw [← h.2, breaks_putBack, breaks, if_neg hpiece]
  | case7 count piece later hpiece hlong got after hread ih =>
    simp only [Prod.mk.injEq] at h
    rw [← h.2, breaks, if_neg hpiece]
    exact ih hread
  | case8 => simp at h

theorem breaks_receive {frame : List UInt8} (h : line.receive.result = .ok frame) :
    breaks line.receive.state.arrivals = breaks line.arrivals := by
  unfold receive at h ⊢
  split at h
  · exact absurd h (by simp)
  · rename_i field rest hfield
    split at h
    · exact absurd h (by simp)
    · rename_i body after hbody
      exact (breaks_of_readExact hbody).trans (breaks_of_readExact hfield)

/-- The bytes of the stretch are a number of frames only if there are none. -/
theorem eq_of_uncut {left : List (List UInt8)} (hwhole : ∀ frame ∈ frames, IsFrame frame)
    (hcontent : content line.arrivals = frames.flatten)
    (huncut : cutFrame? (stretch line.arrivals).bytes = none) (hleft : left <:+ frames)
    (hlater : content (stretch line.arrivals).later = left.flatten) : left = frames := by
  obtain ⟨gone, rfl⟩ := hleft
  rw [content_eq_stretch, hlater, List.flatten_append] at hcontent
  have hgone : (stretch line.arrivals).bytes = gone.flatten := List.append_cancel_right hcontent
  rw [hgone] at huncut
  have hnone : gone = [] :=
    eq_nil_of_uncut (fun frame hmem => hwhole frame (List.mem_append_left _ hmem)) huncut
  rw [hnone, List.nil_append]

/-- **One receive on an aligned line** takes the next frame, or fails and takes nothing. Either way the line stays
aligned, and a receive that fails leaves one failure less, unless nothing is left. -/
theorem receive_of_aligned (h : Aligned frames line.arrivals) :
    (∃ frame left, frames = frame :: left ∧ line.receive.result = .ok frame ∧
      line.receive.events = [.received frame] ∧ Aligned left line.receive.state.arrivals ∧
      breaks line.receive.state.arrivals = breaks line.arrivals) ∨
    (∃ fault, line.receive.result = .error (.line fault) ∧ line.receive.events = [] ∧
      Aligned frames line.receive.state.arrivals ∧
      ((frames = [] ∧ breaks line.receive.state.arrivals = []) ∨
        (breaks line.arrivals).length =
          (breaks line.receive.state.arrivals).length + 1)) := by
  have hwhole := h.whole
  have hcontent := h.content
  rcases line.receive_cases with ⟨frame, hresult, hevents, hframe, htaken⟩ |
    ⟨fault, hresult, hevents, huncut, hlater⟩
  · refine .inl ⟨frame, ?_⟩
    cases frames with
    | nil =>
      rw [htaken, List.flatten_nil, List.append_eq_nil_iff] at hcontent
      exact absurd hframe.length_pos (by rw [hcontent.1]; simp)
    | cons next left =>
      rw [htaken, List.flatten_cons] at hcontent
      obtain ⟨rfl, hleft⟩ := hframe.append_inj (hwhole next List.mem_cons_self) hcontent
      have hbreaks := breaks_receive hresult
      refine ⟨left, rfl, hresult, hevents, ?_, hbreaks⟩
      refine ⟨fun other hmem => hwhole other (List.mem_cons_of_mem _ hmem), hleft, ?_⟩
      intro behind hbehind
      have hsuffix := content_of_mem_breaks hbehind
      rw [hbreaks] at hbehind
      obtain ⟨waiting, hwaiting, hwaits⟩ := h.breaks behind hbehind
      rcases List.suffix_cons_iff.1 hwaiting with rfl | hwaiting
      · -- the frame just taken cannot wait behind a failure ahead
        have hlength := hsuffix.length_le
        have hpos := hframe.length_pos
        rw [hwaits, hleft, List.flatten_cons, List.length_append] at hlength
        omega
      · exact ⟨waiting, hwaiting, hwaits⟩
  · refine .inr ⟨fault, hresult, hevents, ?_⟩
    rw [hlater]
    rcases breaks_eq_stretch line.arrivals with ⟨hnone, hend⟩ | hfirst
    · have hempty : frames = [] := by
        refine (eq_of_uncut hwhole hcontent huncut List.nil_suffix ?_).symm
        rw [hend]
        rfl
      subst hempty
      rw [hend]
      exact ⟨⟨hwhole, rfl, fun behind hbehind => absurd hbehind (by simp [breaks])⟩,
        .inl ⟨rfl, rfl⟩⟩
    · obtain ⟨left, hleft, hwaits⟩ := h.breaks _ (hfirst ▸ List.mem_cons_self)
      obtain rfl := eq_of_uncut hwhole hcontent huncut hleft hwaits
      refine ⟨⟨hwhole, hwaits, ?_⟩, .inr (by rw [hfirst, List.length_cons])⟩
      intro behind hbehind
      exact h.breaks behind (hfirst ▸ List.mem_cons_of_mem _ hbehind)

/-! ### Receives in a row -/

/-- The frames that the next `count` receives bring; those that fail bring none. -/
def received (line : Line) : Nat → List (List UInt8)
  | 0 => []
  | count + 1 =>
    match line.receive.result with
    | .ok frame => frame :: line.receive.state.received count
    | .error _ => line.receive.state.received count

theorem received_of_ok {frame : List UInt8} (h : line.receive.result = .ok frame)
    (count : Nat) : line.received (count + 1) = frame :: line.receive.state.received count := by
  rw [received, h]

theorem received_of_error {fault : Fault} (h : line.receive.result = .error fault)
    (count : Nat) : line.received (count + 1) = line.receive.state.received count := by
  rw [received, h]

theorem received_prefix_add (line : Line) (count more : Nat) :
    line.received count <+: line.received (count + more) := by
  induction count generalizing line with
  | zero => exact List.nil_prefix
  | succ count ih =>
    rw [show count + 1 + more = count + more + 1 from by omega]
    cases hresult : line.receive.result with
    | ok frame =>
      rw [received_of_ok hresult, received_of_ok hresult]
      exact (List.prefix_cons_inj frame).2 (ih _)
    | error fault =>
      rw [received_of_error hresult, received_of_error hresult]
      exact ih _

/-- An aligned line brings all its frames, with one receive for each frame and for each failure. -/
theorem received_of_aligned {count : Nat} (h : Aligned frames line.arrivals)
    (hcount : frames.length + (breaks line.arrivals).length ≤ count) :
    line.received count = frames := by
  induction count generalizing line frames with
  | zero =>
    have hnone : frames.length = 0 := by omega
    exact (List.length_eq_zero_iff.1 hnone).symm
  | succ count ih =>
    rcases receive_of_aligned h with ⟨frame, left, rfl, hresult, -, hleft, hbreaks⟩ |
      ⟨fault, hresult, -, hsame, hfewer⟩
    · have hfewer : left.length + (breaks line.receive.state.arrivals).length ≤ count := by
        rw [List.length_cons] at hcount
        rw [hbreaks]
        omega
      rw [received_of_ok hresult, ih hleft hfewer]
    · rw [received_of_error hresult]
      refine ih hsame ?_
      rcases hfewer with ⟨rfl, hnone⟩ | hfewer
      · rw [hnone]
        exact Nat.zero_le count
      · omega

theorem length_received_le (line : Line) (count : Nat) :
    (line.received count).flatten.length ≤ (content line.arrivals).length := by
  induction count generalizing line with
  | zero => exact Nat.zero_le _
  | succ count ih =>
    have hlater := ih line.receive.state
    rcases line.receive_cases with ⟨frame, hresult, -, -, htaken⟩ |
      ⟨fault, hresult, -, -, hused⟩
    · rw [received_of_ok hresult, htaken, List.flatten_cons, List.length_append,
        List.length_append]
      omega
    · rw [received_of_error hresult, content_eq_stretch, List.length_append, ← hused]
      omega

/-- If receives bring all that waits, no read fails inside a frame. -/
theorem breaksBetween_of_received {count : Nat}
    (h : content line.arrivals = (line.received count).flatten) :
    BreaksBetween (line.received count) line.arrivals := by
  induction count generalizing line with
  | zero =>
    intro behind hbehind
    have hsuffix := content_of_mem_breaks hbehind
    rw [h] at hsuffix
    exact ⟨[], List.suffix_refl [], List.suffix_nil.1 hsuffix⟩
  | succ count ih =>
    rcases line.receive_cases with ⟨frame, hresult, -, -, htaken⟩ |
      ⟨fault, hresult, -, -, hused⟩
    · rw [received_of_ok hresult, htaken, List.flatten_cons] at h
      rw [received_of_ok hresult]
      intro behind hbehind
      rw [← breaks_receive hresult] at hbehind
      obtain ⟨left, hleft, hwaits⟩ := ih (List.append_cancel_left h) behind hbehind
      exact ⟨left, hleft.trans (List.suffix_cons frame _), hwaits⟩
    · rw [received_of_error hresult] at h ⊢
      -- a receive that fails would lose what it has read, and it cannot come back
      have hlength := length_received_le line.receive.state count
      rw [← h, hused, content_eq_stretch line.arrivals, List.length_append] at hlength
      have hlost : (stretch line.arrivals).bytes = [] := List.length_eq_zero_iff.1 (by omega)
      have hlater : content line.receive.state.arrivals =
          (line.receive.state.received count).flatten := by
        rw [← h, hused, content_eq_stretch line.arrivals, hlost, List.nil_append]
      rcases breaks_eq_stretch line.arrivals with ⟨hnone, -⟩ | hfirst
      · intro behind hbehind
        exact absurd hbehind (by simp [hnone])
      · intro behind hbehind
        rw [hfirst, ← hused] at hbehind
        rcases List.mem_cons.1 hbehind with rfl | hbehind
        · exact ⟨_, List.suffix_refl _, hlater⟩
        · exact ih hlater behind hbehind

end Line

/-! ### Sessions over a line -/

namespace Device

open Line

/-- The effect of anything on a device over an aligned line: the frames seen were the next ones, and the line is
aligned with the others. -/
def SeesNext (frames : List (List UInt8)) (events : List Event) (arrivals : List Arrival) : Prop :=
  ∃ left, frames = framesSeen events ++ left ∧ Aligned left arrivals

variable {device : Device Line} {line : Line} {frames : List (List UInt8)}
  {arrivals : List Arrival}

theorem SeesNext.refl (h : Aligned frames arrivals) : SeesNext frames [] arrivals :=
  ⟨frames, rfl, h⟩

/-- What sees the next frames and then those behind them sees the next frames. -/
theorem SeesNext.append {events later : List Event}
    (h : ∃ left, frames = framesSeen events ++ left ∧ SeesNext left later arrivals) :
    SeesNext frames (events ++ later) arrivals := by
  obtain ⟨left, rfl, last, rfl, hlast⟩ := h
  exact ⟨last, by rw [framesSeen_append, List.append_assoc], hlast⟩

theorem receive_seesNext (h : Aligned frames line.arrivals) :
    SeesNext frames line.receive.events line.receive.state.arrivals := by
  rcases receive_of_aligned h with ⟨frame, left, rfl, -, hevents, hleft, -⟩ |
    ⟨fault, -, hevents, hsame, -⟩
  · rw [hevents]
    exact ⟨left, rfl, hleft⟩
  · rw [hevents]
    exact .refl hsame

/-- Waiting for a reply sees the next frames, as many as it takes. -/
theorem awaitReply_seesNext (counter : UInt16) (line : Line) :
    ∀ {frames : List (List UInt8)}, Aligned frames line.arrivals →
      SeesNext frames (awaitReply counter line).events
        (awaitReply counter line).state.arrivals := by
  fun_induction awaitReply counter line with
  | case1 line next fault =>
    intro frames h
    exact receive_seesNext h
  | case2 line next frame hresult fault =>
    intro frames h
    exact receive_seesNext h
  | case3 line next frame hresult reply hparse hlate rest =>
    rename_i ih
    intro frames h
    obtain ⟨left, hseen, hleft⟩ := receive_seesNext h
    exact .append ⟨left, hseen, ih hleft⟩
  | case4 line next frame hresult reply hparse =>
    intro frames h
    exact receive_seesNext h

theorem submit_seesNext (h : Aligned frames device.link.arrivals) (request : Request) :
    SeesNext frames (device.submit request).events
      (device.submit request).state.link.arrivals := by
  rcases device.submit_line request with ⟨fault, -, hsubmit⟩ | ⟨fault, -, -, hsubmit⟩ |
    ⟨-, -, hsubmit⟩
  · rw [hsubmit]
    exact ⟨frames, rfl, h⟩
  · rw [hsubmit]
    exact ⟨frames, rfl, h⟩
  · rw [hsubmit]
    exact ⟨frames, rfl, h⟩

theorem order_seesNext (h : Aligned frames device.link.arrivals) (request : Request) (answer : Answer) :
    SeesNext frames (device.order request answer).events
      (device.order request answer).state.link.arrivals := by
  have hsubmit := submit_seesNext h request
  cases hresult : (device.submit request).result with
  | error fault =>
    rw [order_of_unsent hresult]
    exact hsubmit
  | ok sent =>
    rw [order_of_sent hresult]
    obtain ⟨left, hseen, hleft⟩ := hsubmit
    refine .append ⟨left, hseen, left, ?_, hleft⟩
    rw [framesSeen_doneEvents, List.nil_append]

theorem readSensor_seesNext (h : Aligned frames device.link.arrivals) (port : UInt8) (kind : SensorKind) :
    SeesNext frames (device.readSensor port kind).events
      (device.readSensor port kind).state.link.arrivals := by
  obtain ⟨left, hseen, hleft⟩ := submit_seesNext h (.sensor port kind)
  cases hresult : (device.submit (.sensor port kind)).result with
  | error fault =>
    rw [readSensor_of_unsent hresult]
    exact ⟨left, hseen, hleft⟩
  | ok sent =>
    rw [readSensor_of_sent hresult]
    obtain ⟨last, hboth, hlast⟩ := SeesNext.append ⟨left, hseen, awaitReply_seesNext
      device.counter (device.submit (.sensor port kind)).state.link hleft⟩
    refine .append ⟨last, hboth, last, ?_, hlast⟩
    rw [framesSeen_reportValue, List.nil_append]

theorem perform_seesNext (h : Aligned frames device.link.arrivals) (operation : Operation) :
    SeesNext frames (device.perform operation).events
      (device.perform operation).state.link.arrivals := by
  rcases device.perform_cases operation with
    ⟨-, hperform⟩ | ⟨-, fault, -, hperform⟩ | ⟨-, hz, ms, volume, -, hperform⟩ |
    ⟨-, request, -, hperform⟩ | ⟨-, port, kind, -, hperform⟩
  · rw [hperform]
    exact .refl h
  · rw [hperform]
    exact .refl h
  · rw [hperform]
    exact .refl h
  · rw [hperform]
    exact order_seesNext h request request.doneAnswer
  · rw [hperform]
    exact readSensor_seesNext h port kind

end Device

/-- **A session over an aligned line sees the frames in order**, from the first one on. -/
theorem Session.framesSeen_prefix (steps : List (Step Empty)) :
    ∀ {device : Device Line} {frames : List (List UInt8)},
      Aligned frames device.link.arrivals →
        framesSeen (Session.events (Session.trace undisturbed device steps)) <+: frames := by
  induction steps with
  | nil =>
    intro device frames _
    exact List.nil_prefix
  | cons step steps ih =>
    intro device frames h
    have hstep : Device.SeesNext frames (step.run undisturbed device).events
        (step.run undisturbed device).state.link.arrivals := by
      cases step with
      | initialise => exact .refl h
      | operate operation => exact Device.perform_seesNext h operation
      | outside event => exact event.elim
    obtain ⟨left, rfl, hleft⟩ := hstep
    rw [Session.trace, Session.events, List.flatMap_cons, framesSeen_append]
    exact (List.prefix_append_right_inj _).2 (ih hleft)

/-! ### Frames across failures -/

/-- **A line keeps its frames across failures exactly if no read fails inside one.** If one does, no number of
receives brings all frames. If none does, the receives bring the frames in order, all of them once there is a
receive for each frame and each failure, and every session over the line sees these frames only. -/
theorem received_all_iff_breaksBetween {line : Line} {frames : List (List UInt8)}
    (hframes : ∀ frame ∈ frames, IsFrame frame)
    (hcontent : Arrival.content line.arrivals = frames.flatten) :
    ((∃ count, line.received count = frames) ↔ BreaksBetween frames line.arrivals) ∧
    (BreaksBetween frames line.arrivals → ∀ count, line.received count <+: frames ∧
      (frames.length + (Arrival.breaks line.arrivals).length ≤ count →
        line.received count = frames)) ∧
    (BreaksBetween frames line.arrivals →
      ∀ (counter : UInt16) (initialised : Bool) (steps : List (Step Empty)),
        framesSeen (Session.events
          (Session.trace undisturbed ⟨line, counter, initialised⟩ steps)) <+: frames) := by
  have hall : BreaksBetween frames line.arrivals → ∀ count,
      frames.length + (Arrival.breaks line.arrivals).length ≤ count →
        line.received count = frames := by
    intro hbreaks count hcount
    exact Line.received_of_aligned ⟨hframes, hcontent, hbreaks⟩ hcount
  refine ⟨⟨?_, ?_⟩, ?_, ?_⟩
  · rintro ⟨count, rfl⟩
    exact Line.breaksBetween_of_received hcontent
  · intro hbreaks
    exact ⟨_, hall hbreaks _ (Nat.le_refl _)⟩
  · intro hbreaks count
    refine ⟨?_, hall hbreaks count⟩
    have hprefix := line.received_prefix_add count
      (frames.length + (Arrival.breaks line.arrivals).length)
    rwa [hall hbreaks _ (Nat.le_add_left _ _)] at hprefix
  · intro hbreaks counter initialised steps
    exact Session.framesSeen_prefix steps ⟨hframes, hcontent, hbreaks⟩

/-- A read that times out between the two frames loses nothing, and one interrupted inside a frame neither. -/
theorem received_all_of_timeout_between :
    let line : Line := { Line.idle with
      arrivals := [.bytes [7, 0, 0, 0], .failure .interrupted, .bytes [2, 0, 0, 128, 63],
        .failure .timedOut, .bytes [2], .bytes [0, 9, 9]] }
    line.received 3 = [[7, 0, 0, 0, 2, 0, 0, 128, 63], [2, 0, 9, 9]] := by
  intro line
  obtain ⟨-, hall, -⟩ := received_all_iff_breaksBetween
    (show ∀ frame ∈ [[7, 0, 0, 0, 2, 0, 0, 128, 63], [2, 0, 9, 9]], IsFrame frame by decide)
    (show Arrival.content line.arrivals = _ from rfl)
  have hbetween : BreaksBetween [[7, 0, 0, 0, 2, 0, 0, 128, 63], [2, 0, 9, 9]]
      line.arrivals := by
    intro behind hbehind
    rw [show Arrival.breaks line.arrivals = [[.bytes [2], .bytes [0, 9, 9]]] from rfl,
      List.mem_singleton] at hbehind
    subst hbehind
    exact ⟨[[2, 0, 9, 9]], List.suffix_cons _ _, rfl⟩
  exact (hall hbetween 3).2 (by decide)

/-- A read that times out inside a frame: the next receive makes up a frame from the middle of it. -/
theorem received_made_up_after_timeout :
    let frame : List UInt8 := [7, 0, 0, 0, 2, 0, 0, 128, 63]
    let line : Line := { Line.idle with
      arrivals := [.bytes [7, 0], .failure .timedOut, .bytes [0, 0, 2, 0, 0, 128, 63]] }
    IsFrame frame ∧ Arrival.content line.arrivals = [frame].flatten ∧
      line.received 2 = [[0, 0]] ∧ ¬ line.received 2 <+: [frame] := by
  decide

end BrickControl
