import BrickControl.Line
import BrickControl.Proofs.Framing

/-!
# What a line lets through

Reads of a line succeed until one fails, and the bytes up to there form a stretch: how they were cut into pieces,
and where a signal broke in, makes no difference to anyone who reads them.

* `Arrival.stretch` is the stretch in front, with the failure that ends it and what waits behind that;
* `Line.readExact_of_le` and `Line.readExact_of_lt`: a read takes its bytes from the front of the stretch, or
  meets its failure;
* `Line.receive_of_cut` and `Line.receive_of_uncut`: a receive takes the first frame of the stretch, or uses the
  stretch up and fails as it ends;
* `Line.receive_cases`: the same without the stretch behind the frame;
* `Arrival.content_eq_stretch`: what waits is the stretch and what waits behind it;
* `Arrival.stretch_of_smooth`: pieces and interruptions alone are one stretch, up to the end of the line.
-/

namespace BrickControl

/-! ### Stretches -/

/-- What reads meet up to the first one that fails. -/
structure Stretch where
  /-- The bytes that can be read before. -/
  bytes : List UInt8
  /-- The failure of the first read that fails. -/
  fault : LineFault
  /-- What later reads meet. -/
  later : List Arrival

namespace Arrival

/-- The stretch in front of a line. An empty piece, like the end of the line, ends it too early for whoever wants
more bytes. -/
def stretch : List Arrival → Stretch
  | [] => ⟨[], .endedEarly, []⟩
  | .failure fault :: later => if fault = .interrupted then stretch later else ⟨[], fault, later⟩
  | .bytes piece :: later =>
    if piece.isEmpty then ⟨[], .endedEarly, later⟩
    else { stretch later with bytes := piece ++ (stretch later).bytes }

/-- All bytes that wait, whatever breaks in between them. -/
def content : List Arrival → List UInt8
  | [] => []
  | .bytes piece :: later => piece ++ content later
  | .failure _ :: later => content later

/-- The bytes of an arrival are there, and only a signal breaks in. -/
def IsSmooth : Arrival → Prop
  | .bytes piece => piece ≠ []
  | .failure fault => fault = .interrupted

theorem stretch_bytes_cons {piece : List UInt8} (h : piece ≠ []) (later : List Arrival) :
    stretch (.bytes piece :: later) =
      { stretch later with bytes := piece ++ (stretch later).bytes } := by
  rw [stretch, if_neg (by simpa using h)]

theorem stretch_interrupted_cons (later : List Arrival) :
    stretch (.failure .interrupted :: later) = stretch later := by
  rw [stretch, if_pos rfl]

theorem stretch_failure_cons {fault : LineFault} (h : fault ≠ .interrupted)
    (later : List Arrival) : stretch (.failure fault :: later) = ⟨[], fault, later⟩ := by
  rw [stretch, if_neg h]

theorem stretch_putBack (rest : List UInt8) (arrivals : List Arrival) :
    stretch (Line.putBack rest arrivals) =
      { stretch arrivals with bytes := rest ++ (stretch arrivals).bytes } := by
  cases rest with
  | nil => rfl
  | cons b rest => exact stretch_bytes_cons (List.cons_ne_nil b rest) arrivals

/-- What waits is the stretch and what waits behind it. -/
theorem content_eq_stretch (arrivals : List Arrival) :
    content arrivals = (stretch arrivals).bytes ++ content (stretch arrivals).later := by
  induction arrivals with
  | nil => rfl
  | cons a later ih =>
    cases a with
    | bytes piece =>
      by_cases hpiece : piece = []
      · subst hpiece
        rfl
      · rw [stretch_bytes_cons hpiece, content, ih, List.append_assoc]
    | failure fault =>
      by_cases hfault : fault = .interrupted
      · rw [hfault, stretch_interrupted_cons, content, ih]
      · rw [stretch_failure_cons hfault, content, List.nil_append]

/-- **Pieces and interruptions alone are one stretch**: all their bytes, and then the end of the line. -/
theorem stretch_of_smooth {arrivals : List Arrival} (h : ∀ a ∈ arrivals, a.IsSmooth) :
    stretch arrivals = ⟨content arrivals, .endedEarly, []⟩ := by
  induction arrivals with
  | nil => rfl
  | cons a later ih =>
    have hlater := ih fun b hb => h b (List.mem_cons_of_mem a hb)
    have ha : a.IsSmooth := h a List.mem_cons_self
    cases a with
    | bytes piece => rw [stretch_bytes_cons ha, hlater, content]
    | failure fault =>
      rw [show fault = .interrupted from ha, stretch_interrupted_cons, hlater, content]

end Arrival

namespace Line

open Arrival

/-! ### Reading a number of bytes -/

/-- **A read within the stretch takes its bytes from the front.** -/
theorem readExact_of_le {count : Nat} {arrivals : List Arrival}
    (h : count ≤ (stretch arrivals).bytes.length) :
    ∃ rest, readExact count arrivals = (.ok ((stretch arrivals).bytes.take count), rest) ∧
      stretch rest =
        { stretch arrivals with bytes := (stretch arrivals).bytes.drop count } := by
  fun_induction readExact count arrivals with
  | case1 arrivals => exact ⟨arrivals, rfl, rfl⟩
  | case2 count => exact absurd h (by simp [stretch])
  | case3 count later ih =>
    rw [stretch_interrupted_cons] at h ⊢
    exact ih h
  | case4 count fault later hfault =>
    rw [stretch_failure_cons hfault] at h
    exact absurd h (by simp)
  | case5 count piece later hempty =>
    rw [stretch, if_pos hempty] at h
    exact absurd h (by simp)
  | case6 count piece later hpiece hle =>
    rw [stretch_bytes_cons (by simpa using hpiece)]
    refine ⟨putBack (piece.drop (count + 1)) later, ?_, ?_⟩
    · rw [List.take_append_of_le_length hle]
    · rw [stretch_putBack, List.drop_append_of_le_length hle]
  | case7 count piece later hpiece hlong got after hread ih =>
    have hne : piece ≠ [] := by simpa using hpiece
    rw [stretch_bytes_cons hne] at h ⊢
    simp only [List.length_append] at h
    obtain ⟨rest, hrest, hstretch⟩ := ih (by omega)
    rw [hread] at hrest
    simp only [Prod.mk.injEq, Except.ok.injEq] at hrest
    obtain ⟨rfl, rfl⟩ := hrest
    have htake : piece.take (count + 1) = piece := List.take_of_length_le (by omega)
    have hdrop : piece.drop (count + 1) = [] := List.drop_of_length_le (by omega)
    refine ⟨after, ?_, ?_⟩
    · rw [List.take_append, htake]
    · rw [hstretch, List.drop_append, hdrop, List.nil_append]
  | case8 count piece later hpiece hlong fault after hread ih =>
    have hne : piece ≠ [] := by simpa using hpiece
    rw [stretch_bytes_cons hne] at h
    simp only [List.length_append] at h
    obtain ⟨rest, hrest, -⟩ := ih (by omega)
    rw [hread] at hrest
    exact absurd hrest (by simp)

/-- **A read beyond the stretch uses it up and fails as it ends.** -/
theorem readExact_of_lt {count : Nat} {arrivals : List Arrival}
    (h : (stretch arrivals).bytes.length < count) :
    readExact count arrivals = (.error (stretch arrivals).fault, (stretch arrivals).later) := by
  fun_induction readExact count arrivals with
  | case1 arrivals => exact absurd h (by simp)
  | case2 count => rfl
  | case3 count later ih =>
    rw [stretch_interrupted_cons] at h ⊢
    exact ih h
  | case4 count fault later hfault => rw [stretch_failure_cons hfault]
  | case5 count piece later hempty => rw [stretch, if_pos hempty]
  | case6 count piece later hpiece hle =>
    rw [stretch_bytes_cons (by simpa using hpiece)] at h
    simp only [List.length_append] at h
    omega
  | case7 count piece later hpiece hlong got after hread ih =>
    rw [stretch_bytes_cons (by simpa using hpiece)] at h
    simp only [List.length_append] at h
    have hfails := ih (by omega)
    rw [hread] at hfails
    exact absurd hfails (by simp)
  | case8 count piece later hpiece hlong fault after hread ih =>
    rw [stretch_bytes_cons (by simpa using hpiece)] at h ⊢
    simp only [List.length_append] at h
    have hfails := ih (by omega)
    rw [hread] at hfails
    simp only [Prod.mk.injEq, Except.error.injEq] at hfails
    rw [hfails.1, hfails.2]

/-! ### Receiving a frame -/

/-- **A receive takes the first frame of the stretch**, and leaves the rest of the stretch as it was. -/
theorem receive_of_cut {line : Line} {frame rest : List UInt8}
    (h : cutFrame? (stretch line.arrivals).bytes = some (frame, rest)) :
    ∃ arrivals, line.receive = ⟨.ok frame, { line with arrivals := arrivals }, [.received frame]⟩ ∧
      stretch arrivals = { stretch line.arrivals with bytes := rest } := by
  obtain ⟨hframe, hbytes⟩ := of_cutFrame? h
  have hheader := hframe.header
  have hcounted := hframe.counted
  have hlen : (stretch line.arrivals).bytes.length = frame.length + rest.length := by
    rw [hbytes, List.length_append]
  have hfits : Bytecode.lengthBytes ≤ (stretch line.arrivals).bytes.length := by omega
  obtain ⟨behind, hfield, hbehind⟩ := readExact_of_le hfits
  have htaken : (stretch line.arrivals).bytes.take Bytecode.lengthBytes =
      frame.take Bytecode.lengthBytes := by
    rw [hbytes, List.take_append_of_le_length hheader]
  have hleft : (stretch behind).bytes = frame.drop Bytecode.lengthBytes ++ rest := by
    rw [hbehind, hbytes]
    exact List.drop_append_of_le_length hheader
  have hbody : (frame.drop Bytecode.lengthBytes).length =
      LittleEndian.decode (frame.take Bytecode.lengthBytes) := by
    rw [List.length_drop]
    omega
  have hbodyFits : (frame.drop Bytecode.lengthBytes).length ≤ (stretch behind).bytes.length := by
    rw [hleft, List.length_append]
    omega
  obtain ⟨after, hread, hafter⟩ := readExact_of_le hbodyFits
  rw [hleft, List.take_left] at hread
  rw [hleft, List.drop_left, hbehind] at hafter
  refine ⟨after, ?_, hafter⟩
  rw [receive, hfield, htaken]
  simp only
  rw [← hbody, hread]
  simp only [List.take_append_drop]

/-- **A receive without a whole frame in the stretch uses it up and fails as it ends.** -/
theorem receive_of_uncut {line : Line} (h : cutFrame? (stretch line.arrivals).bytes = none) :
    line.receive = ⟨.error (.line (stretch line.arrivals).fault),
      { line with arrivals := (stretch line.arrivals).later }, []⟩ := by
  simp only [cutFrame?] at h
  rcases Nat.lt_or_ge (stretch line.arrivals).bytes.length Bytecode.lengthBytes with hlt | hge
  · rw [receive, readExact_of_lt hlt]
  · obtain ⟨behind, hfield, hbehind⟩ := readExact_of_le hge
    have hshort : (stretch behind).bytes.length <
        LittleEndian.decode ((stretch line.arrivals).bytes.take Bytecode.lengthBytes) := by
      rw [hbehind]
      simp only [List.length_drop]
      split at h
      · exact absurd h (by simp)
      · omega
    rw [receive, hfield]
    simp only
    rw [readExact_of_lt hshort, hbehind]

/-- **Two ways for a receive to end.** It takes a whole frame off the line, or it uses up the stretch, which has
none. -/
theorem receive_cases (line : Line) :
    (∃ frame, line.receive.result = .ok frame ∧ line.receive.events = [.received frame] ∧
      IsFrame frame ∧
      content line.arrivals = frame ++ content line.receive.state.arrivals) ∨
    (∃ fault, line.receive.result = .error (.line fault) ∧ line.receive.events = [] ∧
      cutFrame? (stretch line.arrivals).bytes = none ∧
      line.receive.state.arrivals = (stretch line.arrivals).later) := by
  cases hcut : cutFrame? (stretch line.arrivals).bytes with
  | none =>
    rw [receive_of_uncut hcut]
    exact .inr ⟨_, rfl, rfl, rfl, rfl⟩
  | some cut =>
    obtain ⟨frame, rest⟩ := cut
    obtain ⟨hframe, hbytes⟩ := of_cutFrame? hcut
    obtain ⟨arrivals, hreceive, hstretch⟩ := receive_of_cut hcut
    rw [hreceive]
    refine .inl ⟨frame, rfl, rfl, hframe, ?_⟩
    rw [content_eq_stretch line.arrivals, content_eq_stretch arrivals, hstretch, hbytes,
      List.append_assoc]

/-- A receive that succeeds reports its frame, which has the length that it says and is taken off the front. -/
theorem of_receive_ok {line : Line} {frame : List UInt8} (h : line.receive.result = .ok frame) :
    line.receive.events = [.received frame] ∧ IsFrame frame ∧
      content line.arrivals = frame ++ content line.receive.state.arrivals := by
  rcases line.receive_cases with ⟨frame', hframe, hparts⟩ | ⟨fault, hfault, -⟩
  · rw [h, Except.ok.injEq] at hframe
    rw [hframe]
    exact hparts
  · rw [h] at hfault
    exact absurd hfault (by simp)

/-- A receive fails with a fault of the line only. -/
theorem fault_of_receive {line : Line} {fault : Fault}
    (h : line.receive.result = .error fault) : ∃ cause, fault = .line cause := by
  rcases line.receive_cases with ⟨frame, hframe, -⟩ | ⟨cause, hfault, -⟩
  · rw [h] at hframe
    exact absurd hframe (by simp)
  · rw [h] at hfault
    exact ⟨cause, Except.error.inj hfault⟩

theorem state_receive (line : Line) :
    line.receive.state = { line with arrivals := line.receive.state.arrivals } := by
  unfold receive
  split
  · rfl
  · split
    · rfl
    · rfl

end Line

end BrickControl
