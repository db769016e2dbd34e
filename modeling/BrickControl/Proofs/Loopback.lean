import BrickControl.Device
import BrickControl.Proofs.LineReading
import BrickControl.Proofs.Operations
import BrickControl.Proofs.PacketForm

/-!
# Packets that come back

What is written to a line may come back on it: a serial line that echoes, or two of them tied together. Writing and
reading then have to agree on where a packet ends, and a packet that comes back must not pass for a reply.

* `Line.results` and `Line.afterReceives`: receives in a row, with what each of them gives;
* `Line.stretch_afterReceives` and `Line.results_of_frames`: each receive takes one frame off a line that holds
  whole frames only, and there is nothing else to take;
* `Device.awaitReply_ne_ok_of_packets`: no wait for a reply ends with a packet;
* `packets_come_back`: packets with bodies that fit come back as they were written, in any pieces, tell all of their
  fields, and are refused as replies.
-/

namespace BrickControl

namespace Line

open Arrival

/-- What the next `count` receives give, one by one. -/
def results (line : Line) : Nat → List (Except Fault (List UInt8))
  | 0 => []
  | count + 1 => line.receive.result :: line.receive.state.results count

/-- The line after the next `count` receives. -/
def afterReceives (line : Line) : Nat → Line
  | 0 => line
  | count + 1 => line.receive.state.afterReceives count

theorem unread_eq_length (line : Line) : line.unread = (content line.arrivals).length := by
  unfold unread
  induction line.arrivals with
  | nil => rfl
  | cons a later ih =>
    cases a with
    | bytes piece => rw [total, content, List.length_append, ih, size]
    | failure fault => rw [total, content, ih, size, Nat.zero_add]

variable {frames : List (List UInt8)}

/-- **One receive on a line that holds whole frames**: it gives the first one, or finds the end of the line. -/
theorem receive_of_flatten {line : Line} (hframes : ∀ frame ∈ frames, IsFrame frame)
    (h : stretch line.arrivals = ⟨frames.flatten, .endedEarly, []⟩) :
    line.receive.result = (frames.head?.elim (.error (.line .endedEarly)) .ok) ∧
      stretch line.receive.state.arrivals = ⟨frames.tail.flatten, .endedEarly, []⟩ := by
  cases frames with
  | nil =>
    have huncut : cutFrame? (stretch line.arrivals).bytes = none := by
      rw [h]
      exact cutFrame?_nil
    rw [receive_of_uncut huncut, h]
    exact ⟨rfl, rfl⟩
  | cons frame frames =>
    have hcut : cutFrame? (stretch line.arrivals).bytes = some (frame, frames.flatten) := by
      rw [h]
      exact cutFrame?_append (hframes frame List.mem_cons_self) frames.flatten
    obtain ⟨arrivals, hreceive, hbehind⟩ := receive_of_cut hcut
    rw [hreceive]
    refine ⟨rfl, ?_⟩
    rw [hbehind, h]
    rfl

theorem stretch_afterReceives (count : Nat) :
    ∀ {frames : List (List UInt8)} {line : Line}, (∀ frame ∈ frames, IsFrame frame) →
      stretch line.arrivals = ⟨frames.flatten, .endedEarly, []⟩ →
      stretch (line.afterReceives count).arrivals =
        ⟨(frames.drop count).flatten, .endedEarly, []⟩ := by
  induction count with
  | zero =>
    intro frames line hframes h
    exact h
  | succ count ih =>
    intro frames line hframes h
    have hlater := (receive_of_flatten hframes h).2
    rw [afterReceives, ih (fun frame hmem => hframes frame (List.mem_of_mem_tail hmem)) hlater,
      List.drop_tail]

/-- **Receives in a row give the frames in order**, and then find the end of the line. -/
theorem results_of_frames (hframes : ∀ frame ∈ frames, IsFrame frame) (more : Nat) :
    ∀ {line : Line}, stretch line.arrivals = ⟨frames.flatten, .endedEarly, []⟩ →
      line.results (frames.length + more) =
        frames.map .ok ++ List.replicate more (.error (.line .endedEarly)) := by
  induction frames with
  | nil =>
    -- no frame is left: induction on the receives that find the end
    induction more with
    | zero =>
      intro line h
      rfl
    | succ more ih =>
      intro line h
      obtain ⟨hresult, hlater⟩ := receive_of_flatten hframes h
      show line.receive.result :: line.receive.state.results (0 + more) = _
      rw [hresult, ← List.length_nil (α := List UInt8), ih hlater]
      rfl
  | cons frame frames ih =>
    intro line h
    obtain ⟨hresult, hlater⟩ := receive_of_flatten hframes h
    rw [show (frame :: frames).length + more = frames.length + more + 1 from by
      rw [List.length_cons]; omega, results, hresult,
      ih (fun other hmem => hframes other (List.mem_cons_of_mem frame hmem)) hlater]
    rfl

end Line

open Arrival

theorem Command.isFrame_of_mem_packets {commands : List Command}
    (h : ∀ c ∈ commands, c.body.length ≤ maxBody) :
    ∀ frame ∈ commands.map bytes, IsFrame frame := by
  intro frame hmem
  obtain ⟨c, hc, rfl⟩ := List.mem_map.1 hmem
  exact isFrame_bytes (h c hc)

/-- Over a line that holds packets only, no wait for a reply ends with one. -/
theorem Device.awaitReply_ne_ok_of_packets {commands : List Command}
    (hbodies : ∀ c ∈ commands, c.body.length ≤ Command.maxBody) {line : Line}
    (h : stretch line.arrivals = ⟨(commands.map Command.bytes).flatten, .endedEarly, []⟩)
    (counter : UInt16) (reply : Reply) : (awaitReply counter line).result ≠ .ok reply := by
  have hframes := Command.isFrame_of_mem_packets hbodies
  have hresult := (Line.receive_of_flatten hframes h).1
  cases commands with
  | nil =>
    have hawait : awaitReply counter line = _ := awaitReply_of_error hresult
    rw [hawait]
    simp
  | cons c commands =>
    have hawait : awaitReply counter line = _ :=
      awaitReply_of_unparsed hresult (Command.parse_bytes (hbodies c List.mem_cons_self))
    rw [hawait]
    simp

/-- **Packets come back as they were written.** However the bytes of packets with bodies that fit are cut into
pieces, and wherever signals break in, receives in a row give these packets, in order, and leave nothing. Each packet
tells its counter, its message type, the low ten bits of its globals, and its body; read as a reply it is refused
for its message type, so at no point does a wait take one for a reply. -/
theorem packets_come_back {commands : List Command}
    (hbodies : ∀ c ∈ commands, c.body.length ≤ Command.maxBody) {line : Line}
    (hsmooth : ∀ a ∈ line.arrivals, a.IsSmooth)
    (hcontent : content line.arrivals = (commands.map Command.bytes).flatten) :
    (∀ more, line.results (commands.length + more) =
      (commands.map fun c => .ok c.bytes) ++ List.replicate more (.error (.line .endedEarly))) ∧
    (line.afterReceives commands.length).unread = 0 ∧
    (∀ c ∈ commands, Packet.read? c.bytes = some {
        counter := c.counter
        typeByte := if c.globals.isSome then 0x00 else 0x80
        globals := (c.globals.getD 0).toNat % 1024
        locals := 0
        body := c.body } ∧
      Reply.parse c.bytes =
        .error (.unknownReplyType (if c.globals.isSome then 0x00 else 0x80))) ∧
    (∀ count counter reply,
      (Device.awaitReply counter (line.afterReceives count)).result ≠ .ok reply) := by
  have hframes := Command.isFrame_of_mem_packets hbodies
  have hwaiting : stretch line.arrivals =
      ⟨(commands.map Command.bytes).flatten, .endedEarly, []⟩ := by
    rw [stretch_of_smooth hsmooth, hcontent]
  refine ⟨?_, ?_, ?_, ?_⟩
  · intro more
    have hresults := Line.results_of_frames hframes more hwaiting
    rwa [List.length_map, List.map_map] at hresults
  · have hleft := Line.stretch_afterReceives commands.length hframes hwaiting
    rw [← List.length_map Command.bytes, List.drop_length] at hleft
    rw [Line.unread_eq_length, content_eq_stretch, ← List.length_map Command.bytes, hleft]
    rfl
  · intro c hc
    exact ⟨Command.read?_bytes (hbodies c hc), Command.parse_bytes (hbodies c hc)⟩
  · intro count counter reply
    have hleft := Line.stretch_afterReceives count hframes hwaiting
    rw [← List.map_drop] at hleft
    exact Device.awaitReply_ne_ok_of_packets
      (fun c hc => hbodies c (List.mem_of_mem_drop hc)) hleft counter reply

/-- Two packets in four pieces, one of which ends the first packet and opens the second. -/
theorem packets_come_back_in_pieces :
    let reading : Command := ⟨65535, some 4100, [.op 0x99, .param (.lc2 300), .param (.gv0 0)]⟩
    let silence : Command := ⟨0, none, [.op 0x82, .sub 0x00]⟩
    let line : Line := { Line.idle with
      arrivals := [.bytes [10], .bytes [0, 255, 255, 0, 4], .failure .interrupted,
        .bytes [0, 153, 130, 44, 1, 96, 7], .bytes [0, 0, 0, 128, 0, 0, 130, 0]] }
    line.results 3 = [.ok reading.bytes, .ok silence.bytes, .error (.line .endedEarly)] ∧
      Packet.read? reading.bytes = some ⟨65535, 0x00, 4, 0, [153, 130, 44, 1, 96]⟩ ∧
      Reply.parse silence.bytes = .error (.unknownReplyType 0x80) := by
  intro reading silence line
  have hsmooth : ∀ a ∈ line.arrivals, a.IsSmooth := by
    simp [line, Arrival.IsSmooth]
  obtain ⟨hresults, -, hfields, -⟩ := packets_come_back
    (show ∀ c ∈ [reading, silence], c.body.length ≤ Command.maxBody by decide) hsmooth (by decide)
  refine ⟨hresults 1, ?_, (hfields silence (by simp)).2⟩
  rw [(hfields reading (by simp)).1]
  decide

end BrickControl
