import BrickControl.Queue
import BrickControl.Transport

/-!
# Recorders

A recorder is a transport that keeps every packet instead of carrying it, and answers from a queue of reply
frames that were put there beforehand.

* `Recorder.send` and `Recorder.receive` make it a transport;
* `Recorder.nextSent` takes a packet out again, `Recorder.drain` all of them;
* `Recorder.pushReply` queues a reply frame.
-/

namespace BrickControl

/-- Recorded packets, and the reply frames that wait to be received. -/
structure Recorder where
  sent : Queue (List UInt8)
  replies : Queue (List UInt8)
  deriving Repr

namespace Recorder

/-- A recorder with nothing recorded and nothing to receive. -/
def empty : Recorder := ⟨.empty, .empty⟩

/-- Keeps a packet. -/
def send (r : Recorder) (packet : List UInt8) : Outcome Recorder Unit :=
  ⟨.ok (), { r with sent := r.sent.push packet }, [.recorded packet]⟩

/-- Takes the next reply frame; there is no reply if none waits. -/
def receive (r : Recorder) : Outcome Recorder (List UInt8) :=
  match r.replies.pop? with
  | some (frame, rest) => ⟨.ok frame, { r with replies := rest }, []⟩
  | none => ⟨.error .noReply, r, []⟩

/-- Queues a reply frame. -/
def pushReply (r : Recorder) (frame : List UInt8) : Recorder :=
  { r with replies := r.replies.push frame }

/-- The number of packets recorded and not yet taken out. -/
def sentCount (r : Recorder) : Nat := r.sent.size

/-- Skips `skip` packets and takes the next one, without its first `offset` bytes. With too few packets
recorded, all are skipped. -/
def nextSent (r : Recorder) : Nat → Nat → Option (List UInt8) × Recorder
  | 0, offset =>
    match r.sent.pop? with
    | some (packet, rest) => (some (packet.drop offset), { r with sent := rest })
    | none => (none, r)
  | skip + 1, offset =>
    match r.sent.pop? with
    | some (_, rest) => nextSent { r with sent := rest } skip offset
    | none => (none, r)

/-- Takes out every recorded packet, in the order sent. -/
def drain (r : Recorder) : List (List UInt8) × Recorder :=
  (r.sent.toList, { r with sent := .empty })

/-- Each frame received leaves one fewer to wait. -/
theorem size_receive (r : Recorder) (frame : List UInt8) (h : r.receive.result = .ok frame) :
    r.receive.state.replies.size < r.replies.size := by
  unfold receive at h ⊢
  split at h
  · rename_i taken rest hpop
    simp only [Queue.size_eq, Queue.toList_of_pop? hpop, List.length_cons]
    omega
  · exact absurd h (by simp)

instance : Transport Recorder where
  send := send
  receive := receive
  pending r := r.replies.size
  pending_receive := size_receive

end Recorder

end BrickControl
