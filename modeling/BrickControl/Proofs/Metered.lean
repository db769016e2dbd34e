import BrickControl.Transport

/-!
# Connections without a bound

A transport says how much can be received at most. A connection does not: frames may come in without end, and whether a
program on it ends is a question about the program. It is asked of the connection watched for a number of receives.

* `Connection` is what sends and receives do;
* `Metered` is a connection that breaks after a number of receives, which makes it a transport.
-/

namespace BrickControl

/-- What sending and receiving leave, from one state to the next, with no bound on the frames that come in. -/
structure Connection (σ : Type) where
  send : σ → List UInt8 → Outcome σ Unit
  receive : σ → Outcome σ (List UInt8)

/-- A connection that is watched for a number of receives; then it breaks. Whatever a program does on a connection
before it ends, it does on the connection watched for as many receives. -/
structure Metered {σ : Type} (connection : Connection σ) where
  state : σ
  /-- The number of receives until the connection breaks. -/
  left : Nat

namespace Metered

variable {σ : Type} {connection : Connection σ}

/-- Sends as the connection does. -/
def send (link : Metered connection) (packet : List UInt8) : Outcome (Metered connection) Unit :=
  let sent := connection.send link.state packet
  ⟨sent.result, { link with state := sent.state }, sent.events⟩

/-- Receives as the connection does, while receives are left. -/
def receive (link : Metered connection) : Outcome (Metered connection) (List UInt8) :=
  match link.left with
  | 0 => ⟨.error (.line .brokenPipe), link, []⟩
  | left + 1 =>
    let received := connection.receive link.state
    ⟨received.result, ⟨received.state, left⟩, received.events⟩

theorem left_receive (link : Metered connection) (frame : List UInt8)
    (h : link.receive.result = .ok frame) : link.receive.state.left < link.left := by
  unfold receive at h ⊢
  split at h
  · exact absurd h (by simp)
  · rename_i left hleft
    rw [hleft]
    exact Nat.lt_succ_self left

instance : Transport (Metered connection) where
  send := send
  receive := receive
  pending := left
  pending_receive := left_receive

end Metered

end BrickControl
