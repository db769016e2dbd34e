import BrickControl.Event
import BrickControl.Fault

/-!
# Transports

A transport carries whole packets to the brick and whole reply frames back.

* `Outcome` is what one action leaves: a result, the state after it, and the events it reported;
* `Transport` is the class of states that can send and receive.

A transport has a measure, `pending`, that every successful receive lowers: only so much can be received
before something new arrives. That bounds every loop that receives.
-/

namespace BrickControl

/-- What one action on a state of type `σ` leaves. -/
structure Outcome (σ α : Type) where
  result : Except Fault α
  /-- The state after the action, whether it failed or not. -/
  state : σ
  /-- The events reported, in order. -/
  events : List Event

/-- States that can carry packets and frames. -/
class Transport (σ : Type) where
  /-- Hands over one packet. -/
  send : σ → List UInt8 → Outcome σ Unit
  /-- Takes one frame, its length field included. -/
  receive : σ → Outcome σ (List UInt8)
  /-- A bound on the frames that can be received. -/
  pending : σ → Nat
  /-- Every frame received lowers the bound. -/
  pending_receive : ∀ (s : σ) (frame : List UInt8),
    (receive s).result = .ok frame → pending (receive s).state < pending s

end BrickControl
