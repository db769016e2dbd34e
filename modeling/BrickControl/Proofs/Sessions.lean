import BrickControl.Proofs.Operations

/-!
# Sessions

A session is a sequence of steps on one device: calls of its owner, and between them what happens to the transport
from outside, such as a reply that comes in or a line that breaks.

* `Step` is one step, `Step.run` carries it out;
* `Session.after` is the device after a session, `Session.trace` all steps as they were carried out;
* `framesSeen` are the frames among the events of a step or of a whole session;
* `Session.after_append` and `Session.mem_trace`: every step of a trace is one step after a session of its own, so
  what holds of a step after any session holds of every step of every run.
-/

namespace BrickControl

/-- One step of a session, where `ε` is what can happen to the transport from outside. -/
inductive Step (ε : Type) where
  | initialise
  | operate (operation : Operation)
  | outside (event : ε)
  deriving DecidableEq

/-- A step as it was carried out. -/
structure Entry (σ : Type) where
  before : Device σ
  outcome : Outcome (Device σ) Answer

def Entry.after {σ : Type} (entry : Entry σ) : Device σ := entry.outcome.state

/-- Nothing happens to a transport from outside. -/
def undisturbed {σ : Type} (_ : σ) (event : Empty) : σ := event.elim

variable {σ ε : Type} [Transport σ]

/-- Carries out one step. What happens outside gives the device's owner nothing to see. -/
def Step.run (happen : σ → ε → σ) (device : Device σ) : Step ε → Outcome (Device σ) Answer
  | .initialise => ⟨.ok .done, device.initialise.state, device.initialise.events⟩
  | .operate operation => device.perform operation
  | .outside event => ⟨.ok .done, { device with link := happen device.link event }, []⟩

/-- The frames that events report. -/
def framesSeen (events : List Event) : List (List UInt8) :=
  events.filterMap fun event =>
    match event with
    | .received frame => some frame
    | _ => none

theorem framesSeen_append (events later : List Event) :
    framesSeen (events ++ later) = framesSeen events ++ framesSeen later :=
  List.filterMap_append

theorem framesSeen_doneEvents (request : Request) :
    framesSeen (Device.doneEvents request) = [] := by
  cases request <;> rfl

theorem framesSeen_reportValue (port : UInt8) (kind : SensorKind)
    (result : Except Fault Answer) : framesSeen (Device.reportValue port kind result) = [] := by
  unfold Device.reportValue
  split
  · rfl
  · rfl

namespace Session

/-- The device after all steps. -/
def after (happen : σ → ε → σ) (device : Device σ) (steps : List (Step ε)) : Device σ :=
  steps.foldl (fun device step => (step.run happen device).state) device

/-- All steps as they were carried out. -/
def trace (happen : σ → ε → σ) : Device σ → List (Step ε) → List (Entry σ)
  | _, [] => []
  | device, step :: later =>
    ⟨device, step.run happen device⟩ :: trace happen (step.run happen device).state later

/-- All events of a trace, in order. -/
def events (trace : List (Entry σ)) : List Event :=
  trace.flatMap fun entry => entry.outcome.events

variable (happen : σ → ε → σ) (device : Device σ)

theorem after_append (steps later : List (Step ε)) :
    after happen device (steps ++ later) = after happen (after happen device steps) later :=
  List.foldl_append

theorem after_concat (steps : List (Step ε)) (step : Step ε) :
    after happen device (steps ++ [step]) =
      (step.run happen (after happen device steps)).state := by
  rw [after_append]
  rfl

theorem initialised_after {steps : List (Step ε)} (h : .initialise ∉ steps) :
    (after happen device steps).initialised = device.initialised := by
  induction steps generalizing device with
  | nil => rfl
  | cons step steps ih =>
    rw [List.mem_cons, not_or] at h
    refine (ih (step.run happen device).state h.2).trans ?_
    cases step with
    | initialise => exact absurd rfl h.1
    | operate operation => exact device.initialised_perform operation
    | outside event => rfl

theorem trace_append (steps later : List (Step ε)) :
    trace happen device (steps ++ later) =
      trace happen device steps ++ trace happen (after happen device steps) later := by
  induction steps generalizing device with
  | nil => rfl
  | cons step steps ih => exact congrArg (_ :: ·) (ih (step.run happen device).state)

/-- **Every step of a trace comes after a session of its own.** -/
theorem mem_trace {steps : List (Step ε)} {entry : Entry σ}
    (h : entry ∈ trace happen device steps) :
    ∃ earlier step later, steps = earlier ++ step :: later ∧
      entry = ⟨after happen device earlier, step.run happen (after happen device earlier)⟩ := by
  induction steps generalizing device with
  | nil => exact absurd h (by simp [trace])
  | cons step steps ih =>
    rw [trace, List.mem_cons] at h
    rcases h with rfl | h
    · exact ⟨[], step, steps, rfl, rfl⟩
    · obtain ⟨earlier, step', later, rfl, hentry⟩ := ih _ h
      exact ⟨step :: earlier, step', later, rfl, hentry⟩

end Session

end BrickControl
