import BrickControl.Program
import BrickControl.Proofs.Operations

/-!
# What a task comes to

A task initialises the device and goes through operations. All tasks but the readings of a sensor are a single
operation in a context; readings go on until one of them stops the task.

* `Progress.perform_eq` and `Progress.order_eq`: one operation, as the device performs it;
* `Task.single?` and `Task.run_of_single`: the tasks of a single operation; `Task.IsSingle` lists them;
* `Device.afterReads` and `Device.readAt`: the reads of a sensor one after the other, whatever comes of them;
* `StopsReading`: the faults that end readings, which in a dry run is all but a missing reply;
* `Progress.readings_of_passing`: reads that do not stop the readings are gone through;
* `Progress.readings_of_stopping`: the first that does is the last one.
-/

namespace BrickControl

open CommandLine

variable {σ : Type} [Transport σ]

/-! ### Single operations -/

/-- What is printed of the result of an operation. -/
def printedLine? : Except Fault Answer → Option String
  | .ok (.reading value) => some value.text
  | _ => none

namespace Progress

variable (progress : Progress σ) (operation : Operation)

/-- An operation goes as the device performs it, and a value that it reads is printed. -/
theorem perform_eq : progress.perform operation =
    ((progress.device.perform operation).result.map fun _ => (),
      { device := (progress.device.perform operation).state
        printed := (printedLine? (progress.device.perform operation).result).toList ++
          progress.printed
        events := (progress.device.perform operation).events.reverse ++ progress.events }) := by
  rw [perform]
  cases (progress.device.perform operation).result with
  | error fault => rfl
  | ok answer => cases answer <;> rfl

theorem order_eq (context : String) : progress.order context operation =
    ⟨(progress.device.perform operation).result.mapError (Failure.mk context) |>.map fun _ => (),
      (progress.perform operation).2⟩ := by
  rw [order, perform_eq]
  cases (progress.device.perform operation).result with
  | error fault => rfl
  | ok answer => rfl

end Progress

/-- The operation of a task that reads no sensor, and what the program is doing meanwhile. -/
def CommandLine.Task.single? : Task → Option (String × Operation)
  | .tone hz ms volume => some ("play tone", .tone hz ms volume)
  | .led status => some ("set led", .led status)
  | .motor outputs speed => some ("motor speed", .motor outputs speed)
  | .stop (some outputs) brake => some ("stop motor", .stop outputs brake)
  | .stop none _ => some ("stop all", .stopAll)
  | .sensor _ _ _ _ => none
  | .keepAlive minutes => some ("keep alive", .keepAlive minutes)

/-- A task that comes to one operation, whatever the context. -/
inductive CommandLine.Task.IsSingle : Task → Operation → Prop where
  | tone (hz ms volume : UInt32) : IsSingle (.tone hz ms volume) (.tone hz ms volume)
  | led (status : UInt8) : IsSingle (.led status) (.led status)
  | motor (outputs : Outputs) (speed : Int32) :
    IsSingle (.motor outputs speed) (.motor outputs speed)
  | stop (outputs : Outputs) (brake : Bool) :
    IsSingle (.stop (some outputs) brake) (.stop outputs brake)
  | stopAll (brake : Bool) : IsSingle (.stop none brake) .stopAll
  | keepAlive (minutes : UInt8) : IsSingle (.keepAlive minutes) (.keepAlive minutes)

theorem CommandLine.Task.isSingle_of_single? {task : Task} {context : String}
    {operation : Operation} (h : task.single? = some (context, operation)) :
    task.IsSingle operation := by
  cases task with
  | sensor port kind count intervalMs => exact absurd h (by simp [single?])
  | stop outputs brake =>
    cases outputs <;>
      obtain ⟨-, rfl⟩ := Prod.mk.inj (Option.some.inj h) <;>
      constructor
  | _ =>
    obtain ⟨-, rfl⟩ := Prod.mk.inj (Option.some.inj h)
    constructor

/-- No task of a single operation reads a sensor. -/
theorem CommandLine.Task.IsSingle.ne_sensor {task : Task} {operation : Operation}
    (h : task.IsSingle operation) (port : UInt8) (kind : SensorKind) :
    operation ≠ .sensor port kind := by
  cases h <;> simp

/-- The start of every task. -/
def Progress.start (device : Device σ) : Progress σ :=
  ⟨device.initialise.state, [], device.initialise.events.reverse⟩

omit [Transport σ] in
@[simp] theorem Progress.device_start (device : Device σ) :
    (start device).device = device.initialise.state := rfl

/-- **A task that reads no sensor is its one operation**, on the device just initialised. -/
theorem CommandLine.Task.run_of_single {task : Task} {context : String} {operation : Operation}
    (h : task.single? = some (context, operation)) (dryRun : Bool) (device : Device σ) :
    task.run dryRun device = (Progress.start device).order context operation := by
  cases task with
  | sensor port kind count intervalMs => exact absurd h (by simp [single?])
  | stop outputs brake =>
    cases outputs <;>
      simp only [single?, Option.some.injEq, Prod.mk.injEq] at h <;>
      obtain ⟨rfl, rfl⟩ := h <;>
      rfl
  | _ =>
    simp only [single?, Option.some.injEq, Prod.mk.injEq] at h
    obtain ⟨rfl, rfl⟩ := h
    rfl

theorem CommandLine.Task.single?_eq_none_iff {task : Task} :
    task.single? = none ↔ ∃ port kind count intervalMs, task = .sensor port kind count intervalMs := by
  constructor
  · intro h
    cases task with
    | sensor port kind count intervalMs => exact ⟨port, kind, count, intervalMs, rfl⟩
    | stop outputs brake => cases outputs <;> exact absurd h (by simp [single?])
    | _ => exact absurd h (by simp [single?])
  · rintro ⟨port, kind, count, intervalMs, rfl⟩
    rfl

/-! ### Reads in a row -/

namespace Device

variable (device : Device σ) (port : UInt8) (kind : SensorKind)

/-- The device after a number of reads of a sensor, whatever comes of them. -/
def afterReads : Nat → Device σ
  | 0 => device
  | k + 1 => ((afterReads k).perform (.sensor port kind)).state

/-- The read of a sensor that comes after a number of other ones. -/
def readAt (k : Nat) : Outcome (Device σ) Answer :=
  (device.afterReads port kind k).perform (.sensor port kind)

theorem initialised_afterReads (k : Nat) :
    (device.afterReads port kind k).initialised = device.initialised := by
  induction k with
  | zero => rfl
  | succ k ih => exact (initialised_perform _ _).trans ih

end Device

/-- A read that ends readings: it failed, and not for a reply that a dry run has none of. -/
def StopsReading (dryRun : Bool) (result : Except Fault Answer) (fault : Fault) : Prop :=
  result = .error fault ∧ ¬ (fault = .noReply ∧ dryRun = true)

namespace Progress

variable (progress : Progress σ) (port : UInt8) (kind : SensorKind)

/-- The progress after a number of reads. -/
def afterReads : Nat → Progress σ
  | 0 => progress
  | k + 1 => ((afterReads k).perform (.sensor port kind)).2

theorem device_afterReads (k : Nat) :
    (progress.afterReads port kind k).device = progress.device.afterReads port kind k := by
  induction k with
  | zero => rfl
  | succ k ih => rw [afterReads, perform_eq, ih, Device.afterReads]

/-- Reads print the values that they get, in order. -/
theorem printed_afterReads (k : Nat) :
    (progress.afterReads port kind k).printed.reverse = progress.printed.reverse ++
      (List.range k).filterMap fun i => printedLine? (progress.device.readAt port kind i).result := by
  induction k with
  | zero => exact (List.append_nil _).symm
  | succ k ih =>
    rw [afterReads, perform_eq, device_afterReads, List.range_succ, List.filterMap_append,
      ← List.append_assoc, ← ih, List.reverse_append]
    congr 1
    show (printedLine? (progress.device.readAt port kind k).result).toList.reverse = _
    cases hline : printedLine? (progress.device.readAt port kind k).result with
    | none => simp [hline]
    | some line => simp [hline]

variable {progress port kind} {dryRun : Bool}

/-- A read that does not stop the readings leaves the others to be done. -/
theorem readings_succ_of_passing {count : Nat}
    (h : ∀ fault, ¬ StopsReading dryRun (progress.device.perform (.sensor port kind)).result fault) :
    progress.readings dryRun port kind (count + 1) =
      (progress.perform (.sensor port kind)).2.readings dryRun port kind count := by
  rw [readings, perform_eq]
  cases hresult : (progress.device.perform (.sensor port kind)).result with
  | ok answer => rfl
  | error fault =>
    have hmissing : fault = .noReply ∧ dryRun = true :=
      Decidable.not_not.1 fun hreported => h fault ⟨hresult, hreported⟩
    exact if_pos hmissing

/-- **Reads that do not stop the readings are gone through.** -/
theorem readings_of_passing {count : Nat} :
    ∀ j, j ≤ count →
      (∀ k < j, ∀ fault, ¬ StopsReading dryRun (progress.device.readAt port kind k).result fault) →
        progress.readings dryRun port kind count =
          (progress.afterReads port kind j).readings dryRun port kind (count - j) := by
  intro j
  induction j with
  | zero =>
    intro _ _
    rfl
  | succ j ih =>
    intro hj hpass
    have hread : ∀ fault, ¬ StopsReading dryRun
        ((progress.afterReads port kind j).device.perform (.sensor port kind)).result fault := by
      rw [device_afterReads]
      exact hpass j (Nat.lt_succ_self j)
    rw [ih (Nat.le_of_succ_le hj) fun k hk => hpass k (Nat.lt_succ_of_lt hk),
      show count - j = count - (j + 1) + 1 by omega, readings_succ_of_passing hread]
    rfl

/-- **The first read that stops the readings is the last one.** -/
theorem readings_of_stopping {count j : Nat} {fault : Fault} (hj : j < count)
    (hpass : ∀ k < j, ∀ fault,
      ¬ StopsReading dryRun (progress.device.readAt port kind k).result fault)
    (hstop : StopsReading dryRun (progress.device.readAt port kind j).result fault) :
    progress.readings dryRun port kind count =
      ⟨.error ⟨"read " ++ kind.name ++ " on port " ++ toString port, fault⟩,
        progress.afterReads port kind (j + 1)⟩ := by
  obtain ⟨hresult, hreported⟩ := hstop
  rw [readings_of_passing j (Nat.le_of_lt hj) hpass,
    show count - j = count - (j + 1) + 1 by omega, readings]
  have hperform : (progress.afterReads port kind j).perform (.sensor port kind) =
      (.error fault, progress.afterReads port kind (j + 1)) := by
    rw [afterReads, perform_eq, device_afterReads]
    exact Prod.ext (congrArg (Except.map _) hresult) rfl
  rw [hperform]
  exact if_neg hreported

end Progress

end BrickControl
