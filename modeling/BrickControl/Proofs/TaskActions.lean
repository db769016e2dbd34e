import BrickControl.Proofs.AcceptedLines
import BrickControl.Proofs.Readings
import BrickControl.Proofs.RequestForm

/-!
# What tasks make the brick do

The options of a task ask for actions of the brick, and the packets that the task sends tell actions. Over a recorder
the two are compared, for every command line that is accepted: they are the same, but for one task. Stopping
everything has a request of its own, and that has no room for the brake.

* `Action`: what a brick can be told to do, in plain numbers; `Action.read?` reads it out of a packet;
* `Task.actions`: what the options of a task ask for;
* `Device.Tells`: the packets recorded tell these actions, numbered from zero;
* `Task.run_recorder_of_single`: a task of a single operation over a recorder;
* `Task.IsSingle.actions_eq`: what its options ask for is what its request tells;
* `Invocation.obeyed_iff`: which command lines are carried out as they ask.
-/

namespace BrickControl

open CommandLine

/-! ### Actions -/

/-- What a brick can be told to do. -/
inductive Action where
  | tone (hz ms level : Nat)
  | lights (status : UInt8)
  | run (outputs : Outputs) (speed : Int)
  /-- Stop outputs, with the brake or coasting, and the sound too if `silence` is set. -/
  | stop (outputs : Outputs) (brake silence : Bool)
  | read (port : UInt8) (kind : SensorKind)
  | stayAwake (minutes : UInt8)
  deriving DecidableEq, Repr

/-- What a request tells the brick to do. -/
def Request.action : Request → Action
  | .tone hz ms level => .tone hz.toNat ms.toNat level.toNat
  | .led status => .lights status
  | .motor outputs speed => .run outputs speed.toInt
  | .stop outputs brake => .stop outputs brake false
  | .stopAll => .stop Outputs.all false true
  | .keepAlive minutes => .stayAwake minutes
  | .sensor port kind => .read port kind

/-- The counter and the action of a packet. -/
def Action.read? (packet : List UInt8) : Option (UInt16 × Action) :=
  (Request.read? packet).map fun (counter, request) => (counter, request.action)

theorem Action.read?_packet {request : Request} (h : request.Fits) (counter : UInt16) :
    read? (request.packet counter) = some (counter, request.action) := by
  rw [read?, Request.read?_packet h, Option.map_some]

/-- What the options of a task ask for. A tone is cut off at 10 kHz and 32767 ms and has one of 13 levels, rounded
up; a speed goes from -100 to 100; where no outputs are named, all four are stopped, and the sound with them. -/
def CommandLine.Task.actions : Task → List Action
  | .tone hz ms volume =>
    if ms.toNat = 0 ∨ volume.toNat = 0 then []
    else [.tone (min hz.toNat 10000) (min ms.toNat 32767) ((13 * min volume.toNat 100 + 99) / 100)]
  | .led status => [.lights status]
  | .motor outputs speed => [.run outputs (max (-100) (min speed.toInt 100))]
  | .stop outputs brake => [.stop (outputs.getD Outputs.all) brake outputs.isNone]
  | .sensor port kind count _ => List.replicate count.toNat (.read port kind)
  | .keepAlive minutes => [.stayAwake minutes]

/-- The packets recorded tell exactly these actions, numbered from zero. -/
def Device.Tells (device : Device Recorder) (actions : List Action) : Prop :=
  device.link.sent.toList.map Action.read? =
    actions.mapIdx fun k action => some (UInt16.ofNat k, action)

/-- The packets recorded tell one list of actions only. -/
theorem Device.Tells.unique {device : Device Recorder} {actions actions' : List Action}
    (h : device.Tells actions) (h' : device.Tells actions') : actions = actions' := by
  apply List.ext_getElem?
  intro k
  have hsame : (actions.mapIdx fun k action => some (UInt16.ofNat k, action))[k]? =
      (actions'.mapIdx fun k action => some (UInt16.ofNat k, action))[k]? := by
    rw [← h, h']
  rw [List.getElem?_mapIdx, List.getElem?_mapIdx] at hsame
  refine Option.map_injective ?_ hsame
  intro action action' heq
  exact (Prod.mk.inj (Option.some.inj heq)).2

/-! ### Single operations -/

/-- The packet of an operation on a device that was just initialised, if it sends one. -/
def Operation.firstPacket? (operation : Operation) : Option (List UInt8) :=
  operation.request?.map fun request => request.packet 0

/-- **A task of a single operation succeeds over a recorder**, and leaves the packet of its request if that has
one. -/
theorem CommandLine.Task.run_recorder_of_single {task : Task} {context : String}
    {operation : Operation} (h : task.single? = some (context, operation)) (dryRun : Bool)
    (device : Device Recorder) :
    (task.run dryRun device).result = .ok () ∧
      (task.run dryRun device).progress.device.link.sent.toList =
        device.link.sent.toList ++ operation.firstPacket?.toList := by
  rw [task.run_of_single h, Progress.order_eq, Progress.perform_eq]
  rcases device.initialise.state.perform_cases operation with
    ⟨hidle, -⟩ | ⟨-, fault, hplan, -⟩ | ⟨-, hz, ms, volume, hplan, hperform⟩ |
    ⟨-, request, hrequest, hperform⟩ | ⟨-, port, kind, hrequest, -⟩
  · exact absurd hidle (by simp [Device.initialise])
  · obtain ⟨port, kind, hsensor, -⟩ := Operation.plan_eq_refused_iff.1 hplan
    exact absurd hsensor ((Task.isSingle_of_single? h).ne_sensor port kind)
  · rw [Progress.device_start, hperform, Operation.firstPacket?, Operation.request?, hplan]
    exact ⟨rfl, (List.append_nil _).symm⟩
  · rw [Progress.device_start, hperform, Device.order_recorder, Operation.firstPacket?, hrequest]
    exact ⟨rfl, device.link.toList_send _⟩
  · exact absurd (Operation.eq_sensor_of_request? hrequest)
      ((Task.isSingle_of_single? h).ne_sensor port kind)

/-- What the options ask for is what the request tells, unless everything is to be stopped with the brake. -/
theorem CommandLine.Task.IsSingle.actions_eq {task : Task} {operation : Operation}
    (h : task.IsSingle operation) (hbrake : task ≠ .stop none true) :
    task.actions = (operation.request?.map Request.action).toList := by
  cases h with
  | tone hz ms volume =>
    have hzero : (ms = 0 ∨ volume = 0) ↔ (ms.toNat = 0 ∨ volume.toNat = 0) := by
      rw [← UInt32.toNat_inj, ← UInt32.toNat_inj, UInt32.toNat_zero]
    by_cases hsilent : ms.toNat = 0 ∨ volume.toNat = 0
    · rw [actions, if_pos hsilent, Operation.request?, Operation.plan, if_pos (hzero.2 hsilent)]
      rfl
    · rw [actions, if_neg hsilent, Operation.request?, Operation.plan,
        if_neg (mt hzero.1 hsilent)]
      simp only [Option.map_some, Option.toList_some, Request.action, toNat_min, toNat_volumeLevel,
        Nat.ceilDiv_eq_add_pred_div]
      rfl
  | motor outputs speed =>
    rw [actions, ← toInt_clamp]
    rfl
  | stopAll brake =>
    cases brake with
    | false => rfl
    | true => exact absurd rfl hbrake
  | _ => rfl

/-- **A task of a single operation tells the action of its request.** -/
theorem CommandLine.Task.tells_of_single {task : Task} {context : String} {operation : Operation}
    (h : task.single? = some (context, operation)) (dryRun : Bool) :
    (task.run dryRun (Device.new Recorder.empty)).progress.device.Tells
      (operation.request?.map Request.action).toList := by
  rw [Device.Tells, (task.run_recorder_of_single h dryRun _).2, Operation.firstPacket?]
  cases hrequest : operation.request? with
  | none => rfl
  | some request =>
    have hfits := Request.fits_of_asks (Operation.asks_iff.2 hrequest)
    exact congrArg (· :: []) (Action.read?_packet hfits 0)

/-! ### Readings -/

/-- Packets of one request tell its action as many times. -/
theorem Request.map_read?_packets {request : Request} (h : request.Fits) (count : Nat) :
    (request.packets count).map Action.read? =
      (List.replicate count request.action).mapIdx fun k action => some (UInt16.ofNat k, action) := by
  apply List.ext_getElem
  · simp [packets]
  · intro k hk _
    simp [packets, Action.read?_packet h]

/-! ### Command lines -/

/-- **A command line is carried out as it asks, unless it is to stop everything with the brake.** Every accepted
command line succeeds over an empty recorder, readings being a dry run. The packets that it leaves tell the actions
that its options ask for, in order and numbered from zero, and nothing else; but a stop of everything coasts, whether
the brake was asked for or not. -/
theorem CommandLine.Invocation.obeyed_iff {words : List String} {invocation : Invocation}
    (h : parse words = .ok invocation)
    (hdry : ∀ port kind count intervalMs, invocation.task = .sensor port kind count intervalMs →
      invocation.serial.dryRun = true) :
    let outcome := invocation.task.run invocation.serial.dryRun (Device.new Recorder.empty)
    outcome.result = .ok () ∧
      (outcome.progress.device.Tells invocation.task.actions ↔
        invocation.task ≠ .stop none true) ∧
      (invocation.task = .stop none true →
        outcome.progress.device.Tells [.stop Outputs.all false true]) := by
  intro outcome
  cases hsingle : invocation.task.single? with
  | none =>
    obtain ⟨port, kind, count, intervalMs, htask⟩ := Task.single?_eq_none_iff.1 hsingle
    have hrange := Invocation.inRange_of_parse h
    rw [htask] at hrange
    obtain ⟨hresult, -, hpackets⟩ := Task.run_of_unanswered (Device.new Recorder.empty) hrange kind
      count intervalMs rfl
    rw [← htask, ← hdry _ _ _ _ htask] at hresult hpackets
    have hfits : (Request.sensor port kind).Fits :=
      ⟨UInt8.le_iff_toNat_le.1 hrange.1, UInt8.le_iff_toNat_le.1 hrange.2⟩
    have hother : invocation.task ≠ .stop none true := by
      rw [htask]
      simp
    refine ⟨hresult, iff_of_true ?_ hother, fun hstop => absurd hstop hother⟩
    rw [Device.Tells, hpackets, htask]
    exact Request.map_read?_packets hfits count.toNat
  | some pair =>
    obtain ⟨context, operation⟩ := pair
    have htells := invocation.task.tells_of_single hsingle invocation.serial.dryRun
    have hcoasts : invocation.task = .stop none true →
        outcome.progress.device.Tells [.stop Outputs.all false true] := by
      intro hstop
      rw [hstop] at hsingle
      cases Task.isSingle_of_single? hsingle
      exact htells
    refine ⟨(invocation.task.run_recorder_of_single hsingle _ _).1, ⟨?_, ?_⟩, hcoasts⟩
    · -- the packets tell one list of actions only, and the options ask for another
      intro hobeyed hstop
      have hsame := hobeyed.unique (hcoasts hstop)
      rw [hstop] at hsame
      exact absurd hsame (by decide)
    · intro hother
      rw [(Task.isSingle_of_single? hsingle).actions_eq hother]
      exact htells

/-- Three readings in a dry run. -/
theorem CommandLine.Invocation.obeyed_iff_of_three_readings :
    let words := ["sensor", "--port", "2", "--kind", "touch", "--count", "3", "--dry-run"]
    let invocation : Invocation :=
      ⟨false, .sensor 2 .touch 3 100, ⟨"/dev/rfcomm0", 115200, 1000, true⟩⟩
    let outcome := invocation.task.run invocation.serial.dryRun (Device.new Recorder.empty)
    parse words = .ok invocation ∧ outcome.result = .ok () ∧
      outcome.progress.device.Tells [.read 2 .touch, .read 2 .touch, .read 2 .touch] := by
  intro words invocation outcome
  have hparse : parse words = .ok invocation := by decide +kernel
  obtain ⟨hresult, hobeyed, -⟩ := obeyed_iff hparse fun _ _ _ _ _ => rfl
  exact ⟨hparse, hresult, hobeyed.2 (by decide)⟩

/-- To stop everything with the brake, the packet carries 0 for the brake. -/
theorem CommandLine.Invocation.coasts_despite_brake :
    let invocation : Invocation :=
      ⟨false, .stop none true, ⟨"/dev/rfcomm0", 115200, 1000, false⟩⟩
    let outcome := invocation.task.run invocation.serial.dryRun (Device.new Recorder.empty)
    parse ["stop", "--brake"] = .ok invocation ∧ outcome.result = .ok () ∧
      invocation.task.actions = [.stop Outputs.all true true] ∧
      outcome.progress.device.link.sent.toList =
        [[11, 0, 0, 0, 128, 0, 0, 163, 0, 15, 0, 148, 0]] ∧
      outcome.progress.device.Tells [.stop Outputs.all false true] ∧
      ¬ outcome.progress.device.Tells invocation.task.actions := by
  intro invocation outcome
  have hpackets : outcome.progress.device.link.sent.toList =
      [[11, 0, 0, 0, 128, 0, 0, 163, 0, 15, 0, 148, 0]] := by decide +kernel
  refine ⟨by decide +kernel, by decide +kernel, by decide, hpackets, ?_, ?_⟩
  · rw [Device.Tells, hpackets]
    decide +kernel
  · rw [Device.Tells, hpackets]
    decide +kernel

end BrickControl
