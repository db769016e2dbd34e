import BrickControl.Proofs.LineReading
import BrickControl.Proofs.Metered
import BrickControl.Proofs.RecordedSessions
import BrickControl.Proofs.TaskActions

/-!
# Faults that no command line can cause

A device refuses operations before it was initialised, and sensor ports that do not exist. The program initialises its
device first, and its options let only four ports through, so it never meets these two refusals, over whatever
connection it runs. Nor does it ever address no output at all: a set of outputs that can be made is never empty, and
its mask goes to the brick as it is.

* `NeverEarly`: a transport whose own faults are others than these two; recorders, serial lines and metered connections
  are such transports;
* `Device.fault_of_perform` and `Task.fault_of_run`: what operations and tasks do not fail for;
* `Packet.addressed`: the masks behind the op codes of motors in a packet;
* `Outputs.Obtainable.isAddressed`: sets of outputs that can be made are addressed as they are;
* `Invocation.isBlameless`: accepted command lines.
-/

namespace BrickControl

open CommandLine

/-! ### Transports that never fail early -/

/-- The faults of a transport are none of those that are found before anything is sent. -/
structure NeverEarly (σ : Type) [Transport σ] : Prop where
  send : ∀ (link : σ) packet fault, (Transport.send link packet).result = .error fault →
    ¬ fault.IsEarly
  receive : ∀ (link : σ) fault, (Transport.receive link).result = .error fault → ¬ fault.IsEarly

theorem Recorder.neverEarly : NeverEarly Recorder := by
  constructor
  · intro link packet fault h
    exact absurd h (by simp [Transport.send, Recorder.send])
  · intro link fault h
    obtain rfl := fault_of_receive h
    exact id

theorem Line.neverEarly : NeverEarly Line := by
  constructor
  · intro line packet fault h
    obtain ⟨cause, rfl⟩ := fault_of_send h
    exact id
  · intro line fault h
    obtain ⟨cause, rfl⟩ := fault_of_receive h
    exact id

structure Connection.NeverEarly {σ : Type} (connection : Connection σ) : Prop where
  send : ∀ state packet fault, (connection.send state packet).result = .error fault →
    ¬ fault.IsEarly
  receive : ∀ state fault, (connection.receive state).result = .error fault → ¬ fault.IsEarly

namespace Metered

variable {σ : Type} {connection : Connection σ}

theorem neverEarly (h : connection.NeverEarly) : NeverEarly (Metered connection) := by
  constructor
  · intro link packet fault hsend
    exact h.send link.state packet fault hsend
  · intro link fault hreceive
    change link.receive.result = .error fault at hreceive
    unfold receive at hreceive
    split at hreceive
    · obtain rfl := Except.error.inj hreceive
      exact id
    · exact h.receive link.state fault hreceive

end Metered

/-! ### Operations -/

section Operations

variable {σ : Type} [Transport σ] {device : Device σ} {fault : Fault}

variable (hlink : NeverEarly σ)
include hlink

/-- **An initialised device fails early for its arguments only.** -/
theorem Device.fault_of_perform (hready : device.initialised = true) {operation : Operation}
    (hplan : ∀ refusal, operation.plan ≠ .refused refusal)
    (h : (device.perform operation).result = .error fault) : ¬ fault.IsEarly := by
  cases Device.origin_of_fault h with
  | idle hidle => exact absurd hready (Bool.eq_false_iff.1 hidle)
  | refused hrefused => exact absurd hrefused (hplan fault)
  | unsent packet hsend => exact hlink.send _ _ _ hsend
  | unreceived link hreceive => exact hlink.receive _ _ hreceive
  | unparsed link frame hframe hparse => exact Reply.not_isEarly_of_parse hparse
  | unanswered reply hvalue => exact Device.not_isEarly_of_value hvalue

/-! ### Tasks -/

/-- **A task in range never fails early**, over whatever is left of a device. -/
theorem CommandLine.Task.fault_of_run {task : Task} (hrange : task.InRange) {dryRun : Bool}
    {failure : Failure} (h : (task.run dryRun device).result = .error failure) :
    ¬ failure.fault.IsEarly := by
  cases hsingle : task.single? with
  | some pair =>
    obtain ⟨context, operation⟩ := pair
    rw [task.run_of_single hsingle, Progress.order_eq] at h
    have hplan : ∀ refusal, operation.plan ≠ .refused refusal := by
      intro refusal hrefused
      obtain ⟨port, kind, hsensor, -⟩ := Operation.plan_eq_refused_iff.1 hrefused
      exact (Task.isSingle_of_single? hsingle).ne_sensor port kind hsensor
    cases hresult : ((Progress.start device).device.perform operation).result with
    | ok answer =>
      rw [hresult] at h
      exact absurd h (by simp [Except.mapError, Except.map])
    | error fault =>
      rw [hresult] at h
      obtain rfl := Except.error.inj h
      exact Device.fault_of_perform hlink rfl hplan hresult
  | none =>
    -- readings fail for the read that ended them, and that read had a port in range
    obtain ⟨port, kind, count, intervalMs, rfl⟩ := Task.single?_eq_none_iff.1 hsingle
    obtain ⟨performed, result, hends⟩ := exists_readsEnd dryRun
      (fun k => ((Progress.start device).device.readAt port kind k).result) count.toNat
    rw [show (Task.sensor port kind count intervalMs).run dryRun device = _ from
      (Progress.start device).readings_of_readsEnd hends] at h
    cases hends with
    | all hpass => exact absurd h (by simp [Except.mapError])
    | stopped hj hpass hstop =>
      obtain rfl := Except.error.inj h
      have hport : 1 ≤ port ∧ port ≤ 4 := hrange
      have hplan : ∀ refusal, (Operation.sensor port kind).plan ≠ .refused refusal := by
        intro refusal
        rw [Operation.plan, if_pos hport]
        simp
      exact Device.fault_of_perform hlink
        ((Progress.start device).device.initialised_afterReads port kind _) hplan hstop.1

end Operations

/-! ### The masks of packets -/

/-- The masks behind the op codes of motors in a packet. A speed has the outputs once more, to start them. -/
def Packet.addressed (packet : List UInt8) : List UInt8 :=
  match packet.drop 7 with
  | op :: _ :: mask :: rest =>
    if op = Bytecode.opOutputStop then [mask]
    else if op = Bytecode.opOutputSpeed then mask :: (rest.drop 4).take 1
    else []
  | _ => []

/-- The outputs that a request addresses. -/
def Request.outputs? : Request → Option Outputs
  | .motor outputs _ => some outputs
  | .stop outputs _ => some outputs
  | .stopAll => some Outputs.all
  | _ => none

/-- The outputs that a call addresses. -/
def Operation.outputs? : Operation → Option Outputs
  | .motor outputs _ => some outputs
  | .stop outputs _ => some outputs
  | .stopAll => some Outputs.all
  | _ => none

theorem Request.drop_packet (request : Request) (counter : UInt16) :
    (request.packet counter).drop 7 = (request.command counter).body := rfl

/-- Short constants of a mask are the mask itself. -/
theorem Outputs.bytes_mask (outputs : Outputs) :
    (Request.short outputs.mask).bytes = [outputs.mask] := by
  have hmask := outputs.mask_le
  exact (Param.encode_of_isPlain (Request.isPlain_short (by omega))).trans (by simp)

theorem Packet.addressed_of_other {packet rest : List UInt8} {op : UInt8}
    (h : packet.drop 7 = op :: rest) (hstop : op ≠ Bytecode.opOutputStop)
    (hspeed : op ≠ Bytecode.opOutputSpeed) : addressed packet = [] := by
  rw [addressed, h]
  split
  · rename_i op' layer mask rest' hsame
    obtain rfl := (List.cons.inj hsame).1
    rw [if_neg hstop, if_neg hspeed]
  · rfl

theorem Packet.addressed_motor (outputs : Outputs) (speed : Int32) (counter : UInt16) :
    addressed ((Request.motor outputs speed).packet counter) = [outputs.mask, outputs.mask] := by
  have hbody : ((Request.motor outputs speed).command counter).body =
      [Bytecode.opOutputSpeed, 0, outputs.mask, Bytecode.tagByte, speed.toInt8.toUInt8,
        Bytecode.opOutputStart, 0, outputs.mask] := by
    simp only [Command.body, Request.command, Request.codes, Request.motors, List.cons_append,
      List.nil_append, List.flatMap_cons, outputs.bytes_mask]
    rfl
  rw [addressed, Request.drop_packet, hbody]
  rfl

theorem Packet.addressed_stop (outputs : Outputs) (brake : Bool) (counter : UInt16) :
    addressed ((Request.stop outputs brake).packet counter) = [outputs.mask] := by
  have hbody : ((Request.stop outputs brake).command counter).body =
      [Bytecode.opOutputStop, 0, outputs.mask] ++
        (Request.short (if brake then 1 else 0)).bytes := by
    simp only [Command.body, Request.command, Request.codes, Request.motors, List.cons_append,
      List.nil_append, List.flatMap_cons, outputs.bytes_mask]
    rfl
  rw [addressed, Request.drop_packet, hbody]
  rfl

/-- **A packet addresses the outputs of its request**, and no others. -/
theorem Request.mem_addressed_iff {request : Request} {counter : UInt16} {mask : UInt8} :
    mask ∈ Packet.addressed (request.packet counter) ↔
      ∃ outputs, request.outputs? = some outputs ∧ mask = outputs.mask := by
  cases request with
  | motor outputs speed => simp [Packet.addressed_motor, outputs?]
  | stop outputs brake => simp [Packet.addressed_stop, outputs?]
  | stopAll =>
    rw [show Packet.addressed (stopAll.packet counter) = [Outputs.all.mask] from rfl]
    simp [outputs?]
  | _ =>
    rw [Packet.addressed_of_other rfl (by decide) (by decide)]
    simp [outputs?]

theorem Operation.Asks.outputs?_eq {operation : Operation} {request : Request}
    (h : operation.Asks request) : request.outputs? = operation.outputs? := by
  cases h <;> rfl

/-! ### Sets of outputs -/

/-- A set of outputs that the brick is told as it is. -/
structure Outputs.IsAddressed (outputs : Outputs) : Prop where
  range : 1 ≤ outputs.mask.toNat ∧ outputs.mask.toNat ≤ 15
  encoding : (Param.lc0 outputs.mask.toInt8).encode = [outputs.mask]
  union : ∀ other : Outputs, (outputs.union other).mask = outputs.mask ||| other.mask
  /-- The packets of calls on these outputs address them, and no others. -/
  packets : ∀ (operation : Operation) (request : Request) (counter : UInt16),
    operation.outputs? = some outputs → operation.Asks request →
      ∀ mask, mask ∈ Packet.addressed (request.packet counter) ↔ mask = outputs.mask

theorem Outputs.Obtainable.range {outputs : Outputs} (h : outputs.Obtainable) :
    1 ≤ outputs.mask.toNat ∧ outputs.mask.toNat ≤ 15 :=
  ⟨mask_pos h.ne_empty, outputs.mask_le⟩

/-- **Whatever set of outputs can be made is addressed as it is.** -/
theorem Outputs.Obtainable.isAddressed {outputs : Outputs} (h : outputs.Obtainable) :
    outputs.IsAddressed := by
  refine ⟨h.range, outputs.bytes_mask, outputs.mask_union, ?_⟩
  intro operation request counter houtputs hasks mask
  rw [Request.mem_addressed_iff, hasks.outputs?_eq, houtputs]
  constructor
  · rintro ⟨outputs', hsame, rfl⟩
    rw [Option.some.inj hsame]
  · rintro rfl
    exact ⟨outputs, rfl, rfl⟩

/-! ### Accepted command lines -/

/-- A tone without duration or volume. -/
def CommandLine.Task.IsSilent : Task → Prop
  | .tone _ ms volume => ms = 0 ∨ volume = 0
  | _ => False

/-- A task that meets no fault of its own making: it never fails early, and over a recorder it leaves what it should,
which never addresses motors that are none. -/
structure CommandLine.Task.IsBlameless (task : Task) : Prop where
  late : ∀ (σ : Type) [Transport σ], NeverEarly σ → ∀ dryRun (device : Device σ) failure,
    (task.run dryRun device).result = .error failure → ¬ failure.fault.IsEarly
  /-- The same where frames may come in without end. -/
  unbounded : ∀ (σ : Type) (connection : Connection σ), connection.NeverEarly →
    ∀ dryRun (device : Device (Metered connection)) failure,
      (task.run dryRun device).result = .error failure → ¬ failure.fault.IsEarly
  /-- Whatever replies wait, a task that reads no sensor succeeds and records one packet, or none for a silent tone. -/
  recorded : (∀ port kind count intervalMs, task ≠ .sensor port kind count intervalMs) →
    ∀ dryRun (device : Device Recorder),
      (task.run dryRun device).result = .ok () ∧
      ∃ packets, (task.run dryRun device).progress.device.link.sent.toList =
          device.link.sent.toList ++ packets ∧
        (task.IsSilent → packets = []) ∧
        (¬ task.IsSilent → packets.length = 1) ∧
        ∀ packet ∈ packets, ∀ mask ∈ Packet.addressed packet, 1 ≤ mask.toNat ∧ mask.toNat ≤ 15

section Single

variable {task : Task} {operation : Operation} (h : task.IsSingle operation)
include h

/-- Only a silent tone sends nothing. -/
theorem CommandLine.Task.IsSingle.isSilent_iff : task.IsSilent ↔ operation.request? = none := by
  cases h with
  | tone hz ms volume =>
    rw [Operation.request?, Operation.plan]
    by_cases hsilent : ms = 0 ∨ volume = 0
    · rw [if_pos hsilent]
      exact iff_of_true hsilent rfl
    · rw [if_neg hsilent]
      exact iff_of_false hsilent (by simp)
  | _ => exact iff_of_false id (by simp [Operation.request?, Operation.plan])

/-- A task in range addresses outputs that can be made. -/
theorem CommandLine.Task.IsSingle.obtainable (hrange : task.InRange) {outputs : Outputs}
    (houtputs : operation.outputs? = some outputs) : outputs.Obtainable := by
  cases h with
  | motor outputs' speed => exact Option.some.inj houtputs ▸ hrange
  | stop outputs' brake => exact Option.some.inj houtputs ▸ hrange
  | stopAll brake => exact Option.some.inj houtputs ▸ .all
  | _ => exact absurd houtputs (by simp [Operation.outputs?])

end Single

theorem CommandLine.Task.InRange.isBlameless {task : Task} (hrange : task.InRange) :
    task.IsBlameless := by
  constructor
  case late =>
    intro σ _ hlink dryRun device failure hrun
    exact Task.fault_of_run hlink hrange hrun
  case unbounded =>
    intro σ connection hconnection dryRun device failure hrun
    exact Task.fault_of_run (Metered.neverEarly hconnection) hrange hrun
  case recorded =>
    intro hother dryRun device
    cases hsingle : task.single? with
    | none =>
      obtain ⟨port, kind, count, intervalMs, htask⟩ := Task.single?_eq_none_iff.1 hsingle
      exact absurd htask (hother port kind count intervalMs)
    | some pair =>
      obtain ⟨context, operation⟩ := pair
      obtain ⟨hresult, hpackets⟩ := task.run_recorder_of_single hsingle dryRun device
      refine ⟨hresult, operation.firstPacket?.toList, hpackets, ?_⟩
      rw [(Task.isSingle_of_single? hsingle).isSilent_iff, Operation.firstPacket?]
      cases hrequest : operation.request? with
      | none => exact ⟨fun _ => rfl, fun hsome => absurd rfl hsome, by simp⟩
      | some request =>
        refine ⟨by simp, fun _ => rfl, ?_⟩
        intro packet hpacket mask hmask
        rw [Option.map_some, Option.toList_some, List.mem_singleton] at hpacket
        rw [hpacket, Request.mem_addressed_iff,
          (Operation.asks_iff.2 hrequest).outputs?_eq] at hmask
        obtain ⟨outputs, houtputs, rfl⟩ := hmask
        exact ((Task.isSingle_of_single? hsingle).obtainable hrange houtputs).range

/-- **No command line causes a fault of its own making.** Every accepted command line is blameless, over recorders,
serial lines and every other connection; and every set of outputs that can be made is addressed as it is. -/
theorem commandLines_blameless :
    (∀ words invocation, Invocation.parse words = .ok invocation →
      invocation.task.IsBlameless) ∧
    (∀ outputs : Outputs, outputs.Obtainable → outputs.IsAddressed) ∧
    NeverEarly Recorder ∧ NeverEarly Line := by
  refine ⟨?_, fun outputs h => h.isAddressed, Recorder.neverEarly, Line.neverEarly⟩
  intro words invocation h
  exact (Invocation.inRange_of_parse h).isBlameless

/-- Readings over a connection that answers with late replies for ever, and outputs that were put together. -/
theorem commandLines_blameless_of_late_replies :
    let connection : Connection Unit :=
      ⟨fun _ _ => ⟨.ok (), (), []⟩, fun _ => ⟨.ok [3, 0, 255, 255, 2], (), []⟩⟩
    let device : Device (Metered connection) := Device.new ⟨(), 5⟩
    let invocation : Invocation :=
      ⟨false, .sensor 4 .gyro 2 100, ⟨"/dev/rfcomm0", 115200, 1000, false⟩⟩
    let outputs := (Outputs.only .b).union (Outputs.only .d)
    Invocation.parse ["sensor", "--port", "4", "--kind", "gyro", "--count", "2"] =
        .ok invocation ∧
      connection.NeverEarly ∧
      (invocation.task.run false device).result =
        .error ⟨"read gyro on port 4", .line .brokenPipe⟩ ∧
      ¬ (Fault.line .brokenPipe).IsEarly ∧
      outputs.mask = 10 ∧ outputs.IsAddressed := by
  intro connection device invocation outputs
  have hparse : Invocation.parse ["sensor", "--port", "4", "--kind", "gyro", "--count", "2"] =
      .ok invocation := by decide +kernel
  have hconnection : connection.NeverEarly :=
    ⟨fun _ _ _ h => absurd h (by simp [connection]), fun _ _ h => absurd h (by simp [connection])⟩
  have hrun : (invocation.task.run false device).result =
      .error ⟨"read gyro on port 4", .line .brokenPipe⟩ := by decide +kernel
  obtain ⟨htasks, houtputs, -⟩ := commandLines_blameless
  exact ⟨hparse, hconnection, hrun,
    (htasks _ _ hparse).unbounded Unit connection hconnection false device _ hrun, by decide,
    houtputs outputs (.union (.only .b) (.only .d))⟩

end BrickControl
