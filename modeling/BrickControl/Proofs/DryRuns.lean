import BrickControl.Proofs.TaskActions
import BrickControl.Proofs.WireLog

/-!
# What a dry run prints

A dry run sends to a recorder, and prints what was recorded when the task is over. Nothing answers a recorder, so a
task prints nothing itself: what stands in the output are the packets, one dump a line. A dump is read back as its
bytes, and so the output is as good as the packets.

* `Progress.Mirrors` and `Task.run_mirrors`: on its way a task tells of the packets that it sends, by induction on its
  reads;
* `Task.requests` and `Task.run_dry`: the packets of a dry run, by the options of its task;
* `Task.PrintsSent` and `Program.dry_runs_print_packets`: the output of every dry run, read back.
-/

namespace BrickControl

open CommandLine

/-! ### What a task tells on its way -/

namespace Progress

/-- The events so far tell of the packets recorded so far. -/
def Mirrors (progress : Progress Recorder) : Prop :=
  Event.Mirror progress.events.reverse progress.device.link.sent.toList

variable {progress : Progress Recorder} (h : progress.Mirrors)
include h

theorem Mirrors.perform (operation : Operation) : (progress.perform operation).2.Mirrors := by
  obtain ⟨packets, hpackets, hevents⟩ := progress.device.perform_mirrorsPackets operation
  rw [perform_eq, Mirrors, List.reverse_append, List.reverse_reverse, hpackets]
  exact h.append hevents

theorem Mirrors.afterReads (port : UInt8) (kind : SensorKind) (k : Nat) :
    (progress.afterReads port kind k).Mirrors := by
  induction k with
  | zero => exact h
  | succ k ih => exact ih.perform (.sensor port kind)

end Progress

/-- **Every task tells of the packets that it sends.** -/
theorem CommandLine.Task.run_mirrors (task : Task) (dryRun : Bool) :
    (task.run dryRun (Device.new Recorder.empty)).progress.Mirrors := by
  let start := Progress.start (Device.new Recorder.empty)
  have hstart : start.Mirrors := rfl
  cases hsingle : task.single? with
  | some pair =>
    rw [task.run_of_single hsingle, Progress.order_eq]
    exact hstart.perform pair.2
  | none =>
    obtain ⟨port, kind, count, intervalMs, rfl⟩ := Task.single?_eq_none_iff.1 hsingle
    obtain ⟨performed, result, hends⟩ :=
      exists_readsEnd dryRun (fun k => (start.device.readAt port kind k).result) count.toNat
    have hrun : (Task.sensor port kind count intervalMs).run dryRun (Device.new Recorder.empty) = _ :=
      start.readings_of_readsEnd hends
    rw [hrun]
    exact hstart.afterReads port kind performed

/-! ### The packets of a dry run -/

/-- An operation that reads no sensor has no value to print. -/
theorem Device.printedLine?_perform (device : Device Recorder) {operation : Operation}
    (h : ∀ port kind, operation ≠ .sensor port kind) :
    printedLine? (device.perform operation).result = none := by
  unfold printedLine?
  split
  · rename_i value hresult
    obtain ⟨port, kind, hsensor, -⟩ := (device.perform_logsOutcome operation).value value hresult
    exact absurd hsensor (h port kind)
  · rfl

theorem Request.packets_eq_numberedPackets (request : Request) (count : Nat) :
    request.packets count = RecordedSession.numberedPackets (List.replicate count request) := by
  apply List.ext_getElem
  · simp [packets, RecordedSession.numberedPackets]
  · intro k _ _
    simp [packets, RecordedSession.numberedPackets]

namespace CommandLine.Task

/-- The requests that a task makes while nothing answers. -/
def requests : Task → List Request
  | .sensor port kind count _ => List.replicate count.toNat (.sensor port kind)
  | task => (task.single?.bind fun single => single.2.request?).toList

theorem requests_of_single {task : Task} {context : String} {operation : Operation}
    (h : task.single? = some (context, operation)) :
    task.requests = operation.request?.toList := by
  cases task with
  | sensor port kind count intervalMs => exact absurd h (by simp [single?])
  | _ => simp only [requests, h, Option.bind_some]

/-- What a task leaves in a dry run. -/
def dryOutcome (task : Task) : TaskOutcome Recorder := task.run true (Device.new Recorder.empty)

/-- The packets that a task sends in a dry run, in order. -/
def drySent (task : Task) : List (List UInt8) := task.dryOutcome.progress.device.link.sent.toList

/-- **A dry run sends the packets of its requests**, numbered from zero, and the task prints nothing. -/
theorem run_dry {task : Task} (h : task.InRange) :
    task.dryOutcome.progress.printed = [] ∧
      task.drySent = RecordedSession.numberedPackets task.requests := by
  unfold drySent dryOutcome
  cases hsingle : task.single? with
  | none =>
    obtain ⟨port, kind, count, intervalMs, rfl⟩ := single?_eq_none_iff.1 hsingle
    obtain ⟨-, hprinted, hsent⟩ :=
      run_of_unanswered (Device.new Recorder.empty) h kind count intervalMs rfl
    exact ⟨hprinted, hsent.trans (Request.packets_eq_numberedPackets _ _)⟩
  | some pair =>
    obtain ⟨context, operation⟩ := pair
    have hother := (isSingle_of_single? hsingle).ne_sensor
    constructor
    · rw [task.run_of_single hsingle, Progress.order_eq, Progress.perform_eq,
        Device.printedLine?_perform _ hother]
      rfl
    · rw [(task.run_recorder_of_single hsingle true _).2, requests_of_single hsingle,
        Operation.firstPacket?]
      cases operation.request? with
      | none => rfl
      | some request => rfl

/-! ### The output of a dry run -/

/-- The program printed the packets that the task sends in a dry run, and nothing else. -/
structure PrintsSent (task : Task) (transcript : Transcript) : Prop where
  /-- The lines, read back, are the packets in the order sent. -/
  lines : transcript.stdout.map (fun line => Hex.read? line.toList) = task.drySent.map some
  /-- What is printed as one line is one line. -/
  unbroken : ∀ line ∈ transcript.stdout, '\n' ∉ line.toList
  /-- There is one packet for each request, numbered from zero. -/
  requested : task.drySent = RecordedSession.numberedPackets task.requests
  /-- The packets are those that the device reported when it sent them. -/
  reported : List.Forall₂ Event.TellsSending
    (task.dryOutcome.progress.events.reverse.filter (Event.shows .debug "send")) task.drySent
  /-- Nothing is left in the recorder. -/
  drained : task.dryOutcome.progress.device.link.drain.2.sentCount = 0

end CommandLine.Task

namespace Program

theorem run_of_dryRun {host : Host} {words : List String} {invocation : Invocation}
    (h : Invocation.parse words = .ok invocation) (hdry : invocation.serial.dryRun = true) :
    run host words = dryRun (filter host invocation.verbose) invocation.task := by
  rw [run, h]
  exact if_pos hdry

theorem stdout_dryRun (chosen : LogFilter) {task : Task} (h : task.InRange) :
    (dryRun chosen task).stdout = task.drySent.map Hex.text := by
  show task.dryOutcome.progress.printed.reverse ++ task.drySent.map Hex.text = _
  rw [(Task.run_dry h).1, List.reverse_nil, List.nil_append]

theorem dryRun_printsSent (chosen : LogFilter) {task : Task} (h : task.InRange) :
    task.PrintsSent (dryRun chosen task) := by
  have hstdout := stdout_dryRun chosen h
  constructor
  case lines =>
    rw [hstdout, List.map_map]
    refine List.map_congr_left ?_
    intro packet _
    exact Hex.read?_text packet
  case unbroken =>
    intro line hline
    rw [hstdout] at hline
    obtain ⟨packet, -, rfl⟩ := List.mem_map.1 hline
    rw [Hex.toList_text]
    exact Hex.newline_notMem_dump packet
  case requested => exact (Task.run_dry h).2
  case reported => exact (task.run_mirrors true).sendings
  case drained => rfl

/-- **A dry run prints its packets, and a reader has them back.** Every dump has two upper-case digits for each byte
and single spaces between them; a reader of this form recovers the bytes of every dump and reads no other text, and
different bytes have different dumps. So the lines that a dry run prints, whatever command line was accepted, are the
packets that it sent, in order and one a line. -/
theorem dry_runs_print_packets :
    (∀ bytes, Hex.IsDump bytes (Hex.text bytes).toList) ∧
      (∀ text bytes, Hex.read? text = some bytes ↔ Hex.IsDump bytes text) ∧
      Function.Injective Hex.text ∧
      ∀ host words invocation, Invocation.parse words = .ok invocation →
        invocation.serial.dryRun = true → invocation.task.PrintsSent (run host words) := by
  refine ⟨?_, ?_, Hex.text_injective, ?_⟩
  · intro bytes
    rw [Hex.toList_text]
    exact Hex.isDump_dump bytes
  · intro text bytes
    rw [Hex.read?_eq_some_iff, Hex.isDump_iff]
  · intro host words invocation h hdry
    rw [run_of_dryRun h hdry]
    exact dryRun_printsSent _ (Invocation.inRange_of_parse h)

/-- Two readings in a dry run. -/
theorem dry_runs_print_packets_of_two_readings :
    let host : Host := ⟨none, fun device => .error device⟩
    let words := ["sensor", "--port", "2", "--kind", "touch", "--count", "2", "--dry-run"]
    let invocation : Invocation :=
      ⟨false, .sensor 2 .touch 2 100, ⟨"/dev/rfcomm0", 115200, 1000, true⟩⟩
    Invocation.parse words = .ok invocation ∧ invocation.serial.dryRun = true ∧
      (run host words).stdout.map (fun line => Hex.read? line.toList) =
        [some [13, 0, 0, 0, 0, 4, 0, 0x99, 0x1D, 0, 1, 16, 0, 1, 0x60],
          some [13, 0, 1, 0, 0, 4, 0, 0x99, 0x1D, 0, 1, 16, 0, 1, 0x60]] := by
  intro host words invocation
  have hparse : Invocation.parse words = .ok invocation := by decide +kernel
  obtain ⟨-, -, -, hprints⟩ := dry_runs_print_packets
  have hlines := (hprints host words invocation hparse rfl).lines
  have hsent : invocation.task.drySent =
      [[13, 0, 0, 0, 0, 4, 0, 0x99, 0x1D, 0, 1, 16, 0, 1, 0x60],
        [13, 0, 1, 0, 0, 4, 0, 0x99, 0x1D, 0, 1, 16, 0, 1, 0x60]] := by decide +kernel
  exact ⟨hparse, rfl, hlines.trans (congrArg (List.map some) hsent)⟩

end Program

end BrickControl
