import Mathlib.Data.List.Basic
import BrickControl.Proofs.Recording
import BrickControl.Proofs.Tasks

/-!
# The readings of a sensor task

Over a recorder every read of a sensor leaves its packet, whatever comes of it, and takes what it needs off the
replies that wait. A task of many readings goes through the reads up to the first one that stops it; what it sends,
prints and gives back are those of these reads, put together.

* `ReadsEnd`: after how many reads a task ends, and with what; `exists_readsEnd`: it does end;
* `Device.packets_afterReads`: reads send one request again and again, numbered from the device's counter on;
* `Device.unanswered_afterReads`: without replies every read misses its own;
* `Device.size_afterReads`: reads that get a value take one reply each at the least;
* `Task.exists_fold` and `Task.run_of_unanswered`: a sensor task over a recorder, and a dry run without replies;
* `Task.foldsReads`: all that such a task comes to.
-/

namespace BrickControl

open CommandLine

/-! ### The end of readings -/

/-- After how many reads readings end, and with what fault if with any. -/
inductive ReadsEnd (dryRun : Bool) (read : Nat → Except Fault Answer) (count : Nat) :
    Nat → Except Fault Unit → Prop where
  /-- No read stops them. -/
  | all (hpass : ∀ k < count, ∀ fault, ¬ StopsReading dryRun (read k) fault) :
    ReadsEnd dryRun read count count (.ok ())
  /-- The first read that stops them is the last one. -/
  | stopped {j : Nat} {fault : Fault} (hj : j < count)
      (hpass : ∀ k < j, ∀ fault, ¬ StopsReading dryRun (read k) fault)
      (hstop : StopsReading dryRun (read j) fault) :
    ReadsEnd dryRun read count (j + 1) (.error fault)

theorem stops_or_passes (dryRun : Bool) (result : Except Fault Answer) :
    (∃ fault, StopsReading dryRun result fault) ∨ ∀ fault, ¬ StopsReading dryRun result fault := by
  cases result with
  | ok answer => exact .inr fun fault h => absurd h.1 (by simp)
  | error fault =>
    by_cases hmissing : fault = .noReply ∧ dryRun = true
    · refine .inr fun fault' h => h.2 ?_
      rw [← Except.error.inj h.1]
      exact hmissing
    · exact .inl ⟨fault, rfl, hmissing⟩

theorem exists_readsEnd (dryRun : Bool) (read : Nat → Except Fault Answer) (count : Nat) :
    ∃ performed result, ReadsEnd dryRun read count performed result := by
  induction count with
  | zero => exact ⟨0, .ok (), .all fun k hk => absurd hk (Nat.not_lt_zero k)⟩
  | succ count ih =>
    obtain ⟨performed, result, hends⟩ := ih
    cases hends with
    | stopped hj hpass hstop => exact ⟨_, _, .stopped (Nat.lt_succ_of_lt hj) hpass hstop⟩
    | all hpass =>
      rcases stops_or_passes dryRun (read count) with ⟨fault, hstop⟩ | hlast
      · exact ⟨_, _, .stopped (Nat.lt_succ_self count) hpass hstop⟩
      · refine ⟨_, _, .all fun k hk => ?_⟩
        rcases Nat.lt_succ_iff_lt_or_eq.1 hk with hlt | rfl
        · exact hpass k hlt
        · exact hlast

/-- What a task is left with, by the end of its readings. -/
theorem Progress.readings_of_readsEnd {σ : Type} [Transport σ] (progress : Progress σ)
    {port : UInt8} {kind : SensorKind} {dryRun : Bool} {count performed : Nat}
    {result : Except Fault Unit}
    (h : ReadsEnd dryRun (fun k => (progress.device.readAt port kind k).result) count performed
      result) :
    progress.readings dryRun port kind count =
      ⟨result.mapError (Failure.mk ("read " ++ kind.name ++ " on port " ++ toString port)),
        progress.afterReads port kind performed⟩ := by
  cases h with
  | all hpass =>
    rw [readings_of_passing count (Nat.le_refl count) hpass, Nat.sub_self]
    rfl
  | stopped hj hpass hstop => exact readings_of_stopping hj hpass hstop

namespace Device

/-! ### Reads over a recorder -/

variable {device : Device Recorder} (hready : device.initialised = true) {port : UInt8}
  (hport : 1 ≤ port ∧ port ≤ 4) (kind : SensorKind)
include hready hport

theorem readAt_eq_readSensor (k : Nat) :
    device.readAt port kind k = (device.afterReads port kind k).readSensor port kind :=
  perform_sensor ((device.initialised_afterReads port kind k).trans hready) hport kind

theorem records_readAt (k : Nat) :
    (device.afterReads port kind k).Records (.sensor port kind)
      (device.afterReads port kind (k + 1)) := by
  rw [afterReads, ← readAt, readAt_eq_readSensor hready hport]
  exact (device.afterReads port kind k).records_readSensor port kind

theorem counter_afterReads (k : Nat) :
    (device.afterReads port kind k).counter = device.counter + UInt16.ofNat k := by
  induction k with
  | zero => exact (UInt16.add_zero _).symm
  | succ k ih =>
    rw [(records_readAt hready hport kind k).counter, ih, UInt16.ofNat_add, UInt16.add_assoc]
    rfl

/-- **Reads send one request again and again**, under one counter after the other. -/
theorem packets_afterReads (k : Nat) :
    (device.afterReads port kind k).link.sent.toList = device.link.sent.toList ++
      (List.range k).map fun i =>
        (Request.sensor port kind).packet (device.counter + UInt16.ofNat i) := by
  induction k with
  | zero => exact (List.append_nil _).symm
  | succ k ih =>
    rw [(records_readAt hready hport kind k).packets, ih, counter_afterReads hready hport,
      List.range_succ, List.map_append, List.append_assoc]
    rfl

theorem replies_afterReads (k : Nat) :
    (device.afterReads port kind k).link.replies.toList <:+ device.link.replies.toList := by
  induction k with
  | zero => exact List.suffix_refl _
  | succ k ih => exact (records_readAt hready hport kind k).replies.trans ih

/-- **Without replies every read misses its own.** -/
theorem unanswered_afterReads (h : device.link.replies.toList = []) (k : Nat) :
    (device.readAt port kind k).result = .error .noReply := by
  have hnone : (device.afterReads port kind k).link.replies.toList = [] := by
    have hsuffix := replies_afterReads hready hport kind k
    rw [h] at hsuffix
    exact List.suffix_nil.1 hsuffix
  rw [readAt_eq_readSensor hready hport, result_readSensor_recorder]
  generalize hlink : ((device.afterReads port kind k).recorded (.sensor port kind)).link = link
  have hwaiting : link.replies.toList = [] := by
    rw [← hlink]
    exact hnone
  have hreceive : (Transport.receive link).result = .error .noReply :=
    congrArg Outcome.result (Recorder.receive_of_nil hwaiting)
  rw [awaitReply_of_error hreceive]
  rfl

/-- A read that gets a value takes a reply at the least. -/
theorem size_readAt {k : Nat} {value : Single}
    (h : (device.readAt port kind k).result = .ok (.reading value)) :
    (device.afterReads port kind (k + 1)).link.replies.size <
      (device.afterReads port kind k).link.replies.size := by
  rw [readAt_eq_readSensor hready hport, result_readSensor_recorder] at h
  obtain ⟨reply, hwait, -⟩ := of_reading_ok h
  rw [afterReads, ← readAt, readAt_eq_readSensor hready hport, state_readSensor_recorder]
  exact pending_awaitReply hwait

/-- **Reads that get their values take as many replies.** -/
theorem size_afterReads {k : Nat}
    (h : ∀ i < k, ∃ value, (device.readAt port kind i).result = .ok (.reading value)) :
    (device.afterReads port kind k).link.replies.size + k ≤ device.link.replies.size := by
  induction k with
  | zero => exact Nat.le_refl _
  | succ k ih =>
    obtain ⟨value, hvalue⟩ := h k (Nat.lt_succ_self k)
    have hfewer := size_readAt hready hport kind hvalue
    have hbefore := ih fun i hi => h i (Nat.lt_succ_of_lt hi)
    omega

/-- A read gives a value or a fault. -/
theorem result_readAt (k : Nat) :
    (∃ value, (device.readAt port kind k).result = .ok (.reading value)) ∨
      ∃ fault, (device.readAt port kind k).result = .error fault := by
  rw [readAt_eq_readSensor hready hport, result_readSensor_recorder]
  generalize (awaitReply (device.afterReads port kind k).counter
    ((device.afterReads port kind k).recorded (.sensor port kind)).link).result = received
  cases received with
  | error fault => exact .inr ⟨fault, rfl⟩
  | ok reply =>
    simp only [Except.bind]
    cases value (device.afterReads port kind k).counter reply with
    | error fault => exact .inr ⟨fault, rfl⟩
    | ok x => exact .inl ⟨x, rfl⟩

end Device

/-! ### Sensor tasks -/

/-- The packets of one request sent a number of times, numbered from zero. -/
def Request.packets (request : Request) (count : Nat) : List (List UInt8) :=
  (List.range count).map fun i => request.packet (UInt16.ofNat i)

/-- What a task of many readings leaves, on a device that was just initialised over a recorder. -/
structure FoldsReads (device : Device Recorder) (port : UInt8) (kind : SensorKind) (count : Nat)
    (dryRun : Bool) (outcome : TaskOutcome Recorder) : Prop where
  /-- The task goes through the reads up to the first one that stops it. It leaves one packet of each and prints the
  values that they got, and its fault is that of the last one if that stopped it. -/
  fold : ∃ performed result,
    ReadsEnd dryRun (fun k => (device.readAt port kind k).result) count performed result ∧
      outcome.result = result.mapError
        (Failure.mk ("read " ++ kind.name ++ " on port " ++ toString port)) ∧
      outcome.progress.device = device.afterReads port kind performed ∧
      outcome.progress.device.link.sent.toList =
        device.link.sent.toList ++ (Request.sensor port kind).packets performed ∧
      outcome.progress.printed.reverse = (List.range performed).filterMap fun k =>
        printedLine? (device.readAt port kind k).result
  /-- A dry run without replies sends every request, prints nothing and succeeds. -/
  unanswered : dryRun = true → device.link.replies.toList = [] →
    outcome.result = .ok () ∧ outcome.progress.printed = [] ∧
      outcome.progress.device.link.sent.toList =
        device.link.sent.toList ++ (Request.sensor port kind).packets count
  /-- Otherwise a task succeeds only if every read got a value. -/
  answered : dryRun = false → (outcome.result = .ok () ↔
    ∀ k < count, ∃ value, (device.readAt port kind k).result = .ok (.reading value))
  short : dryRun = false → device.link.replies.size < count →
    ∃ failure, outcome.result = .error failure

section Ends

variable {device : Device Recorder} (hready : device.initialised = true) {port : UInt8}
  (hport : 1 ≤ port ∧ port ≤ 4) (kind : SensorKind) {count performed : Nat} {dryRun : Bool}
  {result : Except Fault Unit}
include hready hport

/-- Without replies no read stops a dry run. -/
theorem ReadsEnd.of_unanswered (h : device.link.replies.toList = [])
    (hends : ReadsEnd true (fun k => (device.readAt port kind k).result) count performed result) :
    performed = count ∧ result = .ok () := by
  cases hends with
  | all hpass => exact ⟨rfl, rfl⟩
  | stopped hj hpass hstop =>
    rename_i j fault
    have hmissing := Device.unanswered_afterReads hready hport kind h j
    exact absurd ⟨Except.error.inj (hstop.1.symm.trans hmissing), rfl⟩ hstop.2

theorem ReadsEnd.ok_iff_answered
    (hends : ReadsEnd false (fun k => (device.readAt port kind k).result) count performed result) :
    result = .ok () ↔
      ∀ k < count, ∃ value, (device.readAt port kind k).result = .ok (.reading value) := by
  cases hends with
  | all hpass =>
    refine ⟨fun _ k hk => ?_, fun _ => rfl⟩
    rcases Device.result_readAt hready hport kind k with hvalue | ⟨fault, hfault⟩
    · exact hvalue
    · exact absurd ⟨hfault, by simp⟩ (hpass k hk fault)
  | stopped hj hpass hstop =>
    refine ⟨fun h => absurd h (by simp), fun h => ?_⟩
    obtain ⟨value, hvalue⟩ := h _ hj
    rw [hstop.1] at hvalue
    exact absurd hvalue (by simp)

end Ends

namespace CommandLine.Task

variable (device : Device Recorder) {port : UInt8} (hport : 1 ≤ port ∧ port ≤ 4)
  (kind : SensorKind) (count : UInt32) (intervalMs : UInt64)
include hport

/-- A sensor task is its readings up to their end. -/
theorem exists_fold (dryRun : Bool) : ∃ performed result,
    ReadsEnd dryRun (fun k => (device.initialise.state.readAt port kind k).result) count.toNat
      performed result ∧
    ((Task.sensor port kind count intervalMs).run dryRun device).result = result.mapError
      (Failure.mk ("read " ++ kind.name ++ " on port " ++ toString port)) ∧
    ((Task.sensor port kind count intervalMs).run dryRun device).progress.device =
      device.initialise.state.afterReads port kind performed ∧
    ((Task.sensor port kind count intervalMs).run dryRun device).progress.device.link.sent.toList =
      device.link.sent.toList ++ (Request.sensor port kind).packets performed ∧
    ((Task.sensor port kind count intervalMs).run dryRun device).progress.printed.reverse =
      (List.range performed).filterMap fun k =>
        printedLine? (device.initialise.state.readAt port kind k).result := by
  let ready := device.initialise.state
  have hready : ready.initialised = true := rfl
  obtain ⟨performed, result, hends⟩ :=
    exists_readsEnd dryRun (fun k => (ready.readAt port kind k).result) count.toNat
  have hrun : (Task.sensor port kind count intervalMs).run dryRun device = _ :=
    (Progress.start device).readings_of_readsEnd hends
  have hdevice : ((Progress.start device).afterReads port kind performed).device =
      ready.afterReads port kind performed :=
    (Progress.start device).device_afterReads port kind performed
  have hpackets : (ready.afterReads port kind performed).link.sent.toList =
      device.link.sent.toList ++ (Request.sensor port kind).packets performed := by
    rw [Device.packets_afterReads hready hport kind performed, Request.packets]
    simp only [show ready.counter = 0 from rfl, UInt16.zero_add]
    rfl
  rw [hrun]
  exact ⟨performed, result, hends, rfl, hdevice, hdevice ▸ hpackets,
    (Progress.start device).printed_afterReads port kind performed⟩

/-- **A dry run without replies sends every request**, prints nothing and succeeds. -/
theorem run_of_unanswered (h : device.link.replies.toList = []) :
    ((Task.sensor port kind count intervalMs).run true device).result = .ok () ∧
      ((Task.sensor port kind count intervalMs).run true device).progress.printed = [] ∧
      ((Task.sensor port kind count intervalMs).run true device).progress.device.link.sent.toList =
        device.link.sent.toList ++ (Request.sensor port kind).packets count.toNat := by
  obtain ⟨performed, result, hends, hresult, -, hpackets, hprinted⟩ :=
    exists_fold device hport kind count intervalMs true
  have hready : device.initialise.state.initialised = true := rfl
  obtain ⟨rfl, rfl⟩ := hends.of_unanswered hready hport kind h
  refine ⟨hresult, ?_, hpackets⟩
  rw [← List.reverse_eq_nil_iff, hprinted, List.filterMap_eq_nil_iff]
  intro k _
  rw [Device.unanswered_afterReads hready hport kind h k]
  rfl

/-- **A sensor task is the fold of its reads**, over a recorder with whatever replies wait. -/
theorem foldsReads (dryRun : Bool) :
    FoldsReads device.initialise.state port kind count.toNat dryRun
      ((Task.sensor port kind count intervalMs).run dryRun device) := by
  obtain ⟨performed, result, hends, hresult, hdevice, hpackets, hprinted⟩ :=
    exists_fold device hport kind count intervalMs dryRun
  have hready : device.initialise.state.initialised = true := rfl
  constructor
  case fold => exact ⟨performed, result, hends, hresult, hdevice, hpackets, hprinted⟩
  case unanswered =>
    rintro rfl hnone
    exact run_of_unanswered device hport kind count intervalMs hnone
  case answered =>
    rintro rfl
    rw [hresult, ← hends.ok_iff_answered hready hport kind]
    cases result <;> simp [Except.mapError]
  case short =>
    rintro rfl hfew
    cases result with
    | error fault => exact ⟨_, hresult⟩
    | ok done =>
      have hvalues := (hends.ok_iff_answered hready hport kind).1 rfl
      have hsize := Device.size_afterReads hready hport kind hvalues
      omega

end CommandLine.Task

/-- Three readings, of which the second one is refused behind a late reply. -/
theorem CommandLine.Task.foldsReads_of_refusal :
    let replies := [[7, 0, 0, 0, 2, 0, 0, 128, 63], [7, 0, 0, 0, 2, 0, 0, 0, 64], [3, 0, 1, 0, 4]]
    let device := Device.new (replies.foldl Recorder.pushReply Recorder.empty)
    let outcome := (Task.sensor 2 .touch 3 0).run false device
    ((1 : UInt8) ≤ 2 ∧ (2 : UInt8) ≤ 4) ∧
      FoldsReads device.initialise.state 2 .touch 3 false outcome ∧
      outcome.result = .error ⟨"read touch on port 2", .replyError 1⟩ ∧
      outcome.progress.printed = ["1"] ∧
      outcome.progress.device.link.sent.toList =
        [(Request.sensor 2 .touch).packet 0, (Request.sensor 2 .touch).packet 1] := by
  intro replies device outcome
  have hport : (1 : UInt8) ≤ 2 ∧ (2 : UInt8) ≤ 4 := by decide
  have hfolds := Task.foldsReads device hport .touch 3 0 false
  exact ⟨hport, hfolds, by decide +kernel, by decide +kernel, by decide +kernel⟩

end BrickControl
