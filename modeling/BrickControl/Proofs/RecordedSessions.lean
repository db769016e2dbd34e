import Mathlib.Data.List.Induction
import BrickControl.Proofs.CounterReuse
import BrickControl.Proofs.Recording

/-!
# Sessions over a recorder

Over a recorder nothing goes wrong on the way out. A device that was not initialised, and a sensor port that does
not exist, are found before anything is sent and leave everything as it was; whatever a reading finds wrong with its
reply is found after its packet was recorded. So the packets of a session and its counter do not depend on the
replies: they follow from the steps alone.

* `Fault.IsEarly` and `Operation.IsSilent`: the ways in which an operation sends nothing;
* `Device.HasExactEffect` and `Device.perform_hasExactEffect`: what an operation leaves behind, by what it gives back;
* `RecordedSession.Numbered.step` and `RecordedSession.numbered`: the packets since an initialisation, for one step
  and for a whole session;
* `RecordedSession.exactEffects`: every session, with the effect of whatever step comes next.
-/

namespace BrickControl

/-- The faults that are found before anything is sent. -/
def Fault.IsEarly : Fault → Prop
  | .notInitialised => True
  | .invalidPort _ => True
  | _ => False

/-- What is wrong with a frame is found behind the packet. -/
theorem Reply.not_isEarly_of_parse {frame : List UInt8} {fault : Fault}
    (h : parse frame = .error fault) : ¬ fault.IsEarly := by
  rcases fault_of_parse h with rfl | ⟨declared, actual, rfl⟩ | ⟨kind, rfl⟩
  · exact id
  · exact id
  · exact id

theorem Device.not_isEarly_of_value {counter : UInt16} {reply : Reply} {fault : Fault}
    (h : value counter reply = .error fault) : ¬ fault.IsEarly := by
  rcases fault_of_value h with rfl | rfl | rfl
  · exact id
  · exact id
  · exact id

/-- A tone without duration or volume. -/
def Operation.IsSilent : Operation → Prop
  | .tone _ ms volume => ms = 0 ∨ volume = 0
  | _ => False

theorem Operation.isSilent_iff {operation : Operation} :
    operation.IsSilent ↔ ∃ hz ms volume, operation.plan = .inaudible hz ms volume := by
  cases operation with
  | tone hz ms volume =>
    rw [plan]
    by_cases hsilent : ms = 0 ∨ volume = 0
    · rw [if_pos hsilent]
      exact ⟨fun _ => ⟨hz, ms, volume, rfl⟩, fun _ => hsilent⟩
    · rw [if_neg hsilent]
      constructor
      · intro h
        exact absurd h hsilent
      · rintro ⟨hz', ms', volume', h⟩
        exact absurd h (by simp)
  | sensor port kind =>
    rw [plan]
    split
    · simp [IsSilent]
    · simp [IsSilent]
  | _ => simp [IsSilent, plan]

/-- The request that a step sends on an initialised device, if it sends one. -/
def Step.request? {ε : Type} : Step ε → Option Request
  | .operate operation => operation.request?
  | _ => none

namespace Device

/-! ### One operation -/

/-- What an operation leaves behind of a device over a recorder, by its arguments and by what it gives back. -/
structure HasExactEffect (device : Device Recorder) (operation : Operation)
    (outcome : Outcome (Device Recorder) Answer) : Prop where
  idle : device.initialised = false → outcome.result = .error .notInitialised
  misplaced : device.initialised = true → ∀ port, outcome.result = .error (.invalidPort port) ↔
    ∃ kind, operation = .sensor port kind ∧ ¬ (1 ≤ port ∧ port ≤ 4)
  early : ∀ fault, outcome.result = .error fault → fault.IsEarly → outcome.state = device
  silent : operation.IsSilent → outcome.state = device
  unplayed : operation.IsSilent → device.initialised = true →
    outcome.result = .ok (.played false)
  /-- Every other operation records one packet, whatever comes of it then. -/
  recorded : (∀ fault, outcome.result = .error fault → ¬ fault.IsEarly) →
    ¬ operation.IsSilent → ∃ request, operation.request? = some request ∧
      device.Records request outcome.state
  /-- Only readings take replies. -/
  orders : (∀ port kind, operation ≠ .sensor port kind) →
    outcome.state.link.replies = device.link.replies

variable {device : Device Recorder} {operation : Operation}

/-- A reading whose packet was recorded fails for its reply only. -/
theorem fault_of_readSensor {port : UInt8} {kind : SensorKind} {fault : Fault}
    (h : (device.readSensor port kind).result = .error fault) : ¬ fault.IsEarly := by
  rw [result_readSensor_recorder] at h
  rcases of_reading_error h with hwait | ⟨reply, -, hvalue⟩
  · rcases fault_of_awaitReply hwait with ⟨link, hreceive⟩ | ⟨-, frame, -, hparse⟩
    · obtain rfl := Recorder.fault_of_receive hreceive
      exact id
    · exact Reply.not_isEarly_of_parse hparse
  · exact not_isEarly_of_value hvalue

theorem hasExactEffect_of_idle (hidle : device.initialised = false) :
    device.HasExactEffect operation ⟨.error .notInitialised, device, []⟩ := by
  constructor
  case idle => exact fun _ => rfl
  case misplaced => exact fun hready => absurd hready (Bool.eq_false_iff.1 hidle)
  case early => exact fun _ _ _ => rfl
  case silent => exact fun _ => rfl
  case unplayed => exact fun _ hready => absurd hready (Bool.eq_false_iff.1 hidle)
  case recorded =>
    intro hlate
    exact absurd trivial (hlate .notInitialised rfl)
  case orders => exact fun _ => rfl

theorem hasExactEffect_of_misplaced (hready : device.initialised = true) {port : UInt8}
    (hport : ¬ (1 ≤ port ∧ port ≤ 4)) (kind : SensorKind) :
    device.HasExactEffect (.sensor port kind) ⟨.error (.invalidPort port), device, []⟩ := by
  constructor
  case idle => exact fun hidle => absurd hready (Bool.eq_false_iff.1 hidle)
  case misplaced =>
    intro _ port'
    constructor
    · intro h
      obtain rfl := Fault.invalidPort.inj (Except.error.inj h)
      exact ⟨kind, rfl, hport⟩
    · rintro ⟨kind', hsame, -⟩
      rw [(Operation.sensor.inj hsame).1]
  case early => exact fun _ _ _ => rfl
  case silent => exact False.elim
  case unplayed => exact False.elim
  case recorded =>
    intro hlate
    exact absurd trivial (hlate (.invalidPort port) rfl)
  case orders => exact fun _ => rfl

theorem hasExactEffect_of_silent (hready : device.initialised = true)
    (hsilent : operation.IsSilent) (events : List Event) :
    device.HasExactEffect operation ⟨.ok (.played false), device, events⟩ := by
  constructor
  case idle => exact fun hidle => absurd hready (Bool.eq_false_iff.1 hidle)
  case misplaced =>
    intro _ port
    constructor
    · intro h
      exact absurd h (by simp)
    · rintro ⟨kind, rfl, -⟩
      exact absurd hsilent id
  case early => exact fun _ _ _ => rfl
  case silent => exact fun _ => rfl
  case unplayed => exact fun _ _ => rfl
  case recorded => exact fun _ hheard => absurd hsilent hheard
  case orders => exact fun _ => rfl

/-- An operation with a request is neither silent nor misplaced. -/
theorem hasExactEffect_of_records {outcome : Outcome (Device Recorder) Answer} {request : Request}
    (hready : device.initialised = true) (hrequest : operation.request? = some request)
    (hrecords : device.Records request outcome.state)
    (hlate : ∀ fault, outcome.result = .error fault → ¬ fault.IsEarly)
    (horders : (∀ port kind, operation ≠ .sensor port kind) →
      outcome.state.link.replies = device.link.replies) :
    device.HasExactEffect operation outcome := by
  have hplan := Operation.request?_eq_some_iff.1 hrequest
  have hheard : ¬ operation.IsSilent := by
    intro hsilent
    obtain ⟨hz, ms, volume, hinaudible⟩ := Operation.isSilent_iff.1 hsilent
    rw [hplan] at hinaudible
    exact absurd hinaudible (by simp)
  constructor
  case idle => exact fun hidle => absurd hready (Bool.eq_false_iff.1 hidle)
  case misplaced =>
    intro _ port
    constructor
    · intro h
      exact absurd trivial (hlate _ h)
    · rintro ⟨kind, hsensor, hport⟩
      have hrefused := Operation.plan_eq_refused_iff.2 ⟨port, kind, hsensor, hport, rfl⟩
      rw [hplan] at hrefused
      exact absurd hrefused (by simp)
  case early =>
    intro fault h hearly
    exact absurd hearly (hlate fault h)
  case silent => exact fun hsilent => absurd hsilent hheard
  case unplayed => exact fun hsilent => absurd hsilent hheard
  case recorded => exact fun _ _ => ⟨request, hrequest, hrecords⟩
  case orders => exact horders

/-- **Every operation has its exact effect** on a device over a recorder. -/
theorem perform_hasExactEffect (device : Device Recorder) (operation : Operation) :
    device.HasExactEffect operation (device.perform operation) := by
  rcases device.perform_cases operation with
    ⟨hidle, hperform⟩ | ⟨hready, fault, hplan, hperform⟩ |
    ⟨hready, hz, ms, volume, hplan, hperform⟩ | ⟨hready, request, hrequest, hperform⟩ |
    ⟨hready, port, kind, hrequest, hperform⟩
  · rw [hperform]
    exact hasExactEffect_of_idle hidle
  · obtain ⟨port, kind, rfl, hport, rfl⟩ := Operation.plan_eq_refused_iff.1 hplan
    rw [hperform]
    exact hasExactEffect_of_misplaced hready hport kind
  · rw [hperform]
    exact hasExactEffect_of_silent hready (Operation.isSilent_iff.2 ⟨hz, ms, volume, hplan⟩) _
  · rw [hperform, order_recorder]
    refine hasExactEffect_of_records hready hrequest (device.records_recorded request) ?_ ?_
    · intro fault h
      exact absurd h (by simp)
    · intro _
      rfl
  · rw [hperform]
    refine hasExactEffect_of_records hready hrequest (device.records_readSensor port kind) ?_ ?_
    · intro fault h
      exact fault_of_readSensor h
    · intro hother
      exact absurd (Operation.eq_sensor_of_request? hrequest) (hother port kind)

end Device

/-! ### Sessions -/

namespace RecordedSession

/-- The device after a session with an empty recorder, in which frames are queued from outside. -/
def device (steps : List (Step (List UInt8))) : Device Recorder :=
  Session.after Recorder.pushReply (Device.new Recorder.empty) steps

/-- All packets that a session recorded, in order. -/
def packets (steps : List (Step (List UInt8))) : List (List UInt8) :=
  (device steps).link.sent.toList

/-- The requests of steps, in order. -/
def requests (steps : List (Step (List UInt8))) : List Request := steps.filterMap Step.request?

/-- The packets of requests in a row, numbered from zero. -/
def numberedPackets (requests : List Request) : List (List UInt8) :=
  requests.mapIdx fun k request => request.packet (UInt16.ofNat k)

theorem device_concat (steps : List (Step (List UInt8))) (step : Step (List UInt8)) :
    device (steps ++ [step]) = (step.run Recorder.pushReply (device steps)).state :=
  Session.after_concat Recorder.pushReply (Device.new Recorder.empty) steps step

/-- The `k`-th packet carries the counter `k`, as far as counters go. -/
theorem counter_of_numberedPackets {requests : List Request} {k : Nat} {packet : List UInt8}
    (h : (numberedPackets requests)[k]? = some packet) :
    (packetCounter packet).toNat = k % 65536 := by
  rw [numberedPackets, List.getElem?_mapIdx, Option.map_eq_some_iff] at h
  obtain ⟨request, -, rfl⟩ := h
  rw [packetCounter_packet, UInt16.toNat_ofNat']

/-- Before anyone initialises it, a device has recorded nothing. -/
structure Untouched (device : Device Recorder) : Prop where
  idle : device.initialised = false
  counter : device.counter = 0
  packets : device.link.sent.toList = []

theorem Untouched.step {device : Device Recorder} (h : Untouched device)
    {step : Step (List UInt8)} (hstep : step ≠ .initialise) :
    Untouched (step.run Recorder.pushReply device).state := by
  cases step with
  | initialise => exact absurd rfl hstep
  | outside frame => exact ⟨h.idle, h.counter, h.packets⟩
  | operate operation =>
    have heffect := device.perform_hasExactEffect operation
    rw [Step.run, heffect.early _ (heffect.idle h.idle) trivial]
    exact h

theorem untouched {steps : List (Step (List UInt8))} (h : .initialise ∉ steps) :
    Untouched (device steps) := by
  induction steps using List.reverseRecOn with
  | nil => exact ⟨rfl, rfl, rfl⟩
  | append_singleton steps step ih =>
    rw [List.mem_append, not_or, List.mem_singleton] at h
    rw [device_concat]
    exact (ih h.1).step fun heq => h.2 heq.symm

/-- A device that was initialised when some packets had been recorded, and has had requests since. -/
structure Numbered (before : List (List UInt8)) (requests : List Request)
    (device : Device Recorder) : Prop where
  ready : device.initialised = true
  counter : device.counter = UInt16.ofNat requests.length
  packets : device.link.sent.toList = before ++ numberedPackets requests

/-- **Every step numbers on**: a request takes the next number, and nothing else takes one. -/
theorem Numbered.step {before : List (List UInt8)} {requests : List Request}
    {device : Device Recorder} (h : Numbered before requests device)
    {step : Step (List UInt8)} (hstep : step ≠ .initialise) :
    Numbered before (requests ++ step.request?.toList)
      (step.run Recorder.pushReply device).state := by
  cases step with
  | initialise => exact absurd rfl hstep
  | outside frame =>
    rw [show (Step.outside frame).request?.toList = [] from rfl, List.append_nil]
    exact ⟨h.ready, h.counter, h.packets⟩
  | operate operation =>
    rcases device.perform_recorder operation with ⟨hsame, hnone⟩ | ⟨request, -, hrequest, hrecords⟩
    · rw [show (Step.operate operation).request? = none from hnone h.ready, Option.toList_none,
        List.append_nil, Step.run, hsame]
      exact h
    · rw [show (Step.operate operation).request? = some request from hrequest,
        Option.toList_some]
      refine ⟨hrecords.initialised.trans h.ready, ?_, ?_⟩
      · rw [Step.run, hrecords.counter_succ h.counter, List.length_append, List.length_singleton]
      · rw [Step.run, hrecords.packets, h.packets, h.counter, List.append_assoc,
          numberedPackets, numberedPackets, List.mapIdx_concat]

/-- **The packets since an initialisation** are those of the requests since, numbered from zero. -/
theorem numbered (earlier : List (Step (List UInt8))) {later : List (Step (List UInt8))}
    (h : .initialise ∉ later) :
    Numbered (packets earlier) (requests later) (device (earlier ++ .initialise :: later)) := by
  -- induction on the steps since the initialisation: the last one numbers on
  induction later using List.reverseRecOn with
  | nil =>
    rw [device_concat]
    exact ⟨rfl, rfl, (List.append_nil _).symm⟩
  | append_singleton later step ih =>
    rw [List.mem_append, not_or, List.mem_singleton] at h
    rw [← List.cons_append, ← List.append_assoc, device_concat, requests, List.filterMap_append]
    have hstep := (ih h.1).step fun heq => h.2 heq.symm
    cases step <;> exact hstep

theorem packets_prefix_concat (steps : List (Step (List UInt8))) (step : Step (List UInt8)) :
    packets steps <+: packets (steps ++ [step]) := by
  rw [packets, packets, device_concat]
  cases step with
  | initialise => exact List.prefix_refl _
  | outside frame => exact List.prefix_refl _
  | operate operation =>
    rcases (device steps).perform_recorder operation with ⟨hsame, -⟩ | ⟨request, -, -, hrecords⟩
    · simp only [Step.run, hsame, List.prefix_refl]
    · rw [Step.run, hrecords.packets]
      exact List.prefix_append _ _

/-- Packets already recorded never change. -/
theorem packets_prefix (steps later : List (Step (List UInt8))) :
    packets steps <+: packets (steps ++ later) := by
  induction later using List.reverseRecOn with
  | nil => simp only [List.append_nil, List.prefix_refl]
  | append_singleton later step ih =>
    rw [← List.append_assoc]
    exact ih.trans (packets_prefix_concat (steps ++ later) step)

/-- What a session did, and what each step does after it. -/
structure HasExactEffects (steps : List (Step (List UInt8))) : Prop where
  /-- Before the first initialisation every operation is refused. -/
  refused : .initialise ∉ steps → ∀ operation,
    ((device steps).perform operation).result = .error .notInitialised
  operation : ∀ operation,
    (device steps).HasExactEffect operation ((device steps).perform operation)
  initialise : device (steps ++ [.initialise]) = ⟨(device steps).link, 0, true⟩
  /-- A reply that comes in waits behind the others. -/
  reply : ∀ frame, ∃ link, device (steps ++ [.outside frame]) = { device steps with link := link } ∧
    link.sent = (device steps).link.sent ∧
    link.replies.toList = (device steps).link.replies.toList ++ [frame]
  /-- Since the last initialisation there is one packet for each request. -/
  sinceInitialised : ∀ earlier later, steps = earlier ++ .initialise :: later →
    .initialise ∉ later → ∃ recorded, packets steps = packets earlier ++ recorded ∧
      recorded = numberedPackets (requests later) ∧
      (∀ k packet, recorded[k]? = some packet → (packetCounter packet).toNat = k % 65536) ∧
      (device steps).counter.toNat = recorded.length % 65536
  kept : ∀ later, packets steps <+: packets (steps ++ later)

/-- **Exact effects of whole sessions.** -/
theorem exactEffects (steps : List (Step (List UInt8))) : HasExactEffects steps := by
  refine ⟨?_, ?_, ?_, ?_, ?_, packets_prefix steps⟩
  · intro h operation
    exact ((device steps).perform_hasExactEffect operation).idle (untouched h).idle
  · intro operation
    exact (device steps).perform_hasExactEffect operation
  · exact device_concat steps .initialise
  · intro frame
    exact ⟨(device steps).link.pushReply frame, device_concat steps (.outside frame), rfl,
      (device steps).link.toList_pushReply frame⟩
  · rintro earlier later rfl h
    have hnumbered := numbered earlier h
    refine ⟨numberedPackets (requests later), hnumbered.packets, rfl, ?_, ?_⟩
    · intro k packet hpacket
      exact counter_of_numberedPackets hpacket
    · rw [hnumbered.counter, numberedPackets, List.length_mapIdx, UInt16.toNat_ofNat']

/-- Two packets since the second initialisation. A reading after them finds a reply of one byte, and has recorded its
packet all the same. -/
theorem exactEffects_of_broken_reply :
    let earlier : List (Step (List UInt8)) :=
      [.operate .stopAll, .initialise, .operate (.led 1), .outside [9]]
    let later : List (Step (List UInt8)) := [.operate .stopAll, .operate (.tone 440 0 50),
      .operate (.sensor 0 .touch), .operate (.keepAlive 5)]
    let steps := earlier ++ .initialise :: later
    packets steps = packets earlier ++ numberedPackets [.stopAll, .keepAlive 5] ∧
      (device steps).counter.toNat = 2 ∧
      ((device steps).perform (.sensor 1 .touch)).result = .error (.shortReply 1) ∧
      (device steps).Records (.sensor 1 .touch)
        ((device steps).perform (.sensor 1 .touch)).state := by
  intro earlier later steps
  have heffects := exactEffects steps
  obtain ⟨recorded, hpackets, hrecorded, -, hcounter⟩ :=
    heffects.sinceInitialised earlier later rfl (by decide)
  have hrequests : requests later = [.stopAll, .keepAlive 5] := by decide
  have hresult : ((device steps).perform (.sensor 1 .touch)).result = .error (.shortReply 1) := by
    decide +kernel
  rw [hrequests] at hrecorded
  refine ⟨hrecorded ▸ hpackets, ?_, hresult, ?_⟩
  · rw [hcounter, hrecorded]
    rfl
  · have hlate : ∀ fault, ((device steps).perform (.sensor 1 .touch)).result = .error fault →
        ¬ fault.IsEarly := by
      intro fault h
      obtain rfl := Except.error.inj (hresult.symm.trans h)
      exact id
    obtain ⟨request, hrequest, hrecords⟩ :=
      (heffects.operation (.sensor 1 .touch)).recorded hlate id
    obtain rfl := Option.some.inj hrequest
    exact hrecords

end RecordedSession

end BrickControl
