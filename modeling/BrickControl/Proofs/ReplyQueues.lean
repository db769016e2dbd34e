import Mathlib.Data.List.DropRight
import BrickControl.Proofs.Recording
import BrickControl.Proofs.ReplyFormat

/-!
# Readings from a queue of frames

Any frames may wait at a recorder: replies to earlier packets, replies to packets that were never sent, frames that
are none of a reply. A reading passes over the frames in front that answer a packet less than half a circle of
counters before its own, and the first other frame decides, whatever was passed over. It takes these frames and no
more; where every frame is passed over there is no reply.

* `Reply.lag` is the distance of two counters as a number, `Reply.isPassedOver` says which frames are passed over and
  `Reply.passed` how many stand in front;
* `Reply.decides` is what the first other frame makes of the reading;
* `Device.awaitReply_recorder`: the wait for a reply in these terms, by induction on the queue;
* `Device.ReadsQueue`: the whole effect of a reading;
* `Device.first_other_frame_decides`: every reading of an initialised device has this effect.
-/

namespace BrickControl

namespace Reply

/-! ### Frames that are passed over -/

/-- By how many packets the counter `got` is behind `counter`, as far as counters tell. -/
def lag (counter got : UInt16) : Int := ((counter.toNat : Int) - got.toNat) % 65536

/-- A reply that is behind by less than half a circle, but not level. -/
def isPassedOver (counter : UInt16) (frame : List UInt8) : Bool :=
  match parse frame with
  | .ok reply => decide (1 ≤ lag counter reply.counter ∧ lag counter reply.counter ≤ 32767)
  | .error _ => false

/-- The number of frames in front of a queue that are passed over. -/
def passed (counter : UInt16) (queue : List (List UInt8)) : Nat :=
  (queue.takeWhile (isPassedOver counter)).length

/-- What is reported of a frame that is passed over. -/
def lateReport (counter : UInt16) (frame : List UInt8) : Option Event :=
  match parse frame with
  | .ok reply => some (.lateReply counter reply.counter)
  | .error _ => none

/-- What a frame that is not passed over makes of a reading: the faults of a frame come first, then another counter,
then a refusal, and then too short a payload; the value is in the first four bytes. -/
def decides (counter : UInt16) (frame : List UInt8) : Except Fault Answer :=
  match parse frame with
  | .error fault => .error fault
  | .ok reply =>
    if reply.counter ≠ counter then .error (.counterMismatch counter reply.counter)
    else if reply.status = .error then .error (.replyError counter)
    else if reply.payload.length < 4 then .error (.shortReply reply.payload.length)
    else .ok (.reading (Single.ofBytes (reply.payload.take 4)))

theorem lag_eq (counter got : UInt16) : lag counter got = (counter - got).toNat := by
  have hcounter := counter.toNat_lt
  have hgot := got.toNat_lt
  rw [UInt16.toNat_sub, lag]
  omega

theorem isLate_iff_lag {reply : Reply} {counter : UInt16} :
    reply.isLate counter = true ↔
      1 ≤ lag counter reply.counter ∧ lag counter reply.counter ≤ 32767 := by
  rw [isLate_iff, lag_eq]
  omega

/-- Counters that differ are some way apart. -/
theorem lag_pos {counter got : UInt16} (h : got ≠ counter) : 1 ≤ lag counter got := by
  have hcounter := counter.toNat_lt
  have hgot := got.toNat_lt
  have hne : got.toNat ≠ counter.toNat := fun heq => h (UInt16.toNat_inj.1 heq)
  rw [lag]
  omega

section Frames

variable {counter : UInt16} {frame : List UInt8}

theorem isPassedOver_of_ok {reply : Reply} (h : parse frame = .ok reply) :
    isPassedOver counter frame = reply.isLate counter := by
  rw [Bool.eq_iff_iff, isLate_iff_lag, isPassedOver, h]
  exact decide_eq_true_iff

theorem isPassedOver_of_error {fault : Fault} (h : parse frame = .error fault) :
    isPassedOver counter frame = false := by
  rw [isPassedOver, h]

/-- A device checks a reply in this order. -/
theorem value_eq (counter : UInt16) (reply : Reply) :
    Device.value counter reply =
      if reply.counter ≠ counter then .error (.counterMismatch counter reply.counter)
      else if reply.status = .error then .error (.replyError counter)
      else if reply.payload.length < 4 then .error (.shortReply reply.payload.length)
      else .ok (Single.ofBytes (reply.payload.take 4)) := by
  unfold Device.value expectOk
  by_cases hcounter : reply.counter = counter
  · rw [if_pos hcounter, if_neg (not_not_intro hcounter)]
    cases hstatus : reply.status with
    | error => simp only [hcounter, if_true]
    | ok =>
      simp only [single, Nat.zero_add, List.drop_zero]
      by_cases hshort : reply.payload.length < 4
      · rw [if_neg (Nat.not_le_of_lt hshort), if_neg (by simp), if_pos hshort]
      · rw [if_pos (Nat.le_of_not_lt hshort), if_neg (by simp), if_neg hshort]
  · rw [if_neg hcounter, if_pos hcounter]

theorem decides_eq (counter : UInt16) (frame : List UInt8) :
    ((parse frame).bind fun reply => (Device.value counter reply).map Answer.reading) =
      decides counter frame := by
  unfold decides
  cases parse frame with
  | error fault => rfl
  | ok reply =>
    show (Device.value counter reply).map Answer.reading = _
    simp only [value_eq, apply_ite (Except.map Answer.reading)]
    rfl

theorem of_decides_mismatch {expected got : UInt16}
    (h : decides counter frame = .error (.counterMismatch expected got)) :
    ∃ reply, parse frame = .ok reply ∧ reply.counter = got ∧ got ≠ counter ∧ expected = counter := by
  unfold decides at h
  cases hparse : parse frame with
  | error fault =>
    rw [hparse] at h
    rcases fault_of_parse hparse with rfl | ⟨declared, actual, rfl⟩ | ⟨kind, rfl⟩
    · exact absurd h (by simp)
    · exact absurd h (by simp)
    · exact absurd h (by simp)
  | ok reply =>
    simp only [hparse] at h
    split at h
    · rename_i hcounter
      obtain ⟨rfl, rfl⟩ := Fault.counterMismatch.inj (Except.error.inj h)
      exact ⟨reply, rfl, rfl, hcounter, rfl⟩
    · split at h
      · exact absurd h (by simp)
      · split at h
        · exact absurd h (by simp)
        · exact absurd h (by simp)

theorem of_decides_reading {x : Single} (h : decides counter frame = .ok (.reading x)) :
    ∃ reply, parse frame = .ok reply ∧ reply.counter = counter ∧ reply.status = .ok ∧
      x.bytes = reply.payload.take 4 ∧ x.bytes.length = 4 := by
  unfold decides at h
  cases hparse : parse frame with
  | error fault =>
    rw [hparse] at h
    exact absurd h (by simp)
  | ok reply =>
    simp only [hparse] at h
    split at h
    · exact absurd h (by simp)
    · rename_i hcounter
      split at h
      · exact absurd h (by simp)
      · rename_i hstatus
        split at h
        · exact absurd h (by simp)
        · rename_i hshort
          obtain rfl := Answer.reading.inj (Except.ok.inj h)
          have hfour : (reply.payload.take 4).length = 4 := by
            rw [List.length_take]
            omega
          refine ⟨reply, rfl, Decidable.not_not.1 hcounter, ?_, Single.bytes_ofBytes hfour, ?_⟩
          · cases hreply : reply.status with
            | ok => rfl
            | error => exact absurd hreply hstatus
          · rw [Single.bytes_ofBytes hfour, hfour]

end Frames

/-! ### Queues -/

section Queues

variable (counter : UInt16) (queue : List (List UInt8))

theorem drop_passed : queue.drop (passed counter queue) = queue.dropWhile (isPassedOver counter) := by
  have hsplit : queue.takeWhile (isPassedOver counter) ++ queue.dropWhile (isPassedOver counter) =
    queue := List.takeWhile_append_dropWhile
  calc queue.drop (passed counter queue)
      = (queue.takeWhile (isPassedOver counter) ++
          queue.dropWhile (isPassedOver counter)).drop (passed counter queue) := by rw [hsplit]
    _ = queue.dropWhile (isPassedOver counter) := List.drop_left

theorem head?_dropWhile : (queue.dropWhile (isPassedOver counter)).head? =
    queue[passed counter queue]? := by
  rw [← drop_passed, List.head?_drop]

theorem tail_dropWhile : (queue.dropWhile (isPassedOver counter)).tail =
    queue.drop (passed counter queue + 1) := by
  rw [← drop_passed, List.tail_drop]

variable {counter queue}

/-- The first frame behind those passed over is not passed over. -/
theorem isPassedOver_of_next {frame : List UInt8} (h : queue[passed counter queue]? = some frame) :
    isPassedOver counter frame = false := by
  have hnext := List.head?_dropWhile_not (isPassedOver counter) queue
  rw [head?_dropWhile, h] at hnext
  exact hnext

end Queues

end Reply

namespace Device

open Reply

/-! ### Waiting -/

/-- **A wait passes over frames as long as they are late**; the first other frame is read, and the rest waits on. -/
theorem awaitReply_recorder (counter : UInt16) (queue : List (List UInt8)) :
    ∀ {link : Recorder}, link.replies.toList = queue →
      (awaitReply counter link).result =
        (queue.dropWhile (isPassedOver counter)).head?.elim (.error .noReply) parse ∧
      (awaitReply counter link).state.replies.toList =
        (queue.dropWhile (isPassedOver counter)).tail ∧
      (awaitReply counter link).events =
        (queue.takeWhile (isPassedOver counter)).filterMap (lateReport counter) := by
  -- induction on the queue: a late frame leads to the wait for the frames behind it
  induction queue with
  | nil =>
    intro link hlink
    have hreceive : Transport.receive link = ⟨.error .noReply, link, []⟩ :=
      Recorder.receive_of_nil hlink
    have hawait : awaitReply counter link = _ :=
      awaitReply_of_error (congrArg Outcome.result hreceive)
    rw [hawait, hreceive]
    exact ⟨rfl, hlink, rfl⟩
  | cons frame later ih =>
    intro link hlink
    obtain ⟨rest, hreceive, hrest⟩ := Recorder.receive_of_cons hlink
    have hframe : (Transport.receive link).result = .ok frame := congrArg Outcome.result hreceive
    have hafter : (Transport.receive link).state = { link with replies := rest } :=
      congrArg Outcome.state hreceive
    have hevents : (Transport.receive link).events = [] := congrArg Outcome.events hreceive
    cases hparse : parse frame with
    | error fault =>
      have hother : ¬ isPassedOver counter frame = true := by
        rw [isPassedOver_of_error hparse]
        exact Bool.false_ne_true
      have hawait : awaitReply counter link = _ := awaitReply_of_unparsed hframe hparse
      rw [hawait, hafter, hevents, List.dropWhile_cons_of_neg hother,
        List.takeWhile_cons_of_neg hother]
      exact ⟨hparse.symm, hrest, rfl⟩
    | ok reply =>
      have hpassed : isPassedOver counter frame = reply.isLate counter := isPassedOver_of_ok hparse
      cases hlate : reply.isLate counter with
      | false =>
        have hother : ¬ isPassedOver counter frame = true := by
          rw [hpassed, hlate]
          exact Bool.false_ne_true
        have hawait : awaitReply counter link = _ := awaitReply_of_timely hframe hparse hlate
        rw [hawait, hafter, hevents, List.dropWhile_cons_of_neg hother,
          List.takeWhile_cons_of_neg hother]
        exact ⟨hparse.symm, hrest, rfl⟩
      | true =>
        have hawait : awaitReply counter link = _ := awaitReply_of_late hframe hparse hlate
        obtain ⟨hresult, hreplies, hreports⟩ :=
          ih (show ({ link with replies := rest } : Recorder).replies.toList = later from hrest)
        rw [hawait, hafter, hevents, List.dropWhile_cons_of_pos (hpassed.trans hlate),
          List.takeWhile_cons_of_pos (hpassed.trans hlate)]
        refine ⟨hresult, hreplies, ?_⟩
        show _ :: _ = _
        rw [hreports, List.filterMap_cons_some (by rw [lateReport, hparse])]

/-! ### Readings -/

/-- The effect of a reading on a device over a recorder, by the frames that wait there. -/
structure ReadsQueue (device : Device Recorder) (port : UInt8) (kind : SensorKind)
    (outcome : Outcome (Device Recorder) Answer) : Prop where
  /-- One packet is sent, the request under the device's counter. -/
  packet : outcome.state.link.sent.toList =
    device.link.sent.toList ++ [(Request.sensor port kind).packet device.counter]
  counter : outcome.state.counter = device.counter + 1
  initialised : outcome.state.initialised = device.initialised
  /-- Where every frame is passed over there is no reply, and no frame is left. -/
  unanswered : passed device.counter device.link.replies.toList = device.link.replies.toList.length →
    outcome.result = .error .noReply ∧ outcome.state.link.replies.toList = []
  /-- The first other frame decides, and those behind it wait on. -/
  decided : ∀ frame,
    device.link.replies.toList[passed device.counter device.link.replies.toList]? = some frame →
    outcome.result = decides device.counter frame ∧ outcome.state.link.replies.toList =
      device.link.replies.toList.drop (passed device.counter device.link.replies.toList + 1)
  /-- A reply to another packet is half a circle behind or more. -/
  mismatch : ∀ expected got, outcome.result = .error (.counterMismatch expected got) →
    expected = device.counter ∧ 32768 ≤ lag device.counter got
  /-- A value has the first four bytes of a payload for its bits. -/
  reading : ∀ x, outcome.result = .ok (.reading x) → ∃ frame reply,
    device.link.replies.toList[passed device.counter device.link.replies.toList]? = some frame ∧
    parse frame = .ok reply ∧ x.bytes = reply.payload.take 4 ∧ x.bytes.length = 4
  /-- Every frame that is passed over is reported, and no other one. -/
  reports : outcome.events = device.report (.sensor port kind) ::
    .recorded ((Request.sensor port kind).packet device.counter) ::
      (device.link.replies.toList.take
        (passed device.counter device.link.replies.toList)).filterMap (lateReport device.counter) ++
      reportValue port kind outcome.result

section Readings

variable (device : Device Recorder) (port : UInt8) (kind : SensorKind)

/-- What a reading gives, takes and reports, by the frames behind those that are passed over. -/
theorem readSensor_recorder :
    let late := device.link.replies.toList.takeWhile (isPassedOver device.counter)
    let rest := device.link.replies.toList.dropWhile (isPassedOver device.counter)
    (device.readSensor port kind).result =
      rest.head?.elim (.error .noReply) (decides device.counter) ∧
    (device.readSensor port kind).state.link.replies.toList = rest.tail ∧
    (device.readSensor port kind).events = device.report (.sensor port kind) ::
      .recorded ((Request.sensor port kind).packet device.counter) ::
        late.filterMap (lateReport device.counter) ++
        reportValue port kind (device.readSensor port kind).result := by
  intro late rest
  have hsent : (device.recorded (.sensor port kind)).link.replies.toList =
    device.link.replies.toList := rfl
  obtain ⟨hresult, hreplies, hreports⟩ := awaitReply_recorder device.counter _ hsent
  refine ⟨?_, ?_, ?_⟩
  · rw [result_readSensor_recorder, hresult]
    show (rest.head?.elim (.error .noReply) parse).bind _ = _
    cases rest.head? with
    | none => rfl
    | some frame => exact decides_eq device.counter frame
  · rw [state_readSensor_recorder]
    exact hreplies
  · rw [result_readSensor_recorder, readSensor_of_sent
      (congrArg Outcome.result (device.submit_recorder _)), submit_recorder]
    simp only [hreports]
    rfl

theorem readsQueue_readSensor : device.ReadsQueue port kind (device.readSensor port kind) := by
  obtain ⟨hresult, hreplies, hreports⟩ := device.readSensor_recorder port kind
  have hrecords := device.records_readSensor port kind
  rw [head?_dropWhile] at hresult
  rw [tail_dropWhile] at hreplies
  constructor
  case packet => exact hrecords.packets
  case counter => exact hrecords.counter
  case initialised => exact hrecords.initialised
  case unanswered =>
    intro hall
    rw [hall, List.getElem?_eq_none (Nat.le_refl _)] at hresult
    rw [hall, List.drop_of_length_le (Nat.le_succ _)] at hreplies
    exact ⟨hresult, hreplies⟩
  case decided =>
    intro frame hframe
    rw [hframe] at hresult
    exact ⟨hresult, hreplies⟩
  case mismatch =>
    intro expected got hmismatch
    rw [hresult] at hmismatch
    cases hframe : device.link.replies.toList[passed device.counter device.link.replies.toList]? with
    | none =>
      rw [hframe] at hmismatch
      exact absurd hmismatch (by simp)
    | some frame =>
      rw [hframe] at hmismatch
      obtain ⟨reply, hparse, rfl, hne, hexpected⟩ := of_decides_mismatch hmismatch
      have hother := isPassedOver_of_next hframe
      rw [isPassedOver_of_ok hparse, ← Bool.not_eq_true, isLate_iff_lag] at hother
      have hpos := lag_pos hne
      exact ⟨hexpected, by omega⟩
  case reading =>
    intro x hx
    rw [hresult] at hx
    cases hframe : device.link.replies.toList[passed device.counter device.link.replies.toList]? with
    | none =>
      rw [hframe] at hx
      exact absurd hx (by simp)
    | some frame =>
      rw [hframe] at hx
      obtain ⟨reply, hparse, -, -, hbytes, hfour⟩ := of_decides_reading hx
      exact ⟨frame, reply, rfl, hparse, hbytes, hfour⟩
  case reports =>
    have hlate : device.link.replies.toList.take
        (passed device.counter device.link.replies.toList) =
        device.link.replies.toList.takeWhile (isPassedOver device.counter) :=
      List.prefix_iff_eq_take.1 (List.takeWhile_prefix _) |>.symm
    rw [hreports, hlate]

/-- Other frames in front, which are passed over as well, make no difference. -/
theorem readSensor_of_other_late {other : Device Recorder} (hcounter : other.counter = device.counter)
    {late : List (List UInt8)} (hlate : ∀ frame ∈ late, isPassedOver device.counter frame = true)
    (hqueue : other.link.replies.toList = late ++
      device.link.replies.toList.drop (passed device.counter device.link.replies.toList)) :
    (other.readSensor port kind).result = (device.readSensor port kind).result ∧
      (other.readSensor port kind).state.link.replies.toList =
        (device.readSensor port kind).state.link.replies.toList := by
  obtain ⟨hresult, hreplies, -⟩ := device.readSensor_recorder port kind
  obtain ⟨hresult', hreplies', -⟩ := other.readSensor_recorder port kind
  have hrest : other.link.replies.toList.dropWhile (isPassedOver other.counter) =
      device.link.replies.toList.dropWhile (isPassedOver device.counter) := by
    rw [hcounter, hqueue, List.dropWhile_append_of_pos hlate, drop_passed, List.dropWhile_idempotent]
  rw [hresult, hresult', hreplies, hreplies', hrest, hcounter]
  exact ⟨rfl, rfl⟩

end Readings

/-- **The first frame that is not passed over decides a reading.** Of any frames in any number, an initialised device
passes over those in front that answer a packet less than half a circle of counters before its own; the next one
decides, those behind it wait on, and where there is none there is no reply. What was passed over has no influence:
with any other frames that are passed over in their place, the reading ends the same. -/
theorem first_other_frame_decides {device : Device Recorder} (hready : device.initialised = true)
    {port : UInt8} (hport : 1 ≤ port ∧ port ≤ 4) (kind : SensorKind) :
    device.ReadsQueue port kind (device.perform (.sensor port kind)) ∧
    ∀ (other : Device Recorder) (late : List (List UInt8)), other.initialised = true →
      other.counter = device.counter →
      (∀ frame ∈ late, isPassedOver device.counter frame = true) →
      other.link.replies.toList = late ++
        device.link.replies.toList.drop (passed device.counter device.link.replies.toList) →
      (other.perform (.sensor port kind)).result = (device.perform (.sensor port kind)).result ∧
        (other.perform (.sensor port kind)).state.link.replies.toList =
          (device.perform (.sensor port kind)).state.link.replies.toList := by
  rw [perform_sensor hready hport]
  refine ⟨device.readsQueue_readSensor port kind, ?_⟩
  intro other late hready' hcounter hlate hqueue
  rw [perform_sensor hready' hport]
  exact device.readSensor_of_other_late port kind hcounter hlate hqueue

/-- The reading with packet 3 passes over the refusal of packet 65535 and the reply to packet 2, and finds one that is
half a circle behind; the frame behind that waits on. -/
theorem first_other_frame_decides_half_a_circle_behind :
    let queue : List (List UInt8) := [[3, 0, 255, 255, 4], [7, 0, 2, 0, 2, 0, 0, 128, 63],
      [3, 0, 3, 128, 2], [7, 0, 3, 0, 2, 0, 0, 0, 64]]
    let device : Device Recorder := ⟨⟨.empty, .ofList queue⟩, 3, true⟩
    passed 3 queue = 2 ∧
    (device.perform (.sensor 1 .touch)).result = .error (.counterMismatch 3 32771) ∧
    (device.perform (.sensor 1 .touch)).state.link.replies.toList =
      [[7, 0, 3, 0, 2, 0, 0, 0, 64]] ∧
    32768 ≤ lag 3 32771 := by
  intro queue device
  obtain ⟨hreads, -⟩ := first_other_frame_decides (show device.initialised = true from rfl)
    (show (1 : UInt8) ≤ 1 ∧ (1 : UInt8) ≤ 4 by decide) .touch
  have hpassed : passed 3 queue = 2 := by decide
  obtain ⟨hresult, hleft⟩ := hreads.decided [3, 0, 3, 128, 2] (by decide)
  have hmismatch : (device.perform (.sensor 1 .touch)).result =
    .error (.counterMismatch 3 32771) := hresult
  exact ⟨hpassed, hmismatch, hleft, (hreads.mismatch 3 32771 hmismatch).2⟩

end Device

end BrickControl
