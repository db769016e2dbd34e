import Mathlib.Data.List.Induction
import BrickControl.Proofs.ReplyQueues
import BrickControl.Proofs.Sessions

/-!
# Replies find their requests

Counters wrap around after 65536 packets, while the packets of a long session have numbers without end. This file
follows the true numbers of packets and replies beside the counters that travel, and shows that a reading gets the
reply to its own request as long as no reply is half a circle late: replies may be missing, late, repeated, or
report errors, and come in whenever they like.

* `NumberedReply` is a reply with the true number of the packet that it answers;
* `Numbering` is the invariant of a session: the counter is the number of packets sent, modulo its two bytes, and
  the frames that wait are the last of those that came in;
* `NumberedReply.dropWhile_frames`: a wait passes over replies to earlier packets;
* `reading_gets_own_reply`: what a reading returns, and which frames it takes.
-/

namespace BrickControl

/-! ### Numbered replies -/

/-- A reply to the packet of a number, with a payload that fits its frame. -/
structure NumberedReply where
  number : Nat
  status : ReplyStatus
  payload : List UInt8
  fits : payload.length ≤ Reply.maxPayload
  deriving DecidableEq

namespace NumberedReply

/-- The reply as it travels: of the number, only what a counter holds. -/
def reply (answer : NumberedReply) : Reply :=
  ⟨UInt16.ofNat answer.number, answer.status, answer.payload⟩

def frame (answer : NumberedReply) : List UInt8 := answer.reply.encode

/-- What a reading returns if this reply is the one that it gets. -/
def verdict (answer : NumberedReply) : Except Fault Answer :=
  match answer.status with
  | .error => .error (.replyError (UInt16.ofNat answer.number))
  | .ok =>
    if 4 ≤ answer.payload.length then .ok (.reading (Single.ofBytes (answer.payload.take 4)))
    else .error (.shortReply answer.payload.length)

theorem parse_frame (answer : NumberedReply) : Reply.parse answer.frame = .ok answer.reply :=
  Reply.parse_encode answer.fits

/-- The distance of two counters is the distance of their numbers, if that is less than a circle. -/
theorem toNat_sub_counter {m n : Nat} (hle : m ≤ n) (hclose : n - m < 65536) :
    (UInt16.ofNat n - UInt16.ofNat m).toNat = n - m := by
  rw [UInt16.toNat_sub, UInt16.toNat_ofNat', UInt16.toNat_ofNat']
  omega

/-- Within half a circle, a reply is late for every later packet and for no other. -/
theorem isLate_reply_iff {answer : NumberedReply} {n : Nat} (hle : answer.number ≤ n)
    (hclose : n - answer.number < 32768) :
    answer.reply.isLate (UInt16.ofNat n) = true ↔ answer.number ≠ n := by
  have hdistance : (UInt16.ofNat n - answer.reply.counter).toNat = n - answer.number :=
    toNat_sub_counter hle (by omega)
  rw [Reply.isLate_iff, hdistance]
  constructor
  · rintro ⟨hpos, -⟩ heq
    omega
  · intro hne
    omega

theorem isPassedOver_frame_iff (answer : NumberedReply) {n : Nat} (hle : answer.number ≤ n)
    (hclose : n - answer.number < 32768) :
    Reply.isPassedOver (UInt16.ofNat n) answer.frame = true ↔ answer.number ≠ n := by
  rw [Reply.isPassedOver_of_ok answer.parse_frame]
  exact isLate_reply_iff hle hclose

/-- **A wait passes over replies to earlier packets**, whatever they report. -/
theorem dropWhile_frames {n : Nat} {earlier : List NumberedReply}
    (h : ∀ answer ∈ earlier, answer.number < n ∧ n - answer.number < 32768)
    (rest : List (List UInt8)) :
    (earlier.map frame ++ rest).dropWhile (Reply.isPassedOver (UInt16.ofNat n)) =
      rest.dropWhile (Reply.isPassedOver (UInt16.ofNat n)) := by
  refine List.dropWhile_append_of_pos ?_
  intro bytes hmem
  obtain ⟨answer, hanswer, rfl⟩ := List.mem_map.1 hmem
  obtain ⟨hless, hclose⟩ := h answer hanswer
  exact (answer.isPassedOver_frame_iff (Nat.le_of_lt hless) hclose).2 (Nat.ne_of_lt hless)

theorem value_reply (answer : NumberedReply) :
    (Device.value (UInt16.ofNat answer.number) answer.reply).map Answer.reading =
      answer.verdict := by
  have hcounter : ¬ answer.reply.counter ≠ UInt16.ofNat answer.number := not_not_intro rfl
  have hstatus : answer.reply.status = answer.status := rfl
  have hpayload : answer.reply.payload = answer.payload := rfl
  rw [Reply.value_eq, if_neg hcounter, hstatus, hpayload]
  unfold verdict
  cases answer.status with
  | error => rfl
  | ok =>
    rw [if_neg (by simp)]
    by_cases hshort : answer.payload.length < 4
    · simp only [if_pos hshort, if_neg (Nat.not_le_of_lt hshort)]
      rfl
    · simp only [if_neg hshort, if_pos (Nat.le_of_not_lt hshort)]
      rfl

theorem of_verdict (own : NumberedReply) :
    (∀ x, own.verdict = .ok (.reading x) →
      own.status = .ok ∧ 4 ≤ own.payload.length ∧ x = Single.ofBytes (own.payload.take 4)) ∧
    (∀ counter, own.verdict = .error (.replyError counter) →
      counter = UInt16.ofNat own.number ∧ own.status = .error) ∧
    (∀ expected got, own.verdict ≠ .error (.counterMismatch expected got)) := by
  cases hstatus : own.status with
  | error => simp [verdict, hstatus, eq_comm]
  | ok =>
    simp only [verdict, hstatus]
    split
    · rename_i hlong
      simp [hlong, eq_comm]
    · simp

end NumberedReply

/-! ### Waiting among numbered replies -/

namespace Device

/-- Among earlier replies only, the wait ends without a reply, and nothing is left. -/
theorem awaitReply_of_none {n : Nat} {waiting : List NumberedReply} {link : Recorder}
    (hlink : link.replies.toList = waiting.map NumberedReply.frame)
    (hwindow : ∀ answer ∈ waiting, answer.number < n ∧ n - answer.number < 32768) :
    (awaitReply (UInt16.ofNat n) link).result = .error .noReply ∧
      (awaitReply (UInt16.ofNat n) link).state.replies.toList = [] := by
  obtain ⟨hresult, hreplies, -⟩ := awaitReply_recorder (UInt16.ofNat n) _ hlink
  have hrest := NumberedReply.dropWhile_frames hwindow []
  rw [List.append_nil, List.dropWhile_nil] at hrest
  rw [hrest] at hresult hreplies
  exact ⟨hresult, hreplies⟩

/-- The first reply to the packet itself ends the wait, and those behind it wait on. -/
theorem awaitReply_of_own {n : Nat} {earlier later : List NumberedReply} {own : NumberedReply}
    {link : Recorder}
    (hlink : link.replies.toList = (earlier ++ own :: later).map NumberedReply.frame)
    (hwindow : ∀ answer ∈ earlier, answer.number < n ∧ n - answer.number < 32768)
    (hown : own.number = n) :
    (awaitReply (UInt16.ofNat n) link).result = .ok own.reply ∧
      (awaitReply (UInt16.ofNat n) link).state.replies.toList =
        later.map NumberedReply.frame := by
  rw [List.map_append, List.map_cons] at hlink
  obtain ⟨hresult, hreplies, -⟩ := awaitReply_recorder (UInt16.ofNat n) _ hlink
  have htimely : ¬ Reply.isPassedOver (UInt16.ofNat n) own.frame = true := by
    rw [own.isPassedOver_frame_iff (by omega) (by omega)]
    exact not_not_intro hown
  rw [NumberedReply.dropWhile_frames hwindow, List.dropWhile_cons_of_neg htimely] at hresult hreplies
  exact ⟨hresult.trans own.parse_frame, hreplies⟩

end Device

/-! ### Readings -/

/-- A reading whose packet has the number `n` gets, of the replies that wait, the first to its own packet. -/
structure GetsOwnReply (n : Nat) (waiting : List NumberedReply)
    (outcome : Outcome (Device Recorder) Answer) : Prop where
  /-- The first reply to the packet decides; it goes with those before it, and the others wait on. -/
  own : ∀ earlier own later, waiting = earlier ++ own :: later →
    (∀ answer ∈ earlier, answer.number ≠ n) → own.number = n →
      outcome.result = own.verdict ∧
        outcome.state.link.replies.toList = later.map NumberedReply.frame
  /-- Without one there is no reply, and nothing waits any longer. -/
  missing : (∀ answer ∈ waiting, answer.number ≠ n) →
    outcome.result = .error .noReply ∧ outcome.state.link.replies.toList = []
  /-- A value is the one in a reply to the packet. -/
  reading : ∀ x, outcome.result = .ok (.reading x) →
    ∃ own ∈ waiting, own.number = n ∧ own.status = .ok ∧ 4 ≤ own.payload.length ∧
      x = Single.ofBytes (own.payload.take 4)
  /-- A refusal is one of the packet itself. -/
  refusal : ∀ counter, outcome.result = .error (.replyError counter) →
    counter = UInt16.ofNat n ∧ ∃ own ∈ waiting, own.number = n ∧ own.status = .error
  /-- No reply is taken for one to another packet. -/
  noMismatch : ∀ expected got, outcome.result ≠ .error (.counterMismatch expected got)

section Readings

variable {device : Device Recorder} {n : Nat} {waiting : List NumberedReply}

/-- Among the replies within half a circle, those with another number are earlier. -/
theorem earlier_of_ne {answers : List NumberedReply}
    (hwindow : ∀ answer ∈ answers, answer.number ≤ n ∧ n - answer.number < 32768)
    (hother : ∀ answer ∈ answers, answer.number ≠ n) :
    ∀ answer ∈ answers, answer.number < n ∧ n - answer.number < 32768 := by
  intro answer hmem
  obtain ⟨hle, hclose⟩ := hwindow answer hmem
  exact ⟨Nat.lt_of_le_of_ne hle (hother answer hmem), hclose⟩

theorem readSensor_of_own (hcounter : device.counter = UInt16.ofNat n)
    {earlier later : List NumberedReply} {own : NumberedReply}
    (hreplies : device.link.replies.toList =
      (earlier ++ own :: later).map NumberedReply.frame)
    (hearlier : ∀ answer ∈ earlier, answer.number < n ∧ n - answer.number < 32768)
    (hown : own.number = n) (port : UInt8) (kind : SensorKind) :
    (device.readSensor port kind).result = own.verdict ∧
      (device.readSensor port kind).state.link.replies.toList =
        later.map NumberedReply.frame := by
  obtain ⟨hresult, hleft⟩ := Device.awaitReply_of_own
    (show (device.recorded (.sensor port kind)).link.replies.toList = _ from hreplies)
    hearlier hown
  constructor
  · rw [Device.result_readSensor_recorder, hcounter, hresult]
    show (Device.value (UInt16.ofNat n) own.reply).map Answer.reading = own.verdict
    rw [← hown, own.value_reply]
  · rw [Device.state_readSensor_recorder, hcounter]
    exact hleft

theorem readSensor_of_none (hcounter : device.counter = UInt16.ofNat n)
    (hreplies : device.link.replies.toList = waiting.map NumberedReply.frame)
    (hearlier : ∀ answer ∈ waiting, answer.number < n ∧ n - answer.number < 32768)
    (port : UInt8) (kind : SensorKind) :
    (device.readSensor port kind).result = .error .noReply ∧
      (device.readSensor port kind).state.link.replies.toList = [] := by
  obtain ⟨hresult, hleft⟩ := Device.awaitReply_of_none
    (show (device.recorded (.sensor port kind)).link.replies.toList = _ from hreplies) hearlier
  constructor
  · rw [Device.result_readSensor_recorder, hcounter, hresult]
    rfl
  · rw [Device.state_readSensor_recorder, hcounter]
    exact hleft

theorem first_own (n : Nat) (waiting : List NumberedReply) :
    (∀ answer ∈ waiting, answer.number ≠ n) ∨
      ∃ earlier own later, waiting = earlier ++ own :: later ∧
        (∀ answer ∈ earlier, answer.number ≠ n) ∧ own.number = n := by
  cases hfind : waiting.find? fun answer => answer.number == n with
  | none =>
    rw [List.find?_eq_none] at hfind
    exact .inl fun answer hmem => by simpa using hfind answer hmem
  | some own =>
    obtain ⟨hown, earlier, later, hsplit, hearlier⟩ := List.find?_eq_some_iff_append.1 hfind
    exact .inr ⟨earlier, own, later, hsplit,
      fun answer hmem => by simpa using hearlier answer hmem, by simpa using hown⟩

/-- **A reading gets its own reply**, if the replies that wait are none of them half a circle late. -/
theorem getsOwnReply_readSensor (hcounter : device.counter = UInt16.ofNat n)
    (hreplies : device.link.replies.toList = waiting.map NumberedReply.frame)
    (hwindow : ∀ answer ∈ waiting, answer.number ≤ n ∧ n - answer.number < 32768)
    (port : UInt8) (kind : SensorKind) :
    GetsOwnReply n waiting (device.readSensor port kind) := by
  have hdecided : ∀ earlier own later, waiting = earlier ++ own :: later →
      (∀ answer ∈ earlier, answer.number ≠ n) → own.number = n →
        (device.readSensor port kind).result = own.verdict ∧
          (device.readSensor port kind).state.link.replies.toList =
            later.map NumberedReply.frame := by
    rintro earlier own later rfl hother hown
    refine readSensor_of_own hcounter hreplies (earlier_of_ne ?_ hother) hown port kind
    intro answer hmem
    exact hwindow answer (List.mem_append_left _ hmem)
  rcases first_own n waiting with hnone | ⟨earlier, own, later, hsplit, hother, hown⟩
  · have hmissing :=
      readSensor_of_none hcounter hreplies (earlier_of_ne hwindow hnone) port kind
    refine ⟨hdecided, fun _ => hmissing, ?_, ?_, ?_⟩
    · intro x hx
      rw [hmissing.1] at hx
      exact absurd hx (by simp)
    · intro counter hrefused
      rw [hmissing.1] at hrefused
      exact absurd hrefused (by simp)
    · intro expected got hmismatch
      rw [hmissing.1] at hmismatch
      exact absurd hmismatch (by simp)
  · have hmem : own ∈ waiting := by
      rw [hsplit]
      exact List.mem_append_right _ List.mem_cons_self
    have hresult := (hdecided earlier own later hsplit hother hown).1
    obtain ⟨hvalue, hrefusal, hmismatch⟩ := own.of_verdict
    refine ⟨hdecided, fun hnone => absurd hown (hnone own hmem), ?_, ?_, ?_⟩
    · intro x hx
      exact ⟨own, hmem, hown, hvalue x (hresult ▸ hx)⟩
    · intro counter hrefused
      obtain ⟨hcounter, hstatus⟩ := hrefusal counter (hresult ▸ hrefused)
      exact ⟨hown ▸ hcounter, own, hmem, hown, hstatus⟩
    · intro expected got hgot
      exact hmismatch expected got (hresult ▸ hgot)

end Readings

/-! ### Numbered sessions -/

/-- A reply comes in. -/
def Recorder.answer (r : Recorder) (answer : NumberedReply) : Recorder := r.pushReply answer.frame

namespace NumberedSession

/-- The device after a session that began when it was initialised over an empty recorder. -/
def device (steps : List (Step NumberedReply)) : Device Recorder :=
  Session.after Recorder.answer (Device.new Recorder.empty).initialise.state steps

/-- The number of the next packet: that many were sent before. -/
def next (steps : List (Step NumberedReply)) : Nat := (device steps).link.sentCount

/-- The replies that came in, in order. -/
def arrived : List (Step NumberedReply) → List NumberedReply
  | [] => []
  | .outside answer :: later => answer :: arrived later
  | _ :: later => arrived later

/-- The replies that still wait: as many of the last ones as there are frames in the queue. -/
def waiting (steps : List (Step NumberedReply)) : List NumberedReply :=
  (arrived steps).drop ((arrived steps).length - (device steps).link.replies.size)

theorem arrived_append (steps later : List (Step NumberedReply)) :
    arrived (steps ++ later) = arrived steps ++ arrived later := by
  induction steps with
  | nil => rfl
  | cons step steps ih =>
    cases step with
    | outside answer => exact congrArg (answer :: ·) ih
    | _ => exact ih

/-- The state of a numbered session after replies have come in: the counter is the number of packets sent, as far as
it goes, and what waits are the last replies. -/
structure Numbering (device : Device Recorder) (arrived : List NumberedReply) : Prop where
  initialised : device.initialised = true
  counter : device.counter = UInt16.ofNat device.link.sentCount
  replies : device.link.replies.toList <:+ arrived.map NumberedReply.frame

/-- Every step but another initialisation keeps the numbering. -/
theorem Numbering.step {device : Device Recorder} {arrivals : List NumberedReply}
    (h : Numbering device arrivals) {step : Step NumberedReply} (hstep : step ≠ .initialise) :
    Numbering (step.run Recorder.answer device).state (arrivals ++ arrived [step]) := by
  cases step with
  | initialise => exact absurd rfl hstep
  | outside answer =>
    refine ⟨h.initialised, h.counter, ?_⟩
    show (device.link.pushReply answer.frame).replies.toList <:+ _
    rw [Recorder.toList_pushReply, arrived, arrived, List.map_append]
    obtain ⟨gone, hgone⟩ := h.replies
    exact ⟨gone, by rw [← hgone, ← List.append_assoc]; rfl⟩
  | operate operation =>
    rw [show arrived [.operate operation] = [] from rfl, List.append_nil]
    rcases device.perform_recorder operation with ⟨hsame, -⟩ | ⟨request, -, -, hrecords⟩
    · rw [Step.run, hsame]
      exact h
    · refine ⟨hrecords.initialised.trans h.initialised, ?_, hrecords.replies.trans h.replies⟩
      have hcount : (device.perform operation).state.link.sentCount =
          device.link.sentCount + 1 := by
        rw [Recorder.sentCount, Queue.size_eq, hrecords.packets, List.length_append,
          ← Queue.size_eq]
        rfl
      rw [Step.run, hrecords.counter_succ h.counter, hcount]

/-- **Every session is numbered.** -/
theorem numbering {steps : List (Step NumberedReply)} (h : .initialise ∉ steps) :
    Numbering (device steps) (arrived steps) := by
  -- induction on the steps taken so far: the last step is the one that `Numbering.step` takes
  induction steps using List.reverseRecOn with
  | nil => exact ⟨rfl, rfl, List.suffix_refl _⟩
  | append_singleton steps step ih =>
    rw [List.mem_append, not_or, List.mem_singleton] at h
    rw [device, Session.after_concat, arrived_append]
    exact (ih h.1).step fun heq => h.2 heq.symm

theorem replies_device {steps : List (Step NumberedReply)} (h : .initialise ∉ steps) :
    (device steps).link.replies.toList = (waiting steps).map NumberedReply.frame := by
  have hsuffix := (numbering h).replies
  rw [waiting, List.map_drop, List.suffix_iff_eq_drop.1 hsuffix, Queue.size_eq,
    List.length_map]

/-! ### Readings of a session -/

/-- **Readings get their own replies, however late replies come in.** After any session, of any length, a reading
sends the packet of the next number, and if every reply that waits answers this packet or one less than half a
circle of counters before it, then the first reply to this very packet decides. A reading of a port that does not
exist sends nothing. -/
theorem reading_gets_own_reply {steps : List (Step NumberedReply)} (h : .initialise ∉ steps)
    (port : UInt8) (kind : SensorKind) :
    (device steps).link.replies.toList = (waiting steps).map NumberedReply.frame ∧
    (1 ≤ port ∧ port ≤ 4 →
      ((device steps).perform (.sensor port kind)).state.link.sent.toList =
        (device steps).link.sent.toList ++
          [(Request.sensor port kind).packet (UInt16.ofNat (next steps))] ∧
      ((∀ answer ∈ waiting steps,
          answer.number ≤ next steps ∧ next steps - answer.number < 32768) →
        GetsOwnReply (next steps) (waiting steps)
          ((device steps).perform (.sensor port kind)))) ∧
    (¬ (1 ≤ port ∧ port ≤ 4) →
      (device steps).perform (.sensor port kind) =
        ⟨.error (.invalidPort port), device steps, []⟩) := by
  have hnumbering := numbering h
  have hcounter : (device steps).counter = UInt16.ofNat (next steps) := hnumbering.counter
  have hreplies := replies_device h
  refine ⟨hreplies, ?_, ?_⟩
  · intro hport
    rw [Device.perform_sensor hnumbering.initialised hport]
    refine ⟨?_, ?_⟩
    · rw [((device steps).records_readSensor port kind).packets, hcounter]
    · intro hwindow
      exact getsOwnReply_readSensor hcounter hreplies hwindow port kind
  · intro hport
    rw [Device.perform, hnumbering.initialised, if_pos rfl, Operation.plan, if_neg hport]

/-- The reading with packet 1 passes over the late refusal of packet 0 and returns the value sent for itself. -/
theorem reading_passes_over_late_refusal :
    let late : NumberedReply := ⟨0, .error, [], by decide⟩
    let own : NumberedReply := ⟨1, .ok, [0, 0, 128, 63], by decide⟩
    let steps : List (Step NumberedReply) := [.operate (.led 1), .outside late, .outside own]
    waiting steps = [late, own] ∧ next steps = 1 ∧
      GetsOwnReply 1 [late, own] ((device steps).perform (.sensor 1 .touch)) ∧
      ((device steps).perform (.sensor 1 .touch)).result =
        .ok (.reading (Single.ofBytes [0, 0, 128, 63])) := by
  intro late own steps
  have hwaiting : waiting steps = [late, own] := by decide
  have hnext : next steps = 1 := rfl
  obtain ⟨-, hreading, -⟩ :=
    reading_gets_own_reply (show .initialise ∉ steps by decide) 1 .touch
  obtain ⟨-, hdecides⟩ := hreading (by decide)
  rw [hwaiting, hnext] at hdecides
  have hown : GetsOwnReply 1 [late, own] ((device steps).perform (.sensor 1 .touch)) :=
    hdecides (by decide)
  obtain ⟨hresult, -⟩ := hown.own [late] own [] rfl (by decide) rfl
  exact ⟨hwaiting, hnext, hown, hresult⟩

end NumberedSession

end BrickControl
