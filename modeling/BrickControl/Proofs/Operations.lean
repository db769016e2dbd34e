import BrickControl.Device

/-!
# What an operation does

The operations of a device differ in what they ask for, not in how they go about it. This file says once, for any
transport, what each part of an operation can do; everything about runs is built on these statements.

* `Device.perform_cases`: an operation sends nothing and changes nothing, or orders a request, or reads a sensor;
* `Device.submit_of_sent` and `Device.submit_of_unsent`: the counter moves exactly when the transport took the
  packet;
* `Device.awaitReply_of_error` and its siblings: one turn of the loop that waits for a reply;
* `Device.awaitReply_keeps` and `Device.fault_of_awaitReply`: waiting keeps whatever one receive keeps, and fails for
  what a receive or a frame fails for;
* `Device.of_value_ok` and `Device.fault_of_value`: only replies with the counter waited for are taken;
* `Device.order_of_sent` and `Device.readSensor_of_sent`: what follows once the packet was taken;
* `Device.origin_of_fault`: where the fault of an operation comes from.
-/

namespace BrickControl

/-- The request that an operation sends, if it sends one. -/
def Operation.request? (operation : Operation) : Option Request :=
  match operation.plan with
  | .requested request => some request
  | _ => none

theorem Operation.request?_eq_some_iff {operation : Operation} {request : Request} :
    operation.request? = some request ↔ operation.plan = .requested request := by
  rw [request?]
  cases operation.plan <;> simp

/-- What an order gives back once its request was sent. -/
def Request.doneAnswer : Request → Answer
  | .tone _ _ _ => .played true
  | _ => .done

theorem Operation.request?_sensor {port : UInt8} {kind : SensorKind}
    (h : 1 ≤ port ∧ port ≤ 4) :
    (Operation.sensor port kind).request? = some (.sensor port kind) := by
  rw [request?, plan, if_pos h]

theorem Operation.eq_sensor_of_request? {operation : Operation} {port : UInt8}
    {kind : SensorKind} (h : operation.request? = some (.sensor port kind)) :
    operation = .sensor port kind := by
  cases operation with
  | tone hz ms volume =>
    rw [request?_eq_some_iff, plan] at h
    split at h
    · exact absurd h (by simp)
    · exact absurd h (by simp)
  | sensor port' kind' =>
    rw [request?_eq_some_iff, plan] at h
    split at h
    · obtain ⟨rfl, rfl⟩ := Request.sensor.inj (Plan.requested.inj h)
      rfl
    · exact absurd h (by simp)
  | _ => exact absurd h (by simp [request?, plan])

/-- The only argument that is refused is a port that does not exist. -/
theorem Operation.plan_eq_refused_iff {operation : Operation} {fault : Fault} :
    operation.plan = .refused fault ↔ ∃ port kind, operation = .sensor port kind ∧
      ¬ (1 ≤ port ∧ port ≤ 4) ∧ fault = .invalidPort port := by
  constructor
  · intro h
    cases operation with
    | tone hz ms volume =>
      simp only [plan] at h
      split at h
      · exact absurd h (by simp)
      · exact absurd h (by simp)
    | sensor port kind =>
      simp only [plan] at h
      split at h
      · exact absurd h (by simp)
      · rename_i hport
        exact ⟨port, kind, rfl, hport, (Plan.refused.inj h).symm⟩
    | _ => exact absurd h (by simp [plan])
  · rintro ⟨port, kind, rfl, hport, rfl⟩
    rw [plan, if_neg hport]

theorem Operation.fault_of_plan {operation : Operation} {fault : Fault}
    (h : operation.plan = .refused fault) : ∃ port, fault = .invalidPort port := by
  obtain ⟨port, kind, -, -, hfault⟩ := plan_eq_refused_iff.1 h
  exact ⟨port, hfault⟩

theorem Request.packet_ne_nil (request : Request) (counter : UInt16) :
    request.packet counter ≠ [] := by
  intro h
  have hlen : (request.packet counter).length = (request.command counter).body.length + 7 :=
    (request.command counter).bytes_length
  rw [h, List.length_nil] at hlen
  omega

namespace Device

variable {σ : Type} [Transport σ] (device : Device σ)

/-! ### Sending a request -/

/-- What a device reports before it hands a packet over. -/
def report (request : Request) : Event :=
  .sending device.counter (request.command device.counter).expectsReply
    (request.packet device.counter)

/-- A packet that the transport took moves the counter on. -/
theorem submit_of_sent {request : Request}
    (h : (Transport.send device.link (request.packet device.counter)).result = .ok ()) :
    device.submit request =
      ⟨.ok (),
        { device with
          link := (Transport.send device.link (request.packet device.counter)).state
          counter := device.counter + 1 },
        report device request ::
          (Transport.send device.link (request.packet device.counter)).events⟩ := by
  simp only [submit, h, report]

/-- A packet that the transport refused leaves the counter. -/
theorem submit_of_unsent {request : Request} {fault : Fault}
    (h : (Transport.send device.link (request.packet device.counter)).result = .error fault) :
    device.submit request =
      ⟨.error fault,
        { device with
          link := (Transport.send device.link (request.packet device.counter)).state },
        report device request ::
          (Transport.send device.link (request.packet device.counter)).events⟩ := by
  simp only [submit, h, report]

theorem fault_of_submit {request : Request} {fault : Fault}
    (h : (device.submit request).result = .error fault) :
    (Transport.send device.link (request.packet device.counter)).result = .error fault := by
  cases hsend : (Transport.send device.link (request.packet device.counter)).result with
  | ok sent =>
    rw [device.submit_of_sent hsend] at h
    exact absurd h (by simp)
  | error fault' =>
    rw [device.submit_of_unsent hsend] at h
    exact h

/-! ### Waiting for a reply -/

variable {device} {counter : UInt16} {link : σ}

theorem awaitReply_of_error {fault : Fault}
    (h : (Transport.receive link).result = .error fault) :
    awaitReply counter link =
      ⟨.error fault, (Transport.receive link).state, (Transport.receive link).events⟩ := by
  rw [awaitReply]
  split
  · rename_i fault' h'
    rw [h, Except.error.injEq] at h'
    rw [h']
  · rename_i frame h'
    rw [h] at h'
    exact absurd h' (by simp)

/-- A frame came: what it is decides whether the wait goes on. -/
theorem awaitReply_of_frame {frame : List UInt8}
    (h : (Transport.receive link).result = .ok frame) :
    awaitReply counter link =
      match Reply.parse frame with
      | .error fault =>
        ⟨.error fault, (Transport.receive link).state, (Transport.receive link).events⟩
      | .ok reply =>
        if reply.isLate counter then
          let rest := awaitReply counter (Transport.receive link).state
          ⟨rest.result, rest.state,
            (Transport.receive link).events ++ .lateReply counter reply.counter :: rest.events⟩
        else ⟨.ok reply, (Transport.receive link).state, (Transport.receive link).events⟩ := by
  conv => lhs; rw [awaitReply]
  split
  · rename_i fault h'
    rw [h] at h'
    exact absurd h' (by simp)
  · rename_i frame' h'
    rw [h, Except.ok.injEq] at h'
    subst h'
    rfl

theorem awaitReply_of_unparsed {frame : List UInt8} {fault : Fault}
    (h : (Transport.receive link).result = .ok frame) (hparse : Reply.parse frame = .error fault) :
    awaitReply counter link =
      ⟨.error fault, (Transport.receive link).state, (Transport.receive link).events⟩ := by
  rw [awaitReply_of_frame h, hparse]

/-- A late reply is dropped, and the wait goes on. -/
theorem awaitReply_of_late {frame : List UInt8} {reply : Reply}
    (h : (Transport.receive link).result = .ok frame) (hparse : Reply.parse frame = .ok reply)
    (hlate : reply.isLate counter = true) :
    awaitReply counter link =
      ⟨(awaitReply counter (Transport.receive link).state).result,
        (awaitReply counter (Transport.receive link).state).state,
        (Transport.receive link).events ++ .lateReply counter reply.counter ::
          (awaitReply counter (Transport.receive link).state).events⟩ := by
  rw [awaitReply_of_frame h, hparse]
  simp only
  rw [if_pos hlate]

theorem awaitReply_of_timely {frame : List UInt8} {reply : Reply}
    (h : (Transport.receive link).result = .ok frame) (hparse : Reply.parse frame = .ok reply)
    (htimely : reply.isLate counter = false) :
    awaitReply counter link =
      ⟨.ok reply, (Transport.receive link).state, (Transport.receive link).events⟩ := by
  rw [awaitReply_of_frame h, hparse]
  simp only
  rw [htimely, if_neg (by simp)]

/-- **Waiting keeps whatever one receive keeps.** -/
theorem awaitReply_keeps {α : Type} (view : σ → α)
    (h : ∀ link : σ, view (Transport.receive link).state = view link)
    (counter : UInt16) (link : σ) : view (awaitReply counter link).state = view link := by
  fun_induction awaitReply counter link with
  | case1 link next fault hresult => exact h link
  | case2 link next frame hresult fault hparse => exact h link
  | case3 link next frame hresult reply hparse hlate rest ih => exact ih.trans (h link)
  | case4 link next frame hresult reply hparse htimely => exact h link

/-- What a wait can fail for: a receive failed, or brought a frame that is none of a reply. -/
theorem fault_of_awaitReply {fault : Fault} (h : (awaitReply counter link).result = .error fault) :
    (∃ link : σ, (Transport.receive link).result = .error fault) ∨
      ∃ (link : σ) (frame : List UInt8), (Transport.receive link).result = .ok frame ∧
        Reply.parse frame = .error fault := by
  -- induction on the frames passed over: the frame behind the last late reply fails the wait
  fun_induction awaitReply counter link with
  | case1 link next fault' hresult => exact .inl ⟨link, Except.error.inj h ▸ hresult⟩
  | case2 link next frame hresult fault' hparse =>
    exact .inr ⟨link, frame, hresult, Except.error.inj h ▸ hparse⟩
  | case3 link next frame hresult reply hparse hlate rest ih => exact ih h
  | case4 link next frame hresult reply hparse htimely => exact absurd h (by simp)

/-- A wait that ends with a reply has received at least one frame. -/
theorem pending_awaitReply {reply : Reply} (h : (awaitReply counter link).result = .ok reply) :
    Transport.pending (awaitReply counter link).state < Transport.pending link := by
  fun_induction awaitReply counter link with
  | case1 link next fault hresult => exact absurd h (by simp)
  | case2 link next frame hresult fault hparse => exact absurd h (by simp)
  | case3 link next frame hresult late hparse hlate rest ih =>
    exact Nat.lt_trans (ih h) (Transport.pending_receive link frame hresult)
  | case4 link next frame hresult got hparse htimely =>
    exact Transport.pending_receive link frame hresult

/-! ### Checking a reply -/

/-- A value is read out of a reply that carries the counter. -/
theorem of_value_ok {reply : Reply} {x : Single} (h : value counter reply = .ok x) :
    reply.counter = counter ∧ reply.single 0 = .ok x := by
  by_cases hcounter : reply.counter = counter
  · simp only [value, Reply.expectOk, if_pos hcounter] at h
    cases hstatus : reply.status with
    | ok =>
      rw [hstatus] at h
      exact ⟨hcounter, h⟩
    | error =>
      rw [hstatus] at h
      exact absurd h (by simp)
  · simp only [value, Reply.expectOk, if_neg hcounter] at h
    exact absurd h (by simp)

/-- What a reply is refused for: another counter, what it reports, or too short a payload. -/
theorem fault_of_value {reply : Reply} {fault : Fault} (h : value counter reply = .error fault) :
    fault = .counterMismatch counter reply.counter ∨ fault = .replyError counter ∨
      fault = .shortReply reply.payload.length := by
  by_cases hcounter : reply.counter = counter
  · simp only [value, Reply.expectOk, if_pos hcounter] at h
    cases hstatus : reply.status with
    | ok =>
      simp only [hstatus, Reply.single] at h
      split at h
      · exact absurd h (by simp)
      · exact .inr (.inr (Except.error.inj h).symm)
    | error =>
      simp only [hstatus, hcounter] at h
      exact .inr (.inl (Except.error.inj h).symm)
  · simp only [value, Reply.expectOk, if_neg hcounter] at h
    exact .inl (Except.error.inj h).symm

/-! ### Orders and readings -/

section Submitted

variable {device : Device σ} {fault : Fault} {port : UInt8} {kind : SensorKind}

theorem order_of_unsent {request : Request} {answer : Answer}
    (h : (device.submit request).result = .error fault) :
    device.order request answer =
      ⟨.error fault, (device.submit request).state, (device.submit request).events⟩ := by
  simp only [order, h]

/-- An order is done once its packet was taken. -/
theorem order_of_sent {request : Request} {answer : Answer}
    (h : (device.submit request).result = .ok ()) :
    device.order request answer =
      ⟨.ok answer, (device.submit request).state,
        (device.submit request).events ++ doneEvents request⟩ := by
  simp only [order, h]

/-- What a reading reports of its result. -/
def reportValue (port : UInt8) (kind : SensorKind) : Except Fault Answer → List Event
  | .ok (.reading x) => [.sensor port kind x]
  | _ => []

theorem readSensor_of_unsent (h : (device.submit (.sensor port kind)).result = .error fault) :
    device.readSensor port kind =
      ⟨.error fault, (device.submit (.sensor port kind)).state,
        (device.submit (.sensor port kind)).events⟩ := by
  simp only [readSensor, h]

/-- **Once its packet was taken, a reading is the wait for the reply**, whatever that brings. -/
theorem readSensor_of_sent (h : (device.submit (.sensor port kind)).result = .ok ()) :
    device.readSensor port kind =
      let sent := device.submit (.sensor port kind)
      let received := awaitReply device.counter sent.state.link
      let result := received.result.bind fun reply =>
        (value device.counter reply).map Answer.reading
      ⟨result, { sent.state with link := received.state },
        sent.events ++ received.events ++ reportValue port kind result⟩ := by
  simp only [readSensor, h]
  cases (awaitReply device.counter (device.submit (.sensor port kind)).state.link).result with
  | error fault => simp only [Except.bind, reportValue, List.append_nil]
  | ok reply =>
    simp only [Except.bind]
    cases value device.counter reply with
    | error fault => simp only [Except.map, reportValue, List.append_nil]
    | ok x => rfl

/-- A value comes out of the reply that the wait ended with. -/
theorem of_reading_ok {counter : UInt16} {received : Except Fault Reply} {x : Single}
    (h : (received.bind fun reply => (value counter reply).map Answer.reading) =
      .ok (.reading x)) : ∃ reply, received = .ok reply ∧ value counter reply = .ok x := by
  cases received with
  | error fault => exact absurd h (by simp [Except.bind])
  | ok reply =>
    cases hvalue : value counter reply with
    | error fault => exact absurd h (by simp [Except.bind, hvalue, Except.map])
    | ok y =>
      simp only [Except.bind, hvalue, Except.map, Except.ok.injEq, Answer.reading.injEq] at h
      exact ⟨reply, rfl, by rw [hvalue, h]⟩

/-- A fault comes from the wait, or out of the reply that it ended with. -/
theorem of_reading_error {counter : UInt16} {received : Except Fault Reply}
    (h : (received.bind fun reply => (value counter reply).map Answer.reading) = .error fault) :
    received = .error fault ∨ ∃ reply, received = .ok reply ∧ value counter reply = .error fault := by
  cases received with
  | error fault' => exact .inl (congrArg Except.error (Except.error.inj h))
  | ok reply =>
    cases hvalue : value counter reply with
    | error fault' =>
      simp only [Except.bind, hvalue, Except.map, Except.error.injEq] at h
      exact .inr ⟨reply, rfl, by rw [hvalue, h]⟩
    | ok x => exact absurd h (by simp [Except.bind, hvalue, Except.map])

end Submitted

/-! ### Whole operations -/

/-- **Everything that an operation can do.** Without a request nothing happens to the device; with one, it is
ordered, or a sensor is read. -/
theorem perform_cases (device : Device σ) (operation : Operation) :
    (device.initialised = false ∧
      device.perform operation = ⟨.error .notInitialised, device, []⟩) ∨
    (device.initialised = true ∧ ∃ fault, operation.plan = .refused fault ∧
      device.perform operation = ⟨.error fault, device, []⟩) ∨
    (device.initialised = true ∧ ∃ hz ms volume, operation.plan = .inaudible hz ms volume ∧
      device.perform operation =
        ⟨.ok (.played false), device, [.toneSuppressed hz ms volume]⟩) ∨
    (device.initialised = true ∧ ∃ request, operation.request? = some request ∧
      device.perform operation = device.order request request.doneAnswer) ∨
    (device.initialised = true ∧ ∃ port kind,
      operation.request? = some (.sensor port kind) ∧
      device.perform operation = device.readSensor port kind) := by
  cases hready : device.initialised with
  | false => exact .inl ⟨rfl, by rw [perform, hready, if_neg (by simp)]⟩
  | true =>
    refine .inr ?_
    cases hplan : operation.plan with
    | refused fault =>
      exact .inl ⟨rfl, fault, rfl, by rw [perform, hready, if_pos rfl, hplan]⟩
    | inaudible hz ms volume =>
      exact .inr (.inl ⟨rfl, hz, ms, volume, rfl, by rw [perform, hready, if_pos rfl, hplan]⟩)
    | requested request =>
      have hrequest : operation.request? = some request := by rw [Operation.request?, hplan]
      refine .inr (.inr ?_)
      cases request with
      | sensor port kind =>
        exact .inr ⟨rfl, port, kind, hrequest, by rw [perform, hready, if_pos rfl, hplan]⟩
      | _ =>
        refine .inl ⟨rfl, _, hrequest, ?_⟩
        rw [perform, hready, if_pos rfl, hplan]
        rfl

/-- **What holds of orders and of readings holds of every operation with a request**; without a request an operation
changes nothing. -/
theorem perform_of_request {device : Device σ} {P : Request → Outcome (Device σ) Answer → Prop}
    (horder : ∀ request, P request (device.order request request.doneAnswer))
    (hread : ∀ port kind, P (.sensor port kind) (device.readSensor port kind))
    (operation : Operation) :
    ((device.perform operation).state = device ∧
      (device.initialised = true → operation.request? = none)) ∨
    ∃ request, device.initialised = true ∧ operation.request? = some request ∧
      P request (device.perform operation) := by
  rcases device.perform_cases operation with
    ⟨hidle, hperform⟩ | ⟨-, fault, hplan, hperform⟩ | ⟨-, hz, ms, volume, hplan, hperform⟩ |
    ⟨hready, request, hrequest, hperform⟩ | ⟨hready, port, kind, hrequest, hperform⟩
  · rw [hperform, hidle]
    exact .inl ⟨rfl, by simp⟩
  · rw [hperform, Operation.request?, hplan]
    exact .inl ⟨rfl, fun _ => rfl⟩
  · rw [hperform, Operation.request?, hplan]
    exact .inl ⟨rfl, fun _ => rfl⟩
  · rw [hperform]
    exact .inr ⟨request, hready, hrequest, horder request⟩
  · rw [hperform]
    exact .inr ⟨.sensor port kind, hready, hrequest, hread port kind⟩

/-! ### Faults of operations -/

/-- Where a fault of an operation comes from. -/
inductive FaultOrigin (device : Device σ) (operation : Operation) (fault : Fault) : Prop where
  /-- The device was not initialised. -/
  | idle (hidle : device.initialised = false) (h : fault = .notInitialised)
  /-- The arguments are refused. -/
  | refused (h : operation.plan = .refused fault)
  /-- The transport did not take the packet. -/
  | unsent (packet : List UInt8) (h : (Transport.send device.link packet).result = .error fault)
  /-- The transport failed to bring a frame. -/
  | unreceived (link : σ) (h : (Transport.receive link).result = .error fault)
  /-- The transport brought a frame that is none of a reply. -/
  | unparsed (link : σ) (frame : List UInt8) (hframe : (Transport.receive link).result = .ok frame)
    (h : Reply.parse frame = .error fault)
  /-- The reply has no value for the packet. -/
  | unanswered (reply : Reply) (h : value device.counter reply = .error fault)

/-- **Every fault of an operation has one of six origins.** -/
theorem origin_of_fault {device : Device σ} {operation : Operation} {fault : Fault}
    (h : (device.perform operation).result = .error fault) : device.FaultOrigin operation fault := by
  rcases device.perform_cases operation with
    ⟨hidle, hperform⟩ | ⟨-, refusal, hplan, hperform⟩ | ⟨-, hz, ms, volume, -, hperform⟩ |
    ⟨-, request, -, hperform⟩ | ⟨-, port, kind, -, hperform⟩
  · rw [hperform] at h
    exact .idle hidle (Except.error.inj h).symm
  · rw [hperform] at h
    exact .refused (Except.error.inj h ▸ hplan)
  · rw [hperform] at h
    exact absurd h (by simp)
  · rw [hperform] at h
    cases hsubmit : (device.submit request).result with
    | ok sent =>
      rw [order_of_sent hsubmit] at h
      exact absurd h (by simp)
    | error fault' =>
      rw [order_of_unsent hsubmit] at h
      exact .unsent _ (Except.error.inj h ▸ device.fault_of_submit hsubmit)
  · rw [hperform] at h
    cases hsubmit : (device.submit (.sensor port kind)).result with
    | ok sent =>
      rw [readSensor_of_sent hsubmit] at h
      rcases of_reading_error h with hwait | ⟨reply, -, hvalue⟩
      · rcases fault_of_awaitReply hwait with ⟨link, hreceive⟩ | ⟨link, frame, hframe, hparse⟩
        · exact .unreceived link hreceive
        · exact .unparsed link frame hframe hparse
      · exact .unanswered reply hvalue
    | error fault' =>
      rw [readSensor_of_unsent hsubmit] at h
      exact .unsent _ (Except.error.inj h ▸ device.fault_of_submit hsubmit)

/-! ### Being initialised -/

theorem initialised_submit (device : Device σ) (request : Request) :
    (device.submit request).state.initialised = device.initialised := by
  cases hsend : (Transport.send device.link (request.packet device.counter)).result with
  | ok sent => rw [device.submit_of_sent hsend]
  | error fault => rw [device.submit_of_unsent hsend]

theorem initialised_order (device : Device σ) (request : Request) (answer : Answer) :
    (device.order request answer).state.initialised = device.initialised := by
  cases hsubmit : (device.submit request).result with
  | ok sent => rw [order_of_sent hsubmit, initialised_submit]
  | error fault => rw [order_of_unsent hsubmit, initialised_submit]

theorem initialised_readSensor (device : Device σ) (port : UInt8) (kind : SensorKind) :
    (device.readSensor port kind).state.initialised = device.initialised := by
  cases hsubmit : (device.submit (.sensor port kind)).result with
  | ok sent =>
    rw [readSensor_of_sent hsubmit]
    exact device.initialised_submit (.sensor port kind)
  | error fault => rw [readSensor_of_unsent hsubmit, initialised_submit]

/-- An operation neither initialises a device nor takes that back. -/
theorem initialised_perform (device : Device σ) (operation : Operation) :
    (device.perform operation).state.initialised = device.initialised := by
  rcases perform_of_request
    (P := fun _ outcome => outcome.state.initialised = device.initialised)
    (fun request => device.initialised_order request request.doneAnswer)
    device.initialised_readSensor operation with ⟨hsame, -⟩ | ⟨-, -, -, h⟩
  · rw [hsame]
  · exact h

theorem perform_sensor {device : Device σ} (hready : device.initialised = true) {port : UInt8}
    (hport : 1 ≤ port ∧ port ≤ 4) (kind : SensorKind) :
    device.perform (.sensor port kind) = device.readSensor port kind := by
  rw [perform, hready, if_pos rfl, Operation.plan, if_pos hport]

end Device

end BrickControl
