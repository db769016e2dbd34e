import Mathlib.Data.List.Induction
import BrickControl.Proofs.Recording

/-!
# The history of a recorder

Whoever works with a recorder sends packets and takes them out again, one by one or all at once, and queues reply
frames and receives them. Of what was ever handed over, the part that was given back and the part that is still there
make up the whole, in its order; this holds of packets, also of those that were only skipped, and of frames.

* `Queue.pops`: what some pops in a row take off a queue, and what they leave;
* `Recorder.nextSent_eq`: skipping packets and taking the next one is so many pops and one more;
* `Recorder.Call` and `Recorder.Call.run`: the calls on a recorder, with what they give back;
* `Recorder.History`: what calls in a row have come to; `Recorder.History.Balances.step`: one more call keeps both
  accounts, and `Recorder.balances_history`: any number of calls does;
* `Recorder.history_filter` and `Recorder.keepsApart`: calls about packets and calls about frames leave each other
  alone;
* `Recorder.everything_accounted_for`: the whole history of a recorder, with the effect of whatever call comes next.
-/

namespace BrickControl

/-! ### Pops in a row -/

namespace Queue

variable {α : Type}

/-- What so many pops in a row take, the first one first, and the queue that they leave. A queue that runs empty stays
empty. -/
def pops : Nat → Queue α → List α × Queue α
  | 0, q => ([], q)
  | n + 1, q =>
    match q.pop? with
    | some (x, rest) => (x :: (pops n rest).1, (pops n rest).2)
    | none => ([], q)

/-- **Pops take from the front**, and what they leave is the rest. -/
theorem pops_spec (n : Nat) : ∀ q : Queue α,
    (pops n q).1 = q.toList.take n ∧ (pops n q).2.toList = q.toList.drop n := by
  induction n with
  | zero =>
    intro q
    exact ⟨rfl, rfl⟩
  | succ n ih =>
    intro q
    rw [pops]
    cases hpop : q.pop? with
    | none =>
      rw [pop?_eq_none_iff.1 hpop]
      exact ⟨rfl, rfl⟩
    | some taken =>
      obtain ⟨x, rest⟩ := taken
      rw [toList_of_pop? hpop]
      exact ⟨congrArg (x :: ·) (ih rest).1, (ih rest).2⟩

end Queue

namespace Recorder

/-- **To skip packets and take the next one is so many pops and one more**: what is given back is the last packet of
as many as were asked for. -/
theorem nextSent_eq (skip offset : Nat) : ∀ r : Recorder, r.nextSent skip offset =
    ((Queue.pops (skip + 1) r.sent).1[skip]?.map (List.drop offset),
      { r with sent := (Queue.pops (skip + 1) r.sent).2 }) := by
  induction skip with
  | zero =>
    intro r
    rw [nextSent, Queue.pops]
    cases r.sent.pop? with
    | none => rfl
    | some taken => rfl
  | succ skip ih =>
    intro r
    rw [nextSent, Queue.pops]
    cases r.sent.pop? with
    | none => rfl
    | some taken => exact ih _

/-! ### Calls -/

/-- A call on a recorder. -/
inductive Call where
  | send (packet : List UInt8)
  /-- Skip some packets, and take the next one without its first bytes. -/
  | nextSent (skip offset : Nat)
  | drain
  | pushReply (frame : List UInt8)
  | receive
  deriving DecidableEq, Repr

/-- What a call gives back. -/
inductive Returned where
  | sent (result : Except Fault Unit)
  | next (packet : Option (List UInt8))
  | drained (packets : List (List UInt8))
  | pushed
  | received (result : Except Fault (List UInt8))

namespace Call

/-- Carries out a call. -/
def run (r : Recorder) : Call → Returned × Recorder
  | .send packet => (.sent (r.send packet).result, (r.send packet).state)
  | .nextSent skip offset => (.next (r.nextSent skip offset).1, (r.nextSent skip offset).2)
  | .drain => (.drained r.drain.1, r.drain.2)
  | .pushReply frame => (.pushed, r.pushReply frame)
  | .receive => (.received r.receive.result, r.receive.state)

/-- The packets that a call takes out, in the order in which it does; also those that it skips. -/
def removed (r : Recorder) : Call → List (List UInt8)
  | .nextSent skip _ => (Queue.pops (skip + 1) r.sent).1
  | .drain => r.drain.1
  | _ => []

/-- The packet that a call hands over. -/
def packet? : Call → Option (List UInt8)
  | .send packet => some packet
  | _ => none

/-- The frame that a call hands over. -/
def frame? : Call → Option (List UInt8)
  | .pushReply frame => some frame
  | _ => none

/-- Is the call about packets, not about frames? -/
def isAboutPackets : Call → Bool
  | .send _ | .nextSent _ _ | .drain => true
  | .pushReply _ | .receive => false

end Call

/-- The frame that a call has received. -/
def Returned.frame? : Returned → Option (List UInt8)
  | .received (.ok frame) => some frame
  | _ => none

section Calls

variable (r : Recorder) (call : Call)

/-- **A call about packets keeps the account of packets**: what it takes out and what is left are what was there and
what it hands over. -/
theorem removed_append_sent : call.removed r ++ (call.run r).2.sent.toList =
    r.sent.toList ++ call.packet?.toList := by
  cases call with
  | send packet => exact r.toList_send packet
  | nextSent skip offset =>
    obtain ⟨htaken, hleft⟩ := Queue.pops_spec (skip + 1) r.sent
    simp only [Call.removed, Call.run, nextSent_eq, htaken, hleft, Call.packet?, Option.toList_none,
      List.take_append_drop, List.append_nil]
  | drain => rfl
  | pushReply frame => exact (List.append_nil _).symm
  | receive =>
    show (r.receive).state.sent.toList = _
    rw [sent_receive]
    exact (List.append_nil _).symm

/-- **A call about frames keeps the account of frames**: what it gives back and what is left are what was there and
what it hands over. -/
theorem received_append_replies : (call.run r).1.frame?.toList ++ (call.run r).2.replies.toList =
    r.replies.toList ++ call.frame?.toList := by
  cases call with
  | send packet => exact (List.append_nil _).symm
  | nextSent skip offset =>
    rw [Call.run, nextSent_eq]
    exact (List.append_nil _).symm
  | drain => exact (List.append_nil _).symm
  | pushReply frame => exact r.toList_pushReply frame
  | receive =>
    rw [show Call.frame? .receive = none from rfl, Option.toList_none, List.append_nil, Call.run]
    cases hwaiting : r.replies.toList with
    | nil =>
      rw [receive_of_nil hwaiting]
      exact hwaiting
    | cons frame later =>
      obtain ⟨rest, hreceive, hrest⟩ := receive_of_cons hwaiting
      rw [hreceive]
      exact congrArg (frame :: ·) hrest

/-- Calls about packets do not touch the frames. -/
theorem replies_of_aboutPackets {call : Call} (h : call.isAboutPackets = true) :
    (call.run r).2.replies = r.replies := by
  cases call with
  | nextSent skip offset => rw [Call.run, nextSent_eq]
  | send packet => rfl
  | drain => rfl
  | pushReply frame => exact absurd h (by simp [Call.isAboutPackets])
  | receive => exact absurd h (by simp [Call.isAboutPackets])

/-- Calls about frames do not touch the packets. -/
theorem sent_of_aboutFrames {call : Call} (h : call.isAboutPackets = false) :
    (call.run r).2.sent = r.sent := by
  cases call with
  | pushReply frame => rfl
  | receive => exact r.sent_receive
  | _ => exact absurd h (by simp [Call.isAboutPackets])

/-- What calls about packets do depends on the packets only. -/
theorem aboutPackets_congr {r r' : Recorder} (hsent : r'.sent = r.sent) {call : Call}
    (h : call.isAboutPackets = true) :
    (call.run r').1 = (call.run r).1 ∧ (call.run r').2.sent = (call.run r).2.sent := by
  cases call with
  | send packet => exact ⟨rfl, congrArg (Queue.push · packet) hsent⟩
  | nextSent skip offset =>
    simp only [Call.run, nextSent_eq, hsent, and_self]
  | drain => exact ⟨congrArg (Returned.drained ∘ Queue.toList) hsent, rfl⟩
  | pushReply frame => exact absurd h (by simp [Call.isAboutPackets])
  | receive => exact absurd h (by simp [Call.isAboutPackets])

/-- What calls about frames do depends on the frames only. -/
theorem aboutFrames_congr {r r' : Recorder} (hreplies : r'.replies = r.replies) {call : Call}
    (h : call.isAboutPackets = false) :
    (call.run r').1 = (call.run r).1 ∧ (call.run r').2.replies = (call.run r).2.replies := by
  cases call with
  | pushReply frame => exact ⟨rfl, congrArg (Queue.push · frame) hreplies⟩
  | receive =>
    simp only [Call.run, Recorder.receive, hreplies]
    cases r.replies.pop? with
    | none => exact ⟨rfl, hreplies⟩
    | some taken => exact ⟨rfl, rfl⟩
  | _ => exact absurd h (by simp [Call.isAboutPackets])

end Calls

/-! ### Histories -/

/-- What calls in a row have come to. -/
structure History where
  recorder : Recorder
  /-- The packets taken out so far, in the order of their removal. -/
  removed : List (List UInt8)
  /-- The calls so far, with what they gave back. -/
  returned : List (Call × Returned)

namespace History

/-- The frames received so far, in order. -/
def received (past : History) : List (List UInt8) :=
  past.returned.filterMap fun entry => entry.2.frame?

/-- One more call. -/
def step (past : History) (call : Call) : History :=
  { recorder := (call.run past.recorder).2
    removed := past.removed ++ call.removed past.recorder
    returned := past.returned ++ [(call, (call.run past.recorder).1)] }

theorem received_step (past : History) (call : Call) : (past.step call).received =
    past.received ++ (call.run past.recorder).1.frame?.toList := by
  rw [received, step, List.filterMap_append]
  cases hframe : (call.run past.recorder).1.frame? <;> simp [received, hframe]

/-- Both accounts are kept: what was given back, followed by what is there, is what was handed over. -/
structure Balances (past : History) (packets frames : List (List UInt8)) : Prop where
  packets : past.removed ++ past.recorder.sent.toList = packets
  frames : past.received ++ past.recorder.replies.toList = frames

/-- **One more call keeps both accounts.** -/
theorem Balances.step {past : History} {packets frames : List (List UInt8)}
    (h : past.Balances packets frames) (call : Call) :
    (past.step call).Balances (packets ++ call.packet?.toList) (frames ++ call.frame?.toList) := by
  constructor
  case packets =>
    rw [← h.packets, History.step, List.append_assoc, removed_append_sent, List.append_assoc]
  case frames =>
    rw [← h.frames, received_step, List.append_assoc, List.append_assoc]
    exact congrArg (past.received ++ ·) (received_append_replies past.recorder call)

end History

/-- The history of calls on an empty recorder. -/
def history (calls : List Call) : History := calls.foldl History.step ⟨.empty, [], []⟩

theorem history_concat (calls : List Call) (call : Call) :
    history (calls ++ [call]) = (history calls).step call := by
  rw [history, List.foldl_append]
  rfl

/-- **Any number of calls keeps both accounts.** -/
theorem balances_history (calls : List Call) :
    (history calls).Balances (calls.filterMap Call.packet?) (calls.filterMap Call.frame?) := by
  -- induction on the calls: the last one keeps what those before it kept
  induction calls using List.reverseRecOn with
  | nil => exact ⟨rfl, rfl⟩
  | append_singleton calls call ih =>
    rw [history_concat, List.filterMap_append, List.filterMap_append]
    have hstep := ih.step call
    cases call <;> exact hstep

/-- **Calls that leave a part of a recorder alone make no difference to it**, nor to the calls that depend on that
part only. -/
theorem history_filter {β : Type} (view : Recorder → β) (about : Call → Bool)
    (hcongr : ∀ r r' : Recorder, view r' = view r → ∀ call, about call = true →
      (call.run r').1 = (call.run r).1 ∧ view (call.run r').2 = view (call.run r).2)
    (hkeeps : ∀ (r : Recorder) (call : Call), about call = false → view (call.run r).2 = view r)
    (calls : List Call) :
    view (history (calls.filter about)).recorder = view (history calls).recorder ∧
      (history (calls.filter about)).returned =
        (history calls).returned.filter fun entry => about entry.1 := by
  induction calls using List.reverseRecOn with
  | nil => exact ⟨rfl, rfl⟩
  | append_singleton calls call ih =>
    obtain ⟨hview, hreturned⟩ := ih
    rw [List.filter_append, history_concat]
    cases habout : about call with
    | true =>
      obtain ⟨hgives, hleaves⟩ := hcongr _ _ hview call habout
      rw [List.filter_cons_of_pos habout, List.filter_nil, history_concat]
      refine ⟨hleaves, ?_⟩
      simp only [History.step, List.filter_append, hreturned, hgives]
      rw [List.filter_cons_of_pos (a := (call, _)) habout, List.filter_nil]
    | false =>
      have hother : ¬ about call = true := by
        rw [habout]
        exact Bool.false_ne_true
      rw [List.filter_cons_of_neg hother, List.filter_nil, List.append_nil]
      refine ⟨hview.trans (hkeeps _ call habout).symm, ?_⟩
      simp only [History.step, List.filter_append, hreturned]
      rw [List.filter_cons_of_neg (a := (call, _)) hother, List.filter_nil, List.append_nil]

/-- The two queues have nothing to do with each other: each is what it would be without the calls about the other one,
and so is whatever its calls give back. -/
structure KeepsApart (calls : List Call) : Prop where
  packets :
    let alone := history (calls.filter Call.isAboutPackets)
    alone.recorder.sent = (history calls).recorder.sent ∧
      alone.removed = (history calls).removed ∧
      alone.returned = (history calls).returned.filter fun entry => entry.1.isAboutPackets
  frames :
    let alone := history (calls.filter fun call => !call.isAboutPackets)
    alone.recorder.replies = (history calls).recorder.replies ∧
      alone.returned = (history calls).returned.filter fun entry => !entry.1.isAboutPackets

theorem packets_filter (calls : List Call) :
    (calls.filter Call.isAboutPackets).filterMap Call.packet? = calls.filterMap Call.packet? := by
  rw [List.filterMap_filter]
  congr 1
  funext call
  cases call <;> rfl

theorem keepsApart (calls : List Call) : KeepsApart calls := by
  constructor
  case packets =>
    intro alone
    obtain ⟨hsent, hreturned⟩ := history_filter Recorder.sent Call.isAboutPackets
      (fun _ _ hsent _ h => aboutPackets_congr hsent h) (fun r _ h => r.sent_of_aboutFrames h) calls
    refine ⟨hsent, ?_, hreturned⟩
    -- the same packets were sent and the same are left
    have halone := (balances_history (calls.filter Call.isAboutPackets)).packets
    rw [packets_filter, ← (balances_history calls).packets, hsent] at halone
    exact List.append_cancel_right halone
  case frames =>
    intro alone
    refine history_filter Recorder.replies (fun call => !call.isAboutPackets) ?_ ?_ calls
    · intro r r' hreplies call h
      exact aboutFrames_congr hreplies (Bool.not_eq_eq_eq_not.1 h)
    · intro r call h
      exact r.replies_of_aboutPackets (Bool.not_eq_eq_eq_not.1 h)

/-! ### What comes next -/

/-- What a recorder gives back, whichever call comes next. -/
structure Answers (r : Recorder) : Prop where
  send : ∀ packet, (r.send packet).result = .ok ()
  /-- With enough packets as many as asked for are removed, and the last one is given back less its first bytes. -/
  enough : ∀ skip offset, skip < r.sent.toList.length →
    ((Call.nextSent skip offset).removed r).length = skip + 1 ∧
      ∃ packet, ((Call.nextSent skip offset).removed r).getLast? = some packet ∧
        (r.nextSent skip offset).1 = some (packet.drop (min offset packet.length))
  /-- With too few, none is given back and none is left. -/
  tooFew : ∀ skip offset, r.sent.toList.length ≤ skip →
    (r.nextSent skip offset).1 = none ∧ (r.nextSent skip offset).2.sent.toList = []
  drain : r.drain.1 = r.sent.toList ∧ r.drain.2.sent.toList = []
  count : r.sentCount = r.sent.toList.length
  /-- There is no reply exactly if none waits. -/
  noReply : ∀ fault, r.receive.result = .error fault ↔ fault = .noReply ∧ r.replies.toList = []

theorem drop_min_length (offset : Nat) (packet : List UInt8) :
    packet.drop (min offset packet.length) = packet.drop offset := by
  rcases Nat.le_total offset packet.length with h | h
  · rw [Nat.min_eq_left h]
  · rw [Nat.min_eq_right h, List.drop_length, List.drop_of_length_le h]

theorem answers (r : Recorder) : r.Answers := by
  constructor
  case send => exact fun _ => rfl
  case enough =>
    intro skip offset hskip
    have htaken := (Queue.pops_spec (skip + 1) r.sent).1
    have hlength : (r.sent.toList.take (skip + 1)).length = skip + 1 := by
      rw [List.length_take]
      omega
    have hlast : (r.sent.toList.take (skip + 1))[skip]? = some r.sent.toList[skip] := by
      rw [List.getElem?_take_of_lt (Nat.lt_succ_self skip), List.getElem?_eq_getElem hskip]
    rw [Call.removed, nextSent_eq, htaken]
    refine ⟨hlength, r.sent.toList[skip], ?_, ?_⟩
    · rw [List.getLast?_eq_getElem?, hlength]
      exact hlast
    · rw [hlast, drop_min_length]
      rfl
  case tooFew =>
    intro skip offset hfew
    obtain ⟨htaken, hleft⟩ := Queue.pops_spec (skip + 1) r.sent
    rw [nextSent_eq]
    refine ⟨?_, ?_⟩
    · rw [htaken, List.getElem?_eq_none (by rw [List.length_take]; omega)]
      rfl
    · exact hleft.trans (List.drop_of_length_le (by omega))
  case drain => exact ⟨rfl, rfl⟩
  case count => exact r.sent.size_eq
  case noReply =>
    intro fault
    cases hwaiting : r.replies.toList with
    | nil =>
      rw [receive_of_nil hwaiting]
      simp [eq_comm]
    | cons frame later =>
      obtain ⟨rest, hreceive, -⟩ := receive_of_cons hwaiting
      rw [hreceive]
      simp

/-- **Everything is accounted for.** After any calls on a recorder in any order, the packets taken out so far, by
skipping them, one by one or all at once, and behind them the packets that are still recorded are the packets sent, in
their order; the frames received and those that still wait are the frames queued. The two queues have nothing to do
with each other, and whichever call comes next gives back what it should. -/
theorem everything_accounted_for (calls : List Call) :
    let past := history calls
    past.removed ++ past.recorder.sent.toList = calls.filterMap Call.packet? ∧
      past.received ++ past.recorder.replies.toList = calls.filterMap Call.frame? ∧
      past.recorder.Answers ∧ KeepsApart calls :=
  ⟨(balances_history calls).packets, (balances_history calls).frames,
    (history calls).recorder.answers, keepsApart calls⟩

/-- Asked to skip more packets than there are, a recorder takes them all out. -/
example : (history [.send [1], .send [2, 3], .pushReply [9], .nextSent 5 0, .send [4]]).removed =
    [[1], [2, 3]] := rfl

end Recorder

end BrickControl
