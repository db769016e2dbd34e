import BrickControl.Line

/-!
# What a line takes

Sending has two phases, and each may fail on its own: the bytes are written, in as many calls as it takes, and
then the line is flushed.

* `Line.writeFailure` is the failure of the first phase, read off the line before it;
* `Line.writeAll_eq`: either that failure comes and no byte is taken, or all of them are;
* `Line.send_eq`: what a whole send does to the line;
* `Line.written_afterSending`: the packet is on the line once its writing did not fail, flushed or not.
-/

namespace BrickControl.Line

/-- The failure of writing, if it fails. An interruption is tried again, so only the next failure counts. -/
def writeFailure (line : Line) : Option LineFault :=
  match line.writeFault with
  | some .interrupted | none => if line.writeLimit = some 0 then some .tookNothing else none
  | some fault => some fault

theorem writeFailure_of_none {line : Line} (h : line.writeFault = none) :
    line.writeFailure = if line.writeLimit = some 0 then some .tookNothing else none := by
  simp only [writeFailure, h]

theorem writeFailure_of_interrupted {line : Line} (h : line.writeFault = some .interrupted) :
    line.writeFailure = if line.writeLimit = some 0 then some .tookNothing else none := by
  simp only [writeFailure, h]

theorem writeFailure_of_some {line : Line} {fault : LineFault} (h : line.writeFault = some fault)
    (hfault : fault ≠ .interrupted) : line.writeFailure = some fault := by
  simp only [writeFailure, h]

/-- The line after the bytes were written, in whichever pieces. -/
def afterWriting (line : Line) (bytes : List UInt8) : Line :=
  { line with writeFault := none, taken := bytes.reverse ++ line.taken }

/-- A line on which no write fails takes all bytes, however few at a time. -/
theorem writeAll_of_healthy {line : Line} (hfault : line.writeFault = none)
    (hlimit : line.writeLimit ≠ some 0) (bytes : List UInt8) :
    line.writeAll bytes = (.ok (), line.afterWriting bytes) := by
  -- the bytes left get fewer with every call, and the line stays healthy
  induction hlen : bytes.length using Nat.strongRecOn generalizing bytes line with
  | ind len ih =>
    cases bytes with
    | nil =>
      rw [writeAll, afterWriting]
      simp only [List.reverse_nil, List.nil_append, ← hfault]
    | cons b rest =>
      rw [writeAll]
      split
      · rename_i fault hsome
        rw [hfault] at hsome
        exact absurd hsome (by simp)
      · split
        · simp only [afterWriting, ← hfault]
        · rename_i hzero
          exact absurd hzero hlimit
        · rename_i limit hsome
          rw [List.length_cons] at hlen
          let next := { line with taken := (b :: rest.take limit).reverse ++ line.taken }
          have hshorter : (rest.drop limit).length < len := by
            rw [List.length_drop]
            omega
          have hnextFault : next.writeFault = none := hfault
          have hnextLimit : next.writeLimit ≠ some 0 := hlimit
          rw [ih _ hshorter hnextFault hnextLimit _ rfl]
          simp only [next, afterWriting]
          rw [← List.append_assoc, ← List.reverse_append, List.cons_append,
            List.take_append_drop]

theorem writeAll_of_stuck {line : Line} (hfault : line.writeFault = none)
    (hlimit : line.writeLimit = some 0) {bytes : List UInt8} (hne : bytes ≠ []) :
    line.writeAll bytes = (.error .tookNothing, line) := by
  cases bytes with
  | nil => exact absurd rfl hne
  | cons b rest =>
    rw [writeAll]
    split
    · rename_i fault hsome
      rw [hfault] at hsome
      exact absurd hsome (by simp)
    · rw [hlimit]

/-- **Writing takes all bytes or none**: its failure shows before the first byte. -/
theorem writeAll_eq (line : Line) {bytes : List UInt8} (hne : bytes ≠ []) :
    line.writeAll bytes =
      match line.writeFailure with
      | some fault => (.error fault, { line with writeFault := none })
      | none => (.ok (), line.afterWriting bytes) := by
  have hclear : ∀ line : Line, line.writeFault = none →
      line.writeAll bytes =
        match (if line.writeLimit = some 0 then some LineFault.tookNothing else none) with
        | some fault => (.error fault, { line with writeFault := none })
        | none => (.ok (), line.afterWriting bytes) := by
    intro line hfault
    by_cases hlimit : line.writeLimit = some 0
    · rw [writeAll_of_stuck hfault hlimit hne, if_pos hlimit]
      simp only [← hfault]
    · rw [writeAll_of_healthy hfault hlimit, if_neg hlimit]
  cases hwrite : line.writeFault with
  | none => rw [writeFailure_of_none hwrite, hclear line hwrite]
  | some fault =>
    obtain ⟨b, rest, rfl⟩ := List.exists_cons_of_ne_nil hne
    by_cases hfault : fault = .interrupted
    · subst hfault
      rw [writeFailure_of_interrupted hwrite, writeAll]
      split
      · rename_i fault hsome
        rw [hwrite, Option.some.injEq] at hsome
        subst hsome
        rw [if_pos rfl, hclear _ rfl]
        rfl
      · rename_i hnone
        rw [hwrite] at hnone
        exact absurd hnone (by simp)
    · rw [writeFailure_of_some hwrite hfault, writeAll]
      split
      · rename_i fault' hsome
        rw [hwrite, Option.some.injEq] at hsome
        subst hsome
        rw [if_neg hfault]
      · rename_i hnone
        rw [hwrite] at hnone
        exact absurd hnone (by simp)

/-! ### Sending -/

/-- The line after a packet was written and flushed, whether the flush failed or not. -/
def afterSending (line : Line) (packet : List UInt8) : Line :=
  { line.afterWriting packet with flushes := line.flushes + 1, flushFault := none }

/-- **The two phases of a send.** A failed write leaves the bytes taken as they were; a failed flush comes when
the whole packet has been taken. -/
theorem send_eq (line : Line) {packet : List UInt8} (hne : packet ≠ []) :
    line.send packet =
      match line.writeFailure with
      | some fault => ⟨.error (.line fault), { line with writeFault := none }, []⟩
      | none =>
        match line.flushFault with
        | some fault => ⟨.error (.line fault), line.afterSending packet, []⟩
        | none => ⟨.ok (), line.afterSending packet, []⟩ := by
  rw [send, writeAll_eq line hne]
  cases line.writeFailure with
  | some fault => rfl
  | none =>
    have hflush : (line.afterWriting packet).flushFault = line.flushFault := rfl
    simp only [flush, hflush]
    cases line.flushFault with
    | some fault => rfl
    | none => rfl

/-- A send fails with a fault of the line only. -/
theorem fault_of_send {line : Line} {packet : List UInt8} {fault : Fault}
    (h : (line.send packet).result = .error fault) : ∃ cause, fault = .line cause := by
  unfold send at h
  split at h
  · exact ⟨_, (Except.error.inj h).symm⟩
  · split at h
    · exact ⟨_, (Except.error.inj h).symm⟩
    · exact absurd h (by simp)

@[simp] theorem written_afterSending (line : Line) (packet : List UInt8) :
    (line.afterSending packet).written = line.written ++ packet := by
  simp only [written, afterSending, afterWriting, List.reverse_append, List.reverse_reverse]

/-- A line on which neither phase fails, and which stays so. -/
structure IsHealthy (line : Line) : Prop where
  writes : line.writeFault = none
  takes : line.writeLimit ≠ some 0
  flushes : line.flushFault = none

theorem send_of_healthy {line : Line} (h : line.IsHealthy) {packet : List UInt8}
    (hne : packet ≠ []) : line.send packet = ⟨.ok (), line.afterSending packet, []⟩ := by
  rw [send_eq line hne, writeFailure_of_none h.writes, if_neg h.takes, h.flushes]

theorem IsHealthy.afterSending {line : Line} (h : line.IsHealthy) (packet : List UInt8) :
    (line.afterSending packet).IsHealthy :=
  ⟨rfl, h.takes, rfl⟩

end BrickControl.Line
