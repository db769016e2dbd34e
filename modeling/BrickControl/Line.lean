import BrickControl.Bytecode
import BrickControl.Bytes.LittleEndian
import BrickControl.Transport

/-!
# Serial lines

A serial line carries bytes in pieces of any size, and any call on it may fail. A line is described by what
its next calls will do: the pieces and failures that wait to be read, how much one write takes, and the
failures that the next write and the next flush meet.

* `Line.readExact` reads a number of bytes across pieces; a call that a signal broke into is tried again;
* `Line.writeAll` writes all bytes of a packet, in as many calls as it takes;
* `Line.send` writes a packet and flushes; `Line.receive` reads one frame, by its length field.
-/

namespace BrickControl

/-- What one read of a line meets. -/
inductive Arrival where
  /-- Bytes that came together; none of them is the end of the line. -/
  | bytes (piece : List UInt8)
  | failure (fault : LineFault)
  deriving DecidableEq, Repr

/-- The number of bytes of an arrival. -/
def Arrival.size : Arrival → Nat
  | .bytes piece => piece.length
  | .failure _ => 0

/-- The number of bytes of several arrivals. -/
def Arrival.total : List Arrival → Nat
  | [] => 0
  | arrival :: later => arrival.size + Arrival.total later

/-- A serial line, by what its next calls will do. -/
structure Line where
  /-- What the next reads meet; behind the last arrival the line ends. -/
  arrivals : List Arrival
  /-- The most bytes that one write takes; `none` for all of them. -/
  writeLimit : Option Nat
  /-- The failure that the next write meets. -/
  writeFault : Option LineFault
  /-- The failure that the next flush meets. -/
  flushFault : Option LineFault
  /-- The bytes written so far, the last one first. -/
  taken : List UInt8
  /-- How often the line was flushed. -/
  flushes : Nat
  deriving DecidableEq, Repr

namespace Line

/-- A line on which nothing has happened and nothing waits. -/
def idle : Line := ⟨[], none, none, none, [], 0⟩

/-- The bytes written so far, in order. -/
def written (line : Line) : List UInt8 := line.taken.reverse

/-- The number of bytes that wait to be read. -/
def unread (line : Line) : Nat := Arrival.total line.arrivals

/-- What stays of a piece when the bytes before `rest` have been read: nothing of a piece read whole. -/
def putBack (rest : List UInt8) (arrivals : List Arrival) : List Arrival :=
  if rest.isEmpty then arrivals else .bytes rest :: arrivals

/-- Reads `count` bytes, or fails at the first failure other than an interruption, or where the line ends.
Bytes read before a failure are gone. -/
def readExact : Nat → List Arrival → Except LineFault (List UInt8) × List Arrival
  | 0, arrivals => (.ok [], arrivals)
  | _ + 1, [] => (.error .endedEarly, [])
  | count + 1, .failure fault :: later =>
    if fault = .interrupted then readExact (count + 1) later else (.error fault, later)
  | count + 1, .bytes piece :: later =>
    if piece.isEmpty then (.error .endedEarly, later)
    else if count + 1 ≤ piece.length then
      (.ok (piece.take (count + 1)), putBack (piece.drop (count + 1)) later)
    else
      match readExact (count + 1 - piece.length) later with
      | (.ok bytes, rest) => (.ok (piece ++ bytes), rest)
      | (.error fault, rest) => (.error fault, rest)

/-- Writes all bytes: an interruption is tried again, and a call that takes nothing ends it. -/
def writeAll (line : Line) (bytes : List UInt8) : Except LineFault Unit × Line :=
  match bytes with
  | [] => (.ok (), line)
  | b :: rest =>
    match _h : line.writeFault with
    | some fault =>
      let line := { line with writeFault := none }
      if fault = .interrupted then writeAll line (b :: rest) else (.error fault, line)
    | none =>
      match line.writeLimit with
      | none => (.ok (), { line with taken := (b :: rest).reverse ++ line.taken })
      | some 0 => (.error .tookNothing, line)
      | some (limit + 1) =>
        writeAll { line with taken := (b :: rest.take limit).reverse ++ line.taken }
          (rest.drop limit)
termination_by bytes.length + line.writeFault.elim 0 fun _ => 1
decreasing_by
  · simp only [_h, Option.elim]
    omega
  · simp only [_h, Option.elim, List.length_drop, List.length_cons]
    omega

/-- Flushes the line; an interruption here is a failure. -/
def flush (line : Line) : Except LineFault Unit × Line :=
  let flushed := { line with flushes := line.flushes + 1, flushFault := none }
  match line.flushFault with
  | some fault => (.error fault, flushed)
  | none => (.ok (), flushed)

/-- Writes a packet and flushes the line. -/
def send (line : Line) (packet : List UInt8) : Outcome Line Unit :=
  match line.writeAll packet with
  | (.error fault, line) => ⟨.error (.line fault), line, []⟩
  | (.ok (), line) =>
    match line.flush with
    | (.error fault, line) => ⟨.error (.line fault), line, []⟩
    | (.ok (), line) => ⟨.ok (), line, []⟩

/-- Reads a length field and as many bytes as it says. -/
def receive (line : Line) : Outcome Line (List UInt8) :=
  match readExact Bytecode.lengthBytes line.arrivals with
  | (.error fault, rest) => ⟨.error (.line fault), { line with arrivals := rest }, []⟩
  | (.ok field, rest) =>
    match readExact (LittleEndian.decode field) rest with
    | (.error fault, rest) => ⟨.error (.line fault), { line with arrivals := rest }, []⟩
    | (.ok body, rest) =>
      ⟨.ok (field ++ body), { line with arrivals := rest }, [.received (field ++ body)]⟩

/-! ### What a read takes -/

/-- Bytes put back are read again. -/
theorem putBack_size (rest : List UInt8) (arrivals : List Arrival) :
    Arrival.total (putBack rest arrivals) = rest.length + Arrival.total arrivals := by
  cases rest with
  | nil => simp [putBack]
  | cons b rest => rfl

/-- A read that succeeds gives the bytes asked for, and they wait no longer. -/
theorem readExact_size {count : Nat} {arrivals rest : List Arrival} {bytes : List UInt8}
    (h : readExact count arrivals = (.ok bytes, rest)) :
    bytes.length = count ∧
      Arrival.total arrivals = count + Arrival.total rest := by
  fun_induction readExact count arrivals generalizing bytes rest with
  | case1 arrivals =>
    simp only [Prod.mk.injEq, Except.ok.injEq] at h
    obtain ⟨rfl, rfl⟩ := h
    simp
  | case2 => simp at h
  | case3 count later ih =>
    have hlater := ih h
    simp only [Arrival.total, Arrival.size]
    omega
  | case4 => simp at h
  | case5 => simp at h
  | case6 count piece later hne hle =>
    simp only [Prod.mk.injEq, Except.ok.injEq] at h
    obtain ⟨rfl, rfl⟩ := h
    simp only [List.length_take, Arrival.total, Arrival.size, putBack_size, List.length_drop]
    omega
  | case7 count piece later hne hlt got after hread ih =>
    simp only [Prod.mk.injEq, Except.ok.injEq] at h
    obtain ⟨rfl, rfl⟩ := h
    have hlater := ih hread
    simp only [List.length_append, Arrival.total, Arrival.size]
    omega
  | case8 => simp at h

/-- Every frame received takes at least its length field off the line. -/
theorem unread_receive (line : Line) (frame : List UInt8)
    (h : line.receive.result = .ok frame) : line.receive.state.unread < line.unread := by
  unfold receive at h ⊢
  split at h
  · exact absurd h (by simp)
  · rename_i field rest hfield
    split at h
    · exact absurd h (by simp)
    · rename_i body after hbody
      have hf := readExact_size hfield
      have hb := readExact_size hbody
      simp only [unread]
      have hlen : Bytecode.lengthBytes = 2 := rfl
      omega

instance : Transport Line where
  send := send
  receive := receive
  pending := unread
  pending_receive := unread_receive

end Line

end BrickControl
