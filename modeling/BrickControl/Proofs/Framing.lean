import BrickControl.Bytecode
import BrickControl.Bytes.LittleEndian

/-!
# Frames in a stream of bytes

A frame opens with a length field that counts the bytes after it, so a stream of frames tells by itself where
one frame ends and the next begins.

* `IsFrame` says that the length field counts what follows it;
* `cutFrame?` cuts the first frame off a stream;
* `cutFrame?_append` and `of_cutFrame?`: exactly the frames are cut off;
* `IsFrame.append_inj`: a stream is cut in one way only.
-/

namespace BrickControl

/-- A length field with as many bytes behind it as it says. -/
structure IsFrame (frame : List UInt8) : Prop where
  header : Bytecode.lengthBytes ≤ frame.length
  counted : frame.length =
    Bytecode.lengthBytes + LittleEndian.decode (frame.take Bytecode.lengthBytes)

instance (frame : List UInt8) : Decidable (IsFrame frame) :=
  decidable_of_iff
    (Bytecode.lengthBytes ≤ frame.length ∧ frame.length =
      Bytecode.lengthBytes + LittleEndian.decode (frame.take Bytecode.lengthBytes))
    ⟨fun h => ⟨h.1, h.2⟩, fun h => ⟨h.header, h.counted⟩⟩

/-- The first frame of a stream and the bytes behind it; `none` if no whole frame is there. -/
def cutFrame? (bytes : List UInt8) : Option (List UInt8 × List UInt8) :=
  let size := Bytecode.lengthBytes + LittleEndian.decode (bytes.take Bytecode.lengthBytes)
  if Bytecode.lengthBytes ≤ bytes.length ∧ size ≤ bytes.length then
    some (bytes.take size, bytes.drop size)
  else none

theorem cutFrame?_nil : cutFrame? [] = none := rfl

/-- A frame in front of a stream is what is cut off. -/
theorem cutFrame?_append {frame : List UInt8} (h : IsFrame frame) (rest : List UInt8) :
    cutFrame? (frame ++ rest) = some (frame, rest) := by
  have hfield : (frame ++ rest).take Bytecode.lengthBytes = frame.take Bytecode.lengthBytes :=
    List.take_append_of_le_length h.header
  have hlen : (frame ++ rest).length = frame.length + rest.length := List.length_append
  have hheader := h.header
  unfold cutFrame?
  simp only [hfield, ← h.counted]
  rw [if_pos (by omega), List.take_left, List.drop_left]

/-- What is cut off is a frame, and nothing is lost. -/
theorem of_cutFrame? {bytes frame rest : List UInt8} (h : cutFrame? bytes = some (frame, rest)) :
    IsFrame frame ∧ bytes = frame ++ rest := by
  simp only [cutFrame?] at h
  split at h
  · rename_i hfits
    obtain ⟨hheader, hsize⟩ := hfits
    simp only [Option.some.injEq, Prod.mk.injEq] at h
    obtain ⟨rfl, rfl⟩ := h
    refine ⟨⟨?_, ?_⟩, (List.take_append_drop _ _).symm⟩
    · rw [List.length_take]
      omega
    · rw [List.length_take, List.take_take, Nat.min_eq_left (Nat.le_add_right _ _)]
      omega
  · exact absurd h (by simp)

theorem IsFrame.length_pos {frame : List UInt8} (h : IsFrame frame) : 0 < frame.length :=
  Nat.lt_of_lt_of_le (by decide) h.header

/-- **Streams of frames are cut in one way only**: frames that open the same stream are the same. -/
theorem IsFrame.append_inj {frame frame' rest rest' : List UInt8} (h : IsFrame frame)
    (h' : IsFrame frame') (heq : frame ++ rest = frame' ++ rest') :
    frame = frame' ∧ rest = rest' := by
  have hcut := cutFrame?_append h rest
  rw [heq, cutFrame?_append h' rest'] at hcut
  simp only [Option.some.injEq, Prod.mk.injEq] at hcut
  exact ⟨hcut.1.symm, hcut.2.symm⟩

/-- A stream of frames in which none can be cut off has none. -/
theorem eq_nil_of_uncut {frames : List (List UInt8)} (hframes : ∀ frame ∈ frames, IsFrame frame)
    (h : cutFrame? frames.flatten = none) : frames = [] := by
  cases frames with
  | nil => rfl
  | cons frame frames =>
    rw [List.flatten_cons, cutFrame?_append (hframes frame List.mem_cons_self)] at h
    exact absurd h (by simp)

end BrickControl
