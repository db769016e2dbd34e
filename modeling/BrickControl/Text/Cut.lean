/-!
# Parts of a text

A part of a text is given by the bytes that its encoding takes, and not by its characters. A part that would
begin or end inside a character is none.

* `byteSize` is the number of bytes that characters take;
* `dropBytes?`, `takeBytes?` and `cut?` cut a text.
-/

namespace BrickControl.Text

/-- The number of bytes that characters take. -/
def byteSize : List Char → Nat
  | [] => 0
  | c :: rest => c.utf8Size + byteSize rest

/-- The text behind the first `count` bytes. -/
def dropBytes? : Nat → List Char → Option (List Char)
  | 0, text => some text
  | _ + 1, [] => none
  | count + 1, c :: rest =>
    if c.utf8Size ≤ count + 1 then dropBytes? (count + 1 - c.utf8Size) rest else none

/-- The first `count` bytes. -/
def takeBytes? : Nat → List Char → Option (List Char)
  | 0, _ => some []
  | _ + 1, [] => none
  | count + 1, c :: rest =>
    if c.utf8Size ≤ count + 1 then (takeBytes? (count + 1 - c.utf8Size) rest).map (c :: ·) else none

/-- The `count` bytes behind the first `start`. -/
def cut? (text : List Char) (start count : Nat) : Option (List Char) :=
  (dropBytes? start text).bind (takeBytes? count)

/-- The bytes of one text after another add up. -/
theorem byteSize_append (s t : List Char) : byteSize (s ++ t) = byteSize s + byteSize t := by
  induction s with
  | nil => simp [byteSize]
  | cons c rest ih => simp [byteSize, ih, Nat.add_assoc]

/-- Behind the bytes of a text stands what follows it. -/
theorem dropBytes?_append (s t : List Char) : dropBytes? (byteSize s) (s ++ t) = some t := by
  induction s with
  | nil => simp [byteSize, dropBytes?]
  | cons c rest ih =>
    obtain ⟨n, size⟩ : ∃ n, c.utf8Size = n + 1 := ⟨c.utf8Size - 1, by have := c.utf8Size_pos; omega⟩
    have total : byteSize (c :: rest) = n + byteSize rest + 1 := by rw [byteSize, size]; omega
    rw [total, List.cons_append, dropBytes?, size, if_pos (by omega)]
    rw [show n + byteSize rest + 1 - (n + 1) = byteSize rest by omega]
    exact ih

/-- The bytes of a text are those that it begins with. -/
theorem takeBytes?_append (s t : List Char) : takeBytes? (byteSize s) (s ++ t) = some s := by
  induction s with
  | nil => cases t <;> rfl
  | cons c rest ih =>
    obtain ⟨n, size⟩ : ∃ n, c.utf8Size = n + 1 := ⟨c.utf8Size - 1, by have := c.utf8Size_pos; omega⟩
    have total : byteSize (c :: rest) = n + byteSize rest + 1 := by rw [byteSize, size]; omega
    rw [total, List.cons_append, takeBytes?, size, if_pos (by omega)]
    rw [show n + byteSize rest + 1 - (n + 1) = byteSize rest by omega, ih]
    rfl

/-- A part is cut out where it stands. -/
theorem cut?_append (s t u : List Char) : cut? (s ++ t ++ u) (byteSize s) (byteSize t) = some t := by
  rw [cut?, List.append_assoc, dropBytes?_append]
  exact takeBytes?_append t u

end BrickControl.Text
