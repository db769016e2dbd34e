import BrickControl.Bytes.Hex

/-!
# The form of hex dumps

A dump has a place for every digit: those of the `k`-th byte stand at `3 * k` and `3 * k + 1`, and the space behind
them at `3 * k + 2`, unless the byte is the last one. So the length of a dump tells the number of bytes, and no two
lists of bytes share their dump.

* `Hex.IsDump` says what stands where; `Hex.isDump_iff`: one text, the dump, has this form;
* `Hex.digit?_eq_some_iff` and `Hex.group?_eq_some_iff`: only the digits that are written are read;
* `Hex.read?_eq_some_iff`: **a reader recovers the bytes of every dump**, and reads nothing else.
-/

namespace BrickControl.Hex

/-- The digits in their order. -/
def digits : List Char :=
  ['0', '1', '2', '3', '4', '5', '6', '7', '8', '9', 'A', 'B', 'C', 'D', 'E', 'F']

/-- What stands where in the dump of some bytes. -/
structure IsDump (bytes : List UInt8) (text : List Char) : Prop where
  /-- Two digits for every byte and one space between any two; nothing for no bytes. -/
  length : text.length = 3 * bytes.length - 1
  high : ∀ (k : Nat) (b : UInt8), bytes[k]? = some b → text[3 * k]? = digits[b.toNat / 16]?
  low : ∀ (k : Nat) (b : UInt8), bytes[k]? = some b → text[3 * k + 1]? = digits[b.toNat % 16]?
  space : ∀ k, k + 1 < bytes.length → text[3 * k + 2]? = some ' '

/-! ### Digits and groups -/

theorem digits_getElem? : ∀ n < 16, digits[n]? = some (digit n) := by decide

theorem digit?_digit : ∀ n < 16, digit? (digit n) = some n := by decide

theorem digit?_eq_some_iff {c : Char} {n : Nat} : digit? c = some n ↔ n < 16 ∧ c = digit n := by
  constructor
  · intro h
    unfold digit? at h
    split at h
    · rename_i hc
      obtain rfl := Option.some.inj h
      refine ⟨by omega, ?_⟩
      rw [digit, if_pos (by omega), show 48 + (c.toNat - 48) = c.toNat by omega, Char.ofNat_toNat]
    · split at h
      · rename_i hc
        obtain rfl := Option.some.inj h
        refine ⟨by omega, ?_⟩
        rw [digit, if_neg (by omega), show 55 + (c.toNat - 55) = c.toNat by omega,
          Char.ofNat_toNat]
      · exact absurd h (by simp)
  · rintro ⟨hn, rfl⟩
    exact digit?_digit n hn

/-- Two characters are read as a byte exactly if they are its group. -/
theorem group?_eq_some_iff {high low : Char} {b : UInt8} :
    group? high low = some b ↔ [high, low] = group b := by
  have hb := b.toNat_lt
  unfold group? group
  constructor
  · intro h
    split at h
    · rename_i m n hhigh hlow
      obtain ⟨hm, rfl⟩ := digit?_eq_some_iff.1 hhigh
      obtain ⟨hn, rfl⟩ := digit?_eq_some_iff.1 hlow
      have hvalue : b.toNat = 16 * m + n := by
        rw [← Option.some.inj h, UInt8.toNat_ofNat', Nat.mod_eq_of_lt (by omega)]
      rw [hvalue, show (16 * m + n) / 16 = m by omega, show (16 * m + n) % 16 = n by omega]
    · exact absurd h (by simp)
  · intro h
    obtain ⟨rfl, hrest⟩ := List.cons.inj h
    obtain ⟨rfl, -⟩ := List.cons.inj hrest
    rw [digit?_digit _ (by omega), digit?_digit _ (by omega)]
    show some (UInt8.ofNat (16 * (b.toNat / 16) + b.toNat % 16)) = some b
    rw [Nat.div_add_mod, UInt8.ofNat_toNat]

/-! ### Dumps -/

theorem dump_cons_cons (b c : UInt8) (rest : List UInt8) :
    dump (b :: c :: rest) = digit (b.toNat / 16) :: digit (b.toNat % 16) :: ' ' :: dump (c :: rest) :=
  rfl

theorem isDump_dump (bytes : List UInt8) : IsDump bytes (dump bytes) := by
  have hdigit : ∀ b : UInt8, digits[b.toNat / 16]? = some (digit (b.toNat / 16)) ∧
      digits[b.toNat % 16]? = some (digit (b.toNat % 16)) := by
    intro b
    have hb := b.toNat_lt
    exact ⟨digits_getElem? _ (by omega), digits_getElem? _ (by omega)⟩
  -- a byte in front moves everything else on by three places
  fun_induction dump bytes with
  | case1 => exact ⟨rfl, by simp, by simp, by simp⟩
  | case2 b =>
    refine ⟨rfl, ?_, ?_, by simp⟩
    · intro k b' hk
      obtain ⟨rfl, rfl⟩ : k = 0 ∧ b = b' := by simpa [List.getElem?_singleton] using hk
      exact (hdigit b).1.symm
    · intro k b' hk
      obtain ⟨rfl, rfl⟩ : k = 0 ∧ b = b' := by simpa [List.getElem?_singleton] using hk
      exact (hdigit b).2.symm
  | case3 b c rest ih =>
    constructor
    case length =>
      have hlength := ih.length
      simp only [group, List.length_append, List.length_cons, List.length_nil] at hlength ⊢
      omega
    case high =>
      intro k b' hk
      cases k with
      | zero =>
        obtain rfl := Option.some.inj hk
        exact (hdigit b).1.symm
      | succ k => exact ih.high k b' hk
    case low =>
      intro k b' hk
      cases k with
      | zero =>
        obtain rfl := Option.some.inj hk
        exact (hdigit b).2.symm
      | succ k => exact ih.low k b' hk
    case space =>
      intro k hk
      cases k with
      | zero => rfl
      | succ k => exact ih.space k (Nat.lt_of_succ_lt_succ hk)

/-- A dump is one line. -/
theorem newline_notMem_dump (bytes : List UInt8) : '\n' ∉ dump bytes := by
  have hgroup : ∀ b : UInt8, '\n' ∉ group b := by
    intro b hmem
    have hb := b.toNat_lt
    have hdigit : ∀ n < 16, '\n' ≠ digit n := by decide
    rw [group, List.mem_cons, List.mem_singleton] at hmem
    rcases hmem with hhigh | hlow
    · exact hdigit _ (by omega) hhigh
    · exact hdigit _ (by omega) hlow
  fun_induction dump bytes with
  | case1 => exact List.not_mem_nil
  | case2 b => exact hgroup b
  | case3 b c rest ih =>
    rw [List.mem_append, List.mem_cons, not_or, not_or]
    exact ⟨hgroup b, by decide, ih⟩

/-- What stands at every place leaves one text only. -/
theorem IsDump.unique {bytes : List UInt8} {text text' : List Char} (h : IsDump bytes text)
    (h' : IsDump bytes text') : text = text' := by
  apply List.ext_getElem?
  intro i
  have hlength := h.length
  have hlength' := h'.length
  rcases Nat.lt_or_ge i (3 * bytes.length - 1) with hi | hi
  · have hk : i / 3 < bytes.length := by omega
    have hbyte := List.getElem?_eq_getElem hk
    -- the places of the byte that the index belongs to
    obtain hi' | hi' | hi' : i = 3 * (i / 3) ∨ i = 3 * (i / 3) + 1 ∨ i = 3 * (i / 3) + 2 := by
      omega
    · rw [hi', h.high _ _ hbyte, h'.high _ _ hbyte]
    · rw [hi', h.low _ _ hbyte, h'.low _ _ hbyte]
    · rw [hi', h.space _ (by omega), h'.space _ (by omega)]
  · rw [List.getElem?_eq_none (by omega), List.getElem?_eq_none (by omega)]

/-- **One text has the form of a dump.** -/
theorem isDump_iff {bytes : List UInt8} {text : List Char} : IsDump bytes text ↔ text = dump bytes :=
  ⟨fun h => h.unique (isDump_dump bytes), fun h => h ▸ isDump_dump bytes⟩

example : dump [0x0A, 0xF0] = ['0', 'A', ' ', 'F', '0'] := by decide

/-! ### Reading -/

theorem read?_dump (bytes : List UInt8) : read? (dump bytes) = some bytes := by
  have hgroup : ∀ b : UInt8, group? (digit (b.toNat / 16)) (digit (b.toNat % 16)) = some b :=
    fun b => group?_eq_some_iff.2 rfl
  fun_induction dump bytes with
  | case1 => rfl
  | case2 b =>
    show (group? _ _).map _ = some [b]
    rw [hgroup, Option.map_some]
  | case3 b c rest ih =>
    -- the dump of what follows opens with a character, so that the reader goes on
    obtain ⟨next, left, hnext⟩ : ∃ next left, dump (c :: rest) = next :: left := by
      cases rest with
      | nil => exact ⟨_, _, rfl⟩
      | cons d rest => exact ⟨_, _, rfl⟩
    rw [hnext] at ih ⊢
    show (if ' ' = ' ' then _ else none) = _
    rw [if_pos rfl, hgroup, ih]

theorem dump_of_read? {text : List Char} : ∀ {bytes : List UInt8}, read? text = some bytes →
    text = dump bytes := by
  fun_induction read? text with
  | case1 =>
    intro bytes h
    rw [← Option.some.inj h]
    rfl
  | case2 high low =>
    intro bytes h
    obtain ⟨b, hb, rfl⟩ := Option.map_eq_some_iff.1 h
    exact group?_eq_some_iff.1 hb
  | case3 high low next rest b bs hrest hb ih =>
    intro bytes h
    obtain rfl := Option.some.inj h
    have hgroup := group?_eq_some_iff.1 hb
    cases bs with
    | nil => exact absurd (ih hrest) (by simp [dump])
    | cons c bs =>
      obtain ⟨hhigh, hlow⟩ := List.cons.inj hgroup
      rw [dump_cons_cons, ← ih hrest, hhigh, (List.cons.inj hlow).1]
  | case4 => exact fun h => absurd h (by simp)
  | case5 => exact fun h => absurd h (by simp)
  | case6 => exact fun h => absurd h (by simp)

/-- **A text is read as some bytes exactly if it is their dump.** -/
theorem read?_eq_some_iff {text : List Char} {bytes : List UInt8} :
    read? text = some bytes ↔ text = dump bytes :=
  ⟨dump_of_read?, fun h => h ▸ read?_dump bytes⟩

theorem toList_text (bytes : List UInt8) : (text bytes).toList = dump bytes := String.toList_ofList

theorem read?_text (bytes : List UInt8) : read? (text bytes).toList = some bytes := by
  rw [toList_text, read?_dump]

/-- Different bytes have different texts. -/
theorem text_injective : Function.Injective text := by
  intro bytes bytes' h
  apply Option.some.inj
  rw [← read?_text bytes, h, read?_text bytes']

end BrickControl.Hex
