import Mathlib.Tactic.SplitIfs
import BrickControl.Proofs.ParamStreams

/-!
# The shortest form of a constant

A form has room for an interval of numbers around zero, and a longer form for a wider one. A constant is written in the
first form that has room for it: so its bytes spell the number that was meant, no other form with room for it takes
fewer bytes, and a number nearer to zero never takes more. Six bits could also spell -32, which no constant makes use
of: this is the one number that could be written shorter.

* `Param.decode?` is the number that the bytes of one constant spell, and `Param.IsProper` a constant as it is meant;
* `Param.Form.Holds`: the numbers that a form has room for;
* `Param.form_constant`: the form of a constant is the first one that holds it;
* `Param.size_constant_le`: no form that holds the number takes fewer bytes;
* `Param.constants_exact_and_shortest`: what is written is exact, shortest, and grows with the distance from zero.
-/

namespace BrickControl.Param

/-! ### What bytes spell -/

/-- The number that the bytes spell, if they are one constant and nothing else. -/
def decode? (bytes : List UInt8) : Option Int :=
  match read? bytes with
  | some (p, []) => p.value?
  | _ => none

/-- A constant as it is meant to be written: a short one is a number from -31 to 31. -/
def IsProper : Param → Prop
  | .lc0 value => -31 ≤ value.toInt ∧ value.toInt ≤ 31
  | .gv0 _ => False
  | _ => True

theorem decode?_encode (p : Param) : decode? p.encode = p.kept.value? := by
  have hread := p.read?_encode_append []
  rw [List.append_nil] at hread
  rw [decode?, hread]

theorem IsProper.fits {p : Param} (h : p.IsProper) : p.Fits := by
  cases p with
  | lc0 value =>
    obtain ⟨hlow, hhigh⟩ := h
    show -32 ≤ value.toInt ∧ value.toInt ≤ 31
    omega
  | gv0 index => exact h.elim
  | _ => trivial

/-! ### The room in a form -/

namespace Form

/-- The bytes that a parameter of the form takes. -/
def size : Form → Nat
  | .short => 1
  | .byte => 2
  | .word => 3
  | .long => 5
  | .global => 1

/-- The form has room for the number; of the numbers with six bits a short constant leaves out -32. -/
def Holds : Form → Int → Prop
  | .short, n => -31 ≤ n ∧ n ≤ 31
  | .byte, n => -128 ≤ n ∧ n ≤ 127
  | .word, n => -32768 ≤ n ∧ n ≤ 32767
  | .long, n => -2147483648 ≤ n ∧ n ≤ 2147483647
  | .global, _ => False

instance (n : Int) : ∀ form : Form, Decidable (form.Holds n)
  | .short => inferInstanceAs (Decidable (-31 ≤ n ∧ n ≤ 31))
  | .byte => inferInstanceAs (Decidable (-128 ≤ n ∧ n ≤ 127))
  | .word => inferInstanceAs (Decidable (-32768 ≤ n ∧ n ≤ 32767))
  | .long => inferInstanceAs (Decidable (-2147483648 ≤ n ∧ n ≤ 2147483647))
  | .global => inferInstanceAs (Decidable False)

/-- The first form with room for a number, from the shortest on. -/
def first (n : Int) : Form :=
  if Form.short.Holds n then .short
  else if Form.byte.Holds n then .byte
  else if Form.word.Holds n then .word
  else .long

/-- A form with room for a number has room for those between it and zero. -/
theorem Holds.of_between {form : Form} {m n : Int} (h : form.Holds n)
    (hbetween : (0 ≤ m ∧ m ≤ n) ∨ (n ≤ m ∧ m ≤ 0)) : form.Holds m := by
  cases form with
  | global => exact h
  | _ =>
    obtain ⟨hlow, hhigh⟩ := h
    constructor
    · omega
    · omega

/-- **The first form with room for a number is the shortest one.** -/
theorem size_first_le {form : Form} {n : Int} (h : form.Holds n) : (first n).size ≤ form.size := by
  cases form with
  | global => exact h.elim
  | short =>
    have hfirst : first n = .short := if_pos h
    exact Nat.le_of_eq (congrArg size hfirst)
  | _ =>
    -- The form that holds the number is reached at the latest by its own test.
    unfold first
    split_ifs
    all_goals decide

end Form

theorem length_encode (p : Param) : p.encode.length = p.form.size := by
  cases p <;> rfl

/-- What a parameter keeps is a number that its form has room for, or -32 in six bits. -/
theorem holds_of_fits {p : Param} {n : Int} (hfits : p.Fits) (hvalue : p.value? = some n) :
    p.form.Holds n ∨ (p.form = .short ∧ n = -32) := by
  cases p with
  | lc0 value =>
    have hn : value.toInt = n := Option.some.inj hvalue
    obtain ⟨hlow, hhigh⟩ := hfits
    by_cases hleft : n = -32
    · exact .inr ⟨rfl, hleft⟩
    · left
      show -31 ≤ n ∧ n ≤ 31
      omega
  | lc1 value | lc2 value | lc4 value =>
    have hn : value.toInt = n := Option.some.inj hvalue
    have hlow := value.le_toInt
    have hhigh := value.toInt_lt
    left
    constructor
    · omega
    · omega
  | gv0 index => cases hvalue

theorem IsProper.holds {p : Param} {n : Int} (h : p.IsProper) (hvalue : p.value? = some n) :
    p.form.Holds n := by
  cases p with
  | lc0 value =>
    have hn : value.toInt = n := Option.some.inj hvalue
    rw [← hn]
    exact h
  | gv0 index => exact h.elim
  | _ => exact (holds_of_fits h.fits hvalue).resolve_right fun hshort => by cases hshort.1

/-! ### The form of a constant -/

/-- **A constant is written in the first form with room for it.** -/
theorem form_constant (v : Int32) : (constant v).form = Form.first v.toInt := by
  have hbounds (low high : Int32) :
      (low ≤ v ∧ v ≤ high) ↔ (low.toInt ≤ v.toInt ∧ v.toInt ≤ high.toInt) :=
    and_congr Int32.le_iff_toInt_le Int32.le_iff_toInt_le
  have hshort : (-31 ≤ v ∧ v ≤ 31) ↔ Form.short.Holds v.toInt := hbounds (-31) 31
  have hbyte : (-128 ≤ v ∧ v ≤ 127) ↔ Form.byte.Holds v.toInt := hbounds (-128) 127
  have hword : (-32768 ≤ v ∧ v ≤ 32767) ↔ Form.word.Holds v.toInt := hbounds (-32768) 32767
  simp only [constant, Form.first, hshort, hbyte, hword]
  split_ifs
  all_goals rfl

theorem holds_constant (v : Int32) : (constant v).form.Holds v.toInt := by
  have hlow := v.le_toInt
  have hhigh := v.toInt_lt
  rw [form_constant, Form.first]
  split_ifs with hshort hbyte hword
  · exact hshort
  · exact hbyte
  · exact hword
  · show -2147483648 ≤ v.toInt ∧ v.toInt ≤ 2147483647
    omega

/-- No form with room for the number takes fewer bytes than its constant. -/
theorem size_constant_le {form : Form} {v : Int32} (h : form.Holds v.toInt) :
    (constant v).encode.length ≤ form.size := by
  rw [length_encode, form_constant]
  exact Form.size_first_le h

theorem isProper_constant (v : Int32) : (constant v).IsProper := by
  have hvalue := (constant_keeps v).2
  have hholds := holds_constant v
  cases hform : constant v with
  | lc0 value =>
    rw [hform] at hvalue hholds
    show -31 ≤ value.toInt ∧ value.toInt ≤ 31
    rw [Option.some.inj hvalue]
    exact hholds
  | gv0 index =>
    rw [hform] at hvalue
    cases hvalue
  | _ => trivial

theorem decode?_constant (v : Int32) : decode? (constant v).encode = some v.toInt := by
  obtain ⟨hfits, hvalue⟩ := constant_keeps v
  rw [decode?_encode, kept_of_fits hfits, hvalue]

/-- Of all parameters only a short -32 is shorter than the constant of its number. -/
theorem eq_of_shorter {v : Int32} {p : Param} (hdecode : decode? p.encode = some v.toInt)
    (hshorter : p.encode.length < (constant v).encode.length) : p.form = .short ∧ v = -32 := by
  rw [decode?_encode] at hdecode
  rcases holds_of_fits p.fits_kept hdecode with hholds | ⟨hshort, hv⟩
  · have hle := size_constant_le hholds
    rw [form_kept, ← length_encode] at hle
    omega
  · rw [form_kept] at hshort
    exact ⟨hshort, Int32.toInt_inj.1 hv⟩

/-- **Constants are exact and shortest.** The bytes of a constant spell its number, which nothing was cut off from, and
no other proper constant for the number takes fewer bytes; without the bound on short constants, -32 is the one number
that could be written shorter. On either side of zero a number further out never takes fewer bytes. -/
theorem constants_exact_and_shortest :
    (∀ v : Int32, decode? (constant v).encode = some v.toInt ∧
      (constant v).value? = some v.toInt ∧ (constant v).IsProper) ∧
    (∀ (v : Int32) (p : Param), p.IsProper → decode? p.encode = some v.toInt →
      (constant v).encode.length ≤ p.encode.length) ∧
    (∀ (v : Int32) (p : Param), decode? p.encode = some v.toInt →
      p.encode.length < (constant v).encode.length → p.form = .short ∧ v = -32) ∧
    (∀ v w : Int32, (0 ≤ v ∧ v ≤ w) ∨ (w ≤ v ∧ v ≤ 0) →
      (constant v).encode.length ≤ (constant w).encode.length) := by
  refine ⟨fun v => ⟨decode?_constant v, (constant_keeps v).2, isProper_constant v⟩, ?_,
    fun v p => eq_of_shorter, ?_⟩
  · intro v p hproper hdecode
    rw [decode?_encode, kept_of_fits hproper.fits] at hdecode
    rw [p.length_encode]
    exact size_constant_le (hproper.holds hdecode)
  · intro v w hbetween
    have hnumbers : (0 ≤ v.toInt ∧ v.toInt ≤ w.toInt) ∨ (w.toInt ≤ v.toInt ∧ v.toInt ≤ 0) :=
      hbetween.imp (And.imp Int32.le_iff_toInt_le.1 Int32.le_iff_toInt_le.1)
        (And.imp Int32.le_iff_toInt_le.1 Int32.le_iff_toInt_le.1)
    rw [(constant w).length_encode]
    exact size_constant_le ((holds_constant w).of_between hnumbers)

/-- At the edge of six bits: -32 takes two bytes, one less than as a word and one more than a short constant would;
-31 takes one. -/
theorem constants_exact_and_shortest_at_six_bits :
    (constant (-32)).encode = [0x81, 0xE0] ∧ (constant (-31)).encode = [0x21] ∧
    (lc2 (-32)).IsProper ∧ decode? (lc2 (-32)).encode = some (-32) ∧
    (constant (-32)).encode.length ≤ (lc2 (-32)).encode.length ∧
    decode? (lc0 (-32)).encode = some (-32) ∧
    (lc0 (-32)).encode.length < (constant (-32)).encode.length ∧
    (constant (-31)).encode.length ≤ (constant (-32)).encode.length := by
  obtain ⟨-, hshortest, -, hgrows⟩ := constants_exact_and_shortest
  exact ⟨by decide, by decide, trivial, by decide, hshortest (-32) (lc2 (-32)) trivial (by decide),
    by decide, by decide, hgrows (-31) (-32) (.inr (by decide))⟩

end BrickControl.Param
