import Mathlib.Algebra.Order.Floor.Div
import BrickControl.Proofs.OutputSets
import BrickControl.Proofs.PacketForm
import BrickControl.Proofs.ParamForm
import BrickControl.Proofs.Recording

/-!
# The packet of a call

A call on a device gives its arguments as numbers of the caller's choice, and a packet has one or two bytes for each.
The clamps bring every argument into the range of its field, so nothing is lost on the way to the brick, and a packet
tells which call was made.

* `Operation.Asks`: what a call comes to, in plain numbers; `Operation.asks_iff` says that it is what is sent;
* `Request.Fits`: the arguments of a request are in the ranges of their fields;
* `Request.numbers` and `Request.values_codes`: the operands of a request have its arguments as their values, signs
  included;
* `Request.isPlain_of_mem_codes`: no short constant loses a bit;
* `Request.read?_packet`: the request is read back from its packet;
* `Device.packet_tells_call`: the packet that a call sends tells the counter and the call, and calls that come to
  different requests send different packets.
-/

namespace BrickControl

/-! ### What a call comes to -/

/-- What a call asks of the brick, in plain numbers: a tone is cut off at its limits and its volume scaled to 13
levels, rounded up; a speed is brought into -100 to 100; a port is one of four. All else goes as it is. -/
inductive Operation.Asks : Operation → Request → Prop where
  | tone {hz ms volume hz' ms' : UInt32} {level : UInt8} (hms : 0 < ms.toNat)
      (hvolume : 0 < volume.toNat) (hhz : hz'.toNat = min hz.toNat 10000)
      (hms' : ms'.toNat = min ms.toNat 32767)
      (hlevel : level.toNat = 13 * min volume.toNat 100 ⌈/⌉ 100) :
      Asks (.tone hz ms volume) (.tone hz' ms' level)
  | led (status : UInt8) : Asks (.led status) (.led status)
  | motor {outputs : Outputs} {speed speed' : Int32}
      (h : speed'.toInt = max (-100) (min speed.toInt 100)) :
      Asks (.motor outputs speed) (.motor outputs speed')
  | stop (outputs : Outputs) (brake : Bool) : Asks (.stop outputs brake) (.stop outputs brake)
  | stopAll : Asks .stopAll .stopAll
  | keepAlive (minutes : UInt8) : Asks (.keepAlive minutes) (.keepAlive minutes)
  | sensor {port : UInt8} {kind : SensorKind} (h : 1 ≤ port.toNat ∧ port.toNat ≤ 4) :
      Asks (.sensor port kind) (.sensor port kind)

theorem toNat_min (m n : UInt32) : (min m n).toNat = min m.toNat n.toNat := by
  show (if m ≤ n then m else n).toNat = _
  by_cases h : m ≤ n
  · rw [if_pos h, Nat.min_eq_left (UInt32.le_iff_toNat_le.1 h)]
  · rw [if_neg h, Nat.min_eq_right (Nat.le_of_not_le fun h' => h (UInt32.le_iff_toNat_le.2 h'))]

theorem toInt_min (m n : Int32) : (min m n).toInt = min m.toInt n.toInt := by
  show (if m ≤ n then m else n).toInt = _
  by_cases h : m ≤ n
  · rw [if_pos h, Int.min_eq_left (Int32.le_iff_toInt_le.1 h)]
  · rw [if_neg h, Int.min_eq_right (Int.le_of_not_le fun h' => h (Int32.le_iff_toInt_le.2 h'))]

theorem toInt_max (m n : Int32) : (max m n).toInt = max m.toInt n.toInt := by
  show (if m ≤ n then n else m).toInt = _
  by_cases h : m ≤ n
  · rw [if_pos h, Int.max_eq_right (Int32.le_iff_toInt_le.1 h)]
  · rw [if_neg h, Int.max_eq_left (Int.le_of_not_le fun h' => h (Int32.le_iff_toInt_le.2 h'))]

theorem toNat_volumeLevel (percent : UInt32) :
    (volumeLevel percent).toNat = 13 * min percent.toNat 100 ⌈/⌉ 100 := by
  have hcut : (min percent 100).toNat = min percent.toNat 100 := toNat_min percent 100
  have hproduct : (min percent 100 * maxVolumeLevel).toNat = 13 * min percent.toNat 100 := by
    rw [UInt32.toNat_mul, hcut, show maxVolumeLevel.toNat = 13 from rfl]
    omega
  have hsum : (min percent 100 * maxVolumeLevel + 99).toNat =
      13 * min percent.toNat 100 + 99 := by
    rw [UInt32.toNat_add, hproduct, show (99 : UInt32).toNat = 99 from rfl]
    omega
  rw [volumeLevel, UInt32.toNat_toUInt8, UInt32.toNat_div, hsum, Nat.ceilDiv_eq_add_pred_div,
    show (100 : UInt32).toNat = 100 from rfl]
  exact Nat.mod_eq_of_lt (by omega)

/-- Whatever can be heard has a level from 1 to 13. -/
theorem volumeLevel_range {percent : UInt32} (h : 0 < percent.toNat) :
    1 ≤ (volumeLevel percent).toNat ∧ (volumeLevel percent).toNat ≤ 13 := by
  rw [toNat_volumeLevel, Nat.ceilDiv_eq_add_pred_div]
  omega

theorem toInt_clamp (speed : Int32) :
    (max (-maxSpeed) (min speed maxSpeed)).toInt = max (-100) (min speed.toInt 100) := by
  rw [toInt_max, toInt_min]
  rfl

/-- **A call asks for the request that is sent**, and for no other. -/
theorem Operation.asks_iff {operation : Operation} {request : Request} :
    operation.Asks request ↔ operation.request? = some request := by
  constructor
  · intro h
    cases h with
    | tone hms hvolume hhz hms' hlevel =>
      rename_i hz ms volume hz' ms' level
      have hheard : ¬ (ms = 0 ∨ volume = 0) := by
        rw [← UInt32.toNat_inj, ← UInt32.toNat_inj, UInt32.toNat_zero]
        omega
      have hz_eq : hz' = min hz maxFrequencyHz :=
        UInt32.toNat_inj.1 (hhz.trans (toNat_min hz maxFrequencyHz).symm)
      have ms_eq : ms' = min ms maxDurationMs :=
        UInt32.toNat_inj.1 (hms'.trans (toNat_min ms maxDurationMs).symm)
      have level_eq : level = volumeLevel volume :=
        UInt8.toNat_inj.1 (hlevel.trans (toNat_volumeLevel volume).symm)
      rw [request?, plan, if_neg hheard, hz_eq, ms_eq, level_eq]
    | led status => rfl
    | motor h =>
      rename_i outputs speed speed'
      have speed_eq : speed' = max (-maxSpeed) (min speed maxSpeed) :=
        Int32.toInt_inj.1 (h.trans (toInt_clamp speed).symm)
      rw [request?, plan, speed_eq]
    | stop outputs brake => rfl
    | stopAll => rfl
    | keepAlive minutes => rfl
    | sensor h => exact request?_sensor h
  · intro h
    cases operation with
    | tone hz ms volume =>
      by_cases hsilent : ms = 0 ∨ volume = 0
      · rw [request?, plan, if_pos hsilent] at h
        exact absurd h (by simp)
      · rw [request?, plan, if_neg hsilent] at h
        obtain rfl := Option.some.inj h
        rw [← UInt32.toNat_inj, ← UInt32.toNat_inj, UInt32.toNat_zero] at hsilent
        exact .tone (by omega) (by omega) (toNat_min hz maxFrequencyHz)
          (toNat_min ms maxDurationMs) (toNat_volumeLevel volume)
    | led status =>
      obtain rfl := Option.some.inj h
      exact .led status
    | motor outputs speed =>
      obtain rfl := Option.some.inj h
      exact .motor (toInt_clamp speed)
    | stop outputs brake =>
      obtain rfl := Option.some.inj h
      exact .stop outputs brake
    | stopAll =>
      obtain rfl := Option.some.inj h
      exact .stopAll
    | keepAlive minutes =>
      obtain rfl := Option.some.inj h
      exact .keepAlive minutes
    | sensor port kind =>
      by_cases hport : 1 ≤ port ∧ port ≤ 4
      · rw [request?_sensor hport] at h
        obtain rfl := Option.some.inj h
        exact .sensor hport
      · rw [request?, plan, if_neg hport] at h
        exact absurd h (by simp)

/-! ### Arguments in their fields -/

namespace Request

/-- Every argument is in the range that its field is meant for. -/
def Fits : Request → Prop
  | .tone hz ms level =>
    hz.toNat ≤ 10000 ∧ ms.toNat ≤ 32767 ∧ 1 ≤ level.toNat ∧ level.toNat ≤ 13
  | .motor _ speed => -100 ≤ speed.toInt ∧ speed.toInt ≤ 100
  | .sensor port _ => 1 ≤ port.toNat ∧ port.toNat ≤ 4
  | _ => True

theorem fits_of_asks {operation : Operation} {request : Request} (h : operation.Asks request) :
    request.Fits := by
  cases h with
  | tone hms hvolume hhz hms' hlevel =>
    have hrange := volumeLevel_range hvolume
    rw [toNat_volumeLevel, ← hlevel] at hrange
    exact ⟨by omega, by omega, hrange⟩
  | motor h => exact ⟨by omega, by omega⟩
  | sensor h => exact h
  | _ => trivial

/-- The numbers that the operands of a request stand for, in order. A status goes as the signed number of its byte. -/
def numbers : Request → List Int
  | .tone hz ms level => [level.toNat, hz.toNat, ms.toNat]
  | .led status => [status.toInt8.toInt]
  | .motor outputs speed => [0, outputs.mask.toNat, speed.toInt, 0, outputs.mask.toNat]
  | .stop outputs brake => [0, outputs.mask.toNat, if brake then 1 else 0]
  | .stopAll => [0, 15, 0]
  | .keepAlive minutes => [minutes.toNat]
  | .sensor port kind => [0, port.toNat - 1, kind.typeMode.1.toNat, kind.typeMode.2.toNat, 1]

end Request

/-- The number that a piece of a body stands for, if it is a constant. -/
def Code.value? : Code → Option Int
  | .param operand => operand.value?
  | _ => none

theorem toInt_toInt8_of_lt {b : UInt8} (h : b.toNat < 128) : b.toInt8.toInt = b.toNat := by
  show b.toBitVec.toInt = _
  rw [BitVec.toInt_eq_toNat_bmod]
  exact Int.bmod_eq_of_le (by omega) (by show (b.toNat : Int) < 128; omega)

theorem toInt_toInt16_of_lt {n : UInt32} (h : n.toNat < 32768) :
    n.toUInt16.toInt16.toInt = n.toNat := by
  have hnarrow : n.toUInt16.toNat = n.toNat := by
    rw [UInt32.toNat_toUInt16]
    omega
  show n.toUInt16.toBitVec.toInt = _
  rw [BitVec.toInt_eq_toNat_bmod]
  show (n.toUInt16.toNat : Int).bmod 65536 = _
  rw [hnarrow]
  exact Int.bmod_eq_of_le (by omega) (by show (n.toNat : Int) < 32768; omega)

theorem SensorKind.typeMode_le (kind : SensorKind) :
    kind.typeMode.1.toNat ≤ 33 ∧ kind.typeMode.2.toNat ≤ 2 := by
  cases kind <;> decide

theorem SensorKind.ofTypeMode?_typeMode (kind : SensorKind) :
    ofTypeMode? kind.typeMode = some kind := by
  cases kind <;> decide

/-! ### Operands -/

/-- A parameter that loses nothing and has no sign that could get lost. -/
def Param.IsPlain : Param → Prop
  | .lc0 value => 0 ≤ value.toInt ∧ value.toInt ≤ 31
  | .gv0 index => index.toNat < 32
  | _ => True

theorem Param.IsPlain.fits {p : Param} (h : p.IsPlain) : p.Fits := by
  cases p with
  | lc0 v => exact ⟨by have := h.1; omega, h.2⟩
  | gv0 index => exact h
  | _ => trivial

/-- The mask of a short constant takes nothing from a plain one. -/
theorem Param.encode_of_isPlain {v : Int8} (h : (lc0 v).IsPlain) :
    (lc0 v).encode = [v.toUInt8] := by
  obtain ⟨hlow, hhigh⟩ := h
  have hbits : v.toUInt8.toNat ≤ 31 := by
    have hlt := v.toUInt8.toNat_lt
    have hsign : v.toInt = v.toUInt8.toNat ∨ v.toInt = v.toUInt8.toNat - 256 := by
      rw [toInt_eq_bmod, Int.bmod_def]
      split
      · exact .inl (by omega)
      · exact .inr (by omega)
    omega
  rw [encode, List.cons.injEq, ← UInt8.toNat_inj, UInt8.toNat_and]
  refine ⟨?_, rfl⟩
  show v.toUInt8.toNat &&& 2 ^ 6 - 1 = _
  rw [Nat.and_two_pow_sub_one_eq_mod]
  omega

theorem Param.value?_constant_ofNat (b : UInt8) :
    (Param.constant (Int32.ofNat b.toNat)).value? = some (b.toNat : Int) := by
  have hlt := b.toNat_lt
  rw [(constant_keeps _).2, Int32.toInt_ofNat_of_lt (by omega)]

theorem Param.isPlain_constant (b : UInt8) : (Param.constant (Int32.ofNat b.toNat)).IsPlain := by
  have hvalue := value?_constant_ofNat b
  have hfits := (constant_keeps (Int32.ofNat b.toNat)).1
  generalize constant (Int32.ofNat b.toNat) = p at hvalue hfits
  cases p with
  | lc0 v =>
    have hv : v.toInt = b.toNat := Option.some.inj hvalue
    exact ⟨by omega, hfits.2⟩
  | gv0 index => exact hfits
  | _ => trivial

/-- A piece of a body whose operand, if it is one, is plain. -/
def Code.IsPlain : Code → Prop
  | .param operand => operand.IsPlain
  | _ => True

namespace Request

theorem isPlain_short {b : UInt8} (h : b.toNat ≤ 31) : (short b).IsPlain := by
  show 0 ≤ b.toInt8.toInt ∧ b.toInt8.toInt ≤ 31
  rw [toInt_toInt8_of_lt (by omega)]
  omega

theorem value?_short {b : UInt8} (h : b.toNat ≤ 31) : (short b).value? = some (b.toNat : Int) := by
  show some b.toInt8.toInt = _
  rw [toInt_toInt8_of_lt (by omega)]

/-- The port of a request as the brick counts them, from zero. -/
theorem toNat_port {port : UInt8} (h : 1 ≤ port.toNat) : (port - 1).toNat = port.toNat - 1 :=
  UInt8.toNat_sub_of_le port 1 (UInt8.le_iff_toNat_le.2 h)

/-- **Operands lose nothing**: every short one has room in its six bits, without a sign. -/
theorem isPlain_of_mem_codes {request : Request} (h : request.Fits) :
    ∀ code ∈ request.codes, code.IsPlain := by
  cases request with
  | tone hz ms level =>
    obtain ⟨-, -, -, hlevel⟩ := h
    simp only [codes, List.forall_mem_cons]
    exact ⟨trivial, trivial, isPlain_short (by omega), trivial, trivial, by simp⟩
  | led status =>
    simp only [codes, List.forall_mem_cons]
    exact ⟨trivial, trivial, trivial, by simp⟩
  | motor outputs speed =>
    have hmask := outputs.mask_le
    simp only [codes, motors, List.cons_append, List.nil_append, List.forall_mem_cons]
    exact ⟨trivial, isPlain_short (by decide), isPlain_short (by omega), trivial, trivial,
      isPlain_short (by decide), isPlain_short (by omega), by simp⟩
  | stop outputs brake =>
    have hmask := outputs.mask_le
    simp only [codes, motors, List.cons_append, List.nil_append, List.forall_mem_cons]
    exact ⟨trivial, isPlain_short (by decide), isPlain_short (by omega),
      isPlain_short (by cases brake <;> decide), by simp⟩
  | stopAll =>
    simp only [codes, motors, List.cons_append, List.nil_append, List.forall_mem_cons]
    exact ⟨trivial, isPlain_short (by decide), isPlain_short (by decide),
      isPlain_short (by decide), trivial, trivial, by simp⟩
  | keepAlive minutes =>
    simp only [codes, List.forall_mem_cons]
    exact ⟨trivial, Param.isPlain_constant minutes, by simp⟩
  | sensor port kind =>
    have hport := toNat_port h.1
    have hmode := kind.typeMode_le.2
    obtain ⟨hlow, hhigh⟩ := h
    simp only [codes, List.forall_mem_cons]
    exact ⟨trivial, trivial, isPlain_short (by decide), isPlain_short (by omega),
      Param.isPlain_constant kind.typeMode.1, isPlain_short (by omega),
      isPlain_short (by decide), (by decide : (0 : UInt8).toNat < 32), by simp⟩

theorem fits_of_mem_codes {request : Request} (h : request.Fits) {p : Param}
    (hmem : .param p ∈ request.codes) : p.Fits :=
  Param.IsPlain.fits (isPlain_of_mem_codes h _ hmem)

/-- **Operands keep their numbers**: no argument wraps around or changes its sign in its field. -/
theorem values_codes {request : Request} (h : request.Fits) :
    request.codes.filterMap Code.value? = request.numbers := by
  cases request with
  | tone hz ms level =>
    obtain ⟨hhz, hms, -, hlevel⟩ := h
    show [level.toInt8.toInt, hz.toUInt16.toInt16.toInt, ms.toUInt16.toInt16.toInt] = _
    rw [toInt_toInt8_of_lt (by omega), toInt_toInt16_of_lt (by omega),
      toInt_toInt16_of_lt (by omega)]
    rfl
  | led status => rfl
  | motor outputs speed =>
    obtain ⟨hlow, hhigh⟩ := h
    have hmask := outputs.mask_le
    show [0, outputs.mask.toInt8.toInt, speed.toInt8.toInt, 0, outputs.mask.toInt8.toInt] = _
    rw [toInt_toInt8_of_lt (by omega), Param.toInt_toInt8 ⟨by omega, by omega⟩]
    rfl
  | stop outputs brake =>
    have hmask := outputs.mask_le
    show [0, outputs.mask.toInt8.toInt, (if brake then (1 : UInt8) else 0).toInt8.toInt] = _
    rw [toInt_toInt8_of_lt (by omega)]
    cases brake <;> rfl
  | stopAll => rfl
  | keepAlive minutes =>
    show [Code.param (Param.constant (Int32.ofNat minutes.toNat))].filterMap Code.value? = _
    rw [List.filterMap_cons, Code.value?, Param.value?_constant_ofNat]
    rfl
  | sensor port kind =>
    have hport := toNat_port h.1
    have hmode := kind.typeMode_le.2
    obtain ⟨hlow, hhigh⟩ := h
    have hdevice : (Code.param
        (Param.constant (Int32.ofNat kind.typeMode.1.toNat))).value? = _ :=
      Param.value?_constant_ofNat kind.typeMode.1
    have hmode' : (short kind.typeMode.2).value? = _ := value?_short (by omega)
    have hport' : (short (port - 1)).value? = _ := value?_short (by omega)
    have hfirst : ((port.toNat - 1 : Nat) : Int) = port.toNat - 1 := by omega
    show 0 :: [short (port - 1), .param (Param.constant (Int32.ofNat kind.typeMode.1.toNat)),
      short kind.typeMode.2, short 1, .param (.gv0 0)].filterMap Code.value? = _
    rw [List.filterMap_cons_some hport', List.filterMap_cons_some hdevice,
      List.filterMap_cons_some hmode', hport, hfirst]
    rfl

/-! ### Packets read back -/

theorem operands?_encode {ps : List Param} (h : ∀ p ∈ ps, p.Fits) :
    operands? ps.length (ps.flatMap Param.encode) = some ps := by
  have hread := Param.readMany?_append h []
  rw [List.append_nil] at hread
  rw [operands?, hread]

theorem toUInt32_toUInt16 {n : UInt32} (h : n.toNat < 65536) : n.toUInt16.toUInt32 = n := by
  apply UInt32.toNat_inj.1
  rw [UInt16.toNat_toUInt32, UInt32.toNat_toUInt16]
  omega

theorem toneOf?_operands {hz ms : UInt32} {level : UInt8} (h : (tone hz ms level).Fits) :
    toneOf? ([.lc0 level.toInt8, .lc2 hz.toUInt16.toInt16, .lc2 ms.toUInt16.toInt16].flatMap
      Param.encode) = some (.tone hz ms level) := by
  obtain ⟨hhz, hms, -, -⟩ := id h
  have hfits : ∀ p ∈ [Param.lc0 level.toInt8, .lc2 hz.toUInt16.toInt16, .lc2 ms.toUInt16.toInt16],
      p.Fits := fun p hp => fits_of_mem_codes h
    (List.mem_cons_of_mem _ (List.mem_cons_of_mem _ (List.mem_map_of_mem hp)))
  have hread : operands? 3 _ = _ := operands?_encode hfits
  rw [toneOf?, hread]
  simp only [UInt16.toUInt16_toInt16, UInt8.toUInt8_toInt8]
  rw [toUInt32_toUInt16 (by omega), toUInt32_toUInt16 (by omega)]

theorem motorOf?_operands {outputs : Outputs} {speed : Int32} (h : (motor outputs speed).Fits) :
    motorOf? ([.lc0 0, .lc0 outputs.mask.toInt8, .lc1 speed.toInt8].flatMap Param.encode ++
      Bytecode.opOutputStart ::
        [.lc0 0, .lc0 outputs.mask.toInt8].flatMap Param.encode) =
      some (.motor outputs speed) := by
  have hstarts : ∀ p ∈ [Param.lc0 0, .lc0 outputs.mask.toInt8], p.Fits :=
    fun p hp => fits_of_mem_codes h
      (List.mem_cons_of_mem _ (List.mem_append_left _ (List.mem_map_of_mem hp)))
  have hspeeds : ∀ p ∈ [Param.lc0 0, .lc0 outputs.mask.toInt8, .lc1 speed.toInt8], p.Fits :=
    List.forall_mem_append.2 ⟨hstarts,
      List.forall_mem_singleton.2 (show (Param.lc1 speed.toInt8).Fits from trivial)⟩
  have hread : Param.readMany? 3 _ = _ := Param.readMany?_append hspeeds (Bytecode.opOutputStart ::
    [Param.lc0 0, .lc0 outputs.mask.toInt8].flatMap Param.encode)
  have hstart : operands? 2 _ = _ := operands?_encode hstarts
  have hspeed : speed.toInt8.toInt32 = speed := by
    obtain ⟨hlow, hhigh⟩ := h
    apply Int32.toInt_inj.1
    rw [Int8.toInt_toInt32, Param.toInt_toInt8 ⟨by omega, by omega⟩]
  rw [motorOf?, hread]
  refine (if_pos ⟨rfl, hstart⟩).trans ?_
  rw [outputs.ofMask?_mask, Option.map_some, hspeed]

theorem stopOf?_operands (outputs : Outputs) (brake : Bool) :
    stopOf? ([.lc0 0, .lc0 outputs.mask.toInt8,
      .lc0 (if brake then (1 : UInt8) else 0).toInt8].flatMap Param.encode) =
      some (.stop outputs brake) := by
  have hfits : ∀ p ∈ [Param.lc0 0, .lc0 outputs.mask.toInt8,
      .lc0 (if brake then (1 : UInt8) else 0).toInt8], p.Fits := fun p hp =>
    fits_of_mem_codes (show (stop outputs brake).Fits from trivial)
      (List.mem_cons_of_mem _ (List.mem_map_of_mem hp))
  have hread : Param.readMany? 3 _ = _ := Param.readMany?_append hfits []
  rw [List.append_nil] at hread
  rw [stopOf?, hread]
  split
  · rename_i mask brake' rest hsame
    simp only [Option.some.injEq, Prod.mk.injEq, List.cons.injEq, Param.lc0.injEq] at hsame
    obtain ⟨⟨-, rfl, rfl, -⟩, rfl⟩ := hsame
    rw [outputs.ofMask?_mask]
    cases brake <;> rfl
  · rename_i hother
    exact absurd rfl (hother _ _ _)

theorem keepAliveOf?_operands (minutes : UInt8) :
    keepAliveOf? (Param.constant (Int32.ofNat minutes.toNat)).encode =
      some (.keepAlive minutes) := by
  have hfits : ∀ p ∈ [Param.constant (Int32.ofNat minutes.toNat)], p.Fits := by
    intro p hp
    rw [List.mem_singleton.1 hp]
    exact (Param.constant_keeps _).1
  have hread : operands? 1 _ = _ := operands?_encode hfits
  rw [List.flatMap_singleton] at hread
  rw [keepAliveOf?, hread]
  simp only
  rw [Param.value?_constant_ofNat, Option.map_some, Int.toNat_natCast, UInt8.ofNat_toNat]

theorem sensorOf?_operands {port : UInt8} {kind : SensorKind} (h : (sensor port kind).Fits) :
    sensorOf? ([.lc0 0, .lc0 (port - 1).toInt8,
      Param.constant (Int32.ofNat kind.typeMode.1.toNat), .lc0 kind.typeMode.2.toInt8, .lc0 1,
      .gv0 0].flatMap Param.encode) = some (.sensor port kind) := by
  have hfits : ∀ p ∈ [Param.lc0 0, .lc0 (port - 1).toInt8,
      Param.constant (Int32.ofNat kind.typeMode.1.toNat), .lc0 kind.typeMode.2.toInt8, .lc0 1,
      .gv0 0], p.Fits := fun p hp => fits_of_mem_codes h
    (List.mem_cons_of_mem _ (List.mem_cons_of_mem _ (List.mem_map_of_mem hp)))
  have hread : operands? 6 _ = _ := operands?_encode hfits
  rw [sensorOf?, hread]
  split
  · rename_i port' device mode hsame
    simp only [Option.some.injEq, List.cons.injEq, Param.lc0.injEq] at hsame
    obtain ⟨-, rfl, rfl, rfl, -⟩ := hsame
    rw [Param.value?_constant_ofNat]
    simp only [Int.toNat_natCast, UInt8.ofNat_toNat, UInt8.toUInt8_toInt8,
      kind.ofTypeMode?_typeMode, Option.map_some, UInt8.sub_add_cancel]
  · rename_i hother
    exact absurd rfl (hother _ _ _)

/-- **A body spells its request.** -/
theorem ofBody?_body {request : Request} (h : request.Fits) (counter : UInt16) :
    ofBody? (request.command counter).body = some request := by
  cases request with
  | tone hz ms level => exact toneOf?_operands h
  | led status =>
    show ledOf? [Bytecode.tagByte, status.toInt8.toUInt8] = _
    have hread : operands? 1 [Bytecode.tagByte, status.toInt8.toUInt8] = _ :=
      operands?_encode (List.forall_mem_singleton.2 (show (Param.lc1 status.toInt8).Fits from trivial))
    rw [ledOf?, hread]
    simp only [UInt8.toUInt8_toInt8]
  | motor outputs speed => exact motorOf?_operands h
  | stop outputs brake => exact stopOf?_operands outputs brake
  | stopAll => rfl
  | keepAlive minutes =>
    show keepAliveOf? (_ ++ []) = _
    rw [List.append_nil]
    exact keepAliveOf?_operands minutes
  | sensor port kind => exact sensorOf?_operands h

theorem length_body_le (request : Request) (counter : UInt16) :
    (request.command counter).body.length ≤ Command.maxBody := by
  have hcodes : request.codes.length ≤ 8 := by
    cases request <;> exact Nat.le_of_ble_eq_true rfl
  have hbody : (request.command counter).body.length ≤ 5 * request.codes.length :=
    (request.command counter).length_body_le
  show _ ≤ 65530
  omega

/-- **A packet tells its counter and its request.** -/
theorem read?_packet {request : Request} (h : request.Fits) (counter : UInt16) :
    read? (request.packet counter) = some (counter, request) := by
  rw [read?, packet, Command.read?_bytes (request.length_body_le counter)]
  simp only
  rw [ofBody?_body h, Option.map_some]
  rfl

end Request

/-! ### Packets that calls send -/

theorem Operation.Asks.unique {operation : Operation} {request request' : Request}
    (h : operation.Asks request) (h' : operation.Asks request') : request' = request := by
  have hsame := (asks_iff.1 h').symm.trans (asks_iff.1 h)
  exact Option.some.inj hsame

namespace Device

/-- A call sends a packet over a recorder, behind those recorded before. -/
def Sends (device : Device Recorder) (operation : Operation) (packet : List UInt8) : Prop :=
  (device.perform operation).state.link.sent.toList = device.link.sent.toList ++ [packet]

/-- What a call sends is the packet of the request that it comes to. -/
theorem asks_of_sends {device : Device Recorder} {operation : Operation} {packet : List UInt8}
    (h : device.Sends operation packet) :
    ∃ request, operation.Asks request ∧ packet = request.packet device.counter := by
  unfold Sends at h
  rcases device.perform_recorder operation with ⟨hsame, -⟩ | ⟨request, -, hrequest, hrecords⟩
  · rw [hsame] at h
    exact absurd h (by simp)
  · rw [hrecords.packets] at h
    have hpacket : request.packet device.counter = packet := by
      simpa using List.append_cancel_left h
    exact ⟨request, Operation.asks_iff.2 hrequest, hpacket.symm⟩

/-- **A packet tells the call that sent it.** From the packet of any call, under any counter, one reader gets back
the counter and what the call comes to. The operands stand for the arguments as they are, signs included, and no
short one loses a bit to its mask. So calls under one counter send the same packet exactly if they come to the
same. -/
theorem packet_tells_call {device : Device Recorder} {operation : Operation}
    {packet : List UInt8} (h : device.Sends operation packet) :
    ∃ request, operation.Asks request ∧ packet = request.packet device.counter ∧
      Request.read? packet = some (device.counter, request) ∧ request.Fits ∧
      request.codes.filterMap Code.value? = request.numbers ∧
      (∀ v, .param (.lc0 v) ∈ request.codes → (Param.lc0 v).encode = [v.toUInt8]) ∧
      ∀ (other : Device Recorder) (operation' : Operation) (packet' : List UInt8),
        other.counter = device.counter → other.Sends operation' packet' →
        ∀ request', operation'.Asks request' → (packet' = packet ↔ request' = request) := by
  obtain ⟨request, hasks, rfl⟩ := asks_of_sends h
  have hfits := Request.fits_of_asks hasks
  have hread := Request.read?_packet hfits device.counter
  refine ⟨request, hasks, rfl, hread, hfits, Request.values_codes hfits, ?_, ?_⟩
  · intro v hv
    exact Param.encode_of_isPlain (Request.isPlain_of_mem_codes hfits _ hv)
  · intro other operation' packet' hcounter hsends request' hasks'
    obtain ⟨sent, hasksSent, hpacket⟩ := asks_of_sends hsends
    obtain rfl := hasks'.unique hasksSent
    rw [hcounter] at hpacket
    constructor
    · intro hsame
      have hread' := Request.read?_packet (Request.fits_of_asks hasks') device.counter
      rw [← hpacket, hsame, hread] at hread'
      exact (Prod.mk.inj (Option.some.inj hread')).2.symm
    · intro hsame
      rw [hpacket, hsame]

/-- A tone beyond every limit, under the last counter. -/
theorem packet_tells_call_of_loudest_tone :
    let device : Device Recorder := ⟨Recorder.empty, 65535, true⟩
    let packet : List UInt8 :=
      [14, 0, 255, 255, 128, 0, 0, 148, 1, 13, 130, 16, 39, 130, 255, 127]
    device.Sends (.tone 16000 100000 250) packet ∧
      Request.read? packet = some (65535, .tone 10000 32767 13) := by
  intro device packet
  have hsends : device.Sends (.tone 16000 100000 250) packet := by
    unfold Sends
    decide
  obtain ⟨request, hasks, -, hread, -⟩ := packet_tells_call hsends
  have hrequest : (Operation.tone 16000 100000 250).request? =
      some (.tone 10000 32767 13) := by decide
  have hsame := hasks.unique (Operation.asks_iff.2 hrequest)
  exact ⟨hsends, hsame ▸ hread⟩

end Device

end BrickControl
