import Mathlib.Data.List.GetD
import Mathlib.Logic.Function.Iterate

/-!
# Reflected cyclic redundancy checks

A register of any width divides a bit stream by a polynomial, least significant
bit of each byte first. `feed` is the textbook shift register that takes one
message bit at a time; implementations add a whole byte and then shift eight
times, which `shift_iterate_byte` shows to be the same.
-/

namespace NrfUnifying.Lib.Crc

variable {w : Nat}

def shift (poly reg : BitVec w) : BitVec w :=
  (reg >>> 1) ^^^ (if reg.getLsbD 0 then poly else 0#w)

/-- One message bit enters at the low end. -/
def feed (poly reg : BitVec w) (bit : Bool) : BitVec w :=
  shift poly (reg ^^^ (BitVec.ofBool bit).setWidth w)

def bits (byte : BitVec 8) : List Bool := (List.range 8).map byte.getLsbD

/-- The register after a message. -/
def register (poly init : BitVec w) (message : List (BitVec 8)) : BitVec w :=
  (message.flatMap bits).foldl (feed poly) init

theorem register_append (poly init : BitVec w) (first second : List (BitVec 8)) :
    register poly init (first ++ second) = register poly (register poly init first) second := by
  simp [register]

/-- Division by the polynomial is linear. -/
theorem shift_xor (poly a b : BitVec w) :
    shift poly (a ^^^ b) = shift poly a ^^^ shift poly b := by
  refine BitVec.eq_of_getLsbD_eq fun i inside => ?_
  simp only [shift, BitVec.getLsbD_xor, BitVec.getLsbD_ushiftRight]
  cases a.getLsbD 0 <;> cases b.getLsbD 0 <;>
    simp only [Bool.xor_false, Bool.xor_true, Bool.not_false, Bool.not_true, if_true, if_false,
      Bool.false_eq_true, BitVec.getLsbD_zero, Bool.xor_assoc] <;>
    cases poly.getLsbD i <;> cases a.getLsbD (1 + i) <;> cases b.getLsbD (1 + i) <;> rfl

/-- Shifting adds the polynomial for the low bit alone. -/
theorem shift_eq_feed (poly reg : BitVec w) :
    shift poly reg = shift poly ((BitVec.ofBool (reg.getLsbD 0)).setWidth w) ^^^ (reg >>> 1) := by
  refine BitVec.eq_of_getLsbD_eq fun i inside => ?_
  have wide : 0 < w := by omega
  simp only [shift, BitVec.getLsbD_xor, BitVec.getLsbD_ushiftRight, BitVec.getLsbD_setWidth,
    BitVec.getLsbD_ofBool, wide]
  cases reg.getLsbD 0 <;> simp [Bool.xor_comm]

theorem shift_iterate (poly reg data : BitVec w) (n : Nat) :
    (shift poly)^[n] (reg ^^^ data) =
      ((List.range n).map data.getLsbD).foldl (feed poly) reg ^^^ (data >>> n) := by
  induction n with
  | zero => simp
  | succ n ih =>
      rw [Function.iterate_succ_apply', ih, List.range_succ, List.map_append, List.foldl_append]
      simp only [List.map_cons, List.map_nil, List.foldl_cons, List.foldl_nil, feed, shift_xor]
      rw [shift_eq_feed poly (data >>> n), BitVec.xor_assoc, ← BitVec.shiftRight_add]
      simp

theorem shift_iterate_byte (poly reg : BitVec w) (byte : BitVec 8) (wide : 8 ≤ w) :
    (shift poly)^[8] (reg ^^^ byte.setWidth w) = (bits byte).foldl (feed poly) reg := by
  rw [shift_iterate]
  have spent : byte.setWidth w >>> 8 = 0#w := by
    refine BitVec.eq_of_getLsbD_eq fun i inside => ?_
    simp
  have same : (List.range 8).map (byte.setWidth w).getLsbD = bits byte := by
    refine List.map_congr_left fun i member => ?_
    have inside := List.mem_range.mp member
    simp [show i < w by omega]
  rw [spent, same, BitVec.xor_zero]

/-- The CRC that an implementation keeps byte by byte is the register of the bit stream. -/
theorem register_eq_foldl (poly init : BitVec w) (message : List (BitVec 8)) (wide : 8 ≤ w) :
    register poly init message =
      message.foldl (fun reg byte => (shift poly)^[8] (reg ^^^ byte.setWidth w)) init := by
  induction message generalizing init with
  | nil => rfl
  | cons byte rest ih =>
      rw [List.foldl_cons, ← ih, shift_iterate_byte poly init byte wide]
      exact register_append poly init [byte] rest

/-! ## Bursts -/

section Bursts

variable {poly : BitVec w}

/-- The top bit of the polynomial tells which bit was shifted out. -/
theorem shift_injective (top : poly.getLsbD (w - 1) = true) : Function.Injective (shift poly) := by
  intro a b same
  have wide : 0 < w := by
    have inside := BitVec.lt_of_getLsbD top
    omega
  have high (reg : BitVec w) : (shift poly reg).getLsbD (w - 1) = reg.getLsbD 0 := by
    unfold shift
    rw [BitVec.getLsbD_xor, BitVec.getLsbD_ushiftRight, BitVec.getLsbD_of_ge reg _ (by omega)]
    cases reg.getLsbD 0
    · simp
    · simpa using top
  have low : a.getLsbD 0 = b.getLsbD 0 := by
    rw [← high a, ← high b, same]
  have rest : a >>> 1 = b >>> 1 := by
    unfold shift at same
    rw [low] at same
    exact (BitVec.xor_left_inj _).mp same
  apply BitVec.eq_of_getLsbD_eq
  intro i inside
  cases i with
  | zero => exact low
  | succ i =>
      have bit := congrArg (·.getLsbD i) rest
      simp only [BitVec.getLsbD_ushiftRight] at bit
      rwa [Nat.add_comm] at bit

/-- Different registers stay different whatever message follows. -/
theorem feed_foldl_injective (top : poly.getLsbD (w - 1) = true) (stream : List Bool) :
    Function.Injective fun reg => stream.foldl (feed poly) reg := by
  induction stream with
  | nil => exact Function.injective_id
  | cons bit stream ih =>
      intro a b same
      have fed : feed poly a bit = feed poly b bit := ih same
      exact (BitVec.xor_left_inj _).mp (shift_injective top fed)

/-- At most `w` bits as the low bits of a register. -/
def pack (w : Nat) (stream : List Bool) : BitVec w := (BitVec.ofBoolListLE stream).setWidth w

theorem pack_getLsbD {stream : List Bool} {i : Nat} (inside : i < w) :
    (pack w stream).getLsbD i = stream.getD i false := by
  unfold pack
  rw [BitVec.getLsbD_setWidth]
  simp [inside]

/-- The bits of a stream that fits enter the register all at once. -/
theorem feed_foldl_pack (poly reg : BitVec w) {stream : List Bool} (fits : stream.length ≤ w) :
    stream.foldl (feed poly) reg = (shift poly)^[stream.length] (reg ^^^ pack w stream) := by
  have spent : pack w stream >>> stream.length = 0#w := by
    apply BitVec.eq_of_getLsbD_eq
    intro i inside
    rw [BitVec.getLsbD_ushiftRight, BitVec.getLsbD_zero]
    rcases Nat.lt_or_ge (stream.length + i) w with low | high
    · rw [pack_getLsbD low, List.getD_eq_default _ _ (Nat.le_add_right _ _)]
    · exact BitVec.getLsbD_of_ge _ _ high
  have same : (List.range stream.length).map (pack w stream).getLsbD = stream := by
    apply List.ext_getElem
    · simp
    · intro i _ inside
      simp [pack_getLsbD (show i < w by omega), List.getD_eq_getElem?_getD, inside]
  rw [shift_iterate, same, spent, BitVec.xor_zero]

/-- Streams of one length that fit the register and leave it alike are equal. -/
theorem eq_of_feed_foldl_eq (top : poly.getLsbD (w - 1) = true) {reg : BitVec w}
    {first second : List Bool} (fits : first.length ≤ w) (lengths : first.length = second.length)
    (same : first.foldl (feed poly) reg = second.foldl (feed poly) reg) : first = second := by
  rw [feed_foldl_pack poly reg fits, feed_foldl_pack poly reg (lengths ▸ fits), lengths] at same
  have packed := (BitVec.xor_right_inj _).mp ((shift_injective top).iterate _ same)
  apply List.ext_getElem lengths
  intro i inside inside'
  have bit := congrArg (·.getLsbD i) packed
  simp only [pack_getLsbD (show i < w by omega)] at bit
  simpa [List.getD_eq_getElem?_getD, inside, inside'] using bit

/-- Two streams differ at most in the `count` bits from `first` on. -/
def DifferWithin (first count : Nat) (one other : List Bool) : Prop :=
  ∀ i : Nat, one[i]? ≠ other[i]? → first ≤ i ∧ i < first + count

theorem DifferWithin.split {first count : Nat} {one other : List Bool}
    (within : DifferWithin first count one other) :
    one.take first = other.take first ∧
      one.drop (first + count) = other.drop (first + count) := by
  constructor
  · apply List.ext_getElem?
    intro i
    rcases Nat.lt_or_ge i first with before | after
    · rw [List.getElem?_take_of_lt before, List.getElem?_take_of_lt before]
      by_contra differ
      have bounds := within i differ
      omega
    · rw [List.getElem?_eq_none (by simp; omega), List.getElem?_eq_none (by simp; omega)]
  · apply List.ext_getElem?
    intro i
    rw [List.getElem?_drop, List.getElem?_drop]
    by_contra differ
    have bounds := within _ differ
    omega

theorem take_drop_append (stream : List Bool) (first count : Nat) :
    stream =
      stream.take first ++ ((stream.drop first).take count ++ stream.drop (first + count)) := by
  rw [← List.drop_drop, List.take_append_drop, List.take_append_drop]

/-- A burst no longer than the register changes it. -/
theorem feed_foldl_ne_of_burst (top : poly.getLsbD (w - 1) = true) (init : BitVec w)
    {first : Nat} {one other : List Bool} (lengths : one.length = other.length)
    (within : DifferWithin first w one other) (differ : one ≠ other) :
    one.foldl (feed poly) init ≠ other.foldl (feed poly) init := by
  intro same
  obtain ⟨front, back⟩ := within.split
  rw [take_drop_append one first w, take_drop_append other first w, front, back,
    List.foldl_append, List.foldl_append, List.foldl_append, List.foldl_append] at same
  have burst := eq_of_feed_foldl_eq top (List.length_take_le _ _) (by simp [lengths])
    (feed_foldl_injective top _ same)
  apply differ
  rw [take_drop_append one first w, take_drop_append other first w, front, back, burst]

end Bursts

end NrfUnifying.Lib.Crc
