import NrfUnifying.Lib.Numerals
import NrfUnifying.Radio.Format

/-!
# Writing a number

`write_u32` collects the digits of a number in a buffer of ten, the last digit
first, and copies them out in reverse. Every index is checked here, and what the
two loops write is the decimal numeral.
-/

namespace NrfUnifying.Radio

open Lib.Bytes Lib.Numerals

/-- The digits of a value from the last one on, with their count. -/
def collectDigits (digits : Vector UInt8 10) (count : Nat) (value : UInt32) :
    Option (Vector UInt8 10 × Nat) :=
  if value = 0 then some (digits, count)
  else if inside : count < 10 then
    collectDigits (digits.set count (0x30 + (value % 10).toUInt8)) (count + 1) (value / 10)
  else none
termination_by 10 - count

/-- The digits below `count`, from the last one down. -/
def emitDigits (digits : Vector UInt8 10) : (count : Nat) → List UInt8 → Nat → Written
  | 0, out, pos => some (out, pos)
  | count + 1, out, pos =>
      digits[count]?.bind fun digit =>
        (put out pos digit).bind fun out => emitDigits digits count out (pos + 1)

/-- `writeU32` with its digit buffer. -/
def checkedWriteU32 (out : List UInt8) (pos : Nat) (value : UInt32) : Written :=
  if value = 0 then (put out pos 0x30).map fun out => (out, pos + 1)
  else
    (collectDigits (.replicate 10 0) 0 value).bind fun (digits, count) =>
      emitDigits digits count out pos

/-! ## The two loops -/

theorem digits_zero (room : Nat) : digits room 0 = [] := by
  cases room <;> rfl

theorem digits_succ (room : Nat) {value : UInt32} (some : value ≠ 0) :
    digits (room + 1) value = (0x30 + (value % 10).toUInt8) :: digits room (value / 10) := by
  rw [digits, if_neg some]

/-- A value with at most `room` digits is collected, behind the digits that are there. -/
theorem collectDigits_eq {room : Nat} (collected : Vector UInt8 10) {count : Nat} {value : UInt32}
    (whole : count + room = 10) (small : value.toNat < 10 ^ room) :
    ∃ after, collectDigits collected count value =
        some (after, count + (digits room value).length) ∧
      after.toList.take (count + (digits room value).length) =
        collected.toList.take count ++ digits room value := by
  induction room generalizing collected count value with
  | zero =>
      have zero : value = 0 := UInt32.toNat_inj.mp (Nat.lt_one_iff.mp small)
      subst zero
      refine ⟨collected, ?_, (List.append_nil _).symm⟩
      rw [collectDigits, if_pos rfl]
      rfl
  | succ room ih =>
      by_cases zero : value = 0
      · subst zero
        refine ⟨collected, ?_, (List.append_nil _).symm⟩
        rw [collectDigits, if_pos rfl]
        rfl
      · have inside : count < 10 := by omega
        have fewer : (value / 10).toNat < 10 ^ room := by
          rw [UInt32.toNat_div]
          apply Nat.div_lt_of_lt_mul
          rw [Nat.pow_succ, Nat.mul_comm] at small
          exact small
        have whole' : count + 1 + room = 10 := by omega
        obtain ⟨after, loop, front⟩ :=
          ih (collected.set count (0x30 + (value % 10).toUInt8)) whole' fewer
        rw [digits_succ room zero, List.length_cons, Nat.add_comm (digits room (value / 10)).length,
          ← Nat.add_assoc]
        refine ⟨after, ?_, ?_⟩
        · rw [collectDigits, if_neg zero, dif_pos inside]
          exact loop
        · rw [front, Vector.toList_set, List.take_add_one, List.take_set_of_le (Nat.le_refl _),
            List.append_assoc]
          have length : count < collected.toList.length := by
            rw [Vector.length_toList]
            exact inside
          rw [List.getElem?_set_self length]
          rfl

theorem emitDigits_eq (collected : Vector UInt8 10) {count : Nat} (inside : count ≤ 10)
    (out : List UInt8) (pos : Nat) :
    emitDigits collected count out pos = puts out pos (collected.toList.take count).reverse := by
  induction count generalizing out pos with
  | zero => rfl
  | succ count ih =>
      have length : count < collected.toList.length := by
        rw [Vector.length_toList]
        exact inside
      rw [emitDigits, List.take_succ_eq_append_getElem length, List.reverse_concat, puts,
        Vector.getElem?_eq_getElem inside, Option.bind_some, Vector.getElem_toList]
      apply congrArg
      funext out
      exact ih (Nat.le_of_succ_le inside) out (pos + 1)

theorem lt_ten_digits (value : UInt32) : value.toNat < 10 ^ 10 :=
  Nat.lt_trans value.toNat_lt (by decide)

/-- The digit buffer is never full. -/
theorem checkedWriteU32_eq : checkedWriteU32 = writeU32 := by
  funext out pos value
  unfold checkedWriteU32 writeU32
  split
  · rw [Option.map_eq_bind]
    rfl
  · obtain ⟨collected, loop, front⟩ := collectDigits_eq (.replicate 10 0) (Nat.zero_add 10)
      (lt_ten_digits value)
    rw [Nat.zero_add] at loop front
    rw [loop, Option.bind_some]
    dsimp only
    rw [emitDigits_eq collected (digits_length 10 value), front]
    rfl

/-! ## What is written -/

/-- Bytes that fit replace those at their position and no others. -/
theorem puts_eq {out bytes : List UInt8} {pos : Nat} (room : pos + bytes.length ≤ out.length) :
    puts out pos bytes = some
      (out.take pos ++ bytes ++ out.drop (pos + bytes.length), pos + bytes.length) := by
  induction bytes generalizing out pos with
  | nil =>
      rw [puts, List.append_nil, List.length_nil, Nat.add_zero, List.take_append_drop]
  | cons byte rest ih =>
      rw [List.length_cons] at room
      have inside : pos < out.length := by omega
      have room' : pos + 1 + rest.length ≤ (out.set pos byte).length := by
        rw [List.length_set]
        omega
      rw [puts, put, if_pos inside, Option.bind_some, ih room', List.length_cons,
        Nat.add_comm rest.length, ← Nat.add_assoc, List.take_add_one,
        List.take_set_of_le (Nat.le_refl _), List.getElem?_set_self inside,
        List.drop_set_of_lt (by omega), List.append_assoc (out.take pos)]
      rfl

theorem puts_none {out bytes : List UInt8} {pos : Nat} (nonempty : bytes ≠ [])
    (full : out.length < pos + bytes.length) : puts out pos bytes = none := by
  induction bytes generalizing out pos with
  | nil => exact absurd rfl nonempty
  | cons byte rest ih =>
      rw [List.length_cons] at full
      unfold puts put
      split
      next inside =>
        rw [Option.bind_some]
        apply ih
        · rintro rfl
          exact absurd full (Nat.not_lt.mpr inside)
        · rw [List.length_set]
          omega
      · rfl

/-- The digits of a positive value are its numeral, the last one first. -/
theorem digits_isNumeral {room : Nat} {value : UInt32} (positive : value ≠ 0)
    (small : value.toNat < 10 ^ room) : IsNumeral value.toNat (digits room value).reverse := by
  induction room generalizing value with
  | zero => exact absurd (UInt32.toNat_inj.mp (Nat.lt_one_iff.mp small)) positive
  | succ room ih =>
      have last : 0x30 + (value % 10).toUInt8 = decimalDigit (value.toNat % 10) := by
        have digit : value.toNat % 10 < 10 := Nat.mod_lt _ (by decide)
        apply UInt8.toNat_inj.mp
        rw [decimalDigit_toNat digit, UInt8.toNat_add, UInt32.toNat_toUInt8, UInt32.toNat_mod]
        change (0x30 + value.toNat % 10 % 256) % 256 = _
        omega
      have quotient : (value / 10).toNat = value.toNat / 10 := UInt32.toNat_div _ _
      rw [digits_succ room positive, List.reverse_cons, last]
      by_cases zero : value / 10 = 0
      · have alone : value.toNat < 10 := by
          rw [zero] at quotient
          exact Nat.lt_of_div_eq_zero (by decide) quotient.symm
        rw [zero, digits_zero, Nat.mod_eq_of_lt alone]
        exact .digit alone
      · have fewer : (value / 10).toNat < 10 ^ room := by
          rw [quotient]
          apply Nat.div_lt_of_lt_mul
          rw [Nat.pow_succ, Nat.mul_comm] at small
          exact small
        have some : 0 < (value / 10).toNat := by
          apply Nat.pos_of_ne_zero
          exact fun none => zero (UInt32.toNat_inj.mp none)
        have whole := (ih zero fewer).concat some (Nat.mod_lt value.toNat (by decide))
        rw [quotient, Nat.div_add_mod] at whole
        exact whole

theorem numeral_isNumeral (value : UInt32) : IsNumeral value.toNat (numeral value) := by
  unfold numeral
  split
  next zero =>
    subst zero
    exact .digit (by decide)
  next positive => exact digits_isNumeral positive (lt_ten_digits value)

theorem numeral_eq (value : UInt32) : numeral value = decimal value.toNat :=
  (numeral_isNumeral value).unique (decimal_isNumeral value.toNat)

/-- What the two loops do to a buffer: the numeral is written, or there is no room for it. -/
theorem checkedWriteU32_decimal (out : List UInt8) (pos : Nat) (value : UInt32) :
    checkedWriteU32 out pos value =
      if pos + (decimal value.toNat).length ≤ out.length then
        some (out.take pos ++ decimal value.toNat ++
            out.drop (pos + (decimal value.toNat).length),
          pos + (decimal value.toNat).length)
      else none := by
  rw [checkedWriteU32_eq, writeU32_eq, numeral_eq]
  split
  next room => exact puts_eq room
  next full => exact puts_none (decimal_isNumeral _).nonempty (Nat.not_le.mp full)

example : checkedWriteU32 (List.replicate 5 0) 1 407 = some ([0, 0x34, 0x30, 0x37, 0], 4) := by
  decide +kernel

end NrfUnifying.Radio
