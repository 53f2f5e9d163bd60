import NrfUnifying.Lib.Bytes

/-!
# Decimal numerals

A numeral has at least one digit and no leading zero, so each number has one
numeral only. It is built from the front: a digit by itself, or one more digit
behind the numeral of a positive number.
-/

namespace NrfUnifying.Lib.Numerals

open Bytes (decimal)

def decimalDigit (value : Nat) : UInt8 := (0x30 + value).toUInt8

/-- The number read on from `start`, digit by digit. -/
def readDecimal (start : Nat) (text : List UInt8) : Nat :=
  text.foldl (fun value byte => 10 * value + (byte.toNat - 0x30)) start

/-- The text is the decimal numeral of the number. -/
structure IsNumeral (value : Nat) (text : List UInt8) : Prop where
  nonempty : text ≠ []
  digits : ∀ byte ∈ text, 0x30 ≤ byte.toNat ∧ byte.toNat ≤ 0x39
  value : readDecimal 0 text = value
  canonical : text.head? = some 0x30 → text = [0x30]

theorem decimalDigit_toNat {value : Nat} (small : value < 10) :
    (decimalDigit value).toNat = 0x30 + value := by
  unfold decimalDigit
  rw [Nat.toUInt8_eq, UInt8.toNat_ofNat', Nat.mod_eq_of_lt (by omega)]

/-- A digit byte is the digit of its value. -/
theorem decimalDigit_sub {byte : UInt8} (low : 0x30 ≤ byte.toNat) :
    decimalDigit (byte.toNat - 0x30) = byte := by
  have bound := byte.toNat_lt
  apply UInt8.toNat_inj.mp
  unfold decimalDigit
  rw [Nat.toUInt8_eq, UInt8.toNat_ofNat', Nat.add_sub_cancel' low, Nat.mod_eq_of_lt bound]

theorem readDecimal_concat (start : Nat) (text : List UInt8) (byte : UInt8) :
    readDecimal start (text ++ [byte]) = 10 * readDecimal start text + (byte.toNat - 0x30) := by
  unfold readDecimal
  rw [List.foldl_append]
  rfl

theorem readDecimal_pos {start : Nat} (positive : 0 < start) (text : List UInt8) :
    0 < readDecimal start text := by
  induction text generalizing start with
  | nil => exact positive
  | cons byte rest ih =>
      have positive : 0 < 10 * start + (byte.toNat - 0x30) := by omega
      exact ih positive

namespace IsNumeral

variable {value : Nat} {text : List UInt8}

theorem digit (small : value < 10) : IsNumeral value [decimalDigit value] := by
  have toNat := decimalDigit_toNat small
  constructor
  · exact List.cons_ne_nil _ _
  · intro byte member
    rw [List.mem_singleton.mp member, toNat]
    omega
  · change 10 * 0 + ((decimalDigit value).toNat - 0x30) = value
    omega
  · intro zero
    rw [Option.some.inj zero]

/-- One more digit behind the numeral of a positive number. -/
theorem concat (numeral : IsNumeral value text) (positive : 0 < value) {last : Nat}
    (small : last < 10) : IsNumeral (10 * value + last) (text ++ [decimalDigit last]) := by
  have toNat := decimalDigit_toNat small
  constructor
  · exact List.append_ne_nil_of_left_ne_nil numeral.nonempty _
  · intro byte member
    rcases List.mem_append.mp member with front | back
    · exact numeral.digits byte front
    · rw [List.mem_singleton.mp back, toNat]
      omega
  · rw [readDecimal_concat, numeral.value, toNat]
    omega
  · intro zero
    rw [List.head?_append, List.head?_eq_some_head numeral.nonempty, Option.some_or] at zero
    have alone := numeral.canonical ((List.head?_eq_some_head numeral.nonempty).trans zero)
    have none := numeral.value
    rw [alone] at none
    exact absurd none (Nat.ne_of_lt positive)

/-- The numeral of a positive number starts with another digit than zero. -/
theorem pos_of_head (numeral : IsNumeral value text) (leading : text.head? ≠ some 0x30) :
    0 < value := by
  rw [← numeral.value]
  cases text with
  | nil => exact absurd rfl numeral.nonempty
  | cons byte rest =>
      have low := (numeral.digits byte List.mem_cons_self).1
      have other : byte.toNat ≠ 0x30 := by
        intro same
        apply leading
        exact congrArg some (UInt8.toNat_inj.mp same)
      have positive : 0 < 10 * 0 + (byte.toNat - 0x30) := by omega
      exact readDecimal_pos positive rest

/-- How the numeral of a number ends. -/
theorem split (numeral : IsNumeral value text) :
    value < 10 ∧ text = [decimalDigit value] ∨
      10 ≤ value ∧ ∃ front, text = front ++ [decimalDigit (value % 10)] ∧
        IsNumeral (value / 10) front := by
  obtain empty | ⟨front, last, rfl⟩ := List.eq_nil_or_concat text
  · exact absurd empty numeral.nonempty
  rw [List.concat_eq_append] at numeral ⊢
  have range := numeral.digits last (List.mem_append_right _ List.mem_cons_self)
  have reads := numeral.value
  rw [readDecimal_concat] at reads
  by_cases alone : front = []
  · left
    subst alone
    change 10 * 0 + (last.toNat - 0x30) = value at reads
    have same : value = last.toNat - 0x30 := by omega
    constructor
    · omega
    · rw [same, decimalDigit_sub range.1]
      rfl
  · right
    have leading : front.head? ≠ some 0x30 := by
      intro zero
      have whole : (front ++ [last]).head? = some 0x30 := by
        rw [List.head?_append, zero]
        rfl
      have length := congrArg List.length (numeral.canonical whole)
      rw [List.length_append] at length
      exact alone (List.eq_nil_of_length_eq_zero (Nat.succ.inj length))
    have numeral' : IsNumeral (readDecimal 0 front) front := by
      constructor
      · exact alone
      · exact fun byte member => numeral.digits byte (List.mem_append_left _ member)
      · rfl
      · exact fun zero => absurd zero leading
    have positive := numeral'.pos_of_head leading
    have front' : readDecimal 0 front = value / 10 := by omega
    have digit : last.toNat - 0x30 = value % 10 := by omega
    refine ⟨by omega, front, ?_, front' ▸ numeral'⟩
    rw [← digit, decimalDigit_sub range.1]

/-- A number has one numeral. -/
theorem unique {other : List UInt8} (numeral : IsNumeral value text)
    (numeral' : IsNumeral value other) : text = other := by
  induction value using Nat.strongRecOn generalizing text other with
  | ind value ih =>
      rcases numeral.split with ⟨small, same⟩ | ⟨large, front, same, first⟩
      · rcases numeral'.split with ⟨_, same'⟩ | ⟨large, _⟩
        · exact same.trans same'.symm
        · exact absurd small (Nat.not_lt.mpr large)
      · rcases numeral'.split with ⟨small, _⟩ | ⟨_, front', same', second⟩
        · exact absurd small (Nat.not_lt.mpr large)
        · have smaller : value / 10 < value := Nat.div_lt_self (by omega) (by decide)
          rw [same, same', ih _ smaller first second]

end IsNumeral

theorem decimal_isNumeral (value : Nat) : IsNumeral value (decimal value) := by
  have char {digit : Nat} (small : digit < 10) :
      digit.digitChar.toNat.toUInt8 = decimalDigit digit := by
    rw [Nat.toNat_digitChar_of_lt_ten small]
    rfl
  induction value using Nat.strongRecOn with
  | ind value ih =>
      unfold decimal
      by_cases small : value < 10
      · rw [Nat.toDigits_of_lt_base small, List.map_singleton, char small]
        exact .digit small
      · have last : value % 10 < 10 := Nat.mod_lt _ (by decide)
        rw [Nat.toDigits_of_base_le (by decide) (Nat.not_lt.mp small), List.map_append,
          List.map_singleton, char last]
        have front := ih (value / 10) (Nat.div_lt_self (by omega) (by decide))
        have whole := front.concat (by omega) last
        rw [Nat.div_add_mod] at whole
        exact whole

theorem decimal_length_le {value count : Nat} (some : 0 < count) (small : value < 10 ^ count) :
    (decimal value).length ≤ count := by
  rw [decimal, List.length_map]
  exact (Nat.length_toDigits_le_iff (by decide) some).mpr small

end NrfUnifying.Lib.Numerals
