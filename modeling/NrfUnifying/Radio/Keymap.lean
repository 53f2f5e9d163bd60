import NrfUnifying.Radio.Device

/-!
# The key map and the layout it is for

A receiver's host reads key usages under a layout. The two rows below give the
characters of the US layout, without and with shift; the key map is checked
against them.
-/

namespace NrfUnifying.Radio

open Lib.Bytes

/-- The characters of the usages from 0x04 on. Usage 0x32 is no key of this layout. -/
def layoutRow (shift : Bool) : List UInt8 :=
  if shift then
    ascii "ABCDEFGHIJKLMNOPQRSTUVWXYZ!@#$%^&*()\n" ++ [0x1B, 0x08] ++ ascii "\t _+\x7b\x7d|" ++
      [0x00] ++ ascii ":\"~<>?"
  else
    ascii "abcdefghijklmnopqrstuvwxyz1234567890\n" ++ [0x1B, 0x08] ++ ascii "\t -=[]\\" ++
      [0x00] ++ ascii ";'`,./"

/-- The character of a usage, as a host with the US layout reads it. -/
def usLayout (usage : UInt8) (shift : Bool) : Option UInt8 :=
  if usage < 0x04 ∨ usage = 0x32 then none else (layoutRow shift)[usage.toNat - 4]?

/-- The characters that can be typed: printable ASCII, and the control characters with a key. -/
def Typable (c : UInt8) : Prop :=
  0x20 ≤ c ∧ c ≤ 0x7E ∨ c = 0x08 ∨ c = 0x09 ∨ c = 0x0A ∨ c = 0x0D ∨ c = 0x1B

instance (c : UInt8) : Decidable (Typable c) := inferInstanceAs (Decidable (_ ∨ _))

/-- CR and LF have one key. -/
def unified (c : UInt8) : UInt8 := if c = 0x0D then 0x0A else c

theorem keymap_table : ∀ n < 256,
    ((charToHid (.ofNat n)).map fun (usage, shift) => usLayout usage shift) =
      if Typable (.ofNat n) then some (some (unified (.ofNat n))) else none := by decide +kernel

/-- Exactly the typable characters have a key, and key and shift give the character back. -/
theorem usLayout_charToHid (c : UInt8) :
    ((charToHid c).map fun (usage, shift) => usLayout usage shift) =
      if Typable c then some (some (unified c)) else none := by
  have entry := keymap_table c.toNat c.toNat_lt
  rwa [UInt8.ofNat_toNat] at entry

theorem Typable.of_charToHid {c usage : UInt8} {shift : Bool}
    (mapped : charToHid c = some (usage, shift)) :
    Typable c ∧ usLayout usage shift = some (unified c) := by
  have entry := usLayout_charToHid c
  rw [mapped] at entry
  by_cases typable : Typable c
  · rw [if_pos typable] at entry
    exact ⟨typable, Option.some.inj entry⟩
  · rw [if_neg typable] at entry
    cases entry

theorem not_typable_of_charToHid {c : UInt8} (unmapped : charToHid c = none) : ¬Typable c := by
  have entry := usLayout_charToHid c
  rw [unmapped] at entry
  intro typable
  rw [if_pos typable] at entry
  cases entry

theorem charToHid_table : ∀ n < 256,
    (charToHid (.ofNat n)).all fun (usage, _) => 0x04 ≤ usage := by decide +kernel

/-- No character has a usage that is reserved. -/
theorem charToHid_usage {c usage : UInt8} {shift : Bool}
    (mapped : charToHid c = some (usage, shift)) : 0x04 ≤ usage := by
  have entry := charToHid_table c.toNat c.toNat_lt
  rw [UInt8.ofNat_toNat, mapped] at entry
  exact of_decide_eq_true entry

end NrfUnifying.Radio
