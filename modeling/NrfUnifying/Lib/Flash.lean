import Mathlib.Data.List.GetD
import NrfUnifying.Lib.Bytes

/-!
# NOR flash

Erasing sets every byte of a range to `0xFF`; programming can only clear bits.
`NorFlash` is the interface a log is written against, and `Chip` the flash that
carries out every operation and remembers the steps it was made of: one for
each erased page and one for each programmed 32-bit word.
-/

namespace NrfUnifying.Lib.Flash

open Lib.Bytes

/-- Flash contents, one byte for each address. -/
abbrev Cells := Nat → UInt8

@[simp]
theorem erased_and (byte : UInt8) : 0xFF &&& byte = byte := by
  apply UInt8.toBitVec_inj.mp
  rw [UInt8.toBitVec_and]
  exact BitVec.allOnes_and

def Cells.erase (cells : Cells) (first last : Nat) : Cells :=
  fun i => if first ≤ i ∧ i < last then 0xFF else cells i

def Cells.program (cells : Cells) (offset : Nat) (bytes : List UInt8) : Cells :=
  fun i => if offset ≤ i then cells i &&& bytes.getD (i - offset) 0xFF else cells i

theorem Cells.erase_inside {first last i : Nat} (cells : Cells) (low : first ≤ i)
    (high : i < last) : cells.erase first last i = 0xFF := by
  simp [erase, low, high]

theorem Cells.erase_outside {first last i : Nat} (cells : Cells) (outside : i < first ∨ last ≤ i) :
    cells.erase first last i = cells i := by
  unfold erase
  rw [if_neg]
  omega

theorem and_erased (byte : UInt8) : byte &&& 0xFF = byte := by
  rw [UInt8.and_comm, erased_and]

theorem Cells.program_inside {offset i : Nat} (cells : Cells) {bytes : List UInt8}
    (inside : i < bytes.length) :
    cells.program offset bytes (offset + i) = cells (offset + i) &&& bytes[i] := by
  simp [program, List.getD_eq_getElem?_getD, inside]

theorem Cells.program_outside {offset i : Nat} (cells : Cells) {bytes : List UInt8}
    (outside : i < offset ∨ offset + bytes.length ≤ i) :
    cells.program offset bytes i = cells i := by
  unfold program
  split
  · rw [List.getD_eq_default _ _ (by omega), and_erased]
  · rfl

@[simp]
theorem Cells.program_nil (cells : Cells) (offset : Nat) : cells.program offset [] = cells :=
  funext fun i => program_outside cells (by simp; omega)

theorem Cells.program_append (cells : Cells) (offset : Nat) (first second : List UInt8) :
    (cells.program offset first).program (offset + first.length) second =
      cells.program offset (first ++ second) := by
  funext i
  by_cases low : i < offset + first.length
  · rw [program_outside _ (.inl low)]
    unfold program
    split
    · rw [List.getD_append _ _ _ _ (by omega)]
    · rfl
  · have past : cells.program offset first i = cells i :=
      program_outside cells (.inr (Nat.le_of_not_lt low))
    unfold program at past ⊢
    rw [if_pos (by omega), past, if_pos (by omega), List.getD_append_right _ _ _ _ (by omega)]
    congr 2
    omega

/-- Onto erased bytes, programming stores exactly the data. -/
theorem Cells.slice_program {cells : Cells} {offset : Nat} {bytes : List UInt8}
    (blank : ∀ i < bytes.length, cells (offset + i) = 0xFF) :
    slice (cells.program offset bytes) offset bytes.length = bytes := by
  rw [slice_eq_iff]
  intro i inside
  rw [program_inside cells inside, blank i inside, erased_and]

/-! ## Steps that a power loss can separate -/

inductive FlashStep where
  | erase (first last : Nat)
  | word (offset : Nat) (bytes : List UInt8)
  deriving DecidableEq, Repr

def FlashStep.apply (cells : Cells) : FlashStep → Cells
  | .erase first last => cells.erase first last
  | .word offset bytes => cells.program offset bytes

def applySteps (cells : Cells) (steps : List FlashStep) : Cells :=
  steps.foldl FlashStep.apply cells

/-- The words of a write, in ascending order. -/
def wordSteps (offset : Nat) : List UInt8 → List FlashStep
  | a :: b :: c :: d :: rest => .word offset [a, b, c, d] :: wordSteps (offset + 4) rest
  | _ => []

theorem wordSteps_append (offset : Nat) (first second : List UInt8) (count : Nat)
    (length : first.length = 4 * count) :
    wordSteps offset (first ++ second) =
      wordSteps offset first ++ wordSteps (offset + first.length) second := by
  induction count generalizing first offset with
  | zero =>
      obtain rfl := List.eq_nil_of_length_eq_zero length
      rfl
  | succ count ih =>
      match first, length with
      | a :: b :: c :: d :: rest, length =>
          have shorter : rest.length = 4 * count := by
            simp only [List.length_cons] at length
            omega
          simp only [List.cons_append, wordSteps, ih (offset + 4) rest shorter, List.length_cons,
            Nat.add_assoc, Nat.add_comm 4]

theorem wordSteps_length (offset : Nat) (bytes : List UInt8) (count : Nat)
    (length : bytes.length = 4 * count) : (wordSteps offset bytes).length = count := by
  induction count generalizing bytes offset with
  | zero =>
      obtain rfl := List.eq_nil_of_length_eq_zero length
      rfl
  | succ count ih =>
      match bytes, length with
      | a :: b :: c :: d :: rest, length =>
          rw [wordSteps, List.length_cons, ih]
          simp only [List.length_cons] at length
          omega

theorem applySteps_wordSteps (cells : Cells) (offset : Nat) (bytes : List UInt8) (count : Nat)
    (length : bytes.length = 4 * count) :
    applySteps cells (wordSteps offset bytes) = cells.program offset bytes := by
  induction count generalizing bytes offset cells with
  | zero =>
      obtain rfl := List.eq_nil_of_length_eq_zero length
      exact (Cells.program_nil cells offset).symm
  | succ count ih =>
      match bytes, length with
      | a :: b :: c :: d :: rest, length =>
          have shorter : rest.length = 4 * count := by
            simp only [List.length_cons] at length
            omega
          change applySteps (cells.program offset [a, b, c, d]) (wordSteps (offset + 4) rest) = _
          rw [ih _ _ _ shorter]
          exact Cells.program_append cells offset [a, b, c, d] rest

/-! ## The interface of a driver -/

/-- Reads, erasures and writes; `none` and `false` report an error. -/
class NorFlash (F : Type) where
  read : F → Nat → Nat → Option (List UInt8) × F
  erase : F → Nat → Nat → Bool × F
  write : F → Nat → List UInt8 → Bool × F

/-- A flash with pages of `page` bytes that carries out every aligned operation. -/
structure Chip (page : Nat) where
  cells : Cells
  /-- What has been done to the flash, oldest step first. -/
  steps : List FlashStep := []

variable {page : Nat}

def Chip.perform (chip : Chip page) (steps : List FlashStep) : Chip page :=
  ⟨applySteps chip.cells steps, chip.steps ++ steps⟩

def pageSteps (page first : Nat) : Nat → List FlashStep
  | 0 => []
  | count + 1 => .erase first (first + page) :: pageSteps page (first + page) count

instance : NorFlash (Chip page) where
  read chip offset count := (some (slice chip.cells offset count), chip)
  erase chip first last :=
    if first % page = 0 ∧ last % page = 0 ∧ first ≤ last then
      (true, chip.perform (pageSteps page first ((last - first) / page)))
    else (false, chip)
  write chip offset bytes :=
    if offset % 4 = 0 ∧ bytes.length % 4 = 0 then (true, chip.perform (wordSteps offset bytes))
    else (false, chip)

theorem applySteps_pageSteps (cells : Cells) (first count : Nat) :
    applySteps cells (pageSteps page first count) = cells.erase first (first + count * page) := by
  induction count generalizing cells first with
  | zero =>
      funext i
      rw [Cells.erase_outside cells (by omega)]
      rfl
  | succ count ih =>
      change applySteps (cells.erase first (first + page)) _ = _
      rw [ih]
      funext i
      simp only [Cells.erase, Nat.succ_mul]
      grind

@[simp]
theorem Chip.read_eq (chip : Chip page) (offset count : Nat) :
    NorFlash.read chip offset count = (some (slice chip.cells offset count), chip) := rfl

theorem Chip.erase_eq (chip : Chip page) (first count : Nat) (positive : 0 < page)
    (aligned : first % page = 0) :
    NorFlash.erase chip first (first + count * page) =
      (true, chip.perform (pageSteps page first count)) := by
  change ite _ _ _ = _
  rw [if_pos ⟨aligned, by simp [aligned], by omega⟩, Nat.add_sub_cancel_left,
    Nat.mul_div_cancel _ positive]

theorem Chip.write_eq (chip : Chip page) {offset : Nat} {bytes : List UInt8}
    (aligned : offset % 4 = 0) (whole : bytes.length % 4 = 0) :
    NorFlash.write chip offset bytes = (true, chip.perform (wordSteps offset bytes)) :=
  if_pos ⟨aligned, whole⟩

end NrfUnifying.Lib.Flash
