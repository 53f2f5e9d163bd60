import NrfUnifying.Lib.Flash

/-!
# Writing through an eraser that remembers one sector

A writer erases a sector before it programs a byte of it, unless that sector
is the one it erased last. `Sectors.write_cells` says what a write leaves.
-/

namespace NrfUnifying.Lib.SectorWriter

open Lib.Bytes Lib.Flash

/-- Flash contents and the sector that was erased last. -/
structure Sectors where
  cells : Cells
  last : Option Nat := none

variable {page : Nat}

def Sectors.prepare (page : Nat) (sectors : Sectors) (sector : Nat) : Sectors :=
  if sectors.last = some sector then sectors
  else { cells := sectors.cells.erase (sector * page) ((sector + 1) * page), last := some sector }

/-- The bytes in ascending order, each into a prepared sector. -/
def Sectors.write (page : Nat) (sectors : Sectors) (offset : Nat) : List UInt8 → Sectors
  | [] => sectors
  | byte :: rest =>
      let ready := sectors.prepare page (offset / page)
      Sectors.write page { ready with cells := ready.cells.program offset [byte] } (offset + 1) rest

theorem Sectors.write_append (sectors : Sectors) (offset : Nat) (first second : List UInt8) :
    sectors.write page offset (first ++ second) =
      (sectors.write page offset first).write page (offset + first.length) second := by
  induction first generalizing sectors offset with
  | nil => rfl
  | cons byte rest ih =>
      simp only [List.cons_append, Sectors.write, ih, List.length_cons]
      congr 1
      omega

theorem Sectors.prepare_last (sectors : Sectors) (sector : Nat) :
    (sectors.prepare page sector).last = some sector := by
  unfold prepare
  split
  next same => exact same
  · rfl

theorem Sectors.prepare_cells (positive : 0 < page) (sectors : Sectors) (sector i : Nat) :
    (sectors.prepare page sector).cells i =
      if sectors.last ≠ some sector ∧ i / page = sector then 0xFF else sectors.cells i := by
  have inside : i / page = sector ↔ sector * page ≤ i ∧ i < (sector + 1) * page := by
    rw [Nat.div_eq_iff positive]
    constructor
    · intro bounds
      constructor <;> grind
    · intro bounds
      constructor <;> grind
  unfold prepare
  by_cases same : sectors.last = some sector
  · simp [same]
  · simp only [same, if_false, Cells.erase, ne_eq, not_false_eq_true, true_and, inside]

/-- A sector that a write of `bytes` from `offset` on erases. -/
def Sectors.Erases (page : Nat) (sectors : Sectors) (offset : Nat) (bytes : List UInt8)
    (sector : Nat) : Prop :=
  offset / page ≤ sector ∧ sector ≤ (offset + bytes.length - 1) / page ∧
    ¬(sectors.last = some (offset / page) ∧ sector = offset / page)

instance (sectors : Sectors) (offset : Nat) (bytes : List UInt8) (sector : Nat) :
    Decidable (sectors.Erases page offset bytes sector) :=
  inferInstanceAs (Decidable (_ ∧ _ ∧ ¬_))

/-- The first byte erases its own sector unless that was erased last; the rest never does. -/
theorem Sectors.erases_cons (sectors next : Sectors) {offset : Nat} (byte : UInt8)
    {rest : List UInt8} (nonempty : rest ≠ []) (last : next.last = some (offset / page))
    (sector : Nat) :
    (sectors.Erases page offset (byte :: rest) sector ↔
      next.Erases page (offset + 1) rest sector ∨
        sectors.last ≠ some (offset / page) ∧ sector = offset / page) ∧
      ¬next.Erases page (offset + 1) rest (offset / page) := by
  have forward : (offset + 1) / page = offset / page ∨
      (offset + 1) / page = offset / page + 1 := by
    rw [Nat.succ_div]
    split <;> simp
  have positive := List.length_pos_iff.mpr nonempty
  have reach : offset + (byte :: rest).length - 1 = offset + 1 + rest.length - 1 := by
    simp only [List.length_cons]
    omega
  have order : (offset + 1) / page ≤ (offset + 1 + rest.length - 1) / page :=
    Nat.div_le_div_right (by omega)
  simp only [Erases, last, Option.some.injEq, reach]
  constructor
  · by_cases same : sectors.last = some (offset / page)
    · simp only [same, ne_eq, not_true_eq_false, false_and, or_false, true_and]
      grind
    · simp only [same, ne_eq, not_false_eq_true, true_and, false_and]
      grind
  · grind

/-- A write erases the sectors it reaches, except the one erased last, and programs its bytes. -/
theorem Sectors.write_cells (positive : 0 < page) (sectors : Sectors) (offset : Nat)
    (bytes : List UInt8) (nonempty : bytes ≠ []) :
    (sectors.write page offset bytes).cells =
      Cells.program (fun i => if sectors.Erases page offset bytes (i / page) then 0xFF
        else sectors.cells i) offset bytes := by
  induction bytes generalizing sectors offset with
  | nil => exact absurd rfl nonempty
  | cons byte rest ih =>
      cases rest with
      | nil =>
          funext i
          simp only [Sectors.write, Cells.program, Sectors.prepare_cells positive]
          have only : sectors.Erases page offset [byte] (i / page) ↔
              sectors.last ≠ some (offset / page) ∧ i / page = offset / page := by
            simp only [Erases, List.length_singleton, Nat.add_sub_cancel]
            grind
          simp only [only]
      | cons next rest =>
          rw [Sectors.write, ih _ _ (List.cons_ne_nil _ _),
            show byte :: next :: rest = [byte] ++ next :: rest from rfl, ← Cells.program_append]
          congr 1
          funext i
          obtain ⟨erases, kept⟩ := sectors.erases_cons
            { cells := (sectors.prepare page (offset / page)).cells.program offset [byte]
              last := (sectors.prepare page (offset / page)).last }
            byte (List.cons_ne_nil next rest) (sectors.prepare_last _) (i / page)
          simp only [List.cons_append, List.nil_append]
          by_cases first : i = offset
          · subst first
            rw [if_neg kept]
            simp only [Cells.program, Sectors.prepare_cells positive, erases, kept, false_or]
          · have outside : i < offset ∨ offset + [byte].length ≤ i := by
              rw [List.length_singleton]
              omega
            simp only [Cells.program_outside _ outside, Sectors.prepare_cells positive, erases]
            grind

theorem Sectors.write_last (sectors : Sectors) (offset : Nat) {bytes : List UInt8}
    (nonempty : bytes ≠ []) :
    (sectors.write page offset bytes).last = some ((offset + bytes.length - 1) / page) := by
  induction bytes generalizing sectors offset with
  | nil => exact absurd rfl nonempty
  | cons byte rest ih =>
      rw [Sectors.write]
      cases rest with
      | nil => exact sectors.prepare_last _
      | cons next rest =>
          rw [ih _ _ (List.cons_ne_nil _ _)]
          simp only [List.length_cons]
          congr 2
          omega

/-- Inside the sector erased last a write only clears bits; elsewhere it stores its bytes. -/
theorem Sectors.write_inside (positive : 0 < page) (sectors : Sectors) {offset i : Nat}
    {bytes : List UInt8} (inside : i < bytes.length) :
    (sectors.write page offset bytes).cells (offset + i) =
      if sectors.last = some (offset / page) ∧ (offset + i) / page = offset / page then
        sectors.cells (offset + i) &&& bytes[i]
      else bytes[i] := by
  have nonempty : bytes ≠ [] := List.length_pos_iff.mp (Nat.zero_lt_of_lt inside)
  have low : offset / page ≤ (offset + i) / page := Nat.div_le_div_right (by omega)
  have high : (offset + i) / page ≤ (offset + bytes.length - 1) / page :=
    Nat.div_le_div_right (by omega)
  rw [write_cells positive _ _ _ nonempty, Cells.program_inside _ inside]
  simp only [Erases, low, high, true_and]
  by_cases kept : sectors.last = some (offset / page) ∧ (offset + i) / page = offset / page
  · rw [if_neg (not_not.mpr kept), if_pos kept]
  · rw [if_pos kept, if_neg kept, erased_and]

/-- Below its offset a write leaves everything, unless it erases the sector it starts in. -/
theorem Sectors.write_below (positive : 0 < page) (sectors : Sectors) {offset i : Nat}
    {bytes : List UInt8} (nonempty : bytes ≠ []) (below : i < offset) :
    (sectors.write page offset bytes).cells i =
      if sectors.last ≠ some (offset / page) ∧ i / page = offset / page then 0xFF
      else sectors.cells i := by
  have low : i / page ≤ offset / page := Nat.div_le_div_right (by omega)
  have high : offset / page ≤ (offset + bytes.length - 1) / page :=
    Nat.div_le_div_right (by have := List.length_pos_iff.mpr nonempty; omega)
  rw [write_cells positive _ _ _ nonempty, Cells.program_outside _ (.inl below)]
  have first : sectors.Erases page offset bytes (i / page) ↔
      sectors.last ≠ some (offset / page) ∧ i / page = offset / page := by
    unfold Erases
    grind
  simp only [first]

/-! ## Sequential writes -/

/-- The rest of the sector erased last is blank from `offset` on. -/
def Sectors.Open (page : Nat) (sectors : Sectors) (offset : Nat) : Prop :=
  sectors.last = some (offset / page) →
    ∀ i, offset ≤ i → i / page = offset / page → sectors.cells i = 0xFF

theorem Sectors.Open.of_none {sectors : Sectors} (none : sectors.last = none) (offset : Nat) :
    sectors.Open page offset := by
  intro impossible
  rw [none] at impossible
  cases impossible

/-- After a write into blank bytes the next bytes of the sector are blank. -/
theorem Sectors.Open.write (positive : 0 < page) {sectors : Sectors} {offset : Nat}
    (blank : sectors.Open page offset) (bytes : List UInt8) :
    (sectors.write page offset bytes).Open page (offset + bytes.length) := by
  by_cases nonempty : bytes = []
  · subst nonempty
    exact blank
  · have length := List.length_pos_iff.mpr nonempty
    intro last i after same
    rw [write_last _ _ nonempty, Option.some.injEq] at last
    rw [write_cells positive _ _ _ nonempty, Cells.program_outside _ (.inr after)]
    have low : offset / page ≤ i / page := Nat.div_le_div_right (by omega)
    rw [same] at low
    by_cases kept : sectors.last = some (offset / page) ∧ i / page = offset / page
    · rw [if_neg (fun erased => erased.2.2 kept)]
      exact blank kept.1 i (by omega) kept.2
    · exact if_pos ⟨same ▸ low, Nat.le_of_eq (same.trans last.symm), kept⟩

/-- A write into blank bytes stores its bytes. -/
theorem Sectors.Open.slice_write (positive : 0 < page) {sectors : Sectors} {offset : Nat}
    (blank : sectors.Open page offset) (bytes : List UInt8) :
    slice (sectors.write page offset bytes).cells offset bytes.length = bytes := by
  rw [slice_eq_iff]
  intro i inside
  rw [write_inside positive sectors inside]
  split
  next kept => rw [blank kept.1 _ (by omega) kept.2, erased_and]
  · rfl

/-- A write from the start stores a prefix of its bytes exactly when the first sector is erased
or already has every one bit of it. -/
theorem Sectors.slice_write_iff (positive : 0 < page) (sectors : Sectors) {bytes : List UInt8}
    {count : Nat} (enough : count ≤ bytes.length) :
    slice (sectors.write page 0 bytes).cells 0 count = bytes.take count ↔
      sectors.last ≠ some 0 ∨ ∀ i < min count page,
        sectors.cells i &&& bytes.getD i 0xFF = bytes.getD i 0xFF := by
  have cells : ∀ i < count, (sectors.write page 0 bytes).cells i =
      if sectors.last = some 0 ∧ i < page then sectors.cells i &&& bytes.getD i 0xFF
      else bytes.getD i 0xFF := by
    intro i inside
    have here : (sectors.write page 0 bytes).cells (0 + i) = _ :=
      sectors.write_inside positive (Nat.lt_of_lt_of_le inside enough)
    simp only [Nat.zero_add, Nat.zero_div, Nat.div_eq_zero_iff_lt positive] at here
    rw [here, List.getD_eq_getElem _ _ (Nat.lt_of_lt_of_le inside enough)]
  have same : slice (sectors.write page 0 bytes).cells 0 count = bytes.take count ↔
      ∀ i < count, (sectors.write page 0 bytes).cells i = bytes.getD i 0xFF := by
    have prefixed : bytes.take count = slice (bytes.getD · 0xFF) 0 count :=
      List.ext_getElem (by simp [enough]) fun i first second => by
        simp at first
        simp [List.getD_eq_getElem?_getD, show i < bytes.length by omega]
    rw [prefixed, ← slice_inj]
    simp
  rw [same]
  constructor
  · intro stored
    by_cases kept : sectors.last = some 0
    · refine .inr fun i inside => ?_
      have here := stored i (by omega)
      rwa [cells i (by omega), if_pos ⟨kept, by omega⟩] at here
    · exact .inl kept
  · intro covered i inside
    rw [cells i inside]
    split
    next kept =>
      rcases covered with fresh | covered
      · exact absurd kept.1 fresh
      · exact covered i (by omega)
    · rfl

end NrfUnifying.Lib.SectorWriter
