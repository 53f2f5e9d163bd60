import NrfUnifying.Storage.Pages

/-!
# The partition refines a map

Seen from its callers the partition is a map from slots to pairings and one
optional active slot. `Refines` says which flash contents stand for which map;
every operation keeps it.
-/

namespace NrfUnifying.Storage

open Lib.Bytes Lib.Flash Lib.AppendLog

/-- What the partition stores, without pages or logs. -/
structure Pairings where
  profile : UInt8 → Option Profile
  active : Option UInt8

def Pairings.empty : Pairings := ⟨fun _ => none, none⟩

inductive Operation where
  | save (slot : UInt8) (profile : Profile)
  | clearSlot (slot : UInt8)
  | clearAll
  | saveActiveSlot (slot : UInt8)

def Operation.run (flash : Nvmc) : Operation → Nvmc
  | .save slot profile => Storage.save flash slot profile
  | .clearSlot slot => Storage.clearSlot flash slot
  | .clearAll => Storage.clearAll flash
  | .saveActiveSlot slot => Storage.saveActiveSlot flash slot

def Pairings.apply (pairings : Pairings) : Operation → Pairings
  | .save slot profile =>
      if slot < maxProfiles then
        { pairings with profile := Function.update pairings.profile slot (some profile) }
      else pairings
  | .clearSlot slot =>
      if slot < maxProfiles then
        { pairings with profile := Function.update pairings.profile slot none }
      else pairings
  | .clearAll => .empty
  | .saveActiveSlot slot =>
      if slot < maxProfiles then { pairings with active := some slot } else pairings

/-- The bytes of the pages an operation names. -/
def Operation.Names (i : Nat) : Operation → Prop
  | .save slot _ | .clearSlot slot =>
      slot < maxProfiles ∧ pageBase slot ≤ i ∧ i < pageBase slot + pageSize
  | .clearAll => storageBase ≤ i ∧ i < activePage + pageSize
  | .saveActiveSlot slot => slot < maxProfiles ∧ activePage ≤ i ∧ i < activePage + pageSize

/-- A page whose log ends in `value`. -/
def LogEnds {α : Type} (format : Format α) (flash : Nvmc) (base : Nat) (value : Option α) : Prop :=
  ∃ entries, Holds format flash.cells base entries ∧ entries.getLast? = value

/-- The flash stands for a map. -/
structure Refines (flash : Nvmc) (pairings : Pairings) : Prop where
  profile : ∀ slot < maxProfiles,
    LogEnds profileFormat flash (pageBase slot) (pairings.profile slot)
  active : LogEnds activeFormat flash activePage pairings.active

/-! ## Pages of different slots -/

theorem toNat_lt_of_slot {slot : UInt8} (inside : slot < maxProfiles) : slot.toNat < 4 :=
  UInt8.lt_iff_toNat_lt.mp inside

theorem pageBase_end_le {slot : UInt8} (inside : slot < maxProfiles) :
    pageBase slot + pageSize ≤ activePage := by
  have bound := toNat_lt_of_slot inside
  change 0xF8000 + 4096 * slot.toNat + 4096 ≤ 0xF8000 + 4096 * 4
  omega

theorem storageBase_le_pageBase (slot : UInt8) : storageBase ≤ pageBase slot :=
  Nat.le_add_right _ _

theorem pageBase_disjoint {first second : UInt8} (different : first ≠ second) :
    pageBase first + pageSize ≤ pageBase second ∨ pageBase second + pageSize ≤ pageBase first := by
  have apart : first.toNat ≠ second.toNat := fun same => different (UInt8.toNat_inj.mp same)
  change 0xF8000 + 4096 * first.toNat + 4096 ≤ 0xF8000 + 4096 * second.toNat ∨
    0xF8000 + 4096 * second.toNat + 4096 ≤ 0xF8000 + 4096 * first.toNat
  omega

/-! ## One page at a time -/

section LogEnds

variable {α : Type} {format : Format α} {storable : α → Prop} {base : Nat} {flash : Nvmc}
  {value : Option α}

theorem LogEnds.latest (ends : LogEnds format flash base value) :
    latest format base format.count 0 none flash = (value, flash) := by
  obtain ⟨entries, holds, rfl⟩ := ends
  exact latest_eq flash holds

theorem LogEnds.congr {after : Nvmc} (lawful : format.Lawful storable)
    (same : ∀ i, base ≤ i → i < base + format.page → flash.cells i = after.cells i)
    (ends : LogEnds format flash base value) : LogEnds format after base value := by
  obtain ⟨entries, holds, last⟩ := ends
  exact ⟨entries, holds.congr lawful same, last⟩

theorem LogEnds.append (lawful : format.Lawful storable) (aligned : format.Aligned pageSize base)
    (ends : LogEnds format flash base value) {new : α} (storing : storable new) :
    LogEnds format (append format base new flash) base (some new) := by
  obtain ⟨entries, holds, _⟩ := ends
  exact ⟨_, append_holds lawful aligned flash holds storing, appended_getLast? _ _ _⟩

theorem LogEnds.append_outside (lawful : format.Lawful storable)
    (aligned : format.Aligned pageSize base) (ends : LogEnds format flash base value) (new : α)
    {i : Nat} (outside : i < base ∨ base + pageSize ≤ i) :
    (Lib.AppendLog.append format base new flash).cells i = flash.cells i := by
  obtain ⟨entries, holds, _⟩ := ends
  exact Lib.AppendLog.append_outside lawful aligned flash holds new (aligned.page_eq ▸ outside)

theorem LogEnds.blank (lawful : format.Lawful storable)
    (blank : ∀ i, base ≤ i → i < base + format.page → flash.cells i = 0xFF) :
    LogEnds format flash base none :=
  ⟨[], Holds.nil lawful fun i low high => blank i (by omega) high, rfl⟩

end LogEnds

/-! ## Operations on the cells -/

theorem clearSlot_cells {slot : UInt8} (flash : Nvmc) (inside : slot < maxProfiles) :
    (clearSlot flash slot).cells =
      flash.cells.erase (pageBase slot) (pageBase slot + pageSize) := by
  have aligned : profileFormat.Aligned pageSize (pageBase slot) := profileFormat_aligned
  have erased := Chip.erase_eq flash (pageBase slot) 1 (by decide) aligned.base_page
  rw [Nat.one_mul] at erased
  rw [clearSlot, if_neg (UInt8.not_le.mpr inside), erased]
  exact applySteps_pageSteps _ _ 1 |>.trans (by rw [Nat.one_mul])

theorem clearAll_cells (flash : Nvmc) :
    (clearAll flash).cells = flash.cells.erase storageBase (activePage + pageSize) := by
  have erased := Chip.erase_eq flash storageBase 5 (by decide) (by decide)
  have last : storageBase + 5 * pageSize = activePage + pageSize := by decide
  rw [last] at erased
  rw [clearAll, erased, ← last]
  exact applySteps_pageSteps _ _ 5

/-- An operation changes no byte outside the pages it names. -/
theorem Operation.run_outside {flash : Nvmc} {pairings : Pairings}
    (refines : Refines flash pairings) (operation : Operation) {i : Nat}
    (outside : ¬ operation.Names i) :
    (operation.run flash).cells i = flash.cells i := by
  cases operation with
  | save slot profile =>
      change (Storage.save flash slot profile).cells i = _
      rw [Storage.save]
      split
      · rfl
      next inside =>
        have inside := UInt8.not_le.mp inside
        exact (refines.profile slot inside).append_outside profileFormat_lawful
          profileFormat_aligned profile (by simp [Names, inside] at outside; omega)
  | clearSlot slot =>
      change (Storage.clearSlot flash slot).cells i = _
      by_cases inside : slot < maxProfiles
      · rw [clearSlot_cells flash inside]
        exact Cells.erase_outside _ (by simp [Names, inside] at outside; omega)
      · rw [Storage.clearSlot, if_pos (UInt8.not_lt.mp inside)]
  | clearAll =>
      change (Storage.clearAll flash).cells i = _
      rw [clearAll_cells]
      exact Cells.erase_outside _ (by simp [Names] at outside; omega)
  | saveActiveSlot slot =>
      change (Storage.saveActiveSlot flash slot).cells i = _
      rw [Storage.saveActiveSlot]
      split
      · rfl
      next inside =>
        have inside := UInt8.not_le.mp inside
        exact refines.active.append_outside activeFormat_lawful activeFormat_aligned slot
          (by simp [Names, inside] at outside; omega)

/-! ## Every operation keeps the refinement -/

section Step

variable {flash : Nvmc} {pairings : Pairings}

/-- A page that an operation does not name keeps its log. -/
theorem LogEnds.run {α : Type} {format : Format α} {storable : α → Prop} {base : Nat}
    {value : Option α} (refines : Refines flash pairings) (operation : Operation)
    (lawful : format.Lawful storable) (ends : LogEnds format flash base value)
    (outside : ∀ i, base ≤ i → i < base + format.page → ¬ operation.Names i) :
    LogEnds format (operation.run flash) base value :=
  ends.congr lawful fun i low high => (operation.run_outside refines (outside i low high)).symm

theorem Refines.save (refines : Refines flash pairings) {slot : UInt8}
    (inside : slot < maxProfiles) (profile : Profile) :
    Refines (Storage.save flash slot profile)
      { pairings with profile := Function.update pairings.profile slot (some profile) } where
  profile other bound := by
    dsimp only
    by_cases same : other = slot
    · subst same
      rw [Function.update_self, Storage.save, if_neg (UInt8.not_le.mpr inside)]
      exact (refines.profile other bound).append profileFormat_lawful profileFormat_aligned trivial
    · rw [Function.update_of_ne same]
      refine (refines.profile other bound).run refines (.save slot profile) profileFormat_lawful ?_
      rintro i low high ⟨_, low', high'⟩
      rcases pageBase_disjoint same with _ | _ <;>
        (change i < _ + pageSize at high; omega)
  active := by
    refine refines.active.run refines (.save slot profile) activeFormat_lawful ?_
    rintro i low high ⟨_, low', high'⟩
    have := pageBase_end_le inside
    omega

theorem Refines.clearSlot (refines : Refines flash pairings) {slot : UInt8}
    (inside : slot < maxProfiles) :
    Refines (Storage.clearSlot flash slot)
      { pairings with profile := Function.update pairings.profile slot none } where
  profile other bound := by
    dsimp only
    by_cases same : other = slot
    · subst same
      rw [Function.update_self]
      refine LogEnds.blank profileFormat_lawful fun i low high => ?_
      rw [clearSlot_cells flash inside]
      exact Cells.erase_inside _ low high
    · rw [Function.update_of_ne same]
      refine (refines.profile other bound).run refines (.clearSlot slot) profileFormat_lawful ?_
      rintro i low high ⟨_, low', high'⟩
      rcases pageBase_disjoint same with _ | _ <;>
        (change i < _ + pageSize at high; omega)
  active := by
    refine refines.active.run refines (.clearSlot slot) activeFormat_lawful ?_
    rintro i low high ⟨_, low', high'⟩
    have := pageBase_end_le inside
    omega

theorem Refines.clearAll : Refines (Storage.clearAll flash) .empty where
  profile slot inside := by
    refine LogEnds.blank profileFormat_lawful fun i low high => ?_
    have first := storageBase_le_pageBase slot
    have last := pageBase_end_le inside
    change i < _ + pageSize at high
    rw [clearAll_cells]
    exact Cells.erase_inside _ (by omega) (by omega)
  active := by
    refine LogEnds.blank activeFormat_lawful fun i low high => ?_
    rw [clearAll_cells]
    exact Cells.erase_inside _ (Nat.le_trans (by decide) low) high

theorem Refines.saveActiveSlot (refines : Refines flash pairings) {slot : UInt8}
    (inside : slot < maxProfiles) :
    Refines (Storage.saveActiveSlot flash slot) { pairings with active := some slot } where
  profile other bound := by
    refine (refines.profile other bound).run refines (.saveActiveSlot slot) profileFormat_lawful ?_
    rintro i low high ⟨_, low', high'⟩
    have := pageBase_end_le bound
    change i < _ + pageSize at high
    omega
  active := by
    rw [Storage.saveActiveSlot, if_neg (UInt8.not_le.mpr inside)]
    exact refines.active.append activeFormat_lawful activeFormat_aligned inside

theorem Refines.step (refines : Refines flash pairings) (operation : Operation) :
    Refines (operation.run flash) (pairings.apply operation) := by
  cases operation with
  | save slot profile =>
      rw [Pairings.apply]
      split
      next inside => exact refines.save inside profile
      next outside =>
        change Refines (Storage.save flash slot profile) pairings
        rw [Storage.save, if_pos (UInt8.not_lt.mp outside)]
        exact refines
  | clearSlot slot =>
      rw [Pairings.apply]
      split
      next inside => exact refines.clearSlot inside
      next outside =>
        change Refines (Storage.clearSlot flash slot) pairings
        rw [Storage.clearSlot, if_pos (UInt8.not_lt.mp outside)]
        exact refines
  | clearAll => exact .clearAll
  | saveActiveSlot slot =>
      rw [Pairings.apply]
      split
      next inside => exact refines.saveActiveSlot inside
      next outside =>
        change Refines (Storage.saveActiveSlot flash slot) pairings
        rw [Storage.saveActiveSlot, if_pos (UInt8.not_lt.mp outside)]
        exact refines

theorem Refines.run (refines : Refines flash pairings) (operations : List Operation) :
    Refines (operations.foldl Operation.run flash) (operations.foldl Pairings.apply pairings) := by
  induction operations generalizing flash pairings with
  | nil => exact refines
  | cons operation rest ih => exact ih (refines.step operation)

theorem Refines.load (refines : Refines flash pairings) {slot : UInt8}
    (inside : slot < maxProfiles) : Storage.load flash slot = (pairings.profile slot, flash) := by
  rw [Storage.load, if_neg (UInt8.not_le.mpr inside)]
  exact (refines.profile slot inside).latest

theorem Refines.loadActiveSlot (refines : Refines flash pairings) :
    Storage.loadActiveSlot flash = (pairings.active, flash) :=
  refines.active.latest

/-- Only slots that exist are ever stored as the active one. -/
theorem Refines.active_lt (refines : Refines flash pairings) {slot : UInt8}
    (active : pairings.active = some slot) : slot < maxProfiles := by
  obtain ⟨entries, holds, last⟩ := refines.active
  rw [active] at last
  obtain ⟨i, inside, rfl⟩ := List.getElem_of_mem (List.mem_of_getLast? last)
  have decoded := holds.valid i inside
  generalize activeFormat.entryAt flash.cells activePage i = entry at decoded
  change (if ofLe32 entry < maxProfiles.toUInt32 then some (ofLe32 entry).toUInt8 else none) =
    _ at decoded
  split at decoded
  next small =>
    rw [← Option.some.inj decoded]
    have word : (ofLe32 entry).toNat < 4 := UInt32.lt_iff_toNat_lt.mp small
    refine UInt8.lt_iff_toNat_lt.mpr ?_
    rw [UInt32.toNat_toUInt8]
    change (ofLe32 entry).toNat % 256 < 4
    omega
  next => cases decoded

/-- Loading changes nothing. -/
theorem load_flash (flash : Nvmc) (slot : UInt8) : (Storage.load flash slot).2 = flash := by
  rw [Storage.load]
  split
  · rfl
  · exact latest_chip _ _ _ _ _ flash

/-- Slots that do not exist are never stored. -/
theorem load_of_ge (flash : Nvmc) {slot : UInt8} (outside : maxProfiles ≤ slot) :
    Storage.load flash slot = (none, flash) :=
  if_pos outside

end Step

theorem Refines.erased {flash : Nvmc}
    (blank : ∀ i, storageBase ≤ i → i < activePage + pageSize → flash.cells i = 0xFF) :
    Refines flash .empty where
  profile slot inside := by
    have first := storageBase_le_pageBase slot
    have last := pageBase_end_le inside
    refine LogEnds.blank profileFormat_lawful fun i low high => blank i (by omega) ?_
    change i < _ + pageSize at high
    omega
  active :=
    LogEnds.blank activeFormat_lawful fun i low high =>
      blank i (Nat.le_trans (by decide) low) high

/--
After any operations on an erased partition, the loads return what the map
holds, a slot that does not exist is never read, saved or cleared, and the next
operation stays on the pages it names.
-/
theorem partition_refines_map (flash : Nvmc) (operations : List Operation)
    (blank : ∀ i, storageBase ≤ i → i < activePage + pageSize → flash.cells i = 0xFF) :
    let after := operations.foldl Operation.run flash
    let stored := operations.foldl Pairings.apply .empty
    (∀ slot < maxProfiles, load after slot = (stored.profile slot, after)) ∧
    loadActiveSlot after = (stored.active, after) ∧
    (∀ slot ≥ maxProfiles, load after slot = (none, after) ∧ clearSlot after slot = after ∧
      saveActiveSlot after slot = after ∧ ∀ profile, save after slot profile = after) ∧
    ∀ (operation : Operation) (i : Nat), ¬ operation.Names i →
      (operation.run after).cells i = after.cells i := by
  intro after stored
  have refines : Refines after stored := (Refines.erased blank).run operations
  refine ⟨fun slot inside => refines.load inside, refines.loadActiveSlot, ?_,
    fun operation i outside => operation.run_outside refines outside⟩
  exact fun slot outside => ⟨load_of_ge after outside, if_pos outside, if_pos outside,
    fun profile => if_pos outside⟩

/-- The chip of a board that has never run the firmware. -/
def erasedChip : Nvmc := { cells := fun _ => 0xFF }

theorem partition_refines_map_erasedChip :
    (load ([Operation.save 1 ⟨.replicate 5 7, .replicate 16 8, 9, 5⟩, .saveActiveSlot 1,
      .clearSlot 0].foldl Operation.run erasedChip) 1).1 =
        some ⟨.replicate 5 7, .replicate 16 8, 9, 5⟩ := by
  rw [(partition_refines_map erasedChip _ fun _ _ _ => rfl).1 1 (by decide)]
  decide

end NrfUnifying.Storage
