import NrfUnifying.Storage.Refinement

/-!
# Saving on a page of any content

A save looks for the first invalid record and appends there if it is blank. A
later load does not stop behind the appended record: it reads on while records
are valid, so valid records that directly follow the blank one hide the save.
-/

namespace NrfUnifying.Storage

open Lib.Bytes Lib.Flash Lib.AppendLog

/-- A value in front of `covering` is still the one a load finds. -/
def Uncovered {α : Type} (covering : List α) (value : α) : Prop :=
  ∀ last ∈ covering.getLast?, last = value

instance {α : Type} [DecidableEq α] (covering : List α) (value : α) :
    Decidable (Uncovered covering value) :=
  inferInstanceAs (Decidable (∀ last ∈ covering.getLast?, last = value))

/-- The records a save into a slot leaves behind its own. -/
def recordsBehind (flash : Nvmc) (slot : UInt8) : List Profile :=
  profileFormat.behind flash.cells (pageBase slot)

/-- The entries a save of the active slot leaves behind its own. -/
def entriesBehind (flash : Nvmc) : List UInt8 :=
  activeFormat.behind flash.cells activePage

theorem load_save_iff (flash : Nvmc) {slot : UInt8} (inside : slot < maxProfiles)
    (profile : Profile) :
    (load (save flash slot profile) slot).1 = some profile ↔
      Uncovered (recordsBehind flash slot) profile := by
  unfold load save
  rw [if_neg (UInt8.not_le.mpr inside), if_neg (UInt8.not_le.mpr inside)]
  exact append_latest_iff profileFormat_lawful profileFormat_aligned flash trivial

theorem loadActiveSlot_saveActiveSlot_iff (flash : Nvmc) {slot : UInt8}
    (inside : slot < maxProfiles) :
    (loadActiveSlot (saveActiveSlot flash slot)).1 = some slot ↔
      Uncovered (entriesBehind flash) slot := by
  unfold loadActiveSlot saveActiveSlot
  rw [if_neg (UInt8.not_le.mpr inside)]
  exact append_latest_iff activeFormat_lawful activeFormat_aligned flash inside

/-- Whatever the pages hold, a save is read back exactly when nothing valid covers it. -/
theorem saved_found_iff (flash : Nvmc) :
    (∀ slot < maxProfiles, ∀ profile,
      ((load (save flash slot profile) slot).1 = some profile ↔
        Uncovered (recordsBehind flash slot) profile)) ∧
    ∀ slot < maxProfiles,
      ((loadActiveSlot (saveActiveSlot flash slot)).1 = some slot ↔
        Uncovered (entriesBehind flash) slot) := by
  constructor
  · intro slot inside profile
    exact load_save_iff flash inside profile
  · intro slot inside
    exact loadActiveSlot_saveActiveSlot_iff flash inside

theorem saved_found_iff_erasedChip :
    (load (save erasedChip 3 ⟨.replicate 5 7, .replicate 16 8, 9, 5⟩) 3).1 =
      some ⟨.replicate 5 7, .replicate 16 8, 9, 5⟩ :=
  ((saved_found_iff erasedChip).1 3 (by decide) _).mpr (by decide)

/-- The first record of page 0 is blank and the second is valid; so on the active-slot page. -/
def coveredChip : Nvmc where
  cells := (erasedChip.cells.program (pageBase 0 + recordSize)
    (encode ⟨.replicate 5 1, .replicate 16 2, 3, 4⟩)).program (activePage + 4) (le32 1)

theorem coveredChip_load :
    (load (save coveredChip 0 ⟨.replicate 5 7, .replicate 16 8, 9, 5⟩) 0).1 =
      some ⟨.replicate 5 1, .replicate 16 2, 3, 4⟩ := by
  decide

theorem coveredChip_loadActiveSlot :
    (loadActiveSlot (saveActiveSlot coveredChip 0)).1 = some 1 := by
  decide

theorem not_saved_found :
    (¬∀ (flash : Nvmc) (slot : UInt8) (profile : Profile), slot < maxProfiles →
      (load (save flash slot profile) slot).1 = some profile) ∧
    ¬∀ (flash : Nvmc) (slot : UInt8), slot < maxProfiles →
      (loadActiveSlot (saveActiveSlot flash slot)).1 = some slot := by
  constructor
  · intro found
    have same := found coveredChip 0 ⟨.replicate 5 7, .replicate 16 8, 9, 5⟩ (by decide)
    rw [coveredChip_load] at same
    exact absurd same (by decide)
  · intro found
    have same := found coveredChip 0 (by decide)
    rw [coveredChip_loadActiveSlot] at same
    exact absurd same (by decide)

end NrfUnifying.Storage
