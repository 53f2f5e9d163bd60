import NrfUnifying.Lib.CutLog
import NrfUnifying.Storage.PowerLoss

/-!
# The partition through power losses

Any operation may be cut between two of its flash steps, any number of times in
the life of a board. `Logs` is what the pages hold then, entry by entry: pages
always stay logs, a cut changes only the page it was working on, and the next
complete save of a slot is read back whatever was cut before.
-/

namespace NrfUnifying.Storage

open Lib.Bytes Lib.Flash Lib.AppendLog Lib.CutLog

/-- The entries of each page, oldest first. -/
structure Logs where
  profiles : UInt8 → List Profile
  active : List UInt8

def Logs.empty : Logs := ⟨fun _ => [], []⟩

/-- An operation that comes to its end, or is cut after so many of its flash steps. -/
inductive Attempt where
  | whole (operation : Operation)
  | cut (operation : Operation) (done : Nat)

/-- What an operation does to the flash, step by step. -/
def Operation.steps (flash : Nvmc) (operation : Operation) : List FlashStep :=
  (operation.run { cells := flash.cells }).steps

/-- After a cut the board starts with what was done. -/
def Attempt.run (flash : Nvmc) : Attempt → Nvmc
  | .whole operation => operation.run flash
  | .cut operation done =>
      { cells := applySteps flash.cells ((operation.steps flash).take done) }

def Logs.setProfile (logs : Logs) (slot : UInt8) (entries : List Profile) : Logs :=
  { logs with profiles := Function.update logs.profiles slot entries }

def Logs.apply (logs : Logs) : Operation → Logs
  | .save slot profile =>
      if slot < maxProfiles then
        logs.setProfile slot (push profileFormat (logs.profiles slot) profile)
      else logs
  | .clearSlot slot => if slot < maxProfiles then logs.setProfile slot [] else logs
  | .clearAll => .empty
  | .saveActiveSlot slot =>
      if slot < maxProfiles then { logs with active := push activeFormat logs.active slot }
      else logs

/-- The pages of `clearAll` are erased one by one, that of the active slot last. -/
def Logs.cut (logs : Logs) (done : Nat) : Operation → Logs
  | .save slot profile =>
      if slot < maxProfiles then
        logs.setProfile slot (pushCut profileFormat (logs.profiles slot) profile done)
      else logs
  | .clearSlot slot =>
      if slot < maxProfiles ∧ 0 < done then logs.setProfile slot [] else logs
  | .clearAll => {
      profiles := fun slot => if slot.toNat < done then [] else logs.profiles slot
      active := if 4 < done then [] else logs.active }
  | .saveActiveSlot slot =>
      if slot < maxProfiles then
        { logs with active := pushCut activeFormat logs.active slot done }
      else logs

def Logs.attempt (logs : Logs) : Attempt → Logs
  | .whole operation => logs.apply operation
  | .cut operation done => logs.cut done operation

/-- The flash holds these logs. -/
structure Logs.StoredIn (logs : Logs) (flash : Nvmc) : Prop where
  profiles : ∀ slot < maxProfiles,
    Clean profileFormat flash.cells (pageBase slot) (logs.profiles slot)
  active : Clean activeFormat flash.cells activePage logs.active

/-! ## Started entries -/

theorem started_profile (profile : Profile) {words : Nat} (positive : 0 < words) :
    started profileFormat profile words = some (profile.cut words) :=
  decode_torn profile positive

theorem started_active {slot : UInt8} (inside : slot < maxProfiles) {words : Nat}
    (positive : 0 < words) : started activeFormat slot words = some slot := by
  have length : (activeFormat.encode slot).length = activeFormat.size := rfl
  have whole : (activeFormat.encode slot).take (4 * words) = activeFormat.encode slot := by
    refine List.take_of_length_le ?_
    change 4 ≤ 4 * words
    omega
  unfold started
  rw [whole, Format.torn_of_length _ length]
  exact activeFormat_lawful.decode_encode slot inside

theorem profileFormat_tearable : Tearable profileFormat fun _ => True := by
  intro profile words _ positive
  rw [started_profile profile positive]
  rfl

theorem activeFormat_tearable : Tearable activeFormat fun slot => slot < maxProfiles := by
  intro slot words inside positive
  rw [started_active inside positive]
  rfl

/-! ## The steps of the operations -/

section Steps

variable {flash : Nvmc} {logs : Logs}

theorem Logs.StoredIn.save_steps (stored : logs.StoredIn flash) {slot : UInt8}
    (inside : slot < maxProfiles) (profile : Profile) :
    (Operation.save slot profile).steps flash =
      profileFormat.appendSteps (pageBase slot) profile
        (profileFormat.place flash.cells (pageBase slot) (logs.profiles slot)) := by
  have holds := (stored.profiles slot inside).holds profileFormat_lawful
  change (Storage.save ({ cells := flash.cells } : Nvmc) slot profile).steps = _
  rw [Storage.save, if_neg (UInt8.not_le.mpr inside), append_eq profileFormat_lawful
    profileFormat_aligned ({ cells := flash.cells } : Nvmc) holds]
  rfl

theorem Logs.StoredIn.saveActiveSlot_steps (stored : logs.StoredIn flash) {slot : UInt8}
    (inside : slot < maxProfiles) :
    (Operation.saveActiveSlot slot).steps flash =
      activeFormat.appendSteps activePage slot
        (activeFormat.place flash.cells activePage logs.active) := by
  have holds := stored.active.holds activeFormat_lawful
  change (Storage.saveActiveSlot ({ cells := flash.cells } : Nvmc) slot).steps = _
  rw [Storage.saveActiveSlot, if_neg (UInt8.not_le.mpr inside), append_eq activeFormat_lawful
    activeFormat_aligned ({ cells := flash.cells } : Nvmc) holds]
  rfl

theorem clearSlot_steps (flash : Nvmc) {slot : UInt8} (inside : slot < maxProfiles) :
    (Operation.clearSlot slot).steps flash =
      [.erase (pageBase slot) (pageBase slot + pageSize)] := by
  have aligned : profileFormat.Aligned pageSize (pageBase slot) := profileFormat_aligned
  have erased := Chip.erase_eq ({ cells := flash.cells } : Nvmc) (pageBase slot) 1 (by decide)
    aligned.base_page
  rw [Nat.one_mul] at erased
  change (Storage.clearSlot ({ cells := flash.cells } : Nvmc) slot).steps = _
  rw [Storage.clearSlot, if_neg (UInt8.not_le.mpr inside), erased]
  rfl

theorem clearAll_steps (flash : Nvmc) :
    (Operation.clearAll).steps flash = pageSteps pageSize storageBase 5 := by
  have erased := Chip.erase_eq ({ cells := flash.cells } : Nvmc) storageBase 5 (by decide)
    (by decide)
  have last : storageBase + 5 * pageSize = activePage + pageSize := by decide
  rw [last] at erased
  change (Storage.clearAll ({ cells := flash.cells } : Nvmc)).steps = _
  rw [Storage.clearAll, erased]
  rfl

/-- An operation on a slot that does not exist has no steps. -/
theorem no_steps_of_ge {slot : UInt8} (outside : ¬slot < maxProfiles) (flash : Nvmc)
    (profile : Profile) :
    (Operation.save slot profile).steps flash = [] ∧
      (Operation.clearSlot slot).steps flash = [] ∧
      (Operation.saveActiveSlot slot).steps flash = [] := by
  have beyond : slot ≥ maxProfiles := UInt8.not_lt.mp outside
  refine ⟨?_, ?_, ?_⟩
  · change (Storage.save ({ cells := flash.cells } : Nvmc) slot profile).steps = _
    rw [Storage.save, if_pos beyond]
  · change (Storage.clearSlot ({ cells := flash.cells } : Nvmc) slot).steps = _
    rw [Storage.clearSlot, if_pos beyond]
  · change (Storage.saveActiveSlot ({ cells := flash.cells } : Nvmc) slot).steps = _
    rw [Storage.saveActiveSlot, if_pos beyond]

/-! ## Each attempt keeps the logs -/

/-- One slot's page takes a new log, the other pages are untouched. -/
theorem Logs.StoredIn.setProfile (stored : logs.StoredIn flash) {slot : UInt8}
    (inside : slot < maxProfiles) {after : Nvmc} {entries : List Profile}
    (clean : Clean profileFormat after.cells (pageBase slot) entries)
    (outside : ∀ i, i < pageBase slot ∨ pageBase slot + pageSize ≤ i →
      after.cells i = flash.cells i) :
    (logs.setProfile slot entries).StoredIn after where
  profiles other bound := by
    unfold Logs.setProfile
    dsimp only
    by_cases same : other = slot
    · subst same
      rw [Function.update_self]
      exact clean
    · rw [Function.update_of_ne same]
      refine (stored.profiles other bound).congr profileFormat_lawful fun i low high => ?_
      refine outside i ?_
      change i < _ + pageSize at high
      rcases pageBase_disjoint same with apart | apart
      · exact .inl (by omega)
      · exact .inr (by omega)
  active := by
    have below := pageBase_end_le inside
    refine stored.active.congr activeFormat_lawful fun i low high => ?_
    exact outside i (.inr (by omega))

/-- The page of the active slot takes a new log. -/
theorem Logs.StoredIn.setActive (stored : logs.StoredIn flash) {after : Nvmc}
    {entries : List UInt8} (clean : Clean activeFormat after.cells activePage entries)
    (outside : ∀ i, i < activePage ∨ activePage + pageSize ≤ i → after.cells i = flash.cells i) :
    ({ logs with active := entries } : Logs).StoredIn after where
  profiles slot inside := by
    have below := pageBase_end_le inside
    refine (stored.profiles slot inside).congr profileFormat_lawful fun i low high => ?_
    change i < _ + pageSize at high
    exact outside i (.inl (by omega))
  active := clean

theorem Logs.StoredIn.save (stored : logs.StoredIn flash) {slot : UInt8}
    (inside : slot < maxProfiles) (profile : Profile) :
    (logs.setProfile slot (push profileFormat (logs.profiles slot) profile)).StoredIn
      (Storage.save flash slot profile) := by
  have clean := stored.profiles slot inside
  rw [Storage.save, if_neg (UInt8.not_le.mpr inside)]
  refine stored.setProfile inside
    (clean.append profileFormat_lawful profileFormat_aligned trivial) fun i outside => ?_
  exact append_outside profileFormat_lawful profileFormat_aligned flash
    (clean.holds profileFormat_lawful) profile outside

theorem Logs.StoredIn.saveActiveSlot (stored : logs.StoredIn flash) {slot : UInt8}
    (inside : slot < maxProfiles) :
    ({ logs with active := push activeFormat logs.active slot } : Logs).StoredIn
      (Storage.saveActiveSlot flash slot) := by
  rw [Storage.saveActiveSlot, if_neg (UInt8.not_le.mpr inside)]
  refine stored.setActive
    (stored.active.append activeFormat_lawful activeFormat_aligned inside) fun i outside => ?_
  exact append_outside activeFormat_lawful activeFormat_aligned flash
    (stored.active.holds activeFormat_lawful) slot outside

theorem Logs.StoredIn.clearSlot (stored : logs.StoredIn flash) {slot : UInt8}
    (inside : slot < maxProfiles) {after : Nvmc}
    (erased : after.cells = flash.cells.erase (pageBase slot) (pageBase slot + pageSize)) :
    (logs.setProfile slot []).StoredIn after := by
  refine stored.setProfile inside (.nil ?_) fun i outside => ?_
  · rw [erased]
    exact BlankFrom.erased profileFormat flash.cells (pageBase slot)
  · rw [erased]
    exact Cells.erase_outside _ outside

/-- The pages of the first `done` slots are erased, and that of the active slot after them. -/
theorem Logs.StoredIn.erase (stored : logs.StoredIn flash) {after : Nvmc} {done : Nat}
    (erased : after.cells = flash.cells.erase storageBase (storageBase + done * pageSize)) :
    (logs.cut done .clearAll).StoredIn after where
  profiles slot inside := by
    have bound := toNat_lt_of_slot inside
    have first := storageBase_le_pageBase slot
    change Clean _ _ _ (if slot.toNat < done then [] else logs.profiles slot)
    split
    next below =>
      refine .nil fun i low high => ?_
      have last := Nat.mul_le_mul_right pageSize (Nat.succ_le_of_lt below)
      change i < pageBase slot + pageSize at high
      unfold pageBase at low high first
      rw [erased]
      refine Cells.erase_inside _ (by omega) ?_
      rw [Nat.succ_mul] at last
      have order := Nat.mul_comm pageSize slot.toNat
      omega
    next above =>
      refine (stored.profiles slot inside).congr profileFormat_lawful fun i low high => ?_
      have last := Nat.mul_le_mul_right pageSize (Nat.not_lt.mp above)
      rw [erased]
      refine Cells.erase_outside _ (.inr ?_)
      unfold pageBase at low
      have order := Nat.mul_comm pageSize slot.toNat
      omega
  active := by
    change Clean _ _ _ (if 4 < done then [] else logs.active)
    split
    next below =>
      refine .nil fun i low high => ?_
      have last := Nat.mul_le_mul_right pageSize below
      change i < activePage + pageSize at high
      rw [erased]
      refine Cells.erase_inside _ (Nat.le_trans (by decide) low) ?_
      have limit : activePage + pageSize = storageBase + 5 * pageSize := by decide
      omega
    next above =>
      refine stored.active.congr activeFormat_lawful fun i low high => ?_
      have last := Nat.mul_le_mul_right pageSize (Nat.not_lt.mp above)
      have limit : activePage = storageBase + 4 * pageSize := by decide
      rw [erased]
      exact Cells.erase_outside _ (.inr (by omega))

theorem Logs.StoredIn.apply (stored : logs.StoredIn flash) (operation : Operation) :
    (logs.apply operation).StoredIn (operation.run flash) := by
  cases operation with
  | save slot profile =>
      unfold Logs.apply
      dsimp only
      split
      next inside => exact stored.save inside profile
      next outside =>
        change logs.StoredIn (Storage.save flash slot profile)
        rw [Storage.save, if_pos (UInt8.not_lt.mp outside)]
        exact stored
  | clearSlot slot =>
      unfold Logs.apply
      dsimp only
      split
      next inside => exact stored.clearSlot inside (clearSlot_cells flash inside)
      next outside =>
        change logs.StoredIn (Storage.clearSlot flash slot)
        rw [Storage.clearSlot, if_pos (UInt8.not_lt.mp outside)]
        exact stored
  | clearAll =>
      have erased : (logs.cut 5 .clearAll).StoredIn (Storage.clearAll flash) :=
        stored.erase (clearAll_cells flash)
      refine ⟨fun slot inside => ?_, erased.active⟩
      have below : slot.toNat < 5 := Nat.lt_succ_of_lt (toNat_lt_of_slot inside)
      have clean := erased.profiles slot inside
      unfold Logs.cut at clean
      dsimp only at clean
      rw [if_pos below] at clean
      exact clean
  | saveActiveSlot slot =>
      unfold Logs.apply
      dsimp only
      split
      next inside => exact stored.saveActiveSlot inside
      next outside =>
        change logs.StoredIn (Storage.saveActiveSlot flash slot)
        rw [Storage.saveActiveSlot, if_pos (UInt8.not_lt.mp outside)]
        exact stored

theorem pageSteps_take (page first count done : Nat) :
    (pageSteps page first count).take done = pageSteps page first (min done count) := by
  induction count generalizing first done with
  | zero => rw [Nat.min_zero]; exact List.take_nil
  | succ count ih =>
      cases done with
      | zero => rw [Nat.zero_min]; rfl
      | succ done =>
          rw [Nat.succ_min_succ]
          exact congrArg (FlashStep.erase first (first + page) :: ·) (ih (first + page) done)

theorem Logs.StoredIn.cut (stored : logs.StoredIn flash) (operation : Operation) (done : Nat) :
    (logs.cut done operation).StoredIn (Attempt.run flash (.cut operation done)) := by
  have idle (none : operation.steps flash = []) :
      Attempt.run flash (.cut operation done) = { cells := flash.cells } := by
    rw [Attempt.run, none]
    cases done <;> rfl
  have kept : logs.StoredIn ({ cells := flash.cells } : Nvmc) := ⟨stored.profiles, stored.active⟩
  cases operation with
  | save slot profile =>
      unfold Logs.cut
      dsimp only
      split
      next inside =>
        have clean := stored.profiles slot inside
        have steps := stored.save_steps inside profile
        refine stored.setProfile inside ?_ fun i outside => ?_
        · rw [Attempt.run, steps]
          exact clean.cut profileFormat_lawful profileFormat_tearable profileFormat_aligned
            trivial done
        · rw [Attempt.run, steps]
          exact clean.cut_outside profileFormat_lawful profileFormat_aligned profile done outside
      next outside =>
        rw [idle (no_steps_of_ge outside flash profile).1]
        exact kept
  | clearSlot slot =>
      unfold Logs.cut
      dsimp only
      by_cases inside : slot < maxProfiles
      · have steps := clearSlot_steps flash inside
        by_cases begun : 0 < done
        · rw [if_pos ⟨inside, begun⟩]
          refine stored.clearSlot inside ?_
          rw [Attempt.run, steps]
          obtain ⟨done, rfl⟩ := Nat.exists_eq_add_of_lt begun
          rw [Nat.zero_add, List.take_succ_cons, List.take_nil]
          rfl
        · obtain rfl := Nat.le_zero.mp (Nat.not_lt.mp begun)
          rw [if_neg fun both => begun both.2]
          exact kept
      · rw [if_neg fun both => inside both.1]
        rw [idle (no_steps_of_ge inside flash ⟨.replicate 5 0, .replicate 16 0, 0, 0⟩).2.1]
        exact kept
  | clearAll =>
      have cells : (Attempt.run flash (.cut .clearAll done)).cells =
          flash.cells.erase storageBase (storageBase + min done 5 * pageSize) := by
        rw [Attempt.run, clearAll_steps, pageSteps_take]
        exact applySteps_pageSteps _ _ _
      have erased := stored.erase cells
      refine ⟨fun slot inside => ?_, ?_⟩
      · have bound := toNat_lt_of_slot inside
        have clean := erased.profiles slot inside
        unfold Logs.cut at clean ⊢
        dsimp only at clean ⊢
        rwa [if_congr (show slot.toNat < min done 5 ↔ slot.toNat < done by omega) rfl rfl] at clean
      · have clean := erased.active
        unfold Logs.cut at clean ⊢
        dsimp only at clean ⊢
        rwa [if_congr (show 4 < min done 5 ↔ 4 < done by omega) rfl rfl] at clean
  | saveActiveSlot slot =>
      unfold Logs.cut
      dsimp only
      split
      next inside =>
        have steps := stored.saveActiveSlot_steps inside
        refine stored.setActive ?_ fun i outside => ?_
        · rw [Attempt.run, steps]
          exact stored.active.cut activeFormat_lawful activeFormat_tearable activeFormat_aligned
            inside done
        · rw [Attempt.run, steps]
          exact stored.active.cut_outside activeFormat_lawful activeFormat_aligned slot done
            outside
      next outside =>
        rw [idle (no_steps_of_ge outside flash ⟨.replicate 5 0, .replicate 16 0, 0, 0⟩).2.2]
        exact kept

theorem Logs.StoredIn.attempt (stored : logs.StoredIn flash) (attempt : Attempt) :
    (logs.attempt attempt).StoredIn (attempt.run flash) := by
  cases attempt with
  | whole operation => exact stored.apply operation
  | cut operation done => exact stored.cut operation done

theorem Logs.StoredIn.attempts (stored : logs.StoredIn flash) (attempts : List Attempt) :
    (attempts.foldl Logs.attempt logs).StoredIn (attempts.foldl Attempt.run flash) := by
  induction attempts generalizing logs flash with
  | nil => exact stored
  | cons attempt rest ih => exact ih (stored.attempt attempt)

theorem Logs.StoredIn.load (stored : logs.StoredIn flash) {slot : UInt8}
    (inside : slot < maxProfiles) :
    Storage.load flash slot = ((logs.profiles slot).getLast?, flash) := by
  rw [Storage.load, if_neg (UInt8.not_le.mpr inside)]
  exact latest_eq flash ((stored.profiles slot inside).holds profileFormat_lawful)

theorem Logs.StoredIn.loadActiveSlot (stored : logs.StoredIn flash) :
    Storage.loadActiveSlot flash = (logs.active.getLast?, flash) :=
  latest_eq flash (stored.active.holds activeFormat_lawful)

theorem Logs.empty_storedIn
    (blank : ∀ i, storageBase ≤ i → i < activePage + pageSize → flash.cells i = 0xFF) :
    Logs.empty.StoredIn flash where
  profiles slot inside := by
    have first := storageBase_le_pageBase slot
    have last := pageBase_end_le inside
    refine .nil fun i low high => blank i (by omega) ?_
    change i < _ + pageSize at high
    omega
  active := .nil fun i low high => blank i (Nat.le_trans (by decide) low) high

end Steps

/-! ## Where entries come from -/

def Attempt.operation : Attempt → Operation
  | .whole operation | .cut operation _ => operation

/-- Every entry of a slot's log is one that was saved there, or the first words of it. -/
def Logs.Saved (logs : Logs) (attempts : List Attempt) : Prop :=
  ∀ slot, ∀ profile ∈ logs.profiles slot, ∃ attempt ∈ attempts, ∃ saved words,
    attempt.operation = .save slot saved ∧ 0 < words ∧ profile = saved.cut words

section Saved

variable {logs : Logs}

theorem mem_push {α : Type} {format : Format α} {entries : List α} {value other : α}
    (member : other ∈ push format entries value) : other ∈ entries ∨ other = value := by
  unfold push at member
  split at member
  · rcases List.mem_append.mp member with old | new
    · exact .inl old
    · exact .inr (List.mem_singleton.mp new)
  · exact .inr (List.mem_singleton.mp member)

theorem mem_pushCut {α : Type} {format : Format α} {entries : List α} {value other : α}
    {done : Nat} (member : other ∈ pushCut format entries value done) :
    other ∈ entries ∨ ∃ words, started format value words = some other := by
  unfold pushCut at member
  split at member
  · rcases List.mem_append.mp member with old | new
    · exact .inl old
    · exact .inr ⟨done, Option.mem_toList.mp new⟩
  · split at member
    · exact .inl member
    next done => exact .inr ⟨done, Option.mem_toList.mp member⟩

theorem started_profile_eq_some {saved profile : Profile} {words : Nat}
    (reads : started profileFormat saved words = some profile) :
    0 < words ∧ profile = saved.cut words := by
  cases words with
  | zero =>
      rw [started_zero profileFormat_lawful] at reads
      cases reads
  | succ words =>
      rw [started_profile saved (Nat.succ_pos words)] at reads
      exact ⟨Nat.succ_pos words, (Option.some.inj reads).symm⟩

theorem mem_setProfile {slot other : UInt8} {entries : List Profile} {profile : Profile}
    (member : profile ∈ (logs.setProfile slot entries).profiles other) :
    profile ∈ logs.profiles other ∨ other = slot ∧ profile ∈ entries := by
  unfold Logs.setProfile at member
  dsimp only at member
  by_cases same : other = slot
  · subst same
    rw [Function.update_self] at member
    exact .inr ⟨rfl, member⟩
  · rw [Function.update_of_ne same] at member
    exact .inl member

/-- A new entry is what an attempt saved, or the first words of it. -/
theorem Logs.attempt_profiles {attempt : Attempt} {slot : UInt8} {profile : Profile}
    (member : profile ∈ (logs.attempt attempt).profiles slot) :
    profile ∈ logs.profiles slot ∨ ∃ saved words,
      attempt.operation = .save slot saved ∧ 0 < words ∧ profile = saved.cut words := by
  cases attempt with
  | whole operation =>
      change profile ∈ (logs.apply operation).profiles slot at member
      cases operation with
      | save other saved =>
          unfold Logs.apply at member
          dsimp only at member
          split at member
          · rcases mem_setProfile member with old | ⟨rfl, new⟩
            · exact .inl old
            rcases mem_push new with old | rfl
            · exact .inl old
            · exact .inr ⟨profile, 8, rfl, by decide, (profile.cut_all (Nat.le_refl 8)).symm⟩
          · exact .inl member
      | clearSlot other =>
          unfold Logs.apply at member
          dsimp only at member
          split at member
          · rcases mem_setProfile member with old | ⟨-, none⟩
            · exact .inl old
            · cases none
          · exact .inl member
      | clearAll => cases member
      | saveActiveSlot other =>
          unfold Logs.apply at member
          dsimp only at member
          split at member
          · exact .inl member
          · exact .inl member
  | cut operation done =>
      change profile ∈ (logs.cut done operation).profiles slot at member
      cases operation with
      | save other saved =>
          unfold Logs.cut at member
          dsimp only at member
          split at member
          · rcases mem_setProfile member with old | ⟨rfl, new⟩
            · exact .inl old
            rcases mem_pushCut new with old | ⟨words, reads⟩
            · exact .inl old
            · exact .inr ⟨saved, words, rfl, started_profile_eq_some reads⟩
          · exact .inl member
      | clearSlot other =>
          unfold Logs.cut at member
          dsimp only at member
          split at member
          · rcases mem_setProfile member with old | ⟨-, none⟩
            · exact .inl old
            · cases none
          · exact .inl member
      | clearAll =>
          unfold Logs.cut at member
          dsimp only at member
          split at member
          · cases member
          · exact .inl member
      | saveActiveSlot other =>
          unfold Logs.cut at member
          dsimp only at member
          split at member
          · exact .inl member
          · exact .inl member

theorem Logs.saved_attempts (attempts : List Attempt) :
    (attempts.foldl Logs.attempt Logs.empty).Saved attempts := by
  suffices later : ∀ (logs : Logs) (before : List Attempt), logs.Saved before →
      (attempts.foldl Logs.attempt logs).Saved (before ++ attempts) from
    later .empty [] fun _ _ member => absurd member List.not_mem_nil
  induction attempts with
  | nil =>
      intro logs before saved
      rw [List.append_nil]
      exact saved
  | cons attempt rest ih =>
      intro logs before saved
      have next : (logs.attempt attempt).Saved (before ++ [attempt]) := by
        intro slot profile member
        rcases Logs.attempt_profiles member with old | new
        · obtain ⟨other, inside, source⟩ := saved slot profile old
          exact ⟨other, List.mem_append_left _ inside, source⟩
        · exact ⟨attempt, List.mem_append_right _ (List.mem_singleton_self _), new⟩
      have all := ih _ _ next
      rwa [List.append_assoc] at all

end Saved

/-- From an erased partition, whatever operations were cut and wherever, the loads return the
last entries of the logs; what a slot returns was saved there, at least its first words; and a
slot that is saved completely is read back. -/
theorem partition_survives_cuts (flash : Nvmc) (attempts : List Attempt)
    (blank : ∀ i, storageBase ≤ i → i < activePage + pageSize → flash.cells i = 0xFF) :
    let after := attempts.foldl Attempt.run flash
    let logs := attempts.foldl Logs.attempt .empty
    (∀ slot < maxProfiles, load after slot = ((logs.profiles slot).getLast?, after)) ∧
    loadActiveSlot after = (logs.active.getLast?, after) ∧
    (∀ slot < maxProfiles, ∀ profile, (load after slot).1 = some profile →
      ∃ attempt ∈ attempts, ∃ saved words, attempt.operation = .save slot saved ∧
        0 < words ∧ profile = saved.cut words) ∧
    ∀ slot < maxProfiles, ∀ profile,
      (load (save after slot profile) slot).1 = some profile ∧
      (loadActiveSlot (saveActiveSlot after slot)).1 = some slot := by
  have stored := (Logs.empty_storedIn blank).attempts attempts
  dsimp only
  refine ⟨fun slot inside => stored.load inside, stored.loadActiveSlot, ?_, ?_⟩
  · intro slot inside profile loaded
    rw [stored.load inside] at loaded
    exact Logs.saved_attempts attempts slot profile (List.mem_of_getLast? loaded)
  · intro slot inside profile
    constructor
    · rw [(stored.save inside profile).load inside]
      unfold Logs.setProfile
      dsimp only
      rw [Function.update_self]
      exact push_getLast? _ _ _
    · rw [(stored.saveActiveSlot inside).loadActiveSlot]
      exact push_getLast? _ _ _

/-- A save that was cut in its third word, and the slot made active. -/
def cutThenSwitch : List Attempt :=
  [.cut (.save 1 ⟨.replicate 5 7, .replicate 16 8, 9, 5⟩) 3, .whole (.saveActiveSlot 1)]

theorem partition_survives_cuts_erasedChip :
    (load (cutThenSwitch.foldl Attempt.run erasedChip) 1).1 =
        some ⟨.replicate 5 7, .replicate 16 0xFF, 0xFFFFFFFF, 5⟩ ∧
      (loadActiveSlot (cutThenSwitch.foldl Attempt.run erasedChip)).1 = some 1 := by
  obtain ⟨profiles, active, -⟩ :=
    partition_survives_cuts erasedChip cutThenSwitch fun _ _ _ => rfl
  rw [profiles 1 (by decide), active]
  decide

end NrfUnifying.Storage
