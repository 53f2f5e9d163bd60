import NrfUnifying.Storage.Cuts

/-!
# Power losses in a sequence of operations

What the firmware does to the partition in one go is a `Plan`: at most one
profile is saved or cleared, and the active slot comes last. Wherever a plan is
cut, the entry of the active slot is old unless all profiles are as the plan
leaves them.
-/

namespace NrfUnifying.Storage

open Lib.Bytes Lib.Flash Lib.AppendLog Lib.CutLog

/-- The operations of one action of the firmware. -/
inductive Plan : List Operation → Prop where
  | nothing : Plan []
  | save (slot : UInt8) (profile : Profile) : Plan [.save slot profile]
  | activate (slot : UInt8) : Plan [.saveActiveSlot slot]
  | both (slot : UInt8) (profile : Profile) (active : UInt8) :
      Plan [.save slot profile, .saveActiveSlot active]
  | clear (slot : UInt8) : Plan [.clearSlot slot]
  | clearAll : Plan [.clearAll]

/-- The flash steps of some operations, one after another. -/
def stepsOf (flash : Nvmc) : List Operation → List FlashStep
  | [] => []
  | operation :: rest => operation.steps flash ++ stepsOf (operation.run flash) rest

/-- The pairings that the last entries of the logs stand for. -/
def Logs.pairings (logs : Logs) : Pairings where
  profile slot := (logs.profiles slot).getLast?
  active := logs.active.getLast?

section Steps

variable {flash : Nvmc} {logs : Logs}

theorem Logs.StoredIn.refines (stored : logs.StoredIn flash) : Refines flash logs.pairings where
  profile slot inside := ⟨_, (stored.profiles slot inside).holds profileFormat_lawful, rfl⟩
  active := ⟨_, stored.active.holds activeFormat_lawful, rfl⟩

/-- An operation performs its steps. -/
theorem Logs.StoredIn.run_eq (stored : logs.StoredIn flash) (operation : Operation) :
    operation.run flash = flash.perform (operation.steps flash) := by
  have nothing : flash.perform [] = flash := by
    rw [Chip.perform, List.append_nil]
    rfl
  cases operation with
  | save slot profile =>
      by_cases inside : slot < maxProfiles
      · rw [stored.save_steps inside]
        change Storage.save flash slot profile = _
        rw [Storage.save, if_neg (UInt8.not_le.mpr inside)]
        exact append_eq profileFormat_lawful profileFormat_aligned flash
          ((stored.profiles slot inside).holds profileFormat_lawful) profile
      · rw [(no_steps_of_ge inside flash profile).1, nothing]
        exact if_pos (UInt8.not_lt.mp inside)
  | clearSlot slot =>
      by_cases inside : slot < maxProfiles
      · have aligned : profileFormat.Aligned pageSize (pageBase slot) := profileFormat_aligned
        have erased := Chip.erase_eq flash (pageBase slot) 1 (by decide) aligned.base_page
        rw [Nat.one_mul] at erased
        rw [clearSlot_steps flash inside]
        change Storage.clearSlot flash slot = _
        rw [Storage.clearSlot, if_neg (UInt8.not_le.mpr inside), erased]
        rfl
      · rw [(no_steps_of_ge inside flash ⟨.replicate 5 0, .replicate 16 0, 0, 0⟩).2.1, nothing]
        exact if_pos (UInt8.not_lt.mp inside)
  | clearAll =>
      have erased := Chip.erase_eq flash storageBase 5 (by decide) (by decide)
      have last : storageBase + 5 * pageSize = activePage + pageSize := by decide
      rw [last] at erased
      rw [clearAll_steps]
      change Storage.clearAll flash = _
      rw [Storage.clearAll, erased]
  | saveActiveSlot slot =>
      by_cases inside : slot < maxProfiles
      · rw [stored.saveActiveSlot_steps inside]
        change Storage.saveActiveSlot flash slot = _
        rw [Storage.saveActiveSlot, if_neg (UInt8.not_le.mpr inside)]
        exact append_eq activeFormat_lawful activeFormat_aligned flash
          (stored.active.holds activeFormat_lawful) slot
      · rw [(no_steps_of_ge inside flash ⟨.replicate 5 0, .replicate 16 0, 0, 0⟩).2.2, nothing]
        exact if_pos (UInt8.not_lt.mp inside)

theorem Logs.StoredIn.applies (stored : logs.StoredIn flash) (operations : List Operation) :
    (operations.foldl Logs.apply logs).StoredIn (operations.foldl Operation.run flash) := by
  induction operations generalizing logs flash with
  | nil => exact stored
  | cons operation rest ih => exact ih (stored.apply operation)

/-- Operations perform their steps, one after another. -/
theorem Logs.StoredIn.foldl_run_eq (stored : logs.StoredIn flash) (operations : List Operation) :
    operations.foldl Operation.run flash = flash.perform (stepsOf flash operations) := by
  induction operations generalizing logs flash with
  | nil =>
      change flash = flash.perform []
      rw [Chip.perform, List.append_nil]
      rfl
  | cons operation rest ih =>
      rw [List.foldl_cons, ih (stored.apply operation), stepsOf, stored.run_eq operation]
      unfold Chip.perform applySteps
      rw [List.foldl_append, List.append_assoc]

/-- The first steps of some operations are whole operations and one that is cut, if any. -/
theorem Logs.StoredIn.cut_steps (stored : logs.StoredIn flash) (operations : List Operation)
    (done : Nat) :
    operations = [] ∨ ∃ front operation back count, operations = front ++ operation :: back ∧
      applySteps flash.cells ((stepsOf flash operations).take done) =
        (Attempt.run (front.foldl Operation.run flash) (.cut operation count)).cells := by
  induction operations generalizing logs flash done with
  | nil => exact .inl rfl
  | cons operation rest ih =>
      refine .inr ?_
      have first := stored.run_eq operation
      have whole (cells : Cells) (steps : List FlashStep) :
          applySteps cells (operation.steps flash ++ steps) =
            applySteps (applySteps cells (operation.steps flash)) steps := List.foldl_append
      rw [stepsOf]
      rcases Nat.le_total done (operation.steps flash).length with early | late
      · refine ⟨[], operation, rest, done, rfl, ?_⟩
        rw [List.take_append_of_le_length early]
        rfl
      · rw [List.take_append, List.take_of_length_le late, whole]
        have cells : applySteps flash.cells (operation.steps flash) =
            (operation.run flash).cells := by
          rw [first]
          rfl
        rw [cells]
        rcases ih (stored.apply operation) (done - (operation.steps flash).length) with
          rfl | ⟨front, other, back, count, rfl, same⟩
        · refine ⟨[], operation, [], (operation.steps flash).length, rfl, ?_⟩
          change _ = applySteps flash.cells ((operation.steps flash).take _)
          rw [List.take_length, cells]
          cases done - (operation.steps flash).length <;> rfl
        · exact ⟨operation :: front, other, back, count, rfl, same⟩

end Steps

/-! ## Between two states -/

/-- What a cut plan has left, between what was there and what the plan would leave. -/
structure Between (before middle after : Pairings) : Prop where
  active : middle.active = before.active ∨
    (middle.active = none ∨ middle.active = after.active) ∧
      ∀ slot < maxProfiles, middle.profile slot = after.profile slot
  profile : ∀ slot < maxProfiles, middle.profile slot = before.profile slot ∨
    middle.profile slot = none ∨ ∃ saved words, 0 < words ∧
      middle.profile slot = some (saved.cut words) ∧ after.profile slot = some saved

section Cut

variable {logs : Logs}

/-- Slots that an operation does not name keep their logs. -/
theorem setProfile_other {slot other : UInt8} (apart : other ≠ slot) (entries : List Profile) :
    (logs.setProfile slot entries).profiles other = logs.profiles other :=
  Function.update_of_ne apart _ _

theorem setProfile_self (slot : UInt8) (entries : List Profile) :
    (logs.setProfile slot entries).profiles slot = entries :=
  Function.update_self _ _ _

theorem cut_save_profile (slot : UInt8) (profile : Profile) (count : Nat) (other : UInt8) :
    (logs.cut count (.save slot profile)).pairings.profile other = logs.pairings.profile other ∨
      (logs.cut count (.save slot profile)).pairings.profile other = none ∨
      ∃ saved words, 0 < words ∧
        (logs.cut count (.save slot profile)).pairings.profile other = some (saved.cut words) ∧
        (logs.apply (.save slot profile)).pairings.profile other = some saved := by
  unfold Logs.cut Logs.apply Logs.pairings
  dsimp only
  split
  · by_cases same : other = slot
    · subst same
      rw [setProfile_self, setProfile_self]
      rcases pushCut_getLast? profileFormat (logs.profiles other) profile count with
        old | none | ⟨words, new, reads⟩
      · exact .inl old
      · exact .inr (.inl none)
      · obtain ⟨torn, reads⟩ := Option.isSome_iff_exists.mp reads
        obtain ⟨positive, cut⟩ := started_profile_eq_some reads
        refine .inr (.inr ⟨profile, words, positive, ?_, push_getLast? _ _ _⟩)
        rw [new, reads, cut]
    · rw [setProfile_other same]
      exact .inl rfl
  · exact .inl rfl

theorem cut_save_active (slot : UInt8) (profile : Profile) (count : Nat) :
    (logs.cut count (.save slot profile)).active = logs.active := by
  unfold Logs.cut
  dsimp only
  split <;> rfl

/-- A complete save is a cut behind its last word. -/
theorem apply_save_profile (slot : UInt8) (profile : Profile) (other : UInt8) :
    (logs.apply (.save slot profile)).pairings.profile other = logs.pairings.profile other ∨
      ∃ saved words, 0 < words ∧
        (logs.apply (.save slot profile)).pairings.profile other = some (saved.cut words) ∧
        (logs.apply (.save slot profile)).pairings.profile other = some saved := by
  unfold Logs.apply Logs.pairings
  dsimp only
  split
  · by_cases same : other = slot
    · subst same
      rw [setProfile_self, push_getLast?]
      exact .inr ⟨profile, 8, by decide, by rw [profile.cut_all (Nat.le_refl 8)], rfl⟩
    · rw [setProfile_other same]
      exact .inl rfl
  · exact .inl rfl

theorem apply_save_active (slot : UInt8) (profile : Profile) :
    (logs.apply (.save slot profile)).active = logs.active := by
  unfold Logs.apply
  dsimp only
  split <;> rfl

theorem activate_profiles (logs : Logs) (slot : UInt8) (count : Nat) :
    (logs.cut count (.saveActiveSlot slot)).profiles = logs.profiles ∧
      (logs.apply (.saveActiveSlot slot)).profiles = logs.profiles := by
  unfold Logs.cut Logs.apply
  dsimp only
  split
  · exact ⟨rfl, rfl⟩
  · exact ⟨rfl, rfl⟩

theorem cut_activate_active (logs : Logs) (slot : UInt8) (count : Nat) :
    (logs.cut count (.saveActiveSlot slot)).pairings.active = logs.pairings.active ∨
      (logs.cut count (.saveActiveSlot slot)).pairings.active = none ∨
      (logs.cut count (.saveActiveSlot slot)).pairings.active =
        (logs.apply (.saveActiveSlot slot)).pairings.active := by
  unfold Logs.cut Logs.apply Logs.pairings
  dsimp only
  split
  next inside =>
    rcases pushCut_getLast? activeFormat logs.active slot count with
      old | none | ⟨words, new, reads⟩
    · exact .inl old
    · exact .inr (.inl none)
    · refine .inr (.inr ?_)
      have positive : 0 < words := by
        cases words with
        | zero =>
            rw [started_zero activeFormat_lawful] at reads
            cases reads
        | succ words => exact Nat.succ_pos words
      rw [new, started_active inside positive, push_getLast?]
  · exact .inl rfl

/-- Wherever an operation of a plan is cut. -/
theorem Plan.between {operations front back : List Operation} {operation : Operation}
    (plan : Plan operations) (split : operations = front ++ operation :: back) (count : Nat) :
    Between logs.pairings ((front.foldl Logs.apply logs).cut count operation).pairings
      (operations.foldl Logs.apply logs).pairings := by
  have single {only : Operation} {front : List Operation}
      (same : [only] = front ++ operation :: back) : front = [] ∧ operation = only := by
    cases front with
    | nil => exact ⟨rfl, (List.cons.inj same).1.symm⟩
    | cons first rest => cases rest <;> cases (List.cons.inj same).2
  cases plan with
  | nothing => cases front <;> cases split
  | save slot profile =>
      obtain ⟨rfl, rfl⟩ := single split
      constructor
      · exact .inl (congrArg List.getLast? (cut_save_active slot profile count))
      · exact fun other _ => cut_save_profile slot profile count other
  | activate slot =>
      obtain ⟨rfl, rfl⟩ := single split
      obtain ⟨cut, whole⟩ := activate_profiles logs slot count
      have kept (other : UInt8) : (logs.cut count (.saveActiveSlot slot)).pairings.profile other =
          logs.pairings.profile other := by
        unfold Logs.pairings
        dsimp only
        rw [cut]
      constructor
      · rcases cut_activate_active logs slot count with old | new
        · exact .inl old
        · refine .inr ⟨new, fun other _ => (kept other).trans ?_⟩
          unfold Logs.pairings
          dsimp only [List.foldl_cons, List.foldl_nil]
          rw [whole]
      · exact fun other _ => .inl (kept other)
  | both slot profile active =>
      have later (stored : Logs) (other : UInt8) :
          (stored.apply (.saveActiveSlot active)).pairings.profile other =
              stored.pairings.profile other ∧
            (stored.cut count (.saveActiveSlot active)).pairings.profile other =
              stored.pairings.profile other := by
        obtain ⟨cut, whole⟩ := activate_profiles stored active count
        unfold Logs.pairings
        dsimp only
        rw [cut, whole]
        exact ⟨rfl, rfl⟩
      cases front with
      | nil =>
          obtain ⟨rfl, rfl⟩ := List.cons.inj split
          constructor
          · exact .inl (congrArg List.getLast? (cut_save_active slot profile count))
          · intro other _
            change _ ∨ _ ∨ ∃ saved words, _ ∧ _ ∧
              ((logs.apply (.save slot profile)).apply (.saveActiveSlot active)).pairings.profile
                other = _
            rw [(later _ other).1]
            exact cut_save_profile slot profile count other
      | cons first front =>
          obtain ⟨rfl, rest⟩ := List.cons.inj split
          obtain ⟨rfl, rfl⟩ := single rest
          constructor
          · rcases cut_activate_active (logs.apply (.save slot profile)) active count with
              old | new
            · exact .inl (old.trans (congrArg List.getLast? (apply_save_active slot profile)))
            · exact .inr ⟨new, fun other _ => (later _ other).2.trans (later _ other).1.symm⟩
          · intro other _
            change ((logs.apply (.save slot profile)).cut count
                (.saveActiveSlot active)).pairings.profile other = _ ∨ _ ∨ ∃ saved words, _ ∧
              ((logs.apply (.save slot profile)).cut count
                (.saveActiveSlot active)).pairings.profile other = _ ∧
              ((logs.apply (.save slot profile)).apply (.saveActiveSlot active)).pairings.profile
                other = _
            rw [(later _ other).1, (later _ other).2]
            rcases apply_save_profile slot profile other with old | whole
            · exact .inl old
            · exact .inr (.inr whole)
  | clear slot =>
      obtain ⟨rfl, rfl⟩ := single split
      refine ⟨.inl ?_, fun other _ => ?_⟩
      · unfold Logs.cut
        dsimp only
        split <;> rfl
      · unfold Logs.cut
        dsimp only [List.foldl_nil]
        split
        · by_cases same : other = slot
          · subst same
            refine .inr (.inl ?_)
            unfold Logs.pairings
            dsimp only
            rw [setProfile_self]
            rfl
          · refine .inl (congrArg List.getLast? (setProfile_other same []))
        · exact .inl rfl
  | clearAll =>
      obtain ⟨rfl, rfl⟩ := single split
      refine ⟨?_, fun other _ => ?_⟩
      · by_cases all : 4 < count
        · refine .inr ⟨.inl ?_, fun other inside => ?_⟩
          · unfold Logs.cut Logs.pairings
            dsimp only
            rw [if_pos all]
            rfl
          · have below : other.toNat < count :=
              Nat.lt_trans (toNat_lt_of_slot inside) all
            unfold Logs.cut Logs.pairings
            dsimp only [List.foldl_nil]
            rw [if_pos below]
            rfl
        · refine .inl ?_
          unfold Logs.cut Logs.pairings
          dsimp only [List.foldl_nil]
          rw [if_neg all]
      · unfold Logs.cut Logs.pairings
        dsimp only [List.foldl_nil]
        split
        · exact .inr (.inl rfl)
        · exact .inl rfl

end Cut

/-! ## The flash of a cut plan -/

/-- The flash when power goes after the first `done` of the steps that lead to `after`. -/
def cutRun (before after : Nvmc) (done : Nat) : Nvmc :=
  { cells := applySteps before.cells ((after.steps.drop before.steps.length).take done) }

section Flash

variable {flash : Nvmc} {logs : Logs}

/-- The logs are in the cells. -/
theorem Logs.StoredIn.congr (stored : logs.StoredIn flash) {other : Nvmc}
    (same : other.cells = flash.cells) : logs.StoredIn other where
  profiles slot inside := by
    rw [same]
    exact stored.profiles slot inside
  active := by
    rw [same]
    exact stored.active

/-- Power goes somewhere in a plan. -/
theorem Logs.StoredIn.cut_plan (stored : logs.StoredIn flash) {operations : List Operation}
    (plan : Plan operations) (done : Nat) :
    let after := operations.foldl Operation.run flash
    ∃ kept : Logs, kept.StoredIn (cutRun flash after done) ∧
      Between logs.pairings kept.pairings (operations.foldl Logs.apply logs).pairings := by
  intro after
  have steps : after.steps.drop flash.steps.length = stepsOf flash operations := by
    change (operations.foldl Operation.run flash).steps.drop _ = _
    rw [stored.foldl_run_eq operations]
    exact List.drop_left
  have cells : (cutRun flash after done).cells =
      applySteps flash.cells ((stepsOf flash operations).take done) := by
    rw [← steps]
    rfl
  rcases stored.cut_steps operations done with rfl | ⟨front, operation, back, count, split, same⟩
  · refine ⟨logs, stored.congr (cells.trans ?_), .inl rfl, fun _ _ => .inl rfl⟩
    rw [stepsOf, List.take_nil]
    rfl
  · have cut := (stored.applies front).attempt (.cut operation count)
    exact ⟨_, cut.congr (cells.trans same), plan.between split count⟩

end Flash

end NrfUnifying.Storage
