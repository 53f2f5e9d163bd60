import NrfUnifying.Lib.Runs
import NrfUnifying.Lib.Unreliable
import NrfUnifying.Storage.Refinement

/-!
# How saves treat the flash

Any sequence of saves, on pages of any content, while any read, erasure or
write may fail: what each call asks of the flash, and how often a page is erased.
-/

namespace NrfUnifying.Storage

open Lib.Bytes Lib.Flash Lib.AppendLog Lib.Runs

/-- The calls that write: a pairing into its slot, or the active slot. -/
inductive Save where
  | profile (slot : UInt8) (profile : Profile)
  | active (slot : UInt8)

namespace Save

def run {F : Type} [NorFlash F] (flash : F) : Save → F
  | .profile slot pairing => save flash slot pairing
  | .active slot => saveActiveSlot flash slot

/-- A request that keeps the rules of the page the call names. -/
def Disciplined (issued : Issued) : Save → Prop
  | .profile slot pairing =>
      slot < maxProfiles ∧ profileFormat.Disciplined (pageBase slot) pairing issued
  | .active slot => slot < maxProfiles ∧ activeFormat.Disciplined activePage slot issued

def isInto (slot : UInt8) : Save → Bool
  | .profile named _ => named == slot
  | .active _ => false

def isActive : Save → Bool
  | .profile _ _ => false
  | .active slot => slot < maxProfiles

/-- What a call asks of the flash. -/
inductive Asks : Save → Cells → List Issued → Cells → Prop where
  | outside {save : Save} {cells : Cells}
      (nowhere : ∀ slot < maxProfiles, save.isInto slot = false)
      (inactive : save.isActive = false) :
      Asks save cells [] cells
  | profile {slot : UInt8} {pairing : Profile} {cells after : Cells} {new : List Issued}
      (inside : slot < maxProfiles)
      (appends : Appends profileFormat (pageBase slot) pairing cells new after) :
      Asks (.profile slot pairing) cells new after
  | active {slot : UInt8} {cells after : Cells} {new : List Issued} (inside : slot < maxProfiles)
      (appends : Appends activeFormat activePage slot cells new after) :
      Asks (.active slot) cells new after

theorem run_asks (flash : Unreliable) (save : Save) :
    ∃ new, (save.run flash).issued = flash.issued ++ new ∧
      save.Asks flash.cells new (save.run flash).cells := by
  cases save with
  | profile slot pairing =>
      by_cases inside : slot < maxProfiles
      · have run_eq : (Save.profile slot pairing).run flash =
            append profileFormat (pageBase slot) pairing flash :=
          if_neg (UInt8.not_le.mpr inside)
        obtain ⟨new, issued, appends⟩ :=
          append_appends profileFormat (pageBase slot) pairing flash
        rw [run_eq]
        exact ⟨new, issued, .profile inside appends⟩
      · have run_eq : (Save.profile slot pairing).run flash = flash :=
          if_pos (UInt8.not_lt.mp inside)
        rw [run_eq]
        refine ⟨[], (List.append_nil _).symm, .outside ?_ rfl⟩
        intro other below
        apply beq_false_of_ne
        rintro rfl
        exact inside below
  | active slot =>
      by_cases inside : slot < maxProfiles
      · have run_eq : (Save.active slot).run flash = append activeFormat activePage slot flash :=
          if_neg (UInt8.not_le.mpr inside)
        obtain ⟨new, issued, appends⟩ := append_appends activeFormat activePage slot flash
        rw [run_eq]
        exact ⟨new, issued, .active inside appends⟩
      · have run_eq : (Save.active slot).run flash = flash := if_pos (UInt8.not_lt.mp inside)
        rw [run_eq]
        exact ⟨[], (List.append_nil _).symm, .outside (fun _ _ => rfl) (decide_eq_false inside)⟩

theorem Asks.disciplined {save : Save} {cells after : Cells} {new : List Issued}
    (asks : save.Asks cells new after) : ∀ issued ∈ new, save.Disciplined issued := by
  intro issued member
  cases asks with
  | outside => cases member
  | profile inside appends => exact ⟨inside, appends.disciplined profileFormat_lawful _ member⟩
  | active inside appends => exact ⟨inside, appends.disciplined activeFormat_lawful _ member⟩

/-- A call makes the erasures of a slot's page fall due only if it saves into that slot. -/
theorem Asks.paced_profile {save : Save} {cells after : Cells} {new issued : List Issued}
    {slot : UInt8} (inside : slot < maxProfiles) {start saves : Nat}
    (asks : save.Asks cells new after)
    (paced : Paced profileFormat (pageBase slot) start saves cells issued) :
    Paced profileFormat (pageBase slot) start (saves + (save.isInto slot).toNat) after
      (issued ++ new) := by
  cases asks with
  | outside nowhere =>
      rw [nowhere slot inside, List.append_nil]
      exact paced
  | @profile named pairing _ _ _ below appends =>
      by_cases same : named = slot
      · subst same
        simpa [isInto] using paced.own profileFormat_lawful trivial appends
      · have apart : (Save.profile named pairing).isInto slot = false := beq_false_of_ne same
        rw [apart]
        exact paced.other profileFormat_lawful profileFormat_lawful (pageBase_disjoint same) appends
  | active below appends =>
      exact paced.other profileFormat_lawful activeFormat_lawful
        (.inr (pageBase_end_le inside)) appends

theorem Asks.paced_active {save : Save} {cells after : Cells} {new issued : List Issued}
    {start saves : Nat} (asks : save.Asks cells new after)
    (paced : Paced activeFormat activePage start saves cells issued) :
    Paced activeFormat activePage start (saves + save.isActive.toNat) after (issued ++ new) := by
  cases asks with
  | outside _ inactive =>
      rw [inactive, List.append_nil]
      exact paced
  | profile below appends =>
      exact paced.other activeFormat_lawful profileFormat_lawful (.inl (pageBase_end_le below))
        appends
  | active below appends =>
      have counted : (Save.active _).isActive = true := decide_eq_true below
      rw [counted]
      exact paced.own activeFormat_lawful below appends

end Save

section Runs

variable {α : Type} {format : Format α} {storable : α → Prop} {base start : Nat}
  {counted : Save → Bool}

/-- What one call adds to the saves of a page, a sequence of calls adds up. -/
theorem paced_run
    (keeps : ∀ {save : Save} {cells after : Cells} {new issued : List Issued} {saves : Nat},
      save.Asks cells new after → Paced format base start saves cells issued →
        Paced format base start (saves + (counted save).toNat) after (issued ++ new))
    (calls : List Save) (flash : Unreliable) {saves : Nat}
    (paced : Paced format base start saves flash.cells flash.issued) :
    Paced format base start (saves + calls.countP counted)
      (calls.foldl Save.run flash).cells (calls.foldl Save.run flash).issued := by
  induction calls generalizing flash saves with
  | nil => exact paced
  | cons call calls ih =>
      obtain ⟨new, issued, asks⟩ := call.run_asks flash
      have next := keeps asks paced
      rw [← issued] at next
      have rest := ih (call.run flash) next
      have total : saves + (counted call).toNat + calls.countP counted =
          saves + (call :: calls).countP counted := by
        rw [List.countP_cons]
        cases counted call
        · simp
        · simp
          omega
      rw [total] at rest
      exact rest

/-- The erasures of a page of any content, and those of a page that holds a log. -/
theorem erasures_run (lawful : format.Lawful storable) (calls : List Save) (flash : Unreliable)
    (fresh : flash.issued = [])
    (keeps : ∀ {save : Save} {cells after : Cells} {new issued : List Issued} {saves : Nat},
      save.Asks cells new after →
        Paced format base (format.level flash.cells base) saves cells issued →
        Paced format base (format.level flash.cells base) (saves + (counted save).toNat) after
          (issued ++ new)) :
    let issued := (calls.foldl Save.run flash).issued
    erasures format.page base issued ≤
      (calls.countP counted + (format.count - 1)) / format.count +
        damages format.page base issued ∧
    (format.Clean flash.cells base → erasures format.page base issued ≤
      ((format.validPrefix flash.cells base).length + calls.countP counted - 1) / format.count +
        damages format.page base issued) := by
  intro issued
  have positive := Format.count_pos lawful
  have first := Paced.start format flash.cells base
  rw [← fresh] at first
  have paced := paced_run keeps calls flash first
  rw [Nat.zero_add] at paced
  have bound := paced.erasures_le positive
  constructor
  · have low := format.level_le flash.cells base
    apply Nat.le_trans bound
    apply Nat.add_le_add_right
    apply Nat.div_le_div_right
    omega
  · intro clean
    have used : format.level flash.cells base = (format.validPrefix flash.cells base).length :=
      if_pos clean
    rw [used] at bound
    exact bound

end Runs

/--
Saves in any sequence, on any contents, with any failures. Every request a call
makes keeps the rules of the page it names: a write goes into blank bytes of
that page, which read back as the record if it succeeds, and the page is erased
only if its valid prefix fills it or is not followed by a blank record. So a
profile page is erased at most once in 128 saves into its slot and the
active-slot page once in 1024, apart from erasures that a failed request calls
for by changing the page.
-/
theorem saves_disciplined (cells : Cells) (faults : Nat → Option (Cells → Cells))
    (calls : List Save) :
    let flash : Unreliable := ⟨cells, faults, []⟩
    let issued := (calls.foldl Save.run flash).issued
    EveryStep Save.run (fun before call =>
      ∃ new, (call.run before).issued = before.issued ++ new ∧
        ∀ one ∈ new, call.Disciplined one) flash calls ∧
    (∀ slot < maxProfiles,
      erasures pageSize (pageBase slot) issued ≤
        (calls.countP (Save.isInto slot) + 127) / 128 +
          damages pageSize (pageBase slot) issued ∧
      (profileFormat.Clean cells (pageBase slot) →
        erasures pageSize (pageBase slot) issued ≤
          ((profileFormat.validPrefix cells (pageBase slot)).length +
            calls.countP (Save.isInto slot) - 1) / 128 +
              damages pageSize (pageBase slot) issued)) ∧
    erasures pageSize activePage issued ≤
      (calls.countP Save.isActive + 1023) / 1024 + damages pageSize activePage issued ∧
    (activeFormat.Clean cells activePage →
      erasures pageSize activePage issued ≤
        ((activeFormat.validPrefix cells activePage).length +
          calls.countP Save.isActive - 1) / 1024 + damages pageSize activePage issued) := by
  intro flash issued
  refine ⟨?_, ?_, ?_⟩
  · intro before call after _
    obtain ⟨new, issued, asks⟩ := call.run_asks (before.foldl Save.run flash)
    exact ⟨new, issued, asks.disciplined⟩
  · intro slot inside
    exact erasures_run profileFormat_lawful calls flash rfl fun asks => asks.paced_profile inside
  · exact erasures_run activeFormat_lawful calls flash rfl fun asks => asks.paced_active

/-- A page whose first two saves stop two bytes into their records. -/
def tornTwice : Unreliable where
  cells _ := 0xFF
  faults n := if n = 1 ∨ n = 4 then some fun cells => cells.program (pageBase 0) [0x31, 0x4B]
    else none

/-- The second save erases what the first one spoiled, the third what the second one spoiled. -/
theorem not_erased_once : ¬∀ (cells : Cells) (faults : Nat → Option (Cells → Cells))
    (calls : List Save) (slot : UInt8), slot < maxProfiles →
      profileFormat.Clean cells (pageBase slot) →
        erasures pageSize (pageBase slot)
            (calls.foldl Save.run (⟨cells, faults, []⟩ : Unreliable)).issued ≤
          (calls.countP (Save.isInto slot) + 127) / 128 := by
  intro once
  have bound := once tornTwice.cells tornTwice.faults
    (List.replicate 3 (.profile 0 ⟨.replicate 5 7, .replicate 16 8, 9, 5⟩)) 0 (by decide)
    fun _ _ _ => rfl
  revert bound
  decide +kernel

end NrfUnifying.Storage
