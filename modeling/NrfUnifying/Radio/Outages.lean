import NrfUnifying.Storage.Outages
import NrfUnifying.Radio.Worker

/-!
# Power losses between flash steps

Power may go anywhere in an action of the worker, also while the board starts,
and return at any time. The entry of the active slot is what makes a pairing or
a switch count: as long as it is old, only the profile that was being written
may be missing or torn.
-/

namespace NrfUnifying.Radio

open Lib.Bytes Storage

/-- The worker comes to the end of an action, or power goes after `done` of the action's flash
steps; each of the next starts may be cut too, until one comes to its end. -/
inductive Happening (W : Type) where
  | act (action : Action)
  | outage (action : Action) (done : Nat) (starts : List Nat) (world : W)

section Outages

variable {W : Type} [Board W] [RustUnifying W] {sent : W → List Transmission}

/-- The flash when power goes in an action. -/
def Handler.cutIn (buildTime : Nat) (handler : Handler W) (action : Action) (done : Nat) : Nvmc :=
  cutRun handler.flash (handler.act buildTime action).flash done

/-- The flash when power goes again while the board starts. -/
def cutStart (world : W) (flash : Nvmc) (done : Nat) : Nvmc :=
  cutRun flash (Handler.boot world flash).flash done

def Handler.happen (buildTime : Nat) (handler : Handler W) : Happening W → Handler W
  | .act action => handler.act buildTime action
  | .outage action done starts world =>
      .boot world (starts.foldl (cutStart world) (handler.cutIn buildTime action done))

/-- Starting saves at most the profile of the slot that becomes active. -/
theorem Handler.boot_plan {flash : Nvmc} {stored : Pairings} (world : W)
    (refines : Refines flash stored) :
    ∃ operations, Plan operations ∧
      (Handler.boot world flash).flash = operations.foldl Operation.run flash := by
  have booted := Handler.boot_eq world refines
  cases known : stored.profile (bootSlot stored) with
  | none =>
      rw [known] at booted
      exact ⟨[], .nothing, by rw [booted]; rfl⟩
  | some profile =>
      rw [known] at booted
      exact ⟨_, .save (bootSlot stored) { profile with
        aesCounter := profile.aesCounter + bootMargin }, by rw [booted]; rfl⟩

/-- What an action does to the partition is a plan. -/
theorem Handler.act_plan (lawful : RustUnifying.Lawful sent) (buildTime : Nat)
    (handler : Handler W) {stored : Pairings} (refines : Refines handler.flash stored)
    (action : Action) :
    ∃ operations, Plan operations ∧
      (handler.act buildTime action).flash = operations.foldl Operation.run handler.flash := by
  by_cases powered : action = .powerCycle
  · subst powered
    exact Handler.boot_plan handler.state.device.world refines
  · obtain ⟨-, effect⟩ := handler.act_effect lawful buildTime powered
    cases effect with
    | reports _ _ _ _ _ flash => exact ⟨[], .nothing, flash⟩
    | saved _ _ _ _ _ flash => exact ⟨_, .save _ _, flash⟩
    | unpaired _ _ _ flash => exact ⟨[], .nothing, flash⟩
    | paired slot _ _ _ _ _ _ flash => exact ⟨_, .both slot _ slot, flash⟩
    | switched slot _ _ _ _ _ _ flash =>
        by_cases paired : handler.ready.state.paired = true
        · rw [if_pos paired] at flash
          exact ⟨_, .both _ _ slot, flash⟩
        · rw [if_neg paired] at flash
          exact ⟨_, .activate slot, flash⟩
    | deleted slot _ _ _ _ flash => exact ⟨_, .clear slot, flash⟩
    | deletedAll _ _ _ flash => exact ⟨_, .clearAll, flash⟩

/-- The pages are logs. -/
def Sound (flash : Nvmc) : Prop :=
  ∃ logs : Logs, logs.StoredIn flash

theorem Sound.boot {flash : Nvmc} (sound : Sound flash) (world : W) :
    Sound (Handler.boot world flash).flash := by
  obtain ⟨logs, stored⟩ := sound
  obtain ⟨operations, -, same⟩ := Handler.boot_plan world stored.refines
  rw [same]
  exact ⟨_, stored.applies operations⟩

theorem Sound.starts {flash : Nvmc} (sound : Sound flash) (world : W) (starts : List Nat) :
    Sound (starts.foldl (cutStart world) flash) := by
  induction starts generalizing flash with
  | nil => exact sound
  | cons done rest ih =>
      obtain ⟨logs, stored⟩ := sound
      obtain ⟨operations, plan, same⟩ := Handler.boot_plan world stored.refines
      obtain ⟨kept, storedKept, -⟩ := stored.cut_plan plan done
      refine ih ⟨kept, ?_⟩
      unfold cutStart
      rw [same]
      exact storedKept

variable (lawful : RustUnifying.Lawful sent) (buildTime : Nat)
include lawful

theorem Sound.happen {handler : Handler W} (sound : Sound handler.flash)
    (happening : Happening W) : Sound (handler.happen buildTime happening).flash := by
  obtain ⟨logs, stored⟩ := sound
  cases happening with
  | act action =>
      obtain ⟨operations, -, same⟩ := handler.act_plan lawful buildTime stored.refines action
      change Sound (handler.act buildTime action).flash
      rw [same]
      exact ⟨_, stored.applies operations⟩
  | outage action done starts world =>
      obtain ⟨operations, plan, same⟩ := handler.act_plan lawful buildTime stored.refines action
      obtain ⟨kept, storedKept, -⟩ := stored.cut_plan plan done
      have cut : Sound (handler.cutIn buildTime action done) := by
        unfold Handler.cutIn
        rw [same]
        exact ⟨kept, storedKept⟩
      exact (cut.starts world starts).boot world

theorem Sound.run {handler : Handler W} (sound : Sound handler.flash)
    (happenings : List (Happening W)) :
    Sound (happenings.foldl (Handler.happen buildTime) handler).flash := by
  induction happenings generalizing handler with
  | nil => exact sound
  | cons happening rest ih => exact ih (sound.happen lawful buildTime happening)

/-- After any run with any power losses, an action that is cut leaves the entry of the active slot
as it was unless all profiles are as the whole action leaves them, and the next start works with
what is stored for that slot. -/
theorem active_slot_commits (world : W) (flash : Nvmc)
    (blank : ∀ i, storageBase ≤ i → i < activePage + pageSize → flash.cells i = 0xFF)
    (happenings : List (Happening W)) (action : Action) (done : Nat) :
    let handler := happenings.foldl (Handler.happen buildTime) (.boot world flash)
    let cut := handler.cutIn buildTime action done
    ∃ before middle after, Refines handler.flash before ∧ Refines cut middle ∧
      Refines (handler.act buildTime action).flash after ∧ Between before middle after ∧
      ∀ world : W, let booted := Handler.boot world cut
        booted.state.activeSlot = middle.active.getD 0 ∧
        booted.state.paired = (middle.profile (middle.active.getD 0)).isSome ∧
        ∀ profile, middle.profile (middle.active.getD 0) = some profile →
          booted.state.device.address = profile.address ∧
          booted.state.device.aesKey = profile.aesKey ∧
          booted.state.device.aesCounter = profile.aesCounter + bootMargin := by
  intro handler cut
  have empty : Sound flash := ⟨_, Logs.empty_storedIn blank⟩
  obtain ⟨logs, stored⟩ : Sound handler.flash :=
    (empty.boot world).run lawful buildTime happenings
  obtain ⟨operations, plan, same⟩ := handler.act_plan lawful buildTime stored.refines action
  obtain ⟨kept, storedKept, between⟩ := stored.cut_plan plan done
  have cutStored : kept.StoredIn cut := by
    change kept.StoredIn (cutRun _ _ _)
    rw [same]
    exact storedKept
  have whole := (stored.applies operations).refines
  rw [← same] at whole
  refine ⟨_, _, _, stored.refines, cutStored.refines, whole, between, fun world => ?_⟩
  have booted := Handler.boot_eq world cutStored.refines
  dsimp only
  change _ = bootSlot kept.pairings ∧ _ = (kept.pairings.profile (bootSlot kept.pairings)).isSome ∧
    ∀ profile, kept.pairings.profile (bootSlot kept.pairings) = some profile → _
  cases known : kept.pairings.profile (bootSlot kept.pairings) with
  | none =>
      rw [known] at booted
      rw [booted]
      exact ⟨rfl, rfl, fun _ none => by cases none⟩
  | some profile =>
      rw [known] at booted
      rw [booted]
      refine ⟨rfl, rfl, fun other reads => ?_⟩
      obtain rfl := Option.some.inj reads
      exact ⟨rfl, rfl, rfl⟩

end Outages

/-- The receiver is paired in two slots, and power goes twice while the board starts. -/
def benchHappenings : List (Happening Bench) :=
  [.act (.command (ascii "UPAIR 1")), .act (.command (ascii "UPAIR 2")),
    .outage .powerCycle 3 [5, 0] ⟨true, []⟩]

/-- Then power goes after three words of a switch. -/
theorem active_slot_commits_bench :
    let handler := benchHappenings.foldl (Handler.happen 0) (.boot ⟨true, []⟩ erasedChip)
    let action := Action.command (ascii "USWITCH 1")
    ∃ before middle after, Refines handler.flash before ∧
      Refines (handler.cutIn 0 action 3) middle ∧
      Refines (handler.act 0 action).flash after ∧ Between before middle after := by
  obtain ⟨before, middle, after, old, cut, new, between, -⟩ :=
    active_slot_commits Bench.lawful 0 ⟨true, []⟩ erasedChip
      (fun _ _ _ => rfl) benchHappenings (.command (ascii "USWITCH 1")) 3
  exact ⟨before, middle, after, old, cut, new, between⟩

end NrfUnifying.Radio
