import NrfUnifying.Radio.Worker
import NrfUnifying.Lib.Runs

/-!
# The margin at power-up

A power loss leaves only what flash holds. `Watch` runs the worker and notes
every point at which power can be lost, also between the transmissions of one
command. `unsaved` is how far the record of the active slot is behind the live
counter; an action has a margin if what it can send at most still fits the jump
at power-up.
-/

namespace NrfUnifying.Radio

open Lib.Bytes Lib.Runs Storage

/-- What a power loss finds: the pairing in RAM with the counter it uses next, and the flash. -/
structure Point where
  paired : Bool
  slot : UInt8
  counter : Nat
  flash : Nvmc

/-- The counter is below the last 512 values. -/
def Point.Fits (point : Point) : Prop := point.counter + bootMargin.toNat < 2 ^ 32

/-- The record of the active slot is at most 512 behind, and a power-up resumes at a counter
that was not used. -/
def Point.Covered (W : Type) [Board W] [RustUnifying W] (point : Point) : Prop :=
  point.paired = true →
    (∃ profile, (load point.flash point.slot).1 = some profile ∧
      profile.aesCounter.toNat ≤ point.counter ∧
      point.counter - profile.aesCounter.toNat ≤ 512) ∧
    ∀ world : W,
      let resumed := (Handler.boot world point.flash).state
      resumed.paired = true ∧ resumed.activeSlot = point.slot ∧
        point.counter ≤ resumed.device.aesCounter.toNat

section Watch

variable {W : Type}

/-- The point after `advance` transmissions of the next action; the writes of a command follow its
transmissions. -/
def Handler.point (handler : Handler W) (advance : Nat) : Point where
  paired := handler.state.paired
  slot := handler.state.activeSlot
  counter := handler.state.device.aesCounter.toNat + advance
  flash := handler.flash

/-- How far the record of the active slot is behind the live counter. -/
def Handler.unsaved (handler : Handler W) : Nat :=
  match (load handler.flash handler.state.activeSlot).1 with
  | some profile => handler.state.device.aesCounter.toNat - profile.aesCounter.toNat
  | none => 0

/-- What is unsaved and the most that the action can send are within the margin. -/
def Handler.HasMargin (handler : Handler W) (action : Action) : Prop :=
  handler.state.paired = true →
    handler.unsaved + handler.mostReports action ≤ bootMargin.toNat

/-- A connected worker takes the line as keys or text to type. -/
def UnifyingState.Types (state : UnifyingState W) (line : List UInt8) : Prop :=
  state.connected = true ∧
    ((∃ rest, stripPrefix (ascii "UKEY ") line = some rest ∧ (parseReport rest).isSome = true) ∨
      (stripPrefix (ascii "UTYPE ") line).isSome = true)

/-- A connected worker takes the line as a press. -/
def UnifyingState.Presses (state : UnifyingState W) (line : List UInt8) : Prop :=
  state.connected = true ∧
    ∃ rest, stripPrefix (ascii "UKEYDOWN ") line = some rest ∧ (parseReport rest).isSome = true

/-- What an action leaves unsaved. -/
structure Handler.Settles (before : Handler W) (action : Action) (after : Handler W) : Prop where
  /-- Never more than there was and what the action can send. -/
  bounded : after.unsaved ≤ before.unsaved + before.mostReports action
  /-- Nothing once keys or a text are typed. -/
  typed : ∀ line, action = .command line → before.state.Types line → after.unsaved = 0
  /-- Nothing after a press that brings the counter to a multiple of 128. -/
  pressed : ∀ line, action = .command line → before.state.Presses line →
    after.state.device.aesCounter &&& 0x7F = 0 → after.unsaved = 0

/-- The worker, with the points its last action passed through. -/
structure Watch (W : Type) where
  handler : Handler W
  seen : List Point

variable [Board W] [RustUnifying W] (sent : W → List Transmission) (buildTime : Nat)

def Watch.step (watch : Watch W) (action : Action) : Watch W :=
  let after := watch.handler.act buildTime action
  { handler := after
    seen := (List.range (transmitted sent watch.handler after + 1)).map watch.handler.point ++
      [after.point 0] }

def Watch.boot (world : W) (flash : Nvmc) : Watch W :=
  let handler := Handler.boot world flash
  { handler, seen := [handler.point 0] }

end Watch

section Invariant

variable {W : Type} {sent : W → List Transmission} {buildTime : Nat}

/-- A live pairing is the one that flash restores, with a counter that is not ahead. -/
structure Handler.Backed (handler : Handler W) (stored : Pairings) : Prop where
  refines : Refines handler.flash stored
  linked : handler.state.Linked
  inside : handler.state.activeSlot < maxProfiles
  active : handler.state.paired = true → bootSlot stored = handler.state.activeSlot
  record : handler.state.paired = true → ∃ profile,
    stored.profile handler.state.activeSlot = some profile ∧
      profile.aesCounter.toNat ≤ handler.state.device.aesCounter.toNat

variable {handler : Handler W} {stored : Pairings}

/-- Nothing is required of a worker without a pairing but a consistent flash. -/
theorem Handler.Backed.of_unpaired (refines : Refines handler.flash stored)
    (inside : handler.state.activeSlot < maxProfiles) (linked : handler.state.Linked)
    (paired : handler.state.paired = false) : handler.Backed stored :=
  ⟨refines, linked, inside, by simp [paired], by simp [paired]⟩

theorem Handler.unsaved_eq {profile : Profile} (refines : Refines handler.flash stored)
    (inside : handler.state.activeSlot < maxProfiles)
    (known : stored.profile handler.state.activeSlot = some profile) :
    handler.unsaved =
      handler.state.device.aesCounter.toNat - profile.aesCounter.toNat := by
  rw [Handler.unsaved, refines.load inside, known]

/-- A profile that was just saved in the active slot is not behind. -/
theorem Handler.unsaved_of_save {before : Handler W} (refines : Refines before.flash stored)
    (inside : before.state.activeSlot < maxProfiles)
    (slot : handler.state.activeSlot = before.state.activeSlot)
    (flash : handler.flash =
      Storage.save before.flash before.state.activeSlot handler.state.currentProfile) :
    handler.unsaved = 0 := by
  have saved := refines.save inside handler.state.currentProfile
  rw [← flash, ← slot] at saved
  rw [Handler.unsaved_eq saved (slot ▸ inside) (Function.update_self _ _ _)]
  exact Nat.sub_self _

variable [Board W] [RustUnifying W]

theorem Handler.Backed.covered_iff (backed : handler.Backed stored) (advance : Nat)
    (fits : (handler.point advance).Fits) :
    (handler.point advance).Covered W ↔
      (handler.state.paired = true → handler.unsaved + advance ≤ 512) := by
  have fits : handler.state.device.aesCounter.toNat + advance + 512 < 2 ^ 32 := fits
  constructor
  · intro covered paired
    obtain ⟨profile, known, counter⟩ := backed.record paired
    obtain ⟨⟨other, loaded, -, close⟩, -⟩ := covered paired
    change (load handler.flash handler.state.activeSlot).1 = some other at loaded
    rw [backed.refines.load backed.inside, known] at loaded
    obtain rfl := Option.some.inj loaded
    change handler.state.device.aesCounter.toNat + advance - _ ≤ 512 at close
    rw [Handler.unsaved_eq backed.refines backed.inside known]
    omega
  · intro enough paired
    have close := enough paired
    obtain ⟨profile, known, counter⟩ := backed.record paired
    rw [Handler.unsaved_eq backed.refines backed.inside known] at close
    refine ⟨⟨profile, ?_, ?_, ?_⟩, fun world => ?_⟩
    · change (load handler.flash handler.state.activeSlot).1 = _
      rw [backed.refines.load backed.inside, known]
    · change _ ≤ handler.state.device.aesCounter.toNat + advance
      omega
    · change handler.state.device.aesCounter.toNat + advance - _ ≤ 512
      omega
    · have active := backed.active paired
      have booted := Handler.boot_eq world backed.refines
      rw [active, known] at booted
      change (Handler.boot world handler.flash).state.paired = true ∧
        (Handler.boot world handler.flash).state.activeSlot = handler.state.activeSlot ∧
        handler.state.device.aesCounter.toNat + advance ≤
          (Handler.boot world handler.flash).state.device.aesCounter.toNat
      rw [booted]
      refine ⟨rfl, rfl, ?_⟩
      change _ ≤ (profile.aesCounter + 512).toNat
      rw [UInt32.toNat_add]
      change _ ≤ (profile.aesCounter.toNat + 512) % 2 ^ 32
      rw [Nat.mod_eq_of_lt (by omega)]
      omega

/-- A power-up has just saved what it resumed with. -/
theorem Handler.Backed.boot (world : W) {flash : Nvmc} (refines : Refines flash stored) :
    (∃ after, (Handler.boot world flash).Backed after) ∧
      ((Handler.boot world flash).state.paired = true →
        (Handler.boot world flash).unsaved = 0) := by
  have inside := bootSlot_lt refines
  have booted := Handler.boot_eq world refines
  cases known : stored.profile (bootSlot stored) with
  | none =>
      rw [known] at booted
      rw [booted]
      exact ⟨⟨stored, .of_unpaired refines inside (.of_disconnected rfl) rfl⟩, fun paired =>
        absurd paired Bool.false_ne_true⟩
  | some profile =>
      rw [known] at booted
      dsimp only at booted
      rw [booted]
      have saved := refines.save inside { profile with
        aesCounter := profile.aesCounter + bootMargin }
      refine ⟨⟨_, saved, .of_disconnected rfl, inside, fun _ => rfl,
        fun _ => ⟨_, Function.update_self _ _ _, Nat.le_refl _⟩⟩, fun _ => ?_⟩
      rw [Handler.unsaved_eq saved inside (Function.update_self _ _ _)]
      exact Nat.sub_self _

omit [Board W] [RustUnifying W] in
theorem UnifyingState.pairSlot_lt {state : UnifyingState W} {line : List UInt8} {slot : UInt8}
    (active : state.activeSlot < maxProfiles) (named : state.pairSlot line = some slot) :
    slot < maxProfiles := by
  rw [UnifyingState.pairSlot] at named
  split at named
  · simpa using (Option.mem_filter_iff.mp named).2
  · rwa [← Option.some.inj named]

omit [Board W] [RustUnifying W] in
theorem Sends.counter {before after : Device W} {count : Nat}
    (sends : Sends sent before after count) (fits : before.aesCounter.toNat + count < 2 ^ 32) :
    after.aesCounter.toNat = before.aesCounter.toNat + count := by
  have small : count < 2 ^ 32 := by omega
  rw [sends.aesCounter, UInt32.toNat_add, UInt32.toNat_ofNat', Nat.mod_eq_of_lt small,
    Nat.mod_eq_of_lt fits]

/-- An action leaves flash behind by what it has sent and not saved. -/
theorem Handler.Backed.effect {line : List UInt8} {after : Handler W}
    (backed : handler.Backed stored) (linked : handler.state.Linked → after.state.Linked)
    (effect : Effect sent line handler after)
    (fits : handler.state.device.aesCounter.toNat + transmitted sent handler after < 2 ^ 32) :
    (∃ stored, after.Backed stored) ∧ (after.state.paired = true →
      after.unsaved ≤
        if handler.state.paired then handler.unsaved + transmitted sent handler after else 0) := by
  have linked := linked backed.linked
  cases effect with
  | reports count sends connected paired slot flash =>
      rw [sends.transmitted] at fits ⊢
      have counter := sends.counter fits
      refine ⟨⟨stored, flash ▸ backed.refines, linked, slot ▸ backed.inside, ?_, ?_⟩, ?_⟩
      · rw [paired, slot]
        exact backed.active
      · rw [paired, slot, counter]
        intro isPaired
        obtain ⟨profile, known, behind⟩ := backed.record isPaired
        exact ⟨profile, known, by omega⟩
      · rw [paired]
        intro isPaired
        obtain ⟨profile, known, behind⟩ := backed.record isPaired
        rw [if_pos isPaired, Handler.unsaved_eq backed.refines backed.inside known,
          Handler.unsaved_eq (flash ▸ backed.refines) (slot ▸ backed.inside) (slot ▸ known),
          counter]
        omega
  | saved count sends connected paired slot flash =>
      have saved := backed.refines.save backed.inside after.state.currentProfile
      have none := Handler.unsaved_of_save backed.refines backed.inside slot flash
      rw [← flash, ← slot] at saved
      refine ⟨⟨_, saved, linked, slot ▸ backed.inside, fun _ => ?_, fun _ => ?_⟩, fun _ => ?_⟩
      · rw [slot]
        exact backed.active paired.1
      · exact ⟨_, Function.update_self _ _ _, Nat.le_refl _⟩
      · rw [none]
        exact Nat.zero_le _
  | unpaired log paired slot flash =>
      refine ⟨⟨stored, .of_unpaired (flash ▸ backed.refines) (slot ▸ backed.inside) linked
        paired.2⟩, fun isPaired => ?_⟩
      exact absurd (paired.2.symm.trans isPaired) Bool.false_ne_true
  | paired slot command named pairs log paired active flash =>
      have inside := UnifyingState.pairSlot_lt backed.inside named
      have saved := (backed.refines.save inside after.state.currentProfile).saveActiveSlot inside
      rw [← flash] at saved
      subst active
      refine ⟨⟨_, saved, linked, inside, fun _ => rfl,
        fun _ => ⟨_, Function.update_self _ _ _, Nat.le_refl _⟩⟩, fun _ => ?_⟩
      have none : after.unsaved = 0 := by
        rw [Handler.unsaved_eq saved inside (Function.update_self _ _ _)]
        exact Nat.sub_self _
      rw [none]
      exact Nat.zero_le _
  | switched slot inside other log active loaded empty flash =>
      have left : ∃ stored, Refines (if handler.state.paired then
          Storage.save handler.flash handler.state.activeSlot handler.state.currentProfile
          else handler.flash) stored := by
        split
        · exact ⟨_, backed.refines.save backed.inside _⟩
        · exact ⟨_, backed.refines⟩
      obtain ⟨left, refines⟩ := left
      have refines := refines.saveActiveSlot inside
      rw [← flash] at refines
      subst active
      have found := refines.load inside
      have record (paired : after.state.paired = true) : ∃ profile,
          left.profile after.state.activeSlot = some profile ∧
            after.state.device.aesCounter = profile.aesCounter := by
        cases known : left.profile after.state.activeSlot with
        | none =>
            have none := empty (by rw [found]; exact known)
            rw [none] at paired
            cases paired
        | some profile =>
            obtain ⟨-, -, -, counter⟩ := loaded profile (by rw [found]; exact known)
            exact ⟨profile, rfl, counter⟩
      refine ⟨⟨_, refines, linked, inside, fun _ => rfl, fun paired => ?_⟩, fun paired => ?_⟩
      · obtain ⟨profile, known, counter⟩ := record paired
        exact ⟨profile, known, Nat.le_of_eq (congrArg UInt32.toNat counter.symm)⟩
      · obtain ⟨profile, known, counter⟩ := record paired
        rw [Handler.unsaved_eq refines inside known, counter, Nat.sub_self]
        exact Nat.zero_le _
  | deleted slot inside silent paired active flash =>
      have cleared := backed.refines.clearSlot inside
      rw [← flash] at cleared
      by_cases same : handler.state.activeSlot = slot
      · rw [if_pos same] at paired
        exact ⟨⟨_, .of_unpaired cleared (active ▸ backed.inside) linked paired⟩, fun isPaired =>
          absurd (paired.symm.trans isPaired) Bool.false_ne_true⟩
      · rw [if_neg same] at paired
        have still {profile : Profile}
            (known : stored.profile handler.state.activeSlot = some profile) :
            Function.update stored.profile slot none handler.state.activeSlot = some profile :=
          (Function.update_of_ne same _ _).trans known
        refine ⟨⟨_, cleared, linked, active ▸ backed.inside, ?_, ?_⟩, ?_⟩
        · rw [paired, active]
          exact backed.active
        · rw [paired, active, silent.aesCounter]
          intro isPaired
          obtain ⟨profile, known, behind⟩ := backed.record isPaired
          exact ⟨profile, still known, behind⟩
        · rw [paired]
          intro isPaired
          obtain ⟨profile, known, behind⟩ := backed.record isPaired
          rw [if_pos isPaired, Handler.unsaved_eq backed.refines backed.inside known,
            Handler.unsaved_eq cleared (active ▸ backed.inside) (active ▸ still known),
            silent.aesCounter]
          exact Nat.le_add_right _ _
  | deletedAll silent paired active flash =>
      have cleared : Refines (clearAll handler.flash) .empty := .clearAll
      rw [← flash] at cleared
      exact ⟨⟨_, .of_unpaired cleared (active ▸ backed.inside) linked paired⟩, fun isPaired =>
        absurd (paired.symm.trans isPaired) Bool.false_ne_true⟩

/-! ## Saves -/

omit [Board W] [RustUnifying W] in
theorem Handler.saveIfPaired_paired (paired : handler.state.paired = true) :
    handler.saveIfPaired = handler.save :=
  if_pos paired

/-- The profile as it now is was saved in the active slot. -/
def Handler.Saved (before after : Handler W) : Prop :=
  after.state.activeSlot = before.state.activeSlot ∧
    after.flash = Storage.save before.flash before.state.activeSlot after.state.currentProfile

variable (handler) in
theorem Handler.types_saved (buildTime : Nat) {line : List UInt8}
    (paired : handler.state.paired = true) (types : handler.state.Types line) :
    ∃ after, handleUnifyingCommand buildTime handler line = some after ∧ handler.Saved after := by
  obtain ⟨connected, ⟨rest, starts, report⟩ | typed⟩ := types
  · have up : ¬handler.state.connected = false := by simp [connected]
    obtain ⟨⟨modifier, keys⟩, parsed⟩ := Option.isSome_iff_exists.mp report
    rw [stripPrefix_eq_some starts, handle_ukey, Handler.ukey, if_neg up, parsed]
    dsimp only
    rw [Handler.saveIfPaired_paired (by exact paired)]
    exact ⟨_, rfl, rfl, rfl⟩
  · have up : ¬handler.state.connected = false := by simp [connected]
    obtain ⟨text, starts⟩ := Option.isSome_iff_exists.mp typed
    rw [stripPrefix_eq_some starts, handle_utype, Handler.utype, if_neg up]
    dsimp only
    rw [writeOut_of_wrote (formatTyped_wrote _ _), Option.map_some,
      Handler.saveIfPaired_paired (by exact paired)]
    exact ⟨_, rfl, rfl, rfl⟩

variable (handler) in
theorem Handler.presses_saved (buildTime : Nat) {line : List UInt8}
    (paired : handler.state.paired = true) (presses : handler.state.Presses line) :
    ∃ after, handleUnifyingCommand buildTime handler line = some after ∧
      (after.state.device.aesCounter &&& 0x7F = 0 → handler.Saved after) := by
  obtain ⟨connected, rest, starts, report⟩ := presses
  have up : ¬handler.state.connected = false := by simp [connected]
  obtain ⟨⟨modifier, keys⟩, parsed⟩ := Option.isSome_iff_exists.mp report
  rw [stripPrefix_eq_some starts, handle_ukeydown, Handler.ukeydown, if_neg up, parsed]
  dsimp only
  refine ⟨_, rfl, ?_⟩
  rw [Handler.keyDown]
  dsimp only
  split
  · rw [Handler.saveIfPaired_paired (by exact paired)]
    exact fun _ => ⟨rfl, rfl⟩
  next multiple => exact fun same => absurd same multiple

/-! ## Runs -/

variable {watch : Watch W}

theorem Watch.mem_seen_step {action : Action} {point : Point} :
    point ∈ (watch.step sent buildTime action).seen ↔
      (∃ i ≤ transmitted sent watch.handler (watch.handler.act buildTime action),
        watch.handler.point i = point) ∨
      point = (watch.handler.act buildTime action).point 0 := by
  unfold Watch.step
  dsimp only
  rw [List.mem_append, List.mem_map, List.mem_singleton]
  apply or_congr_left
  apply exists_congr
  intro i
  rw [List.mem_range, Nat.lt_succ_iff]

/-- The last transmission and the end of an action tell whether all its points fit. -/
theorem Watch.fits_step {action : Action}
    (last : (watch.handler.point (transmitted sent watch.handler
      (watch.handler.act buildTime action))).Fits)
    (done : ((watch.handler.act buildTime action).point 0).Fits) :
    ∀ point ∈ (watch.step sent buildTime action).seen, point.Fits := by
  intro point member
  rcases mem_seen_step.mp member with ⟨i, bound, rfl⟩ | rfl
  · simp only [Point.Fits, Handler.point] at last ⊢
    omega
  · exact done

/-- What an action does to a worker whose pairing flash restores. -/
structure Handler.Steps (sent : W → List Transmission) (before : Handler W) (action : Action)
    (after : Handler W) : Prop where
  backed : ∃ stored, after.Backed stored
  unsaved : after.state.paired = true → after.unsaved ≤
    if before.state.paired then before.unsaved + transmitted sent before after else 0
  upTo : UpTo W (before.mostReports action) (transmitted sent before after)

theorem Handler.Backed.act (lawful : RustUnifying.Lawful sent) (action : Action)
    (backed : handler.Backed stored)
    (fits : handler.state.device.aesCounter.toNat +
      transmitted sent handler (handler.act buildTime action) < 2 ^ 32) :
    handler.Steps sent action (handler.act buildTime action) := by
  by_cases powered : action = .powerCycle
  · subst powered
    obtain ⟨after, none⟩ := Handler.Backed.boot handler.state.device.world backed.refines
    refine ⟨after, fun paired => ?_, .of_sent (Handler.boot_sent lawful _ _)⟩
    exact Nat.le_trans (Nat.le_of_eq (none paired)) (Nat.zero_le _)
  · obtain ⟨after, same, linked, upTo, effect⟩ := handler.act_handles lawful buildTime powered
    obtain rfl := Option.some.inj same
    have ready : handler.ready.Backed stored :=
      ⟨backed.refines, backed.linked, backed.inside, backed.active, backed.record⟩
    obtain ⟨next, unsaved⟩ := ready.effect linked effect fits
    exact ⟨next, unsaved, upTo⟩

/-- Typed text and keys are saved at once, presses at every multiple of 128. -/
theorem Handler.Backed.settles {action : Action} (backed : handler.Backed stored)
    (steps : handler.Steps sent action (handler.act buildTime action))
    (paired : (handler.act buildTime action).state.paired = true) :
    handler.Settles action (handler.act buildTime action) := by
  have linked {line : List UInt8} (is : action = .command line)
      (connected : handler.state.connected = true) : handler.ready.state.paired = true :=
    backed.linked connected
  have settled {line : List UInt8} {after : Handler W} (is : action = .command line)
      (done : handleUnifyingCommand buildTime handler.ready line = some after) :
      handler.act buildTime action = after := by
    rw [is, Handler.act, done]
  constructor
  · have bound := steps.unsaved paired
    have most := steps.upTo.le
    split at bound
    · omega
    · omega
  · intro line is types
    obtain ⟨after, done, slot, flash⟩ :=
      handler.ready.types_saved buildTime (linked is types.1) types
    rw [settled is done]
    exact Handler.unsaved_of_save backed.refines backed.inside slot flash
  · intro line is presses multiple
    obtain ⟨after, done, saves⟩ :=
      handler.ready.presses_saved buildTime (linked is presses.1) presses
    rw [settled is done] at multiple ⊢
    obtain ⟨slot, flash⟩ := saves multiple
    exact Handler.unsaved_of_save backed.refines backed.inside slot flash

theorem Watch.steps (lawful : RustUnifying.Lawful sent) (action : Action)
    (backed : watch.handler.Backed stored)
    (fits : ∀ point ∈ (watch.step sent buildTime action).seen, point.Fits) :
    watch.handler.Steps sent action (watch.handler.act buildTime action) := by
  have last := fits _ (Watch.mem_seen_step.mpr (.inl ⟨_, Nat.le_refl _, rfl⟩))
  have small : watch.handler.state.device.aesCounter.toNat + transmitted sent watch.handler
      (watch.handler.act buildTime action) + 512 < 2 ^ 32 := last
  exact backed.act lawful action (Nat.lt_of_add_right_lt small)

/-- With a margin, all points of an action are covered. -/
theorem Watch.covered_step (lawful : RustUnifying.Lawful sent) {action : Action}
    (backed : watch.handler.Backed stored)
    (fits : ∀ point ∈ (watch.step sent buildTime action).seen, point.Fits)
    (margin : watch.handler.HasMargin action) :
    ∀ point ∈ (watch.step sent buildTime action).seen, point.Covered W := by
  have steps := Watch.steps lawful action backed fits
  obtain ⟨after, next⟩ := steps.backed
  have sends (paired : watch.handler.state.paired = true) :
      watch.handler.unsaved + transmitted sent watch.handler
        (watch.handler.act buildTime action) ≤ 512 := by
    have enough : watch.handler.unsaved + watch.handler.mostReports action ≤ 512 := margin paired
    have most := steps.upTo.le
    omega
  intro point member
  have fits := fits point member
  rcases mem_seen_step.mp member with ⟨i, bound, rfl⟩ | rfl
  · refine (backed.covered_iff i fits).mpr fun paired => ?_
    have := sends paired
    omega
  · refine (next.covered_iff 0 fits).mpr fun paired => ?_
    have unsaved := steps.unsaved paired
    split at unsaved
    next live => exact Nat.le_trans unsaved (sends live)
    · omega

/-- If nothing is acknowledged, an action needs its margin. -/
theorem Watch.hasMargin_of_covered (lawful : RustUnifying.Lawful sent) (deaf : Deaf W)
    {action : Action} (backed : watch.handler.Backed stored)
    (fits : ∀ point ∈ (watch.step sent buildTime action).seen, point.Fits)
    (covered : ∀ point ∈ (watch.step sent buildTime action).seen, point.Covered W) :
    watch.handler.HasMargin action := by
  intro paired
  have last : watch.handler.point (transmitted sent watch.handler
      (watch.handler.act buildTime action)) ∈ (watch.step sent buildTime action).seen :=
    mem_seen_step.mpr (.inl ⟨_, Nat.le_refl _, rfl⟩)
  have close := (backed.covered_iff _ (fits _ last)).mp (covered _ last) paired
  rw [(Watch.steps lawful action backed fits).upTo.deaf deaf] at close
  exact close

/-- As long as the counters fit: if every action of a run has a margin, every power loss is
covered; if nothing is ever acknowledged, only then; and in any run an action leaves no more
unsaved than it can send, and nothing when the worker is to save. -/
theorem boot_margin_covers (lawful : RustUnifying.Lawful sent) (buildTime : Nat) (world : W)
    {flash : Nvmc} (refines : Refines flash stored) (actions : List Action)
    (fits : Always (Watch.step sent buildTime) (fun watch => ∀ point ∈ watch.seen, point.Fits)
      (Watch.boot world flash) actions) :
    (EveryStep (Watch.step sent buildTime) (fun watch action => watch.handler.HasMargin action)
        (Watch.boot world flash) actions →
      Always (Watch.step sent buildTime) (fun watch => ∀ point ∈ watch.seen, point.Covered W)
        (Watch.boot world flash) actions) ∧
    (Deaf W →
      Always (Watch.step sent buildTime) (fun watch => ∀ point ∈ watch.seen, point.Covered W)
        (Watch.boot world flash) actions →
      EveryStep (Watch.step sent buildTime) (fun watch action => watch.handler.HasMargin action)
        (Watch.boot world flash) actions) ∧
    EveryStep (Watch.step sent buildTime)
      (fun watch action => (watch.handler.act buildTime action).state.paired = true →
        watch.handler.Settles action (watch.handler.act buildTime action))
      (Watch.boot world flash) actions := by
  obtain ⟨booted, none⟩ := Handler.Backed.boot world refines
  have always : Always (Watch.step sent buildTime) (fun watch => ∃ stored,
      watch.handler.Backed stored) (Watch.boot world flash) actions := by
    refine Always.of_everyStep ?_ booted fits.everyStep_next
    rintro watch action ⟨stored, backed⟩ fits
    exact (Watch.steps lawful action backed fits).backed
  have each := always.everyStep.and fits.everyStep_next
  refine ⟨fun margins => ?_, fun deaf covered => ?_, ?_⟩
  · refine Always.of_everyStep ?_ ?_ (each.and margins)
    · rintro watch action - ⟨⟨⟨stored, backed⟩, fits⟩, margin⟩
      exact Watch.covered_step lawful backed fits margin
    · intro point member
      have first := fits [] actions rfl point member
      obtain rfl := List.mem_singleton.mp member
      obtain ⟨after, backed⟩ := booted
      refine (backed.covered_iff 0 first).mpr fun paired => ?_
      rw [none paired]
      exact Nat.zero_le _
  · intro before action after same
    obtain ⟨⟨stored, backed⟩, fits⟩ := each before action after same
    exact Watch.hasMargin_of_covered lawful deaf backed fits
      (covered.everyStep_next before action after same)
  · intro before action after same paired
    obtain ⟨⟨stored, backed⟩, fits⟩ := each before action after same
    exact backed.settles (Watch.steps lawful action backed fits) paired

end Invariant

instance (point : Point) : Decidable point.Fits := inferInstanceAs (Decidable (_ < _))

/-- Pairing, then one line of text. -/
def pairAndType (text : List UInt8) : List Action :=
  [.command (ascii "UPAIR"), .command (ascii "UTYPE " ++ text)]

/-- The bench with a receiver that never acknowledges a keystroke. -/
@[reducible]
def Bench.silence : RustUnifying Bench where
  __ := (inferInstance : RustUnifying Bench)
  sendEncryptedKeystroke device keys modifier :=
    (false, (RustUnifying.sendEncryptedKeystroke device keys modifier).2)

theorem Bench.silence_lawful : @RustUnifying.Lawful Bench Bench.silence _ Bench.sent := by
  let _ := Bench.silence
  exact ⟨fun _ _ _ _ _ _ => ⟨rfl, rfl, rfl, rfl⟩, fun _ => .refl _, fun _ => .refl _,
    fun _ => .refl _, fun _ _ => rfl, fun _ _ _ => ⟨rfl, rfl, rfl, List.reverse_cons⟩,
    fun _ => rfl, fun _ _ => rfl, fun _ _ => rfl, fun _ => rfl, fun _ => rfl⟩

theorem boot_margin_covers_silence :
    let start := @Watch.boot Bench _ Bench.silence ⟨false, []⟩ erasedChip
    @Always _ _ (@Watch.step Bench _ Bench.silence Bench.sent 0)
        (fun watch => ∀ point ∈ watch.seen, @Point.Covered Bench _ Bench.silence point) start
        (pairAndType (ascii "ab")) ↔
      @EveryStep _ _ (@Watch.step Bench _ Bench.silence Bench.sent 0)
        (fun watch action => watch.handler.HasMargin action) start (pairAndType (ascii "ab")) := by
  let _ := Bench.silence
  have covers := boot_margin_covers Bench.silence_lawful 0 ⟨false, []⟩
    (show Refines erasedChip _ from .erased fun _ _ _ => rfl) (pairAndType (ascii "ab")) ?_
  · exact ⟨covers.2.1 fun _ _ _ => rfl, covers.1⟩
  · rw [pairAndType, always_cons, always_cons, always_nil]
    refine ⟨?_, Watch.fits_step ?_ ?_, Watch.fits_step ?_ ?_⟩ <;> decide +kernel

/-- A receiver out of range: thirteen characters take 520 reports without a save, and a power loss
in the middle resumes with counters that were used. -/
theorem boot_margin_uncovered : RustUnifying.Lawful Bench.sent ∧
    ¬∀ actions, Always (Watch.step Bench.sent 0) (fun watch => ∀ point ∈ watch.seen, point.Fits)
        (Watch.boot ⟨false, []⟩ erasedChip) actions →
      Always (Watch.step Bench.sent 0) (fun watch => ∀ point ∈ watch.seen, point.Covered Bench)
        (Watch.boot ⟨false, []⟩ erasedChip) actions := by
  refine ⟨Bench.lawful, fun covered => ?_⟩
  have fits : Always (Watch.step Bench.sent 0) (fun watch => ∀ point ∈ watch.seen, point.Fits)
      (Watch.boot ⟨false, []⟩ erasedChip) (pairAndType (ascii "aaaaaaaaaaaaa")) := by
    rw [pairAndType, always_cons, always_cons, always_nil]
    refine ⟨?_, Watch.fits_step ?_ ?_, Watch.fits_step ?_ ?_⟩ <;> decide +kernel
  have last := covered _ fits _ [] (List.append_nil _).symm
  let paired := (Watch.boot (⟨false, []⟩ : Bench) erasedChip).step Bench.sent 0
    (.command (ascii "UPAIR"))
  have reports : 520 ≤ transmitted Bench.sent paired.handler
      (paired.handler.act 0 (.command (ascii "UTYPE " ++ ascii "aaaaaaaaaaaaa"))) := by
    decide +kernel
  have far : paired.handler.state.paired = true ∧
      ∀ profile ∈ (load paired.handler.flash paired.handler.state.activeSlot).1,
        512 < (paired.handler.point 520).counter - profile.aesCounter.toNat := by
    decide +kernel
  obtain ⟨⟨profile, loaded, -, close⟩, -⟩ :=
    last (paired.handler.point 520) (Watch.mem_seen_step.mpr (.inl ⟨520, reports, rfl⟩)) far.1
  have behind := far.2 profile loaded
  omega

end NrfUnifying.Radio
