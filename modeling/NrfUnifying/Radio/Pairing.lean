import NrfUnifying.Radio.Counter

/-!
# RAM and flash describe the same pairing

`UnifyingState.identity` is the pairing in RAM, address and key. In every state
between commands it is the one stored in the active slot, and the active slot is
the one that a power-up would choose.
-/

namespace NrfUnifying.Radio

open Lib.Bytes Lib.Runs Storage

/-- What identifies a receiver: its address and its key. -/
abbrev Identity := Vector UInt8 5 × Vector UInt8 16

def profileIdentity (profile : Profile) : Identity := (profile.address, profile.aesKey)

section Statement

variable {W : Type}

/-- The pairing in RAM. -/
def UnifyingState.identity (state : UnifyingState W) : Option Identity :=
  if state.paired then some (state.device.address, state.device.aesKey) else none

/-- RAM and flash describe the same pairing. -/
structure Handler.Agrees (handler : Handler W) : Prop where
  linked : handler.state.connected = true → handler.state.paired = true
  paired : handler.state.paired = true ↔
    ∃ profile, (load handler.flash handler.state.activeSlot).1 = some profile
  same : ∀ profile, (load handler.flash handler.state.activeSlot).1 = some profile →
    profile.address = handler.state.device.address ∧ profile.aesKey = handler.state.device.aesKey

/-- `UDELETE` of this slot or of all slots. -/
def Deletes (line : List UInt8) (slot : UInt8) : Prop :=
  (line = ascii "UDELETE" ∨ (ascii "UDELETE ").isPrefixOf line) ∧
    (8 < line.length → (parseU8Hex (line.drop 8)).filter (· < maxProfiles) = some slot)

end Statement

section Invariant

variable {W : Type}

/-- The pairing in RAM is the one stored in the active slot, which a power-up would choose. -/
structure Handler.Mirrors (handler : Handler W) (stored : Pairings) : Prop where
  refines : Refines handler.flash stored
  linked : handler.state.Linked
  inside : handler.state.activeSlot < maxProfiles
  same : (stored.profile handler.state.activeSlot).map profileIdentity = handler.state.identity
  chosen : handler.state.paired = true → bootSlot stored = handler.state.activeSlot

/-- Slots that were empty still are, unless `slot` is named as paired. -/
def StaysEmpty (before after : Pairings) (pairedSlot : Option UInt8) : Prop :=
  ∀ slot, before.profile slot = none → pairedSlot ≠ some slot → after.profile slot = none

variable {handler after : Handler W} {stored : Pairings}

theorem UnifyingState.identity_of_paired {state : UnifyingState W}
    (paired : state.paired = true) :
    state.identity = some (state.device.address, state.device.aesKey) :=
  if_pos paired

theorem UnifyingState.identity_of_unpaired {state : UnifyingState W}
    (unpaired : state.paired = false) : state.identity = none :=
  if_neg (by rw [unpaired]; exact Bool.false_ne_true)

theorem UnifyingState.identity_congr {before after : UnifyingState W}
    (paired : after.paired = before.paired)
    (address : after.device.address = before.device.address)
    (aesKey : after.device.aesKey = before.device.aesKey) : after.identity = before.identity := by
  rw [UnifyingState.identity, paired, address, aesKey, UnifyingState.identity]

theorem Handler.Mirrors.agrees (mirrors : handler.Mirrors stored) : handler.Agrees := by
  have loaded : (load handler.flash handler.state.activeSlot).1 =
      stored.profile handler.state.activeSlot :=
    congrArg Prod.fst (mirrors.refines.load mirrors.inside)
  have same := mirrors.same
  refine ⟨mirrors.linked, ?_, ?_⟩
  · rw [loaded]
    by_cases paired : handler.state.paired = true
    · rw [UnifyingState.identity_of_paired paired] at same
      obtain ⟨profile, known, -⟩ := Option.map_eq_some_iff.mp same
      exact ⟨fun _ => ⟨profile, known⟩, fun _ => paired⟩
    · rw [UnifyingState.identity_of_unpaired (Bool.not_eq_true _ ▸ paired)] at same
      refine ⟨fun isPaired => absurd isPaired paired, ?_⟩
      rintro ⟨profile, known⟩
      rw [known] at same
      cases same
  · intro profile known
    rw [loaded] at known
    rw [known, UnifyingState.identity] at same
    split at same
    · obtain ⟨address, aesKey⟩ := Prod.mk.inj (Option.some.inj same)
      exact ⟨address, aesKey⟩
    · cases same

/-- An unpaired state mirrors an empty active slot. -/
theorem Handler.Mirrors.of_unpaired (refines : Refines handler.flash stored)
    (linked : handler.state.Linked) (inside : handler.state.activeSlot < maxProfiles)
    (unpaired : handler.state.paired = false)
    (empty : stored.profile handler.state.activeSlot = none) : handler.Mirrors stored where
  refines := refines
  linked := linked
  inside := inside
  same := by rw [empty, UnifyingState.identity_of_unpaired unpaired]; rfl
  chosen paired := absurd (unpaired.symm.trans paired) Bool.false_ne_true

theorem Handler.Mirrors.empty (mirrors : handler.Mirrors stored)
    (unpaired : handler.state.paired = false) :
    stored.profile handler.state.activeSlot = none := by
  have same := mirrors.same
  rw [UnifyingState.identity_of_unpaired unpaired] at same
  exact Option.map_eq_none_iff.mp same

theorem Handler.Mirrors.stored_some (mirrors : handler.Mirrors stored)
    (paired : handler.state.paired = true) :
    ∃ profile, stored.profile handler.state.activeSlot = some profile ∧
      profile.address = handler.state.device.address ∧
      profile.aesKey = handler.state.device.aesKey := by
  have same := mirrors.same
  rw [UnifyingState.identity_of_paired paired] at same
  obtain ⟨profile, known, identity⟩ := Option.map_eq_some_iff.mp same
  obtain ⟨address, aesKey⟩ := Prod.mk.inj identity
  exact ⟨profile, known, address, aesKey⟩

/-- Saving the active profile writes the pairing in RAM to the active slot. -/
theorem Handler.Mirrors.save (mirrors : handler.Mirrors stored)
    (paired : handler.state.paired = true) :
    handler.save.Mirrors { stored with
      profile := Function.update stored.profile handler.state.activeSlot
        (some handler.state.currentProfile) } where
  refines := mirrors.refines.save mirrors.inside _
  linked := mirrors.linked
  inside := mirrors.inside
  same := by
    have saved : Function.update stored.profile handler.state.activeSlot
        (some handler.state.currentProfile) handler.state.activeSlot = _ :=
      Function.update_self _ _ _
    exact (congrArg _ saved).trans (UnifyingState.identity_of_paired paired).symm
  chosen := mirrors.chosen

theorem StaysEmpty.refl (stored : Pairings) (pairedSlot : Option UInt8) :
    StaysEmpty stored stored pairedSlot :=
  fun _ empty _ => empty

/-- The active slot of a paired state is not empty, so that saving fills no slot. -/
theorem Handler.Mirrors.save_staysEmpty (mirrors : handler.Mirrors stored)
    (paired : handler.state.paired = true) (profile : Profile) (pairedSlot : Option UInt8) :
    StaysEmpty stored { stored with
      profile := Function.update stored.profile handler.state.activeSlot (some profile) }
      pairedSlot := by
  intro slot empty _
  obtain ⟨known, isSome, -⟩ := mirrors.stored_some paired
  have other : slot ≠ handler.state.activeSlot := by
    rintro rfl
    rw [isSome] at empty
    cases empty
  exact (Function.update_of_ne other _ _).trans empty

/-- A pairing that goes on mirrors what it mirrored. -/
theorem Handler.Mirrors.keep {sent : W → List Transmission} {count : Nat}
    (mirrors : handler.Mirrors stored) (linked : after.state.Linked)
    (sends : Sends sent handler.state.device after.state.device count)
    (paired : after.state.paired = handler.state.paired)
    (slot : after.state.activeSlot = handler.state.activeSlot)
    (flash : after.flash = handler.flash) : after.Mirrors stored where
  refines := flash ▸ mirrors.refines
  linked := linked
  inside := slot ▸ mirrors.inside
  same := by
    rw [slot, mirrors.same]
    exact (UnifyingState.identity_congr paired sends.address sends.aesKey).symm
  chosen isPaired := by rw [slot, mirrors.chosen (paired ▸ isPaired)]

/-- A switch makes the slot active and takes its pairing over. -/
theorem Handler.Mirrors.switch (refines : Refines handler.flash stored)
    (linked : after.state.Linked) (inside : after.state.activeSlot < maxProfiles)
    (flash : after.flash = saveActiveSlot handler.flash after.state.activeSlot)
    (loaded : ∀ profile, (load after.flash after.state.activeSlot).1 = some profile →
      after.state.paired = true ∧ after.state.device.address = profile.address ∧
        after.state.device.aesKey = profile.aesKey)
    (empty : (load after.flash after.state.activeSlot).1 = none → after.state.paired = false) :
    after.Mirrors { stored with active := some after.state.activeSlot } := by
  have refines := refines.saveActiveSlot inside
  rw [← flash] at refines
  have found : (load after.flash after.state.activeSlot).1 =
      stored.profile after.state.activeSlot := congrArg Prod.fst (refines.load inside)
  rw [found] at loaded empty
  refine ⟨refines, linked, inside, ?_, fun _ => rfl⟩
  change (stored.profile after.state.activeSlot).map profileIdentity = after.state.identity
  cases known : stored.profile after.state.activeSlot with
  | none =>
      rw [UnifyingState.identity_of_unpaired (empty known)]
      rfl
  | some profile =>
      obtain ⟨paired, address, aesKey⟩ := loaded profile known
      rw [UnifyingState.identity_of_paired paired, address, aesKey]
      rfl

variable [Board W] [RustUnifying W]

/-- What an action does keeps RAM and flash in agreement, and fills no empty slot but one that it
pairs. -/
theorem Handler.Mirrors.effect {sent : W → List Transmission} {line : List UInt8}
    (mirrors : handler.Mirrors stored) (linked : after.state.Linked)
    (effect : Effect sent line handler after) :
    ∃ next, after.Mirrors next ∧ StaysEmpty stored next (handler.pairedSlot line) := by
  cases effect with
  | reports count sends connected paired slot flash =>
      exact ⟨stored, mirrors.keep linked sends paired slot flash, .refl _ _⟩
  | saved count sends connected paired slot flash =>
      have unsaved : Handler.Mirrors { after with flash := handler.flash } stored :=
        mirrors.keep linked sends (paired.2.trans paired.1.symm) slot rfl
      have saves := unsaved.save paired.2
      dsimp only at saves
      rw [Handler.save_before slot flash] at saves
      exact ⟨_, saves, unsaved.save_staysEmpty paired.2 _ _⟩
  | unpaired log paired slot flash =>
      refine ⟨stored, .of_unpaired (flash ▸ mirrors.refines) linked (slot ▸ mirrors.inside)
        paired.2 ?_, .refl _ _⟩
      rw [slot]
      exact mirrors.empty paired.1
  | paired slot command named pairs log paired active flash =>
      have pairedSlot : handler.pairedSlot line = some slot :=
        (if_pos ⟨command, pairs⟩).trans named
      subst active
      have inside := UnifyingState.pairSlot_lt mirrors.inside named
      have refines := (mirrors.refines.save inside after.state.currentProfile).saveActiveSlot inside
      rw [← flash] at refines
      refine ⟨_, ⟨refines, linked, inside, ?_, fun _ => rfl⟩, ?_⟩
      · dsimp only
        rw [Function.update_self, UnifyingState.identity_of_paired paired]
        rfl
      · intro slot empty other
        rw [pairedSlot] at other
        refine (Function.update_of_ne ?_ _ _).trans empty
        rintro rfl
        exact other rfl
  | switched slot inside other log active loaded empty flash =>
      subst active
      have loaded (profile : Profile) (found : (load after.flash after.state.activeSlot).1 =
          some profile) := (loaded profile found).imp_right fun fields =>
        And.intro fields.1 fields.2.1
      by_cases paired : handler.state.paired = true
      · rw [if_pos paired] at flash
        have saved := mirrors.save paired
        exact ⟨_, .switch saved.refines linked inside flash loaded empty,
          mirrors.save_staysEmpty paired _ _⟩
      · rw [if_neg paired] at flash
        exact ⟨_, .switch mirrors.refines linked inside flash loaded empty, .refl _ _⟩
  | deleted slot inside same paired active flash =>
      have refines := mirrors.refines.clearSlot inside
      rw [← flash] at refines
      refine ⟨{ stored with profile := Function.update stored.profile slot none }, ?_,
        fun other empty _ => ?_⟩
      · by_cases here : handler.state.activeSlot = slot
        · rw [if_pos here] at paired
          refine .of_unpaired refines linked (active ▸ mirrors.inside) paired ?_
          rw [active, here]
          exact Function.update_self _ _ _
        · rw [if_neg here] at paired
          refine ⟨refines, linked, active ▸ mirrors.inside, ?_, fun isPaired => ?_⟩
          · dsimp only
            rw [active, Function.update_of_ne here, mirrors.same]
            exact (UnifyingState.identity_congr paired same.address same.aesKey).symm
          · rw [active]
            exact mirrors.chosen (paired ▸ isPaired)
      · dsimp only
        by_cases here : other = slot
        · rw [here, Function.update_self]
        · rw [Function.update_of_ne here, empty]
  | deletedAll same paired active flash =>
      have refines : Refines (clearAll handler.flash) .empty := .clearAll
      rw [← flash] at refines
      exact ⟨_, .of_unpaired refines linked (active ▸ mirrors.inside) paired rfl,
        fun _ _ _ => rfl⟩

/-- Power-up restores the pairing of the slot it chooses. -/
theorem Handler.Mirrors.boot (world : W) {flash : Nvmc} (refines : Refines flash stored) :
    ∃ next, (Handler.boot world flash).Mirrors next ∧ StaysEmpty stored next none ∧
      (Handler.boot world flash).state.activeSlot = bootSlot stored ∧
      (Handler.boot world flash).state.identity =
        (stored.profile (bootSlot stored)).map profileIdentity := by
  have inside := bootSlot_lt refines
  have booted := Handler.boot_eq world refines
  cases known : stored.profile (bootSlot stored) with
  | none =>
      rw [known] at booted
      rw [booted]
      exact ⟨stored, .of_unpaired refines (.of_disconnected rfl) inside rfl known, .refl _ _, rfl,
        rfl⟩
  | some profile =>
      rw [known] at booted
      dsimp only at booted
      rw [booted]
      have saved := refines.save inside { profile with
        aesCounter := profile.aesCounter + bootMargin }
      refine ⟨_, ⟨saved, .of_disconnected rfl, inside, ?_, fun _ => rfl⟩, ?_, rfl, rfl⟩
      · exact congrArg _ (Function.update_self (bootSlot stored) _ _)
      · intro slot empty _
        refine (Function.update_of_ne ?_ _ _).trans empty
        rintro rfl
        rw [known] at empty
        cases empty

theorem Handler.Mirrors.act {sent : W → List Transmission} (lawful : RustUnifying.Lawful sent)
    (buildTime : Nat) (mirrors : handler.Mirrors stored) (action : Action) :
    ∃ next, (handler.act buildTime action).Mirrors next ∧
      StaysEmpty stored next (handler.pairedSlot action.line) := by
  by_cases powered : action = .powerCycle
  · subst powered
    obtain ⟨next, booted, empty, -⟩ :=
      Handler.Mirrors.boot handler.state.device.world mirrors.refines
    exact ⟨next, booted, fun slot was _ => empty slot was nofun⟩
  · obtain ⟨linked, effect⟩ := handler.act_effect lawful buildTime powered
    have ready : handler.ready.Mirrors stored :=
      ⟨mirrors.refines, mirrors.linked, mirrors.inside, mirrors.same, mirrors.chosen⟩
    exact ready.effect (linked mirrors.linked) effect

theorem Handler.Mirrors.run {sent : W → List Transmission} (lawful : RustUnifying.Lawful sent)
    (buildTime : Nat) (mirrors : handler.Mirrors stored) (actions : List Action) :
    ∃ next, (actions.foldl (Handler.act buildTime) handler).Mirrors next ∧
      ∀ slot, stored.profile slot = none →
        EveryStep (Handler.act buildTime) (fun handler action =>
          handler.pairedSlot action.line ≠ some slot) handler actions →
        next.profile slot = none := by
  induction actions generalizing handler stored with
  | nil => exact ⟨stored, mirrors, fun _ empty _ => empty⟩
  | cons action rest ih =>
      obtain ⟨middle, first, staysEmpty⟩ := mirrors.act lawful buildTime action
      obtain ⟨last, others, empty⟩ := ih first
      refine ⟨last, others, fun slot was never => ?_⟩
      obtain ⟨head, tail⟩ := everyStep_cons.mp never
      exact empty slot (staysEmpty slot was head) tail

/-! ## Deletion -/

theorem handle_udelete (buildTime : Nat) (handler : Handler W) {line : List UInt8}
    (delete : line = ascii "UDELETE" ∨ (ascii "UDELETE ").isPrefixOf line) :
    handleUnifyingCommand buildTime handler line = some (handler.udelete line) := by
  rcases delete with rfl | starts
  · rfl
  · have other (word : List UInt8) (differs : (ascii "UDELETE ").isPrefixOf word = false) :
        line ≠ word := ne_of_starts starts differs
    have noPair : (ascii "UPAIR ").isPrefixOf line = false := not_starts starts (by decide)
    have nonempty : ¬line.isEmpty = true := fun empty =>
      other [] (by decide) (List.isEmpty_iff.mp empty)
    rw [handleUnifyingCommand, if_neg nonempty, if_neg (other _ (by decide)),
      if_neg (by simp [other (ascii "UPAIR") (by decide), noPair]), if_neg (other _ (by decide)),
      if_neg (other _ (by decide)), if_neg (other _ (by decide)), if_neg (other _ (by decide)),
      if_neg (other _ (by decide)), if_pos (.inr starts)]

/-- What `UDELETE` names is empty afterwards. -/
theorem Handler.Mirrors.delete (mirrors : handler.Mirrors stored) (buildTime : Nat)
    {line : List UInt8} {slot : UInt8} (deletes : Deletes line slot)
    (inside : slot < maxProfiles) :
    ∃ next, Refines (handler.act buildTime (.command line)).flash next ∧
      next.profile slot = none := by
  rw [Handler.act, handle_udelete buildTime _ deletes.1, Handler.udelete]
  by_cases one : 8 < line.length
  · rw [if_pos one, deletes.2 one]
    exact ⟨_, mirrors.refines.clearSlot inside, Function.update_self _ _ _⟩
  · rw [if_neg one]
    exact ⟨.empty, .clearAll, rfl⟩

end Invariant

section Statement

variable {W : Type} [Board W] [RustUnifying W]

/-- In every state between commands RAM and flash describe the same pairing; a slot that `UDELETE`
erased is empty until it is paired again; and power-up finds the pairing that was there. -/
theorem pairing_mirrored {sent : W → List Transmission} (lawful : RustUnifying.Lawful sent)
    (buildTime : Nat) (world : W) {flash : Nvmc}
    (erased : ∀ i, storageBase ≤ i → i < activePage + pageSize → flash.cells i = 0xFF)
    (actions : List Action) :
    let start := Handler.boot world flash
    let last := actions.foldl (Handler.act buildTime) start
    last.Agrees ∧
    (∀ before line after slot, actions = before ++ .command line :: after → Deletes line slot →
      EveryStep (Handler.act buildTime) (fun handler action =>
          handler.pairedSlot action.line ≠ some slot)
        ((before ++ [.command line]).foldl (Handler.act buildTime) start) after →
      (load last.flash slot).1 = none) ∧
    ∀ world : W, last.state.paired = true →
      let booted := (Handler.boot world last.flash).state
      booted.paired = true ∧ booted.activeSlot = last.state.activeSlot ∧
        booted.device.address = last.state.device.address ∧
        booted.device.aesKey = last.state.device.aesKey := by
  intro start last
  obtain ⟨first, booted, -⟩ := Handler.Mirrors.boot world (Refines.erased erased)
  obtain ⟨stored, mirrors, -⟩ := booted.run lawful buildTime actions
  refine ⟨mirrors.agrees, ?_, ?_⟩
  · intro before line after slot same deletes never
    by_cases inside : slot < maxProfiles
    · obtain ⟨middle, reached, -⟩ := booted.run lawful buildTime before
      obtain ⟨next, deleted, -⟩ := reached.act lawful buildTime (.command line)
      obtain ⟨known, refines, empty⟩ := reached.delete buildTime deletes inside
      have none : next.profile slot = none := by
        have read := (deleted.refines.load inside).symm.trans (refines.load inside)
        exact (congrArg Prod.fst read).trans empty
      rw [List.foldl_append] at never
      obtain ⟨final, others, stays⟩ := deleted.run lawful buildTime after
      have whole : last = after.foldl (Handler.act buildTime)
          ((before.foldl (Handler.act buildTime) start).act buildTime (.command line)) := by
        rw [← List.foldl_cons, ← List.foldl_append, ← same]
      rw [whole, others.refines.load inside]
      exact stays slot none never
    · rw [load_of_ge _ (UInt8.not_lt.mp inside)]
  · intro world paired
    obtain ⟨next, again, -, slot, identity⟩ := Handler.Mirrors.boot world mirrors.refines
    rw [mirrors.chosen paired] at slot identity
    rw [mirrors.same, UnifyingState.identity_of_paired paired, UnifyingState.identity] at identity
    split at identity
    next isPaired =>
      obtain ⟨address, aesKey⟩ := Prod.mk.inj (Option.some.inj identity)
      exact ⟨isPaired, slot, address, aesKey⟩
    next => cases identity

/-- Slot 0 is paired and deleted, slot 1 is paired, typed with and kept over a power cycle. -/
def pairDelete : List Action :=
  [.command (ascii "UPAIR"), .command (ascii "UDELETE 00"), .command (ascii "UPAIR 01"),
    .command (ascii "UKEY 00 04"), .powerCycle]

theorem pairing_mirrored_pairDelete :
    (load (pairDelete.foldl (Handler.act 0) (.boot (⟨true, []⟩ : Bench) erasedChip)).flash 0).1 =
      none := by
  refine (pairing_mirrored Bench.lawful 0 ⟨true, []⟩ (fun _ _ _ => rfl) pairDelete).2.1
    [.command (ascii "UPAIR")] (ascii "UDELETE 00") _ 0 rfl ⟨by decide, fun _ => by decide⟩ ?_
  simp only [everyStep_cons, everyStep_nil, and_true]
  decide +kernel

end Statement

end NrfUnifying.Radio
