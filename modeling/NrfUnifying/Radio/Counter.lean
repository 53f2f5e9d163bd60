import NrfUnifying.Radio.BootMargin

/-!
# The counter across slots

`Trace` runs the worker without losing power and notes every keystroke under
the pairing it was sent for. The counters of one pairing increase as long as a
pairing that is left by `UPAIR` was saved before.
-/

namespace NrfUnifying.Radio

open Lib.Bytes Lib.Runs Storage

/-- A pairing: its slot, and how many receivers that slot was paired with in the run. -/
structure PairingId where
  slot : UInt8
  epoch : Nat
  deriving DecidableEq, Repr

/-- A keystroke transmission. -/
structure Use where
  pairing : PairingId
  counter : UInt32
  deriving DecidableEq, Repr

/-- The counters of each pairing increase from use to use. -/
def Increasing (used : List Use) : Prop :=
  used.Pairwise fun first second =>
    first.pairing = second.pairing → first.counter < second.counter

instance (used : List Use) : Decidable (Increasing used) :=
  inferInstanceAs (Decidable (List.Pairwise _ used))

section Trace

variable {W : Type} [Board W] [RustUnifying W]

/-- The slot that a command pairs, if it succeeds. -/
def Handler.pairedSlot (handler : Handler W) (line : List UInt8) : Option UInt8 :=
  if isPair line ∧ handler.state.pairs = true then handler.state.pairSlot line else none

/-- The counters of the keystrokes sent between two states of the worker. -/
def usedCounters (sent : W → List Transmission) (before after : Handler W) : List UInt32 :=
  ((sent after.state.device.world).drop (sent before.state.device.world).length).map
    Transmission.counter

/-- The worker and all keystrokes it has sent since it was powered up. -/
structure Trace (W : Type) where
  handler : Handler W
  epoch : UInt8 → Nat
  used : List Use

def Trace.current (trace : Trace W) : PairingId :=
  ⟨trace.handler.state.activeSlot, trace.epoch trace.handler.state.activeSlot⟩

variable (sent : W → List Transmission) (buildTime : Nat)

def Trace.step (trace : Trace W) (action : Action) : Trace W :=
  let after := trace.handler.act buildTime action
  { handler := after
    epoch :=
      match trace.handler.pairedSlot action.line with
      | some slot => Function.update trace.epoch slot (trace.epoch slot + 1)
      | none => trace.epoch
    used := trace.used ++ (usedCounters sent trace.handler after).map (Use.mk trace.current) }

def Trace.boot (world : W) (flash : Nvmc) : Trace W :=
  ⟨.boot world flash, fun _ => 0, []⟩

/-- Power stays on and the counter does not wrap. -/
def Trace.Powered (trace : Trace W) (action : Action) : Prop :=
  action ≠ .powerCycle ∧ trace.handler.state.device.aesCounter.toNat +
    (usedCounters sent trace.handler (trace.handler.act buildTime action)).length < 2 ^ 32

/-- A successful `UPAIR` into another slot finds the live counter of the pairing it leaves in that
pairing's record. -/
def Trace.SavedBeforePairing (trace : Trace W) (action : Action) : Prop :=
  ∀ slot ∈ trace.handler.pairedSlot action.line,
    slot ≠ trace.handler.state.activeSlot → trace.handler.state.paired = true →
      (load trace.handler.flash trace.handler.state.activeSlot).1.map Profile.aesCounter =
        some trace.handler.state.device.aesCounter

end Trace

section Invariant

variable {W : Type} {sent : W → List Transmission} {buildTime : Nat}

/-- The counters used so far are below what the pairing will use next: the live counter of the
active pairing, the stored counter of the others. -/
structure Trace.Ordered (trace : Trace W) (stored : Pairings) : Prop where
  refines : Refines trace.handler.flash stored
  linked : trace.handler.state.Linked
  inside : trace.handler.state.activeSlot < maxProfiles
  increasing : Increasing trace.used
  known : ∀ use ∈ trace.used, use.pairing.epoch ≤ trace.epoch use.pairing.slot
  live : trace.handler.state.paired = true → ∀ use ∈ trace.used,
    use.pairing = trace.current → use.counter < trace.handler.state.device.aesCounter
  kept : ∀ slot, (trace.handler.state.paired = true → slot ≠ trace.handler.state.activeSlot) →
    ∀ profile, stored.profile slot = some profile → ∀ use ∈ trace.used,
      use.pairing = ⟨slot, trace.epoch slot⟩ → use.counter < profile.aesCounter

theorem Increasing.append {used : List Use} (increasing : Increasing used) (pairing : PairingId)
    {counter : UInt32} {count : Nat}
    (below : 0 < count → ∀ use ∈ used, use.pairing = pairing → use.counter < counter)
    (fits : counter.toNat + count < 2 ^ 32) :
    Increasing (used ++ (List.range count).map fun i => Use.mk pairing (counter + .ofNat i)) := by
  have value {i : Nat} (inside : i < count) :
      (counter + .ofNat i).toNat = counter.toNat + i := by
    rw [UInt32.toNat_add, UInt32.toNat_ofNat', Nat.mod_eq_of_lt (show i < 2 ^ 32 by omega),
      Nat.mod_eq_of_lt (by omega)]
  refine List.pairwise_append.mpr ⟨increasing, ?_, ?_⟩
  · rw [List.pairwise_map]
    refine List.Pairwise.imp_of_mem ?_ List.pairwise_lt_range
    intro i j first second before _
    have first := value (List.mem_range.mp first)
    have second := value (List.mem_range.mp second)
    change counter + .ofNat i < counter + .ofNat j
    exact UInt32.lt_iff_toNat_lt.mpr (by omega)
  · intro use member new fresh same
    obtain ⟨i, inside, rfl⟩ := List.mem_map.mp fresh
    have inside := List.mem_range.mp inside
    have old := UInt32.lt_iff_toNat_lt.mp (below (by omega) use member same)
    have new := value inside
    change use.counter < counter + .ofNat i
    exact UInt32.lt_iff_toNat_lt.mpr (by omega)

theorem Sends.usedCounters {before after : Handler W} {count : Nat}
    (sends : Sends sent before.state.device after.state.device count) :
    usedCounters sent before after =
      (List.range count).map fun i => before.state.device.aesCounter + .ofNat i := by
  rw [Radio.usedCounters, sends.sent, List.drop_left, List.map_map]
  rfl

theorem Sends.usedCounters_length {before after : Handler W} {count : Nat}
    (sends : Sends sent before.state.device after.state.device count) :
    (Radio.usedCounters sent before after).length = count := by
  rw [sends.usedCounters, List.length_map, List.length_range]

theorem usedCounters_eq_nil {before after : Handler W}
    (same : sent after.state.device.world = sent before.state.device.world) :
    usedCounters sent before after = [] := by
  rw [Radio.usedCounters, same, List.drop_length]
  rfl

variable {trace : Trace W} {stored : Pairings}

/-- Keystrokes of the active pairing keep the order. -/
theorem Trace.Ordered.send [Board W] [RustUnifying W] (ordered : trace.Ordered stored)
    {after : Handler W} {count : Nat}
    (sends : Sends sent trace.handler.state.device after.state.device count)
    (connected : 0 < count → trace.handler.state.connected = true)
    (paired : after.state.paired = trace.handler.state.paired)
    (slot : after.state.activeSlot = trace.handler.state.activeSlot)
    (flash : after.flash = trace.handler.flash) (linked : after.state.Linked)
    (fits : trace.handler.state.device.aesCounter.toNat + count < 2 ^ 32) :
    Trace.Ordered ⟨after, trace.epoch, trace.used ++
      (usedCounters sent trace.handler after).map (Use.mk trace.current)⟩ stored := by
  have live (positive : 0 < count) := ordered.live (ordered.linked (connected positive))
  rw [sends.usedCounters, List.map_map]
  have member {use : Use} (member : use ∈ trace.used ++ (List.range count).map
      (Use.mk trace.current ∘ fun i => trace.handler.state.device.aesCounter + .ofNat i)) :
      use ∈ trace.used ∨ 0 < count ∧ use.pairing = trace.current ∧
        use.counter < after.state.device.aesCounter := by
    rcases List.mem_append.mp member with old | new
    · exact .inl old
    · obtain ⟨i, inside, rfl⟩ := List.mem_map.mp new
      have inside := List.mem_range.mp inside
      refine .inr ⟨by omega, rfl, UInt32.lt_iff_toNat_lt.mpr ?_⟩
      change (trace.handler.state.device.aesCounter + .ofNat i).toNat < _
      rw [sends.counter fits, UInt32.toNat_add, UInt32.toNat_ofNat',
        Nat.mod_eq_of_lt (show i < 2 ^ 32 by omega), Nat.mod_eq_of_lt (by omega)]
      omega
  refine ⟨flash ▸ ordered.refines, linked, slot ▸ ordered.inside,
    ordered.increasing.append trace.current live fits, ?_, ?_, ?_⟩
  · intro use inside
    rcases member inside with old | ⟨_, same, _⟩
    · exact ordered.known use old
    · rw [same]
      exact Nat.le_refl _
  · intro isPaired use inside same
    rcases member inside with old | ⟨_, _, below⟩
    · have current : use.pairing = trace.current := by
        rw [same, Trace.current, Trace.current, slot]
      have below := ordered.live (paired ▸ isPaired) use old current
      refine UInt32.lt_iff_toNat_lt.mpr ?_
      rw [sends.counter fits]
      exact Nat.lt_of_lt_of_le (UInt32.lt_iff_toNat_lt.mp below) (Nat.le_add_right _ _)
    · exact below
  · intro other apart profile known use inside same
    rw [paired, slot] at apart
    rcases member inside with old | ⟨positive, current, _⟩
    · exact ordered.kept other apart profile known use old same
    · have isPaired := ordered.linked (connected positive)
      rw [same] at current
      exact absurd (congrArg PairingId.slot current) (apart isPaired)

/-- Saving the profile in the active slot keeps the order. -/
theorem Trace.Ordered.save (ordered : trace.Ordered stored)
    (paired : trace.handler.state.paired = true) :
    Trace.Ordered ⟨trace.handler.save, trace.epoch, trace.used⟩ { stored with
      profile := Function.update stored.profile trace.handler.state.activeSlot
        (some trace.handler.state.currentProfile) } := by
  refine ⟨ordered.refines.save ordered.inside _, ordered.linked, ordered.inside,
    ordered.increasing, ordered.known, ordered.live, ?_⟩
  intro slot apart profile known
  have other : slot ≠ trace.handler.state.activeSlot := apart paired
  exact ordered.kept slot apart profile ((Function.update_of_ne other _ _).symm.trans known)

/-- Once the live counter is saved, the records of all slots are ahead of what was used. -/
theorem Trace.Ordered.records (ordered : trace.Ordered stored)
    (saved : trace.handler.state.paired = true → ∀ profile,
      stored.profile trace.handler.state.activeSlot = some profile →
        profile.aesCounter = trace.handler.state.device.aesCounter)
    {slot : UInt8} {profile : Profile} (known : stored.profile slot = some profile) {use : Use}
    (member : use ∈ trace.used) (same : use.pairing = ⟨slot, trace.epoch slot⟩) :
    use.counter < profile.aesCounter := by
  by_cases active : trace.handler.state.paired = true ∧ slot = trace.handler.state.activeSlot
  · obtain ⟨paired, rfl⟩ := active
    rw [saved paired profile known]
    exact ordered.live paired use member same
  · exact ordered.kept slot (fun paired here => active ⟨paired, here⟩) profile known use member same

/-- After a switch the loaded record is the live counter. -/
theorem Trace.Ordered.switch [Board W] [RustUnifying W] (ordered : trace.Ordered stored)
    (saved : trace.handler.state.paired = true → ∀ profile,
      stored.profile trace.handler.state.activeSlot = some profile →
        profile.aesCounter = trace.handler.state.device.aesCounter)
    {after : Handler W} (linked : after.state.Linked)
    (inside : after.state.activeSlot < maxProfiles)
    (flash : after.flash = saveActiveSlot trace.handler.flash after.state.activeSlot)
    (loaded : ∀ profile, (load after.flash after.state.activeSlot).1 = some profile →
      after.state.device.aesCounter = profile.aesCounter)
    (empty : (load after.flash after.state.activeSlot).1 = none → after.state.paired = false) :
    Trace.Ordered ⟨after, trace.epoch, trace.used⟩
      { stored with active := some after.state.activeSlot } := by
  have refines := ordered.refines.saveActiveSlot inside
  rw [← flash] at refines
  have found := refines.load inside
  refine ⟨refines, linked, inside, ordered.increasing, ordered.known, ?_, ?_⟩
  · intro paired use member same
    cases known : stored.profile after.state.activeSlot with
    | none =>
        have none := empty (by rw [found]; exact known)
        exact absurd (none.symm.trans paired) Bool.false_ne_true
    | some profile =>
        have counter := loaded profile (by rw [found]; exact known)
        dsimp only
        rw [counter]
        exact ordered.records saved known member same
  · intro slot _ profile known use member same
    exact ordered.records saved known member same

/-- A new pairing has used no counter yet. -/
theorem Trace.Ordered.pair (ordered : trace.Ordered stored)
    {after : Handler W} (linked : after.state.Linked) (paired : after.state.paired = true)
    (inside : after.state.activeSlot < maxProfiles)
    (saved : after.state.activeSlot ≠ trace.handler.state.activeSlot →
      trace.handler.state.paired = true → ∀ profile,
      stored.profile trace.handler.state.activeSlot = some profile →
        profile.aesCounter = trace.handler.state.device.aesCounter)
    (flash : after.flash = saveActiveSlot (Storage.save trace.handler.flash after.state.activeSlot
      after.state.currentProfile) after.state.activeSlot) :
    ∃ stored, Trace.Ordered ⟨after, Function.update trace.epoch after.state.activeSlot
      (trace.epoch after.state.activeSlot + 1), trace.used⟩ stored := by
  have refines := (ordered.refines.save inside after.state.currentProfile).saveActiveSlot inside
  rw [← flash] at refines
  refine ⟨_, refines, linked, inside, ordered.increasing, ?_, ?_, ?_⟩
  · intro use member
    refine Nat.le_trans (ordered.known use member) ?_
    by_cases here : use.pairing.slot = after.state.activeSlot
    · rw [here]
      dsimp only
      rw [Function.update_self]
      exact Nat.le_succ _
    · exact Nat.le_of_eq (Function.update_of_ne here _ _).symm
  · intro _ use member same
    have old := ordered.known use member
    rw [same, Trace.current] at old
    dsimp only at old
    rw [Function.update_self] at old
    exact absurd old (Nat.not_succ_le_self _)
  · intro slot apart profile known use member same
    have other : slot ≠ after.state.activeSlot := apart paired
    dsimp only at known same
    rw [Function.update_of_ne other] at known same
    by_cases active : slot = trace.handler.state.activeSlot
    · exact ordered.records (saved (active ▸ other.symm)) known member same
    · exact ordered.kept slot (fun _ => active) profile known use member same

/-- Forgetting records loses no order. -/
theorem Trace.Ordered.delete (ordered : trace.Ordered stored) {after : Handler W}
    {fewer : Pairings} (linked : after.state.Linked) (refines : Refines after.flash fewer)
    (active : after.state.activeSlot = trace.handler.state.activeSlot)
    (paired : after.state.paired = true → trace.handler.state.paired = true ∧
      after.state.device.aesCounter = trace.handler.state.device.aesCounter)
    (subset : ∀ slot profile, fewer.profile slot = some profile →
      stored.profile slot = some profile ∧
        (after.state.paired = true ∨ slot ≠ trace.handler.state.activeSlot ∨
          trace.handler.state.paired = false)) :
    Trace.Ordered ⟨after, trace.epoch, trace.used⟩ fewer := by
  refine ⟨refines, linked, active ▸ ordered.inside, ordered.increasing, ordered.known, ?_, ?_⟩
  · intro isPaired use member same
    obtain ⟨before, counter⟩ := paired isPaired
    dsimp only
    rw [counter]
    refine ordered.live before use member ?_
    rw [same, Trace.current, Trace.current, active]
  · intro slot apart profile known use member same
    obtain ⟨known, why⟩ := subset slot profile known
    refine ordered.kept slot (fun isPaired => ?_) profile known use member same
    rcases why with still | other | unpaired
    · exact active ▸ apart still
    · exact other
    · exact absurd (unpaired.symm.trans isPaired) Bool.false_ne_true

/-- A later epoch of a slot has used no counter. -/
theorem Trace.Ordered.advance (ordered : trace.Ordered stored) (slot : UInt8) :
    Trace.Ordered ⟨trace.handler, Function.update trace.epoch slot (trace.epoch slot + 1),
      trace.used⟩ stored := by
  have sooner (other : UInt8) :
      trace.epoch other ≤ Function.update trace.epoch slot (trace.epoch slot + 1) other := by
    by_cases here : other = slot
    · rw [here, Function.update_self]
      exact Nat.le_succ _
    · exact Nat.le_of_eq (Function.update_of_ne here _ _).symm
  have current {use : Use} {other : UInt8} (member : use ∈ trace.used)
      (same : use.pairing =
        ⟨other, Function.update trace.epoch slot (trace.epoch slot + 1) other⟩) :
      use.pairing = ⟨other, trace.epoch other⟩ := by
    have old := ordered.known use member
    rw [same] at old
    exact same.trans (congrArg (PairingId.mk other) (Nat.le_antisymm old (sooner other)))
  exact ⟨ordered.refines, ordered.linked, ordered.inside, ordered.increasing,
    fun use member => Nat.le_trans (ordered.known use member) (sooner _),
    fun paired use member same => ordered.live paired use member (current member same),
    fun other apart profile known use member same =>
      ordered.kept other apart profile known use member (current member same)⟩

/-- What an action does keeps the order if a pairing that it leaves was saved. -/
theorem Trace.Ordered.effect [Board W] [RustUnifying W] (ordered : trace.Ordered stored)
    {line : List UInt8} {after : Handler W} (linked : after.state.Linked)
    (effect : Effect sent line trace.handler after)
    (fits : trace.handler.state.device.aesCounter.toNat +
      (usedCounters sent trace.handler after).length < 2 ^ 32)
    (saved : ∀ slot ∈ trace.handler.pairedSlot line,
      slot ≠ trace.handler.state.activeSlot → trace.handler.state.paired = true →
        (load trace.handler.flash trace.handler.state.activeSlot).1.map Profile.aesCounter =
          some trace.handler.state.device.aesCounter) :
    ∃ stored, Trace.Ordered ⟨after,
      match trace.handler.pairedSlot line with
      | some slot => Function.update trace.epoch slot (trace.epoch slot + 1)
      | none => trace.epoch,
      trace.used ++ (usedCounters sent trace.handler after).map (Use.mk trace.current)⟩
        stored := by
  have silent (same : sent after.state.device.world = sent trace.handler.state.device.world) :
      trace.used ++ (usedCounters sent trace.handler after).map (Use.mk trace.current) =
        trace.used := by
    rw [usedCounters_eq_nil same]
    exact List.append_nil _
  have epochs (kept : ∃ stored, Trace.Ordered ⟨after, trace.epoch, trace.used ++
      (usedCounters sent trace.handler after).map (Use.mk trace.current)⟩ stored) :
      ∃ stored, Trace.Ordered ⟨after,
        match trace.handler.pairedSlot line with
        | some slot => Function.update trace.epoch slot (trace.epoch slot + 1)
        | none => trace.epoch,
        trace.used ++ (usedCounters sent trace.handler after).map (Use.mk trace.current)⟩
          stored := by
    obtain ⟨stored, kept⟩ := kept
    cases trace.handler.pairedSlot line with
    | none => exact ⟨stored, kept⟩
    | some slot => exact ⟨stored, kept.advance slot⟩
  cases effect with
  | reports count sends connected paired slot flash =>
      rw [sends.usedCounters_length] at fits
      exact epochs ⟨stored, ordered.send sends connected paired slot flash linked fits⟩
  | saved count sends connected paired slot flash =>
      rw [sends.usedCounters_length] at fits
      have unsaved : Trace.Ordered ⟨{ after with flash := trace.handler.flash }, trace.epoch,
          trace.used ++ (usedCounters sent trace.handler after).map (Use.mk trace.current)⟩
          stored :=
        ordered.send sends connected (paired.2.trans paired.1.symm) slot rfl linked fits
      have saves := unsaved.save paired.2
      dsimp only at saves
      rw [Handler.save_before slot flash] at saves
      exact epochs ⟨_, saves⟩
  | unpaired log paired slot flash =>
      refine epochs ⟨stored, ?_⟩
      rw [silent log]
      refine ordered.delete linked (flash ▸ ordered.refines) slot (by simp [paired.2]) ?_
      exact fun slot profile known => ⟨known, .inr (.inr paired.1)⟩
  | paired slot command named pairs log paired active flash =>
      have pairedSlot : trace.handler.pairedSlot line = some slot :=
        (if_pos ⟨command, pairs⟩).trans named
      rw [pairedSlot, silent log]
      subst active
      refine ordered.pair linked paired (UnifyingState.pairSlot_lt ordered.inside named) ?_ flash
      intro other wasPaired profile known
      have record := saved _ pairedSlot other wasPaired
      rw [ordered.refines.load ordered.inside, known] at record
      exact Option.some.inj record
  | switched slot inside other log active loaded empty flash =>
      refine epochs ?_
      rw [silent log]
      subst active
      have loaded (profile : Profile) (found : (load after.flash after.state.activeSlot).1 =
          some profile) := (loaded profile found).2.2.2
      by_cases paired : trace.handler.state.paired = true
      · rw [if_pos paired] at flash
        refine ⟨_, (ordered.save paired).switch (fun _ profile known => ?_) linked inside flash
          loaded empty⟩
        have known := (Function.update_self _ _ _).symm.trans known
        rw [← Option.some.inj known]
        rfl
      · rw [if_neg paired] at flash
        exact ⟨_, ordered.switch (fun isPaired => absurd isPaired paired) linked inside flash
          loaded empty⟩
  | deleted slot inside same paired active flash =>
      have refines := ordered.refines.clearSlot inside
      rw [← flash] at refines
      have kept := ordered.delete linked refines active (fun isPaired => ?_)
        (fun other profile known => ?_)
      · rw [← silent same.sent] at kept
        exact epochs ⟨_, kept⟩
      · rw [paired] at isPaired
        split at isPaired
        · cases isPaired
        · exact ⟨isPaired, same.aesCounter⟩
      · have apart : other ≠ slot := by
          rintro rfl
          cases (Function.update_self _ _ _).symm.trans known
        refine ⟨(Function.update_of_ne apart _ _).symm.trans known, ?_⟩
        by_cases here : other = trace.handler.state.activeSlot
        · subst here
          rw [paired, if_neg apart]
          exact (Bool.eq_false_or_eq_true trace.handler.state.paired).imp_right .inr
        · exact .inr (.inl here)
  | deletedAll same paired active flash =>
      have refines : Refines (clearAll trace.handler.flash) .empty := .clearAll
      rw [← flash] at refines
      have kept := ordered.delete linked refines active (by simp [paired])
        (fun other profile known => ?_)
      · rw [← silent same.sent] at kept
        exact epochs ⟨_, kept⟩
      · cases known

theorem Trace.Ordered.step [Board W] [RustUnifying W] (lawful : RustUnifying.Lawful sent)
    (ordered : trace.Ordered stored) {action : Action}
    (powered : trace.Powered sent buildTime action) (saved : trace.SavedBeforePairing action) :
    ∃ stored, (trace.step sent buildTime action).Ordered stored := by
  obtain ⟨on, fits⟩ := powered
  obtain ⟨linked, effect⟩ := trace.handler.act_effect lawful buildTime on
  have ready : Trace.Ordered ⟨trace.handler.ready, trace.epoch, trace.used⟩ stored :=
    ⟨ordered.refines, ordered.linked, ordered.inside, ordered.increasing, ordered.known,
      ordered.live, ordered.kept⟩
  exact ready.effect (linked ordered.linked) effect fits saved

theorem Trace.Ordered.boot [Board W] [RustUnifying W] (world : W) {flash : Nvmc}
    (refines : Refines flash stored) : ∃ after, (Trace.boot world flash).Ordered after := by
  obtain ⟨⟨after, booted⟩, -⟩ := Handler.Backed.boot world refines
  exact ⟨after, booted.refines, booted.linked, booted.inside, List.Pairwise.nil,
    fun _ member => absurd member List.not_mem_nil,
    fun _ _ member => absurd member List.not_mem_nil,
    fun _ _ _ _ _ member => absurd member List.not_mem_nil⟩

/-- In a powered run the counters of every pairing increase, if `UPAIR` never leaves a pairing
whose live counter is not saved. -/
theorem counters_increase [Board W] [RustUnifying W] (lawful : RustUnifying.Lawful sent)
    (buildTime : Nat) (world : W) {flash : Nvmc} (refines : Refines flash stored)
    (actions : List Action)
    (powered : EveryStep (Trace.step sent buildTime) (Trace.Powered sent buildTime)
      (Trace.boot world flash) actions)
    (saved : EveryStep (Trace.step sent buildTime) Trace.SavedBeforePairing
      (Trace.boot world flash) actions) :
    Always (Trace.step sent buildTime) (fun trace => Increasing trace.used)
      (Trace.boot world flash) actions := by
  have both := powered.and saved
  have always : Always (Trace.step sent buildTime) (fun trace => ∃ stored, trace.Ordered stored)
      (Trace.boot world flash) actions :=
    .of_everyStep (fun trace action ⟨_, ordered⟩ ⟨powered, saved⟩ =>
      ordered.step lawful powered saved) (Trace.Ordered.boot world refines) both
  intro before after split
  obtain ⟨_, ordered⟩ := always before after split
  exact ordered.increasing

end Invariant

instance {W : Type} [Board W] [RustUnifying W] (sent : W → List Transmission) (buildTime : Nat)
    (trace : Trace W) (action : Action) : Decidable (trace.Powered sent buildTime action) :=
  inferInstanceAs (Decidable (_ ∧ _))

instance {W : Type} [Board W] [RustUnifying W] (trace : Trace W) (action : Action) :
    Decidable (trace.SavedBeforePairing action) :=
  inferInstanceAs (Decidable (∀ slot ∈ trace.handler.pairedSlot action.line, _ → _ → _ = _))

theorem counters_increase_saved :
    Always (Trace.step Bench.sent 0) (fun trace => Increasing trace.used)
      (Trace.boot ⟨true, []⟩ erasedChip)
      [.command (ascii "UPAIR"), .command (ascii "UKEY 00 04"), .command (ascii "UPAIR 01"),
        .command (ascii "USWITCH 00"), .command (ascii "UKEYDOWN 00 05")] := by
  refine counters_increase Bench.lawful 0 _ (Refines.erased fun _ _ _ => rfl) _ ?_ ?_ <;>
    simp only [everyStep_cons, everyStep_nil, and_true]
  · decide +kernel
  · decide +kernel

/-- Pair slot 0, type in it, pair slot 1 and come back. -/
def pairElsewhere : List Action :=
  [.command (ascii "UPAIR"), .command (ascii "UKEYDOWN 00 04"), .command (ascii "UPAIR 01"),
    .command (ascii "USWITCH 00"), .command (ascii "UKEYDOWN 00 05")]

/-- Both keystrokes of slot 0 use counter 0. -/
theorem counters_repeat : RustUnifying.Lawful Bench.sent ∧
    ¬∀ actions, EveryStep (Trace.step Bench.sent 0) (Trace.Powered Bench.sent 0)
        (Trace.boot ⟨true, []⟩ erasedChip) actions →
      Always (Trace.step Bench.sent 0) (fun trace => Increasing trace.used)
        (Trace.boot ⟨true, []⟩ erasedChip) actions := by
  refine ⟨Bench.lawful, fun increase => ?_⟩
  have powered : EveryStep (Trace.step Bench.sent 0) (Trace.Powered Bench.sent 0)
      (Trace.boot ⟨true, []⟩ erasedChip) pairElsewhere := by
    simp only [pairElsewhere, everyStep_cons, everyStep_nil, and_true]
    decide +kernel
  have last : Increasing (pairElsewhere.foldl (Trace.step Bench.sent 0)
      (Trace.boot ⟨true, []⟩ erasedChip)).used := increase pairElsewhere powered _ [] rfl
  have used : (pairElsewhere.foldl (Trace.step Bench.sent 0)
      (Trace.boot ⟨true, []⟩ erasedChip)).used = [⟨⟨0, 1⟩, 0⟩, ⟨⟨0, 1⟩, 0⟩] := by
    decide +kernel
  rw [used] at last
  exact absurd last (by decide)

end NrfUnifying.Radio
