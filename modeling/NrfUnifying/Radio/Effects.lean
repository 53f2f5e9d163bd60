import NrfUnifying.Radio.Replies

/-!
# What a command can do to the pairings

`Effect` lists the ways in which a command changes the device's pairing, the
transmitted keystrokes and the flash; every command takes one of them, and sends
at most the keystrokes that its line allows.
-/

namespace NrfUnifying.Radio

open Lib.Bytes Storage

variable {W : Type} [Board W] [RustUnifying W]

def isPair (line : List UInt8) : Prop := line = ascii "UPAIR" ∨ (ascii "UPAIR ").isPrefixOf line

instance (line : List UInt8) : Decidable (isPair line) := inferInstanceAs (Decidable (_ ∨ _))

/-- The radio can be configured and a receiver answers within eight attempts. -/
def UnifyingState.pairs (state : UnifyingState W) : Bool :=
  let (id, device) := state.device.now
  let (crypto, device) := device.now
  let (configured, device) := RustUnifying.configureRadio device
  configured && (pairAttempts (pairingParams id crypto) 8 device).1

/-- A connected state is paired. -/
def UnifyingState.Linked (state : UnifyingState W) : Prop :=
  state.connected = true → state.paired = true

omit [Board W] [RustUnifying W] in
theorem UnifyingState.Linked.of_disconnected {state : UnifyingState W}
    (disconnected : state.connected = false) : state.Linked := by
  intro connected
  rw [disconnected] at connected
  cases connected

omit [Board W] [RustUnifying W] in
theorem UnifyingState.Linked.disconnected {state : UnifyingState W} (linked : state.Linked)
    (unpaired : state.paired = false) : state.connected = false :=
  Bool.eq_false_iff.mpr fun connected =>
    absurd (unpaired.symm.trans (linked connected)) Bool.false_ne_true

/-- The parameters of a pairing, and the device once the time was read for them. -/
def UnifyingState.request (state : UnifyingState W) : PairingParams × Device W :=
  let (id, device) := state.device.now
  let (crypto, device) := device.now
  (pairingParams id crypto, device)

/-- The old pairing on the device that failed attempts have left behind. -/
def UnifyingState.restored (state : UnifyingState W) (device : Device W) : UnifyingState W :=
  ({ state with device } : UnifyingState W).applyProfile state.currentProfile

/-- What a failed pairing makes of a state. -/
def UnifyingState.failPair (state : UnifyingState W) (device : Device W) : UnifyingState W :=
  if state.paired then
    if state.connected then
      { state.restored device with
        device := (RustUnifying.configureRadio (state.restored device).device).2
        connected := (RustUnifying.configureRadio (state.restored device).device).1 }
    else state.restored device
  else { state with device }

/-- How `UPAIR` ends. -/
inductive PairEnds (handler : Handler W) (line : List UInt8) : Option (Handler W) → Prop where
  | slot (refused : handler.state.pairSlot line = none) :
      PairEnds handler line (some (handler.write (ascii "ERR SLOT\r\n")))
  | radio (slot : UInt8) (device : Device W) (named : handler.state.pairSlot line = some slot)
      (failed : RustUnifying.configureRadio handler.state.request.2 = (false, device)) :
      PairEnds handler line (some ((handler.setDevice device).write (ascii "ERR RADIO\r\n")))
  | failed (slot : UInt8) (ready device : Device W)
      (named : handler.state.pairSlot line = some slot)
      (configures : RustUnifying.configureRadio handler.state.request.2 = (true, ready))
      (attempts : pairAttempts handler.state.request.1 8 ready = (false, device)) :
      PairEnds handler line (some
        (({ handler with state := handler.state.failPair device } : Handler W).write
          (ascii "ERR PAIR\r\n")))
  | paired (slot : UInt8) (ready device : Device W)
      (named : handler.state.pairSlot line = some slot)
      (configures : RustUnifying.configureRadio handler.state.request.2 = (true, ready))
      (attempts : pairAttempts handler.state.request.1 8 ready = (true, device)) :
      PairEnds handler line (some
        (({ handler with
            state := { handler.state with
              device, paired := true, connected := true, linkUp := true, activeSlot := slot }
            flash := saveActiveSlot (save handler.flash slot
              ⟨device.address, device.aesKey, device.aesCounter, device.channel⟩) slot } :
          Handler W).write
          (ascii "PAIRED " ++ device.address.toList.flatMap hexDigits ++ ascii " CH=" ++
            numeral device.channel.toUInt32 ++ ascii "\r\n")))

/-- The ways in which a command changes pairing, transmissions and flash. -/
inductive Effect (sent : W → List Transmission) (line : List UInt8) (before after : Handler W) :
    Prop where
  /-- Keystrokes went out, if any. -/
  | reports (count : Nat) (sends : Sends sent before.state.device after.state.device count)
      (connected : 0 < count → before.state.connected = true)
      (paired : after.state.paired = before.state.paired)
      (slot : after.state.activeSlot = before.state.activeSlot)
      (flash : after.flash = before.flash)
  /-- Then the profile was saved in the active slot. -/
  | saved (count : Nat) (sends : Sends sent before.state.device after.state.device count)
      (connected : 0 < count → before.state.connected = true)
      (paired : before.state.paired = true ∧ after.state.paired = true)
      (slot : after.state.activeSlot = before.state.activeSlot)
      (flash : after.flash =
        save before.flash before.state.activeSlot after.state.currentProfile)
  /-- A pairing attempt failed while nothing was paired. -/
  | unpaired (sent : sent after.state.device.world = sent before.state.device.world)
      (paired : before.state.paired = false ∧ after.state.paired = false)
      (slot : after.state.activeSlot = before.state.activeSlot)
      (flash : after.flash = before.flash)
  | paired (slot : UInt8) (command : isPair line) (named : before.state.pairSlot line = some slot)
      (pairs : before.state.pairs = true)
      (sent : sent after.state.device.world = sent before.state.device.world)
      (paired : after.state.paired = true) (active : after.state.activeSlot = slot)
      (flash : after.flash =
        saveActiveSlot (save before.flash slot after.state.currentProfile) slot)
  | switched (slot : UInt8) (inside : slot < maxProfiles) (other : slot ≠ before.state.activeSlot)
      (sent : sent after.state.device.world = sent before.state.device.world)
      (active : after.state.activeSlot = slot)
      (loaded : ∀ profile, (load after.flash slot).1 = some profile →
        after.state.paired = true ∧ after.state.device.address = profile.address ∧
          after.state.device.aesKey = profile.aesKey ∧
          after.state.device.aesCounter = profile.aesCounter)
      (empty : (load after.flash slot).1 = none → after.state.paired = false)
      (flash : after.flash = saveActiveSlot (if before.state.paired then
        save before.flash before.state.activeSlot before.state.currentProfile
        else before.flash) slot)
  | deleted (slot : UInt8) (inside : slot < maxProfiles)
      (silent : Silent sent before.state.device after.state.device)
      (paired : after.state.paired =
        if before.state.activeSlot = slot then false else before.state.paired)
      (active : after.state.activeSlot = before.state.activeSlot)
      (flash : after.flash = clearSlot before.flash slot)
  | deletedAll (silent : Silent sent before.state.device after.state.device)
      (paired : after.state.paired = false)
      (active : after.state.activeSlot = before.state.activeSlot)
      (flash : after.flash = clearAll before.flash)

/-- How many keystrokes went out between two states of the worker. -/
def transmitted (sent : W → List Transmission) (before after : Handler W) : Nat :=
  (sent after.state.device.world).length - (sent before.state.device.world).length

/-- A command comes to its end, keeps a connected state paired, sends at most `most` keystrokes and
has one of the effects. -/
def Handles (sent : W → List Transmission) (line : List UInt8) (most : Nat) (before : Handler W)
    (result : Option (Handler W)) : Prop :=
  ∃ after, result = some after ∧ (before.state.Linked → after.state.Linked) ∧
    UpTo W most (transmitted sent before after) ∧ Effect sent line before after

omit [Board W] [RustUnifying W] in
theorem Sends.transmitted {sent : W → List Transmission} {before after : Handler W} {count : Nat}
    (sends : Sends sent before.state.device after.state.device count) :
    transmitted sent before after = count := by
  rw [Radio.transmitted, sends.sent]
  simp

omit [Board W] in
/-- A command that sends nothing. -/
theorem UpTo.of_sent {sent : W → List Transmission} {before after : Handler W}
    (same : sent after.state.device.world = sent before.state.device.world) :
    UpTo W 0 (transmitted sent before after) := by
  rw [transmitted, same, Nat.sub_self]
  exact .zero

omit [Board W] [RustUnifying W] in
/-- Over the flash as it was before, saving the profile gives the state after. -/
theorem Handler.save_before {before after : Handler W}
    (slot : after.state.activeSlot = before.state.activeSlot)
    (flash : after.flash =
      Storage.save before.flash before.state.activeSlot after.state.currentProfile) :
    ({ after with flash := before.flash } : Handler W).save = after := by
  rw [Handler.save]
  dsimp only
  rw [slot, ← flash]

section Commands

variable {sent : W → List Transmission} {line : List UInt8}

/-- A command that only works on the device, without a keystroke. -/
theorem Effect.silent {before after : Handler W}
    (silent : Silent sent before.state.device after.state.device)
    (paired : after.state.paired = before.state.paired)
    (slot : after.state.activeSlot = before.state.activeSlot)
    (flash : after.flash = before.flash) : Effect sent line before after :=
  .reports 0 silent.sends (fun positive => absurd positive (Nat.lt_irrefl 0)) paired slot flash

/-- A command that only replies. -/
theorem Handles.write (handler : Handler W) (data : List UInt8) :
    Handles sent line 0 handler (some (handler.write data)) :=
  ⟨_, rfl, id, .of_sent rfl, .silent (.refl _) rfl rfl rfl⟩

/-- A command that fails after work on the device. -/
theorem Handles.setDevice {handler : Handler W} {device : Device W}
    (silent : Silent sent handler.state.device device) (data : List UInt8) :
    Handles sent line 0 handler (some ((handler.setDevice device).write data)) :=
  ⟨_, rfl, id, .of_sent silent.sent, .silent silent rfl rfl rfl⟩

omit [Board W] [RustUnifying W] in
theorem writeOut_state {handler after : Handler W} {written : Written}
    (done : handler.writeOut written = some after) : after.state = handler.state := by
  obtain ⟨⟨out, length⟩, -, taken⟩ := Option.bind_eq_some_iff.mp done
  dsimp only at taken
  split at taken
  · obtain rfl := Option.some.inj taken
    rfl
  · cases taken

theorem UnifyingState.pairs_eq (state : UnifyingState W) :
    state.pairs = ((RustUnifying.configureRadio state.request.2).1 &&
      (pairAttempts state.request.1 8 (RustUnifying.configureRadio state.request.2).2).1) := rfl

theorem Handler.upair_ends (handler : Handler W) (line : List UInt8) :
    PairEnds handler line (handler.upair line) := by
  unfold Handler.upair
  cases named : handler.state.pairSlot line with
  | none => exact .slot named
  | some slot =>
      unfold Handler.pairInto
      cases configures : RustUnifying.configureRadio handler.state.request.2 with
      | mk done ready =>
      have configures' := configures
      unfold UnifyingState.request at configures'
      dsimp only at configures' ⊢
      rw [configures']
      cases done with
      | false => exact .radio slot ready named configures
      | true =>
          cases attempts : pairAttempts handler.state.request.1 8 ready with
          | mk done device =>
          have attempts' := attempts
          unfold UnifyingState.request at attempts'
          dsimp only at attempts' ⊢
          rw [attempts']
          cases done with
          | true =>
              dsimp only
              rw [writeOut_of_wrote (formatPaired_wrote _ _)]
              exact .paired slot ready device named configures attempts
          | false =>
              have failed := PairEnds.failed slot ready device named configures attempts
              unfold UnifyingState.failPair at failed
              by_cases paired : handler.state.paired = true
              · simp only [if_pos paired] at failed ⊢
                by_cases connected : handler.state.connected = true
                · simp only [if_pos connected] at failed ⊢
                  exact failed
                · simp only [if_neg connected] at failed ⊢
                  exact failed
              · simp only [if_neg paired] at failed ⊢
                exact failed

section SelfTest

/-- Whatever attempts on air and waits do to the world, any number of them. -/
structure Passes (leads : W → W → Prop) : Prop where
  refl : ∀ world, leads world world
  trans : ∀ {first second third}, leads first second → leads second third → leads first third
  attempt : ∀ (world : W) radio, leads world (Board.attempt world radio).2
  delay : ∀ (world : W) time, leads world (Board.delay world time)

omit [RustUnifying W] in
/-- What neither an attempt nor a wait changes. -/
theorem Passes.unseen {α : Type} {seen : W → α}
    (attempt : ∀ (world : W) radio, seen (Board.attempt world radio).2 = seen world)
    (delay : ∀ (world : W) time, seen (Board.delay world time) = seen world) :
    Passes fun before after : W => seen after = seen before :=
  ⟨fun _ => rfl, fun first second => second.trans first, attempt, delay⟩

/-- Between the two devices the radio was used, and nothing but the world has changed with it. -/
def Probed (leads : W → W → Prop) (before after : Device W) : Prop :=
  ∃ radio world, after = { before with radio, world } ∧ leads before.world world

variable {leads : W → W → Prop} (passes : Passes leads)

include passes

omit [RustUnifying W] in
theorem Probed.refl (device : Device W) : Probed leads device device :=
  ⟨device.radio, device.world, rfl, passes.refl _⟩

omit [RustUnifying W] in
theorem Probed.trans {first second third : Device W} (front : Probed leads first second)
    (back : Probed leads second third) : Probed leads first third := by
  obtain ⟨_, _, rfl, led⟩ := front
  obtain ⟨radio, world, rfl, on⟩ := back
  exact ⟨radio, world, rfl, passes.trans led on⟩

omit [RustUnifying W] in
theorem Probed.probeOnce (device : Device W) (radio : EsbRadio) (payload : List UInt8) :
    Probed leads device { device with
      radio := (radio.probeOnce payload device.world).2.1
      world := (radio.probeOnce payload device.world).2.2 } := by
  refine ⟨_, _, rfl, ?_⟩
  have led := passes.attempt device.world (radio.frame payload)
  simp only [EsbRadio.probeOnce, EsbRadio.txOnce]
  split
  · exact led
  · split <;> exact led

omit [RustUnifying W] in
theorem Probed.sweepChannels (channels : List UInt8) (acks : UInt32) (device : Device W) :
    Probed leads device (sweepChannels channels acks device).2 := by
  induction channels generalizing acks device with
  | nil => exact .refl passes device
  | cons channel rest ih =>
      exact Probed.trans passes (Probed.probeOnce passes device _ _) (ih _ _)

theorem Probed.sweeps (count : Nat) (acks : UInt32) (device : Device W) :
    Probed leads device (sweeps count acks device).2 := by
  induction count generalizing acks device with
  | zero => exact .refl passes device
  | succ count ih =>
      have swept := Probed.sweepChannels passes (RustUnifying.pairingChannels W) acks device
      have waited (device : Device W) : Probed leads device (device.delay 2000) :=
        ⟨_, _, rfl, passes.delay _ 2000⟩
      exact Probed.trans passes (Probed.trans passes swept (waited _)) (ih _ _)

/-- The self-test uses the radio and leaves everything but the device alone. -/
theorem Handler.testEncodings_probed (handler : Handler W) (encodings : List UInt8) :
    ∃ after, encodings.foldlM Handler.testEncoding handler = some after ∧
      Probed leads handler.state.device after.state.device ∧
      after.state = { handler.state with device := after.state.device } ∧
      after.flash = handler.flash := by
  induction encodings generalizing handler with
  | nil => exact ⟨handler, rfl, .refl passes _, rfl, rfl⟩
  | cons encoding rest ih =>
      have swept := Probed.sweeps passes 3 0 { handler.state.device with
        radio := (handler.state.device.radio.setAddrEncoding encoding).setAddress
          (RustUnifying.pairingAddress W) }
      have set : Probed leads handler.state.device { handler.state.device with
          radio := (handler.state.device.radio.setAddrEncoding encoding).setAddress
            (RustUnifying.pairingAddress W) } := ⟨_, _, rfl, passes.refl _⟩
      rw [List.foldlM_cons, Handler.testEncoding]
      dsimp only
      rw [writeOut_of_wrote (formatRadiotest_wrote _ _)]
      obtain ⟨after, others, probed, state, flash⟩ := ih _
      exact ⟨after, others, Probed.trans passes (Probed.trans passes set swept) probed, state,
        flash⟩

end SelfTest

variable (lawful : RustUnifying.Lawful sent) (handler : Handler W)

include lawful

theorem Silent.ticks (count : Nat) (device : Device W) :
    Silent sent device (ticks count device) := by
  induction count generalizing device with
  | zero => exact .refl device
  | succ count ih => exact (lawful.tick_silent device).trans (ih _)

theorem Silent.connectAttempts (attempts : Nat) (device : Device W) :
    Silent sent device (connectAttempts attempts device).2 := by
  induction attempts generalizing device with
  | zero => exact .refl device
  | succ attempts ih =>
      have once := lawful.connect_silent device
      rw [Radio.connectAttempts]
      generalize RustUnifying.connect device = result at once
      obtain ⟨done, after⟩ := result
      cases done with
      | true => exact once
      | false => exact (once.trans (.delay lawful _ 20000)).trans (ih _)

/-- Pairing sends no keystroke. -/
theorem pairAttempts_sent (params : PairingParams) (attempts : Nat) (device : Device W) :
    sent (pairAttempts params attempts device).2.world = sent device.world := by
  induction attempts generalizing device with
  | zero => rfl
  | succ attempts ih =>
      have once := lawful.pair_sent device params
      rw [Radio.pairAttempts]
      generalize RustUnifying.pair device params = result at once
      obtain ⟨done, after⟩ := result
      cases done with
      | true => exact once
      | false =>
          refine (ih (after.delay 20000)).trans ?_
          exact (Silent.delay lawful after 20000).sent.trans once

/-- Reading the time for the parameters of a pairing is silent. -/
theorem Silent.request (state : UnifyingState W) :
    Silent sent state.device state.request.2 :=
  (Silent.now lawful state.device).trans (.now lawful _)

theorem Silent.wake (state : UnifyingState W) : Silent sent state.device state.wake.device := by
  obtain ⟨address, aesKey, aesCounter, log⟩ := Silent.now lawful state.device
  exact ⟨address, aesKey, aesCounter, log⟩

/-! ## Each command -/

/-- Between the two only the device has changed, and it has sent nothing. -/
structure Tested (sent : W → List Transmission) (before after : Handler W) : Prop where
  silent : Silent sent before.state.device after.state.device
  state : after.state = { before.state with device := after.state.device }
  flash : after.flash = before.flash

theorem Handler.testEncodings_tested (encodings : List UInt8) :
    ∃ after, encodings.foldlM Handler.testEncoding handler = some after ∧
      Tested sent handler after := by
  obtain ⟨after, all, probed, state, flash⟩ :=
    handler.testEncodings_probed (.unseen lawful.attempt_sent lawful.delay_sent) encodings
  obtain ⟨radio, world, device, log⟩ := probed
  refine ⟨after, all, ⟨?_, ?_, ?_, ?_⟩, state, flash⟩
  · rw [device]
  · rw [device]
  · rw [device]
  · rw [device]
    exact log

theorem Handler.uradiotest_handles : Handles sent line 0 handler handler.uradiotest := by
  have configured := lawful.configureRadio_silent handler.state.device
  rw [Handler.uradiotest]
  generalize RustUnifying.configureRadio handler.state.device = result at configured
  obtain ⟨done, device⟩ := result
  cases done with
  | false => exact .setDevice configured _
  | true =>
      obtain ⟨after, all, tested⟩ :=
        (handler.setDevice device).testEncodings_tested lawful addrEncodings
      dsimp only
      rw [all]
      have state := tested.state
      refine ⟨_, rfl, fun linked => ?_, .of_sent (configured.trans tested.silent).sent,
        .silent (configured.trans tested.silent) ?_ ?_ tested.flash⟩
      · change after.state.Linked
        rw [state]
        exact linked
      · change after.state.paired = _
        rw [state]
        rfl
      · change after.state.activeSlot = _
        rw [state]
        rfl

theorem Handler.uconnect_handles : Handles sent line 0 handler handler.uconnect := by
  have configured := lawful.configureRadio_silent handler.state.device
  rw [Handler.uconnect]
  split
  · exact .write _ _
  next paired =>
    generalize RustUnifying.configureRadio handler.state.device = result at configured
    obtain ⟨done, device⟩ := result
    cases done with
    | false => exact .setDevice configured _
    | true =>
        have attempts := Silent.connectAttempts lawful 60 device
        dsimp only
        generalize connectAttempts 60 device = result at attempts
        obtain ⟨done, after⟩ := result
        cases done with
        | false => exact .setDevice (configured.trans attempts) _
        | true =>
            dsimp only
            rw [writeOut_of_wrote (formatConnected_wrote _)]
            have silent := configured.trans attempts
            refine ⟨_, rfl, fun _ _ => ?_, .of_sent silent.sent, .silent silent rfl rfl rfl⟩
            change handler.state.paired = true
            simpa using paired

theorem Handler.ukeepalive_handles : Handles sent line 0 handler (some handler.ukeepalive) := by
  rw [Handler.ukeepalive]
  split
  · exact .write _ _
  · exact .setDevice (lawful.tick_silent _) _

theorem Handler.usleep_handles : Handles sent line 0 handler (some handler.usleep) := by
  have silent : Silent sent handler.state.device { handler.state.device with
      world := Board.disableRadio handler.state.device.world } :=
    ⟨rfl, rfl, rfl, lawful.disableRadio_sent _⟩
  rw [Handler.usleep]
  by_cases connected : handler.state.connected = true
  · rw [if_pos connected, Handler.saveIfPaired]
    dsimp only
    by_cases paired : handler.state.paired = true
    · rw [if_pos paired]
      exact ⟨_, rfl, fun _ => .of_disconnected rfl, .of_sent silent.sent,
        .saved 0 silent.sends (fun positive => absurd positive (Nat.lt_irrefl 0)) ⟨paired, paired⟩
          rfl rfl⟩
    · rw [if_neg paired]
      exact ⟨_, rfl, fun _ => .of_disconnected rfl, .of_sent silent.sent,
        .silent silent rfl rfl rfl⟩
  · rw [if_neg connected]
    exact .write _ _

omit lawful in
theorem Handler.udelete_handles : Handles sent line 0 handler (some (handler.udelete line)) := by
  rw [Handler.udelete]
  split
  · split
    next slot named =>
      have inside : slot < maxProfiles := by
        simpa using (Option.mem_filter_iff.mp named).2
      refine ⟨_, rfl, fun linked connected => ?_, .of_sent ?_, .deleted slot inside ?_ ?_ ?_ rfl⟩
      · revert connected
        dsimp only [Handler.write]
        split
        · intro connected
          cases connected
        · exact linked
      · dsimp only [Handler.write]
        split <;> rfl
      · dsimp only [Handler.write]
        split <;> exact .refl _
      · dsimp only [Handler.write]
        split <;> rfl
      · dsimp only [Handler.write]
        split <;> rfl
    · exact .write _ _
  · exact ⟨_, rfl, fun _ => .of_disconnected rfl, .of_sent rfl, .deletedAll (.refl _) rfl rfl rfl⟩

theorem Handler.upair_handles (command : isPair line) :
    Handles sent line 0 handler (handler.upair line) := by
  have asked := Silent.request lawful handler.state
  have configured := asked.trans (lawful.configureRadio_silent handler.state.request.2)
  have ends := handler.upair_ends line
  generalize handler.upair line = result at ends
  cases ends with
  | slot _ => exact .write _ _
  | radio slot device named failed =>
      rw [failed] at configured
      exact .setDevice configured _
  | failed slot ready device named configures attempts =>
      rw [configures] at configured
      have tried := pairAttempts_sent lawful handler.state.request.1 8 ready
      rw [attempts] at tried
      have log := tried.trans configured.sent
      by_cases paired : handler.state.paired = true
      · have restored : Silent sent handler.state.device
            (handler.state.restored device).device := ⟨rfl, rfl, rfl, log⟩
        unfold UnifyingState.failPair
        rw [if_pos paired]
        by_cases connected : handler.state.connected = true
        · rw [if_pos connected]
          have silent := restored.trans (lawful.configureRadio_silent _)
          exact ⟨_, rfl, fun _ _ => rfl, .of_sent silent.sent,
            .silent silent paired.symm rfl rfl⟩
        · rw [if_neg connected]
          exact ⟨_, rfl, fun _ => .of_disconnected rfl, .of_sent log,
            .silent restored paired.symm rfl rfl⟩
      · unfold UnifyingState.failPair
        rw [if_neg paired]
        rw [Bool.not_eq_true] at paired
        exact ⟨_, rfl, fun linked => linked, .of_sent log, .unpaired log ⟨paired, paired⟩ rfl rfl⟩
  | paired slot ready device named configures attempts =>
      rw [configures] at configured
      have tried := pairAttempts_sent lawful handler.state.request.1 8 ready
      rw [attempts] at tried
      have pairs : handler.state.pairs = true := by
        rw [UnifyingState.pairs_eq, configures, attempts]
        rfl
      have log := tried.trans configured.sent
      exact ⟨_, rfl, fun _ _ => rfl, .of_sent log,
        .paired slot command named pairs log rfl rfl rfl⟩

theorem Handler.uswitch_handles (rest : List UInt8) :
    Handles sent line 0 handler (handler.uswitch rest) := by
  rw [Handler.uswitch]
  cases named : (parseU8Hex rest).filter (· < maxProfiles) with
  | none => exact .write _ _
  | some slot =>
      have inside : slot < maxProfiles := by
        simpa using (Option.mem_filter_iff.mp named).2
      dsimp only
      rw [Handler.switchInto, UnifyingState.switchTo]
      by_cases same : slot = handler.state.activeSlot
      · rw [if_pos same]
        cases paired : handler.state.paired with
        | true =>
            have configured := lawful.configureRadio_silent handler.state.device
            dsimp only
            generalize RustUnifying.configureRadio handler.state.device = result at configured
            obtain ⟨done, device⟩ := result
            cases done with
            | true =>
                dsimp only
                rw [writeOut_of_wrote (formatSwitched_wrote _ _)]
                exact ⟨_, rfl, fun _ _ => paired, .of_sent configured.sent,
                  .silent configured rfl rfl rfl⟩
            | false =>
                exact ⟨_, rfl, id, .of_sent configured.sent, .silent configured rfl rfl rfl⟩
        | false =>
            dsimp only
            rw [writeOut_of_wrote (formatSwitchedEmpty_wrote _)]
            exact .write _ _
      · rw [if_neg same]
        dsimp only
        generalize switched : saveActiveSlot (if handler.state.paired then
          Storage.save handler.flash handler.state.activeSlot handler.state.currentProfile
          else handler.flash) slot = flash
        have kept := load_flash flash slot
        cases loaded : load flash slot with
        | mk found after =>
        rw [loaded] at kept
        obtain rfl : after = flash := kept
        have first : (load after slot).1 = found := by rw [loaded]
        cases found with
        | none =>
            dsimp only
            rw [writeOut_of_wrote (formatSwitchedEmpty_wrote _)]
            refine ⟨_, rfl, fun _ => .of_disconnected rfl, .of_sent rfl,
              .switched slot inside same rfl rfl (fun profile found => ?_) (fun _ => rfl)
                switched.symm⟩
            exact absurd (first.symm.trans found) (by simp)
        | some profile =>
            have configured := lawful.configureRadio_silent
              (({ handler.state with connected := false, linkUp := false, activeSlot := slot } :
                UnifyingState W).applyProfile profile).device
            have found (other : Profile) (same : (load after slot).1 = some other) :
                profile = other := Option.some.inj (first.symm.trans same)
            dsimp only at configured ⊢
            generalize RustUnifying.configureRadio (W := W) _ = result at configured
            obtain ⟨done, device⟩ := result
            cases done with
            | true =>
                dsimp only
                rw [writeOut_of_wrote (formatSwitched_wrote _ _)]
                refine ⟨_, rfl, fun _ _ => rfl, .of_sent configured.sent,
                  .switched slot inside same configured.sent rfl
                    (fun other same => ?_) (fun none => ?_) switched.symm⟩
                · obtain rfl := found other same
                  exact ⟨rfl, configured.address, configured.aesKey, configured.aesCounter⟩
                · exact absurd (first.symm.trans none) (by simp)
            | false =>
                refine ⟨_, rfl, fun _ => .of_disconnected rfl, .of_sent configured.sent,
                  .switched slot inside same configured.sent rfl
                    (fun other same => ?_) (fun none => ?_) switched.symm⟩
                · obtain rfl := found other same
                  exact ⟨rfl, configured.address, configured.aesKey, configured.aesCounter⟩
                · exact absurd (first.symm.trans none) (by simp)

omit lawful in
omit [Board W] [RustUnifying W] in
theorem Handler.saveIfPaired_write (data : List UInt8) :
    handler.saveIfPaired.write data = (handler.write data).saveIfPaired := by
  by_cases paired : handler.state.paired = true
  · rw [Handler.saveIfPaired, if_pos paired, Handler.saveIfPaired, if_pos (by exact paired)]
    rfl
  · rw [Handler.saveIfPaired, if_neg paired, Handler.saveIfPaired, if_neg (by exact paired)]

omit lawful in
/-- A report command that saves the profile afterwards, if there is one. -/
theorem Handles.reported (state : UnifyingState W) {most count : Nat}
    (connected : handler.state.connected = true) (upTo : UpTo W most count)
    (sends : Sends sent handler.state.device state.device count)
    (link : state.connected = handler.state.connected)
    (paired : state.paired = handler.state.paired)
    (slot : state.activeSlot = handler.state.activeSlot) (persist : Bool) (data : List UInt8) :
    Handles sent line most handler (some
      ((if persist then { handler with state }.saveIfPaired else { handler with state }).write
        data)) := by
  have linked (valid : handler.state.Linked) : state.Linked := by
    intro still
    rw [paired]
    exact valid (link ▸ still)
  have bounded {after : Handler W} (device : after.state.device = state.device) :
      UpTo W most (transmitted sent handler after) := by
    rw [Sends.transmitted (device ▸ sends)]
    exact upTo
  cases persist with
  | false =>
      exact ⟨_, rfl, linked, bounded rfl, .reports count sends (fun _ => connected) paired slot rfl⟩
  | true =>
      rw [if_pos rfl, Handler.saveIfPaired]
      by_cases isPaired : state.paired = true
      · rw [if_pos isPaired]
        exact ⟨_, rfl, linked, bounded rfl, .saved count sends (fun _ => connected)
          ⟨paired.symm.trans isPaired, isPaired⟩ slot (by rw [← slot]; rfl)⟩
      · rw [if_neg isPaired]
        exact ⟨_, rfl, linked, bounded rfl,
          .reports count sends (fun _ => connected) paired slot rfl⟩

theorem Handler.ukey_handles (rest : List UInt8) :
    Handles sent line (if handler.state.connected ∧ (parseReport rest).isSome then 40 else 0)
      handler (some (handler.ukey rest)) := by
  have woken := Silent.wake lawful handler.state
  rw [Handler.ukey]
  by_cases connected : handler.state.connected = true
  · have up : ¬handler.state.connected = false := by simp [connected]
    rw [if_neg up]
    dsimp only
    cases parsed : parseReport rest with
    | none =>
        rw [if_neg fun both => Bool.false_ne_true both.2]
        exact ⟨_, rfl, id, .of_sent woken.sent, .silent woken rfl rfl rfl⟩
    | some report =>
        obtain ⟨modifier, keys⟩ := report
        have ready := (woken.trans (Silent.ticks lawful 5 _)).sends
        obtain ⟨count, upTo, report⟩ := Sends.sendKeyReport lawful
          (ticks 5 handler.state.wake.device) keys modifier
        rw [if_pos ⟨connected, rfl⟩]
        exact Handles.reported handler { handler.state.wake with
          device := (sendKeyReport (ticks 5 handler.state.wake.device) keys modifier).2 }
          connected (UpTo.zero.add upTo) (ready.trans report) rfl rfl rfl true _
  · have down : handler.state.connected = false := by simpa using connected
    rw [if_pos down, if_neg fun both => connected both.1]
    exact .write _ _

theorem Handler.ukeydown_handles (rest : List UInt8) :
    Handles sent line (if handler.state.connected ∧ (parseReport rest).isSome then
        if handler.state.linkUp then 3 else 1 else 0)
      handler (some (handler.ukeydown rest)) := by
  have woken := Silent.wake lawful handler.state
  rw [Handler.ukeydown]
  by_cases connected : handler.state.connected = true
  · have up : ¬handler.state.connected = false := by simp [connected]
    rw [if_neg up]
    dsimp only
    cases parsed : parseReport rest with
    | none =>
        rw [if_neg fun both => Bool.false_ne_true both.2]
        exact ⟨_, rfl, id, .of_sent woken.sent, .silent woken rfl rfl rfl⟩
    | some report =>
        obtain ⟨modifier, keys⟩ := report
        obtain ⟨count, upTo, report⟩ := Sends.probe lawful keys modifier
          (if handler.state.wake.linkUp then 3 else 1) handler.state.wake.device
        rw [if_pos ⟨connected, rfl⟩]
        have reported := @Handles.reported W _ _ sent line handler
          (sendReport handler.state.wake keys modifier).2 _ _
          connected (UpTo.zero.add upTo) (woken.sends.trans report) rfl rfl rfl
          (decide ((sendReport handler.state.wake keys modifier).2.device.aesCounter &&& 0x7F = 0))
          (sendReply (sendReport handler.state.wake keys modifier).1)
        simp only [decide_eq_true_eq, Nat.zero_add] at reported
        exact reported
  · have down : handler.state.connected = false := by simpa using connected
    rw [if_pos down, if_neg fun both => connected both.1]
    exact .write _ _

/-- The characters of a text that have a key. -/
def typable (text : List UInt8) : Nat := text.countP fun c => (charToHid c).isSome

theorem Sends.typeText (text : List UInt8) (ok total : UInt32) (device : Device W) :
    ∃ count, UpTo W (40 * typable text) count ∧
      Sends sent device (typeText text ok total device).2.2 count := by
  induction text generalizing ok total device with
  | nil => exact ⟨0, .zero, (Silent.refl device).sends⟩
  | cons c rest ih =>
      unfold typable at ih ⊢
      rw [Radio.typeText]
      cases key : charToHid c with
      | none =>
          obtain ⟨count, upTo, sends⟩ := ih ok total (device.delay 15000)
          refine ⟨0 + count, ?_, (Silent.delay lawful device 15000).sends.trans sends⟩
          rw [List.countP_cons_of_neg (by simp [key]), Nat.zero_add]
          exact upTo
      | some key' =>
          obtain ⟨typed, few, press⟩ := Sends.typeChar lawful device key
          obtain ⟨count, upTo, sends⟩ := ih (if (Radio.typeChar device c).1 then ok + 1 else ok)
            (total + 1) ((Radio.typeChar device c).2.delay 15000)
          refine ⟨typed + 0 + count, ?_,
            (press.trans (Silent.delay lawful _ 15000).sends).trans sends⟩
          rw [List.countP_cons_of_pos (by simp [key]), Nat.mul_succ, Nat.add_comm (40 * _)]
          exact few.add upTo

theorem Handler.utype_handles (text : List UInt8) :
    Handles sent line (if handler.state.connected then 40 * typable text else 0) handler
      (handler.utype text) := by
  have woken := Silent.wake lawful handler.state
  rw [Handler.utype]
  by_cases connected : handler.state.connected = true
  · have up : ¬handler.state.connected = false := by simp [connected]
    rw [if_neg up, if_pos connected]
    dsimp only
    rw [writeOut_of_wrote (formatTyped_wrote _ _)]
    have ready := (woken.trans (Silent.ticks lawful 5 _)).sends
    obtain ⟨count, upTo, typed⟩ :=
      Sends.typeText lawful text 0 0 (ticks 5 handler.state.wake.device)
    have reported := @Handles.reported W _ _ sent line handler
      { handler.state.wake with
        device := (typeText text 0 0 (ticks 5 handler.state.wake.device)).2.2 } _ _
      connected (UpTo.zero.add upTo) (ready.trans typed) rfl rfl rfl true
    simp only [if_true, Handler.saveIfPaired_write, Nat.zero_add] at reported
    exact reported _
  · have down : handler.state.connected = false := by simpa using connected
    rw [if_pos down, if_neg connected]
    exact .write _ _

omit [Board W] [RustUnifying W] lawful in
/-- The most keystrokes that a command can send. -/
def UnifyingState.mostReports (state : UnifyingState W) (line : List UInt8) : Nat :=
  match stripPrefix (ascii "UKEY ") line with
  | some rest => if state.connected ∧ (parseReport rest).isSome then 40 else 0
  | none =>
      match stripPrefix (ascii "UKEYDOWN ") line with
      | some rest =>
          if state.connected ∧ (parseReport rest).isSome then if state.linkUp then 3 else 1 else 0
      | none =>
          match stripPrefix (ascii "UTYPE ") line with
          | some text => if state.connected then 40 * typable text else 0
          | none => 0

omit [Board W] [RustUnifying W] lawful in
/-- Commands that start otherwise send none. -/
theorem UnifyingState.mostReports_other {start : List UInt8} (state : UnifyingState W)
    (starts : start.isPrefixOf line = true)
    (apart : ∀ report ∈ [ascii "UKEY ", ascii "UKEYDOWN ", ascii "UTYPE "],
      start.isPrefixOf report = false ∧ report.isPrefixOf start = false) :
    state.mostReports line = 0 := by
  have none (report : List UInt8)
      (member : report ∈ [ascii "UKEY ", ascii "UKEYDOWN ", ascii "UTYPE "]) :
      stripPrefix report line = none := by
    rw [stripPrefix, not_starts starts (apart report member)]
    rfl
  rw [mostReports, none _ (by simp), none _ (by simp), none _ (by simp)]

/-- Every command line comes to its end with one of the listed effects. -/
theorem handleUnifyingCommand_handles (buildTime : Nat) :
    Handles sent line (handler.state.mostReports line) handler
      (handleUnifyingCommand buildTime handler line) := by
  have same {word : List UInt8} (is : line = word) : word.isPrefixOf line = true := by
    rw [is]
    exact List.isPrefixOf_iff_prefix.mpr (List.prefix_refl _)
  rw [handleUnifyingCommand]
  split
  next empty =>
    rw [List.isEmpty_iff.mp empty]
    exact ⟨handler, rfl, id, .of_sent rfl, .silent (.refl _) rfl rfl rfl⟩
  split
  next is =>
    rw [handler.state.mostReports_other (same is) (by decide)]
    exact handler.uradiotest_handles lawful
  split
  next command =>
    have starts : (ascii "UPAIR").isPrefixOf line = true := by
      rcases command with is | spaced
      · exact same is
      · obtain ⟨rest, rfl⟩ := List.isPrefixOf_iff_prefix.mp spaced
        exact List.isPrefixOf_iff_prefix.mpr ⟨_, rfl⟩
    rw [handler.state.mostReports_other starts (by decide)]
    exact handler.upair_handles lawful command
  split
  next is =>
    rw [handler.state.mostReports_other (same is) (by decide)]
    exact handler.uconnect_handles lawful
  split
  next is =>
    rw [handler.state.mostReports_other (same is) (by decide)]
    exact handler.ukeepalive_handles lawful
  split
  next is =>
    rw [handler.state.mostReports_other (same is) (by decide)]
    exact handler.usleep_handles lawful
  split
  next is =>
    rw [handler.state.mostReports_other (same is) (by decide),
      writeOut_of_wrote (formatStatus_wrote _)]
    exact .write _ _
  split
  next is =>
    rw [handler.state.mostReports_other (same is) (by decide)]
    exact .write _ _
  split
  next command =>
    have starts : (ascii "UDELETE").isPrefixOf line = true := by
      rcases command with is | spaced
      · exact same is
      · obtain ⟨rest, rfl⟩ := List.isPrefixOf_iff_prefix.mp spaced
        exact List.isPrefixOf_iff_prefix.mpr ⟨_, rfl⟩
    rw [handler.state.mostReports_other starts (by decide)]
    exact handler.udelete_handles
  rw [Handler.handleArguments]
  split
  next rest found =>
    rw [handler.state.mostReports_other (starts_of_strip found) (by decide)]
    exact handler.uswitch_handles lawful _
  rw [UnifyingState.mostReports]
  cases stripPrefix (ascii "UKEY ") line with
  | some rest => exact handler.ukey_handles lawful rest
  | none =>
      cases stripPrefix (ascii "UKEYDOWN ") line with
      | some rest => exact handler.ukeydown_handles lawful rest
      | none =>
          cases stripPrefix (ascii "UTYPE ") line with
          | some text => exact handler.utype_handles lawful text
          | none => exact .write _ _

end Commands

end NrfUnifying.Radio
