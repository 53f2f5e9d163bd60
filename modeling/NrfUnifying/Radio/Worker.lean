import NrfUnifying.Radio.Effects

/-!
# The radio worker between commands

At power-up the worker restores the active pairing from flash with a margin;
between commands it polls the link and sends all-ups. A run of the worker is a
list of `Action`s.
-/

namespace NrfUnifying.Radio

open Lib.Bytes Storage

/-- How far the counter jumps at power-up. -/
def bootMargin : UInt32 := 512

section Worker

variable {W : Type} [Board W] [RustUnifying W]

/-- Restore the pairing of a slot, if there is one, and save it with its new counter. -/
def UnifyingState.restore (state : UnifyingState W) (flash : Nvmc) (slot : UInt8) : Handler W :=
  match load flash slot with
  | (some profile, flash) =>
      let profile := { profile with aesCounter := profile.aesCounter + bootMargin }
      { state := state.applyProfile profile, flash := save flash slot profile }
  | (none, flash) => { state, flash }

/-- Restore the active slot that was read from flash. -/
def UnifyingState.restoreActive (state : UnifyingState W) : Option UInt8 × Nvmc → Handler W
  | (some slot, flash) => { state with activeSlot := slot }.restore flash slot
  -- No active slot was stored: try slot 0.
  | (none, flash) => state.restore flash 0

/-- Power-up, up to where the tasks start. -/
def Handler.boot (world : W) (flash : Nvmc) : Handler W :=
  (UnifyingState.new world).restoreActive (loadActiveSlot flash)

/-- The all-keys-up report, if a receiver is connected. -/
def Handler.allUp (handler : Handler W) : Handler W :=
  if handler.state.connected then
    handler.setDevice (pressKey handler.state.device (.replicate 6 0) 0).2
  else handler

/-- One tick of the link, with a timeout that depends on how long nothing was typed. -/
def UnifyingState.keepAlive (state : UnifyingState W) : UnifyingState W :=
  let (now, device) := state.device.now
  let idleMillis := (now.toNat - state.lastActivity.toNat) * 1000 / tickHz
  let device := { device with timeout := if idleMillis > 500 then 110 else 20 }
  let before := device.previousTransmit
  match RustUnifying.tick device with
  -- Only a new transmission proves that the receiver heard us.
  | (true, device) =>
      { state with device, linkUp := state.linkUp || device.previousTransmit != before }
  | (false, device) => { state with device, linkUp := false }

/-- The keep-alive unless an upload is active, and the save at a power warning. -/
def Handler.pollRadio (uploadActive uartOtaActive : Bool) (handler : Handler W) : Handler W :=
  let handler :=
    if handler.state.connected ∧ uploadActive = false ∧ uartOtaActive = false then
      { handler with state := handler.state.keepAlive }
    else handler
  if Board.pofWarning handler.state.device.world then
    (handler.setDevice { handler.state.device with
      world := Board.clearPofWarning handler.state.device.world }).saveIfPaired
  else handler

theorem UnifyingState.keepAlive_connected (state : UnifyingState W) :
    state.keepAlive.connected = state.connected := by
  rw [UnifyingState.keepAlive]
  dsimp only
  split <;> rfl

omit [Board W] [RustUnifying W] in
theorem Handler.saveIfPaired_state (handler : Handler W) :
    handler.saveIfPaired.state = handler.state := by
  rw [Handler.saveIfPaired]
  split <;> rfl

omit [Board W] in
theorem Handler.keyDown_state (handler : Handler W) (modifier : UInt8) (keys : Keys) :
    (handler.keyDown modifier keys).state = (sendReport handler.state keys modifier).2 := by
  rw [Handler.keyDown]
  generalize sendReport handler.state keys modifier = result
  obtain ⟨ok, state⟩ := result
  change Handler.state (ite _ _ _) = _
  split
  · exact Handler.saveIfPaired_state _
  · rfl

theorem Handler.pollRadio_connected (uploadActive uartOtaActive : Bool) (handler : Handler W) :
    (handler.pollRadio uploadActive uartOtaActive).state.connected = handler.state.connected := by
  obtain ⟨polled, same, connected⟩ : ∃ polled : Handler W,
      (if handler.state.connected = true ∧ uploadActive = false ∧ uartOtaActive = false then
        { handler with state := handler.state.keepAlive } else handler) = polled ∧
      polled.state.connected = handler.state.connected := by
    refine ⟨_, rfl, ?_⟩
    split
    · exact handler.state.keepAlive_connected
    · rfl
  rw [Handler.pollRadio, same]
  dsimp only
  split
  · rw [Handler.saveIfPaired_state]
    exact connected
  · exact connected

/-! ## Commands that leave the link up -/

/-- The commands that may take the link down. -/
def mayDisconnect (line : List UInt8) : Prop :=
  isPair line ∨ line = ascii "USLEEP" ∨ line = ascii "UDELETE" ∨
    (ascii "UDELETE ").isPrefixOf line = true ∨ (ascii "USWITCH ").isPrefixOf line = true

instance (line : List UInt8) : Decidable (mayDisconnect line) :=
  inferInstanceAs (Decidable (_ ∨ _ ∨ _ ∨ _ ∨ _))

theorem Handler.uradiotest_connected {handler after : Handler W}
    (done : handler.uradiotest = some after) :
    after.state.connected = handler.state.connected := by
  unfold Handler.uradiotest at done
  generalize RustUnifying.configureRadio handler.state.device = result at done
  obtain ⟨configured, device⟩ := result
  cases configured with
  | false =>
      obtain rfl := Option.some.inj done
      rfl
  | true =>
      have passes : Passes fun _ _ : W => True :=
        ⟨fun _ => trivial, fun _ _ => trivial, fun _ _ => trivial, fun _ _ => trivial⟩
      obtain ⟨tested, tests, -, state, -⟩ :=
        (handler.setDevice device).testEncodings_probed passes addrEncodings
      dsimp only at done
      rw [tests] at done
      obtain rfl := Option.some.inj done
      change tested.state.connected = _
      rw [state]
      rfl

theorem Handler.uconnect_connected {handler after : Handler W}
    (done : handler.uconnect = some after) (connected : handler.state.connected = true) :
    after.state.connected = true := by
  unfold Handler.uconnect at done
  split at done
  · obtain rfl := Option.some.inj done
    exact connected
  generalize RustUnifying.configureRadio handler.state.device = result at done
  obtain ⟨configured, device⟩ := result
  cases configured with
  | false =>
      obtain rfl := Option.some.inj done
      exact connected
  | true =>
      dsimp only at done
      generalize connectAttempts 60 device = result at done
      obtain ⟨answered, device⟩ := result
      cases answered with
      | false =>
          obtain rfl := Option.some.inj done
          exact connected
      | true =>
          rw [writeOut_state done]

theorem Handler.ukey_connected (handler : Handler W) (rest : List UInt8) :
    (handler.ukey rest).state.connected = handler.state.connected := by
  unfold Handler.ukey
  split
  · rfl
  · dsimp only
    split
    · rfl
    · change (Handler.saveIfPaired _).state.connected = _
      rw [Handler.saveIfPaired_state]
      rfl

theorem Handler.ukeydown_connected (handler : Handler W) (rest : List UInt8) :
    (handler.ukeydown rest).state.connected = handler.state.connected := by
  unfold Handler.ukeydown
  split
  · rfl
  · dsimp only
    split
    · rfl
    · rw [Handler.keyDown_state]
      rfl

theorem Handler.utype_connected {handler after : Handler W} {text : List UInt8}
    (done : handler.utype text = some after) :
    after.state.connected = handler.state.connected := by
  unfold Handler.utype at done
  split at done
  · obtain rfl := Option.some.inj done
    rfl
  · dsimp only at done
    obtain ⟨written, wrote, rfl⟩ := Option.map_eq_some_iff.mp done
    rw [Handler.saveIfPaired_state, writeOut_state wrote]
    rfl

/-- All other commands leave it up. -/
theorem handleUnifyingCommand_connected {buildTime : Nat} {handler after : Handler W}
    {line : List UInt8} (stays : ¬mayDisconnect line)
    (done : handleUnifyingCommand buildTime handler line = some after)
    (connected : handler.state.connected = true) : after.state.connected = true := by
  rw [mayDisconnect, not_or, not_or, ← or_assoc, not_or] at stays
  obtain ⟨noPair, noSleep, noDelete, noSwitch⟩ := stays
  unfold isPair at noPair
  -- `split` passes over the commands that are ruled out.
  unfold handleUnifyingCommand at done
  split at done
  · obtain rfl := Option.some.inj done
    exact connected
  split at done
  · exact (Handler.uradiotest_connected done).trans connected
  split at done
  · exact Handler.uconnect_connected done connected
  split at done
  · obtain rfl := Option.some.inj done
    unfold Handler.ukeepalive
    split
    · exact connected
    · exact connected
  split at done
  · rw [writeOut_state done]
    exact connected
  split at done
  · obtain rfl := Option.some.inj done
    exact connected
  unfold Handler.handleArguments at done
  split at done
  next rest stripped => exact absurd (starts_of_strip stripped) noSwitch
  split at done
  · obtain rfl := Option.some.inj done
    exact (handler.ukey_connected _).trans connected
  split at done
  · obtain rfl := Option.some.inj done
    exact (handler.ukeydown_connected _).trans connected
  split at done
  · exact (Handler.utype_connected done).trans connected
  · obtain rfl := Option.some.inj done
    exact connected

/-! ## Power-up -/

/-- Power-up makes the state anew, in some slot, with a stored pairing or none. -/
theorem Handler.boot_state (world : W) (flash : Nvmc) : ∃ slot,
    let fresh : UnifyingState W := { UnifyingState.new world with activeSlot := slot }
    (Handler.boot world flash).state = fresh ∨
      ∃ profile, (Handler.boot world flash).state = fresh.applyProfile profile := by
  have restored (state : UnifyingState W) (flash : Nvmc) (slot : UInt8) :
      (state.restore flash slot).state = state ∨
        ∃ profile, (state.restore flash slot).state = state.applyProfile profile := by
    rw [UnifyingState.restore]
    split
    · exact .inr ⟨_, rfl⟩
    · exact .inl rfl
  rw [Handler.boot]
  generalize loadActiveSlot flash = result
  obtain ⟨active, flash⟩ := result
  cases active with
  | some slot => exact ⟨slot, restored _ flash slot⟩
  | none => exact ⟨0, restored _ flash 0⟩

theorem Handler.boot_disconnected (world : W) (flash : Nvmc) :
    (Handler.boot world flash).state.connected = false := by
  obtain ⟨slot, state | ⟨profile, state⟩⟩ := Handler.boot_state world flash
  · rw [state]
    rfl
  · rw [state]
    rfl

/-- What the worker does next: power is lost and returns, a command is handled, an all-up is
owed (CDC activation, UART damage, `OTA BEGIN`), or the radio is polled. -/
inductive Action where
  | powerCycle
  | command (line : List UInt8)
  | allUp
  | poll (uploadActive uartOtaActive : Bool)
  deriving DecidableEq, Repr

/-- The command line of an action; the others have none. -/
def Action.line : Action → List UInt8
  | .command line => line
  | _ => []

/-- Before an action there is no reply. -/
def Handler.ready (handler : Handler W) : Handler W := { handler with sink := {} }

/-- One action; a panic resets the board. -/
def Handler.act (buildTime : Nat) (handler : Handler W) : Action → Handler W
  | .powerCycle => .boot handler.state.device.world handler.flash
  | .command line =>
      match handleUnifyingCommand buildTime handler.ready line with
      | some after => after
      | none => .boot handler.state.device.world handler.flash
  | .allUp => handler.ready.allUp
  | .poll uploadActive uartOtaActive => handler.ready.pollRadio uploadActive uartOtaActive

end Worker

section Boot

variable {W : Type} [Board W] [RustUnifying W] {flash : Nvmc} {stored : Pairings}

/-- The slot that a power-up makes active. -/
def bootSlot (stored : Pairings) : UInt8 := stored.active.getD 0

theorem bootSlot_lt (refines : Refines flash stored) : bootSlot stored < maxProfiles := by
  rw [bootSlot]
  cases active : stored.active with
  | none => decide
  | some slot => exact refines.active_lt active

/-- Power-up in terms of what is stored. -/
theorem Handler.boot_eq (world : W) (refines : Refines flash stored) :
    Handler.boot world flash =
      match stored.profile (bootSlot stored) with
      | some profile =>
          let profile := { profile with aesCounter := profile.aesCounter + bootMargin }
          { state := ({ UnifyingState.new world with
              activeSlot := bootSlot stored } : UnifyingState W).applyProfile profile
            flash := Storage.save flash (bootSlot stored) profile }
      | none =>
          { state := { UnifyingState.new world with activeSlot := bootSlot stored }, flash } := by
  have loaded := refines.load (bootSlot_lt refines)
  have restored : Handler.boot world flash = ({ UnifyingState.new world with
      activeSlot := bootSlot stored } : UnifyingState W).restore flash (bootSlot stored) := by
    rw [Handler.boot, refines.loadActiveSlot, bootSlot]
    cases stored.active <;> rfl
  rw [restored, UnifyingState.restore, loaded]
  cases stored.profile (bootSlot stored) <;> rfl

end Boot

section Effects

variable {W : Type} [Board W] [RustUnifying W] {sent : W → List Transmission}
  (lawful : RustUnifying.Lawful sent) (handler : Handler W)

include lawful

/-- Power-up sends no keystroke. -/
theorem Handler.boot_sent (world : W) (flash : Nvmc) :
    sent (Handler.boot world flash).state.device.world = sent world := by
  have fresh : sent (UnifyingState.new world).device.world = sent world := by
    obtain ⟨-, -, -, made⟩ := lawful.new_fields world {} (.replicate 5 0) (.replicate 16 0) 0
      (RustUnifying.firstChannel W)
    exact (lawful.now_sent _).trans made
  obtain ⟨slot, state | ⟨profile, state⟩⟩ := Handler.boot_state world flash
  · rw [state]
    exact fresh
  · rw [state]
    exact fresh

theorem Handler.allUp_handles (line : List UInt8) :
    Handles sent line (if handler.state.connected then 20 else 0) handler
      (some handler.allUp) := by
  rw [Handler.allUp]
  by_cases connected : handler.state.connected = true
  · rw [if_pos connected, if_pos connected]
    obtain ⟨count, upTo, sends⟩ :=
      Sends.transmit lawful (.replicate 6 0) 0 20 handler.state.device
    refine ⟨_, rfl, id, ?_, .reports count sends (fun _ => connected) rfl rfl rfl⟩
    rw [Sends.transmitted (by exact sends)]
    exact upTo
  · rw [if_neg connected, if_neg connected]
    exact ⟨_, rfl, id, .of_sent rfl, .silent (.refl _) rfl rfl rfl⟩

/-- The keep-alive only works on the device and on what is known of the link. -/
theorem UnifyingState.keepAlive_silent (state : UnifyingState W) :
    Silent sent state.device state.keepAlive.device ∧
      state.keepAlive.paired = state.paired ∧ state.keepAlive.connected = state.connected ∧
      state.keepAlive.activeSlot = state.activeSlot := by
  have first := Silent.now lawful state.device
  rw [UnifyingState.keepAlive]
  generalize state.device.now = result at first
  obtain ⟨now, device⟩ := result
  dsimp only at first ⊢
  have tick := lawful.tick_silent { device with timeout :=
    if (now.toNat - state.lastActivity.toNat) * 1000 / tickHz > 500 then 110 else 20 }
  have second : Silent sent state.device { device with timeout :=
    if (now.toNat - state.lastActivity.toNat) * 1000 / tickHz > 500 then 110 else 20 } :=
    ⟨first.address, first.aesKey, first.aesCounter, first.sent⟩
  generalize RustUnifying.tick (W := W) _ = result at tick
  obtain ⟨heard, after⟩ := result
  cases heard with
  | true => exact ⟨second.trans tick, rfl, rfl, rfl⟩
  | false => exact ⟨second.trans tick, rfl, rfl, rfl⟩

theorem Handler.pollRadio_handles (line : List UInt8) (uploadActive uartOtaActive : Bool) :
    Handles sent line 0 handler (some (handler.pollRadio uploadActive uartOtaActive)) := by
  rw [Handler.pollRadio]
  have kept : ∃ polled : UnifyingState W,
      (if handler.state.connected = true ∧ uploadActive = false ∧ uartOtaActive = false then
        { handler with state := handler.state.keepAlive } else handler) =
          { handler with state := polled } ∧
      Silent sent handler.state.device polled.device ∧ polled.paired = handler.state.paired ∧
      polled.connected = handler.state.connected ∧
      polled.activeSlot = handler.state.activeSlot := by
    split
    · exact ⟨_, rfl, handler.state.keepAlive_silent lawful⟩
    · exact ⟨handler.state, rfl, .refl _, rfl, rfl, rfl⟩
  obtain ⟨polled, same, silent, paired, connected, slot⟩ := kept
  rw [same]
  dsimp only
  have linked (valid : handler.state.Linked) : polled.Linked := fun still =>
    paired ▸ valid (connected ▸ still)
  split
  · have cleared : Silent sent handler.state.device { polled.device with
        world := Board.clearPofWarning polled.device.world } :=
      silent.trans ⟨rfl, rfl, rfl, lawful.clearPofWarning_sent _⟩
    rw [Handler.saveIfPaired]
    by_cases isPaired : polled.paired = true
    · rw [if_pos (by exact isPaired)]
      exact ⟨_, rfl, linked, .of_sent cleared.sent, .saved 0 cleared.sends
        (fun positive => absurd positive (Nat.lt_irrefl 0))
        ⟨paired.symm.trans isPaired, isPaired⟩ slot (by rw [← slot]; rfl)⟩
    · rw [if_neg (by exact isPaired)]
      exact ⟨_, rfl, linked, .of_sent cleared.sent, .silent cleared paired slot rfl⟩
  · exact ⟨_, rfl, linked, .of_sent silent.sent, .silent silent paired slot rfl⟩

omit [Board W] [RustUnifying W] lawful in
/-- The most keystrokes that an action can send. -/
def Handler.mostReports (handler : Handler W) : Action → Nat
  | .command line => handler.state.mostReports line
  | .allUp => if handler.state.connected then 20 else 0
  | _ => 0

/-- Every action but a power cycle has one of the effects of a command. -/
theorem Handler.act_handles (buildTime : Nat) {action : Action} (powered : action ≠ .powerCycle) :
    Handles sent action.line (handler.mostReports action) handler.ready
      (some (handler.act buildTime action)) := by
  cases action with
  | powerCycle => exact absurd rfl powered
  | command line =>
      obtain ⟨after, done, rest⟩ : Handles sent line (handler.state.mostReports line) handler.ready
          (handleUnifyingCommand buildTime handler.ready line) :=
        handleUnifyingCommand_handles lawful _ _
      exact ⟨after, by simp only [Handler.act, done], rest⟩
  | allUp => exact handler.ready.allUp_handles lawful _
  | poll uploadActive uartOtaActive => exact handler.ready.pollRadio_handles lawful _ _ _

theorem Handler.act_effect (buildTime : Nat) {action : Action} (powered : action ≠ .powerCycle) :
    (handler.state.Linked → (handler.act buildTime action).state.Linked) ∧
      Effect sent action.line handler.ready (handler.act buildTime action) := by
  obtain ⟨after, same, linked, -, effect⟩ := handler.act_handles lawful buildTime powered
  obtain rfl := Option.some.inj same
  exact ⟨linked, effect⟩

end Effects

/-! ## A receiver on the bench -/

/-- A world with one receiver: it pairs at once, and acknowledges all keystrokes or none. The log
holds the latest keystroke first. -/
structure Bench where
  acknowledges : Bool
  log : List Transmission := []
  deriving DecidableEq, Repr

def Bench.sent (bench : Bench) : List Transmission := bench.log.reverse

instance : Board Bench where
  now world := (0, world)
  delay world _ := world
  attempt world radio := (⟨radio.rxBuf, false, false⟩, world)
  disableRadio world := world
  pofWarning _ := false
  clearPofWarning world := world

instance : RustUnifying Bench where
  new world radio address aesKey aesCounter channel :=
    { radio, address, aesKey, aesCounter, channel, timeout := 20, previousTransmit := 0, world }
  configureRadio device := (true, device)
  pair device params :=
    (true, { device with
      address := .replicate 5 params.id, aesKey := .replicate 16 0x5A, aesCounter := 0 })
  connect device := (true, device)
  tick device := (true, device)
  sendEncryptedKeystroke device _ _ :=
    (device.world.acknowledges, { device with
      aesCounter := device.aesCounter + 1
      world := { device.world with
        log := ⟨device.address, device.aesKey, device.aesCounter⟩ :: device.world.log } })
  pairingAddress := .replicate 5 0xBB
  pairingChannels := [5, 8, 14]
  firstChannel := 5

theorem Bench.lawful : RustUnifying.Lawful Bench.sent where
  new_fields _ _ _ _ _ _ := ⟨rfl, rfl, rfl, rfl⟩
  configureRadio_silent _ := .refl _
  connect_silent _ := .refl _
  tick_silent _ := .refl _
  pair_sent _ _ := rfl
  send_counter _ _ _ := ⟨rfl, rfl, rfl, List.reverse_cons⟩
  now_sent _ := rfl
  delay_sent _ _ := rfl
  attempt_sent _ _ := rfl
  disableRadio_sent _ := rfl
  clearPofWarning_sent _ := rfl

end NrfUnifying.Radio
