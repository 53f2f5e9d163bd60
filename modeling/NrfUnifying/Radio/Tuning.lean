import NrfUnifying.Lib.Runs
import NrfUnifying.Radio.Worker

/-!
# A connected device talks to its own address

`Tuning` is what decides on which address the radio talks. The self-test leaves
another encoding and the pairing address behind; as long as it does not get that
far, a connected device stays on its own address.
-/

namespace NrfUnifying.Radio

open Lib.Bytes Lib.Runs Storage

/-- The device's address, the encoding in use and the address registers. -/
structure Tuning where
  address : Vector UInt8 5
  encoding : UInt8
  registers : UInt32 × UInt8
  deriving DecidableEq

/-- On its own address, in the encoding that was found to work. -/
structure Tuning.Right (tuning : Tuning) : Prop where
  encoding : tuning.encoding = 1
  registers : tuning.registers = hwAddress tuning.address 1

section Tuned

variable {W : Type}

def Device.tuning (device : Device W) : Tuning where
  address := device.address
  encoding := device.radio.addrEncoding
  registers := (device.radio.base0, device.radio.prefix0)

/-- If a receiver is connected, the address registers hold the device's address. -/
def Handler.OwnAddress (handler : Handler W) : Prop :=
  handler.state.connected = true →
    handler.state.device.tuning.registers = hwAddress handler.state.device.address 1

/-- What is relied on: `configure_radio` programs the device's address through `set_address`, unless
it fails before; a successful `pair` leaves the radio on the new address; the rest of the stack
leaves the address alone. -/
structure RustUnifying.Programs (W : Type) [RustUnifying W] : Prop where
  configureRadio : ∀ device : Device W,
    let (done, after) := configureRadio device
    after.tuning = { device.tuning with
        registers := hwAddress device.address device.radio.addrEncoding } ∨
      done = false ∧ after.tuning = device.tuning
  pair_encoding : ∀ (device : Device W) params,
    (pair device params).2.tuning.encoding = device.tuning.encoding
  pair_registers : ∀ (device : Device W) params, (pair device params).1 = true →
    let after := (pair device params).2.tuning
    after.registers = hwAddress after.address after.encoding
  connect : ∀ device : Device W, (connect device).2.tuning = device.tuning
  tick : ∀ device : Device W, (tick device).2.tuning = device.tuning
  send : ∀ (device : Device W) keys modifier,
    (sendEncryptedKeystroke device keys modifier).2.tuning = device.tuning

/-- A connected state is paired and on the device's own address. -/
def UnifyingState.Tuned (state : UnifyingState W) : Prop :=
  state.connected = true → state.paired = true ∧ state.device.tuning.Right

theorem UnifyingState.Tuned.of_disconnected {state : UnifyingState W}
    (disconnected : state.connected = false) : state.Tuned :=
  fun connected => absurd (disconnected.symm.trans connected) Bool.false_ne_true

/-- A state that is connected only if it was, and then paired and tuned as before. -/
theorem UnifyingState.Tuned.keep {before after : UnifyingState W} (tuned : before.Tuned)
    (connected : after.connected = before.connected) (paired : after.paired = before.paired)
    (tuning : after.device.tuning = before.device.tuning) : after.Tuned := by
  intro still
  rw [paired, tuning]
  exact tuned (connected ▸ still)

/-- Whatever the command leads to, the state it leaves is tuned. -/
def Tunes (result : Option (Handler W)) : Prop :=
  ∀ after, result = some after → after.state.Tuned

theorem Tunes.some {handler : Handler W} (tuned : handler.state.Tuned) : Tunes (some handler) := by
  rintro after same
  obtain rfl := Option.some.inj same
  exact tuned

theorem Tunes.write {handler : Handler W} (tuned : handler.state.Tuned) (data : List UInt8) :
    Tunes (Option.some (handler.write data)) := by
  have written : (handler.write data).state.Tuned := tuned
  exact .some written

theorem Tunes.writeOut {handler : Handler W} (tuned : handler.state.Tuned) (written : Written) :
    Tunes (handler.writeOut written) := by
  intro after done
  rw [writeOut_state done]
  exact tuned

end Tuned

section Relied

variable {W : Type} [RustUnifying W] (programs : RustUnifying.Programs W)

include programs

/-- Configuring the radio keeps it where it should be. -/
theorem Tuning.Right.configureRadio {device : Device W} (right : device.tuning.Right) :
    (RustUnifying.configureRadio device).2.tuning.Right := by
  have configured := programs.configureRadio device
  generalize RustUnifying.configureRadio device = result at configured
  obtain ⟨done, after⟩ := result
  rcases configured with programmed | ⟨-, kept⟩
  · rw [programmed]
    have encoding : device.radio.addrEncoding = 1 := right.encoding
    rw [encoding]
    exact ⟨encoding, rfl⟩
  · rw [kept]
    exact right

/-- In the right encoding, configuring the radio brings it to the device's address. -/
theorem configureRadio_right {device after : Device W}
    (encoding : device.tuning.encoding = 1)
    (configured : RustUnifying.configureRadio device = (true, after)) : after.tuning.Right := by
  have programmed := programs.configureRadio device
  rw [configured] at programmed
  have encoding : device.radio.addrEncoding = 1 := encoding
  rcases programmed with programmed | ⟨failed, -⟩
  · rw [programmed, encoding]
    exact ⟨encoding, rfl⟩
  · cases failed

variable [Board W]

omit [Board W] in
theorem transmit_tuning (keys : Keys) (modifier : UInt8) (attempts : Nat) (device : Device W) :
    (transmit keys modifier attempts device).2.tuning = device.tuning := by
  induction attempts generalizing device with
  | zero => rfl
  | succ attempts ih =>
      have once := programs.send device keys modifier
      rw [transmit]
      generalize RustUnifying.sendEncryptedKeystroke device keys modifier = result at once
      obtain ⟨done, after⟩ := result
      cases done with
      | true => exact once
      | false => exact (ih _).trans ((programs.tick after).trans once)

omit [Board W] in
theorem probe_tuning (keys : Keys) (modifier : UInt8) (attempts : Nat) (device : Device W) :
    (probe keys modifier attempts device).2.tuning = device.tuning := by
  induction attempts generalizing device with
  | zero => rfl
  | succ attempts ih =>
      have once := programs.send device keys modifier
      rw [probe]
      generalize RustUnifying.sendEncryptedKeystroke device keys modifier = result at once
      obtain ⟨done, after⟩ := result
      cases done with
      | true => exact once
      | false => exact (ih after).trans once

omit [Board W] in
theorem ticks_tuning (count : Nat) (device : Device W) :
    (ticks count device).tuning = device.tuning := by
  induction count generalizing device with
  | zero => rfl
  | succ count ih => exact (ih _).trans (programs.tick device)

theorem sendKeyReport_tuning (device : Device W) (keys : Keys) (modifier : UInt8) :
    (sendKeyReport device keys modifier).2.tuning = device.tuning := by
  have pressed := transmit_tuning programs keys modifier 20 device
  exact (transmit_tuning programs _ _ _ _).trans pressed

theorem typeChar_tuning (device : Device W) (c : UInt8) :
    (typeChar device c).2.tuning = device.tuning := by
  rw [typeChar]
  split
  · rfl
  · exact sendKeyReport_tuning programs device _ _

theorem typeText_tuning (text : List UInt8) (ok total : UInt32) (device : Device W) :
    (typeText text ok total device).2.2.tuning = device.tuning := by
  induction text generalizing ok total device with
  | nil => rfl
  | cons c rest ih =>
      rw [typeText]
      split
      · exact ih _ _ _
      · exact (ih _ _ _).trans (typeChar_tuning programs device c)

theorem connectAttempts_tuning (attempts : Nat) (device : Device W) :
    (connectAttempts attempts device).2.tuning = device.tuning := by
  induction attempts generalizing device with
  | zero => rfl
  | succ attempts ih =>
      have once := programs.connect device
      rw [connectAttempts]
      generalize RustUnifying.connect device = result at once
      obtain ⟨done, after⟩ := result
      cases done with
      | true => exact once
      | false => exact (ih _).trans once

theorem pairAttempts_encoding (params : PairingParams) (attempts : Nat) (device : Device W) :
    (pairAttempts params attempts device).2.tuning.encoding = device.tuning.encoding := by
  induction attempts generalizing device with
  | zero => rfl
  | succ attempts ih =>
      have once := programs.pair_encoding device params
      rw [pairAttempts]
      generalize RustUnifying.pair device params = result at once
      obtain ⟨done, after⟩ := result
      cases done with
      | true => exact once
      | false => exact (ih _).trans once

/-- Paired in the right encoding, the radio is on the new address. -/
theorem pairAttempts_right {params : PairingParams} {attempts : Nat} {device after : Device W}
    (encoding : device.tuning.encoding = 1)
    (paired : pairAttempts params attempts device = (true, after)) : after.tuning.Right := by
  have last := pairAttempts_encoding programs params attempts device
  rw [paired, encoding] at last
  refine ⟨last, ?_⟩
  induction attempts generalizing device with
  | zero => cases paired
  | succ attempts ih =>
      have once := programs.pair_registers device params
      have same := programs.pair_encoding device params
      rw [pairAttempts] at paired
      generalize RustUnifying.pair device params = result at once same paired
      obtain ⟨done, next⟩ := result
      cases done with
      | true =>
          obtain rfl := (Prod.mk.inj paired).2
          have registers := once rfl
          dsimp only at registers
          rwa [last] at registers
      | false => exact @ih (next.delay 20000) (same.trans encoding) paired

theorem keepAlive_tuning (state : UnifyingState W) :
    state.keepAlive.device.tuning = state.device.tuning ∧
      state.keepAlive.paired = state.paired := by
  rw [UnifyingState.keepAlive]
  dsimp only
  have ticked := programs.tick { state.device.now.2 with timeout :=
    if (state.device.now.1.toNat - state.lastActivity.toNat) * 1000 / tickHz > 500 then 110
    else 20 }
  generalize RustUnifying.tick (W := W) _ = result at ticked ⊢
  obtain ⟨heard, after⟩ := result
  cases heard with
  | true => exact ⟨ticked, rfl⟩
  | false => exact ⟨ticked, rfl⟩

end Relied

section Commands

variable {W : Type} [Board W] [RustUnifying W] (programs : RustUnifying.Programs W)
  {handler : Handler W} (tuned : handler.state.Tuned)

/-! ## Each command -/

theorem testEncoding_connected (handler : Handler W) {encoding : UInt8} {after : Handler W}
    (done : handler.testEncoding encoding = some after) :
    after.state.connected = handler.state.connected := by
  rw [Handler.testEncoding] at done
  rw [writeOut_state done]
  rfl

theorem testEncodings_connected (encodings : List UInt8) {handler after : Handler W}
    (done : encodings.foldlM Handler.testEncoding handler = some after) :
    after.state.connected = handler.state.connected := by
  induction encodings generalizing handler with
  | nil =>
      obtain rfl := Option.some.inj done
      rfl
  | cons encoding rest ih =>
      obtain ⟨next, first, others⟩ := Option.bind_eq_some_iff.mp done
      exact (ih others).trans (testEncoding_connected handler first)

omit [Board W] in
include programs in
/-- Whether or not the radio could be configured, the state is as tuned as before. -/
theorem UnifyingState.Tuned.configured {state : UnifyingState W} (tuned : state.Tuned) :
    UnifyingState.Tuned { state with
      device := (RustUnifying.configureRadio state.device).2 } := by
  intro connected
  obtain ⟨paired, right⟩ := tuned connected
  exact ⟨paired, right.configureRadio programs⟩

include programs tuned

/-- The self-test ends on the pairing address, so that it must not get that far while a receiver is
connected. -/
theorem Handler.uradiotest_tunes
    (fails : handler.state.connected = true →
      (RustUnifying.configureRadio handler.state.device).1 = false) :
    Tunes handler.uradiotest := by
  have configured := UnifyingState.Tuned.configured programs tuned
  rw [Handler.uradiotest]
  generalize RustUnifying.configureRadio handler.state.device = result at fails configured
  obtain ⟨done, device⟩ := result
  cases done with
  | false => exact .some configured
  | true =>
      intro after tested
      obtain ⟨last, all, rfl⟩ := Option.map_eq_some_iff.mp tested
      refine .of_disconnected ?_
      have same := testEncodings_connected _ all
      change last.state.connected = false
      rw [same]
      exact Bool.eq_false_iff.mpr fun connected => Bool.false_ne_true (fails connected).symm

theorem Handler.upair_tunes (line : List UInt8)
    (encoding : handler.state.device.tuning.encoding = 1) : Tunes (handler.upair line) := by
  have asked : handler.state.request.2.tuning = handler.state.device.tuning := rfl
  have waiting : UnifyingState.Tuned { handler.state with device := handler.state.request.2 } :=
    tuned.keep rfl rfl asked
  have configured := UnifyingState.Tuned.configured programs waiting
  have ends := handler.upair_ends line
  generalize handler.upair line = result at ends
  cases ends with
  | slot _ => exact .some tuned
  | radio slot device named failed =>
      rw [failed] at configured
      exact .some configured
  | failed slot ready device named configures attempts =>
      have right := configureRadio_right programs (asked ▸ encoding) configures
      have kept := pairAttempts_encoding programs handler.state.request.1 8 ready
      rw [attempts, right.encoding] at kept
      refine .some ?_
      change (handler.state.failPair device).Tuned
      unfold UnifyingState.failPair
      split
      · split
        · have restored : (handler.state.restored device).device.tuning.encoding = 1 := kept
          exact fun again => ⟨rfl, configureRadio_right programs restored (Prod.ext again rfl)⟩
        · exact .of_disconnected rfl
      next unpaired => exact fun connected => absurd (tuned connected).1 unpaired
  | paired slot ready device named configures attempts =>
      have right := configureRadio_right programs (asked ▸ encoding) configures
      have right := pairAttempts_right programs right.encoding attempts
      exact .some fun _ => ⟨rfl, right⟩

theorem Handler.uconnect_tunes (encoding : handler.state.device.tuning.encoding = 1) :
    Tunes handler.uconnect := by
  have configured := UnifyingState.Tuned.configured programs tuned
  rw [Handler.uconnect]
  split
  · exact .some tuned
  next paired =>
    cases ready : RustUnifying.configureRadio handler.state.device with
    | mk done device =>
    rw [ready] at configured
    cases done with
    | false => exact .some configured
    | true =>
        have right := configureRadio_right programs encoding ready
        have attempts := connectAttempts_tuning programs 60 device
        dsimp only
        generalize connectAttempts 60 device = result at attempts
        obtain ⟨done, after⟩ := result
        have right : after.tuning.Right := attempts ▸ right
        cases done with
        | false =>
            refine .some fun connected => ⟨(tuned connected).1, right⟩
        | true =>
            refine .writeOut (fun _ => ⟨?_, right⟩) _
            change handler.state.paired = true
            simpa using paired

omit [Board W] in
theorem Handler.ukeepalive_tuned : handler.ukeepalive.state.Tuned := by
  rw [Handler.ukeepalive]
  split
  · exact tuned
  · exact tuned.keep rfl rfl (programs.tick _)

omit programs in
omit [Board W] [RustUnifying W] in
theorem Handler.saveIfPaired_tuned : handler.saveIfPaired.state.Tuned := by
  rw [Handler.saveIfPaired]
  split <;> exact tuned

omit programs in
omit [RustUnifying W] in
theorem Handler.usleep_tuned : handler.usleep.state.Tuned := by
  rw [Handler.usleep]
  dsimp only
  split
  · refine UnifyingState.Tuned.of_disconnected ?_
    change (Handler.saveIfPaired _).state.connected = false
    rw [Handler.saveIfPaired_state]
  · exact tuned

omit programs in
omit [Board W] [RustUnifying W] in
theorem Handler.udelete_tuned (line : List UInt8) : (handler.udelete line).state.Tuned := by
  rw [Handler.udelete]
  split
  · split
    · change UnifyingState.Tuned (ite _ _ _)
      split
      · exact .of_disconnected rfl
      · exact tuned
    · exact tuned
  · exact .of_disconnected rfl

omit programs in
omit [RustUnifying W] [Board W] in
/-- A switch to another slot disconnects first. -/
theorem switchTo_tuned (flash : Nvmc) (slot : UInt8) :
    (handler.state.switchTo flash slot).2.1.Tuned ∧
      ((handler.state.switchTo flash slot).1 = true →
        (handler.state.switchTo flash slot).2.1.paired = true) ∧
      (handler.state.switchTo flash slot).2.1.device.tuning.encoding =
        handler.state.device.tuning.encoding := by
  rw [UnifyingState.switchTo]
  split
  · exact ⟨tuned, id, rfl⟩
  · dsimp only
    generalize load (F := Nvmc) _ slot = result
    obtain ⟨loaded, after⟩ := result
    cases loaded with
    | some profile => exact ⟨.of_disconnected rfl, fun _ => rfl, rfl⟩
    | none => exact ⟨.of_disconnected rfl, (absurd · Bool.false_ne_true), rfl⟩

omit [Board W] in
theorem Handler.uswitch_tunes (rest : List UInt8)
    (encoding : handler.state.device.tuning.encoding = 1) : Tunes (handler.uswitch rest) := by
  rw [Handler.uswitch]
  split
  · exact .some tuned
  next slot named =>
    rw [Handler.switchInto]
    have switched := switchTo_tuned tuned handler.flash slot
    generalize handler.state.switchTo handler.flash slot = result at switched
    obtain ⟨found, state, flash⟩ := result
    obtain ⟨stays, paired, same⟩ := switched
    cases found with
    | false => exact .writeOut stays _
    | true =>
        have configured := UnifyingState.Tuned.configured programs stays
        dsimp only at configured ⊢
        cases ready : RustUnifying.configureRadio state.device with
        | mk done device =>
        rw [ready] at configured
        cases done with
        | false => exact .some configured
        | true =>
            exact .writeOut (fun _ => ⟨paired rfl,
              configureRadio_right programs (same.trans encoding) ready⟩) _

theorem Handler.ukey_tuned (rest : List UInt8) : (handler.ukey rest).state.Tuned := by
  rw [Handler.ukey]
  split
  · exact tuned
  · dsimp only
    split
    · exact tuned.keep rfl rfl rfl
    next modifier keys _ =>
      have reported := (sendKeyReport_tuning programs (ticks 5 handler.state.wake.device) keys
        modifier).trans (ticks_tuning programs 5 _)
      refine Handler.saveIfPaired_tuned ?_
      exact tuned.keep rfl rfl reported

theorem Handler.ukeydown_tuned (rest : List UInt8) : (handler.ukeydown rest).state.Tuned := by
  rw [Handler.ukeydown]
  split
  · exact tuned
  · dsimp only
    split
    · exact tuned.keep rfl rfl rfl
    next modifier keys _ =>
      have sent : (sendReport handler.state.wake keys modifier).2.Tuned :=
        tuned.keep rfl rfl (probe_tuning programs keys modifier _ _)
      rw [Handler.keyDown_state]
      exact sent

theorem Handler.utype_tunes (text : List UInt8) : Tunes (handler.utype text) := by
  rw [Handler.utype]
  split
  · exact .some tuned
  · dsimp only
    have typed := (typeText_tuning programs text 0 0 (ticks 5 handler.state.wake.device)).trans
      (ticks_tuning programs 5 _)
    intro after done
    obtain ⟨written, out, rfl⟩ := Option.map_eq_some_iff.mp done
    refine Handler.saveIfPaired_tuned ?_
    rw [writeOut_state out]
    exact tuned.keep rfl rfl typed

omit [Board W] in
theorem Handler.allUp_tuned : handler.allUp.state.Tuned := by
  rw [Handler.allUp]
  split
  · exact tuned.keep rfl rfl (transmit_tuning programs _ _ _ _)
  · exact tuned

theorem Handler.pollRadio_tuned (uploadActive uartOtaActive : Bool) :
    (handler.pollRadio uploadActive uartOtaActive).state.Tuned := by
  obtain ⟨polled, same, stays⟩ : ∃ polled : Handler W,
      (if handler.state.connected = true ∧ uploadActive = false ∧ uartOtaActive = false then
        { handler with state := handler.state.keepAlive } else handler) = polled ∧
      polled.state.Tuned := by
    refine ⟨_, rfl, ?_⟩
    split
    · obtain ⟨tuning, paired⟩ := keepAlive_tuning programs handler.state
      exact tuned.keep handler.state.keepAlive_connected paired tuning
    · exact tuned
  rw [Handler.pollRadio, same]
  dsimp only
  split
  · refine Handler.saveIfPaired_tuned ?_
    exact stays.keep rfl rfl rfl
  · exact stays

end Commands

section Run

variable {W : Type} [Board W] [RustUnifying W]

/-- A line that may connect: `UPAIR`, `UCONNECT` or `USWITCH`. -/
def isConnecting (line : List UInt8) : Prop :=
  isPair line ∨ line = ascii "UCONNECT" ∨ (ascii "USWITCH ").isPrefixOf line

/-- While a receiver is connected no self-test gets past its first step, and a command that may
connect finds the encoding that no self-test has changed. -/
def Handler.KeepsTuning (handler : Handler W) : Action → Prop
  | .command line =>
      (line = ascii "URADIOTEST" → handler.state.connected = true →
        (RustUnifying.configureRadio handler.state.device).1 = false) ∧
      (isConnecting line → handler.state.device.tuning.encoding = 1)
  | _ => True

variable (programs : RustUnifying.Programs W) {handler : Handler W}

include programs

theorem handleUnifyingCommand_tunes (buildTime : Nat) (tuned : handler.state.Tuned)
    {line : List UInt8} (keeps : handler.KeepsTuning (.command line)) :
    Tunes (handleUnifyingCommand buildTime handler line) := by
  obtain ⟨untested, encoding⟩ := keeps
  rw [handleUnifyingCommand]
  split
  · exact .some tuned
  split
  next test => exact handler.uradiotest_tunes programs tuned (untested test)
  split
  next pair => exact handler.upair_tunes programs tuned line (encoding (.inl pair))
  split
  next connect => exact handler.uconnect_tunes programs tuned (encoding (.inr (.inl connect)))
  split
  · exact .some (handler.ukeepalive_tuned programs tuned)
  split
  · exact .some (handler.usleep_tuned tuned)
  split
  · exact .writeOut tuned _
  split
  · exact .some tuned
  split
  · exact .some (handler.udelete_tuned tuned line)
  rw [Handler.handleArguments]
  split
  next rest starts =>
    exact handler.uswitch_tunes programs tuned rest
      (encoding (.inr (.inr (stripPrefix_isPrefixOf starts))))
  split
  · exact .some (handler.ukey_tuned programs tuned _)
  split
  · exact .some (handler.ukeydown_tuned programs tuned _)
  split
  · exact handler.utype_tunes programs tuned _
  · exact .write tuned _

/-- Every action that meets the condition leaves a tuned state. -/
theorem Handler.act_tuned (buildTime : Nat) (tuned : handler.state.Tuned) {action : Action}
    (keeps : handler.KeepsTuning action) : (handler.act buildTime action).state.Tuned := by
  cases action with
  | powerCycle => exact .of_disconnected (Handler.boot_disconnected _ _)
  | command line =>
      have ready : handler.ready.state.Tuned := tuned
      have tunes := handleUnifyingCommand_tunes programs buildTime ready keeps
      rw [Handler.act]
      cases done : handleUnifyingCommand buildTime handler.ready line with
      | some after => exact tunes after done
      | none => exact .of_disconnected (Handler.boot_disconnected _ _)
  | allUp =>
      have ready : handler.ready.state.Tuned := tuned
      exact Handler.allUp_tuned programs ready
  | poll uploadActive uartOtaActive =>
      have ready : handler.ready.state.Tuned := tuned
      exact Handler.pollRadio_tuned programs ready _ _

/-- A connected device talks to its own address in every state, if no self-test got past its first
step while connected, and none did before a command that connects. -/
theorem own_address (buildTime : Nat) (world : W) (flash : Nvmc) (actions : List Action)
    (keeps : EveryStep (Handler.act buildTime) Handler.KeepsTuning (.boot world flash) actions) :
    Always (Handler.act buildTime) Handler.OwnAddress (.boot world flash) actions := by
  have always : Always (Handler.act buildTime) (fun handler => handler.state.Tuned)
      (.boot world flash) actions :=
    .of_everyStep (fun _ _ tuned keeps => Handler.act_tuned programs buildTime tuned keeps)
      (.of_disconnected (Handler.boot_disconnected world flash)) keeps
  intro before after same connected
  exact (always before after same connected).2.registers

end Run

/-! ## A receiver that listens to the registers -/

/-- A world with one receiver that pairs at once and acknowledges every keystroke. -/
structure TunedBench where
  deriving DecidableEq, Repr

instance : Board TunedBench where
  now world := (0, world)
  delay world _ := world
  attempt world radio := (⟨radio.rxBuf, false, false⟩, world)
  disableRadio world := world
  pofWarning _ := false
  clearPofWarning world := world

/-- Program the registers with an address of the device. -/
def Device.program {W : Type} (device : Device W) : Device W :=
  { device with radio := device.radio.setAddress device.address }

instance : RustUnifying TunedBench where
  new world radio address aesKey aesCounter channel :=
    { radio, address, aesKey, aesCounter, channel, timeout := 20, previousTransmit := 0, world }
  configureRadio device := (true, device.program)
  pair device params :=
    (true, Device.program { device with
      address := #v[1, 2, 3, 4, params.id], aesKey := .replicate 16 0x5A, aesCounter := 0 })
  connect device := (true, device)
  tick device := (true, device)
  sendEncryptedKeystroke device _ _ :=
    (true, { device with aesCounter := device.aesCounter + 1 })
  pairingAddress := #v[0xBB, 0x0A, 0xDC, 0xA5, 0x75]
  pairingChannels := [5, 8, 14]
  firstChannel := 5

theorem TunedBench.programs : RustUnifying.Programs TunedBench where
  configureRadio _ := .inl rfl
  pair_encoding _ _ := rfl
  pair_registers _ _ _ := rfl
  connect _ := rfl
  tick _ := rfl
  send _ _ _ := rfl

instance (line : List UInt8) : Decidable (isConnecting line) :=
  inferInstanceAs (Decidable (_ ∨ _))

instance {W : Type} [RustUnifying W] (handler : Handler W) (action : Action) :
    Decidable (handler.KeepsTuning action) :=
  match action with
  | .command _ => inferInstanceAs (Decidable (_ ∧ _))
  | .powerCycle | .allUp | .poll _ _ => .isTrue trivial

instance {W : Type} (handler : Handler W) : Decidable handler.OwnAddress :=
  inferInstanceAs (Decidable (_ → _))

theorem own_address_switched :
    Always (Handler.act 0) Handler.OwnAddress (.boot (⟨⟩ : TunedBench) erasedChip)
      [.command (ascii "UPAIR"), .command (ascii "UPAIR 01"), .command (ascii "USWITCH 00"),
        .command (ascii "UKEY 00 04"), .poll false false] := by
  refine own_address TunedBench.programs 0 _ _ _ ?_
  simp only [everyStep_cons, everyStep_nil, and_true]
  decide +kernel

/-- After a self-test the connected device is on the pairing address, in another encoding. -/
theorem own_address_lost : RustUnifying.Programs TunedBench ∧
    ¬∀ actions, Always (Handler.act 0) Handler.OwnAddress
      (.boot (⟨⟩ : TunedBench) erasedChip) actions := by
  refine ⟨TunedBench.programs, fun own => ?_⟩
  refine not_always_of_last [.command (ascii "UPAIR"), .command (ascii "URADIOTEST")] ?_ (own _)
  decide +kernel

end NrfUnifying.Radio
