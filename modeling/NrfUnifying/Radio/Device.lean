import NrfUnifying.Radio.EsbRadio
import NrfUnifying.Storage.Refinement

/-!
# The Unifying device and the worker's state

The protocol stack is a parameter. `RustUnifying.Lawful` says what is relied
on: every keystroke transmission uses the current counter and advances it.
-/

namespace NrfUnifying.Radio

open Lib.Bytes Storage

def keysLen : Nat := 6

/-- The HID usage ids of a report. -/
abbrev Keys := Vector UInt8 6

/-- The public fields of the protocol stack; `world` is everything else. -/
structure Device (W : Type) where
  radio : EsbRadio := {}
  address : Vector UInt8 5
  aesKey : Vector UInt8 16
  aesCounter : UInt32
  channel : UInt8
  timeout : UInt8
  previousTransmit : UInt32
  world : W

structure PairingParams where
  id : UInt8
  productId : UInt16
  deviceType : UInt16
  crypto : UInt32
  serial : UInt32
  capabilities : UInt16
  name : List UInt8
  deriving DecidableEq, Repr

/-- The operations of the protocol stack; `false` reports an error. -/
class RustUnifying (W : Type) where
  new : W → EsbRadio → (address : Vector UInt8 5) → (aesKey : Vector UInt8 16) →
    (aesCounter : UInt32) → (channel : UInt8) → Device W
  configureRadio : Device W → Bool × Device W
  pair : Device W → PairingParams → Bool × Device W
  connect : Device W → Bool × Device W
  tick : Device W → Bool × Device W
  sendEncryptedKeystroke : Device W → Keys → UInt8 → Bool × Device W
  pairingAddress : Vector UInt8 5
  pairingChannels : List UInt8
  firstChannel : UInt8

/-- A keystroke on air: the pairing's address and key, and the counter it used. -/
structure Transmission where
  address : Vector UInt8 5
  aesKey : Vector UInt8 16
  counter : UInt32
  deriving DecidableEq, Repr

section Relied

variable {W : Type}

/-- Nothing that a pairing consists of has changed, and no keystroke was sent. -/
structure Silent (sent : W → List Transmission) (before after : Device W) : Prop where
  address : after.address = before.address
  aesKey : after.aesKey = before.aesKey
  aesCounter : after.aesCounter = before.aesCounter
  sent : sent after.world = sent before.world

/-- What is relied on, for a record `sent` of the keystrokes transmitted so far. -/
structure RustUnifying.Lawful [RustUnifying W] [Board W] (sent : W → List Transmission) :
    Prop where
  new_fields : ∀ (world : W) radio address aesKey aesCounter channel,
    let device := new world radio address aesKey aesCounter channel
    device.address = address ∧ device.aesKey = aesKey ∧ device.aesCounter = aesCounter ∧
      sent device.world = sent world
  configureRadio_silent : ∀ device : Device W, Silent sent device (configureRadio device).2
  connect_silent : ∀ device : Device W, Silent sent device (connect device).2
  tick_silent : ∀ device : Device W, Silent sent device (tick device).2
  pair_sent : ∀ (device : Device W) params,
    sent (pair device params).2.world = sent device.world
  send_counter : ∀ (device : Device W) keys modifier,
    let after := (sendEncryptedKeystroke device keys modifier).2
    after.address = device.address ∧ after.aesKey = device.aesKey ∧
      after.aesCounter = device.aesCounter + 1 ∧
      sent after.world = sent device.world ++ [⟨device.address, device.aesKey, device.aesCounter⟩]
  now_sent : ∀ world : W, sent (Board.now world).2 = sent world
  delay_sent : ∀ (world : W) time, sent (Board.delay world time) = sent world
  attempt_sent : ∀ (world : W) radio, sent (Board.attempt world radio).2 = sent world
  disableRadio_sent : ∀ world : W, sent (Board.disableRadio world) = sent world
  clearPofWarning_sent : ∀ world : W, sent (Board.clearPofWarning world) = sent world

end Relied

/-! ## The worker's state -/

/-- Ticks of the timer in a second. -/
def tickHz : Nat := 32768

/-- The connection state that only the radio worker owns. -/
structure UnifyingState (W : Type) where
  device : Device W
  paired : Bool := false
  connected : Bool := false
  activeSlot : UInt8 := 0
  lastActivity : UInt64
  linkUp : Bool := false

/-! ## Characters -/

/-- The scan code of a character and whether it needs shift, letters and digits apart. -/
def hidTable : List (UInt8 × UInt8 × Bool) := [
  (0x30, 0x27, false), (0x0A, 0x28, false), (0x0D, 0x28, false), (0x1B, 0x29, false),
  (0x08, 0x2A, false), (0x09, 0x2B, false), (0x20, 0x2C, false), (0x2D, 0x2D, false),
  (0x3D, 0x2E, false), (0x5B, 0x2F, false), (0x5D, 0x30, false), (0x5C, 0x31, false),
  (0x3B, 0x33, false), (0x27, 0x34, false), (0x60, 0x35, false), (0x2C, 0x36, false),
  (0x2E, 0x37, false), (0x2F, 0x38, false), (0x21, 0x1E, true), (0x40, 0x1F, true),
  (0x23, 0x20, true), (0x24, 0x21, true), (0x25, 0x22, true), (0x5E, 0x23, true),
  (0x26, 0x24, true), (0x2A, 0x25, true), (0x28, 0x26, true), (0x29, 0x27, true),
  (0x5F, 0x2D, true), (0x2B, 0x2E, true), (0x7B, 0x2F, true), (0x7D, 0x30, true),
  (0x7C, 0x31, true), (0x3A, 0x33, true), (0x22, 0x34, true), (0x7E, 0x35, true),
  (0x3C, 0x36, true), (0x3E, 0x37, true), (0x3F, 0x38, true)]

def charToHid (c : UInt8) : Option (UInt8 × Bool) :=
  if 0x61 ≤ c ∧ c ≤ 0x7A then some (0x04 + (c - 0x61), false)
  else if 0x41 ≤ c ∧ c ≤ 0x5A then some (0x04 + (c - 0x41), true)
  else if 0x31 ≤ c ∧ c ≤ 0x39 then some (0x1E + (c - 0x31), false)
  else hidTable.lookup c

section State

variable {W : Type} [Board W] [RustUnifying W]

/-- The time, read from a device's world. -/
def Device.now (device : Device W) : UInt64 × Device W :=
  let (now, world) := Board.now device.world
  (now, { device with world })

/-- A wait, also one that lets other tasks run. -/
def Device.delay (device : Device W) (microseconds : Nat) : Device W :=
  { device with world := Board.delay device.world microseconds }

def UnifyingState.new (world : W) : UnifyingState W :=
  let device := RustUnifying.new world {} (.replicate 5 0) (.replicate 16 0) 0
    (RustUnifying.firstChannel W)
  let (lastActivity, device) := device.now
  { device, lastActivity }

/-- Restore a persisted pairing into the device. -/
def UnifyingState.applyProfile (state : UnifyingState W) (profile : Profile) : UnifyingState W :=
  { state with
    device := { state.device with
      address := profile.address
      aesKey := profile.aesKey
      aesCounter := profile.aesCounter
      channel := profile.channel }
    paired := true
    connected := false
    linkUp := false }

/-- The current pairing, for persistence. -/
def UnifyingState.currentProfile (state : UnifyingState W) : Profile where
  address := state.device.address
  aesKey := state.device.aesKey
  aesCounter := state.device.aesCounter
  channel := state.device.channel

/-- Switch to a slot and load it; `true` when it has a pairing. -/
def UnifyingState.switchTo (state : UnifyingState W) (flash : Nvmc) (slot : UInt8) :
    Bool × UnifyingState W × Nvmc :=
  -- The live counter is never overwritten with an older record.
  if slot = state.activeSlot then (state.paired, state, flash)
  else
    let flash := if state.paired then save flash state.activeSlot state.currentProfile else flash
    let state := { state with connected := false, linkUp := false, activeSlot := slot }
    let flash := saveActiveSlot flash slot
    match load flash slot with
    | (some profile, flash) => (true, state.applyProfile profile, flash)
    | (none, flash) => (false, { state with paired := false }, flash)

/-! ## Reports -/

/-- Up to `attempts` transmissions of a report, with a tick after each failure. -/
def transmit (keys : Keys) (modifier : UInt8) : (attempts : Nat) → Device W → Bool × Device W
  | 0, device => (false, device)
  | attempts + 1, device =>
      match RustUnifying.sendEncryptedKeystroke device keys modifier with
      | (true, device) => (true, device)
      | (false, device) => transmit keys modifier attempts (RustUnifying.tick device).2

/-- A press report, retried across channels; `true` when it was acknowledged. -/
def pressKey (device : Device W) (keys : Keys) (modifier : UInt8) : Bool × Device W :=
  transmit keys modifier 20 device

/-- The all-keys-up report, best effort. -/
def releaseKeys (device : Device W) : Device W :=
  (transmit (.replicate 6 0) 0x00 20 device).2

/-- A press report and its release. -/
def sendKeyReport (device : Device W) (keys : Keys) (modifier : UInt8) : Bool × Device W :=
  let (pressed, device) := pressKey device keys modifier
  (pressed, releaseKeys (device.delay 10000))

/-- A character as a press and a release; `true` when the press was acknowledged. -/
def typeChar (device : Device W) (c : UInt8) : Bool × Device W :=
  match charToHid c with
  | none => (false, device)
  | some (scancode, shift) =>
      sendKeyReport device #v[scancode, 0, 0, 0, 0, 0] (if shift then 0x02 else 0x00)

/-- Up to `attempts` transmissions of a report, without ticks. -/
def probe (keys : Keys) (modifier : UInt8) : (attempts : Nat) → Device W → Bool × Device W
  | 0, device => (false, device)
  | attempts + 1, device =>
      match RustUnifying.sendEncryptedKeystroke device keys modifier with
      | (true, device) => (true, device)
      | (false, device) => probe keys modifier attempts device

/-- A key report whose number of attempts depends on the link. -/
def sendReport (state : UnifyingState W) (keys : Keys) (modifier : UInt8) :
    Bool × UnifyingState W :=
  let (sent, device) := probe keys modifier (if state.linkUp then 3 else 1) state.device
  (sent, { state with device, linkUp := sent })

end State

/-! ## How reports move the counter -/

section Sends

variable {W : Type} (sent : W → List Transmission)

/-- Between the two devices `count` keystrokes went out, each with the next counter. -/
structure Sends (before after : Device W) (count : Nat) : Prop where
  address : after.address = before.address
  aesKey : after.aesKey = before.aesKey
  aesCounter : after.aesCounter = before.aesCounter + .ofNat count
  sent : sent after.world = sent before.world ++ (List.range count).map fun i =>
    ⟨before.address, before.aesKey, before.aesCounter + .ofNat i⟩

variable {sent} {first second third : Device W}

theorem Silent.refl (device : Device W) : Silent sent device device := ⟨rfl, rfl, rfl, rfl⟩

theorem Silent.trans (front : Silent sent first second) (back : Silent sent second third) :
    Silent sent first third :=
  ⟨back.address.trans front.address, back.aesKey.trans front.aesKey,
    back.aesCounter.trans front.aesCounter, back.sent.trans front.sent⟩

theorem Silent.sends (silent : Silent sent first second) : Sends sent first second 0 where
  address := silent.address
  aesKey := silent.aesKey
  aesCounter := by rw [silent.aesCounter]; exact (UInt32.add_zero _).symm
  sent := by rw [silent.sent]; exact (List.append_nil _).symm

theorem Sends.trans {m n : Nat} (front : Sends sent first second m)
    (back : Sends sent second third n) : Sends sent first third (m + n) where
  address := back.address.trans front.address
  aesKey := back.aesKey.trans front.aesKey
  aesCounter := by
    rw [back.aesCounter, front.aesCounter, UInt32.ofNat_add, UInt32.add_assoc]
  sent := by
    rw [back.sent, front.sent, List.range_add, List.map_append, List.map_map, List.append_assoc]
    simp only [front.address, front.aesKey, front.aesCounter, UInt32.ofNat_add, UInt32.add_assoc,
      Function.comp_def]

variable [Board W] [RustUnifying W]

/-- No receiver acknowledges a keystroke. -/
def Deaf (W : Type) [RustUnifying W] : Prop :=
  ∀ (device : Device W) keys modifier,
    (RustUnifying.sendEncryptedKeystroke device keys modifier).1 = false

/-- At most `most` transmissions, and all of them if none is acknowledged. -/
structure UpTo (W : Type) [RustUnifying W] (most count : Nat) : Prop where
  le : count ≤ most
  deaf : Deaf W → count = most

omit [Board W] in
theorem UpTo.zero : UpTo W 0 0 := ⟨Nat.le_refl 0, fun _ => rfl⟩

omit [Board W] in
theorem UpTo.add {firstMost first secondMost second : Nat} (front : UpTo W firstMost first)
    (back : UpTo W secondMost second) : UpTo W (firstMost + secondMost) (first + second) :=
  ⟨Nat.add_le_add front.le back.le, fun deaf => by rw [front.deaf deaf, back.deaf deaf]⟩

theorem Silent.delay (lawful : RustUnifying.Lawful sent) (device : Device W) (time : Nat) :
    Silent sent device (device.delay time) :=
  ⟨rfl, rfl, rfl, lawful.delay_sent _ _⟩

theorem Silent.now (lawful : RustUnifying.Lawful sent) (device : Device W) :
    Silent sent device device.now.2 :=
  ⟨rfl, rfl, rfl, lawful.now_sent _⟩

theorem Sends.one (lawful : RustUnifying.Lawful sent) (device : Device W) (keys : Keys)
    (modifier : UInt8) :
    Sends sent device (RustUnifying.sendEncryptedKeystroke device keys modifier).2 1 := by
  obtain ⟨address, aesKey, aesCounter, log⟩ := lawful.send_counter device keys modifier
  refine ⟨address, aesKey, aesCounter, ?_⟩
  rw [log]
  simp

theorem Sends.transmit (lawful : RustUnifying.Lawful sent) (keys : Keys) (modifier : UInt8)
    (attempts : Nat) (device : Device W) :
    ∃ count, UpTo W attempts count ∧
      Sends sent device (transmit keys modifier attempts device).2 count := by
  induction attempts generalizing device with
  | zero => exact ⟨0, .zero, (Silent.refl device).sends⟩
  | succ attempts ih =>
      have one := Sends.one lawful device keys modifier
      rw [Radio.transmit]
      cases done : RustUnifying.sendEncryptedKeystroke device keys modifier with
      | mk heard after =>
      rw [done] at one
      cases heard with
      | true =>
          refine ⟨1, ⟨by omega, fun deaf => ?_⟩, one⟩
          exact absurd ((congrArg Prod.fst done).symm.trans (deaf device keys modifier)) (by simp)
      | false =>
          have tick := (lawful.tick_silent after).sends
          obtain ⟨count, upTo, rest⟩ := ih (RustUnifying.tick after).2
          refine ⟨1 + 0 + count, ⟨?_, fun deaf => ?_⟩, (one.trans tick).trans rest⟩
          · have := upTo.le
            omega
          · have := upTo.deaf deaf
            omega

theorem Sends.probe (lawful : RustUnifying.Lawful sent) (keys : Keys) (modifier : UInt8)
    (attempts : Nat) (device : Device W) :
    ∃ count, UpTo W attempts count ∧
      Sends sent device (probe keys modifier attempts device).2 count := by
  induction attempts generalizing device with
  | zero => exact ⟨0, .zero, (Silent.refl device).sends⟩
  | succ attempts ih =>
      have one := Sends.one lawful device keys modifier
      rw [Radio.probe]
      cases done : RustUnifying.sendEncryptedKeystroke device keys modifier with
      | mk heard after =>
      rw [done] at one
      cases heard with
      | true =>
          refine ⟨1, ⟨by omega, fun deaf => ?_⟩, one⟩
          exact absurd ((congrArg Prod.fst done).symm.trans (deaf device keys modifier)) (by simp)
      | false =>
          obtain ⟨count, upTo, rest⟩ := ih after
          refine ⟨1 + count, ⟨?_, fun deaf => ?_⟩, one.trans rest⟩
          · have := upTo.le
            omega
          · have := upTo.deaf deaf
            omega

theorem Sends.sendKeyReport (lawful : RustUnifying.Lawful sent) (device : Device W) (keys : Keys)
    (modifier : UInt8) :
    ∃ count, UpTo W 40 count ∧ Sends sent device (sendKeyReport device keys modifier).2 count := by
  obtain ⟨pressed, pressedUpTo, press⟩ := Sends.transmit lawful keys modifier 20 device
  have wait := (Silent.delay lawful (pressKey device keys modifier).2 10000).sends
  obtain ⟨released, releasedUpTo, release⟩ := Sends.transmit lawful (.replicate 6 0) 0x00 20
    ((pressKey device keys modifier).2.delay 10000)
  exact ⟨pressed + 0 + released, pressedUpTo.add releasedUpTo, (press.trans wait).trans release⟩

theorem Sends.typeChar (lawful : RustUnifying.Lawful sent) (device : Device W) {c : UInt8}
    {key : UInt8 × Bool} (typable : charToHid c = some key) :
    ∃ count, UpTo W 40 count ∧ Sends sent device (typeChar device c).2 count := by
  rw [Radio.typeChar, typable]
  exact Sends.sendKeyReport lawful device _ _

end Sends

end NrfUnifying.Radio
