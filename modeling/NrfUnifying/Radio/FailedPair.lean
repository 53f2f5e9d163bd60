import NrfUnifying.Lib.Runs
import NrfUnifying.Radio.Worker

/-!
# A failed pairing leaves the old target as it was

An attempt to pair may overwrite the address, the key, the counter and the
channel. What was paired before is put back from a snapshot; where nothing was
paired, the half-written fields stay unused until they are replaced.
-/

namespace NrfUnifying.Radio

open Lib.Bytes Lib.Runs Storage

variable {W : Type} [Board W] [RustUnifying W]

/-- The ways in which `UPAIR` is refused. -/
inductive PairFailure where
  | slot
  | radio
  | pair
  deriving DecidableEq, Repr

def PairFailure.text : PairFailure → List UInt8
  | slot => ascii "ERR SLOT\r\n"
  | radio => ascii "ERR RADIO\r\n"
  | pair => ascii "ERR PAIR\r\n"

/-- Whether the radio takes the old pairing back after eight failed attempts. -/
def UnifyingState.restores (state : UnifyingState W) : Bool :=
  let ready := (RustUnifying.configureRadio state.request.2).2
  let device := (pairAttempts state.request.1 8 ready).2
  (RustUnifying.configureRadio (state.restored device).device).1

/-- What is left of the pairing, the link and the flash. -/
structure LeftAlone (failure : PairFailure) (before after : Handler W) : Prop where
  paired : after.state.paired = before.state.paired
  activeSlot : after.state.activeSlot = before.state.activeSlot
  flash : after.flash = before.flash
  profile : before.state.paired = true →
    after.state.currentProfile = before.state.currentProfile
  connected : before.state.paired = true → after.state.connected =
    (before.state.connected && (failure != .pair || before.state.restores))
  unconnected : before.state.paired = false → after.state.connected = false

/-- No profile has been written. -/
inductive Unsaved (before after : Nvmc) : Prop where
  | kept (same : after = before)
  | active (slot : UInt8) (written : after = saveActiveSlot before slot)
  | cleared (slot : UInt8) (written : after = clearSlot before slot)
  | clearedAll (written : after = clearAll before)

/-- The pairing's fields have been replaced as a whole: by an attempt that succeeds, by a stored
profile, or by a power-up. -/
inductive Replaced (line : List UInt8) (before after : Handler W) : Prop where
  | pair (command : isPair line) (pairs : before.state.pairs = true)
  | stored (slot : UInt8) (profile : Profile)
      (flash : after.flash = saveActiveSlot before.flash slot)
      (loaded : (load after.flash slot).1 = some profile)
      (fields : after.state.currentProfile = profile)
  | powerUp (world : W) (boot : after = .boot world before.flash)

/-- A step that does not use the fields of the pairing. -/
structure Unused (sent : W → List Transmission) (line : List UInt8) (before after : Handler W) :
    Prop where
  silent : sent after.state.device.world = sent before.state.device.world
  fields : after.state.paired = false ∧ Unsaved before.flash after.flash ∨
    Replaced line before after

/-- The text of a refusal tells which one it is. -/
theorem PairFailure.eq_of_reply {first second : PairFailure}
    (reply : (({} : ReplySink).write first.text).bytes = second.text) : first = second := by
  cases first <;> cases second <;> first | rfl | exact absurd reply (by decide)

/-- The reply of a successful pairing is none of the refusals. -/
theorem PairFailure.ne_paired (failure : PairFailure) (text : List UInt8) :
    (({} : ReplySink).write (ascii "PAIRED " ++ text)).bytes ≠ failure.text := by
  intro reply
  have first := congrArg List.head? reply
  unfold ReplySink.write at first
  split at first
  · cases failure <;> cases first
  · cases failure <;> exact absurd first (by simp [PairFailure.text, ascii])

section Failure

variable {sent : W → List Transmission} (lawful : RustUnifying.Lawful sent)
  (channel : ∀ device : Device W, (RustUnifying.configureRadio device).2.channel = device.channel)

include lawful channel

/-- Configuring the radio leaves the pairing as it is. -/
theorem currentProfile_configured (state : UnifyingState W) (device : Device W) :
    ({ state with device := (RustUnifying.configureRadio device).2 } :
        UnifyingState W).currentProfile =
      ({ state with device } : UnifyingState W).currentProfile := by
  have silent := lawful.configureRadio_silent device
  unfold UnifyingState.currentProfile
  rw [silent.address, silent.aesKey, silent.aesCounter, channel]

theorem Handler.failPair_leaves (handler : Handler W) (linked : handler.state.Linked)
    {ready device : Device W} (text : List UInt8)
    (configures : RustUnifying.configureRadio handler.state.request.2 = (true, ready))
    (attempts : pairAttempts handler.state.request.1 8 ready = (false, device)) :
    LeftAlone .pair handler
      (({ handler with state := handler.state.failPair device } : Handler W).write text) := by
  have restores : handler.state.restores =
      (RustUnifying.configureRadio (handler.state.restored device).device).1 := by
    unfold UnifyingState.restores
    dsimp only
    rw [configures, attempts]
  unfold UnifyingState.failPair
  by_cases paired : handler.state.paired = true
  · have contrary (unpaired : handler.state.paired = false) : False :=
      absurd (unpaired.symm.trans paired) Bool.false_ne_true
    rw [if_pos paired]
    by_cases connected : handler.state.connected = true
    · rw [if_pos connected]
      refine ⟨paired.symm, rfl, rfl, fun _ => ?_, fun _ => ?_, fun unpaired => ?_⟩
      · exact currentProfile_configured lawful channel (handler.state.restored device) _
      · rw [connected, restores]
        rfl
      · exact (contrary unpaired).elim
    · rw [if_neg connected]
      rw [Bool.not_eq_true] at connected
      refine ⟨paired.symm, rfl, rfl, fun _ => rfl, fun _ => ?_, fun _ => rfl⟩
      rw [connected]
      rfl
  · rw [if_neg paired]
    exact ⟨rfl, rfl, rfl, fun isPaired => absurd isPaired paired,
      fun isPaired => absurd isPaired paired, linked.disconnected⟩

/-- A refused pairing leaves the old target alone. -/
theorem Handler.upair_leaves {handler after : Handler W} (linked : handler.state.Linked)
    {line : List UInt8} (done : handler.ready.upair line = some after) {failure : PairFailure}
    (reply : after.sink.bytes = failure.text) : LeftAlone failure handler after := by
  have ends := handler.ready.upair_ends line
  rw [done] at ends
  cases ends with
  | slot refused =>
      obtain rfl : PairFailure.slot = failure := PairFailure.eq_of_reply reply
      exact ⟨rfl, rfl, rfl, fun _ => rfl, fun _ => (Bool.and_true _).symm, linked.disconnected⟩
  | radio slot device named failed =>
      obtain rfl : PairFailure.radio = failure := PairFailure.eq_of_reply reply
      have kept := currentProfile_configured lawful channel handler.state
        handler.ready.state.request.2
      rw [failed] at kept
      exact ⟨rfl, rfl, rfl, fun _ => kept, fun _ => (Bool.and_true _).symm, linked.disconnected⟩
  | failed slot ready device named configures attempts =>
      obtain rfl : PairFailure.pair = failure := PairFailure.eq_of_reply reply
      obtain ⟨paired, activeSlot, flash, profile, connected, unconnected⟩ :=
        handler.ready.failPair_leaves lawful channel linked (ascii "ERR PAIR\r\n") configures
          attempts
      exact ⟨paired, activeSlot, flash, profile, connected, unconnected⟩
  | paired slot ready device named configures attempts =>
      refine absurd ?_ (failure.ne_paired (device.address.toList.flatMap hexDigits ++
        ascii " CH=" ++ numeral device.channel.toUInt32 ++ ascii "\r\n"))
      rw [← reply]
      simp only [List.append_assoc]
      rfl

end Failure

/-! ## While nothing is paired -/

section Unpaired

variable {sent : W → List Transmission} (lawful : RustUnifying.Lawful sent) {handler : Handler W}
  (unpaired : handler.state.paired = false) (disconnected : handler.state.connected = false)

include unpaired

include lawful in
theorem Handler.uradiotest_unpaired {after : Handler W} (done : handler.uradiotest = some after) :
    after.state.paired = false := by
  unfold Handler.uradiotest at done
  split at done
  · obtain rfl := Option.some.inj done
    exact unpaired
  next device _ =>
    obtain ⟨tested, all, same⟩ :=
      (handler.setDevice device).testEncodings_tested lawful addrEncodings
    rw [all] at done
    obtain rfl := Option.some.inj done
    change tested.state.paired = false
    rw [same.state]
    exact unpaired

theorem Handler.upair_replaces {line : List UInt8} (command : isPair line) {after : Handler W}
    (done : handler.upair line = some after) (paired : after.state.paired = true) :
    Replaced line handler after := by
  have ends := handler.upair_ends line
  rw [done] at ends
  have contrary (same : after.state.paired = false) : Replaced line handler after :=
    absurd (same.symm.trans paired) Bool.false_ne_true
  cases ends with
  | slot _ => exact contrary unpaired
  | radio _ _ _ _ => exact contrary unpaired
  | failed slot ready device named configures attempts =>
      apply contrary
      change (handler.state.failPair device).paired = false
      unfold UnifyingState.failPair
      rw [if_neg (by rw [unpaired]; exact Bool.false_ne_true)]
      exact unpaired
  | paired slot ready device named configures attempts =>
      apply Replaced.pair command
      rw [UnifyingState.pairs_eq, configures, attempts]
      rfl

omit [Board W] [RustUnifying W] in
theorem Handler.udelete_unpaired (line : List UInt8) :
    (handler.udelete line).state.paired = false := by
  unfold Handler.udelete
  split
  · split
    · change UnifyingState.paired (ite _ _ _) = false
      split
      · rfl
      · exact unpaired
    · exact unpaired
  · rfl

include lawful in
/-- A switch pairs only with what is stored. -/
theorem Handler.uswitch_replaces
    (channel : ∀ device : Device W, (RustUnifying.configureRadio device).2.channel = device.channel)
    {line rest : List UInt8} {after : Handler W}
    (done : handler.uswitch rest = some after) (paired : after.state.paired = true) :
    Replaced line handler after := by
  have contrary (same : after.state.paired = false) : Replaced line handler after :=
    absurd (same.symm.trans paired) Bool.false_ne_true
  unfold Handler.uswitch at done
  split at done
  · obtain rfl := Option.some.inj done
    exact contrary unpaired
  next slot named =>
    unfold Handler.switchInto UnifyingState.switchTo at done
    by_cases same : slot = handler.state.activeSlot
    · rw [if_pos same, unpaired] at done
      dsimp only at done
      rw [writeOut_of_wrote (formatSwitchedEmpty_wrote _)] at done
      obtain rfl := Option.some.inj done
      exact contrary unpaired
    · rw [if_neg same, if_neg (by rw [unpaired]; exact Bool.false_ne_true)] at done
      dsimp only at done
      have kept := load_flash (saveActiveSlot handler.flash slot) slot
      cases loaded : load (saveActiveSlot handler.flash slot) slot with
      | mk found flash =>
      rw [loaded] at done kept
      obtain rfl : flash = saveActiveSlot handler.flash slot := kept
      cases found with
      | none =>
          dsimp only at done
          rw [writeOut_of_wrote (formatSwitchedEmpty_wrote _)] at done
          obtain rfl := Option.some.inj done
          exact contrary rfl
      | some profile =>
          have first : (load (saveActiveSlot handler.flash slot) slot).1 = some profile := by
            rw [loaded]
          have fields := currentProfile_configured lawful channel handler.state
            (({ handler.state with connected := false, linkUp := false, activeSlot := slot } :
              UnifyingState W).applyProfile profile).device
          dsimp only at done fields
          generalize RustUnifying.configureRadio (W := W) _ = result at done fields
          obtain ⟨configured, device⟩ := result
          cases configured with
          | true =>
              dsimp only at done
              rw [writeOut_of_wrote (formatSwitched_wrote _ _)] at done
              obtain rfl := Option.some.inj done
              exact .stored slot profile rfl first fields
          | false =>
              obtain rfl := Option.some.inj done
              exact .stored slot profile rfl first fields

include disconnected lawful in
/-- While nothing is paired, a command that pairs replaces the fields of the pairing. -/
theorem handleUnifyingCommand_replaces
    (channel : ∀ device : Device W, (RustUnifying.configureRadio device).2.channel = device.channel)
    (buildTime : Nat) {line : List UInt8} {after : Handler W}
    (done : handleUnifyingCommand buildTime handler line = some after)
    (paired : after.state.paired = true) : Replaced line handler after := by
  have contrary (same : after.state.paired = false) : Replaced line handler after :=
    absurd (same.symm.trans paired) Bool.false_ne_true
  have written {data : List UInt8} (wrote : some (handler.write data) = some after) :
      Replaced line handler after := by
    obtain rfl := Option.some.inj wrote
    exact contrary unpaired
  unfold handleUnifyingCommand at done
  split at done
  · obtain rfl := Option.some.inj done
    exact contrary unpaired
  split at done
  · exact contrary (Handler.uradiotest_unpaired lawful unpaired done)
  split at done
  next command => exact Handler.upair_replaces unpaired command done paired
  split at done
  · unfold Handler.uconnect at done
    rw [if_pos unpaired] at done
    exact written done
  split at done
  · unfold Handler.ukeepalive at done
    rw [if_pos disconnected] at done
    exact written done
  split at done
  · unfold Handler.usleep at done
    rw [if_neg (by rw [disconnected]; exact Bool.false_ne_true)] at done
    exact written done
  split at done
  · apply contrary
    rw [writeOut_state done]
    exact unpaired
  split at done
  · exact written done
  split at done
  · obtain rfl := Option.some.inj done
    exact contrary (Handler.udelete_unpaired unpaired line)
  unfold Handler.handleArguments at done
  split at done
  · exact Handler.uswitch_replaces lawful unpaired channel done paired
  split at done
  · unfold Handler.ukey at done
    rw [if_pos disconnected] at done
    exact written done
  split at done
  · unfold Handler.ukeydown at done
    rw [if_pos disconnected] at done
    exact written done
  split at done
  · unfold Handler.utype at done
    rw [if_pos disconnected] at done
    exact written done
  · exact written done

end Unpaired

section Run

variable {sent : W → List Transmission} (lawful : RustUnifying.Lawful sent)
  (channel : ∀ device : Device W, (RustUnifying.configureRadio device).2.channel = device.channel)

/-- Without a pairing to send with or to save, an effect is none on the air, and on the flash at
most a slot chosen or cleared. -/
theorem Effect.unused {line : List UInt8} {before after : Handler W}
    (effect : Effect sent line before after) (disconnected : before.state.connected = false)
    (unpaired : before.state.paired = false) :
    sent after.state.device.world = sent before.state.device.world ∧
      (after.state.paired = false → Unsaved before.flash after.flash) := by
  cases effect with
  | reports count sends connected _ _ flash =>
      have none : count = 0 := by
        by_contra some
        exact absurd (disconnected.symm.trans (connected (Nat.pos_of_ne_zero some)))
          Bool.false_ne_true
      subst none
      refine ⟨?_, fun _ => .kept flash⟩
      rw [sends.sent]
      exact List.append_nil _
  | saved _ _ _ paired _ _ => exact absurd (unpaired.symm.trans paired.1) Bool.false_ne_true
  | unpaired log _ _ flash => exact ⟨log, fun _ => .kept flash⟩
  | paired slot _ _ _ log paired _ _ =>
      exact ⟨log, fun still => absurd (still.symm.trans paired) Bool.false_ne_true⟩
  | switched slot _ _ log _ _ _ flash =>
      rw [if_neg (by rw [unpaired]; exact Bool.false_ne_true)] at flash
      exact ⟨log, fun _ => .active slot flash⟩
  | deleted slot _ silent _ _ flash => exact ⟨silent.sent, fun _ => .cleared slot flash⟩
  | deletedAll silent _ _ flash => exact ⟨silent.sent, fun _ => .clearedAll flash⟩

include lawful channel

/-- Whatever the worker does next while nothing is paired, it does not use the pairing. -/
theorem Handler.act_unused (buildTime : Nat) {handler : Handler W} (linked : handler.state.Linked)
    (unpaired : handler.state.paired = false) (action : Action) :
    (handler.act buildTime action).state.Linked ∧
      Unused sent action.line handler (handler.act buildTime action) := by
  have disconnected := linked.disconnected unpaired
  by_cases power : action = .powerCycle
  · subst power
    exact ⟨.of_disconnected (Handler.boot_disconnected _ _), Handler.boot_sent lawful _ _,
      .inr (.powerUp _ rfl)⟩
  · obtain ⟨stays, effect⟩ := handler.act_effect lawful buildTime power
    obtain ⟨silent, unsaved⟩ := effect.unused disconnected unpaired
    refine ⟨stays linked, silent, ?_⟩
    cases paired : (handler.act buildTime action).state.paired with
    | false => exact .inl ⟨rfl, unsaved paired⟩
    | true =>
        have contrary (same : (handler.act buildTime action).state.paired = false) :
            Replaced action.line handler (handler.act buildTime action) :=
          absurd (same.symm.trans paired) Bool.false_ne_true
        right
        cases action with
        | powerCycle => exact absurd rfl power
        | allUp =>
            apply contrary
            change handler.ready.allUp.state.paired = false
            unfold Handler.allUp
            split <;> exact unpaired
        | poll uploadActive uartOtaActive =>
            apply contrary
            change (handler.ready.pollRadio uploadActive uartOtaActive).state.paired = false
            have idle : ¬(handler.ready.state.connected = true ∧ uploadActive = false ∧
                uartOtaActive = false) := fun active =>
              absurd (disconnected.symm.trans active.1) Bool.false_ne_true
            unfold Handler.pollRadio
            simp only [if_neg idle]
            split
            · rw [Handler.saveIfPaired_state]
              exact unpaired
            · exact unpaired
        | command line =>
            obtain ⟨after, done, -⟩ : Handles sent line _ handler.ready
                (handleUnifyingCommand buildTime handler.ready line) :=
              handleUnifyingCommand_handles lawful _ _
            have acted : handler.act buildTime (.command line) = after := by
              simp only [Handler.act, done]
            rw [acted] at paired ⊢
            have unpaired : handler.ready.state.paired = false := unpaired
            have replaced := handleUnifyingCommand_replaces lawful unpaired disconnected channel
              buildTime done paired
            cases replaced with
            | pair command pairs => exact .pair command pairs
            | stored slot profile flash loaded fields =>
                exact .stored slot profile flash loaded fields
            | powerUp world boot => exact .powerUp world boot

/-- A `UPAIR` that is refused leaves the pairing, the slot and the flash as they were. Where nothing
was paired, nothing is sent with the fields that the attempts have overwritten and none of them is
saved, however the run goes on, until they are replaced. -/
theorem failed_pairing (buildTime : Nat) (handler : Handler W) (linked : handler.state.Linked)
    (line : List UInt8) (command : isPair line) :
    ∃ after, handleUnifyingCommand buildTime handler.ready line = some after ∧
      ∀ failure : PairFailure, after.sink.bytes = failure.text →
        LeftAlone failure handler after ∧
        (handler.state.paired = false → ∀ actions,
          Always (Handler.act buildTime) (fun handler => handler.state.paired = false)
            after actions →
          ∀ action, Unused sent action.line (actions.foldl (Handler.act buildTime) after)
            ((actions ++ [action]).foldl (Handler.act buildTime) after)) := by
  obtain ⟨after, done, stays, -⟩ : Handles sent line _ handler.ready
      (handleUnifyingCommand buildTime handler.ready line) :=
    handleUnifyingCommand_handles lawful _ _
  refine ⟨after, done, fun failure reply => ⟨?_, fun unpaired actions always action => ?_⟩⟩
  · rw [handle_upair command] at done
    exact Handler.upair_leaves lawful channel linked done reply
  · have every := always.everyStep
    have both : Always (Handler.act buildTime) (fun handler => handler.state.Linked) after
        actions :=
      .of_everyStep (fun handler action linked unpaired =>
        (Handler.act_unused lawful channel buildTime linked unpaired action).1) (stays linked) every
    rw [List.foldl_append]
    exact (Handler.act_unused lawful channel buildTime (both actions [] (List.append_nil _).symm)
      (always actions [] (List.append_nil _).symm) action).2

end Run

/-! ## A receiver that spoils the attempt -/

/-- A world whose receiver breaks every pairing off after the address and the key were written. -/
structure SpoiledBench where
  log : List Transmission := []
  deriving DecidableEq, Repr

instance : Board SpoiledBench where
  now world := (0, world)
  delay world _ := world
  attempt world radio := (⟨radio.rxBuf, false, false⟩, world)
  disableRadio world := world
  pofWarning _ := false
  clearPofWarning world := world

instance : RustUnifying SpoiledBench where
  new world radio address aesKey aesCounter channel :=
    { radio, address, aesKey, aesCounter, channel, timeout := 20, previousTransmit := 0, world }
  configureRadio device := (true, device)
  pair device params :=
    (false, { device with
      address := .replicate 5 params.id
      aesKey := .replicate 16 0xEE
      aesCounter := 0
      channel := 77 })
  connect device := (true, device)
  tick device := (true, device)
  sendEncryptedKeystroke device _ _ :=
    (true, { device with
      aesCounter := device.aesCounter + 1
      world := ⟨device.world.log ++ [⟨device.address, device.aesKey, device.aesCounter⟩]⟩ })
  pairingAddress := .replicate 5 0xBB
  pairingChannels := [5, 8, 14]
  firstChannel := 5

theorem SpoiledBench.lawful : RustUnifying.Lawful SpoiledBench.log where
  new_fields _ _ _ _ _ _ := ⟨rfl, rfl, rfl, rfl⟩
  configureRadio_silent _ := .refl _
  connect_silent _ := .refl _
  tick_silent _ := .refl _
  pair_sent _ _ := rfl
  send_counter _ _ _ := ⟨rfl, rfl, rfl, rfl⟩
  now_sent _ := rfl
  delay_sent _ _ := rfl
  attempt_sent _ _ := rfl
  disableRadio_sent _ := rfl
  clearPofWarning_sent _ := rfl

/-- A device in use. -/
def SpoiledBench.inUse : Handler SpoiledBench where
  state := { UnifyingState.new (⟨[]⟩ : SpoiledBench) with
    device := RustUnifying.new ⟨[]⟩ {} (.replicate 5 0x11) (.replicate 16 0x22) 9 8
    paired := true
    connected := true }
  flash := erasedChip

theorem failed_pairing_inUse :
    ∃ after, handleUnifyingCommand 0 SpoiledBench.inUse.ready (ascii "UPAIR 02") = some after ∧
      LeftAlone .pair SpoiledBench.inUse after := by
  obtain ⟨after, done, leaves⟩ := failed_pairing SpoiledBench.lawful (fun _ => rfl) 0
    SpoiledBench.inUse (fun _ => rfl) (ascii "UPAIR 02") (by decide)
  refine ⟨after, done, (leaves .pair ?_).1⟩
  have reply : (handleUnifyingCommand 0 SpoiledBench.inUse.ready (ascii "UPAIR 02")).map
      (fun after => after.sink.bytes) = some PairFailure.pair.text := by decide +kernel
  rw [done] at reply
  exact Option.some.inj reply

end NrfUnifying.Radio
