import NrfUnifying.Lib.Runs
import NrfUnifying.Radio.Worker

/-!
# What `link_up` says of the link

`link_up` is meant to tell whether the receiver of the active slot answered the
last transmission. The background tick, a `UKEYDOWN` and the commands that
connect keep it true to that. A `USLEEP`, a `UDELETE` and the transmissions that
do not look at it leave it as it is.
-/

namespace NrfUnifying.Radio

open Lib.Bytes Lib.Runs Storage

section Air

variable {W : Type}

/-- What is relied on, for a record `acks` of the transmissions on air (keystrokes, keep-alives and
connection attempts) that tells for each whether it was acknowledged. A keystroke reports its own
acknowledgement, a connection is made by an acknowledged transmission, and a tick is an error
unless nothing was due or its last transmission was acknowledged. The self-test's attempts are
transmissions too. -/
structure RustUnifying.Answers [RustUnifying W] [Board W] (acks : W → List Bool) : Prop where
  new : ∀ (world : W) radio address aesKey aesCounter channel,
    acks (new world radio address aesKey aesCounter channel).world = acks world
  configureRadio : ∀ device : Device W, acks (configureRadio device).2.world = acks device.world
  send : ∀ (device : Device W) keys modifier,
    acks (sendEncryptedKeystroke device keys modifier).2.world =
      acks device.world ++ [(sendEncryptedKeystroke device keys modifier).1]
  connect : ∀ device : Device W, ∃ made,
    acks (connect device).2.world = acks device.world ++ made ∧
      ((connect device).1 = true → made.getLast? = some true)
  tick : ∀ device : Device W, ∃ made,
    acks (tick device).2.world = acks device.world ++ made ∧
      ((tick device).1 = true → made.getLast? = some true ∨
        made = [] ∧ (tick device).2.previousTransmit = device.previousTransmit)
  pair : ∀ (device : Device W) params, ∃ made,
    acks (pair device params).2.world = acks device.world ++ made
  now : ∀ world : W, acks (Board.now world).2 = acks world
  delay : ∀ (world : W) time, acks (Board.delay world time) = acks world
  attempt : ∀ (world : W) radio, acks (Board.attempt world radio).2 =
    acks world ++ [(Board.attempt world radio).1.ended && (Board.attempt world radio).1.crcOk]
  disableRadio : ∀ world : W, acks (Board.disableRadio world) = acks world
  clearPofWarning : ∀ world : W, acks (Board.clearPofWarning world) = acks world

/-- Between the two devices the transmissions `made` went on air. -/
def Airs (acks : W → List Bool) (before after : Device W) (made : List Bool) : Prop :=
  acks after.world = acks before.world ++ made

variable {acks : W → List Bool} {first second third : Device W} {made more : List Bool}

theorem Airs.silent (same : acks second.world = acks first.world) : Airs acks first second [] :=
  same.trans (List.append_nil _).symm

theorem Airs.trans (front : Airs acks first second made) (back : Airs acks second third more) :
    Airs acks first third (made ++ more) := by
  unfold Airs at front back ⊢
  rw [back, front, List.append_assoc]

variable [RustUnifying W] [Board W] (answers : RustUnifying.Answers acks)

include answers

/-- Attempts and waits only add to what was on air. -/
theorem RustUnifying.Answers.passes :
    Passes fun before after : W => ∃ made, acks after = acks before ++ made where
  refl _ := ⟨[], (List.append_nil _).symm⟩
  trans := by
    rintro first second third ⟨front, second⟩ ⟨back, third⟩
    exact ⟨front ++ back, by rw [third, second, List.append_assoc]⟩
  attempt world radio := ⟨_, answers.attempt world radio⟩
  delay world time := ⟨[], (answers.delay world time).trans (List.append_nil _).symm⟩

theorem Airs.transmit (keys : Keys) (modifier : UInt8) (attempts : Nat) (device : Device W) :
    ∃ made, Airs acks device (transmit keys modifier attempts device).2 made := by
  induction attempts generalizing device with
  | zero => exact ⟨[], .silent rfl⟩
  | succ attempts ih =>
      have once := answers.send device keys modifier
      rw [Radio.transmit]
      generalize RustUnifying.sendEncryptedKeystroke device keys modifier = result at once
      obtain ⟨done, after⟩ := result
      cases done with
      | true => exact ⟨_, once⟩
      | false =>
          obtain ⟨ticked, tick, -⟩ := answers.tick after
          obtain ⟨made, rest⟩ := ih (RustUnifying.tick after).2
          exact ⟨_, Airs.trans (Airs.trans once tick) rest⟩

/-- A probe ends with a transmission that has its result. -/
theorem Airs.probe (keys : Keys) (modifier : UInt8) (attempts : Nat) (device : Device W) :
    ∃ made, Airs acks device (probe keys modifier (attempts + 1) device).2 made ∧
      made.length ≤ attempts + 1 ∧
      made.getLast? = some (Radio.probe keys modifier (attempts + 1) device).1 := by
  induction attempts generalizing device with
  | zero =>
      have once := answers.send device keys modifier
      unfold Radio.probe
      generalize RustUnifying.sendEncryptedKeystroke device keys modifier = result at once
      obtain ⟨done, after⟩ := result
      cases done with
      | true => exact ⟨_, once, Nat.le_refl 1, rfl⟩
      | false => exact ⟨_, once, Nat.le_refl 1, rfl⟩
  | succ attempts ih =>
      have once := answers.send device keys modifier
      rw [Radio.probe]
      generalize RustUnifying.sendEncryptedKeystroke device keys modifier = result at once
      obtain ⟨done, after⟩ := result
      cases done with
      | true => exact ⟨_, once, Nat.le_add_left 1 _, rfl⟩
      | false =>
          obtain ⟨made, rest, count, last⟩ := ih after
          refine ⟨_, Airs.trans once rest, ?_, ?_⟩
          · rw [List.length_append, List.length_singleton, Nat.add_comm]
            exact Nat.add_le_add_right count 1
          · rw [List.getLast?_append, last]
            rfl

theorem Airs.ticks (count : Nat) (device : Device W) :
    ∃ made, Airs acks device (ticks count device) made := by
  induction count generalizing device with
  | zero => exact ⟨[], .silent rfl⟩
  | succ count ih =>
      obtain ⟨ticked, tick, -⟩ := answers.tick device
      obtain ⟨made, rest⟩ := ih (RustUnifying.tick device).2
      exact ⟨_, Airs.trans tick rest⟩

theorem Airs.sendKeyReport (device : Device W) (keys : Keys) (modifier : UInt8) :
    ∃ made, Airs acks device (sendKeyReport device keys modifier).2 made := by
  obtain ⟨pressed, press⟩ := Airs.transmit answers keys modifier 20 device
  obtain ⟨released, release⟩ := Airs.transmit answers (.replicate 6 0) 0x00 20
    ((pressKey device keys modifier).2.delay 10000)
  exact ⟨_, press.trans (.trans (.silent (answers.delay _ _)) release)⟩

theorem Airs.typeText (text : List UInt8) (ok total : UInt32) (device : Device W) :
    ∃ made, Airs acks device (typeText text ok total device).2.2 made := by
  induction text generalizing ok total device with
  | nil => exact ⟨[], .silent rfl⟩
  | cons c rest ih =>
      rw [Radio.typeText]
      split
      · obtain ⟨made, airs⟩ := ih ok total (device.delay 15000)
        exact ⟨_, .trans (.silent (answers.delay _ _)) airs⟩
      next scancode known =>
        have typed : ∃ made, Airs acks device (typeChar device c).2 made := by
          unfold Radio.typeChar
          rw [known]
          exact Airs.sendKeyReport answers device _ _
        obtain ⟨made, press⟩ := typed
        obtain ⟨more, airs⟩ := ih (if (typeChar device c).1 then ok + 1 else ok) (total + 1)
          ((typeChar device c).2.delay 15000)
        exact ⟨_, press.trans (.trans (.silent (answers.delay _ _)) airs)⟩

/-- A connection that is made ends with an acknowledged transmission. -/
theorem Airs.connectAttempts (attempts : Nat) (device : Device W) :
    ∃ made, Airs acks device (connectAttempts attempts device).2 made ∧
      ((Radio.connectAttempts attempts device).1 = true → made.getLast? = some true) := by
  induction attempts generalizing device with
  | zero => exact ⟨[], .silent rfl, (absurd · Bool.false_ne_true)⟩
  | succ attempts ih =>
      obtain ⟨made, once, acked⟩ := answers.connect device
      rw [Radio.connectAttempts]
      generalize RustUnifying.connect device = result at once acked
      obtain ⟨done, after⟩ := result
      cases done with
      | true => exact ⟨made, once, acked⟩
      | false =>
          obtain ⟨more, rest, last⟩ := ih (after.delay 20000)
          refine ⟨_, Airs.trans once (.trans (.silent (answers.delay _ _)) rest), fun done => ?_⟩
          rw [List.nil_append, List.getLast?_append, last done]
          rfl

theorem Airs.pairAttempts (params : PairingParams) (attempts : Nat) (device : Device W) :
    ∃ made, Airs acks device (pairAttempts params attempts device).2 made := by
  induction attempts generalizing device with
  | zero => exact ⟨[], .silent rfl⟩
  | succ attempts ih =>
      obtain ⟨made, once⟩ := answers.pair device params
      rw [Radio.pairAttempts]
      generalize RustUnifying.pair device params = result at once
      obtain ⟨done, after⟩ := result
      cases done with
      | true => exact ⟨made, once⟩
      | false =>
          obtain ⟨more, rest⟩ := ih (after.delay 20000)
          exact ⟨_, Airs.trans once (.trans (.silent (answers.delay _ _)) rest)⟩

end Air

/-! ## Telling the truth -/

section Truth

variable {W : Type}

/-- What went on air between the two. -/
def made (acks : W → List Bool) (before after : UnifyingState W) : List Bool :=
  (acks after.device.world).drop (acks before.device.world).length

/-- A connected state is paired; a link that is up is connected, and the last transmission on air
since the slot was selected, if there was one, was acknowledged. -/
structure UnifyingState.Truthful (acks : W → List Bool) (since : Nat) (state : UnifyingState W) :
    Prop where
  linked : state.Linked
  inside : since ≤ (acks state.device.world).length
  connected : state.linkUp = true → state.connected = true
  answered : state.linkUp = true →
    ∀ ack ∈ ((acks state.device.world).drop since).getLast?, ack = true

variable {acks : W → List Bool} {since : Nat} {before after : UnifyingState W} {sent : List Bool}

theorem made_eq (airs : Airs acks before.device after.device sent) :
    made acks before after = sent := by
  unfold made
  rw [airs, List.drop_left]

/-- The last of the transmissions since then is the last of the new ones, if there is one. -/
theorem getLast?_since (inside : since ≤ (acks before.device.world).length)
    (airs : Airs acks before.device after.device sent) :
    ((acks after.device.world).drop since).getLast? =
      sent.getLast?.or ((acks before.device.world).drop since).getLast? := by
  rw [airs, List.drop_append_of_le_length inside, List.getLast?_append]

namespace UnifyingState.Truthful

theorem airs_inside (truthful : before.Truthful acks since)
    (airs : Airs acks before.device after.device sent) :
    since ≤ (acks after.device.world).length := by
  rw [airs, List.length_append]
  exact Nat.le_add_right_of_le truthful.inside

/-- What was said of the link stays true if the last new transmission, if there is one, was
acknowledged. -/
theorem keep (truthful : before.Truthful acks since)
    (airs : Airs acks before.device after.device sent) (linkUp : after.linkUp = before.linkUp)
    (connected : after.connected = before.connected) (paired : after.paired = before.paired)
    (acked : before.linkUp = true → ∀ ack ∈ sent.getLast?, ack = true) :
    after.Truthful acks since := by
  refine ⟨fun still => ?_, truthful.airs_inside airs, fun up => ?_, fun up ack last => ?_⟩
  · rw [paired]
    exact truthful.linked (connected ▸ still)
  · rw [connected]
    exact truthful.connected (linkUp ▸ up)
  · rw [linkUp] at up
    rw [getLast?_since truthful.inside airs] at last
    cases new : sent.getLast? with
    | none =>
        rw [new] at last
        exact truthful.answered up ack last
    | some other =>
        rw [new] at last
        obtain rfl : other = ack := Option.some.inj last
        exact acked up other new

theorem keep_silent (truthful : before.Truthful acks since)
    (same : acks after.device.world = acks before.device.world)
    (linkUp : after.linkUp = before.linkUp) (connected : after.connected = before.connected)
    (paired : after.paired = before.paired) : after.Truthful acks since := by
  refine truthful.keep (.silent same) linkUp connected paired ?_
  rintro _ ack ⟨⟩

/-- Nothing is claimed of a link that is down. -/
theorem down (linked : after.Linked) (inside : since ≤ (acks after.device.world).length)
    (linkUp : after.linkUp = false) : after.Truthful acks since :=
  ⟨linked, inside, fun up => absurd (linkUp.symm.trans up) Bool.false_ne_true,
    fun up => absurd (linkUp.symm.trans up) Bool.false_ne_true⟩

/-- The link is up after an acknowledged transmission. -/
theorem up (truthful : before.Truthful acks since)
    (airs : Airs acks before.device after.device sent) (acked : sent.getLast? = some true)
    (connected : after.connected = true) (paired : after.paired = true) :
    after.Truthful acks since := by
  refine ⟨fun _ => paired, truthful.airs_inside airs, fun _ => connected, fun _ ack last => ?_⟩
  rw [getLast?_since truthful.inside airs, acked] at last
  exact (Option.some.inj last).symm

/-- Since a slot selected just now there was no transmission. -/
theorem anew (linked : after.Linked) (connected : after.linkUp = true → after.connected = true) :
    after.Truthful acks (acks after.device.world).length := by
  refine ⟨linked, Nat.le_refl _, connected, fun _ ack last => ?_⟩
  rw [List.drop_length] at last
  cases last

end UnifyingState.Truthful

/-- Whatever the command leads to, the truth is told from the last selection of a slot on. -/
def Tells (acks : W → List Bool) (since : Nat) (selects : Bool) (result : Option (Handler W)) :
    Prop :=
  ∀ after, result = some after →
    after.state.Truthful acks (if selects then (acks after.state.device.world).length else since)

theorem Tells.of_truthful {selects : Bool} {result : Option (Handler W)}
    (truthful : ∀ after, result = some after → after.state.Truthful acks since) :
    Tells acks since selects result := by
  intro after done
  have told := truthful after done
  cases selects with
  | true => exact .anew told.linked told.connected
  | false => exact told

theorem Tells.some {selects : Bool} {handler : Handler W}
    (truthful : handler.state.Truthful acks since) : Tells acks since selects (some handler) := by
  apply Tells.of_truthful
  intro after done
  obtain rfl := Option.some.inj done
  exact truthful

theorem Tells.write {selects : Bool} {handler : Handler W}
    (truthful : handler.state.Truthful acks since) (data : List UInt8) :
    Tells acks since selects (Option.some (handler.write data)) := by
  have written : (handler.write data).state.Truthful acks since := truthful
  exact .some written

/-- The last transmission of the command, if it makes any, is acknowledged. -/
def Acked (acks : W → List Bool) (before : Handler W) (result : Option (Handler W)) : Prop :=
  ∀ after, result = some after → ∀ ack ∈ (made acks before.state after.state).getLast?, ack = true

/-- A command that leaves `link_up` as it is tells the truth if its last transmission does. -/
theorem Tells.keep {selects : Bool} {handler after : Handler W} {state : UnifyingState W}
    (truthful : handler.state.Truthful acks since) (same : after.state = state)
    (airs : Airs acks handler.state.device state.device sent)
    (linkUp : state.linkUp = handler.state.linkUp)
    (connected : state.connected = handler.state.connected)
    (paired : state.paired = handler.state.paired)
    (acked : handler.state.linkUp = true → Acked acks handler (Option.some after)) :
    Tells acks since selects (Option.some after) := by
  subst same
  apply Tells.some
  refine truthful.keep airs linkUp connected paired fun up ack last => ?_
  have told := acked up after rfl ack
  rw [made_eq airs] at told
  exact told last

end Truth

/-- The line deletes the active pairing or all of them. -/
def Handler.deletesActive {W : Type} (handler : Handler W) (line : List UInt8) : Prop :=
  (line = ascii "UDELETE" ∨ (ascii "UDELETE ").isPrefixOf line) ∧
    (8 < line.length →
      (parseU8Hex (line.drop 8)).filter (· < maxProfiles) = some handler.state.activeSlot)

/-! ## Each command -/

section Commands

variable {W : Type} [Board W] [RustUnifying W] {acks : W → List Bool} {since : Nat}
  {selects : Bool} {handler : Handler W}
  (answers : RustUnifying.Answers acks) (truthful : handler.state.Truthful acks since)

include answers truthful

theorem Handler.uradiotest_tells
    (acked : handler.state.linkUp = true → Acked acks handler handler.uradiotest) :
    Tells acks since selects handler.uradiotest := by
  have configured := answers.configureRadio handler.state.device
  unfold Handler.uradiotest at acked ⊢
  generalize RustUnifying.configureRadio handler.state.device = result at configured acked
  obtain ⟨done, device⟩ := result
  cases done with
  | false => exact .some (truthful.keep_silent configured rfl rfl rfl)
  | true =>
      obtain ⟨after, all, probed, state, -⟩ :=
        (handler.setDevice device).testEncodings_probed answers.passes addrEncodings
      obtain ⟨radio, world, tested, sent, aired⟩ := probed
      dsimp only at acked ⊢
      rw [all] at acked ⊢
      have airs : Airs acks handler.state.device after.state.device sent := by
        unfold Airs
        rw [tested, ← configured]
        exact aired
      have linkUp : after.state.linkUp = handler.state.linkUp := by
        rw [state]
        rfl
      have connected : after.state.connected = handler.state.connected := by
        rw [state]
        rfl
      have paired : after.state.paired = handler.state.paired := by
        rw [state]
        rfl
      exact .keep truthful rfl airs linkUp connected paired acked

theorem Handler.upair_tells (line : List UInt8)
    (chosen : (handler.state.pairSlot line).isSome = true → handler.state.pairs = true →
      selects = true) : Tells acks since selects (handler.upair line) := by
  have asked : acks handler.state.request.2.world = acks handler.state.device.world :=
    (answers.now _).trans (answers.now _)
  have configured := (answers.configureRadio handler.state.request.2).trans asked
  have ends := handler.upair_ends line
  generalize handler.upair line = result at ends
  cases ends with
  | slot _ => exact .some truthful
  | radio slot device named failed =>
      rw [failed] at configured
      exact .some (truthful.keep_silent configured rfl rfl rfl)
  | failed slot ready device named configures attempts =>
      rw [configures] at configured
      obtain ⟨sent, airs⟩ := Airs.pairAttempts answers handler.state.request.1 8 ready
      rw [attempts] at airs
      have tried : Airs acks handler.state.device device sent :=
        Airs.trans (.silent configured) airs
      apply Tells.some
      change (handler.state.failPair device).Truthful acks since
      unfold UnifyingState.failPair
      split
      · split
        · refine .down (fun _ => rfl) ?_ rfl
          have restored := answers.configureRadio (handler.state.restored device).device
          change since ≤ (acks (RustUnifying.configureRadio _).2.world).length
          rw [restored]
          exact truthful.airs_inside tried
        · exact .down (fun _ => rfl) (truthful.airs_inside tried) rfl
      next unpaired =>
        have disconnected := truthful.linked.disconnected (Bool.eq_false_iff.mpr unpaired)
        refine .down (.of_disconnected disconnected) (truthful.airs_inside tried) ?_
        exact Bool.eq_false_iff.mpr fun up =>
          absurd (disconnected.symm.trans (truthful.connected up)) Bool.false_ne_true
  | paired slot ready device named configures attempts =>
      have pairs : handler.state.pairs = true := by
        rw [UnifyingState.pairs_eq, configures, attempts]
        rfl
      rw [chosen (by rw [named]; rfl) pairs]
      intro after done
      obtain rfl := Option.some.inj done
      exact .anew (fun _ => rfl) (fun _ => rfl)

theorem Handler.uconnect_tells
    (acked : handler.state.linkUp = true → Acked acks handler handler.uconnect) :
    Tells acks since selects handler.uconnect := by
  have configured := answers.configureRadio handler.state.device
  unfold Handler.uconnect at acked ⊢
  split
  · exact .some truthful
  next paired =>
    rw [if_neg paired] at acked
    generalize RustUnifying.configureRadio handler.state.device = result at configured acked
    obtain ⟨done, device⟩ := result
    cases done with
    | false => exact .some (truthful.keep_silent configured rfl rfl rfl)
    | true =>
        obtain ⟨sent, airs, last⟩ := Airs.connectAttempts answers 60 device
        dsimp only at acked ⊢
        generalize connectAttempts 60 device = result at airs last acked
        obtain ⟨done, after⟩ := result
        have tried : Airs acks handler.state.device after sent :=
          Airs.trans (.silent configured) airs
        cases done with
        | false => exact .keep truthful rfl tried rfl rfl rfl acked
        | true =>
            dsimp only
            rw [writeOut_of_wrote (formatConnected_wrote _)]
            refine .some (truthful.up tried (last rfl) rfl ?_)
            exact (Bool.not_eq_false _).mp paired

theorem Handler.ukeepalive_tells
    (acked : handler.state.linkUp = true → Acked acks handler (some handler.ukeepalive)) :
    Tells acks since selects (some handler.ukeepalive) := by
  unfold Handler.ukeepalive at acked ⊢
  split
  · exact .some truthful
  next connected =>
    rw [if_neg connected] at acked
    obtain ⟨sent, airs, -⟩ := answers.tick handler.state.device
    exact .keep truthful rfl airs rfl rfl rfl acked

theorem Handler.usleep_tells (down : handler.state.linkUp = false) :
    Tells acks since selects (some handler.usleep) := by
  unfold Handler.usleep
  split
  · have slept : ({ handler.state with
        device := { handler.state.device with
          world := Board.disableRadio handler.state.device.world }
        connected := false } : UnifyingState W).Truthful acks since := by
      refine .down (.of_disconnected rfl) ?_ down
      change since ≤ (acks (Board.disableRadio _)).length
      rw [answers.disableRadio]
      exact truthful.inside
    refine .some ?_
    change (Handler.saveIfPaired _).state.Truthful acks since
    rw [Handler.saveIfPaired_state]
    exact slept
  · exact .some truthful

omit answers in
omit [Board W] [RustUnifying W] in
theorem Handler.udelete_tells {line : List UInt8}
    (keeps : handler.state.linkUp = true → ¬handler.deletesActive line)
    (delete : line = ascii "UDELETE" ∨ (ascii "UDELETE ").isPrefixOf line) :
    Tells acks since selects (some (handler.udelete line)) := by
  have down (active : 8 < line.length → (parseU8Hex (line.drop 8)).filter (· < maxProfiles) =
      some handler.state.activeSlot) : handler.state.linkUp = false :=
    Bool.eq_false_iff.mpr fun up => keeps up ⟨delete, active⟩
  unfold Handler.udelete
  split
  next long =>
    split
    next slot named =>
      apply Tells.some
      change UnifyingState.Truthful acks since (ite _ _ _)
      split
      next active =>
        refine .down (.of_disconnected rfl) truthful.inside (down fun _ => ?_)
        rw [named, active]
      · exact truthful
    · exact .some truthful
  next short =>
    exact .some (.down (.of_disconnected rfl) truthful.inside (down fun long => absurd long short))

theorem Handler.uswitch_tells {rest : List UInt8}
    (chosen : ∀ slot, (parseU8Hex rest).filter (· < maxProfiles) = some slot →
      slot ≠ handler.state.activeSlot → selects = true) :
    Tells acks since selects (handler.uswitch rest) := by
  unfold Handler.uswitch
  split
  · exact .some truthful
  next slot named =>
    unfold Handler.switchInto UnifyingState.switchTo
    by_cases same : slot = handler.state.activeSlot
    · rw [if_pos same]
      cases paired : handler.state.paired with
      | true =>
          have configured := answers.configureRadio handler.state.device
          dsimp only
          generalize RustUnifying.configureRadio handler.state.device = result at configured
          obtain ⟨done, device⟩ := result
          cases done with
          | true =>
              dsimp only
              rw [writeOut_of_wrote (formatSwitched_wrote _ _)]
              have told : ({ handler.state with device } : UnifyingState W).Truthful acks since :=
                truthful.keep_silent configured rfl rfl rfl
              exact .some ⟨fun _ => paired, told.inside, fun _ => rfl, told.answered⟩
          | false => exact .some (truthful.keep_silent configured rfl rfl rfl)
      | false =>
          dsimp only
          rw [writeOut_of_wrote (formatSwitchedEmpty_wrote _)]
          exact .some truthful
    · rw [if_neg same, chosen slot named same]
      dsimp only
      generalize load (F := Nvmc) _ slot = result
      obtain ⟨loaded, flash⟩ := result
      cases loaded with
      | none =>
          dsimp only
          rw [writeOut_of_wrote (formatSwitchedEmpty_wrote _)]
          intro after done
          obtain rfl := Option.some.inj done
          exact .anew (.of_disconnected rfl) (absurd · Bool.false_ne_true)
      | some profile =>
          dsimp only
          generalize RustUnifying.configureRadio (W := W) _ = result
          obtain ⟨done, device⟩ := result
          cases done with
          | true =>
              dsimp only
              rw [writeOut_of_wrote (formatSwitched_wrote _ _)]
              intro after done
              obtain rfl := Option.some.inj done
              exact .anew (fun _ => rfl) (fun _ => rfl)
          | false =>
              intro after done
              obtain rfl := Option.some.inj done
              exact .anew (.of_disconnected rfl) (absurd · Bool.false_ne_true)

theorem Handler.ukey_tells (rest : List UInt8)
    (acked : handler.state.linkUp = true → Acked acks handler (some (handler.ukey rest))) :
    Tells acks since selects (some (handler.ukey rest)) := by
  have woken : acks handler.state.wake.device.world = acks handler.state.device.world :=
    answers.now _
  unfold Handler.ukey at acked ⊢
  split
  · exact .some truthful
  next connected =>
    rw [if_neg connected] at acked
    dsimp only at acked ⊢
    split
    · exact .some (truthful.keep_silent woken rfl rfl rfl)
    next modifier keys parsed =>
      rw [parsed] at acked
      obtain ⟨ticked, ready⟩ := Airs.ticks answers 5 handler.state.wake.device
      obtain ⟨sent, report⟩ := Airs.sendKeyReport answers
        (ticks 5 handler.state.wake.device) keys modifier
      exact .keep truthful (Handler.saveIfPaired_state _)
        (Airs.trans (.silent woken) (ready.trans report)) rfl rfl rfl acked

theorem Handler.ukeydown_tells (rest : List UInt8) :
    Tells acks since selects (some (handler.ukeydown rest)) := by
  have woken : acks handler.state.wake.device.world = acks handler.state.device.world :=
    answers.now _
  unfold Handler.ukeydown
  split
  · exact .some truthful
  next connected =>
    have connected : handler.state.connected = true := (Bool.not_eq_false _).mp connected
    dsimp only
    split
    · exact .some (truthful.keep_silent woken rfl rfl rfl)
    next modifier keys parsed =>
      have sent : (sendReport handler.state.wake keys modifier).2.Truthful acks since := by
        obtain ⟨more, attempts⟩ :
            ∃ more, (if handler.state.wake.linkUp then 3 else 1) = more + 1 := by
          split
          · exact ⟨2, rfl⟩
          · exact ⟨0, rfl⟩
        obtain ⟨made, airs, -, last⟩ :=
          Airs.probe answers keys modifier more handler.state.wake.device
        unfold sendReport
        rw [attempts]
        dsimp only
        generalize probe keys modifier (more + 1) handler.state.wake.device = result at airs last
        obtain ⟨done, device⟩ := result
        have airs := Airs.trans (.silent woken) airs
        cases done with
        | true => exact truthful.up airs last connected (truthful.linked connected)
        | false => exact .down (fun _ => truthful.linked connected) (truthful.airs_inside airs) rfl
      apply Tells.some
      rw [Handler.keyDown_state]
      exact sent

theorem Handler.utype_tells (text : List UInt8)
    (acked : handler.state.linkUp = true → Acked acks handler (handler.utype text)) :
    Tells acks since selects (handler.utype text) := by
  have woken : acks handler.state.wake.device.world = acks handler.state.device.world :=
    answers.now _
  unfold Handler.utype at acked ⊢
  split
  · exact .some truthful
  next connected =>
    rw [if_neg connected] at acked
    dsimp only at acked ⊢
    rw [writeOut_of_wrote (formatTyped_wrote _ _)] at acked ⊢
    obtain ⟨ticked, ready⟩ := Airs.ticks answers 5 handler.state.wake.device
    obtain ⟨sent, typed⟩ := Airs.typeText answers text 0 0 (ticks 5 handler.state.wake.device)
    exact .keep truthful (Handler.saveIfPaired_state _)
      (Airs.trans (.silent woken) (ready.trans typed)) rfl rfl rfl acked

theorem Handler.allUp_tells
    (acked : handler.state.linkUp = true → Acked acks handler (some handler.allUp)) :
    Tells acks since selects (some handler.allUp) := by
  unfold Handler.allUp at acked ⊢
  split
  next connected =>
    rw [if_pos connected] at acked
    obtain ⟨sent, airs⟩ := Airs.transmit answers (.replicate 6 0) 0 20 handler.state.device
    exact .keep truthful rfl airs rfl rfl rfl acked
  · exact .some truthful

omit truthful in
/-- The background tick takes note of what it learns of the link. -/
theorem UnifyingState.keepAlive_truthful {state : UnifyingState W}
    (truthful : state.Truthful acks since) (connected : state.connected = true) :
    state.keepAlive.Truthful acks since := by
  have looked : acks state.device.now.2.world = acks state.device.world := answers.now _
  unfold UnifyingState.keepAlive
  generalize state.device.now = result at looked
  obtain ⟨now, device⟩ := result
  dsimp only at looked ⊢
  obtain ⟨sent, airs, heard⟩ := answers.tick { device with timeout :=
    if (now.toNat - state.lastActivity.toNat) * 1000 / tickHz > 500 then 110 else 20 }
  generalize RustUnifying.tick (W := W) _ = result at airs heard
  obtain ⟨done, after⟩ := result
  have tried : Airs acks state.device after sent := Airs.trans (.silent looked) airs
  cases done with
  | false =>
      exact .down (fun _ => truthful.linked connected) (truthful.airs_inside tried) rfl
  | true =>
      rcases heard rfl with last | ⟨rfl, same⟩
      · exact truthful.up tried last connected (truthful.linked connected)
      · refine truthful.keep_silent ?_ ?_ rfl rfl
        · exact Eq.trans tried (List.append_nil _)
        · dsimp only at same ⊢
          rw [same, bne_self_eq_false, Bool.or_false]

theorem Handler.pollRadio_tells (uploadActive uartOtaActive : Bool) :
    Tells acks since selects (some (handler.pollRadio uploadActive uartOtaActive)) := by
  obtain ⟨polled, same, told⟩ : ∃ polled : Handler W,
      (if handler.state.connected = true ∧ uploadActive = false ∧ uartOtaActive = false then
        { handler with state := handler.state.keepAlive } else handler) = polled ∧
      polled.state.Truthful acks since := by
    refine ⟨_, rfl, ?_⟩
    split
    next active => exact UnifyingState.keepAlive_truthful answers truthful active.1
    · exact truthful
  apply Tells.some
  unfold Handler.pollRadio
  rw [same]
  dsimp only
  split
  · rw [Handler.saveIfPaired_state]
    exact told.keep_silent (answers.clearPofWarning _) rfl rfl rfl
  · exact told

end Commands

/-! ## Runs -/

section Run

variable {W : Type} [Board W] [RustUnifying W]

/-- A command that transmits without looking at `link_up`. -/
def isQuiet (line : List UInt8) : Prop :=
  line = ascii "URADIOTEST" ∨ line = ascii "UCONNECT" ∨ line = ascii "UKEEPALIVE" ∨
    (ascii "UKEY ").isPrefixOf line ∨ (ascii "UTYPE ").isPrefixOf line

/-- The slot that a `USWITCH` line names. -/
def switchSlot (line : List UInt8) : Option UInt8 :=
  (stripPrefix (ascii "USWITCH ") line).bind fun rest => (parseU8Hex rest).filter (· < maxProfiles)

/-- The action makes a slot the active one: a power-up, a successful `UPAIR`, a `USWITCH` to another
slot. -/
def Handler.selects (handler : Handler W) : Action → Bool
  | .powerCycle => true
  | .command line =>
      decide (isPair line) && (handler.state.pairSlot line).isSome && handler.state.pairs ||
        (switchSlot line).any (· != handler.state.activeSlot)
  | _ => false

/-- The worker, and how many transmissions were on air when the active slot was last selected. -/
structure Linkage (W : Type) where
  handler : Handler W
  since : Nat

def Linkage.boot (acks : W → List Bool) (world : W) (flash : Nvmc) : Linkage W where
  handler := .boot world flash
  since := (acks (Handler.boot world flash).state.device.world).length

def Linkage.step (acks : W → List Bool) (buildTime : Nat) (linkage : Linkage W)
    (action : Action) : Linkage W :=
  let after := linkage.handler.act buildTime action
  { handler := after
    since := if linkage.handler.selects action then (acks after.state.device.world).length
      else linkage.since }

/-- Whether the last transmission on air since the active slot was selected was acknowledged. -/
def Linkage.lastAck {W : Type} (acks : W → List Bool) (linkage : Linkage W) : Option Bool :=
  ((acks linkage.handler.state.device.world).drop linkage.since).getLast?

/-- `link_up` tells the truth, and a report is tried more than once only if no transmission was
left unanswered. -/
structure Linkage.TellsTruth (acks : W → List Bool) (linkage : Linkage W) : Prop where
  connected : linkage.handler.state.linkUp = true → linkage.handler.state.connected = true
  answered : linkage.handler.state.linkUp = true → ∀ ack ∈ linkage.lastAck acks, ack = true
  attempts : ∀ keys modifier,
    1 < (made acks linkage.handler.state
      (sendReport linkage.handler.state keys modifier).2).length →
    ∀ ack ∈ linkage.lastAck acks, ack = true

/-- While the link is up it is not dropped by a `USLEEP` or a `UDELETE`, and the last transmission
of an all-up or of a command that does not look at `link_up` is acknowledged. -/
def Linkage.KeepsLink (acks : W → List Bool) (buildTime : Nat) (linkage : Linkage W)
    (action : Action) : Prop :=
  linkage.handler.state.linkUp = true →
    let acked := ∀ ack ∈ (made acks linkage.handler.state
      (linkage.handler.act buildTime action).state).getLast?, ack = true
    match action with
    | .command line =>
        line ≠ ascii "USLEEP" ∧ ¬linkage.handler.deletesActive line ∧ (isQuiet line → acked)
    | .allUp => acked
    | _ => True

variable {acks : W → List Bool} (answers : RustUnifying.Answers acks)

section Command

variable {handler : Handler W} {since : Nat} (truthful : handler.state.Truthful acks since)

include answers truthful

theorem handleUnifyingCommand_tells (buildTime : Nat) (line : List UInt8)
    (keeps : handler.state.linkUp = true → line ≠ ascii "USLEEP" ∧ ¬handler.deletesActive line ∧
      (isQuiet line → Acked acks handler (handleUnifyingCommand buildTime handler line))) :
    Tells acks since (handler.selects (.command line))
      (handleUnifyingCommand buildTime handler line) := by
  have acked (quiet : isQuiet line) (up : handler.state.linkUp = true) := (keeps up).2.2 quiet
  generalize handled : handleUnifyingCommand buildTime handler line = result at acked ⊢
  unfold handleUnifyingCommand at handled
  split at handled
  · subst handled
    exact .some truthful
  split at handled
  next test =>
    subst handled
    exact handler.uradiotest_tells answers truthful (acked (.inl test))
  split at handled
  next pair =>
    subst handled
    apply handler.upair_tells answers truthful
    intro named pairs
    have command : decide (isPair line) = true := decide_eq_true pair
    simp only [Handler.selects, command, named, pairs, Bool.and_self, Bool.true_or]
  split at handled
  next connect =>
    subst handled
    exact handler.uconnect_tells answers truthful (acked (.inr (.inl connect)))
  split at handled
  next keepAlive =>
    subst handled
    exact handler.ukeepalive_tells answers truthful (acked (.inr (.inr (.inl keepAlive))))
  split at handled
  next sleep =>
    subst handled
    exact handler.usleep_tells answers truthful
      (Bool.eq_false_iff.mpr fun up => (keeps up).1 sleep)
  split at handled
  · subst handled
    apply Tells.of_truthful
    intro after done
    rw [writeOut_state done]
    exact truthful
  split at handled
  · subst handled
    exact .some truthful
  split at handled
  next delete =>
    subst handled
    exact handler.udelete_tells truthful (fun up => (keeps up).2.1) delete
  unfold Handler.handleArguments at handled
  split at handled
  next rest starts =>
    subst handled
    apply handler.uswitch_tells answers truthful
    intro slot named different
    have switch : switchSlot line = some slot := by
      unfold switchSlot
      rw [starts]
      exact named
    have other : (slot != handler.state.activeSlot) = true := bne_iff_ne.mpr different
    simp only [Handler.selects, switch, Option.any_some, other, Bool.or_true]
  split at handled
  next rest starts =>
    subst handled
    refine handler.ukey_tells answers truthful rest (acked (.inr (.inr (.inr (.inl ?_)))))
    exact stripPrefix_isPrefixOf starts
  split at handled
  next rest _ =>
    subst handled
    exact handler.ukeydown_tells answers truthful rest
  split at handled
  next text starts =>
    subst handled
    refine handler.utype_tells answers truthful text (acked (.inr (.inr (.inr (.inr ?_)))))
    exact stripPrefix_isPrefixOf starts
  · subst handled
    exact .write truthful _

end Command

include answers

/-- Power-up puts nothing on air and finds the link down. -/
theorem Handler.boot_down (world : W) (flash : Nvmc) :
    (Handler.boot world flash).state.linkUp = false ∧
      acks (Handler.boot world flash).state.device.world = acks world := by
  have fresh : acks (UnifyingState.new world).device.world = acks world :=
    (answers.now _).trans (answers.new _ _ _ _ _ _)
  obtain ⟨slot, state | ⟨profile, state⟩⟩ := Handler.boot_state world flash
  · rw [state]
    exact ⟨rfl, fresh⟩
  · rw [state]
    exact ⟨rfl, fresh⟩

theorem Linkage.boot_truthful (world : W) (flash : Nvmc) :
    (Handler.boot world flash).state.Truthful acks
      (acks (Handler.boot world flash).state.device.world).length := by
  obtain ⟨down, -⟩ := Handler.boot_down answers world flash
  exact .anew (.of_disconnected (Handler.boot_disconnected world flash))
    fun up => absurd (down.symm.trans up) Bool.false_ne_true

theorem Linkage.step_truthful (buildTime : Nat) {linkage : Linkage W} {action : Action}
    (truthful : linkage.handler.state.Truthful acks linkage.since)
    (keeps : linkage.KeepsLink acks buildTime action) :
    (linkage.step acks buildTime action).handler.state.Truthful acks
      (linkage.step acks buildTime action).since := by
  have ready : linkage.handler.ready.state.Truthful acks linkage.since := truthful
  cases action with
  | powerCycle => exact Linkage.boot_truthful answers _ _
  | allUp =>
      have acked (up : linkage.handler.ready.state.linkUp = true) :
          Acked acks linkage.handler.ready (some linkage.handler.ready.allUp) := by
        rintro after same
        obtain rfl := Option.some.inj same
        exact keeps up
      have told : Tells acks linkage.since false _ := Handler.allUp_tells answers ready acked
      exact told _ rfl
  | poll uploadActive uartOtaActive =>
      have told : Tells acks linkage.since false _ :=
        Handler.pollRadio_tells answers ready uploadActive uartOtaActive
      exact told _ rfl
  | command line =>
      have told := handleUnifyingCommand_tells answers ready buildTime line fun up => by
        obtain ⟨awake, kept, acked⟩ := keeps up
        refine ⟨awake, kept, fun quiet after done => ?_⟩
        have acked := acked quiet
        simp only [Handler.act, done] at acked
        exact acked
      unfold Linkage.step Handler.act
      dsimp only
      cases done : handleUnifyingCommand buildTime linkage.handler.ready line with
      | some after => exact told after done
      | none =>
          -- A panic resets the board.
          obtain ⟨down, quiet⟩ := Handler.boot_down answers linkage.handler.state.device.world
            linkage.handler.flash
          have told : Tells acks linkage.since (linkage.handler.selects (.command line))
              (some (Handler.boot linkage.handler.state.device.world linkage.handler.flash)) := by
            refine .some (.down (.of_disconnected (Handler.boot_disconnected _ _)) ?_ down)
            rw [quiet]
            exact truthful.inside
          exact told _ rfl

/-- Between the steps of the worker `link_up` tells the truth, if no step leaves it up where it
drops the link or ends with an unanswered transmission. -/
theorem link_up_truthful (buildTime : Nat) (world : W) (flash : Nvmc) (actions : List Action)
    (keeps : EveryStep (Linkage.step acks buildTime) (Linkage.KeepsLink acks buildTime)
      (.boot acks world flash) actions) :
    Always (Linkage.step acks buildTime) (Linkage.TellsTruth acks) (.boot acks world flash)
      actions := by
  have always : Always (Linkage.step acks buildTime)
      (fun linkage => linkage.handler.state.Truthful acks linkage.since)
      (.boot acks world flash) actions :=
    .of_everyStep (fun _ _ truthful keeps =>
      Linkage.step_truthful answers buildTime truthful keeps)
      (Linkage.boot_truthful answers world flash) keeps
  intro before after same
  have truthful := always before after same
  refine ⟨truthful.connected, truthful.answered, fun keys modifier many => truthful.answered ?_⟩
  by_contra down
  generalize before.foldl (Linkage.step acks buildTime) (.boot acks world flash) = linkage
    at many down
  obtain ⟨sent, airs, count, -⟩ :=
    Airs.probe answers keys modifier 0 linkage.handler.state.device
  have once : Airs acks linkage.handler.state.device
      (sendReport linkage.handler.state keys modifier).2.device sent := by
    unfold sendReport
    rw [if_neg down]
    exact airs
  rw [made_eq once] at many
  exact absurd count (Nat.not_le.mpr many)

end Run

/-! ## A receiver in reach -/

/-- A world with one receiver that pairs at once and acknowledges every transmission while it is in
reach; all transmissions so far with what became of them. -/
structure ReachBench where
  reach : List Bool
  acks : List Bool := []
  deriving DecidableEq, Repr

/-- One transmission, which is acknowledged as long as the list says so, and then always. -/
def ReachBench.air (world : ReachBench) : Bool × ReachBench :=
  let ack := world.reach.headD true
  (ack, ⟨world.reach.tail, world.acks ++ [ack]⟩)

instance : Board ReachBench where
  now world := (0, world)
  delay world _ := world
  attempt world radio := (⟨radio.rxBuf, world.air.1, true⟩, world.air.2)
  disableRadio world := world
  pofWarning _ := false
  clearPofWarning world := world

instance : RustUnifying ReachBench where
  new world radio address aesKey aesCounter channel :=
    { radio, address, aesKey, aesCounter, channel, timeout := 20, previousTransmit := 0, world }
  configureRadio device := (true, device)
  pair device params :=
    (true, { device with
      address := .replicate 5 params.id, aesKey := .replicate 16 0x5A, aesCounter := 0 })
  connect device := (device.world.air.1, { device with world := device.world.air.2 })
  tick device :=
    (device.world.air.1, { device with
      previousTransmit := device.previousTransmit + 1, world := device.world.air.2 })
  sendEncryptedKeystroke device _ _ :=
    (device.world.air.1, { device with
      aesCounter := device.aesCounter + 1, world := device.world.air.2 })
  pairingAddress := .replicate 5 0xBB
  pairingChannels := [5, 8, 14]
  firstChannel := 5

theorem ReachBench.answers : RustUnifying.Answers ReachBench.acks where
  new _ _ _ _ _ _ := rfl
  configureRadio _ := rfl
  send _ _ _ := rfl
  connect device := ⟨[device.world.reach.headD true], rfl, fun acked => congrArg some acked⟩
  tick device := ⟨[device.world.reach.headD true], rfl, fun acked => .inl (congrArg some acked)⟩
  pair _ _ := ⟨[], (List.append_nil _).symm⟩
  now _ := rfl
  delay _ _ := rfl
  attempt world _ := by
    change _ = world.acks ++ [world.air.1 && true]
    rw [Bool.and_true]
    rfl
  disableRadio _ := rfl
  clearPofWarning _ := rfl

instance (line : List UInt8) : Decidable (isQuiet line) :=
  inferInstanceAs (Decidable (_ ∨ _))

instance {W : Type} (handler : Handler W) (line : List UInt8) :
    Decidable (handler.deletesActive line) :=
  inferInstanceAs (Decidable (_ ∧ _))

instance decidableHeard (acks : Option Bool) : Decidable (∀ ack ∈ acks, ack = true) :=
  match acks with
  | none => .isTrue (by rintro ack ⟨⟩)
  | some true => .isTrue (by rintro ack ⟨⟩; rfl)
  | some false => .isFalse fun acked => absurd (acked false rfl) Bool.false_ne_true

instance {W : Type} [Board W] [RustUnifying W] (acks : W → List Bool) (buildTime : Nat)
    (linkage : Linkage W) (action : Action) :
    Decidable (linkage.KeepsLink acks buildTime action) :=
  match action with
  | .command _ => inferInstanceAs (Decidable (_ → _ ∧ _))
  | .allUp => inferInstanceAs (Decidable (_ → ∀ ack ∈ _, ack = true))
  | .powerCycle | .poll _ _ => .isTrue fun _ => trivial

theorem link_up_truthful_reached :
    Always (Linkage.step ReachBench.acks 0) (Linkage.TellsTruth ReachBench.acks)
      (.boot ReachBench.acks (⟨[true, false, false, false], []⟩ : ReachBench) erasedChip)
      [.command (ascii "UPAIR"), .command (ascii "UKEEPALIVE"),
        .command (ascii "UKEYDOWN 00 04"), .poll false false, .command (ascii "UKEY 00 05"),
        .allUp] := by
  refine link_up_truthful ReachBench.answers 0 _ _ _ ?_
  simp only [everyStep_cons, everyStep_nil, and_true]
  decide +kernel

/-- A keep-alive that nobody answers leaves the link up. -/
theorem link_up_stale : RustUnifying.Answers ReachBench.acks ∧
    ¬∀ (world : ReachBench) actions, Always (Linkage.step ReachBench.acks 0)
      (Linkage.TellsTruth ReachBench.acks) (.boot ReachBench.acks world erasedChip) actions := by
  refine ⟨ReachBench.answers, fun truth => ?_⟩
  refine not_always_of_last [.command (ascii "UPAIR"), .command (ascii "UKEEPALIVE")] ?_
    (truth ⟨[false], []⟩ _)
  intro told
  have up : ([Action.command (ascii "UPAIR"), .command (ascii "UKEEPALIVE")].foldl
      (Linkage.step ReachBench.acks 0)
      (.boot ReachBench.acks ⟨[false], []⟩ erasedChip)).handler.state.linkUp = true := by
    decide +kernel
  exact absurd (told.answered up false (by decide +kernel)) Bool.false_ne_true

end NrfUnifying.Radio
