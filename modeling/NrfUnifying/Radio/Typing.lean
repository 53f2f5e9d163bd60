import NrfUnifying.Lib.Keyboard
import NrfUnifying.Radio.Keymap
import NrfUnifying.Uart.Agreement

/-!
# What a receiver's host reads

A text goes out as one burst of press reports and one burst of all-ups for each
character. Copies that were heard twice, reports that were lost and answers that
were lost do not make a character appear twice, out of order or changed.
-/

namespace NrfUnifying.Radio

open Lib.Bytes Lib.Keyboard Storage

/-- A report on air; usage 0 is no key. -/
def airReport (keys : Keys) (modifier : UInt8) : Report UInt8 UInt8 :=
  ⟨keys.toList.filter (· ≠ 0), modifier⟩

def allUpReport : Report UInt8 UInt8 := ⟨[], 0⟩

def charReport (usage : UInt8) (shift : Bool) : Report UInt8 UInt8 :=
  ⟨[usage], if shift then 0x02 else 0x00⟩

/-- What is relied on, for a record `log` of the reports on air: a keystroke transmission is one
sending of its report, nothing else is, and only what was heard is acknowledged. -/
structure RustUnifying.Hearing {W : Type} [RustUnifying W] [Board W]
    (log : W → List (Sending UInt8 UInt8)) : Prop where
  honest : ∀ world, Honest (log world)
  send : ∀ (device : Device W) keys modifier, ∃ copies,
    let result := sendEncryptedKeystroke device keys modifier
    log result.2.world = log device.world ++ [⟨airReport keys modifier, copies, result.1⟩]
  new : ∀ (world : W) radio address aesKey aesCounter channel,
    log (new world radio address aesKey aesCounter channel).world = log world
  configureRadio : ∀ device : Device W, log (configureRadio device).2.world = log device.world
  pair : ∀ (device : Device W) params, log (pair device params).2.world = log device.world
  connect : ∀ device : Device W, log (connect device).2.world = log device.world
  tick : ∀ device : Device W, log (tick device).2.world = log device.world
  now : ∀ world : W, log (Board.now world).2 = log world
  delay : ∀ (world : W) time, log (Board.delay world time) = log world
  attempt : ∀ (world : W) radio, log (Board.attempt world radio).2 = log world
  disableRadio : ∀ world : W, log (Board.disableRadio world) = log world
  clearPofWarning : ∀ world : W, log (Board.clearPofWarning world) = log world

/-! ## What is on air for a text -/

/-- The bursts of a text, with the number of presses and of releases that were acknowledged. -/
inductive Types : List UInt8 → (pressed released : Nat) → List (Sending UInt8 UInt8) → Prop where
  | nil : Types [] 0 0 []
  | skip {c : UInt8} {text : List UInt8} {pressed released : Nat}
      {sendings : List (Sending UInt8 UInt8)} (unmapped : charToHid c = none)
      (rest : Types text pressed released sendings) : Types (c :: text) pressed released sendings
  | char {c usage : UInt8} {shift press release : Bool} {text : List UInt8}
      {pressed released : Nat} {first second sendings : List (Sending UInt8 UInt8)}
      (mapped : charToHid c = some (usage, shift))
      (down : Burst (charReport usage shift) press first)
      (up : Burst allUpReport release second) (rest : Types text pressed released sendings) :
      Types (c :: text) (pressed + press.toNat) (released + release.toNat)
        (first ++ (second ++ sendings))

/-- What of a text can be typed. -/
def typableText (text : List UInt8) : List UInt8 := (text.filter (Typable ·)).map unified

/-- What a host reads that held some keys before. -/
def readText (held : List UInt8) (sendings : List (Sending UInt8 UInt8)) : List UInt8 :=
  (read held (received sendings)).filterMap fun (usage, modifiers) =>
    usLayout usage (modifiers &&& 0x22 != 0)

section Read

variable {text : List UInt8} {pressed released : Nat} {sendings : List (Sending UInt8 UInt8)}
  {held : List UInt8}

theorem readText_append (held : List UInt8) (first second : List (Sending UInt8 UInt8)) :
    readText held (first ++ second) =
      readText held first ++ readText (heldAfter held (received first)) second := by
  rw [readText, received_append, read_append, List.filterMap_append]
  rfl

theorem typableText_skip {c : UInt8} (unmapped : charToHid c = none) (text : List UInt8) :
    typableText (c :: text) = typableText text := by
  have not := not_typable_of_charToHid unmapped
  rw [typableText, List.filter_cons_of_neg (by simpa using not)]
  rfl

theorem typableText_char {c usage : UInt8} {shift : Bool}
    (mapped : charToHid c = some (usage, shift)) (text : List UInt8) :
    typableText (c :: text) = unified c :: typableText text := by
  have typable := (Typable.of_charToHid mapped).1
  rw [typableText, List.filter_cons_of_pos (by simpa using typable)]
  rfl

/-- The report of a character reads as that character, where its key was up before. -/
theorem strokes_char {c usage : UInt8} {shift : Bool}
    (mapped : charToHid c = some (usage, shift)) (held : List UInt8) :
    ((strokes held (charReport usage shift)).filterMap fun (usage, modifiers) =>
      usLayout usage (modifiers &&& 0x22 != 0)) = if usage ∈ held then [] else [unified c] := by
  have layout := (Typable.of_charToHid mapped).2
  have modifiers : ((if shift then 0x02 else 0x00 : UInt8) &&& 0x22 != 0) = shift := by
    cases shift <;> decide
  by_cases down : usage ∈ held
  · rw [if_pos down, strokes, charReport, List.filter_cons_of_neg (by simpa using down)]
    rfl
  · rw [if_neg down, strokes, charReport, List.filter_cons_of_pos (by simpa using down)]
    simp [modifiers, layout]

/-- A burst of presses reads as at most one character. -/
theorem readText_down {c usage : UInt8} {shift press : Bool}
    {sendings : List (Sending UInt8 UInt8)} (mapped : charToHid c = some (usage, shift))
    (down : Burst (charReport usage shift) press sendings) (honest : Honest sendings)
    (held : List UInt8) :
    (readText held sendings).Sublist [unified c] ∧
      (held = [] → press = true → readText held sendings = [unified c]) := by
  unfold readText
  rcases down.read_cases honest held with ⟨read, -⟩ | ⟨lost, nothing⟩
  · rw [read, strokes_char mapped]
    constructor
    · split
      · exact List.nil_sublist _
      · exact .refl _
    · rintro rfl -
      exact if_neg List.not_mem_nil
  · rw [nothing]
    constructor
    · exact List.nil_sublist _
    · intro _ acked
      rw [lost] at acked
      cases acked

/-- A burst of all-ups reads as nothing, and one that was acknowledged has released all keys. -/
theorem readText_up {release : Bool} {sendings : List (Sending UInt8 UInt8)}
    (up : Burst allUpReport release sendings) (honest : Honest sendings) (held : List UInt8) :
    readText held sendings = [] ∧
      (release = true → heldAfter held (received sendings) = []) := by
  unfold readText
  rcases up.read_cases honest held with ⟨read, after⟩ | ⟨lost, nothing⟩
  · rw [read]
    exact ⟨rfl, fun _ => after⟩
  · rw [nothing]
    refine ⟨rfl, fun acked => ?_⟩
    rw [lost] at acked
    cases acked

theorem Types.released_le (types : Types text pressed released sendings) :
    released ≤ (typableText text).length := by
  induction types with
  | nil => exact Nat.zero_le _
  | skip unmapped rest ih => rwa [typableText_skip unmapped]
  | @char c usage shift press release text pressed released first second sendings mapped down up
      rest ih =>
      rw [typableText_char mapped, List.length_cons]
      have one := release.toNat_le
      omega

/-- Whatever is lost or heard twice, no character is read twice, out of order or changed. -/
theorem Types.sublist (types : Types text pressed released sendings) (honest : Honest sendings)
    (held : List UInt8) : (readText held sendings).Sublist (typableText text) := by
  induction types generalizing held with
  | nil => exact .slnil
  | skip unmapped rest ih =>
      rw [typableText_skip unmapped]
      exact ih honest held
  | @char c usage shift press release text pressed released first second sendings mapped down up
      rest ih =>
      obtain ⟨downHonest, honest⟩ := List.forall_mem_append.mp honest
      obtain ⟨upHonest, honest⟩ := List.forall_mem_append.mp honest
      rw [readText_append, readText_append, typableText_char mapped,
        (readText_up up upHonest _).1, List.nil_append]
      exact (readText_down mapped down downHonest held).1.append (ih honest _)

/-- Where every release is acknowledged, every acknowledged press is read. -/
theorem Types.pressed_le (types : Types text pressed released sendings)
    (honest : Honest sendings) (all : released = (typableText text).length) :
    pressed ≤ (readText [] sendings).length := by
  induction types with
  | nil => exact Nat.zero_le _
  | skip unmapped rest ih =>
      rw [typableText_skip unmapped] at all
      exact ih honest all
  | @char c usage shift press release text pressed released first second sendings mapped down up
      rest ih =>
      obtain ⟨downHonest, honest⟩ := List.forall_mem_append.mp honest
      obtain ⟨upHonest, honest⟩ := List.forall_mem_append.mp honest
      rw [typableText_char mapped, List.length_cons] at all
      have bound := rest.released_le
      obtain ⟨rfl, others⟩ : release = true ∧ released = (typableText text).length := by
        cases release with
        | true => exact ⟨rfl, Nat.succ.inj all⟩
        | false =>
            rw [Bool.toNat_false] at all
            omega
      have later := ih honest others
      rw [readText_append, readText_append, (readText_up up upHonest _).1,
        (readText_up up upHonest _).2 rfl, List.nil_append, List.length_append]
      have here : press.toNat ≤ (readText [] first).length := by
        cases press with
        | false => exact Nat.zero_le _
        | true =>
            rw [(readText_down mapped down downHonest []).2 rfl rfl]
            exact Nat.le_refl 1
      omega

/-- Where all presses and releases are acknowledged, the text is read exactly. -/
theorem Types.exact (types : Types text pressed released sendings) (honest : Honest sendings)
    (presses : pressed = (typableText text).length)
    (releases : released = (typableText text).length) :
    readText [] sendings = typableText text := by
  have bound := types.pressed_le honest releases
  exact (types.sublist honest []).eq_of_length_le (presses ▸ bound)

end Read

/-! ## What the device sends -/

section Device

variable {W : Type} [Board W] [RustUnifying W] {log : W → List (Sending UInt8 UInt8)}
  (hearing : RustUnifying.Hearing log)

include hearing

theorem transmit_burst (keys : Keys) (modifier : UInt8) (attempts : Nat) (device : Device W) :
    ∃ sendings,
      log (transmit keys modifier attempts device).2.world = log device.world ++ sendings ∧
      Burst (airReport keys modifier) (transmit keys modifier attempts device).1 sendings := by
  induction attempts generalizing device with
  | zero => exact ⟨[], (List.append_nil _).symm, .silent⟩
  | succ attempts ih =>
      obtain ⟨copies, sent⟩ := hearing.send device keys modifier
      rw [transmit]
      generalize RustUnifying.sendEncryptedKeystroke device keys modifier = result at sent
      obtain ⟨acked, after⟩ := result
      cases acked with
      | true => exact ⟨_, sent, .answered copies⟩
      | false =>
          obtain ⟨sendings, rest, burst⟩ := ih (RustUnifying.tick after).2
          refine ⟨_, ?_, .again copies burst⟩
          rw [rest, hearing.tick, sent, List.append_assoc]
          rfl

theorem sendKeyReport_bursts (device : Device W) (keys : Keys) (modifier : UInt8) :
    ∃ down up release,
      log (sendKeyReport device keys modifier).2.world = log device.world ++ (down ++ up) ∧
      Burst (airReport keys modifier) (sendKeyReport device keys modifier).1 down ∧
      Burst allUpReport release up := by
  obtain ⟨down, pressed, press⟩ := transmit_burst hearing keys modifier 20 device
  obtain ⟨up, released, release⟩ := transmit_burst hearing (.replicate 6 0) 0x00 20
    ((pressKey device keys modifier).2.delay 10000)
  refine ⟨down, up, _, ?_, press, release⟩
  refine released.trans ?_
  rw [Device.delay, hearing.delay, pressKey, pressed, List.append_assoc]

omit [Board W] [RustUnifying W] hearing in
theorem airReport_char {c usage : UInt8} {shift : Bool}
    (mapped : charToHid c = some (usage, shift)) :
    airReport #v[usage, 0, 0, 0, 0, 0] (if shift then 0x02 else 0x00) = charReport usage shift := by
  have some : usage ≠ 0 := by
    rintro rfl
    exact absurd (charToHid_usage mapped) (by decide)
  have keys : [usage, 0, 0, 0, 0, 0].filter (· ≠ 0) = [usage] := by
    rw [List.filter_cons_of_pos (by simpa using some)]
    rfl
  exact congrArg (Report.mk · _) keys

theorem typeChar_bursts {c usage : UInt8} {shift : Bool}
    (mapped : charToHid c = some (usage, shift)) (device : Device W) :
    ∃ down up release,
      log (typeChar device c).2.world = log device.world ++ (down ++ up) ∧
      Burst (charReport usage shift) (typeChar device c).1 down ∧
      Burst allUpReport release up := by
  rw [typeChar, mapped, ← airReport_char mapped]
  exact sendKeyReport_bursts hearing device _ _

theorem ticks_log (count : Nat) (device : Device W) :
    log (ticks count device).world = log device.world := by
  induction count generalizing device with
  | zero => rfl
  | succ count ih => exact (ih _).trans (hearing.tick device)

theorem wake_log (state : UnifyingState W) : log state.wake.device.world = log state.device.world :=
  hearing.now state.device.world

/-- The bursts of a text, and its counts. -/
theorem typeText_types (text : List UInt8) (ok total : UInt32) (device : Device W) :
    ∃ pressed released sendings,
      log (typeText text ok total device).2.2.world = log device.world ++ sendings ∧
      Types text pressed released sendings ∧
      (typeText text ok total device).1 = ok + .ofNat pressed ∧
      (typeText text ok total device).2.1 = total + .ofNat (typableText text).length := by
  induction text generalizing ok total device with
  | nil =>
      exact ⟨0, 0, [], (List.append_nil _).symm, .nil, (UInt32.add_zero _).symm,
        (UInt32.add_zero _).symm⟩
  | cons c rest ih =>
      rw [typeText]
      split
      next unmapped =>
        obtain ⟨pressed, released, sendings, sent, types, counts⟩ :=
          ih ok total (device.delay 15000)
        refine ⟨pressed, released, sendings, ?_, .skip unmapped types, ?_⟩
        · rw [sent, Device.delay, hearing.delay]
        · rw [typableText_skip unmapped]
          exact counts
      next key mapped =>
        obtain ⟨usage, shift⟩ := key
        obtain ⟨down, up, release, both, press, released⟩ :=
          typeChar_bursts hearing mapped device
        generalize typeChar device c = result at both press
        obtain ⟨pressed, after⟩ := result
        dsimp only at both press ⊢
        obtain ⟨presses, releases, sendings, sent, types, oks, totals⟩ :=
          ih (if pressed then ok + 1 else ok) (total + 1) (after.delay 15000)
        refine ⟨presses + pressed.toNat, releases + release.toNat, down ++ (up ++ sendings), ?_,
          .char mapped press released types, ?_, ?_⟩
        · rw [sent, Device.delay, hearing.delay, both]
          simp only [List.append_assoc]
        · rw [oks, UInt32.ofNat_add, UInt32.add_comm (.ofNat presses), ← UInt32.add_assoc]
          cases pressed with
          | true => rfl
          | false => exact congrArg (· + _) (UInt32.add_zero ok).symm
        · rw [totals, typableText_char mapped, List.length_cons, UInt32.ofNat_add,
            UInt32.add_comm (.ofNat _) (.ofNat 1), ← UInt32.add_assoc]
          rfl

end Device

/-! ## The command -/

section Command

variable {W : Type} [Board W] [RustUnifying W] (buildTime : Nat) (handler : Handler W)

/-- How a `UTYPE` ends when a receiver is connected. -/
theorem utype_ends (connected : handler.state.connected = true) (text : List UInt8)
    {ok total : UInt32} {device : Device W}
    (typed : typeText text 0 0 (ticks 5 handler.state.wake.device) = (ok, total, device)) :
    ∃ after, handler.utype text = some after ∧ after.state.device = device ∧
      after.sink = handler.sink.write (ascii "TYPED " ++ numeral ok ++ ascii "/" ++
        numeral total ++ ascii "\r\n") := by
  let reply := ascii "TYPED " ++ numeral ok ++ ascii "/" ++ numeral total ++ ascii "\r\n"
  let told := { handler with state := { handler.state.wake with device } }.write reply
  refine ⟨told.saveIfPaired, ?_, ?_, ?_⟩
  · rw [Handler.utype, if_neg (by simp [connected])]
    dsimp only
    rw [typed]
    dsimp only
    rw [writeOut_of_wrote (formatTyped_wrote ok total)]
    rfl
  · rw [Handler.saveIfPaired_state]
    rfl
  · rw [Handler.saveIfPaired]
    split <;> rfl

variable {log : W → List (Sending UInt8 UInt8)} {handler}

/--
A `UTYPE` tells how many presses were acknowledged, out of the characters that
can be typed. Whatever the radio loses or repeats, the receiver's host reads
some of these characters in their order. When all releases were acknowledged it
reads at least as many as were counted, and all of them when all were counted.
-/
theorem utype_reads (hearing : RustUnifying.Hearing log)
    (connected : handler.state.connected = true) (text : List UInt8) :
    ∃ after sendings pressed released,
      handleUnifyingCommand buildTime handler (ascii "UTYPE " ++ text) = some after ∧
      log after.state.device.world = log handler.state.device.world ++ sendings ∧
      Types text pressed released sendings ∧
      after.sink = handler.sink.write (ascii "TYPED " ++ numeral (.ofNat pressed) ++ ascii "/" ++
        numeral (.ofNat (typableText text).length) ++ ascii "\r\n") ∧
      (∀ held, (readText held sendings).Sublist (typableText text)) ∧
      (released = (typableText text).length → pressed ≤ (readText [] sendings).length ∧
        (pressed = (typableText text).length → readText [] sendings = typableText text)) := by
  obtain ⟨pressed, released, sendings, sent, types, oks, totals⟩ :=
    typeText_types hearing text 0 0 (ticks 5 handler.state.wake.device)
  rw [ticks_log hearing, wake_log hearing] at sent
  rw [UInt32.zero_add] at oks totals
  have honest : Honest sendings := by
    have all := hearing.honest (typeText text 0 0 (ticks 5 handler.state.wake.device)).2.2.world
    rw [sent] at all
    exact (List.forall_mem_append.mp all).2
  obtain ⟨after, ended, device, sink⟩ := utype_ends handler connected text rfl
  rw [← device] at sent
  rw [oks, totals] at sink
  refine ⟨after, sendings, pressed, released, ?_, sent, types, sink, types.sublist honest,
    fun releases => ⟨types.pressed_le honest releases, fun presses =>
      types.exact honest presses releases⟩⟩
  rw [handle_utype, ended]

end Command

/-! ## A lossy receiver -/

/-- A world that decides beforehand how often each keystroke is heard and whether its answer comes
back; when the decisions are used up, nothing is heard. -/
structure Ether where
  decisions : List (Nat × Bool) := []
  log : List (Sending UInt8 UInt8) := []
  honest : Honest log

def Ether.decision (ether : Ether) : Nat × Bool := ether.decisions.headD (0, false)

/-- One transmission; the answer to a lost report does not come back. -/
def Ether.hear (ether : Ether) (report : Report UInt8 UInt8) : Bool × Ether :=
  let copies := ether.decision.1
  let acked := ether.decision.2 && decide (0 < copies)
  (acked, {
    decisions := ether.decisions.tail
    log := ether.log ++ [⟨report, copies, acked⟩]
    honest := ether.honest.append fun sending member acked => by
      obtain rfl := List.mem_singleton.mp member
      simpa using (Bool.and_eq_true_iff.mp acked).2 })

instance : Board Ether where
  now world := (0, world)
  delay world _ := world
  attempt world radio := (⟨radio.rxBuf, false, false⟩, world)
  disableRadio world := world
  pofWarning _ := false
  clearPofWarning world := world

instance : RustUnifying Ether where
  new world radio address aesKey aesCounter channel :=
    { radio, address, aesKey, aesCounter, channel, timeout := 20, previousTransmit := 0, world }
  configureRadio device := (true, device)
  pair device params := (true, { device with address := .replicate 5 params.id, aesCounter := 0 })
  connect device := (true, device)
  tick device := (true, device)
  sendEncryptedKeystroke device keys modifier :=
    let (acked, world) := device.world.hear (airReport keys modifier)
    (acked, { device with aesCounter := device.aesCounter + 1, world })
  pairingAddress := .replicate 5 0xBB
  pairingChannels := [5, 8, 14]
  firstChannel := 5

theorem Ether.hearing : RustUnifying.Hearing Ether.log where
  honest world := world.honest
  send device _ _ := ⟨device.world.decision.1, rfl⟩
  new _ _ _ _ _ _ := rfl
  configureRadio _ := rfl
  pair _ _ := rfl
  connect _ := rfl
  tick _ := rfl
  now _ := rfl
  delay _ _ := rfl
  attempt _ _ := rfl
  disableRadio _ := rfl
  clearPofWarning _ := rfl

/-- The first press is lost once, then heard twice without an answer, then answered. -/
def lossyWorld : Ether where
  decisions := [(0, false), (2, false), (1, true), (1, true), (3, true)]
  honest := .nil

def lossyHandler : Handler Ether where
  state := { UnifyingState.new lossyWorld with paired := true, connected := true }
  flash := erasedChip

theorem utype_reads_lossy :
    ∃ after sendings pressed released,
      handleUnifyingCommand 0 lossyHandler (ascii "UTYPE " ++ ascii "aA") = some after ∧
      after.state.device.world.log = [] ++ sendings ∧
      Types (ascii "aA") pressed released sendings ∧
      after.sink = ({} : ReplySink).write (ascii "TYPED " ++ numeral (.ofNat pressed) ++
        ascii "/" ++ numeral (.ofNat (typableText (ascii "aA")).length) ++ ascii "\r\n") ∧
      (∀ held, (readText held sendings).Sublist (typableText (ascii "aA"))) ∧
      (released = (typableText (ascii "aA")).length → pressed ≤ (readText [] sendings).length ∧
        (pressed = (typableText (ascii "aA")).length →
          readText [] sendings = typableText (ascii "aA"))) :=
  utype_reads 0 Ether.hearing (by rfl) (ascii "aA")

end NrfUnifying.Radio
