import NrfUnifying.Radio.Typing

/-!
# Which keys a receiver's host holds

Only the report commands and the all-ups put reports on air, each its own. After
an acknowledged `UKEYDOWN` the host holds exactly the keys of that command,
whatever was lost before, until an action asks for another report.
-/

namespace NrfUnifying.Radio

open Lib.Bytes Lib.Keyboard Storage

/-- The reports that an action asks for. -/
inductive Asks : Action → Report UInt8 UInt8 → Prop where
  | allUp : Asks .allUp allUpReport
  | key {line rest : List UInt8} {modifier : UInt8} {keys : Keys}
      (starts : stripPrefix (ascii "UKEY ") line = some rest)
      (read : parseReport rest = some (modifier, keys)) :
      Asks (.command line) (airReport keys modifier)
  | keyReleased {line rest : List UInt8} (starts : stripPrefix (ascii "UKEY ") line = some rest) :
      Asks (.command line) allUpReport
  | keyDown {line rest : List UInt8} {modifier : UInt8} {keys : Keys}
      (starts : stripPrefix (ascii "UKEYDOWN ") line = some rest)
      (read : parseReport rest = some (modifier, keys)) :
      Asks (.command line) (airReport keys modifier)
  | char {line text : List UInt8} {c usage : UInt8} {shift : Bool}
      (starts : stripPrefix (ascii "UTYPE ") line = some text) (member : c ∈ text)
      (mapped : charToHid c = some (usage, shift)) :
      Asks (.command line) (charReport usage shift)
  | charReleased {line text : List UInt8}
      (starts : stripPrefix (ascii "UTYPE ") line = some text) :
      Asks (.command line) allUpReport

/-- The keys that a host holds which held none at first. -/
def hostKeys {W : Type} (log : W → List (Sending UInt8 UInt8)) (handler : Handler W) : List UInt8 :=
  heldAfter [] (received (log handler.state.device.world))

section Puts

variable {W : Type} {log : W → List (Sending UInt8 UInt8)} {action : Action}

/-- Between two states the action put on air only what it asks for. -/
def Puts (log : W → List (Sending UInt8 UInt8)) (action : Action) (before after : Handler W) :
    Prop :=
  ∃ sendings, log after.state.device.world = log before.state.device.world ++ sendings ∧
    ∀ sending ∈ sendings, Asks action sending.report

def Asked (log : W → List (Sending UInt8 UInt8)) (action : Action) (before : Handler W)
    (result : Option (Handler W)) : Prop :=
  ∀ after, result = some after → Puts log action before after

variable {before after : Handler W}

theorem Puts.quiet (same : log after.state.device.world = log before.state.device.world) :
    Puts log action before after :=
  ⟨[], same.trans (List.append_nil _).symm, fun _ member => absurd member List.not_mem_nil⟩

theorem Asked.some (puts : Puts log action before after) :
    Asked log action before (Option.some after) := by
  rintro _ ⟨⟩
  exact puts

theorem Asked.writeOut (puts : Puts log action before after) (written : Written) :
    Asked log action before (after.writeOut written) := by
  intro last done
  obtain ⟨sendings, sent, asked⟩ := puts
  refine ⟨sendings, ?_, asked⟩
  rw [writeOut_state done]
  exact sent

end Puts

/-! ## The commands -/

section Commands

variable {W : Type} [Board W] [RustUnifying W] {log : W → List (Sending UInt8 UInt8)}
  (hearing : RustUnifying.Hearing log) (handler : Handler W) {line : List UInt8} {action : Action}

include hearing

theorem probe_burst (keys : Keys) (modifier : UInt8) (attempts : Nat) (device : Device W) :
    ∃ sendings,
      log (probe keys modifier attempts device).2.world = log device.world ++ sendings ∧
      Burst (airReport keys modifier) (probe keys modifier attempts device).1 sendings := by
  induction attempts generalizing device with
  | zero => exact ⟨[], (List.append_nil _).symm, .silent⟩
  | succ attempts ih =>
      obtain ⟨copies, sent⟩ := hearing.send device keys modifier
      rw [probe]
      generalize RustUnifying.sendEncryptedKeystroke device keys modifier = result at sent
      obtain ⟨acked, after⟩ := result
      cases acked with
      | true => exact ⟨_, sent, .answered copies⟩
      | false =>
          obtain ⟨sendings, rest, burst⟩ := ih after
          refine ⟨_, ?_, .again copies burst⟩
          rw [rest, sent, List.append_assoc]
          rfl

theorem Handler.uradiotest_asked : Asked log action handler handler.uradiotest := by
  have configured := hearing.configureRadio handler.state.device
  unfold Handler.uradiotest
  split
  next device ready =>
    rw [ready] at configured
    exact .some (.quiet configured)
  next device ready =>
    rw [ready] at configured
    obtain ⟨after, done, probed, -⟩ := (handler.setDevice device).testEncodings_probed
      (.unseen hearing.attempt hearing.delay) addrEncodings
    obtain ⟨radio, world, same, seen⟩ := probed
    rw [done]
    refine .some (.quiet ?_)
    change log after.state.device.world = _
    rw [same, seen]
    exact configured

theorem pairAttempts_log (params : PairingParams) (attempts : Nat) (device : Device W) :
    log (pairAttempts params attempts device).2.world = log device.world := by
  induction attempts generalizing device with
  | zero => rfl
  | succ attempts ih =>
      have once := hearing.pair device params
      rw [pairAttempts]
      generalize RustUnifying.pair device params = result at once
      obtain ⟨done, after⟩ := result
      cases done with
      | true => exact once
      | false => rw [ih, Device.delay, hearing.delay, once]

theorem connectAttempts_log (attempts : Nat) (device : Device W) :
    log (connectAttempts attempts device).2.world = log device.world := by
  induction attempts generalizing device with
  | zero => rfl
  | succ attempts ih =>
      have once := hearing.connect device
      rw [connectAttempts]
      generalize RustUnifying.connect device = result at once
      obtain ⟨done, after⟩ := result
      cases done with
      | true => exact once
      | false => rw [ih, Device.delay, hearing.delay, once]

theorem request_log (state : UnifyingState W) :
    log state.request.2.world = log state.device.world :=
  (hearing.now _).trans (hearing.now _)

theorem failPair_log (state : UnifyingState W) (device : Device W) :
    log (state.failPair device).device.world = log device.world := by
  unfold UnifyingState.failPair
  split
  · split
    · exact hearing.configureRadio _
    · rfl
  · rfl

theorem Handler.upair_asked : Asked log action handler (handler.upair line) := by
  have asked := request_log hearing handler.state
  have configured := hearing.configureRadio handler.state.request.2
  have ends := handler.upair_ends line
  generalize handler.upair line = result at ends
  cases ends with
  | slot refused => exact .some (.quiet rfl)
  | radio slot device named failed =>
      rw [failed] at configured
      exact .some (.quiet (configured.trans asked))
  | failed slot ready device named configures attempts =>
      have tried := pairAttempts_log hearing handler.state.request.1 8 ready
      rw [attempts] at tried
      rw [configures] at configured
      refine .some (.quiet ?_)
      change log (handler.state.failPair device).device.world = _
      rw [failPair_log hearing]
      exact (tried.trans configured).trans asked
  | paired slot ready device named configures attempts =>
      have tried := pairAttempts_log hearing handler.state.request.1 8 ready
      rw [attempts] at tried
      rw [configures] at configured
      exact .some (.quiet ((tried.trans configured).trans asked))

theorem Handler.uconnect_asked : Asked log action handler handler.uconnect := by
  have configured := hearing.configureRadio handler.state.device
  unfold Handler.uconnect
  split
  · exact .some (.quiet rfl)
  split
  next device ready =>
    rw [ready] at configured
    exact .some (.quiet configured)
  next device ready =>
    rw [ready] at configured
    have tried := connectAttempts_log hearing 60 device
    split
    next connected done =>
      rw [done] at tried
      exact .writeOut (.quiet (tried.trans configured)) _
    next connected done =>
      rw [done] at tried
      exact .some (.quiet (tried.trans configured))

theorem Handler.ukeepalive_asked : Puts log action handler handler.ukeepalive := by
  unfold Handler.ukeepalive
  split
  · exact .quiet rfl
  · exact .quiet (hearing.tick handler.state.device)

theorem Handler.usleep_asked : Puts log action handler handler.usleep := by
  refine .quiet ?_
  unfold Handler.usleep
  dsimp only
  split
  · change log (Handler.saveIfPaired _).state.device.world = _
    rw [Handler.saveIfPaired_state]
    exact hearing.disableRadio _
  · rfl

omit [Board W] [RustUnifying W] hearing in
theorem Handler.udelete_asked : Puts log action handler (handler.udelete line) := by
  refine .quiet ?_
  unfold Handler.udelete
  split
  · split
    · change log (ite _ _ _ : UnifyingState W).device.world = _
      split <;> rfl
    · rfl
  · rfl

omit [Board W] [RustUnifying W] hearing in
theorem switchTo_world (state : UnifyingState W) (flash : Nvmc) (slot : UInt8) :
    (state.switchTo flash slot).2.1.device.world = state.device.world := by
  unfold UnifyingState.switchTo
  split
  · rfl
  · dsimp only
    split <;> rfl

theorem Handler.uswitch_asked (rest : List UInt8) :
    Asked log action handler (handler.uswitch rest) := by
  unfold Handler.uswitch
  split
  · exact .some (.quiet rfl)
  next slot named =>
    unfold Handler.switchInto
    have switched := congrArg log (switchTo_world handler.state handler.flash slot)
    generalize handler.state.switchTo handler.flash slot = result at switched
    obtain ⟨found, state, flash⟩ := result
    cases found with
    | false => exact .writeOut (.quiet switched) _
    | true =>
        have configured := (hearing.configureRadio state.device).trans switched
        dsimp only
        split
        next device ready =>
          rw [ready] at configured
          exact .writeOut (.quiet configured) _
        next device ready =>
          rw [ready] at configured
          exact .some (.quiet configured)

theorem Handler.ukey_asked {rest : List UInt8}
    (starts : stripPrefix (ascii "UKEY ") line = some rest) :
    Puts log (.command line) handler (handler.ukey rest) := by
  unfold Handler.ukey
  split
  · exact .quiet rfl
  · dsimp only
    split
    · exact .quiet (wake_log hearing handler.state)
    next modifier keys read =>
      obtain ⟨down, up, release, sent, press, released⟩ :=
        sendKeyReport_bursts hearing (ticks 5 handler.state.wake.device) keys modifier
      rw [ticks_log hearing, wake_log hearing] at sent
      refine ⟨down ++ up, ?_, fun sending member => ?_⟩
      · change log (Handler.saveIfPaired _).state.device.world = _
        rw [Handler.saveIfPaired_state]
        exact sent
      · rcases List.mem_append.mp member with first | second
        · rw [press.report_eq sending first]
          exact .key starts read
        · rw [released.report_eq sending second]
          exact .keyReleased starts

/-- A report goes out as one burst; the reply tells whether it was acknowledged. -/
theorem Handler.ukeydown_burst {rest : List UInt8} {modifier : UInt8} {keys : Keys}
    (connected : handler.state.connected = true)
    (read : parseReport rest = some (modifier, keys)) :
    ∃ sendings acked,
      log (handler.ukeydown rest).state.device.world =
        log handler.state.device.world ++ sendings ∧
      Burst (airReport keys modifier) acked sendings ∧
      (handler.ukeydown rest).sink = handler.sink.write (sendReply acked) := by
  obtain ⟨sendings, sent, burst⟩ := probe_burst hearing keys modifier
    (if handler.state.wake.linkUp then 3 else 1) handler.state.wake.device
  rw [wake_log hearing] at sent
  refine ⟨sendings, _, ?_, burst, ?_⟩
  · rw [Handler.ukeydown, if_neg (by simp [connected])]
    dsimp only
    rw [read]
    dsimp only
    rw [Handler.keyDown_state]
    exact sent
  · rw [Handler.ukeydown, if_neg (by simp [connected])]
    dsimp only
    rw [read]
    exact Handler.keyDown_sink _ _ _

theorem Handler.ukeydown_asked {rest : List UInt8}
    (starts : stripPrefix (ascii "UKEYDOWN ") line = some rest) :
    Puts log (.command line) handler (handler.ukeydown rest) := by
  by_cases connected : handler.state.connected = true
  · cases read : parseReport rest with
    | none =>
        refine .quiet ?_
        rw [Handler.ukeydown, if_neg (by simp [connected])]
        dsimp only
        rw [read]
        exact wake_log hearing handler.state
    | some report =>
        obtain ⟨modifier, keys⟩ := report
        obtain ⟨sendings, acked, sent, burst, -⟩ :=
          handler.ukeydown_burst hearing connected read
        refine ⟨sendings, sent, fun sending member => ?_⟩
        rw [burst.report_eq sending member]
        exact .keyDown starts read
  · refine .quiet ?_
    rw [Handler.ukeydown, if_pos (by simpa using connected)]
    rfl

omit [Board W] [RustUnifying W] hearing in
theorem Types.asked {text : List UInt8} {pressed released : Nat}
    {sendings : List (Sending UInt8 UInt8)} (types : Types text pressed released sendings) :
    ∀ sending ∈ sendings, sending.report = allUpReport ∨ ∃ c ∈ text, ∃ usage shift,
      charToHid c = some (usage, shift) ∧ sending.report = charReport usage shift := by
  induction types with
  | nil => exact fun _ member => absurd member List.not_mem_nil
  | skip unmapped rest ih =>
      intro sending member
      rcases ih sending member with up | ⟨c, inside, key⟩
      · exact .inl up
      · exact .inr ⟨c, List.mem_cons_of_mem _ inside, key⟩
  | char mapped down up rest ih =>
      intro sending member
      rcases List.mem_append.mp member with first | later
      · exact .inr ⟨_, List.mem_cons_self, _, _, mapped, down.report_eq sending first⟩
      · rcases List.mem_append.mp later with second | last
        · exact .inl (up.report_eq sending second)
        · rcases ih sending last with up | ⟨c, inside, key⟩
          · exact .inl up
          · exact .inr ⟨c, List.mem_cons_of_mem _ inside, key⟩

theorem Handler.utype_asked {text : List UInt8}
    (starts : stripPrefix (ascii "UTYPE ") line = some text) :
    Asked log (.command line) handler (handler.utype text) := by
  by_cases connected : handler.state.connected = true
  · obtain ⟨pressed, released, sendings, sent, types, -⟩ :=
      typeText_types hearing text 0 0 (ticks 5 handler.state.wake.device)
    rw [ticks_log hearing, wake_log hearing] at sent
    obtain ⟨after, ended, device, -⟩ := utype_ends handler connected text rfl
    rw [ended]
    refine .some ⟨sendings, by rw [device, sent], fun sending member => ?_⟩
    rcases types.asked sending member with up | ⟨c, inside, usage, shift, mapped, key⟩
    · rw [up]
      exact .charReleased starts
    · rw [key]
      exact .char starts inside mapped
  · rw [Handler.utype, if_pos (by simpa using connected)]
    exact .some (.quiet rfl)

theorem handleUnifyingCommand_asked (buildTime : Nat) :
    Asked log (.command line) handler (handleUnifyingCommand buildTime handler line) := by
  unfold handleUnifyingCommand
  split
  · exact .some (.quiet rfl)
  split
  · exact handler.uradiotest_asked hearing
  split
  · exact handler.upair_asked hearing
  split
  · exact handler.uconnect_asked hearing
  split
  · exact .some (handler.ukeepalive_asked hearing)
  split
  · exact .some (handler.usleep_asked hearing)
  split
  · exact .writeOut (.quiet rfl) _
  split
  · exact .some (.quiet rfl)
  split
  · exact .some handler.udelete_asked
  unfold Handler.handleArguments
  split
  · exact handler.uswitch_asked hearing _
  split
  next starts => exact .some (handler.ukey_asked hearing starts)
  split
  next starts => exact .some (handler.ukeydown_asked hearing starts)
  split
  next starts => exact handler.utype_asked hearing starts
  · exact .some (.quiet rfl)

end Commands

/-! ## Runs -/

section Run

variable {W : Type} [Board W] [RustUnifying W] {log : W → List (Sending UInt8 UInt8)}
  (hearing : RustUnifying.Hearing log)

include hearing

theorem Handler.boot_log (world : W) (flash : Nvmc) :
    log (Handler.boot world flash).state.device.world = log world := by
  have fresh : log (UnifyingState.new world).device.world = log world :=
    (hearing.now _).trans (hearing.new world ..)
  obtain ⟨slot, state | ⟨profile, state⟩⟩ := Handler.boot_state world flash
  · rw [state]
    exact fresh
  · rw [state]
    exact fresh

theorem Handler.allUp_asked (handler : Handler W) : Puts log .allUp handler handler.allUp := by
  unfold Handler.allUp
  split
  · obtain ⟨sendings, sent, burst⟩ :=
      transmit_burst hearing (.replicate 6 0) 0 20 handler.state.device
    refine ⟨sendings, sent, fun sending member => ?_⟩
    rw [burst.report_eq sending member]
    exact .allUp
  · exact .quiet rfl

theorem Handler.pollRadio_asked (handler : Handler W) (uploadActive uartOtaActive : Bool)
    {action : Action} :
    Puts log action handler (handler.pollRadio uploadActive uartOtaActive) := by
  have polled : log handler.state.keepAlive.device.world = log handler.state.device.world := by
    have time := hearing.now handler.state.device.world
    unfold UnifyingState.keepAlive
    dsimp only
    generalize woken : ({ handler.state.device.now.2 with timeout := _ } : Device W) = device
    have world : log device.world = log handler.state.device.world := by
      rw [← woken]
      exact time
    have tick := hearing.tick device
    generalize RustUnifying.tick device = result at tick
    obtain ⟨heard, after⟩ := result
    cases heard with
    | true => exact tick.trans world
    | false => exact tick.trans world
  obtain ⟨after, same, kept⟩ : ∃ after : Handler W,
      (if handler.state.connected = true ∧ uploadActive = false ∧ uartOtaActive = false then
        { handler with state := handler.state.keepAlive } else handler) = after ∧
      log after.state.device.world = log handler.state.device.world := by
    refine ⟨_, rfl, ?_⟩
    split
    · exact polled
    · rfl
  refine .quiet ?_
  rw [Handler.pollRadio, same]
  dsimp only
  split
  · rw [Handler.saveIfPaired_state]
    exact (hearing.clearPofWarning _).trans kept
  · exact kept

/-- An action puts on air only what it asks for. -/
theorem Handler.act_asked (buildTime : Nat) (handler : Handler W) (action : Action) :
    Puts log action handler (handler.act buildTime action) := by
  cases action with
  | powerCycle => exact .quiet (Handler.boot_log hearing _ _)
  | command line =>
      have asked : Asked log (.command line) handler.ready
          (handleUnifyingCommand buildTime handler.ready line) :=
        handleUnifyingCommand_asked hearing handler.ready buildTime
      rw [Handler.act]
      cases done : handleUnifyingCommand buildTime handler.ready line with
      | some after => exact asked after done
      | none => exact .quiet (Handler.boot_log hearing _ _)
  | allUp => exact Handler.allUp_asked hearing handler.ready
  | poll uploadActive uartOtaActive =>
      exact Handler.pollRadio_asked hearing handler.ready uploadActive uartOtaActive

/-- What goes on air in a run was asked for by an action of the run. -/
theorem Handler.run_asked (buildTime : Nat) (handler : Handler W) (actions : List Action) :
    ∃ sendings,
      log (actions.foldl (Handler.act buildTime) handler).state.device.world =
        log handler.state.device.world ++ sendings ∧
      ∀ sending ∈ sendings, ∃ action ∈ actions, Asks action sending.report := by
  induction actions generalizing handler with
  | nil => exact ⟨[], (List.append_nil _).symm, fun _ member => absurd member List.not_mem_nil⟩
  | cons action rest ih =>
      obtain ⟨first, sent, asked⟩ := Handler.act_asked hearing buildTime handler action
      obtain ⟨others, later, askedLater⟩ := ih (handler.act buildTime action)
      refine ⟨first ++ others, ?_, fun sending member => ?_⟩
      · rw [List.foldl_cons, later, sent, List.append_assoc]
      · rcases List.mem_append.mp member with here | there
        · exact ⟨action, List.mem_cons_self, asked sending here⟩
        · obtain ⟨other, acted, asks⟩ := askedLater sending there
          exact ⟨other, List.mem_cons_of_mem _ acted, asks⟩

omit [Board W] [RustUnifying W] hearing in
theorem hostKeys_append {before after : Handler W} {sendings : List (Sending UInt8 UInt8)}
    (sent : log after.state.device.world = log before.state.device.world ++ sendings) :
    hostKeys log after = heldAfter (hostKeys log before) (received sendings) := by
  rw [hostKeys, sent, received_append, heldAfter_append]
  rfl

/-- Actions that ask for no report leave the held keys alone. -/
theorem hostKeys_quiet (buildTime : Nat) {actions : List Action}
    (quiet : ∀ action ∈ actions, ∀ report, ¬Asks action report) (handler : Handler W) :
    hostKeys log (actions.foldl (Handler.act buildTime) handler) = hostKeys log handler := by
  induction actions generalizing handler with
  | nil => rfl
  | cons action rest ih =>
      obtain ⟨sendings, sent, asked⟩ := Handler.act_asked hearing buildTime handler action
      have nothing : sendings = [] := by
        refine List.eq_nil_iff_forall_not_mem.mpr fun sending member => ?_
        exact quiet action List.mem_cons_self _ (asked sending member)
      have later := ih (fun other member => quiet other (List.mem_cons_of_mem _ member))
        (handler.act buildTime action)
      rw [List.foldl_cons, later, hostKeys_append sent, nothing]
      rfl

/-- A `UKEYDOWN` leaves the held keys, or makes them its own; the latter if it was answered `OK`. -/
theorem hostKeys_keyDown (buildTime : Nat) (handler : Handler W) {line rest : List UInt8}
    {modifier : UInt8} {keys : Keys} (starts : stripPrefix (ascii "UKEYDOWN ") line = some rest)
    (read : parseReport rest = some (modifier, keys)) :
    let after := handler.act buildTime (.command line)
    hostKeys log after = (airReport keys modifier).keys ∨
      hostKeys log after = hostKeys log handler ∧ after.sink.bytes ≠ ascii "OK\r\n" := by
  have command : handler.act buildTime (.command line) = handler.ready.ukeydown rest := by
    rw [Handler.act, stripPrefix_eq_some starts, handle_ukeydown]
  dsimp only
  rw [command]
  by_cases connected : handler.state.connected = true
  · obtain ⟨sendings, acked, sent, burst, sink⟩ :=
      handler.ready.ukeydown_burst hearing connected read
    have honest : Honest sendings := by
      have all := hearing.honest (handler.ready.ukeydown rest).state.device.world
      rw [sent] at all
      exact (List.forall_mem_append.mp all).2
    have keysAfter : hostKeys log (handler.ready.ukeydown rest) =
        heldAfter (hostKeys log handler) (received sendings) := hostKeys_append sent
    rcases burst.read_cases honest (hostKeys log handler) with ⟨-, held⟩ | ⟨lost, nothing⟩
    · exact .inl (keysAfter.trans held)
    · rw [nothing] at keysAfter
      refine .inr ⟨keysAfter, ?_⟩
      rw [sink, lost]
      change (({} : ReplySink).write (sendReply false)).bytes ≠ _
      decide
  · have apart : handler.ready.state.connected = false := Bool.eq_false_iff.mpr connected
    refine .inr ?_
    rw [Handler.ukeydown, if_pos apart]
    refine ⟨rfl, ?_⟩
    change (({} : ReplySink).write (ascii "ERR NOTCONN\r\n")).bytes ≠ _
    decide

/--
In every run the receiver's host holds the keys it held at power-up or those of
a report that an action asked for. A `UKEYDOWN` leaves these keys or makes them
its own, whatever is lost on air; after an `OK` they are its own, and stay so
until an action asks for another report.
-/
theorem host_keys (buildTime : Nat) (world : W) (flash : Nvmc) (actions : List Action) :
    let state := actions.foldl (Handler.act buildTime) (.boot world flash)
    (hostKeys log state = heldAfter [] (received (log world)) ∨
      ∃ action ∈ actions, ∃ report, Asks action report ∧ hostKeys log state = report.keys) ∧
    ∀ line rest modifier keys, stripPrefix (ascii "UKEYDOWN ") line = some rest →
      parseReport rest = some (modifier, keys) →
      let next := state.act buildTime (.command line)
      (hostKeys log next = hostKeys log state ∨
        hostKeys log next = (airReport keys modifier).keys) ∧
      (next.sink.bytes = ascii "OK\r\n" → ∀ later : List Action,
        (∀ action ∈ later, ∀ report, ¬Asks action report) →
        hostKeys log (later.foldl (Handler.act buildTime) next) =
          (airReport keys modifier).keys) := by
  refine ⟨?_, fun line rest modifier keys starts read => ?_⟩
  · obtain ⟨sendings, sent, asked⟩ :=
      Handler.run_asked hearing buildTime (.boot world flash) actions
    have held := hostKeys_append sent
    have first : hostKeys log (Handler.boot world flash) = heldAfter [] (received (log world)) := by
      rw [hostKeys, Handler.boot_log hearing]
    rw [first] at held
    rcases heldAfter_cases (heldAfter [] (received (log world))) (received sendings)
      with same | ⟨report, member, keys⟩
    · exact .inl (held.trans same)
    · obtain ⟨sending, inside, rfl⟩ := mem_received member
      obtain ⟨action, acted, asks⟩ := asked sending inside
      exact .inr ⟨action, acted, _, asks, held.trans keys⟩
  · have settled := hostKeys_keyDown hearing buildTime
      (actions.foldl (Handler.act buildTime) (.boot world flash)) starts read
    dsimp only at settled ⊢
    refine ⟨?_, fun ok later quiet => ?_⟩
    · rcases settled with keys | ⟨same, -⟩
      · exact .inr keys
      · exact .inl same
    · rw [hostKeys_quiet hearing buildTime quiet]
      rcases settled with keys | ⟨-, failed⟩
      · exact keys
      · exact absurd ok failed

end Run

theorem host_keys_lossy :
    let state := [Action.command (ascii "UPAIR"), .command (ascii "UTYPE a")].foldl (Handler.act 0)
      (.boot lossyWorld erasedChip)
    (hostKeys Ether.log state = [] ∨ ∃ action ∈
        [Action.command (ascii "UPAIR"), .command (ascii "UTYPE a")],
      ∃ report, Asks action report ∧ hostKeys Ether.log state = report.keys) ∧
    ∀ line rest modifier keys, stripPrefix (ascii "UKEYDOWN ") line = some rest →
      parseReport rest = some (modifier, keys) →
      let next := state.act 0 (.command line)
      (hostKeys Ether.log next = hostKeys Ether.log state ∨
        hostKeys Ether.log next = (airReport keys modifier).keys) ∧
      (next.sink.bytes = ascii "OK\r\n" → ∀ later : List Action,
        (∀ action ∈ later, ∀ report, ¬Asks action report) →
        hostKeys Ether.log (later.foldl (Handler.act 0) next) = (airReport keys modifier).keys) :=
  host_keys Ether.hearing 0 lossyWorld erasedChip _

end NrfUnifying.Radio
