import NrfUnifying.Serial.Lines
import NrfUnifying.Tasks.Exchange
import Mathlib.Data.List.Forall2

/-!
# One reply to each CDC line

The serial task cuts what it receives outside an upload into lines, answers the
update commands and refuses what is too long by itself, and waits for the worker
to answer the rest. `Conversation` notes the bytes of a session and the replies
written for each of its lines.
-/

namespace NrfUnifying.Tasks

open Lib.Bytes Lib.Lines Lib.Runs Radio Storage UartLink Updater UartOta

/-! ## What is noted -/

/-- The replies written for one line: the serial task's own, and those passed on from the worker. -/
structure Entry where
  own : List (List UInt8) := []
  passed : List (List UInt8) := []
  deriving DecidableEq, Repr

/-- The bytes of the session's packets outside an upload, those of them that were scanned, and the
replies to each line that was scanned to its end. -/
structure Conversation where
  stream : List UInt8 := []
  scanned : List UInt8 := []
  entries : List Entry := []
  deriving DecidableEq, Repr

/-- What a step writes to the host. -/
def CdcView.writes (before after : CdcView) : List (List UInt8) :=
  (after.log.take (after.log.length - before.log.length)).filterMap fun
    | .toHost _ bytes => some bytes
    | _ => none

/-- The last entry with more replies that were passed on. -/
def passOn (entries : List Entry) (bytes : List (List UInt8)) : List Entry :=
  entries.dropLast ++
    (entries.getLast?.map fun entry => { entry with passed := entry.passed ++ bytes }).toList

/-- What a step of the serial task adds; a new session starts anew. -/
def Conversation.next (conversation : Conversation) (before after : CdcView) : Conversation :=
  match before.serial, after.serial with
  | .handshake _, .reading _ => {}
  | .reading _, .scanning _ packet =>
      { conversation with stream := conversation.stream ++ packet }
  | .scanning _ (_ :: _), .connecting => conversation
  | .scanning _ (byte :: _), _ =>
      { conversation with
        scanned := conversation.scanned ++ [byte]
        entries :=
          if byte = 0x0A then conversation.entries ++ [{ own := before.writes after }]
          else conversation.entries }
  | .answering _ _, .scanning _ _ =>
      { conversation with entries := passOn conversation.entries (before.writes after) }
  | _, _ => conversation

/-! ## The property -/

/-- What the serial task has not scanned of a packet. -/
def SerialPhase.rest : SerialPhase → List UInt8
  | .scanning _ rest | .requesting _ _ rest | .answering _ rest => rest
  | _ => []

/-- The serial task has a line for the worker and waits for the reply. -/
def SerialPhase.waits : SerialPhase → Bool
  | .requesting .. | .answering .. => true
  | _ => false

section Property

variable (W F I : Type) [Board W] [RustUnifying W] [FirmwareUpdater F I]

/-- The worker's answer to a line is one line; only the self-test reports more. -/
structure WorkerReply (buildTime : Nat) (line bytes : List UInt8) : Prop where
  answer : CommandAnswer W buildTime line bytes
  report : bytes ≠ []
  one : line ≠ ascii "URADIOTEST" → IsLine bytes

/-- The one reply to a line. As long as the number of sessions `fits`, what the worker is asked
cannot be an earlier session's. -/
inductive Answered (buildTime : Nat) (fits : Prop) : List UInt8 → Entry → Prop where
  | empty : Answered buildTime fits [] {}
  | overlong {line : List UInt8} (long : Serial.lineLimit < line.length) :
      Answered buildTime fits line { own := [Serial.Reply.errArg.text buildTime] }
  | update {line : List UInt8} (short : line.length ≤ Serial.lineLimit)
      (command : (Serial.parseOtaCommand line).isSome = true) (cdc : Serial.Cdc F I)
      (uartOta : Bool) (reply : Serial.Reply)
      (dispatched : (cdc.dispatch uartOta line).reply = some reply) :
      Answered buildTime fits line { own := [reply.text buildTime] }
  | worker {line bytes : List UInt8} (short : line.length ≤ Serial.lineLimit)
      (nonempty : line ≠ []) (command : Serial.parseOtaCommand line = none)
      (reply : fits → WorkerReply W buildTime line bytes) :
      Answered buildTime fits line { passed := [bytes] }

/-- Every line has its one reply, except that the last one may wait for the worker's. -/
inductive InStep (buildTime : Nat) (fits : Prop) (phase : SerialPhase)
    (lines : List (List UInt8)) (entries : List Entry) : Prop where
  | settled (quiet : phase.waits = false)
      (answered : List.Forall₂ (Answered W F I buildTime fits) lines entries)
  | waiting (waits : phase.waits = true) (settled : List (List UInt8)) (line : List UInt8)
      (replies : List Entry) (last : lines = settled ++ [line])
      (open_ : entries = replies ++ [({} : Entry)])
      (answered : List.Forall₂ (Answered W F I buildTime fits) settled replies)
      (short : line.length ≤ Serial.lineLimit) (nonempty : line ≠ [])
      (command : Serial.parseOtaCommand line = none)

variable {W F I}

/-- The system with what is noted of the CDC session. -/
structure Dialogue (W F I : Type) where
  system : System W F I
  conversation : Conversation := {}

/-- In an open session the bytes received are those scanned and those still to come, and each line
of the scanned ones has its one reply. -/
structure Dialogue.Paired (buildTime : Nat) (dialogue : Dialogue W F I) : Prop where
  received : dialogue.system.serial.phase.entered.isSome = true →
    dialogue.conversation.stream =
      dialogue.conversation.scanned ++ dialogue.system.serial.phase.rest
  inStep : dialogue.system.serial.phase.entered.isSome = true →
    InStep W F I buildTime (dialogue.system.record.sessions < 2 ^ 32)
      dialogue.system.serial.phase (completeLines dialogue.conversation.scanned)
      dialogue.conversation.entries

/-- Besides, the reply that an active session waits for is not lost: the line is at the worker, or
its reply has been posted. -/
structure Dialogue.OneReply (buildTime : Nat) (dialogue : Dialogue W F I) : Prop extends
    dialogue.Paired buildTime where
  kept : dialogue.system.record.sessions < 2 ^ 32 → dialogue.system.shared.cdcActive = true →
    dialogue.system.serial.phase.awaiting = some dialogue.system.shared.cdcSession →
    dialogue.system.cdcView.outstanding = 1

/-- A step of the serial task. -/
def Dialogue.advance (dialogue : Dialogue W F I) (after : System W F I) : Dialogue W F I where
  system := after
  conversation := dialogue.conversation.next dialogue.system.cdcView after.cdcView

def Dialogue.step (buildTime : Nat) (dialogue : Dialogue W F I) (action : Action) :
    Dialogue W F I :=
  let after := dialogue.system.step buildTime action
  match action with
  | .serial _ => dialogue.advance after
  | _ => { dialogue with system := after }

def Dialogue.boot (world : W) (flash : Nvmc) (dfu : F) : Dialogue W F I where
  system := .boot world flash dfu

/-- The byte that a step scans, unless the session is cancelled first. -/
def System.scans {W F I : Type} (system : System W F I) : Action → Option UInt8
  | .serial input =>
      match system.serial.phase with
      | .scanning session (byte :: _) =>
          if input.timer ∧ ¬(system.shared.cdcActive ∧ system.shared.cdcSession = session) then
            none
          else some byte
      | _ => none
  | _ => none

/-- The step does not end a line `REBOOT`. -/
def Dialogue.NoReboot (dialogue : Dialogue W F I) (action : Action) : Prop :=
  dialogue.system.scans action = some 0x0A →
    unfinishedLine dialogue.conversation.scanned ≠ ascii "REBOOT"

/-- From one to the other the serial task has moved on in its packet, and only its line has
changed. -/
def System.OnlyLine (before after : System W F I) : Prop :=
  ∃ session line discardLine rest, after = { before with serial := { before.serial with
    phase := .scanning session rest
    session := { before.serial.session with line, discardLine } } }

/-- A byte that ends no line changes nothing but the line, and so does the end of a line that is
too long, which is refused. -/
structure Dialogue.Quiet (buildTime : Nat) (dialogue : Dialogue W F I) (action : Action) :
    Prop where
  inside : ∀ byte, dialogue.system.scans action = some byte → byte ≠ 0x0A →
    dialogue.system.OnlyLine (dialogue.system.step buildTime action)
  refused : dialogue.system.scans action = some 0x0A →
    Serial.lineLimit < (unfinishedLine dialogue.conversation.scanned).length →
    ∃ session,
      (dialogue.system.note (.toHost session (Serial.Reply.errArg.text buildTime))).OnlyLine
        (dialogue.system.step buildTime action)

end Property

/-! ## The serial task's steps -/

section Steps

variable {W F I : Type}

def SerialPhase.isScanning : SerialPhase → Bool
  | .scanning .. => true
  | _ => false

/-- The steps of the serial task, each with the byte that it scans. -/
inductive System.SerialStep [FirmwareUpdater F I] (system : System W F I) (buildTime : Nat) :
    Option UInt8 → System W F I → Prop where
  | out {after : System W F I} (left : after.serial.phase.entered = none) :
      SerialStep system buildTime none after
  | enter {session : UInt32} {after : System W F I}
      (waiting : system.serial.phase = .handshake session)
      (reading : after.serial.phase = .reading session) (fresh : after.serial.session = {}) :
      SerialStep system buildTime none after
  | wait {after : System W F I} (same : after.serial = system.serial)
      (idle : system.serial.phase.isScanning = false)
      (held : after.cdcView.held = system.cdcView.held)
      (fewer : ∀ reply ∈ after.shared.cdcReplies, reply ∈ system.shared.cdcReplies) :
      SerialStep system buildTime none after
  | packet {session : UInt32} {bytes : List UInt8}
      (reading : system.serial.phase = .reading session) :
      SerialStep system buildTime none (system.setSerial (.scanning session bytes))
  | upload {session : UInt32} {bytes : List UInt8}
      (reading : system.serial.phase = .reading session) :
      SerialStep system buildTime none
        (system.outcome buildTime session (system.cdc.upload bytes) [])
  | done {session : UInt32} (scanning : system.serial.phase = .scanning session []) :
      SerialStep system buildTime none (system.setSerial (.reading session))
  | byte {session : UInt32} {byte : UInt8} {rest : List UInt8}
      (scanning : system.serial.phase = .scanning session (byte :: rest)) :
      SerialStep system buildTime (some byte) (system.outcome buildTime session
        (system.cdc.push system.shared.uartOtaActive byte) rest)
  | send {session : UInt32} {line rest : List UInt8} {after : System W F I}
      (requesting : system.serial.phase = .requesting session line rest)
      (answering : after.serial = { system.serial with phase := .answering session rest })
      (queued : after.cdcView.held = system.cdcView.held ++ [{ source := .cdc session, line }])
      (replies : after.shared.cdcReplies = system.shared.cdcReplies) :
      SerialStep system buildTime none after
  | receive {session : UInt32} {rest : List UInt8} {reply : Reply} {after : System W F I}
      (answering : system.serial.phase = .answering session rest)
      (posted : reply ∈ system.shared.cdcReplies)
      (scanning : after.serial = { system.serial with phase := .scanning session rest })
      (written : after.record.log = .toHost session reply.bytes :: system.record.log) :
      SerialStep system buildTime none after

/-- What a move of the serial task scans. -/
theorem System.SerialMove.step [FirmwareUpdater F I] {system after : System W F I} {buildTime : Nat}
    {input : SerialInput} (move : system.SerialMove buildTime input after) :
    system.SerialStep buildTime (system.scans (.serial input)) after := by
  unfold System.scans
  dsimp only
  cases move with
  | wait waits =>
      cases waits with
      | connecting phase | inactive phase => rw [phase]; exact .out (by rw [phase]; rfl)
      | handshake phase => rw [phase]; exact .out (by rw [phase]; rfl)
      | reading phase | requesting phase | answering phase =>
          rw [phase]
          exact .wait rfl (by rw [phase]; rfl) rfl fun _ member => member
  | connect phase | opens phase => rw [phase]; exact .out rfl
  | @cancel session opened cancels =>
      cases phase : system.serial.phase with
      | scanning other rest =>
          rw [phase] at opened
          obtain rfl : other = session := Option.some.inj opened
          rw [System.Cancels] at cancels
          cases rest with
          | nil => exact .out rfl
          | cons byte rest =>
              dsimp only
              rw [if_pos cancels]
              exact .out rfl
      | _ => exact .out rfl
  | enter phase => rw [phase]; exact .enter phase rfl rfl
  | pass phase => rw [phase]; exact .out (congrArg SerialPhase.entered phase)
  | fail phase => rw [phase]; exact .out rfl
  | upload phase => rw [phase]; exact .upload phase
  | packet phase => rw [phase]; exact .packet phase
  | done phase => rw [phase]; exact .done phase
  | byte phase goesOn =>
      rw [System.Cancels] at goesOn
      rw [phase]
      dsimp only
      rw [if_neg goesOn]
      exact .byte phase
  | send phase => rw [phase]; exact .send phase rfl (List.append_assoc _ _ _).symm rfl
  | receive phase queue =>
      rw [phase]
      exact .receive phase (queue ▸ List.mem_cons_self) rfl rfl
  | skip phase queue =>
      rw [phase]
      refine .wait rfl (by rw [phase]; rfl) rfl fun _ member => ?_
      rw [queue]
      exact List.mem_cons_of_mem _ member

theorem System.serialFut_step [FirmwareUpdater F I] (system : System W F I) (buildTime : Nat)
    (input : SerialInput) : system.SerialStep buildTime (system.scans (.serial input))
      (system.serialFut buildTime input) :=
  (system.serialFut_move buildTime input).step

/-! ## All other steps -/

section Other

variable {before after : System W F I}

theorem System.UsbMove.serial (move : before.UsbMove after) : after.serial = before.serial := by
  cases move <;> rfl

theorem System.RxMove.serial (move : before.RxMove after) : after.serial = before.serial := by
  cases move <;> rfl

theorem System.TxMove.serial {writing : Writing} (move : before.TxMove writing after) :
    after.serial = before.serial := by
  cases move <;> rfl

end Other

variable [Board W] [RustUnifying W] [FirmwareUpdater F I] (system : System W F I) (buildTime : Nat)

theorem System.step_serial (action : Action) (beside : action.Beside) :
    (system.step buildTime action).serial = system.serial := by
  refine System.step_keeps (motive := fun after => after.serial = system.serial) buildTime beside
    rfl ?_ ?_ ?_
  · exact fun move kept => move.serial.trans kept
  · exact fun move kept => move.serial.trans kept
  · exact fun move kept => move.serial.trans kept

theorem System.workerFut_serial (clock : Clock) :
    (system.workerFut buildTime clock).serial = system.serial := by
  refine system.workerFut_keeps buildTime clock
    (motive := fun _ after => after.serial = system.serial) rfl fun move kept => ?_
  rw [← kept]
  cases move <;> rfl

end Steps

/-! ## The worker's answer -/

section Tied

variable (W : Type) [Board W] [RustUnifying W]

/-- What the worker holds or has answered of the current session is the last of these lines. -/
structure CdcView.Tied (view : CdcView) (buildTime : Nat) (lines : List (List UInt8)) : Prop where
  held : view.active = true → ∀ request ∈ view.held, request.source = .cdc view.session →
    request.error = none ∧ lines.getLast? = some request.line
  posted : ∀ reply ∈ view.replies, ∃ line, lines.getLast? = some line ∧
    CommandAnswer W buildTime line reply.bytes

variable {W} {view after : CdcView} {buildTime : Nat} {lines : List (List UInt8)}

/-- Nothing is under way that the serial task does not wait for. -/
theorem CdcView.Tied.of_quiet (orderly : view.Orderly)
    (quiet : view.active = true → view.serial.awaiting ≠ some view.session) :
    view.Tied W buildTime lines where
  held active request member source := by
    have counted : 0 < view.held.countP (fun request => request.source = .cdc view.session) :=
      List.countP_pos_iff.mpr ⟨request, member, decide_eq_true source⟩
    have awaits := orderly.awaits active (by rw [CdcView.outstanding]; omega)
    exact absurd awaits.1 (quiet active)
  posted reply member := by
    rw [orderly.empty quiet] at member
    cases member

theorem CdcView.Tied.keep (tied : view.Tied W buildTime lines) (keeps : view.Keeps after)
    (posted : ∀ reply ∈ after.replies, reply ∈ view.replies ∨ ∃ line,
      lines.getLast? = some line ∧ CommandAnswer W buildTime line reply.bytes) :
    after.Tied W buildTime lines where
  held active request member source := by
    rw [keeps.active] at active
    rw [keeps.session] at source
    exact tied.held active request (keeps.held request member _ source) source
  posted reply member := (posted reply member).elim (tied.posted reply) id

theorem CdcView.Renumber.earlier (renumber : view.Renumber after) :
    view.sessions ≤ after.sessions := by
  cases renumber with
  | same => exact Nat.le_refl _
  | lose => exact Nat.le_succ _
  | activate => exact Nat.le_succ _

/-- A session that is new has nothing under way. -/
theorem CdcView.Tied.renumber (tied : view.Tied W buildTime lines) (renumber : view.Renumber after)
    (orderly : view.Orderly) (fits : after.sessions < 2 ^ 32) : after.Tied W buildTime lines := by
  have orderly' := renumber.orderly orderly fits
  cases renumber with
  | same => exact tied
  | lose => exact .of_quiet orderly' nofun
  | activate inactive => exact .of_quiet orderly' fun _ => orderly.numbered.unawaited fits

variable {F I : Type} [FirmwareUpdater F I] {system : System W F I}

/-- The worker answers the line that it was given. -/
theorem CdcView.Tied.work (tied : system.cdcView.Tied W buildTime lines) (clock : Clock) :
    (system.workerFut buildTime clock).cdcView.Tied W buildTime lines := by
  refine tied.keep (system.workerFut_cdc buildTime clock).keeps fun reply member => ?_
  have replies := (system.workerFut_served clock buildTime).hand.1
  change reply ∈ (system.workerFut buildTime clock).shared.cdcReplies at member
  generalize (system.workerFut buildTime clock).shared.cdcReplies = after at member replies
  cases replies with
  | nothing => exact .inl member
  | @posted request epoch bytes serves source live answer =>
      rcases List.mem_append.mp member with old | new
      · exact .inl old
      · obtain rfl := List.mem_singleton.mp new
        obtain ⟨fine, last⟩ := tied.held live.1 request (System.serves_held serves source)
          (live.2 ▸ source)
        exact .inr ⟨request.line, last, answer fine⟩

/-- A command answer to a line that is not empty is a reply. -/
theorem CommandAnswer.reply {line bytes : List UInt8}
    (answer : CommandAnswer W buildTime line bytes) (word : buildTime < 2 ^ 64)
    (nonempty : line ≠ []) : WorkerReply W buildTime line bytes := by
  have answered := answer
  rcases answer with rfl | ⟨handler, after, handled, rfl⟩
  · exact ⟨answered, by decide, fun _ => by decide⟩
  refine ⟨answered, ?_, fun other => ?_⟩
  · obtain ⟨after', bodies, done, answers, sink⟩ :=
      handleUnifyingCommand_writes handler.ready line buildTime
    obtain rfl := Option.some.inj (handled.symm.trans done)
    have fits : handler.ready.sink.bytes.length + bodies.flatten.length ≤ replyLimit :=
      by
      rw [show handler.ready.sink.bytes = [] from rfl, List.length_nil, Nat.zero_add]
      exact answers.fits word
    rw [sink, ReplySink.writes_bytes fits]
    exact List.append_ne_nil_of_right_ne_nil _ (answers.nonempty word nonempty)
  · obtain ⟨after', body, done, isLine, sink⟩ :=
      handleUnifyingCommand_replies handler.ready line word nonempty other
    obtain rfl := Option.some.inj (handled.symm.trans done)
    rw [sink, show handler.ready.sink = {} from rfl, isLine.write_empty]
    exact isLine

end Tied

/-! ## What is noted of a step -/

section Notes

variable {before after : CdcView} {conversation : Conversation} {session : UInt32}

theorem CdcView.writes_of_log {events : List Event} (log : after.log = events ++ before.log) :
    before.writes after = events.filterMap fun
      | .toHost _ bytes => some bytes
      | _ => none := by
  rw [CdcView.writes, log, List.length_append, Nat.add_sub_cancel, List.take_left]

theorem Conversation.next_enter (waiting : before.serial = .handshake session)
    (reading : after.serial = .reading session) : conversation.next before after = {} := by
  rw [Conversation.next, waiting, reading]

theorem Conversation.next_wait (idle : before.serial.isScanning = false)
    (same : after.serial = before.serial) : conversation.next before after = conversation := by
  rw [Conversation.next, same]
  cases phase : before.serial with
  | scanning session rest =>
      rw [phase] at idle
      cases idle
  | _ => rfl

theorem Conversation.next_packet {bytes : List UInt8} (reading : before.serial = .reading session)
    (scanning : after.serial = .scanning session bytes) : conversation.next before after =
      { conversation with stream := conversation.stream ++ bytes } := by
  rw [Conversation.next, reading, scanning]

theorem Conversation.next_done (scanning : before.serial = .scanning session [])
    (reading : after.serial = .reading session) :
    conversation.next before after = conversation := by
  rw [Conversation.next, scanning, reading]

theorem Conversation.next_byte {byte : UInt8} {rest : List UInt8}
    (scanning : before.serial = .scanning session (byte :: rest))
    (entered : after.serial.entered.isSome = true) : conversation.next before after =
      { conversation with
        scanned := conversation.scanned ++ [byte]
        entries :=
          if byte = 0x0A then conversation.entries ++ [{ own := before.writes after }]
          else conversation.entries } := by
  rw [Conversation.next, scanning]
  cases phase : after.serial with
  | connecting =>
      rw [phase] at entered
      cases entered
  | _ => rfl

theorem Conversation.next_send {line rest : List UInt8}
    (requesting : before.serial = .requesting session line rest)
    (answering : after.serial = .answering session rest) :
    conversation.next before after = conversation := by
  rw [Conversation.next, requesting, answering]

theorem Conversation.next_receive {rest : List UInt8}
    (answering : before.serial = .answering session rest)
    (scanning : after.serial = .scanning session rest) : conversation.next before after =
      { conversation with entries := passOn conversation.entries (before.writes after) } := by
  rw [Conversation.next, answering, scanning]

theorem passOn_snoc (entries : List Entry) (entry : Entry) (bytes : List (List UInt8)) :
    passOn (entries ++ [entry]) bytes =
      entries ++ [{ entry with passed := entry.passed ++ bytes }] := by
  rw [passOn, List.dropLast_concat, List.getLast?_concat]
  rfl

end Notes

section Outcome

variable {W F I : Type} (system : System W F I) (buildTime : Nat) (session : UInt32)
  (outcome : Serial.Outcome F I) (rest : List UInt8)

theorem System.outcome_phase :
    (system.outcome buildTime session outcome rest).serial.phase = match outcome.request with
      | some line => .requesting session line rest
      | none => .scanning session rest := by
  unfold System.outcome
  dsimp only
  cases outcome.reply <;> rfl

theorem System.outcome_session :
    (system.outcome buildTime session outcome rest).serial.session = outcome.cdc.session := by
  unfold System.outcome
  dsimp only
  split <;> rfl

theorem System.outcome_entered :
    (system.outcome buildTime session outcome rest).serial.phase.entered = some session := by
  rw [System.outcome_phase]
  split <;> rfl

theorem System.outcome_rest :
    (system.outcome buildTime session outcome rest).serial.phase.rest = rest := by
  rw [System.outcome_phase]
  split <;> rfl

theorem System.outcome_writes :
    system.cdcView.writes (system.outcome buildTime session outcome rest).cdcView =
      outcome.reply.toList.map fun reply => reply.text buildTime := by
  have log : (system.outcome buildTime session outcome rest).cdcView.log =
      (outcome.reply.toList.map fun reply => .toHost session (reply.text buildTime)) ++
        system.cdcView.log := by
    unfold System.outcome
    dsimp only
    cases outcome.reply <;> rfl
  rw [CdcView.writes_of_log log]
  cases outcome.reply <;> rfl

end Outcome

/-! ## The invariant -/

section Invariant

variable {W F I : Type} [Board W] [RustUnifying W]

/-- The serial task has the unfinished line, and asks the worker for the last complete one; so does
whatever is under way, until the session's number wraps. -/
structure Dialogue.Known (buildTime : Nat) (dialogue : Dialogue W F I) : Prop where
  assembled : dialogue.system.serial.phase.entered.isSome = true →
    dialogue.system.serial.session.Assembled dialogue.conversation.scanned
  asked : ∀ session line rest, dialogue.system.serial.phase = .requesting session line rest →
    (completeLines dialogue.conversation.scanned).getLast? = some line
  underWay : dialogue.system.record.sessions < 2 ^ 32 → dialogue.system.cdcView.Orderly ∧
    dialogue.system.cdcView.Tied W buildTime (completeLines dialogue.conversation.scanned)

variable {dialogue : Dialogue W F I} {after : System W F I} {buildTime : Nat}

/-- A step of another task. -/
theorem Dialogue.Known.other (known : dialogue.Known buildTime)
    (same : after.serial = dialogue.system.serial)
    (underWay : after.record.sessions < 2 ^ 32 → after.cdcView.Orderly ∧
      after.cdcView.Tied W buildTime (completeLines dialogue.conversation.scanned)) :
    Dialogue.Known buildTime { dialogue with system := after } where
  assembled := by rw [same]; exact known.assembled
  asked := by rw [same]; exact known.asked
  underWay

theorem Dialogue.Known.renumber (known : dialogue.Known buildTime)
    (same : after.serial = dialogue.system.serial)
    (renumber : dialogue.system.cdcView.Renumber after.cdcView) :
    Dialogue.Known buildTime { dialogue with system := after } := by
  refine known.other same fun fits => ?_
  obtain ⟨orderly, tied⟩ := known.underWay (Nat.lt_of_le_of_lt renumber.earlier fits)
  exact ⟨renumber.orderly orderly fits, tied.renumber renumber orderly fits⟩

theorem Dialogue.Known.listens (known : dialogue.Known buildTime)
    (same : after.serial = dialogue.system.serial)
    (listens : dialogue.system.cdcView.Listens after.cdcView) :
    Dialogue.Known buildTime { dialogue with system := after } := by
  obtain ⟨keeps, replies⟩ := listens.keeps
  refine known.other same fun fits => ?_
  obtain ⟨orderly, tied⟩ := known.underWay
    (Nat.lt_of_le_of_lt (Nat.le_of_eq keeps.sessions.symm) fits)
  refine ⟨listens.orderly orderly, tied.keep keeps fun reply member => .inl ?_⟩
  rw [← replies]
  exact member

theorem Dialogue.Known.work [FirmwareUpdater F I] (known : dialogue.Known buildTime)
    (clock : Clock) : (dialogue.step buildTime (.work clock)).Known buildTime := by
  have changes := dialogue.system.workerFut_cdc buildTime clock
  refine known.other (dialogue.system.workerFut_serial buildTime clock) fun fits => ?_
  obtain ⟨orderly, tied⟩ := known.underWay
    (Nat.lt_of_le_of_lt (Nat.le_of_eq changes.keeps.sessions.symm) fits)
  exact ⟨changes.orderly orderly, tied.work clock⟩

section Serial

variable {input : SerialInput} (known : dialogue.Known buildTime)
  (serial : dialogue.system.cdcView.Serial input after.cdcView) {conversation : Conversation}
  (next : dialogue.conversation.next dialogue.system.cdcView after.cdcView = conversation)
  (assembled : after.serial.phase.entered.isSome = true →
    after.serial.session.Assembled conversation.scanned)
  (asked : ∀ session line rest, after.serial.phase = .requesting session line rest →
    (completeLines conversation.scanned).getLast? = some line)
include known serial next assembled asked

theorem Dialogue.Known.advance
    (underWay : after.cdcView.Orderly →
      dialogue.system.cdcView.Tied W buildTime (completeLines dialogue.conversation.scanned) →
        after.cdcView.Tied W buildTime (completeLines conversation.scanned)) :
    (dialogue.advance after).Known buildTime := by
  subst next
  refine ⟨assembled, asked, fun fits => ?_⟩
  have sessions : after.record.sessions = dialogue.system.record.sessions := serial.still.2.2
  obtain ⟨orderly, tied⟩ := known.underWay (sessions ▸ fits)
  exact ⟨serial.orderly orderly, underWay (serial.orderly orderly) tied⟩

/-- The serial task does not come to wait for the worker's reply. -/
theorem Dialogue.Known.quiet (quiet : after.serial.phase.awaiting = none) :
    (dialogue.advance after).Known buildTime := by
  refine known.advance serial next assembled asked fun orderly _ => .of_quiet orderly fun _ => ?_
  change after.serial.phase.awaiting ≠ _
  rw [quiet]
  exact nofun

end Serial

theorem System.SerialStep.known [FirmwareUpdater F I] {scanned : Option UInt8}
    (step : dialogue.system.SerialStep buildTime scanned after) {input : SerialInput}
    (serial : dialogue.system.cdcView.Serial input after.cdcView)
    (known : dialogue.Known buildTime) : (dialogue.advance after).Known buildTime := by
  obtain ⟨active, session', -⟩ := serial.still
  cases step with
  | out left =>
      refine known.quiet serial rfl ?_ ?_ ?_
      · rw [left]
        exact nofun
      · intro session line rest requesting
        rw [requesting] at left
        cases left
      · cases phase : after.serial.phase with
        | answering =>
            rw [phase] at left
            cases left
        | _ => rfl
  | enter waiting reading fresh =>
      refine known.quiet serial (Conversation.next_enter waiting reading) ?_
        (by rw [reading]; exact nofun) (by rw [reading]; rfl)
      rw [fresh]
      exact fun _ => .fresh
  | wait serial' idle held fewer =>
      refine known.advance serial
        (Conversation.next_wait idle (congrArg SerialTask.phase serial')) ?_ ?_ fun _ tied => ?_
      · rw [serial']
        exact known.assembled
      · rw [serial']
        exact known.asked
      · refine ⟨?_, fun reply member => tied.posted reply (fewer reply member)⟩
        rw [active, session', held]
        exact tied.held
  | @packet session bytes reading =>
      have entered : dialogue.system.serial.phase.entered.isSome = true := by rw [reading]; rfl
      refine known.quiet serial (Conversation.next_packet reading rfl) ?_ nofun rfl
      exact fun _ => known.assembled entered
  | @upload session bytes reading =>
      have entered : dialogue.system.serial.phase.entered.isSome = true := by rw [reading]; rfl
      obtain ⟨keeps, none'⟩ := dialogue.system.cdc.upload_keepsLine bytes
      have scanning : (dialogue.system.outcome buildTime session (dialogue.system.cdc.upload bytes)
          []).serial.phase = .scanning session [] := by
        rw [System.outcome_phase, none']
      refine known.quiet serial (Conversation.next_packet reading scanning) ?_
        (by rw [scanning]; exact nofun) (by rw [scanning]; rfl)
      rw [System.outcome_session]
      exact fun _ => (known.assembled entered).keep keeps
  | done scanning =>
      have entered : dialogue.system.serial.phase.entered.isSome = true := by rw [scanning]; rfl
      refine known.quiet serial (Conversation.next_done scanning rfl) ?_ nofun rfl
      exact fun _ => known.assembled entered
  | @byte session byte rest scanning =>
      have entered : dialogue.system.serial.phase.entered.isSome = true := by rw [scanning]; rfl
      obtain ⟨assembled, asked⟩ := dialogue.system.cdc.push_assembled
        dialogue.system.shared.uartOtaActive (known.assembled entered) byte
      have phase := dialogue.system.outcome_phase buildTime session
        (dialogue.system.cdc.push dialogue.system.shared.uartOtaActive byte) rest
      refine known.quiet serial (Conversation.next_byte scanning ?_) ?_ ?_ ?_
      · exact congrArg Option.isSome (System.outcome_entered _ _ _ _ _)
      · rw [System.outcome_session]
        exact fun _ => assembled
      · intro session' line rest' requesting
        rw [phase] at requesting
        split at requesting
        next line' request =>
          cases requesting
          exact asked line request
        · cases requesting
      · rw [phase]
        split <;> rfl
  | send requesting answering queued replies =>
      have entered : dialogue.system.serial.phase.entered.isSome = true := by rw [requesting]; rfl
      refine known.advance serial
        (Conversation.next_send requesting (congrArg SerialTask.phase answering)) ?_ ?_
        fun _ tied => ?_
      · rw [answering]
        exact fun _ => known.assembled entered
      · rw [answering]
        exact nofun
      · constructor
        · intro active' request member source
          rw [queued] at member
          rcases List.mem_append.mp member with member | member
          · exact tied.held (active ▸ active') request member (session' ▸ source)
          · obtain rfl := List.mem_singleton.mp member
            exact ⟨rfl, known.asked _ _ _ requesting⟩
        · intro reply member
          change reply ∈ after.shared.cdcReplies at member
          rw [replies] at member
          exact tied.posted reply member
  | receive answering posted scanning written =>
      have entered : dialogue.system.serial.phase.entered.isSome = true := by rw [answering]; rfl
      refine known.quiet serial
        (Conversation.next_receive answering (congrArg SerialTask.phase scanning)) ?_
        (by rw [scanning]; exact nofun) (by rw [scanning]; rfl)
      rw [scanning]
      exact fun _ => known.assembled entered

end Invariant

/-! ## Replies -/

section Replies

variable {W F I : Type} [Board W] [RustUnifying W] [FirmwareUpdater F I] {buildTime : Nat}
  {fits fits' : Prop} {phase phase' : SerialPhase} {lines : List (List UInt8)}
  {entries : List Entry}

theorem Answered.mono (weaker : fits' → fits) {line : List UInt8} {entry : Entry}
    (answered : Answered W F I buildTime fits line entry) :
    Answered W F I buildTime fits' line entry := by
  cases answered with
  | empty => exact .empty
  | overlong long => exact .overlong long
  | update short command cdc uartOta reply dispatched =>
      exact .update short command cdc uartOta reply dispatched
  | worker short nonempty command reply =>
      exact .worker short nonempty command fun fits => reply (weaker fits)

theorem InStep.mono (inStep : InStep W F I buildTime fits phase lines entries)
    (weaker : fits' → fits) (same : phase'.waits = phase.waits) :
    InStep W F I buildTime fits' phase' lines entries := by
  cases inStep with
  | settled quiet answered =>
      exact .settled (same.trans quiet) (answered.imp fun _ _ => Answered.mono weaker)
  | waiting waits settled line replies last open_ answered short nonempty command =>
      exact .waiting (same.trans waits) settled line replies last open_
        (answered.imp fun _ _ => Answered.mono weaker) short nonempty command

theorem InStep.answered (inStep : InStep W F I buildTime fits phase lines entries)
    (quiet : phase.waits = false) :
    List.Forall₂ (Answered W F I buildTime fits) lines entries := by
  cases inStep with
  | settled _ answered => exact answered
  | waiting waits => exact absurd (quiet.symm.trans waits) Bool.false_ne_true

/-- The last line gets its reply. -/
theorem InStep.snoc (answered : List.Forall₂ (Answered W F I buildTime fits) lines entries)
    (quiet : phase.waits = false) {line : List UInt8} {entry : Entry}
    (last : Answered W F I buildTime fits line entry) :
    InStep W F I buildTime fits phase (lines ++ [line]) (entries ++ [entry]) :=
  .settled quiet (List.rel_append answered (.cons last .nil))

/-- A reply of the serial task's own is all that a line may get. -/
theorem InStep.not_waiting (waits : phase.waits = true) {line : List UInt8} {entry : Entry}
    (own : entry.own ≠ []) :
    ¬InStep W F I buildTime fits phase (lines ++ [line]) (entries ++ [entry]) := by
  intro inStep
  cases inStep with
  | settled quiet => exact Bool.false_ne_true (quiet.symm.trans waits)
  | waiting _ _ _ _ _ open_ =>
      obtain ⟨-, same⟩ := List.append_inj' open_ rfl
      obtain rfl := (List.cons.inj same).1
      exact own rfl

variable {dialogue : Dialogue W F I} {after : System W F I}

theorem Dialogue.Paired.advance {conversation : Conversation}
    (next : dialogue.conversation.next dialogue.system.cdcView after.cdcView = conversation)
    (received : after.serial.phase.entered.isSome = true →
      conversation.stream = conversation.scanned ++ after.serial.phase.rest)
    (inStep : after.serial.phase.entered.isSome = true →
      InStep W F I buildTime (after.record.sessions < 2 ^ 32) after.serial.phase
        (completeLines conversation.scanned) conversation.entries) :
    (dialogue.advance after).Paired buildTime := by
  subst next
  exact ⟨received, inStep⟩

/-- A step that scans nothing and passes nothing on. -/
theorem Dialogue.Paired.keep (paired : dialogue.Paired buildTime) {conversation : Conversation}
    (entered : dialogue.system.serial.phase.entered.isSome = true)
    (sessions : after.record.sessions = dialogue.system.record.sessions)
    (next : dialogue.conversation.next dialogue.system.cdcView after.cdcView = conversation)
    (scanned : conversation.scanned = dialogue.conversation.scanned)
    (entries : conversation.entries = dialogue.conversation.entries)
    (waits : after.serial.phase.waits = dialogue.system.serial.phase.waits)
    (received : conversation.stream = conversation.scanned ++ after.serial.phase.rest) :
    (dialogue.advance after).Paired buildTime := by
  refine .advance next (fun _ => received) fun _ => ?_
  rw [sessions, scanned, entries]
  exact (paired.inStep entered).mono id waits

/-- The end of a line: it has its reply, or the worker is asked for it, unless it is `REBOOT`. -/
theorem InStep.push_lf_iff (cdc : Serial.Cdc F I) (uartOta : Bool) {scanned : List UInt8}
    (assembled : cdc.session.Assembled scanned) (session : UInt32) (rest : List UInt8)
    (answered : List.Forall₂ (Answered W F I buildTime fits) (completeLines scanned) entries) :
    let outcome := cdc.push uartOta 0x0A
    InStep W F I buildTime fits
        (match outcome.request with
          | some line => .requesting session line rest
          | none => .scanning session rest)
        (completeLines (scanned ++ [0x0A]))
        (entries ++ [{ own := outcome.reply.toList.map fun reply => reply.text buildTime }]) ↔
      unfinishedLine scanned ≠ ascii "REBOOT" := by
  dsimp only
  rw [(lines_snoc_lf scanned).1, cdc.push_lf uartOta assembled]
  generalize unfinishedLine scanned = line
  by_cases long : Serial.lineLimit < line.length
  · rw [if_pos long]
    refine iff_of_true (.snoc answered rfl (.overlong long)) ?_
    rintro rfl
    exact absurd long (by decide)
  · have short : line.length ≤ Serial.lineLimit := Nat.not_lt.mp long
    rw [if_neg long]
    cases command : Serial.parseOtaCommand line with
    | none =>
        refine iff_of_true ?_ ?_
        · rw [cdc.endLine.dispatch_other uartOta command]
          cases line with
          | nil => exact .snoc answered rfl .empty
          | cons byte line =>
              exact .waiting rfl _ _ entries rfl rfl answered short (List.cons_ne_nil _ _) command
        · intro reboot
          cases command.symm.trans (Serial.parseOtaCommand_reboot.mpr reboot)
    | some parsed =>
        by_cases reboot : line = ascii "REBOOT"
        · refine iff_of_false ?_ (not_not_intro reboot)
          subst reboot
          obtain ⟨reply, request⟩ := cdc.endLine.dispatch_reboot uartOta
          rw [reply, request]
          exact InStep.not_waiting rfl (List.cons_ne_nil _ _)
        · refine iff_of_true ?_ reboot
          have known : (Serial.parseOtaCommand line).isSome = true := by rw [command]; rfl
          obtain ⟨⟨reply, replied⟩, none'⟩ := cdc.endLine.dispatch_command uartOta known reboot
          rw [none', replied]
          exact .snoc answered rfl (.update short known cdc.endLine uartOta reply replied)

theorem Dialogue.Paired.byte (paired : dialogue.Paired buildTime) (known : dialogue.Known buildTime)
    {session : UInt32} {byte : UInt8} {rest : List UInt8}
    (scanning : dialogue.system.serial.phase = .scanning session (byte :: rest)) :
    Dialogue.Paired buildTime (dialogue.advance (dialogue.system.outcome buildTime session
        (dialogue.system.cdc.push dialogue.system.shared.uartOtaActive byte) rest)) ↔
      (byte = 0x0A → unfinishedLine dialogue.conversation.scanned ≠ ascii "REBOOT") := by
  have entered : dialogue.system.serial.phase.entered.isSome = true := by rw [scanning]; rfl
  have assembled := known.assembled entered
  have answered := (paired.inStep entered).answered (by rw [scanning]; rfl)
  have received := paired.received entered
  have phase := dialogue.system.outcome_phase buildTime session
    (dialogue.system.cdc.push dialogue.system.shared.uartOtaActive byte) rest
  have left := dialogue.system.outcome_rest buildTime session
    (dialogue.system.cdc.push dialogue.system.shared.uartOtaActive byte) rest
  have writes := dialogue.system.outcome_writes buildTime session
    (dialogue.system.cdc.push dialogue.system.shared.uartOtaActive byte) rest
  have sessions : (dialogue.system.outcome buildTime session
      (dialogue.system.cdc.push dialogue.system.shared.uartOtaActive byte) rest).record.sessions =
        dialogue.system.record.sessions := by
    rw [System.outcome]
    dsimp only
    split <;> rfl
  have entered' := congrArg Option.isSome (dialogue.system.outcome_entered buildTime session
    (dialogue.system.cdc.push dialogue.system.shared.uartOtaActive byte) rest)
  generalize dialogue.system.outcome buildTime session _ rest = after
    at phase left writes sessions entered' ⊢
  have next : dialogue.conversation.next dialogue.system.cdcView after.cdcView = _ :=
    Conversation.next_byte scanning entered'
  have paired_iff : (dialogue.advance after).Paired buildTime ↔
      InStep W F I buildTime (dialogue.system.record.sessions < 2 ^ 32) after.serial.phase
        (completeLines (dialogue.conversation.scanned ++ [byte]))
        (if byte = 0x0A then dialogue.conversation.entries ++
          [{ own := dialogue.system.cdcView.writes after.cdcView }]
        else dialogue.conversation.entries) := by
    constructor
    · intro paired'
      have inStep := paired'.inStep entered'
      rw [Dialogue.advance, next, sessions] at inStep
      exact inStep
    · intro inStep
      refine .advance next (fun _ => ?_) fun _ => ?_
      · rw [left, received, scanning, List.append_assoc]
        rfl
      · rw [sessions]
        exact inStep
  rw [paired_iff]
  by_cases lf : byte = 0x0A
  · subst lf
    rw [if_pos rfl, writes, phase]
    exact (InStep.push_lf_iff dialogue.system.cdc _ assembled session rest answered).trans
      ⟨fun other _ => other, fun other => other rfl⟩
  · obtain ⟨_, _, pushed, -⟩ := dialogue.system.cdc.push_byte
      dialogue.system.shared.uartOtaActive assembled lf
    rw [if_neg lf, (lines_snoc _ lf).1, phase, pushed]
    exact iff_of_true (.settled rfl answered) fun same => absurd same lf

theorem Dialogue.Paired.receive (paired : dialogue.Paired buildTime)
    (known : dialogue.Known buildTime) (word : buildTime < 2 ^ 64) {session : UInt32}
    {rest : List UInt8} {reply : Reply}
    (sessions : after.record.sessions = dialogue.system.record.sessions)
    (answering : dialogue.system.serial.phase = .answering session rest)
    (posted : reply ∈ dialogue.system.shared.cdcReplies)
    (scanning : after.serial = { dialogue.system.serial with phase := .scanning session rest })
    (written : after.record.log =
      .toHost session reply.bytes :: dialogue.system.record.log) :
    (dialogue.advance after).Paired buildTime := by
  have entered : dialogue.system.serial.phase.entered.isSome = true := by rw [answering]; rfl
  have received := paired.received entered
  rw [answering] at received
  have log : after.cdcView.log =
      [.toHost session reply.bytes] ++ dialogue.system.cdcView.log := written
  have writes : dialogue.system.cdcView.writes after.cdcView = [reply.bytes] :=
    CdcView.writes_of_log log
  refine .advance
    (Conversation.next_receive answering (congrArg SerialTask.phase scanning)) ?_ ?_
  · rw [scanning]
    exact fun _ => received
  intro _
  rw [writes, sessions, scanning]
  cases paired.inStep entered with
  | settled quiet =>
      rw [answering] at quiet
      cases quiet
  | waiting _ settled line replies last open_ answered short nonempty command =>
      dsimp only
      rw [open_, passOn_snoc, last]
      refine .snoc answered rfl (.worker short nonempty command fun fits => ?_)
      obtain ⟨line', last', answer⟩ := (known.underWay fits).2.posted reply posted
      rw [last, List.getLast?_concat] at last'
      obtain rfl := Option.some.inj last'
      exact answer.reply word nonempty

/-- A step of the serial task keeps lines and replies paired unless it ends a line `REBOOT`. -/
theorem System.SerialStep.paired {scanned : Option UInt8}
    (step : dialogue.system.SerialStep buildTime scanned after) {input : SerialInput}
    (serial : dialogue.system.cdcView.Serial input after.cdcView) (word : buildTime < 2 ^ 64)
    (known : dialogue.Known buildTime) (paired : dialogue.Paired buildTime) :
    (dialogue.advance after).Paired buildTime ↔ (scanned = some 0x0A →
      unfinishedLine dialogue.conversation.scanned ≠ ascii "REBOOT") := by
  have sessions : after.record.sessions = dialogue.system.record.sessions := serial.still.2.2
  cases step with
  | out left =>
      refine iff_of_true (.advance rfl ?_ ?_) nofun
      · rw [left]
        exact nofun
      · rw [left]
        exact nofun
  | enter waiting reading fresh =>
      refine iff_of_true (.advance (Conversation.next_enter waiting reading) ?_ ?_) nofun
      · rw [reading]
        exact fun _ => rfl
      · rw [reading]
        exact fun _ => .settled rfl .nil
  | wait same idle held fewer =>
      refine iff_of_true
        (.advance (Conversation.next_wait idle (congrArg SerialTask.phase same)) ?_ ?_) nofun
      · rw [same]
        exact paired.received
      · rw [same, sessions]
        exact paired.inStep
  | @packet session bytes reading =>
      have entered : dialogue.system.serial.phase.entered.isSome = true := by rw [reading]; rfl
      have received := paired.received entered
      rw [reading] at received
      refine iff_of_true (paired.keep entered sessions (Conversation.next_packet reading rfl)
        rfl rfl ?_ ?_) nofun
      · rw [reading]
        rfl
      · exact congrArg (· ++ bytes) (received.trans (List.append_nil _))
  | @upload session bytes reading =>
      have entered : dialogue.system.serial.phase.entered.isSome = true := by rw [reading]; rfl
      have received := paired.received entered
      have scanning : (dialogue.system.outcome buildTime session (dialogue.system.cdc.upload bytes)
          []).serial.phase = .scanning session [] := by
        rw [System.outcome_phase, (dialogue.system.cdc.upload_keepsLine bytes).2]
      rw [reading] at received
      refine iff_of_true (paired.keep entered sessions (Conversation.next_packet reading scanning)
        rfl rfl ?_ ?_) nofun
      · rw [scanning, reading]
        rfl
      · rw [scanning]
        exact congrArg (· ++ []) (received.trans (List.append_nil _))
  | done scanning =>
      have entered : dialogue.system.serial.phase.entered.isSome = true := by rw [scanning]; rfl
      have received := paired.received entered
      rw [scanning] at received
      refine iff_of_true (paired.keep entered sessions (Conversation.next_done scanning rfl)
        rfl rfl ?_ received) nofun
      rw [scanning]
      rfl
  | byte scanning =>
      rw [Option.some.injEq]
      exact paired.byte known scanning
  | send requesting answering queued replies =>
      have entered : dialogue.system.serial.phase.entered.isSome = true := by rw [requesting]; rfl
      have received := paired.received entered
      rw [requesting] at received
      refine iff_of_true (paired.keep entered sessions
        (Conversation.next_send requesting (congrArg SerialTask.phase answering)) rfl rfl ?_ ?_)
        nofun
      · rw [answering, requesting]
        rfl
      · rw [answering]
        exact received
  | receive answering posted scanning written =>
      refine iff_of_true ?_ nofun
      exact paired.receive known word sessions answering posted scanning written

end Replies

/-! ## Runs -/

section Runs

variable {W F I : Type} [Board W] [RustUnifying W] [FirmwareUpdater F I]
  {dialogue : Dialogue W F I} {buildTime : Nat} {action : Action}

theorem Dialogue.Known.step (known : dialogue.Known buildTime) (action : Action) :
    (dialogue.step buildTime action).Known buildTime := by
  cases action with
  | usb event =>
      have serial := dialogue.system.step_serial buildTime (.usb event) trivial
      exact known.renumber serial (dialogue.system.usb_renumber event)
  | control =>
      have serial := dialogue.system.step_serial buildTime .control trivial
      exact known.renumber serial dialogue.system.controlFut_renumber
  | work clock => exact known.work clock
  | receive reading =>
      have serial := dialogue.system.step_serial buildTime (.receive reading) trivial
      exact known.listens serial (dialogue.system.uartRxFut_cdcView reading)
  | transmit writing =>
      have serial := dialogue.system.step_serial buildTime (.transmit writing) trivial
      exact known.listens serial (dialogue.system.uartTxFut_cdcView writing)
  | serial input =>
      exact (dialogue.system.serialFut_step buildTime input).known
        (dialogue.system.serialFut_serial buildTime input) known

theorem System.step_sessions (system : System W F I) (buildTime : Nat) (action : Action) :
    system.record.sessions ≤ (system.step buildTime action).record.sessions := by
  have renumbered {after : System W F I} (renumber : system.cdcView.Renumber after.cdcView) :
      system.cdcView.sessions ≤ after.cdcView.sessions := renumber.earlier
  cases action with
  | usb event => exact renumbered (system.usb_renumber event)
  | control => exact renumbered system.controlFut_renumber
  | work clock => exact Nat.le_of_eq (system.workerFut_cdc buildTime clock).keeps.sessions.symm
  | receive reading => exact Nat.le_of_eq (system.uartRxFut_cdcView reading).keeps.1.sessions.symm
  | transmit writing =>
      exact Nat.le_of_eq (system.uartTxFut_cdcView writing).keeps.1.sessions.symm
  | serial input => exact Nat.le_of_eq (system.serialFut_serial buildTime input).still.2.2.symm

/-- The steps of the other tasks keep lines and replies paired. -/
theorem Dialogue.Paired.other (paired : dialogue.Paired buildTime) {after : System W F I}
    (same : after.serial = dialogue.system.serial)
    (sessions : dialogue.system.record.sessions ≤ after.record.sessions) :
    Dialogue.Paired buildTime { dialogue with system := after } := by
  constructor
  · rw [same]
    exact paired.received
  · rw [same]
    exact fun entered => (paired.inStep entered).mono (Nat.lt_of_le_of_lt sessions) rfl

theorem Dialogue.paired_step (known : dialogue.Known buildTime) (word : buildTime < 2 ^ 64)
    (paired : dialogue.Paired buildTime) :
    (dialogue.step buildTime action).Paired buildTime ↔ dialogue.NoReboot action := by
  have other {after : System W F I} (same : after.serial = dialogue.system.serial)
      (sessions : dialogue.system.record.sessions ≤ after.record.sessions)
      (idle : dialogue.system.scans action = none) :
      Dialogue.Paired buildTime { dialogue with system := after } ↔ dialogue.NoReboot action := by
    refine iff_of_true (paired.other same sessions) ?_
    rw [Dialogue.NoReboot, idle]
    exact nofun
  have sessions := dialogue.system.step_sessions buildTime action
  have serial := dialogue.system.step_serial buildTime action
  cases action with
  | usb | control | receive | transmit => exact other (serial trivial) sessions rfl
  | work clock => exact other (dialogue.system.workerFut_serial buildTime clock) sessions rfl
  | serial input =>
      exact (dialogue.system.serialFut_step buildTime input).paired
        (dialogue.system.serialFut_serial buildTime input) word known paired

theorem Dialogue.Known.oneReply_iff (known : dialogue.Known buildTime) :
    dialogue.OneReply buildTime ↔ dialogue.Paired buildTime := by
  refine ⟨fun oneReply => oneReply.toPaired, fun paired => ⟨paired, fun fits active awaiting => ?_⟩⟩
  exact ((known.underWay fits).1.outstanding active).trans (if_pos awaiting)

theorem Dialogue.Known.quiet_step (known : dialogue.Known buildTime) (action : Action) :
    dialogue.Quiet buildTime action := by
  cases action with
  | usb | control | work | receive | transmit => exact ⟨nofun, nofun⟩
  | serial input =>
      have assembled {session : UInt32} {byte : UInt8} {rest : List UInt8}
          (scanning : dialogue.system.serial.phase = .scanning session (byte :: rest)) :
          dialogue.system.cdc.session.Assembled dialogue.conversation.scanned :=
        known.assembled (by rw [scanning]; rfl)
      have step := dialogue.system.serialFut_step buildTime input
      constructor
      · intro byte scans other
        rw [scans] at step
        change dialogue.system.OnlyLine (dialogue.system.serialFut buildTime input)
        generalize dialogue.system.serialFut buildTime input = after at step
        cases step with
        | @byte session _ rest scanning =>
            obtain ⟨line, discardLine, pushed, -⟩ := dialogue.system.cdc.push_byte
              dialogue.system.shared.uartOtaActive (assembled scanning) other
            refine ⟨session, line, discardLine, rest, ?_⟩
            rw [pushed, System.outcome, Bool.or_false]
            rfl
      · intro scans long
        rw [scans] at step
        change ∃ session, System.OnlyLine _ (dialogue.system.serialFut buildTime input)
        generalize dialogue.system.serialFut buildTime input = after at step
        cases step with
        | @byte session _ rest scanning =>
            refine ⟨session, session, [], false, rest, ?_⟩
            rw [dialogue.system.cdc.push_lf _ (assembled scanning), if_pos long, System.outcome,
              Bool.or_false]
            rfl

theorem Dialogue.Known.boot (world : W) (flash : Nvmc) (dfu : F) :
    (Dialogue.boot world flash dfu : Dialogue W F I).Known buildTime where
  assembled := nofun
  asked := nofun
  underWay _ := ⟨(Exchange.Tracked.boot world flash dfu).orderly, nofun, nofun⟩

/-- In every run each line has its one reply exactly if no line is `REBOOT`. A byte inside a line
and the end of one that is too long change nothing else in any run. -/
theorem one_reply_iff (word : buildTime < 2 ^ 64) (world : W) (flash : Nvmc) (dfu : F)
    (actions : List Action) :
    (Always (Dialogue.step buildTime) (Dialogue.OneReply buildTime)
          (Dialogue.boot world flash dfu : Dialogue W F I) actions ↔
        EveryStep (Dialogue.step buildTime) Dialogue.NoReboot
          (Dialogue.boot world flash dfu : Dialogue W F I) actions) ∧
      EveryStep (Dialogue.step buildTime) (Dialogue.Quiet buildTime)
        (Dialogue.boot world flash dfu : Dialogue W F I) actions := by
  have boot : (Dialogue.boot world flash dfu : Dialogue W F I).Known buildTime :=
    .boot world flash dfu
  have always : Always (Dialogue.step buildTime) (Dialogue.Known buildTime)
      (Dialogue.boot world flash dfu : Dialogue W F I) actions :=
    .of_step (fun _ action known => known.step action) boot actions
  constructor
  · refine always_iff_everyStep (Dialogue.Known buildTime)
      (fun _ action known => known.step action) (fun dialogue action known oneReply => ?_)
      boot (boot.oneReply_iff.mpr ⟨nofun, nofun⟩)
    rw [(known.step action).oneReply_iff]
    exact Dialogue.paired_step known word oneReply.toPaired
  · exact fun before action after split => (always before _ split).quiet_step action

end Runs

/-! ## On the bench -/

instance {W F I : Type} (dialogue : Dialogue W F I) (action : Action) :
    Decidable (dialogue.NoReboot action) :=
  inferInstanceAs (Decidable (_ → _))

def benchDialogue : Dialogue Bench Partition (Option Nat) :=
  .boot ⟨true, []⟩ erasedChip ⟨fun _ => 0xFF⟩

theorem one_reply_iff_version :
    (askVersion.foldl (Dialogue.step 0) benchDialogue).conversation.entries =
        [{ passed := [versionReply 0] }] ∧
      Always (Dialogue.step 0) (Dialogue.OneReply 0) benchDialogue askVersion := by
  refine ⟨by decide +kernel, (one_reply_iff (by decide) _ _ _ _).1.mpr ?_⟩
  simp only [askVersion, raiseOnce, raiseDtr, openSession, List.cons_append, List.nil_append,
    everyStep_cons, everyStep_nil, and_true]
  decide +kernel

/-- DTR rises, and the host asks for a reboot. -/
def askReboot : List Action :=
  raiseOnce ++ .serial { packet := some (some (ascii "REBOOT\n")) } ::
    List.replicate 8 (.serial {}) ++ [.work {}, .work {}, .serial {}]

/-- A line has replies of the serial task's own, or replies that were passed on. -/
theorem Answered.one {W F I : Type} [Board W] [RustUnifying W] [FirmwareUpdater F I]
    {buildTime : Nat} {fits : Prop} {line : List UInt8} {entry : Entry}
    (answered : Answered W F I buildTime fits line entry) : entry.own = [] ∨ entry.passed = [] := by
  cases answered with
  | empty | overlong | update => exact .inr rfl
  | worker => exact .inl rfl

/-- `REBOOT` is answered by the serial task and by the worker. -/
theorem reboot_two_replies :
    (askReboot.foldl (Dialogue.step 0) benchDialogue).conversation.entries =
        [{ own := [ascii "REBOOT\r\n"], passed := [commandList] }] ∧
      ¬Always (Dialogue.step 0) (Dialogue.OneReply 0) benchDialogue askReboot := by
  have entries : (askReboot.foldl (Dialogue.step 0) benchDialogue).conversation.entries =
      [{ own := [ascii "REBOOT\r\n"], passed := [commandList] }] := by
    decide +kernel
  refine ⟨entries, not_always_of_last _ fun oneReply => ?_⟩
  have answered := (oneReply.inStep (by decide +kernel)).answered (by decide +kernel)
  rw [entries] at answered
  obtain ⟨line, rest, answered, -⟩ := List.forall₂_cons_right_iff.mp answered
  rcases answered.one with own | passed
  · exact absurd own (List.cons_ne_nil _ _)
  · exact absurd passed (List.cons_ne_nil _ _)

end NrfUnifying.Tasks
