import NrfUnifying.Lib.Runs
import NrfUnifying.Tasks.System

/-!
# What a segment of the other tasks can do

A USB event and a segment of the control task or of the receive task consist of
moves, each with the guards that it has passed. A segment of the transmit task
or of the serial task is one move.
-/

namespace NrfUnifying.Tasks

open Lib.Bytes Lib.Runs Radio Storage UartLink Updater UartOta Relation

/-! ## USB and control -/

section Usb

variable {W F I : Type}

/-- One move of a USB event or of the control task. -/
inductive System.UsbMove : System W F I → System W F I → Prop where
  | lose {system : System W F I} : UsbMove system system.unavailable
  | configure {system : System W F I} : UsbMove system { system with
      shared := { system.shared with usbAvailable := true, usbLifecycleChanged := true } }
  | line {system : System W F I} (dtr : Bool) : UsbMove system { system with
      shared := { system.shared with usbDtrValid := dtr, usbLifecycleChanged := true } }
  | signal {system : System W F I} (dtr : Bool) :
      UsbMove system { system with control := ⟨dtr, true⟩ }
  | hear {system : System W F I} :
      UsbMove system { system with control := { system.control with changed := false } }
  | look {system : System W F I} : UsbMove system { system with
      shared := { system.shared with usbLifecycleChanged := false } }
  | activate {system : System W F I} (inactive : system.shared.cdcActive = false) :
      UsbMove system { system with
        shared := { system.shared with
          cdcSession := system.shared.cdcSession + 1, cdcActive := true
          uartSyncRequired := true
          maintenanceChanged := true, uartSessionChanged := true }
        record := { system.record with
          sessions := system.record.sessions + 1, log := .activated :: system.record.log } }
  | deactivate {system : System W F I} (active : system.shared.cdcActive = true) :
      UsbMove system { system with
        shared := { system.shared with
          cdcSession := system.shared.cdcSession + 1, cdcActive := false
          uploadActive := false, cdcReplies := []
          maintenanceChanged := true, uartSessionChanged := true }
        record := { system.record with sessions := system.record.sessions + 1 } }

abbrev System.UsbMoves : System W F I → System W F I → Prop := ReflTransGen System.UsbMove

variable (system : System W F I)

theorem System.usb_move (event : UsbEvent) : ReflGen System.UsbMove system (system.usb event) := by
  unfold System.usb
  split
  · exact .refl
  · exact .single .lose
  · exact .single .lose
  · exact .single .lose
  · exact .single .configure
  next dtr => exact .single (.line dtr)
  next dtr => exact .single (.signal dtr)

theorem System.updateActive_move : ReflGen System.UsbMove system system.updateActive := by
  unfold System.updateActive
  dsimp only
  generalize (system.shared.usbAvailable && system.shared.usbDtrValid && system.control.dtr) = next
  split
  · exact .refl
  next different =>
    cases next with
    | true =>
        rw [Bool.or_true, Bool.and_true]
        exact .single (.activate (Bool.eq_false_iff.mpr fun active => different active.symm))
    | false =>
        rw [Bool.or_false, Bool.and_false]
        exact .single (.deactivate (eq_true_of_ne_false fun quiet => different quiet.symm))

theorem System.usb_segment (event : UsbEvent) : system.UsbMoves (system.usb event) :=
  (system.usb_move event).to_reflTransGen

theorem System.controlFut_segment : system.UsbMoves system.controlFut := by
  unfold System.controlFut
  split
  · exact .head .hear (System.updateActive_move _).to_reflTransGen
  split
  · exact .head .look (System.updateActive_move _).to_reflTransGen
  · exact .refl

end Usb

/-! ## UART -/

section Uart

variable {W F I : Type}

/-- The receive task's line after a byte. -/
def System.assembled (system : System W F I) (parser : Parser) : Receiver :=
  { system.receiver with
    parser
    stamps := if parser.line = [] then [] else
      system.receiver.stamps ++ [system.record.sessions] }

/-- The request that the receive task makes of a line that is complete. -/
def System.asked (system : System W F I) (frame : Frame) : Request where
  source := .uart frame.number system.receiver.parserSession system.shared.uartGeneration
  line := frame.command
  error := frame.error
  stamp := ⟨system.record.framed, system.receiver.stamps ++ [system.record.sessions],
    system.record.damages⟩

/-- One move of the receive task. -/
inductive System.RxMove : System W F I → System W F I → Prop where
  | same {system : System W F I}
      (current : system.shared.cdcSession = system.receiver.parserSession) :
      RxMove system { system with shared := { system.shared with uartSessionChanged := false } }
  | renew {system : System W F I}
      (other : system.shared.cdcSession ≠ system.receiver.parserSession) :
      RxMove system { system with
        shared := { system.shared with uartSessionChanged := false }
        receiver := {
          parser := system.receiver.parser.sessionChanged []
          parserSession := system.shared.cdcSession
          seen := system.record.sessions } }
  | discard {system : System W F I} {bytes : List UInt8}
      (other : system.shared.cdcSession ≠ system.receiver.parserSession) :
      RxMove system { system with receiver := {
        parser := system.receiver.parser.sessionChanged bytes
        parserSession := system.shared.cdcSession
        seen := system.record.sessions } }
  | misread {system : System W F I} :
      RxMove system { system with receiver := { system.receiver with
        parser := system.receiver.parser.damaged, stamps := [] } }.damage
  | byte {system : System W F I} {byte : UInt8} {parser : Parser}
      (current : system.shared.cdcSession = system.receiver.parserSession)
      (pushed : system.receiver.parser.push byte = (none, parser)) :
      RxMove system { system with receiver := system.assembled parser }
  | frame {system : System W F I} {byte : UInt8} {frame : Frame} {parser : Parser}
      (current : system.shared.cdcSession = system.receiver.parserSession)
      (pushed : system.receiver.parser.push byte = (some frame, parser))
      (room : system.shared.requests.length < requestsCapacity) :
      RxMove system ({ system with
        receiver := system.assembled parser
        shared := { system.shared with
          requests := system.shared.requests ++ [system.asked frame] }
        record := { system.record with framed := system.record.framed + 1 } }.note
          (.framed (system.asked frame) true))
  | overflow {system : System W F I} {byte : UInt8} {frame : Frame} {parser : Parser}
      (current : system.shared.cdcSession = system.receiver.parserSession)
      (pushed : system.receiver.parser.push byte = (some frame, parser)) :
      RxMove system ({ system with
        receiver := { system.receiver with parser := parser.damaged, stamps := [] }
        record := { system.record with framed := system.record.framed + 1 } }.note
          (.framed (system.asked frame) false)).damage

/-- The move of the transmit task. -/
inductive System.TxMove (system : System W F I) (writing : Writing) : System W F I → Prop where
  | idle (waiting : system.transmitter = .waiting) (empty : system.shared.uartReplies = []) :
      TxMove system writing system
  | take {reply : Reply} {rest : List Reply} (waiting : system.transmitter = .waiting)
      (replies : system.shared.uartReplies = reply :: rest) (transmitter : Transmitter) :
      TxMove system writing { system.note (.taken reply) with
        shared := { system.shared with uartReplies := rest }, transmitter }
  | pending {reply : Reply} (busy : system.transmitter = .writing reply)
      (pending : writing = .pending) : TxMove system writing system
  | sent {reply : Reply} (busy : system.transmitter = .writing reply) (done : writing = .done) :
      TxMove system writing { system with transmitter := .waiting }
  | fail {reply : Reply} (busy : system.transmitter = .writing reply)
      (failed : writing = .failed) :
      TxMove system writing { system with transmitter := .waiting }.damage

abbrev System.RxMoves : System W F I → System W F I → Prop := ReflTransGen System.RxMove

variable (system : System W F I)

theorem System.listen_segment : system.RxMoves system.listen := by
  unfold System.listen
  dsimp only
  split
  next current => exact .single (.same current)
  next other => exact .single (.renew other)

theorem System.push_segment (byte : UInt8)
    (current : system.shared.cdcSession = system.receiver.parserSession) :
    system.RxMoves (system.push byte) ∧
      (system.push byte).shared.cdcSession = (system.push byte).receiver.parserSession := by
  unfold System.push
  cases pushed : system.receiver.parser.push byte with
  | mk frame parser =>
      cases frame with
      | none => exact ⟨.single (.byte current pushed), current⟩
      | some frame =>
          dsimp only
          unfold System.enqueue
          dsimp only
          split
          next room => exact ⟨.single (.frame current pushed room), current⟩
          · exact ⟨.single (.overflow current pushed), current⟩

theorem System.pushes_segment (bytes : List UInt8)
    (current : system.shared.cdcSession = system.receiver.parserSession) :
    system.RxMoves (bytes.foldl System.push system) := by
  induction bytes generalizing system with
  | nil => exact .refl
  | cons byte rest ih =>
      obtain ⟨moves, still⟩ := system.push_segment byte current
      exact moves.trans (ih _ still)

/-- A segment of the receive task ends at the top of its loop, if it does anything. -/
theorem System.uartRxFut_listen (reading : Reading) :
    system.uartRxFut reading = system ∨
      ∃ heard, system.RxMoves heard ∧ system.uartRxFut reading = heard.listen := by
  unfold System.uartRxFut
  split
  · exact .inr ⟨system, .refl, rfl⟩
  split
  · exact .inl rfl
  · exact .inr ⟨_, .single .misread, rfl⟩
  · split
    next current => exact .inr ⟨_, system.pushes_segment _ current, rfl⟩
    next other => exact .inr ⟨_, .single (.discard other), rfl⟩

theorem System.uartRxFut_segment (reading : Reading) :
    system.RxMoves (system.uartRxFut reading) := by
  rcases system.uartRxFut_listen reading with same | ⟨heard, moves, listens⟩
  · rw [same]
  · rw [listens]
    exact moves.trans heard.listen_segment

theorem System.uartTxFut_move (writing : Writing) :
    system.TxMove writing (system.uartTxFut writing) := by
  unfold System.uartTxFut
  split
  next waiting =>
    split
    next empty => exact .idle waiting empty
    next reply rest replies =>
      dsimp only
      split
      · exact .take waiting replies system.transmitter
      · split
        · exact .take waiting replies (.writing reply)
        · exact .take waiting replies system.transmitter
  next reply busy =>
    split
    · exact .pending busy rfl
    · exact .sent busy rfl
    · exact .fail busy rfl

end Uart

/-! ## The serial task -/

section Serial

variable {W F I : Type}

/-- `session_ended` cancels the session. -/
def System.Cancels (system : System W F I) (input : SerialInput) (session : UInt32) : Prop :=
  input.timer = true ∧ ¬(system.shared.cdcActive = true ∧ system.shared.cdcSession = session)

/-- What the serial task awaits has not come. -/
inductive System.SerialWaits (system : System W F I) (input : SerialInput) : Prop where
  | connecting (phase : system.serial.phase = .connecting) (absent : input.connected = false)
  | inactive (phase : system.serial.phase = .inactive) (inactive : system.shared.cdcActive = false)
  | handshake {session : UInt32} (phase : system.serial.phase = .handshake session)
      (quiet : system.shared.maintenanceReady = none)
  | reading {session : UInt32} (phase : system.serial.phase = .reading session)
      (empty : input.packet = none)
  | requesting {session : UInt32} {line rest : List UInt8}
      (phase : system.serial.phase = .requesting session line rest)
      (full : requestsCapacity ≤ system.shared.requests.length)
  | answering {session : UInt32} {rest : List UInt8}
      (phase : system.serial.phase = .answering session rest)
      (empty : system.shared.cdcReplies = [])

/-- The move of the serial task. -/
inductive System.SerialMove [FirmwareUpdater F I] (system : System W F I) (buildTime : Nat)
    (input : SerialInput) : System W F I → Prop where
  | wait (waits : system.SerialWaits input) : SerialMove system buildTime input system
  | connect (connecting : system.serial.phase = .connecting) :
      SerialMove system buildTime input (system.setSerial .inactive)
  | opens (inactive : system.serial.phase = .inactive) (active : system.shared.cdcActive = true) :
      SerialMove system buildTime input
        (system.setSerial (.handshake system.shared.cdcSession))
  | cancel {session : UInt32} (opened : system.serial.phase.open = some session)
      (cancels : system.Cancels input session) :
      SerialMove system buildTime input system.close
  | enter {session : UInt32} (waiting : system.serial.phase = .handshake session)
      (ready : system.shared.maintenanceReady = some session)
      (goesOn : ¬system.Cancels input session) :
      SerialMove system buildTime input ({ system with
        shared := { system.shared with maintenanceReady := none }
        serial := { system.serial with phase := .reading session, session := {} } }.note
          (.toHost session (Serial.Reply.banner.text buildTime)))
  | pass {session other : UInt32} (waiting : system.serial.phase = .handshake session)
      (ready : system.shared.maintenanceReady = some other) (different : other ≠ session)
      (goesOn : ¬system.Cancels input session) :
      SerialMove system buildTime input { system with
        shared := { system.shared with maintenanceReady := none } }
  | fail {session : UInt32} (reading : system.serial.phase = .reading session)
      (failed : input.packet = some none) (goesOn : ¬system.Cancels input session) :
      SerialMove system buildTime input system.close
  | upload {session : UInt32} {bytes : List UInt8}
      (reading : system.serial.phase = .reading session)
      (packet : input.packet = some (some bytes))
      (uploading : system.serial.session.uploadActive = true)
      (goesOn : ¬system.Cancels input session) :
      SerialMove system buildTime input
        (system.outcome buildTime session (system.cdc.upload bytes) [])
  | packet {session : UInt32} {bytes : List UInt8}
      (reading : system.serial.phase = .reading session)
      (packet : input.packet = some (some bytes))
      (lines : system.serial.session.uploadActive = false)
      (goesOn : ¬system.Cancels input session) :
      SerialMove system buildTime input (system.setSerial (.scanning session bytes))
  | done {session : UInt32} (scanning : system.serial.phase = .scanning session [])
      (goesOn : ¬system.Cancels input session) :
      SerialMove system buildTime input (system.setSerial (.reading session))
  | byte {session : UInt32} {byte : UInt8} {rest : List UInt8}
      (scanning : system.serial.phase = .scanning session (byte :: rest))
      (goesOn : ¬system.Cancels input session) :
      SerialMove system buildTime input (system.outcome buildTime session
        (system.cdc.push system.shared.uartOtaActive byte) rest)
  | send {session : UInt32} {line rest : List UInt8}
      (requesting : system.serial.phase = .requesting session line rest)
      (room : system.shared.requests.length < requestsCapacity)
      (goesOn : ¬system.Cancels input session) :
      SerialMove system buildTime input ({ system with shared := { system.shared with
        requests := system.shared.requests ++
          [({ source := .cdc session, line } : Request)] } }.setSerial (.answering session rest))
  | receive {session : UInt32} {rest : List UInt8} {reply : Reply} {replies : List Reply}
      (answering : system.serial.phase = .answering session rest)
      (queue : system.shared.cdcReplies = reply :: replies) (own : reply.source = .cdc session)
      (goesOn : ¬system.Cancels input session) :
      SerialMove system buildTime input (({ system with shared := { system.shared with
        cdcReplies := replies } }.note (.toHost session reply.bytes)).setSerial
          (.scanning session rest))
  | skip {session : UInt32} {rest : List UInt8} {reply : Reply} {replies : List Reply}
      (answering : system.serial.phase = .answering session rest)
      (queue : system.shared.cdcReplies = reply :: replies)
      (foreign : reply.source ≠ .cdc session) (goesOn : ¬system.Cancels input session) :
      SerialMove system buildTime input { system with shared := { system.shared with
        cdcReplies := replies } }

variable [FirmwareUpdater F I] (system : System W F I) (buildTime : Nat) (input : SerialInput)

theorem System.sessionFut_move {session : UInt32}
    (opened : system.serial.phase.open = some session) (goesOn : ¬system.Cancels input session) :
    system.SerialMove buildTime input (system.sessionFut buildTime input) := by
  unfold System.sessionFut
  cases phase : system.serial.phase with
  | connecting | inactive =>
      rw [phase] at opened
      cases opened
  | handshake =>
      obtain rfl := Option.some.inj (phase ▸ opened)
      cases ready : system.shared.maintenanceReady with
      | none => exact .wait (.handshake phase ready)
      | some other =>
          dsimp only
          split
          next own => exact .enter phase (own ▸ ready) goesOn
          next different => exact .pass phase ready different goesOn
  | reading =>
      obtain rfl := Option.some.inj (phase ▸ opened)
      dsimp only
      unfold System.packet
      split
      next empty => exact .wait (.reading phase empty)
      next failed => exact .fail phase failed goesOn
      next bytes packet =>
        split
        next uploading => exact .upload phase packet uploading goesOn
        next lines => exact .packet phase packet (Bool.eq_false_iff.mpr lines) goesOn
  | scanning _ rest =>
      obtain rfl := Option.some.inj (phase ▸ opened)
      cases rest with
      | nil => exact .done phase goesOn
      | cons byte rest => exact .byte phase goesOn
  | requesting =>
      obtain rfl := Option.some.inj (phase ▸ opened)
      dsimp only
      split
      next room => exact .send phase room goesOn
      next full => exact .wait (.requesting phase (Nat.not_lt.mp full))
  | answering =>
      obtain rfl := Option.some.inj (phase ▸ opened)
      cases queue : system.shared.cdcReplies with
      | nil => exact .wait (.answering phase queue)
      | cons reply replies =>
          dsimp only
          split
          next own => exact .receive phase queue own goesOn
          next foreign => exact .skip phase queue foreign goesOn

theorem System.serialFut_move :
    system.SerialMove buildTime input (system.serialFut buildTime input) := by
  unfold System.serialFut
  split
  next closed =>
    split
    next connecting =>
      split
      · exact .connect connecting
      next absent => exact .wait (.connecting connecting (Bool.eq_false_iff.mpr absent))
    next other =>
      have inactive : system.serial.phase = .inactive := by
        cases phase : system.serial.phase with
        | connecting => exact absurd phase other
        | inactive => rfl
        | _ =>
            rw [phase] at closed
            cases closed
      split
      next active => exact .opens inactive active
      next quiet => exact .wait (.inactive inactive (Bool.eq_false_iff.mpr quiet))
  next session opened =>
    split
    next cancels => exact .cancel opened cancels
    next goesOn => exact system.sessionFut_move buildTime input opened goesOn

end Serial

/-! ## Beside the worker and the serial task -/

/-- A step of neither the worker nor the serial task. -/
def Action.Beside : Action → Prop
  | .work _ | .serial _ => False
  | .usb _ | .control | .receive _ | .transmit _ => True

section Beside

variable {W F I : Type} [Board W] [RustUnifying W] [FirmwareUpdater F I]

/-- What all moves keep, such a step keeps. -/
theorem System.step_keeps {system : System W F I} {motive : System W F I → Prop} (buildTime : Nat)
    {action : Action} (beside : action.Beside) (start : motive system)
    (usb : ∀ {before after : System W F I}, before.UsbMove after → motive before → motive after)
    (receive : ∀ {before after : System W F I}, before.RxMove after → motive before →
      motive after)
    (transmit : ∀ {before after : System W F I} {writing : Writing}, before.TxMove writing after →
      motive before → motive after) :
    motive (system.step buildTime action) := by
  cases action with
  | usb event =>
      change motive (system.usb event)
      exact chain_keeps (system.usb_segment event) start usb
  | control =>
      change motive system.controlFut
      exact chain_keeps system.controlFut_segment start usb
  | receive reading =>
      change motive (system.uartRxFut reading)
      exact chain_keeps (system.uartRxFut_segment reading) start receive
  | transmit writing => exact transmit (system.uartTxFut_move writing) start
  | work | serial => exact beside.elim

end Beside

end NrfUnifying.Tasks
