import NrfUnifying.Lib.Simulation
import NrfUnifying.Lib.Transfers
import NrfUnifying.Tasks.System

/-!
# Writes in pieces

The UART driver takes a part of a frame at a time, and a CDC reply goes out in
packets. `Wired` follows both: between two of its steps the transmit task is in
the middle of a frame, or the serial task in the middle of a reply that the end
of the session cancels. `wire` and `host` are what has left the board.
-/

namespace NrfUnifying.Tasks

open Lib Lib.Bytes Lib.Simulation Radio Storage UartLink Updater UartOta

/-- What the driver does with the rest of a frame. -/
inductive UartWrite where
  | pending
  | accepted (count : Nat)
  | failed
  deriving DecidableEq, Repr

/-- What the endpoint does with a packet. -/
inductive PacketWrite where
  | pending
  | taken
  | disabled
  deriving DecidableEq, Repr

structure Wired (W F I : Type) where
  system : System W F I
  /-- How much of the current frame is written. -/
  sent : Nat := 0
  wire : List UInt8 := []
  /-- The packets of the current reply that are not written yet. -/
  unsent : List (List UInt8) := []
  /-- The packets that were taken; `none` where a reply was broken off. -/
  host : List (Option (List UInt8)) := []

inductive WiredAction where
  | usb (event : UsbEvent)
  | control
  | work (clock : Clock)
  | receive (reading : Reading)
  | transmit (write : UartWrite)
  | serial (input : SerialInput) (write : PacketWrite)
  deriving DecidableEq, Repr

/-- The numbered line that is written for a reply. -/
def Reply.frame (reply : Reply) : List UInt8 :=
  match reply.source with
  | .cdc _ => []
  | .uart number _ _ =>
      match encodeReply number reply.bytes (List.replicate wireSize 0) with
      | some (wire, length) => wire.take length
      | none => []

def packetSize : Nat := 64

section Steps

variable {W F I : Type}

/-! ## Steps -/

/-- The loop that pushes a frame, from one write to the next. -/
def Wired.transmit (wired : Wired W F I) (write : UartWrite) : Wired W F I :=
  match wired.system.transmitter with
  | .waiting => { wired with system := wired.system.uartTxFut .pending, sent := 0 }
  | .writing reply =>
      match write with
      | .pending => wired
      | .failed => { wired with system := wired.system.uartTxFut .failed }
      | .accepted count =>
          let chunk := (reply.frame.drop wired.sent).take count
          let wired := { wired with
            wire := wired.wire ++ chunk, sent := wired.sent + chunk.length }
          if wired.sent < reply.frame.length then wired
          else { wired with system := wired.system.uartTxFut .done }

/-- `session_ended` is due, and the session has ended. -/
def System.ended (system : System W F I) (input : SerialInput) : Bool :=
  match system.serial.phase.open with
  | none => false
  | some session =>
      input.timer &&
        !(system.shared.cdcActive && system.shared.cdcSession == session)

variable [FirmwareUpdater F I]

/-- The session, and the reply that a segment of the serial task starts to write to its host. -/
def System.writes (system : System W F I) (buildTime : Nat) (input : SerialInput) :
    Option (UInt32 × List UInt8) :=
  if system.ended input then none
  else
    match system.serial.phase with
    | .connecting | .inactive | .requesting .. => none
    | .handshake session =>
        if system.shared.maintenanceReady = some session then
          some (session, Serial.Reply.banner.text buildTime)
        else none
    | .reading session =>
        match input.packet with
        | some (some bytes) =>
            if system.serial.session.uploadActive then
              (system.cdc.upload bytes).reply.map fun reply => (session, reply.text buildTime)
            else none
        | some none | none => none
    | .scanning _ [] => none
    | .scanning session (byte :: _) =>
        (system.cdc.push system.shared.uartOtaActive byte).reply.map fun reply =>
          (session, reply.text buildTime)
    | .answering session _ =>
        match system.shared.cdcReplies with
        | [] => none
        | reply :: _ => if reply.source = .cdc session then some (session, reply.bytes) else none

/-- The serial task writes the packets of a reply before it goes on. -/
def Wired.serial (buildTime : Nat) (wired : Wired W F I) (input : SerialInput)
    (write : PacketWrite) : Wired W F I :=
  match wired.unsent with
  | [] =>
      { wired with
        system := wired.system.serialFut buildTime input
        unsent := match wired.system.writes buildTime input with
          | none => []
          | some (_, bytes) => Transfers.packets packetSize bytes }
  | packet :: rest =>
      if wired.system.ended input then
        { wired with
          system := wired.system.serialFut buildTime input
          unsent := [], host := wired.host ++ [none] }
      else
        match write with
        | .pending => wired
        | .taken => { wired with unsent := rest, host := wired.host ++ [some packet] }
        | .disabled => { wired with unsent := [], host := wired.host ++ [none] }

variable [Board W] [RustUnifying W]

def Wired.step (buildTime : Nat) (wired : Wired W F I) : WiredAction → Wired W F I
  | .usb event => { wired with system := wired.system.usb event }
  | .control => { wired with system := wired.system.controlFut }
  | .work clock => { wired with system := wired.system.workerFut buildTime clock }
  | .receive reading => { wired with system := wired.system.uartRxFut reading }
  | .transmit write => wired.transmit write
  | .serial input write => wired.serial buildTime input write

def Wired.boot (world : W) (flash : Nvmc) (dfu : F) : Wired W F I where
  system := .boot world flash dfu

end Steps

/-! ## Whole writes -/

section Whole

variable {W F I : Type}

/-- A write in pieces shows as nothing until it is complete or fails. -/
theorem Wired.transmit_shows (wired : Wired W F I) (write : UartWrite) :
    (wired.transmit write).system = wired.system ∨
      ∃ writing, (wired.transmit write).system = wired.system.uartTxFut writing := by
  unfold Wired.transmit
  split
  · exact .inr ⟨.pending, rfl⟩
  · split
    · exact .inl rfl
    · exact .inr ⟨.failed, rfl⟩
    · dsimp only
      split
      · exact .inl rfl
      · exact .inr ⟨.done, rfl⟩

/-- The transmit task leaves the endpoint alone. -/
theorem Wired.transmit_aside (wired : Wired W F I) (write : UartWrite) :
    (wired.transmit write).unsent = wired.unsent ∧ (wired.transmit write).host = wired.host := by
  unfold Wired.transmit
  split
  · exact ⟨rfl, rfl⟩
  · split
    · exact ⟨rfl, rfl⟩
    · exact ⟨rfl, rfl⟩
    · dsimp only
      split
      · exact ⟨rfl, rfl⟩
      · exact ⟨rfl, rfl⟩

/-- A frame that the driver takes at once is complete. -/
theorem Wired.transmit_whole (wired : Wired W F I) {reply : Reply}
    (busy : wired.system.transmitter = .writing reply) :
    (wired.transmit (.accepted reply.frame.length)).system = wired.system.uartTxFut .done := by
  unfold Wired.transmit
  rw [busy]
  dsimp only
  rw [if_neg]
  rw [List.length_take, List.length_drop]
  omega

variable [FirmwareUpdater F I]

theorem Wired.serial_shows (buildTime : Nat) (wired : Wired W F I) (input : SerialInput)
    (write : PacketWrite) :
    (wired.serial buildTime input write).system = wired.system ∨
      (wired.serial buildTime input write).system =
        wired.system.serialFut buildTime input := by
  unfold Wired.serial
  split
  · exact .inr rfl
  · split
    · exact .inr rfl
    · split <;> exact .inl rfl

variable [Board W] [RustUnifying W]

theorem Wired.shows (buildTime : Nat) :
    Shows (Wired.system : Wired W F I → System W F I) (Wired.step buildTime)
      (System.step buildTime) := by
  intro wired action
  cases action with
  | usb event => exact .inr ⟨.usb event, rfl⟩
  | control => exact .inr ⟨.control, rfl⟩
  | work clock => exact .inr ⟨.work clock, rfl⟩
  | receive reading => exact .inr ⟨.receive reading, rfl⟩
  | transmit write =>
      rcases wired.transmit_shows write with same | ⟨writing, same⟩
      · exact .inl same
      · exact .inr ⟨.transmit writing, same⟩
  | serial input write =>
      rcases wired.serial_shows buildTime input write with same | same
      · exact .inl same
      · exact .inr ⟨.serial input, same⟩

/-- No reply is in the middle of its packets. -/
def Wired.AtRest (wired : Wired W F I) : Prop := wired.unsent = []

/-- A packet that is taken without the 1 ms timer. -/
def takePacket : WiredAction := .serial {} .taken

theorem Wired.take_packets (buildTime : Nat) (wired : Wired W F I) :
    let drained := (List.replicate wired.unsent.length takePacket).foldl
      (Wired.step buildTime) wired
    drained.AtRest ∧ drained.system = wired.system := by
  induction left : wired.unsent.length generalizing wired with
  | zero => exact ⟨List.length_eq_zero_iff.mp left, rfl⟩
  | succ count ih =>
      obtain ⟨packet, rest, unsent⟩ := List.exists_cons_of_length_eq_add_one left
      have running : wired.system.ended {} = false := by
        unfold System.ended
        split <;> rfl
      have taken : wired.step buildTime takePacket =
          { wired with unsent := rest, host := wired.host ++ [some packet] } := by
        unfold takePacket
        rw [Wired.step, Wired.serial, unsent]
        dsimp only
        rw [running, if_neg Bool.false_ne_true]
      have length : rest.length = count := by
        rw [unsent, List.length_cons] at left
        exact Nat.succ.inj left
      rw [List.replicate_succ, List.foldl_cons, taken]
      exact ih _ length

theorem Wired.covers (buildTime : Nat) :
    Covers (Wired.system : Wired W F I → System W F I) Wired.AtRest (Wired.step buildTime)
      (System.step buildTime) := by
  intro wired action resting
  cases action with
  | usb event => exact ⟨[.usb event], resting, rfl⟩
  | control => exact ⟨[.control], resting, rfl⟩
  | work clock => exact ⟨[.work clock], resting, rfl⟩
  | receive reading => exact ⟨[.receive reading], resting, rfl⟩
  | transmit writing =>
      have kept (write : UartWrite) : (wired.transmit write).AtRest :=
        (wired.transmit_aside write).1.trans resting
      cases busy : wired.system.transmitter with
      | waiting =>
          refine ⟨[.transmit .pending], kept .pending, ?_⟩
          change (wired.transmit .pending).system = wired.system.uartTxFut writing
          unfold Wired.transmit System.uartTxFut
          rw [busy]
      | writing reply =>
          cases writing with
          | pending =>
              refine ⟨[], resting, ?_⟩
              rw [List.foldl_nil, System.step, System.uartTxFut, busy]
          | failed =>
              refine ⟨[.transmit .failed], kept .failed, ?_⟩
              change (wired.transmit .failed).system = _
              rw [Wired.transmit, busy]
              rfl
          | done =>
              exact ⟨[.transmit (.accepted reply.frame.length)],
                kept (.accepted reply.frame.length), wired.transmit_whole busy⟩
  | serial input =>
      have started : (wired.step buildTime (.serial input .pending)).system =
          wired.system.serialFut buildTime input := by
        rw [Wired.step, Wired.serial, show wired.unsent = [] from resting]
      obtain ⟨rested, same⟩ :=
        (wired.step buildTime (.serial input .pending)).take_packets buildTime
      refine ⟨.serial input .pending :: List.replicate _ takePacket, rested, ?_⟩
      rw [List.foldl_cons, same, started]
      rfl

/-- The pieces add no behaviour and lose none: the same states are reached as with whole writes. -/
theorem wired_reaches (buildTime : Nat) (world : W) (flash : Nvmc) (dfu : F)
    (system : System W F I) :
    (∃ actions : List WiredAction,
        (actions.foldl (Wired.step buildTime) (.boot world flash dfu)).system = system) ↔
      ∃ actions : List Action,
        actions.foldl (System.step buildTime) (.boot world flash dfu) = system :=
  reachable_iff (Wired.shows buildTime) (Wired.covers buildTime)
    (show (Wired.boot world flash dfu : Wired W F I).AtRest from rfl) system

end Whole

end NrfUnifying.Tasks
