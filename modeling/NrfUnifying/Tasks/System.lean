import NrfUnifying.Ota.Updater
import NrfUnifying.Radio.Worker
import NrfUnifying.Serial.Session
import NrfUnifying.Uart.Link

/-!
# The tasks and what they share

All tasks run on one executor, each until its next await and in any order. A
step of the system is such a segment of one task, or a USB event; what the
hardware answers and which deadlines have passed come with the step. `Record`
notes what happened and decides nothing.
-/

namespace NrfUnifying.Tasks

open Lib.Bytes Radio Storage UartLink Updater UartOta

/-! ## Requests and replies -/

inductive Source where
  | cdc (epoch : UInt32)
  | uart (number session faultGeneration : UInt32)
  deriving DecidableEq, Repr

/-- What is noted of a UART line: how many were framed before it, how often the CDC session had
changed at each of its bytes, and how many damage events there had been. -/
structure Stamp where
  id : Nat := 0
  sessions : List Nat := []
  damages : Nat := 0
  deriving DecidableEq, Repr

structure Request where
  source : Source
  line : List UInt8
  error : Option CommandError := none
  stamp : Stamp := {}
  deriving DecidableEq, Repr

structure Reply where
  source : Source
  bytes : List UInt8
  stamp : Stamp
  deriving DecidableEq, Repr

def Source.isUart : Source → Bool
  | .cdc _ => false
  | .uart .. => true

theorem Source.isUart_of {source : Source} {number session generation : UInt32}
    (uart : source = .uart number session generation) : source.isUart = true := by
  rw [uart]
  rfl

theorem Source.not_isUart {source : Source} {epoch : UInt32} (cdc : source = .cdc epoch) :
    ¬source.isUart = true := by
  rw [cdc]
  exact Bool.false_ne_true

def requestsCapacity : Nat := 8
def repliesCapacity : Nat := 1

/-! ## What happened -/

/-- The shared state at an event. -/
structure Snapshot where
  cdcActive : Bool
  sessions : Nat
  damages : Nat
  deriving DecidableEq, Repr

inductive Event where
  /-- The receive task framed a line. -/
  | framed (request : Request) (queued : Bool)
  /-- The damage event of this number; `owed` when a link was up and no CDC session active. -/
  | damaged (index : Nat) (owed : Bool)
  | activated
  | timedOut
  /-- The worker attempted the all-up for UART damage. -/
  | allUp
  /-- The worker attempted the all-up for an active CDC session and handed the radio over. -/
  | maintained (session : UInt32)
  | dropped (request : Request) (now : Snapshot)
  | dequeued (request : Request) (now : Snapshot)
  /-- A `VER` lifted the barrier. -/
  | synced (request : Request) (now : Snapshot)
  /-- A command or an update line starts to execute. -/
  | started (request : Request) (now : Snapshot)
  /-- The transmit task took a reply. -/
  | taken (reply : Reply)
  | toHost (session : UInt32) (bytes : List UInt8)
  deriving DecidableEq, Repr

/-- How often the session and the damage counters were advanced, the number of lines framed, and
the events, the latest first. -/
structure Record where
  sessions : Nat := 0
  damages : Nat := 0
  framed : Nat := 0
  log : List Event := []

def Record.note (record : Record) (event : Event) : Record :=
  { record with log := event :: record.log }

/-! ## The state of the tasks -/

/-- The statics. -/
structure Shared where
  requests : List Request := []
  cdcReplies : List Reply := []
  uartReplies : List Reply := []
  maintenanceChanged : Bool := false
  maintenanceReady : Option UInt32 := none
  uartSessionChanged : Bool := false
  uartSyncRequired : Bool := true
  cdcActive : Bool := false
  cdcSession : UInt32 := 0
  uartOtaActive : Bool := false
  uploadActive : Bool := false
  uartDamaged : Bool := false
  uartGeneration : UInt32 := 0
  usbAvailable : Bool := false
  usbDtrValid : Bool := false
  usbLifecycleChanged : Bool := false
  rebootRequested : Bool := false

/-- Where the worker waits. -/
inductive Phase where
  | starting
  | selecting
  | executing (request : Request)
  | sending (reply : Reply)
  /-- After a panic. -/
  | stopped
  deriving DecidableEq, Repr

structure Worker (W I : Type) where
  handler : Handler W
  ota : Ota := {}
  otaUpdater : I
  sessionSeen : UInt32 := 0
  phase : Phase := .starting

/-- The receive task; `stamps` are those of the bytes in the parser's line, and `seen` that of
`parserSession`. -/
structure Receiver where
  parser : Parser := {}
  parserSession : UInt32 := 0
  seen : Nat := 0
  stamps : List Nat := []

inductive Transmitter where
  | waiting
  | writing (reply : Reply)
  deriving DecidableEq, Repr

/-- Where the serial task waits; `rest` is what it has not scanned of a packet. -/
inductive SerialPhase where
  | connecting
  | inactive
  | handshake (session : UInt32)
  | reading (session : UInt32)
  | scanning (session : UInt32) (rest : List UInt8)
  | requesting (session : UInt32) (line rest : List UInt8)
  | answering (session : UInt32) (rest : List UInt8)
  deriving DecidableEq, Repr

structure SerialTask (I : Type) where
  phase : SerialPhase := .connecting
  session : Serial.Session := {}
  updater : I

/-- The CDC class: its DTR, and whether its control state has changed since it was waited for. -/
structure CdcControl where
  dtr : Bool := false
  changed : Bool := false
  deriving DecidableEq, Repr

structure System (W F I : Type) where
  shared : Shared := {}
  control : CdcControl := {}
  worker : Worker W I
  receiver : Receiver := {}
  transmitter : Transmitter := .waiting
  serial : SerialTask I
  dfu : F
  record : Record := {}

/-! ## Steps -/

inductive UsbEvent where
  | enabled (enabled : Bool)
  | reset
  | configured (configured : Bool)
  | setControlLineState (dtr : Bool)
  /-- The CDC class takes over a DTR. -/
  | dtr (dtr : Bool)
  deriving DecidableEq, Repr

/-- Which deadlines have passed: the keep-alive's when the worker waits, when it has taken a request
and at the top of its loop, and that of the update. -/
structure Clock where
  timer : Bool := false
  taken : Bool := false
  top : Bool := false
  ota : Bool := false
  deriving DecidableEq, Repr

inductive Reading where
  | pending
  | error
  | chunk (bytes : List UInt8)
  deriving DecidableEq, Repr

inductive Writing where
  | pending
  | done
  | failed
  deriving DecidableEq, Repr

/-- What the serial task meets: its 1 ms timer, a host, and a packet or the end of the endpoint. -/
structure SerialInput where
  timer : Bool := false
  connected : Bool := true
  packet : Option (Option (List UInt8)) := none
  deriving DecidableEq, Repr

inductive Action where
  | usb (event : UsbEvent)
  | control
  | work (clock : Clock)
  | receive (reading : Reading)
  | transmit (writing : Writing)
  | serial (input : SerialInput)
  deriving DecidableEq, Repr

section Steps

variable {W F I : Type} [Board W] [RustUnifying W] [FirmwareUpdater F I]

def System.now (system : System W F I) : Snapshot :=
  ⟨system.shared.cdcActive, system.record.sessions, system.record.damages⟩

def System.note (system : System W F I) (event : Event) : System W F I :=
  { system with record := system.record.note event }

/-! ### USB and control -/

/-- `UsbLifecycle::unavailable`, which cancels a CDC session at once. -/
def System.unavailable (system : System W F I) : System W F I :=
  { system with
    shared := { system.shared with
      usbAvailable := false, usbDtrValid := false
      cdcActive := false, cdcSession := system.shared.cdcSession + 1
      uploadActive := false, cdcReplies := []
      maintenanceChanged := true, uartSessionChanged := true, usbLifecycleChanged := true }
    record := { system.record with sessions := system.record.sessions + 1 } }

def System.usb (system : System W F I) : UsbEvent → System W F I
  | .enabled true => system
  | .enabled false | .reset | .configured false => system.unavailable
  | .configured true =>
      { system with shared := { system.shared with
        usbAvailable := true, usbLifecycleChanged := true } }
  | .setControlLineState dtr =>
      { system with shared := { system.shared with
        usbDtrValid := dtr, usbLifecycleChanged := true } }
  | .dtr dtr => { system with control := ⟨dtr, true⟩ }

/-- Both USB configuration and a fresh DTR make CDC active. -/
def System.updateActive (system : System W F I) : System W F I :=
  let shared := system.shared
  let next := shared.usbAvailable && shared.usbDtrValid && system.control.dtr
  if next = shared.cdcActive then system
  else
    let shared := { shared with
      cdcSession := shared.cdcSession + 1, cdcActive := next
      -- A whole CDC window between UART requests must be noticed.
      uartSyncRequired := shared.uartSyncRequired || next
      uploadActive := shared.uploadActive && next
      cdcReplies := if next then shared.cdcReplies else []
      maintenanceChanged := true, uartSessionChanged := true }
    let record := { system.record with sessions := system.record.sessions + 1 }
    { system with shared, record := if next then record.note .activated else record }

def System.controlFut (system : System W F I) : System W F I :=
  if system.control.changed then
    { system with control := { system.control with changed := false } }.updateActive
  else if system.shared.usbLifecycleChanged then
    { system with shared := { system.shared with usbLifecycleChanged := false } }.updateActive
  else system

/-! ### UART -/

/-- A damage event: no request framed before it may execute, and an all-up is due. -/
def System.damage (system : System W F I) : System W F I :=
  let owed := system.worker.handler.state.connected && !system.shared.cdcActive
  { system with
    shared := { system.shared with
      uartGeneration := system.shared.uartGeneration + 1
      uartDamaged := true, maintenanceChanged := true }
    record := { system.record with damages := system.record.damages + 1 }.note
      (.damaged (system.record.damages + 1) owed) }

/-- The top of the receive loop. -/
def System.listen (system : System W F I) : System W F I :=
  let shared := { system.shared with uartSessionChanged := false }
  let receiver := system.receiver
  if shared.cdcSession = receiver.parserSession then { system with shared }
  else
    { system with
      shared
      receiver := {
        parser := receiver.parser.sessionChanged []
        parserSession := shared.cdcSession
        seen := system.record.sessions } }

/-- Queue a framed line; when the queue is full, that is damage. -/
def System.enqueue (system : System W F I) (request : Request) : System W F I :=
  let framed := { system with record := { system.record with framed := system.record.framed + 1 } }
  if system.shared.requests.length < requestsCapacity then
    { framed with shared := { system.shared with
      requests := system.shared.requests ++ [request] } }.note (.framed request true)
  else
    ({ framed with receiver := { system.receiver with
      parser := system.receiver.parser.damaged, stamps := [] } }.note
        (.framed request false)).damage

def System.push (system : System W F I) (byte : UInt8) : System W F I :=
  let stamps := system.receiver.stamps ++ [system.record.sessions]
  let (frame, parser) := system.receiver.parser.push byte
  let pushed := { system with receiver := { system.receiver with
    parser, stamps := if parser.line = [] then [] else stamps } }
  match frame with
  | none => pushed
  | some frame => pushed.enqueue {
      source := .uart frame.number system.receiver.parserSession system.shared.uartGeneration
      line := frame.command
      error := frame.error
      stamp := ⟨system.record.framed, stamps, system.record.damages⟩ }

/-- `read_session`, loaded before the read, is what `parserSession` was set to. -/
def System.uartRxFut (system : System W F I) (reading : Reading) : System W F I :=
  if system.shared.uartSessionChanged then system.listen
  else
    match reading with
    | .pending => system
    | .error =>
        ({ system with receiver := { system.receiver with
          parser := system.receiver.parser.damaged, stamps := [] } }.damage).listen
    | .chunk bytes =>
        if system.shared.cdcSession = system.receiver.parserSession then
          (bytes.foldl System.push system).listen
        else
          { system with receiver := {
            parser := system.receiver.parser.sessionChanged bytes
            parserSession := system.shared.cdcSession
            seen := system.record.sessions } }.listen

/-- The size of the buffer for a numbered reply. -/
def wireSize : Nat := 522

def System.uartTxFut (system : System W F I) (writing : Writing) : System W F I :=
  match system.transmitter with
  | .waiting =>
      match system.shared.uartReplies with
      | [] => system
      | reply :: rest =>
          let taken := { system with
            shared := { system.shared with uartReplies := rest } }.note (.taken reply)
          match reply.source with
          | .cdc _ => taken
          | .uart number _ _ =>
              if (encodeReply number reply.bytes (List.replicate wireSize 0)).isSome then
                { taken with transmitter := .writing reply }
              else taken
  | .writing _ =>
      match writing with
      | .pending => system
      | .done => { system with transmitter := .waiting }
      | .failed => { system with transmitter := .waiting }.damage

/-! ### The worker -/

def System.setHandler (system : System W F I) (handler : Handler W) : System W F I :=
  { system with worker := { system.worker with handler } }

def System.setPhase (system : System W F I) (phase : Phase) : System W F I :=
  { system with worker := { system.worker with phase } }

/-- An update that has timed out is given up. -/
def System.expire (system : System W F I) (late : Bool) : System W F I :=
  if system.worker.ota.active ∧ late then
    { system with
      worker := { system.worker with ota := system.worker.ota.abort }
      shared := { system.shared with uartOtaActive := false, uartSyncRequired := true } }.note
        .timedOut
  else system

/-- A new CDC session that is active gets the radio, with all keys up. -/
def System.handOver (system : System W F I) : System W F I :=
  if system.shared.cdcSession = system.worker.sessionSeen then system
  else
    let system := { system with worker := { system.worker with
      sessionSeen := system.shared.cdcSession } }
    if system.shared.cdcActive then
      { system.setHandler system.worker.handler.allUp with
        shared := { system.shared with maintenanceReady := some system.shared.cdcSession } }.note
          (.maintained system.shared.cdcSession)
    else system

/-- The all-up that UART damage calls for. -/
def System.repair (system : System W F I) : System W F I :=
  if system.shared.uartDamaged then
    let system := { system with shared := { system.shared with uartDamaged := false } }
    if system.worker.handler.state.connected then
      (system.setHandler system.worker.handler.allUp).note .allUp
    else system
  else system

def System.poll (system : System W F I) (due : Bool) : System W F I :=
  if due then
    system.setHandler (system.worker.handler.pollRadio system.shared.uploadActive
      system.shared.uartOtaActive)
  else system

/-- The top of the worker's loop, up to its select. -/
def System.top (system : System W F I) (clock : Clock) : System W F I :=
  ((((system.expire clock.ota).handOver).repair).poll clock.top).setPhase .selecting

/-- Post the reply to a request. -/
def System.post (system : System W F I) (clock : Clock) (request : Request)
    (bytes : List UInt8) : System W F I :=
  let reply : Reply := ⟨request.source, bytes, request.stamp⟩
  match request.source with
  | .uart .. => system.setPhase (.sending reply)
  | .cdc epoch =>
      let system :=
        if system.shared.cdcActive ∧ system.shared.cdcSession = epoch ∧
            system.shared.cdcReplies.length < repliesCapacity then
          { system with shared := { system.shared with
            cdcReplies := system.shared.cdcReplies ++ [reply] } }
        else system
      system.top clock

def errBusy : List UInt8 := ascii "ERR BUSY\r\n"
def errCmd : List UInt8 := ascii "ERR CMD\r\n"
def errArg : List UInt8 := ascii "ERR ARG\r\n"

/-- An update line; a `BEGIN` lets go of all keys first. -/
def System.update (system : System W F I) (clock : Clock) (request : Request) : System W F I :=
  if system.shared.uploadActive then system.post clock request errBusy
  else
    let system := system.note (.started request system.now)
    let system :=
      if isBegin request.line then system.setHandler system.worker.handler.allUp else system
    let served := serve system.worker.ota ⟨system.worker.otaUpdater, system.dfu⟩ request.line
    { system with
      worker := { system.worker with ota := served.ota, otaUpdater := served.store.updater }
      dfu := served.store.flash
      shared := { system.shared with
        uartOtaActive := served.ota.active
        rebootRequested := system.shared.rebootRequested || served.reboot } }.post
          clock request served.answer.text

/-- A request that passed all guards. -/
def System.execute (system : System W F I) (clock : Clock) (request : Request) : System W F I :=
  if request.source.isUart ∧ isOta request.line then system.update clock request
  else if system.worker.ota.active then system.post clock request errBusy
  else
    match request.error with
    | some .command => system.post clock request errCmd
    | some .argument => system.post clock request errArg
    | none => (system.note (.started request system.now)).setPhase (.executing request)

/-- A UART request whose generation is current: only a `VER` passes the barrier. -/
def System.passBarrier (system : System W F I) (clock : Clock) (request : Request)
    (session : UInt32) : System W F I :=
  if system.shared.cdcActive ∨ session ≠ system.shared.cdcSession then
    system.post clock request errBusy
  else if system.shared.uartSyncRequired then
    if request.error = none ∧ request.line = ascii "VER" then
      ({ system with shared := { system.shared with uartSyncRequired := false } }.note
        (.synced request system.now)).execute clock request
    else system.post clock request errBusy
  else system.execute clock request

/-- A request that was received. -/
def System.take (system : System W F I) (clock : Clock) (request : Request) : System W F I :=
  let system := system.poll clock.taken
  match request.source with
  | .cdc epoch =>
      if system.shared.cdcActive = false ∨ system.shared.cdcSession ≠ epoch ∨
          system.worker.sessionSeen ≠ epoch then
        system.top clock
      else system.execute clock request
  | .uart _ session faultGeneration =>
      -- Never execute an input queued before UART damage.
      if faultGeneration ≠ system.shared.uartGeneration then
        (system.note (.dropped request system.now)).top clock
      else (system.note (.dequeued request system.now)).passBarrier clock request session

/-- A command comes to its end. -/
def System.finish (system : System W F I) (buildTime : Nat) (clock : Clock) (request : Request) :
    System W F I :=
  match handleUnifyingCommand buildTime system.worker.handler.ready request.line with
  | none => system.setPhase .stopped
  | some handler => (system.setHandler handler).post clock request handler.sink.bytes

def System.workerFut (system : System W F I) (buildTime : Nat) (clock : Clock) : System W F I :=
  match system.worker.phase with
  | .starting => system.top clock
  | .selecting =>
      match system.shared.requests with
      | request :: rest =>
          { system with shared := { system.shared with requests := rest } }.take clock request
      | [] =>
          if clock.timer then system.top clock
          else if system.shared.maintenanceChanged then
            { system with shared := { system.shared with maintenanceChanged := false } }.top clock
          else system
  | .executing request => system.finish buildTime clock request
  | .sending reply =>
      if system.shared.uartReplies.length < repliesCapacity then
        { system with shared := { system.shared with
          uartReplies := system.shared.uartReplies ++ [reply] } }.top clock
      else system
  | .stopped => system

/-! ### The serial task -/

def System.setSerial (system : System W F I) (phase : SerialPhase) : System W F I :=
  { system with serial := { system.serial with phase } }

/-- The session's end: the next one starts with a connection. -/
def System.close (system : System W F I) : System W F I :=
  { system with shared := { system.shared with
    uploadActive := false, cdcReplies := [] } }.setSerial .connecting

def System.cdc (system : System W F I) : Serial.Cdc F I where
  session := system.serial.session
  updater := system.serial.updater
  flash := system.dfu
  uploading := system.shared.uploadActive

/-- Take over what a packet or a byte led to. -/
def System.outcome (system : System W F I) (buildTime : Nat) (session : UInt32)
    (outcome : Serial.Outcome F I) (rest : List UInt8) : System W F I :=
  let system := { system with
    serial := {
      phase := match outcome.request with
        | some line => .requesting session line rest
        | none => .scanning session rest
      session := outcome.cdc.session
      updater := outcome.cdc.updater }
    dfu := outcome.cdc.flash
    shared := { system.shared with
      uploadActive := outcome.cdc.uploading
      rebootRequested := system.shared.rebootRequested || outcome.reboot } }
  match outcome.reply with
  | some reply => system.note (.toHost session (reply.text buildTime))
  | none => system

def System.packet (system : System W F I) (buildTime : Nat) (session : UInt32) :
    Option (Option (List UInt8)) → System W F I
  | none => system
  | some none => system.close
  | some (some bytes) =>
      if system.serial.session.uploadActive then
        system.outcome buildTime session (system.cdc.upload bytes) []
      else system.setSerial (.scanning session bytes)

/-- A segment of an open session. -/
def System.sessionFut (system : System W F I) (buildTime : Nat) (input : SerialInput) :
    System W F I :=
  match system.serial.phase with
  | .connecting | .inactive => system
  | .handshake session =>
      match system.shared.maintenanceReady with
      | none => system
      | some ready =>
          let system := { system with shared := { system.shared with maintenanceReady := none } }
          if ready = session then
            { system with serial := { system.serial with
              phase := .reading session, session := {} } }.note
                (.toHost session (Serial.Reply.banner.text buildTime))
          else system
  | .reading session => system.packet buildTime session input.packet
  | .scanning session [] => system.setSerial (.reading session)
  | .scanning session (byte :: rest) =>
      system.outcome buildTime session (system.cdc.push system.shared.uartOtaActive byte) rest
  | .requesting session line rest =>
      if system.shared.requests.length < requestsCapacity then
        let request : Request := { source := .cdc session, line }
        { system with shared := { system.shared with
          requests := system.shared.requests ++ [request] } }.setSerial (.answering session rest)
      else system
  | .answering session rest =>
      match system.shared.cdcReplies with
      | [] => system
      | reply :: replies =>
          let system := { system with shared := { system.shared with cdcReplies := replies } }
          if reply.source = .cdc session then
            (system.note (.toHost session reply.bytes)).setSerial (.scanning session rest)
          else system

/-- The session that the serial task has open. -/
def SerialPhase.open : SerialPhase → Option UInt32
  | .connecting | .inactive => none
  | .handshake session | .reading session | .scanning session _ | .requesting session _ _
  | .answering session _ => some session

def System.serialFut (system : System W F I) (buildTime : Nat) (input : SerialInput) :
    System W F I :=
  match system.serial.phase.open with
  | none =>
      if system.serial.phase = .connecting then
        if input.connected then system.setSerial .inactive else system
      else if system.shared.cdcActive then
        system.setSerial (.handshake system.shared.cdcSession)
      else system
  | some session =>
      -- `session_ended` looks once in a millisecond.
      if input.timer ∧ ¬(system.shared.cdcActive ∧ system.shared.cdcSession = session) then
        system.close
      else system.sessionFut buildTime input

/-! ### Runs -/

def System.boot (world : W) (flash : Nvmc) (dfu : F) : System W F I where
  worker := { handler := .boot world flash, otaUpdater := FirmwareUpdater.create dfu }
  serial := { updater := FirmwareUpdater.create dfu }
  dfu

def System.step (buildTime : Nat) (system : System W F I) : Action → System W F I
  | .usb event => system.usb event
  | .control => system.controlFut
  | .work clock => system.workerFut buildTime clock
  | .receive reading => system.uartRxFut reading
  | .transmit writing => system.uartTxFut writing
  | .serial input => system.serialFut buildTime input

end Steps

/-! ### On the bench -/

/-- A blank board with a receiver that acknowledges everything. -/
def benchBoot : System Bench Partition (Option Nat) :=
  System.boot ⟨true, []⟩ erasedChip ⟨fun _ => 0xFF⟩

def Action.receiveText (text : String) : Action := .receive (.chunk (ascii text))

/-- The worker and the transmit task serve one request. -/
def serveOne : List Action := [.work {}, .work {}, .work {}, .transmit .done, .transmit .done]

/-- Power-up, a `VER` and a pairing. -/
def pairByUart : List Action :=
  .work {} :: .receiveText "@00000001 VER\n" :: serveOne ++
    .receiveText "@00000002 UPAIR 00\n" :: serveOne

/-- USB is configured and the host raises its DTR. -/
def raiseDtr : List Action :=
  [.usb (.configured true), .usb (.setControlLineState true), .usb (.dtr true), .control]

def dropDtr : List Action := [.usb (.setControlLineState false), .usb (.dtr false), .control]

/-- The serial task comes to the handshake of the session. -/
def openSession : List Action := [.serial {}, .serial {}]

/-- The worker hands the radio over to the session. -/
def raiseOnce : List Action := raiseDtr ++ openSession ++ [.work {}, .serial {}]

end NrfUnifying.Tasks
