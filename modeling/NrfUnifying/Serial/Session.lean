import NrfUnifying.Ota.Updater

/-!
# A CDC session

The serial task collects lines, answers the update commands itself and hands
other lines to the radio worker. While an upload is active, packets are staged
to whole words and written through the updater created at startup.
-/

namespace NrfUnifying.Serial

open Lib.Bytes Updater

def activeImageLimit : Nat := 480 * 1024

def lineLimit : Nat := 256

/-! ## Update commands -/

inductive OtaCommand where
  | ping | info | write (size : Nat) | boot | abort | reboot
  deriving DecidableEq, Repr

/-- A decimal number of 32 bits, with an optional plus sign. -/
def parseUsize (text : List UInt8) : Option Nat :=
  let digits := (stripPrefix (ascii "+") text).getD text
  if digits.isEmpty then none
  else
    digits.foldlM (fun value byte =>
      if 0x30 ≤ byte ∧ byte ≤ 0x39 then
        let value := value * 10 + (byte - 0x30).toNat
        if value < 2 ^ 32 then some value else none
      else none) 0

def parseOtaCommand (line : List UInt8) : Option OtaCommand :=
  if line = ascii "PING" then some .ping
  else if line = ascii "INFO" then some .info
  else if line = ascii "BOOT" then some .boot
  else if line = ascii "ABORT" then some .abort
  else if line = ascii "REBOOT" then some .reboot
  else ((stripPrefix (ascii "WRITE ") line).bind parseUsize).map .write

inductive Reply where
  | banner | pong | info (state : Option BootState) | errBusy | errSize | ready | errNoImage
  | errMark | reboot | aborted | errArg | errWrite | ok
  deriving DecidableEq, Repr

def Reply.text (buildTime : Nat) : Reply → List UInt8
  | .banner => ascii "nrf-unifying ready build=" ++ decimal buildTime ++ ascii "\r\n"
  | .pong => ascii "PONG\r\n"
  | .info state =>
      let name := match state with
        | some .boot => ascii "BOOT"
        | some .swap => ascii "SWAP"
        | some .revert => ascii "REVERT"
        | some .dfuDetach => ascii "DFU"
        | none => ascii "ERR"
      ascii "STATE " ++ name ++ ascii " BUILD=" ++ decimal buildTime ++ ascii "\r\n"
  | .errBusy => ascii "ERR BUSY\r\n"
  | .errSize => ascii "ERR SIZE\r\n"
  | .ready => ascii "READY\r\n"
  | .errNoImage => ascii "ERR NOIMAGE\r\n"
  | .errMark => ascii "ERR MARK\r\n"
  | .reboot => ascii "REBOOT\r\n"
  | .aborted => ascii "ABORTED\r\n"
  | .errArg => ascii "ERR ARG\r\n"
  | .errWrite => ascii "ERR WRITE\r\n"
  | .ok => ascii "OK\r\n"

/-! ## Session variables -/

/-- The variables of one session; `staging` holds the bytes that do not yet fill a word. -/
structure Session where
  line : List UInt8 := []
  discardLine : Bool := false
  uploadActive : Bool := false
  uploadSize : Nat := 0
  uploadReceived : Nat := 0
  imageReady : Bool := false
  staging : List UInt8 := []
  deriving DecidableEq, Repr

/-- A session with the updater, the flash and the shared upload flag that it works on. -/
structure Cdc (F I : Type) where
  session : Session := {}
  updater : I
  flash : F
  uploading : Bool := false

/-- What one packet or one byte leads to: a reply to the host, a line for the worker, a reboot. -/
structure Outcome (F I : Type) where
  cdc : Cdc F I
  reply : Option Reply := none
  request : Option (List UInt8) := none
  reboot : Bool := false

section Session

variable {F I : Type} [FirmwareUpdater F I]

/-- Write staged bytes; a failed write ends the upload. -/
def Cdc.write (cdc : Cdc F I) (bytes : List UInt8) : Bool × Cdc F I :=
  match FirmwareUpdater.writeFirmware cdc.updater cdc.flash cdc.session.uploadReceived bytes with
  | (true, updater, flash) => (true, { cdc with updater, flash })
  | (false, updater, flash) =>
      (false, {
        session := { cdc.session with
          uploadActive := false, uploadSize := 0, uploadReceived := 0, imageReady := false
          staging := [] }
        updater, flash, uploading := false })

/-- A complete image is padded to a whole word. -/
def Cdc.finish (cdc : Cdc F I) : Outcome F I :=
  let done (cdc : Cdc F I) : Outcome F I := {
    cdc := { cdc with
      session := { cdc.session with uploadActive := false, imageReady := true }
      uploading := false }
    reply := some .ok }
  let staged := cdc.session.staging
  if staged.isEmpty then done cdc
  else
    match cdc.write (staged ++ List.replicate (4 - staged.length) 0xFF) with
    | (false, cdc) => { cdc, reply := some .errWrite }
    | (true, cdc) =>
        done { cdc with session := { cdc.session with
          uploadReceived := cdc.session.uploadReceived + staged.length, staging := [] } }

/-- Stage the bytes behind the last whole word and finish an image that is complete. -/
def Cdc.stage (cdc : Cdc F I) (staging : List UInt8) : Outcome F I :=
  let cdc := { cdc with session := { cdc.session with staging } }
  if cdc.session.uploadReceived + staging.length ≥ cdc.session.uploadSize then cdc.finish
  else { cdc }

/-- A packet during an upload. -/
def Cdc.upload (cdc : Cdc F I) (packet : List UInt8) : Outcome F I :=
  let staged := cdc.session.staging ++ packet
  let aligned := staged.length / 4 * 4
  if aligned = 0 then cdc.stage staged
  else
    match cdc.write (staged.take aligned) with
    | (false, cdc) => { cdc, reply := some .errWrite }
    | (true, cdc) =>
        { cdc with session := { cdc.session with
          uploadReceived := cdc.session.uploadReceived + aligned } }.stage (staged.drop aligned)

/-- `WRITE size`, unless a UART update is active. -/
def Cdc.beginUpload (cdc : Cdc F I) (uartOta : Bool) (size : Nat) : Outcome F I :=
  if uartOta then { cdc, reply := some .errBusy }
  else if size = 0 ∨ size > activeImageLimit then { cdc, reply := some .errSize }
  else {
    cdc := { cdc with
      session := { cdc.session with
        uploadActive := true, uploadSize := size, uploadReceived := 0, staging := []
        imageReady := false }
      uploading := true }
    reply := some .ready }

def Cdc.boot (cdc : Cdc F I) (uartOta : Bool) : Outcome F I :=
  if uartOta then { cdc, reply := some .errBusy }
  else if cdc.session.imageReady = false then { cdc, reply := some .errNoImage }
  else
    match FirmwareUpdater.markUpdated cdc.updater cdc.flash with
    | (false, updater, flash) => { cdc := { cdc with updater, flash }, reply := some .errMark }
    | (true, updater, flash) =>
        { cdc := { cdc with updater, flash }, reply := some .reboot, reboot := true }

/-- A complete line; `REBOOT` is also handed to the worker. -/
def Cdc.dispatch (cdc : Cdc F I) (uartOta : Bool) (line : List UInt8) : Outcome F I :=
  match parseOtaCommand line with
  | some .ping => { cdc, reply := some .pong }
  | some .info =>
      { cdc, reply := some (.info (FirmwareUpdater.getState cdc.updater cdc.flash)) }
  | some (.write size) => cdc.beginUpload uartOta size
  | some .boot => cdc.boot uartOta
  | some .abort => {
      cdc := { cdc with
        session := { cdc.session with uploadActive := false, imageReady := false, staging := [] }
        uploading := false }
      reply := some .aborted }
  | some .reboot => { cdc, reply := some .reboot, reboot := true, request := some line }
  | none => { cdc, request := if line.isEmpty then none else some line }

/-- One byte of a packet outside an upload. -/
def Cdc.push (cdc : Cdc F I) (uartOta : Bool) (byte : UInt8) : Outcome F I :=
  let session := cdc.session
  if byte = 0x0A then
    let cdc := { cdc with session := { session with line := [], discardLine := false } }
    if session.discardLine then { cdc, reply := some .errArg }
    else cdc.dispatch uartOta session.line
  else if byte ≠ 0x0D ∧ session.discardLine = false then
    if session.line.length = lineLimit then
      { cdc := { cdc with session := { session with discardLine := true } } }
    else { cdc := { cdc with session := { session with line := session.line ++ [byte] } } }
  else { cdc }

end Session

end NrfUnifying.Serial
