import NrfUnifying.Radio.Format

/-!
# Radio commands

One command line is handled to its end: it answers into the reply sink, drives
the device and persists the pairing. `none` is a panic.
-/

namespace NrfUnifying.Radio

open Lib.Bytes Storage

def replyLimit : Nat := 512

/-- The reply to one request; a write that does not fit is dropped. -/
structure ReplySink where
  bytes : List UInt8 := []
  /-- All writes so far, also the dropped ones. -/
  writes : List (List UInt8) := []
  deriving DecidableEq, Repr

def ReplySink.write (sink : ReplySink) (data : List UInt8) : ReplySink where
  bytes := if sink.bytes.length + data.length > replyLimit then sink.bytes else sink.bytes ++ data
  writes := sink.writes ++ [data]

def versionReply (buildTime : Nat) : List UInt8 :=
  ascii "VER unifying/1 build=" ++ decimal buildTime ++ ascii "\r\n"

/-- What a command works on. -/
structure Handler (W : Type) where
  sink : ReplySink := {}
  state : UnifyingState W
  flash : Nvmc

section Handler

variable {W : Type} [Board W] [RustUnifying W]

def Handler.write (handler : Handler W) (data : List UInt8) : Handler W :=
  { handler with sink := handler.sink.write data }

/-- Write what a buffer holds. -/
def Handler.writeOut (handler : Handler W) (written : Written) : Option (Handler W) :=
  written.bind fun (out, length) =>
    if length ≤ out.length then some (handler.write (out.take length)) else none

def Handler.setDevice (handler : Handler W) (device : Device W) : Handler W :=
  { handler with state := { handler.state with device } }

/-- Persist the current profile in the active slot. -/
def Handler.save (handler : Handler W) : Handler W :=
  { handler with
    flash := Storage.save handler.flash handler.state.activeSlot handler.state.currentProfile }

def Handler.saveIfPaired (handler : Handler W) : Handler W :=
  if handler.state.paired then handler.save else handler

/-! ## Radio self-test -/

/-- Probe every pairing channel once and count the ACKs. -/
def sweepChannels : (channels : List UInt8) → UInt32 → Device W → UInt32 × Device W
  | [], acks, device => (acks, device)
  | channel :: rest, acks, device =>
      let (acked, radio, world) :=
        (device.radio.setChannel channel).probeOnce [0x00, 0x4F, 0x00, 0x00, 0xB1] device.world
      sweepChannels rest (if acked then acks + 1 else acks) { device with radio, world }

def sweeps : Nat → UInt32 → Device W → UInt32 × Device W
  | 0, acks, device => (acks, device)
  | count + 1, acks, device =>
      let (acks, device) := sweepChannels (RustUnifying.pairingChannels W) acks device
      sweeps count acks (device.delay 2000)

/-- Try one address encoding and report its ACKs. -/
def Handler.testEncoding (handler : Handler W) (encoding : UInt8) : Option (Handler W) :=
  let device := handler.state.device
  let radio := (device.radio.setAddrEncoding encoding).setAddress (RustUnifying.pairingAddress W)
  let (acks, device) := sweeps 3 0 { device with radio }
  (handler.setDevice device).writeOut (formatRadiotest (List.replicate 48 0) encoding acks)

/-- The encodings in the order of the test. -/
def addrEncodings : List UInt8 := (List.range EsbRadio.addrEncodings).map .ofNat

def Handler.uradiotest (handler : Handler W) : Option (Handler W) :=
  match RustUnifying.configureRadio handler.state.device with
  | (false, device) => some ((handler.setDevice device).write (ascii "ERR RADIO\r\n"))
  | (true, device) =>
      (addrEncodings.foldlM testEncoding (handler.setDevice device)).map
        fun handler => handler.write (ascii "RADIOTEST DONE\r\n")

/-! ## Pairing and connecting -/

/-- Up to `attempts` pairing attempts, with a pause after each failure. -/
def pairAttempts (params : PairingParams) : (attempts : Nat) → Device W → Bool × Device W
  | 0, device => (false, device)
  | attempts + 1, device =>
      match RustUnifying.pair device params with
      | (true, device) => (true, device)
      | (false, device) => pairAttempts params attempts (device.delay 20000)

/-- The slot that a `UPAIR` line names, by default the active one. -/
def UnifyingState.pairSlot (state : UnifyingState W) (line : List UInt8) : Option UInt8 :=
  if line.length > 6 then (parseU8Hex (line.drop 6)).filter (· < maxProfiles)
  else some state.activeSlot

def pairingParams (id crypto : UInt64) : PairingParams where
  id := id.toUInt8 ||| 0x01
  productId := 0x1025
  deviceType := 0x0147
  crypto := crypto.toUInt32
  serial := 0xA58094B6
  capabilities := 0x1E40
  name := ascii "RustKbd"

/-- Pair into a slot. -/
def Handler.pairInto (handler : Handler W) (slot : UInt8) : Option (Handler W) :=
  let (id, device) := handler.state.device.now
  let (crypto, device) := device.now
  -- A failed pairing restores the old link.
  let previous :=
    if handler.state.paired then some (handler.state.currentProfile, handler.state.connected)
    else none
  match RustUnifying.configureRadio device with
  | (false, device) => some ((handler.setDevice device).write (ascii "ERR RADIO\r\n"))
  | (true, device) =>
      match pairAttempts (pairingParams id crypto) 8 device with
      | (true, device) =>
          let state := { handler.state with
            device, paired := true, connected := true, linkUp := true, activeSlot := slot }
          let handler := ({ handler with state } : Handler W).save
          let handler := { handler with flash := saveActiveSlot handler.flash slot }
          handler.writeOut
            (formatPaired (List.replicate 64 0) state.device.address state.device.channel)
      | (false, device) =>
          let state := { handler.state with device }
          let state := match previous with
            | none => state
            | some (profile, connected) =>
                let state := state.applyProfile profile
                if connected then
                  let (configured, device) := RustUnifying.configureRadio state.device
                  { state with device, connected := configured }
                else { state with connected := false }
          some ({ handler with state }.write (ascii "ERR PAIR\r\n"))

def Handler.upair (handler : Handler W) (line : List UInt8) : Option (Handler W) :=
  match handler.state.pairSlot line with
  | none => some (handler.write (ascii "ERR SLOT\r\n"))
  | some slot => handler.pairInto slot

/-- Up to `attempts` connection attempts, with a pause after each failure. -/
def connectAttempts : (attempts : Nat) → Device W → Bool × Device W
  | 0, device => (false, device)
  | attempts + 1, device =>
      match RustUnifying.connect device with
      | (true, device) => (true, device)
      | (false, device) => connectAttempts attempts (device.delay 20000)

def Handler.uconnect (handler : Handler W) : Option (Handler W) :=
  if handler.state.paired = false then some (handler.write (ascii "ERR NOTPAIRED\r\n"))
  else
    match RustUnifying.configureRadio handler.state.device with
    | (false, device) => some ((handler.setDevice device).write (ascii "ERR RADIO\r\n"))
    | (true, device) =>
        match connectAttempts 60 device with
        | (true, device) =>
            let state := { handler.state with device, connected := true, linkUp := true }
            { handler with state }.writeOut
              (formatConnected (List.replicate 32 0) state.device.channel)
        | (false, device) => some ((handler.setDevice device).write (ascii "ERR CONNECT\r\n"))

def Handler.ukeepalive (handler : Handler W) : Handler W :=
  if handler.state.connected = false then handler.write (ascii "ERR NOTCONN\r\n")
  else
    (handler.setDevice (RustUnifying.tick handler.state.device).2).write (ascii "TICK\r\n")

def Handler.usleep (handler : Handler W) : Handler W :=
  let handler :=
    if handler.state.connected then
      let device := { handler.state.device with
        world := Board.disableRadio handler.state.device.world }
      { handler with state := { handler.state with device, connected := false } }.saveIfPaired
    else handler
  handler.write (ascii "SLEEP\r\n")

/-! ## Slots -/

def Handler.udelete (handler : Handler W) (line : List UInt8) : Handler W :=
  if line.length > 8 then
    match (parseU8Hex (line.drop 8)).filter (· < maxProfiles) with
    | some slot =>
        let state := if handler.state.activeSlot = slot then
            { handler.state with paired := false, connected := false }
          else handler.state
        { handler with state, flash := clearSlot handler.flash slot }.write (ascii "DELETED\r\n")
    | none => handler.write (ascii "ERR SLOT\r\n")
  else
    { handler with
      state := { handler.state with paired := false, connected := false }
      flash := clearAll handler.flash }.write (ascii "DELETED ALL\r\n")

/-- Switch to a slot and connect, if it has a pairing. -/
def Handler.switchInto (handler : Handler W) (slot : UInt8) : Option (Handler W) :=
  match handler.state.switchTo handler.flash slot with
  | (true, state, flash) =>
      -- The keep-alive finds the channel in the background.
      match RustUnifying.configureRadio state.device with
      | (true, device) =>
          { handler with state := { state with device, connected := true }, flash }.writeOut
            (formatSwitched (List.replicate 48 0) slot true)
      | (false, device) =>
          some ({ handler with state := { state with device }, flash }.write
            (ascii "ERR RADIO\r\n"))
  | (false, state, flash) =>
      { handler with state, flash }.writeOut (formatSwitchedEmpty (List.replicate 48 0) slot)

def Handler.uswitch (handler : Handler W) (rest : List UInt8) : Option (Handler W) :=
  match (parseU8Hex rest).filter (· < maxProfiles) with
  | none => some (handler.write (ascii "ERR SLOT\r\n"))
  | some slot => handler.switchInto slot

/-! ## Reports -/

/-- The keys of a report, at most six. -/
def keyTokens : (tokens : List (List UInt8)) → (count : Nat) → Keys → Option Keys
  | [], _, keys => some keys
  | token :: rest, count, keys =>
      if inside : count < keysLen then
        (parseU8Hex token).bind fun key => keyTokens rest (count + 1) (keys.set count key)
      else none

/-- The modifier and the keys of a report. -/
def parseReport (rest : List UInt8) : Option (UInt8 × Keys) :=
  match (rest.splitOn 0x20).filter (fun token => !token.isEmpty) with
  | [] => none
  | token :: tokens =>
      (parseU8Hex token).bind fun modifier =>
        (keyTokens tokens 0 (.replicate 6 0)).map fun keys => (modifier, keys)

/-- A report command notes the activity and shortens the keep-alive. -/
def UnifyingState.wake (state : UnifyingState W) : UnifyingState W :=
  let (lastActivity, device) := state.device.now
  { state with lastActivity, device := { device with timeout := 20 } }

def ticks : Nat → Device W → Device W
  | 0, device => device
  | count + 1, device => ticks count (RustUnifying.tick device).2

def sendReply (ok : Bool) : List UInt8 := if ok then ascii "OK\r\n" else ascii "ERR SEND\r\n"

def Handler.ukey (handler : Handler W) (rest : List UInt8) : Handler W :=
  if handler.state.connected = false then handler.write (ascii "ERR NOTCONN\r\n")
  else
    let handler := { handler with state := handler.state.wake }
    match parseReport rest with
    | none => handler.write (ascii "ERR ARG\r\n")
    | some (modifier, keys) =>
        let (ok, device) := sendKeyReport (ticks 5 handler.state.device) keys modifier
        (handler.setDevice device).saveIfPaired.write (sendReply ok)

/-- The press only; every 128 keystrokes the counter is persisted. -/
def Handler.keyDown (handler : Handler W) (modifier : UInt8) (keys : Keys) : Handler W :=
  let (ok, state) := sendReport handler.state keys modifier
  let handler := { handler with state }
  let handler := if state.device.aesCounter &&& 0x7F = 0 then handler.saveIfPaired else handler
  handler.write (sendReply ok)

def Handler.ukeydown (handler : Handler W) (rest : List UInt8) : Handler W :=
  if handler.state.connected = false then handler.write (ascii "ERR NOTCONN\r\n")
  else
    let handler := { handler with state := handler.state.wake }
    match parseReport rest with
    | none => handler.write (ascii "ERR ARG\r\n")
    | some (modifier, keys) => handler.keyDown modifier keys

/-- Type the characters that have a key and count them. -/
def typeText : (text : List UInt8) → UInt32 → UInt32 → Device W → UInt32 × UInt32 × Device W
  | [], ok, total, device => (ok, total, device)
  | c :: rest, ok, total, device =>
      match charToHid c with
      | none => typeText rest ok total (device.delay 15000)
      | some _ =>
          let (pressed, device) := typeChar device c
          typeText rest (if pressed then ok + 1 else ok) (total + 1) (device.delay 15000)

def Handler.utype (handler : Handler W) (text : List UInt8) : Option (Handler W) :=
  if handler.state.connected = false then some (handler.write (ascii "ERR NOTCONN\r\n"))
  else
    let state := handler.state.wake
    let (ok, total, device) := typeText text 0 0 (ticks 5 state.device)
    (({ handler with state := { state with device } }.writeOut
      (formatTyped (List.replicate 48 0) ok total))).map Handler.saveIfPaired

/-! ## One line -/

def commandList : List UInt8 :=
  ascii "UCMDS: VER UPAIR [slot] UCONNECT UTYPE <text> UKEY <mod> [keys] " ++
    ascii "UKEYDOWN <mod> [keys] USWITCH <slot> USLEEP UKEEPALIVE USTATUS UDELETE [slot]\r\n"

/-- The commands that take the rest of the line. -/
def Handler.handleArguments (handler : Handler W) (line : List UInt8) : Option (Handler W) :=
  match stripPrefix (ascii "USWITCH ") line with
  | some rest => handler.uswitch rest
  | none =>
      match stripPrefix (ascii "UKEY ") line with
      | some rest => some (handler.ukey rest)
      | none =>
          match stripPrefix (ascii "UKEYDOWN ") line with
          | some rest => some (handler.ukeydown rest)
          | none =>
              match stripPrefix (ascii "UTYPE ") line with
              | some text => handler.utype text
              | none => some (handler.write commandList)

/-- Handle one command line. -/
def handleUnifyingCommand (buildTime : Nat) (handler : Handler W) (line : List UInt8) :
    Option (Handler W) :=
  if line.isEmpty then some handler
  else if line = ascii "URADIOTEST" then handler.uradiotest
  else if line = ascii "UPAIR" ∨ (ascii "UPAIR ").isPrefixOf line then handler.upair line
  else if line = ascii "UCONNECT" then handler.uconnect
  else if line = ascii "UKEEPALIVE" then some handler.ukeepalive
  else if line = ascii "USLEEP" then some handler.usleep
  else if line = ascii "USTATUS" then
    handler.writeOut (formatStatus (List.replicate 96 0) handler.state)
  else if line = ascii "VER" then some (handler.write (versionReply buildTime))
  else if line = ascii "UDELETE" ∨ (ascii "UDELETE ").isPrefixOf line then
    some (handler.udelete line)
  else handler.handleArguments line

/-! ## Where a line goes -/

variable {buildTime : Nat} {handler : Handler W}

/-- A line that starts like none of the commands without arguments is read behind them. -/
theorem handle_arguments {start line : List UInt8} (starts : start.isPrefixOf line = true)
    (words : [ascii "", ascii "URADIOTEST", ascii "UPAIR", ascii "UCONNECT", ascii "UKEEPALIVE",
      ascii "USLEEP", ascii "USTATUS", ascii "VER", ascii "UDELETE"].all
        fun word => !start.isPrefixOf word)
    (pair : (ascii "UPAIR ").isPrefixOf start = false ∧ start.isPrefixOf (ascii "UPAIR ") = false)
    (delete : (ascii "UDELETE ").isPrefixOf start = false ∧
      start.isPrefixOf (ascii "UDELETE ") = false) :
    handleUnifyingCommand buildTime handler line = handler.handleArguments line := by
  have other (word : List UInt8) (member : word ∈ [ascii "", ascii "URADIOTEST", ascii "UPAIR",
      ascii "UCONNECT", ascii "UKEEPALIVE", ascii "USLEEP", ascii "USTATUS", ascii "VER",
      ascii "UDELETE"]) : line ≠ word := by
    refine ne_of_starts starts ?_
    simpa using List.all_eq_true.mp words word member
  have nonempty : ¬line.isEmpty = true := fun empty =>
    other (ascii "") (by simp) (List.isEmpty_iff.mp empty)
  have noPair := not_starts starts pair.symm
  have noDelete := not_starts starts delete.symm
  rw [handleUnifyingCommand, if_neg nonempty, if_neg (other _ (by simp)),
    if_neg (by simp [other (ascii "UPAIR"), noPair]), if_neg (other _ (by simp)),
    if_neg (other _ (by simp)), if_neg (other _ (by simp)), if_neg (other _ (by simp)),
    if_neg (other _ (by simp)), if_neg (by simp [other (ascii "UDELETE"), noDelete])]

theorem handle_uswitch (rest : List UInt8) :
    handleUnifyingCommand buildTime handler (ascii "USWITCH " ++ rest) = handler.uswitch rest := by
  rw [handle_arguments (starts_of_strip (stripPrefix_append _ rest)) (by decide) (by decide)
    (by decide), Handler.handleArguments, stripPrefix_append]

theorem handle_ukey (rest : List UInt8) :
    handleUnifyingCommand buildTime handler (ascii "UKEY " ++ rest) =
      some (handler.ukey rest) := by
  rw [handle_arguments (starts_of_strip (stripPrefix_append _ rest)) (by decide) (by decide)
    (by decide), Handler.handleArguments, stripPrefix_apart _ (by decide), stripPrefix_append]

theorem handle_ukeydown (rest : List UInt8) :
    handleUnifyingCommand buildTime handler (ascii "UKEYDOWN " ++ rest) =
      some (handler.ukeydown rest) := by
  rw [handle_arguments (starts_of_strip (stripPrefix_append _ rest)) (by decide) (by decide)
    (by decide), Handler.handleArguments, stripPrefix_apart _ (by decide),
    stripPrefix_apart _ (by decide), stripPrefix_append]

theorem handle_utype (text : List UInt8) :
    handleUnifyingCommand buildTime handler (ascii "UTYPE " ++ text) = handler.utype text := by
  rw [handle_arguments (starts_of_strip (stripPrefix_append _ text)) (by decide) (by decide)
    (by decide), Handler.handleArguments, stripPrefix_apart _ (by decide),
    stripPrefix_apart _ (by decide), stripPrefix_apart _ (by decide), stripPrefix_append]

theorem handle_upair {line : List UInt8}
    (command : line = ascii "UPAIR" ∨ (ascii "UPAIR ").isPrefixOf line = true) :
    handleUnifyingCommand buildTime handler line = handler.upair line := by
  have other : line.isEmpty = false ∧ line ≠ ascii "URADIOTEST" := by
    rcases command with rfl | starts
    · decide
    · obtain ⟨rest, rfl⟩ := List.isPrefixOf_iff_prefix.mp starts
      exact ⟨rfl, ne_of_starts starts (by decide)⟩
  unfold handleUnifyingCommand
  rw [if_neg (by rw [other.1]; exact Bool.false_ne_true), if_neg other.2, if_pos command]

end Handler

end NrfUnifying.Radio
