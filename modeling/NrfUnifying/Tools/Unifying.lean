import Mathlib.Data.Nat.Digits.Defs
import Mathlib.Data.Nat.Digits.Lemmas
import NrfUnifying.Radio.Typing
import NrfUnifying.Tools.Port
import NrfUnifying.Uart.RoundTrip

/-!
# The command tool

`unifying.py` turns a key combination into one `UKEY` line. The device reads the
line back as the same modifiers and keys, and a receiver's host sees them struck
once.
-/

namespace NrfUnifying.Tools

open Lib.Bytes Lib.Keyboard Radio Serial Updater
open UartLink (tokens tokens_intercalate intercalate_cons mem_intercalate length_intercalate
  parseReport_iff)

/-! ## The tool -/

/-- What the tool uses of Python's texts: `str.lower`, `str.strip` and `int(text, 16)`. -/
structure Python where
  lower : List Char → List Char
  strip : List Char → List Char
  int16 : List Char → Option Nat

def modifierTable : List (String × Nat) := [
  ("ctrl", 0x01), ("lctrl", 0x01), ("rctrl", 0x10),
  ("shift", 0x02), ("lshift", 0x02), ("rshift", 0x20),
  ("alt", 0x04), ("lalt", 0x04), ("ralt", 0x40),
  ("gui", 0x08), ("win", 0x08), ("meta", 0x08), ("cmd", 0x08),
  ("lgui", 0x08), ("rgui", 0x80)]

/-- The named keys, the letters and the digits. -/
def keyNames : List (String × Nat) := [
  ("enter", 0x28), ("return", 0x28), ("esc", 0x29), ("escape", 0x29),
  ("backspace", 0x2A), ("bksp", 0x2A), ("tab", 0x2B), ("space", 0x2C),
  ("minus", 0x2D), ("equal", 0x2E), ("lbracket", 0x2F), ("rbracket", 0x30),
  ("backslash", 0x31), ("semicolon", 0x33), ("quote", 0x34), ("grave", 0x35),
  ("comma", 0x36), ("period", 0x37), ("slash", 0x38), ("capslock", 0x39),
  ("f1", 0x3A), ("f2", 0x3B), ("f3", 0x3C), ("f4", 0x3D), ("f5", 0x3E), ("f6", 0x3F),
  ("f7", 0x40), ("f8", 0x41), ("f9", 0x42), ("f10", 0x43), ("f11", 0x44), ("f12", 0x45),
  ("printscreen", 0x46), ("scrolllock", 0x47), ("pause", 0x48),
  ("insert", 0x49), ("home", 0x4A), ("pageup", 0x4B), ("delete", 0x4C), ("del", 0x4C),
  ("end", 0x4D), ("pagedown", 0x4E),
  ("right", 0x4F), ("left", 0x50), ("down", 0x51), ("up", 0x52)] ++
  ("abcdefghijklmnopqrstuvwxyz".toList.zipIdx.map fun (c, i) => (String.singleton c, 0x04 + i)) ++
  "1234567890".toList.zipIdx.map fun (c, i) => (String.singleton c, 0x1E + i)

def find (table : List (String × Nat)) (name : List Char) : Option Nat :=
  (table.find? fun entry => entry.1.toList = name).map Prod.snd

/-- One part of a combination; an error is `none`. -/
def addPart (python : Python) (combo : Nat × List Nat) (part : List Char) :
    Option (Nat × List Nat) :=
  let (modifier, keys) := combo
  let part := python.strip part
  if part.isEmpty then some (modifier, keys)
  else
    match find modifierTable part with
    | some bit => some (modifier ||| bit, keys)
    | none =>
        match find keyNames part with
        | some key => some (modifier, keys ++ [key])
        | none =>
            if "0x".toList.isPrefixOf part then
              (python.int16 part).map fun key => (modifier, keys ++ [key])
            else none

/-- The modifiers and the keys of a combination, at most six. -/
def parseKeyCombo (python : Python) (combo : List Char) : Option (Nat × List Nat) :=
  (((python.lower combo).splitOn '+').foldlM (addPart python) (0, [])).filter
    fun (_, keys) => keys.length ≤ 6

/-- `f"{value:02X}"` -/
def hex02 (value : Nat) : List UInt8 :=
  let digits := (Nat.digits 16 value).reverse.map fun digit => hexDigit digit.toUInt8
  List.replicate (2 - digits.length) 0x30 ++ digits

/-- The line of `cmd_key`. -/
def keyLine (modifier : Nat) (keys : List Nat) : List UInt8 :=
  let tokens := [0x20].intercalate (keys.map hex02)
  ascii "UKEY " ++ hex02 modifier ++ if tokens.isEmpty then [] else 0x20 :: tokens

/-! ## Combinations -/

theorem modifierTable_lt : ∀ entry ∈ modifierTable, entry.2 < 2 ^ 8 := by decide

theorem addPart_modifier {python : Python} {combo after : Nat × List Nat} {part : List Char}
    (added : addPart python combo part = some after) (byte : combo.1 < 2 ^ 8) :
    after.1 < 2 ^ 8 := by
  obtain ⟨modifier, keys⟩ := combo
  unfold addPart at added
  dsimp only at added byte
  split at added
  · obtain rfl := Option.some.inj added
    exact byte
  · split at added
    next bit found =>
      obtain ⟨entry, listed, rfl⟩ := Option.map_eq_some_iff.mp found
      obtain rfl := Option.some.inj added
      exact Nat.or_lt_two_pow byte (modifierTable_lt entry (List.mem_of_find?_eq_some listed))
    · split at added
      · obtain rfl := Option.some.inj added
        exact byte
      · split at added
        · obtain ⟨key, -, rfl⟩ := Option.map_eq_some_iff.mp added
          exact byte
        · cases added

/-- The modifiers of a combination are a byte, and there are at most six keys. -/
theorem parseKeyCombo_bounds {python : Python} {combo : List Char} {modifier : Nat}
    {keys : List Nat} (parsed : parseKeyCombo python combo = some (modifier, keys)) :
    modifier < 2 ^ 8 ∧ keys.length ≤ 6 := by
  have run (parts : List (List Char)) (before after : Nat × List Nat)
      (added : parts.foldlM (addPart python) before = some after) (byte : before.1 < 2 ^ 8) :
      after.1 < 2 ^ 8 := by
    induction parts generalizing before with
    | nil =>
        obtain rfl := Option.some.inj added
        exact byte
    | cons part rest ih =>
        rw [List.foldlM_cons] at added
        obtain ⟨middle, first, others⟩ := Option.bind_eq_some_iff.mp added
        exact ih middle others (addPart_modifier first byte)
  obtain ⟨added, few⟩ := Option.filter_eq_some_iff.mp parsed
  exact ⟨run _ _ _ added (by decide), of_decide_eq_true few⟩

/-! ## Hexadecimal tokens -/

theorem hex02_table : ∀ n < 256, UartLink.hexByte (hex02 n) = some (.ofNat n) := by decide +kernel

/-- Exactly the values of a byte are read back. -/
theorem hexByte_hex02 (value : Nat) :
    UartLink.hexByte (hex02 value) = if value < 256 then some (.ofNat value) else none := by
  split
  next byte => exact hex02_table value byte
  next large =>
    have digits : 2 < (Nat.digits 16 value).length := by
      by_contra short
      exact large ((Nat.digits_length_le_iff (by decide) value).mp (Nat.not_lt.mp short))
    have long : 2 < (hex02 value).length := by
      unfold hex02
      dsimp only
      rw [List.length_append, List.length_map, List.length_reverse]
      omega
    unfold UartLink.hexByte
    exact if_pos (.inr long)

theorem hexDigit_table : ∀ n < 16, hexDigit n.toUInt8 ≠ 0x20 ∧ hexDigit n.toUInt8 ≠ 0x0D ∧
    hexDigit n.toUInt8 ≠ 0x0A := by decide

theorem hex02_bytes (value : Nat) :
    ∀ byte ∈ hex02 value, byte ≠ 0x20 ∧ byte ≠ 0x0D ∧ byte ≠ 0x0A := by
  intro byte member
  unfold hex02 at member
  rcases List.mem_append.mp member with zero | digit
  · rw [List.eq_of_mem_replicate zero]
    decide
  · obtain ⟨value, listed, rfl⟩ := List.mem_map.mp digit
    exact hexDigit_table value (Nat.digits_lt_base (by decide) (List.mem_reverse.mp listed))

theorem hex02_ne_nil (value : Nat) : hex02 value ≠ [] := by
  intro empty
  have length := congrArg List.length empty
  unfold hex02 at length
  dsimp only at length
  rw [List.length_append, List.length_replicate, List.length_nil] at length
  omega

/-! ## The line -/

theorem keyLine_eq (modifier : Nat) (keys : List Nat) :
    keyLine modifier keys = ascii "UKEY " ++ [0x20].intercalate ((modifier :: keys).map hex02) := by
  unfold keyLine
  dsimp only
  cases keys with
  | nil =>
      rw [List.map_nil, List.intercalate_nil, if_pos List.isEmpty_nil, List.append_nil,
        List.map_singleton, List.intercalate_singleton]
  | cons key keys =>
      have some : ([0x20].intercalate ((key :: keys).map hex02)).isEmpty = false := by
        have first := hex02_ne_nil key
        cases keys with
        | nil => simpa [List.intercalate_singleton] using first
        | cons other keys => simp [first]
      rw [some, if_neg Bool.false_ne_true, List.append_assoc, List.map_cons, List.map_cons,
        List.map_cons, intercalate_cons, List.append_assoc]
      rfl

theorem keyLine_noBreak (modifier : Nat) (keys : List Nat) : NoBreak (keyLine modifier keys) := by
  rw [keyLine_eq]
  refine .append (by decide) fun byte member => ?_
  rcases (mem_intercalate _).1 member with rfl | ⟨token, listed, inside⟩
  · decide
  · obtain ⟨value, -, rfl⟩ := List.mem_map.mp listed
    exact (hex02_bytes value byte inside).2

theorem keyLine_tokens (modifier : Nat) (keys : List Nat) :
    tokens ([0x20].intercalate ((modifier :: keys).map hex02)) = (modifier :: keys).map hex02 := by
  refine tokens_intercalate fun word listed => ?_
  obtain ⟨value, -, rfl⟩ := List.mem_map.mp listed
  exact ⟨hex02_ne_nil value, fun space => (hex02_bytes value _ space).1 rfl⟩

theorem keyLine_length {modifier : Nat} {keys : List Nat} (byte : modifier < 256)
    (few : keys.length ≤ 6) (bytes : ∀ key ∈ keys, key < 256) :
    (keyLine modifier keys).length ≤ lineLimit := by
  have short (value : Nat) (small : value < 256) : (hex02 value).length = 2 := by
    have digits := (Nat.digits_length_le_iff (by decide : 1 < 16) (k := 2) value).mpr small
    unfold hex02
    dsimp only
    rw [List.length_append, List.length_replicate, List.length_map, List.length_reverse]
    omega
  have lengths : ((modifier :: keys).map hex02).map (·.length + 1) =
      List.replicate (keys.length + 1) 3 := by
    rw [List.map_map, List.eq_replicate_iff, List.length_map, List.length_cons]
    refine ⟨rfl, fun length member => ?_⟩
    obtain ⟨value, listed, rfl⟩ := List.mem_map.mp member
    refine congrArg (· + 1) (short value ?_)
    rcases List.mem_cons.mp listed with rfl | key
    · exact byte
    · exact bytes value key
  rw [keyLine_eq, List.length_append, length_intercalate, lengths, List.sum_replicate]
  change 5 + ((keys.length + 1) * 3 - 1) ≤ 256
  omega

/-- The handler reads a combination of bytes back. -/
theorem keyLine_report {modifier : Nat} {keys : List Nat} (byte : modifier < 256)
    (few : keys.length ≤ 6) (bytes : ∀ key ∈ keys, key < 256) :
    ∃ report, parseReport ([0x20].intercalate ((modifier :: keys).map hex02)) =
        some (.ofNat modifier, report) ∧
      airReport report (.ofNat modifier) =
        ⟨(keys.map UInt8.ofNat).filter (· ≠ 0), .ofNat modifier⟩ := by
  have length : (keys.map UInt8.ofNat ++ List.replicate (6 - keys.length) 0).length = 6 := by
    rw [List.length_append, List.length_map, List.length_replicate]
    omega
  let report : Keys :=
    ⟨(keys.map UInt8.ofNat ++ List.replicate (6 - keys.length) 0).toArray, length⟩
  have padded : report.toList = keys.map UInt8.ofNat ++ List.replicate (6 - keys.length) 0 := rfl
  refine ⟨report, parseReport_iff.mpr ⟨keys.map UInt8.ofNat, ?_, ?_, ?_⟩, ?_⟩
  · rw [keyLine_tokens, List.map_cons, List.map_cons, hexByte_hex02, if_pos byte, List.map_map,
      List.map_map]
    refine congrArg (_ :: ·) (List.map_congr_left fun key member => ?_)
    exact (hexByte_hex02 key).trans (if_pos (bytes key member))
  · rwa [List.length_map]
  · rw [padded, List.length_map]
  · unfold airReport
    rw [padded, List.filter_append, List.filter_replicate_of_neg (by decide), List.append_nil]

/-- A combination with a key beyond a byte is refused. -/
theorem keyLine_refused (modifier : Nat) {keys : List Nat} {key : Nat} (member : key ∈ keys)
    (large : 256 ≤ key) :
    parseReport ([0x20].intercalate ((modifier :: keys).map hex02)) = none := by
  rw [Option.eq_none_iff_forall_ne_some]
  rintro ⟨value, report⟩ read
  obtain ⟨values, same, -⟩ := parseReport_iff.mp read
  rw [keyLine_tokens, List.map_cons, List.map_cons, List.map_map] at same
  have listed : (UartLink.hexByte (hex02 key)) ∈ values.map some := by
    rw [← (List.cons.inj same).2]
    exact List.mem_map_of_mem member
  rw [hexByte_hex02, if_neg (Nat.not_lt.mpr large)] at listed
  obtain ⟨_, -, impossible⟩ := List.mem_map.mp listed
  cases impossible

/-! ## The device -/

section Device

variable {W F I : Type} [FirmwareUpdater F I]

/-- A line that starts with `U` is no update command. -/
theorem parseOtaCommand_unifying {line : List UInt8}
    (starts : (ascii "U").isPrefixOf line = true) : parseOtaCommand line = none := by
  unfold parseOtaCommand
  rw [if_neg (ne_of_starts starts (by decide)), if_neg (ne_of_starts starts (by decide)),
    if_neg (ne_of_starts starts (by decide)), if_neg (ne_of_starts starts (by decide)),
    if_neg (ne_of_starts starts (by decide)), stripPrefix, not_starts starts (by decide)]
  rfl

/-- A line of the tool reaches the worker in one piece, or is refused for its length. -/
theorem Port.Idle.ask (uartOta : Bool) {port : Port F I} (idle : port.Idle) {line : List UInt8}
    (plain : NoBreak line) (starts : (ascii "U").isPrefixOf line = true)
    {packets : List (List UInt8)} (flatten : packets.flatten = line ++ [0x0A])
    (nonempty : ∀ packet ∈ packets, packet ≠ []) :
    port.write uartOta packets =
      if lineLimit < line.length then { port with replies := port.replies ++ [.errArg] }
      else { port with requests := port.requests ++ [line] } := by
  have some : line.isEmpty = false := by
    cases line with
    | nil => cases starts
    | cons => rfl
  rw [idle.write_line uartOta plain flatten nonempty]
  unfold endLine
  split
  · unfold Port.answer
    simp
  · unfold Cdc.dispatch
    rw [parseOtaCommand_unifying starts]
    unfold Port.answer
    simp [some]

variable [Board W] [RustUnifying W] {log : W → List (Sending UInt8 UInt8)} {buildTime : Nat}

/-- A report goes out as one burst of presses and one of all-ups. -/
theorem Handler.ukey_bursts (hearing : RustUnifying.Hearing log) (handler : Handler W)
    {rest : List UInt8} {modifier : UInt8} {keys : Keys}
    (connected : handler.state.connected = true)
    (parsed : parseReport rest = some (modifier, keys)) :
    ∃ down up acked released,
      log (handler.ukey rest).state.device.world =
        log handler.state.device.world ++ (down ++ up) ∧
      Burst (airReport keys modifier) acked down ∧ Burst allUpReport released up ∧
      (handler.ukey rest).sink = handler.sink.write (sendReply acked) := by
  obtain ⟨down, up, released, sent, press, release⟩ :=
    sendKeyReport_bursts hearing (ticks 5 handler.state.wake.device) keys modifier
  rw [ticks_log hearing, wake_log hearing] at sent
  refine ⟨down, up, _, released, ?_, press, release, ?_⟩
  · unfold Handler.ukey
    rw [if_neg (by simp [connected])]
    dsimp only
    rw [parsed]
    change log (Handler.saveIfPaired _).state.device.world = _
    rw [Handler.saveIfPaired_state]
    exact sent
  · unfold Handler.ukey
    rw [if_neg (by simp [connected])]
    dsimp only
    rw [parsed]
    change (Handler.saveIfPaired _).sink.write _ = _
    rw [saveIfPaired_sink]
    rfl

end Device

/-- A burst of presses and one of all-ups strike each key once or not at all; the latter only when
no press was acknowledged. -/
theorem press_reads {report : Report UInt8 UInt8} {acked released : Bool}
    {down up : List (Sending UInt8 UInt8)} (press : Burst report acked down)
    (release : Burst allUpReport released up) (honest : Honest (down ++ up)) :
    (read [] (received (down ++ up)) = report.keys.map (·, report.modifiers) ∨
        acked = false ∧ read [] (received (down ++ up)) = []) ∧
      (released = true → heldAfter [] (received (down ++ up)) = []) := by
  obtain ⟨first, second⟩ := List.forall_mem_append.mp honest
  have quiet (held : List UInt8) : read held (received up) = [] := by
    rcases release.read_cases second held with ⟨nothing, -⟩ | ⟨-, nothing⟩
    · exact nothing
    · rw [nothing]
      rfl
  rw [received_append, read_append, quiet, List.append_nil, heldAfter_append]
  refine ⟨?_, fun answered => ?_⟩
  · rcases press.read_cases first [] with ⟨all, -⟩ | ⟨lost, nothing⟩
    · exact .inl (all.trans (strokes_released report))
    · rw [nothing]
      exact .inr ⟨lost, rfl⟩
  · rcases release.read_cases second (heldAfter [] (received down)) with ⟨-, up⟩ | ⟨lost, -⟩
    · exact up
    · cases lost.symm.trans answered

/-- What the tool accepts as a combination reaches the worker as one line that is read back as the
same modifiers and keys: it goes out as one burst of presses and one of all-ups, and a host that
held no key sees each key struck once, or none when no press was acknowledged. A key beyond a byte
is refused by the device, and nothing goes out. -/
theorem key_combo_strikes {W F I : Type} [FirmwareUpdater F I] [Board W] [RustUnifying W]
    {log : W → List (Sending UInt8 UInt8)} (hearing : RustUnifying.Hearing log) (buildTime : Nat)
    {python : Python} {combo : List Char} {modifier : Nat} {keys : List Nat}
    (parsed : parseKeyCombo python combo = some (modifier, keys)) (uartOta : Bool)
    {port : Port F I} (idle : port.Idle) {packets : List (List UInt8)}
    (flatten : packets.flatten = keyLine modifier keys ++ [0x0A])
    (nonempty : ∀ packet ∈ packets, packet ≠ []) {handler : Handler W}
    (connected : handler.state.connected = true) :
    ((∀ key ∈ keys, key < 256) →
        port.write uartOta packets =
            { port with requests := port.requests ++ [keyLine modifier keys] } ∧
          ∃ after down up acked released,
            let report : Report UInt8 UInt8 :=
              ⟨(keys.map UInt8.ofNat).filter (· ≠ 0), .ofNat modifier⟩
            handleUnifyingCommand buildTime handler (keyLine modifier keys) = some after ∧
            log after.state.device.world = log handler.state.device.world ++ (down ++ up) ∧
            Burst report acked down ∧ Burst allUpReport released up ∧
            after.sink = handler.sink.write (sendReply acked) ∧
            (read [] (received (down ++ up)) = report.keys.map (·, report.modifiers) ∨
              acked = false ∧ read [] (received (down ++ up)) = []) ∧
            (released = true → heldAfter [] (received (down ++ up)) = [])) ∧
      ∀ key ∈ keys, 256 ≤ key →
        port.write uartOta packets = { port with replies := port.replies ++ [.errArg] } ∨
          port.write uartOta packets =
              { port with requests := port.requests ++ [keyLine modifier keys] } ∧
            ∃ after, handleUnifyingCommand buildTime handler (keyLine modifier keys) =
                some after ∧
              log after.state.device.world = log handler.state.device.world ∧
              after.sink = handler.sink.write (ascii "ERR ARG\r\n") := by
  obtain ⟨byte, few⟩ := parseKeyCombo_bounds parsed
  have starts : (ascii "U").isPrefixOf (keyLine modifier keys) = true := by
    rw [keyLine_eq]
    rfl
  have arrives := idle.ask uartOta (keyLine_noBreak modifier keys) starts flatten nonempty
  have handled : handleUnifyingCommand buildTime handler (keyLine modifier keys) =
      some (handler.ukey ([0x20].intercalate ((modifier :: keys).map hex02))) := by
    rw [keyLine_eq]
    exact handle_ukey _
  constructor
  · intro bytes
    obtain ⟨report, read, onAir⟩ := keyLine_report byte few bytes
    obtain ⟨down, up, acked, released, sent, press, release, told⟩ :=
      Handler.ukey_bursts hearing handler connected read
    have honest : Honest (down ++ up) := by
      have all := hearing.honest (handler.ukey
        ([0x20].intercalate ((modifier :: keys).map hex02))).state.device.world
      rw [sent] at all
      exact (List.forall_mem_append.mp all).2
    rw [onAir] at press
    rw [if_neg (Nat.not_lt.mpr (keyLine_length byte few bytes))] at arrives
    obtain ⟨struck, left⟩ := press_reads press release honest
    exact ⟨arrives, _, down, up, acked, released, handled, sent, press, release, told, struck, left⟩
  · intro key member large
    have refused := keyLine_refused modifier member large
    by_cases long : lineLimit < (keyLine modifier keys).length
    · exact .inl (arrives.trans (if_pos long))
    · refine .inr ⟨arrives.trans (if_neg long), _, handled, ?_, ?_⟩
      · unfold Handler.ukey
        rw [if_neg (by simp [connected])]
        dsimp only
        rw [refused]
        exact wake_log hearing handler.state
      · unfold Handler.ukey
        rw [if_neg (by simp [connected])]
        dsimp only
        rw [refused]
        rfl

/-! ## A combination -/

def hexValue (c : Char) : Option Nat :=
  if c.isDigit then some (c.toNat - 0x30)
  else if 'a' ≤ c ∧ c ≤ 'f' then some (c.toNat - 0x57) else none

/-- Python's texts, where they are ASCII. -/
def asciiPython : Python where
  lower text := text.map Char.toLower
  strip text := ((text.dropWhile Char.isWhitespace).reverse.dropWhile Char.isWhitespace).reverse
  int16 text :=
    if (text.drop 2).isEmpty then none
    else (text.drop 2).foldlM (fun value c => (hexValue c).map (16 * value + ·)) 0

theorem key_combo_strikes_del :
    ∃ after down up acked released,
      handleUnifyingCommand 0 lossyHandler (keyLine 0x05 [0x4C]) = some after ∧
      after.state.device.world.log = [] ++ (down ++ up) ∧
      Burst (⟨[0x4C], 0x05⟩ : Report UInt8 UInt8) acked down ∧ Burst allUpReport released up ∧
      after.sink = ({} : ReplySink).write (sendReply acked) ∧
      (read [] (received (down ++ up)) = [(0x4C, 0x05)] ∨
        acked = false ∧ read [] (received (down ++ up)) = []) ∧
      (released = true → heldAfter [] (received (down ++ up)) = []) := by
  have parsed : parseKeyCombo asciiPython "Ctrl+Alt+Del".toList = some (0x05, [0x4C]) := by decide
  have flatten : [ascii "UKEY 05 ", ascii "4C\n"].flatten = keyLine 0x05 [0x4C] ++ [0x0A] := by
    decide +kernel
  have connected : lossyHandler.state.connected = true := rfl
  have struck := key_combo_strikes Ether.hearing 0 parsed false
    (opened_idle none (⟨fun _ => 0⟩ : Partition)) flatten (by decide) connected
  exact (struck.1 (by decide)).2

end NrfUnifying.Tools
