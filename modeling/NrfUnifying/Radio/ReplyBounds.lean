import NrfUnifying.Radio.Replies
import NrfUnifying.Radio.Worker
import NrfUnifying.Radio.WriteNumber
import NrfUnifying.Uart.Smoke

/-!
# Bounds of the reply lines

A formatted line is exact in the buffer that its caller passes, and everything a
command writes fits the reply sink, which drops none of it.
-/

namespace NrfUnifying.Radio

open Lib.Bytes Lib.Numerals Storage

/-! ## The lines -/

def typedText (ok total : UInt32) : List UInt8 :=
  ascii "TYPED " ++ decimal ok.toNat ++ ascii "/" ++ decimal total.toNat ++ ascii "\r\n"

def pairedText (address : Vector UInt8 5) (channel : UInt8) : List UInt8 :=
  ascii "PAIRED " ++ address.toList.flatMap hexDigits ++ ascii " CH=" ++ decimal channel.toNat ++
    ascii "\r\n"

def connectedText (channel : UInt8) : List UInt8 :=
  ascii "CONNECTED CH=" ++ decimal channel.toNat ++ ascii "\r\n"

def radiotestText (encoding : UInt8) (acks : UInt32) : List UInt8 :=
  ascii "RADIOTEST ENC=" ++ decimal encoding.toNat ++ ascii " ACKS=" ++ decimal acks.toNat ++
    ascii "\r\n"

def statusText {W : Type} (state : UnifyingState W) : List UInt8 :=
  ascii "STATUS SLOT=" ++ decimal state.activeSlot.toNat ++ ascii " PAIRED=" ++
    ascii (if state.paired then "1" else "0") ++ ascii " CONN=" ++
    ascii (if state.connected then "1" else "0") ++ ascii " CH=" ++
    decimal state.device.channel.toNat ++ ascii " CNT=" ++
    decimal state.device.aesCounter.toNat ++ ascii "\r\n"

def switchedText (slot : UInt8) (connected : Bool) : List UInt8 :=
  ascii "SWITCHED " ++ decimal slot.toNat ++
    ascii (if connected then " CONNECTED" else " NOCONN") ++ ascii "\r\n"

def switchedEmptyText (slot : UInt8) : List UInt8 :=
  ascii "SWITCHED " ++ decimal slot.toNat ++ ascii " EMPTY" ++ ascii "\r\n"

theorem hexDigit_listed {nibble : UInt8} (small : nibble.toNat < 16) :
    (ascii "0123456789ABCDEF")[nibble.toNat]? = some (hexDigit nibble) := by
  have inside : nibble.toNat < (ascii "0123456789ABCDEF").length := small
  rw [hexDigit, List.getD_eq_getElem?_getD, List.getElem?_eq_getElem inside]
  rfl

/-- No byte has a nibble that the table of digits lacks. -/
theorem hexDigits_listed (byte : UInt8) :
    (hexDigits byte).map some =
      [(ascii "0123456789ABCDEF")[(byte >>> 4).toNat]?,
        (ascii "0123456789ABCDEF")[(byte &&& 0x0F).toNat]?] := by
  have high : (byte >>> 4).toNat < 16 := by
    have bound := byte.toNat_lt
    rw [UInt8.toNat_shiftRight]
    change byte.toNat >>> 4 < 16
    rw [Nat.shiftRight_eq_div_pow]
    omega
  have low : (byte &&& 0x0F).toNat < 16 := by
    rw [UInt8.toNat_and]
    exact Nat.lt_of_le_of_lt Nat.and_le_right (by decide)
  rw [hexDigit_listed high, hexDigit_listed low]
  rfl

theorem word_length_le (value : UInt32) : (decimal value.toNat).length ≤ 10 :=
  decimal_length_le (by decide) (lt_ten_digits value)

theorem byte_numeral (value : UInt8) : numeral value.toUInt32 = decimal value.toNat := by
  rw [numeral_eq, UInt8.toNat_toUInt32]

/-- In a buffer of this size the text is written from the start, and nothing else is. -/
structure FitsIn (size : Nat) (format : List UInt8 → Written) (text : List UInt8) : Prop where
  short : text.length ≤ size
  writes : ∀ out : List UInt8, out.length = size →
    format out = some (text ++ out.drop text.length, text.length)

theorem FitsIn.of_wrote {size : Nat} {format : List UInt8 → Written} {text line : List UInt8}
    (wrote : Wrote size line (format (List.replicate size 0)))
    (same : ∀ out, format out = puts out 0 line) (is : line = text) : FitsIn size format text := by
  subst is
  obtain ⟨out, -, length, start⟩ := wrote
  have short : line.length ≤ size := by
    rw [← start, ← length]
    exact (List.take_sublist _ _).length_le
  constructor
  · exact short
  · intro out length
    rw [same, puts_eq (by omega), Nat.zero_add]
    rfl

theorem formatTyped_fits (ok total : UInt32) :
    FitsIn 48 (formatTyped · ok total) (typedText ok total) := by
  apply FitsIn.of_wrote (formatTyped_wrote ok total) (formatTyped_eq · ok total)
  rw [numeral_eq, numeral_eq]
  rfl

theorem formatPaired_fits (address : Vector UInt8 5) (channel : UInt8) :
    FitsIn 64 (formatPaired · address channel) (pairedText address channel) := by
  apply FitsIn.of_wrote (formatPaired_wrote address channel) (formatPaired_eq · address channel)
  rw [byte_numeral]
  rfl

theorem formatConnected_fits (channel : UInt8) :
    FitsIn 32 (formatConnected · channel) (connectedText channel) := by
  apply FitsIn.of_wrote (formatConnected_wrote channel) (formatConnected_eq · channel)
  rw [byte_numeral]
  rfl

theorem formatRadiotest_fits (encoding : UInt8) (acks : UInt32) :
    FitsIn 48 (formatRadiotest · encoding acks) (radiotestText encoding acks) := by
  apply FitsIn.of_wrote (formatRadiotest_wrote encoding acks) (formatRadiotest_eq · encoding acks)
  rw [byte_numeral, numeral_eq]
  rfl

theorem formatStatus_fits {W : Type} (state : UnifyingState W) :
    FitsIn 96 (formatStatus · state) (statusText state) := by
  apply FitsIn.of_wrote (formatStatus_wrote state) (formatStatus_eq · state)
  rw [byte_numeral, byte_numeral, numeral_eq, ← apply_ite ascii, ← apply_ite ascii]
  rfl

theorem formatSwitched_fits (slot : UInt8) (connected : Bool) :
    FitsIn 48 (formatSwitched · slot connected) (switchedText slot connected) := by
  apply FitsIn.of_wrote (formatSwitched_wrote slot connected) (formatSwitched_eq · slot connected)
  rw [byte_numeral, ← apply_ite ascii]
  rfl

theorem formatSwitchedEmpty_fits (slot : UInt8) :
    FitsIn 48 (formatSwitchedEmpty · slot) (switchedEmptyText slot) := by
  apply FitsIn.of_wrote (formatSwitchedEmpty_wrote slot) (formatSwitchedEmpty_eq · slot)
  rw [byte_numeral]
  rfl

/-! ## The reply holds all that was written -/

/-- The commands of the diagnostic build, which has no radio. -/
def handleDiagnostic (buildTime : Nat) (cdc : Bool) (counters : Vector UInt32 6)
    (sink : ReplySink) (line : List UInt8) : ReplySink :=
  if line.isEmpty then sink
  else if line = ascii "VER" then
    sink.write (ascii "VER unifying/1 build=" ++ decimal buildTime ++ ascii " uart-smoke\r\n")
  else if line = ascii "UARTTEST" ∧ cdc then
    match UartSmoke.formatResponse counters 192 with
    | some out => sink.write out
    | none => sink
  else sink.write (ascii "ERR DIAGNOSTIC\r\n")

/-- All that was written is in the reply. -/
structure ReplySink.Complete (sink : ReplySink) : Prop where
  fits : sink.writes.flatten.length ≤ replyLimit
  reply : sink.bytes = sink.writes.flatten

/-- Into an empty reply goes all that fits it. -/
theorem ReplySink.Complete.of_writes {bodies : List (List UInt8)}
    (fits : bodies.flatten.length ≤ replyLimit) :
    (bodies.foldl ReplySink.write {}).Complete := by
  have writes : (bodies.foldl ReplySink.write {}).writes = bodies := writes_writes bodies {}
  have bytes : (bodies.foldl ReplySink.write {}).bytes = bodies.flatten :=
    writes_bytes (by simpa using fits)
  constructor
  · rw [writes]
    exact fits
  · rw [bytes, writes]

theorem handleDiagnostic_complete {buildTime : Nat} (word : buildTime < 2 ^ 64) (cdc : Bool)
    (counters : Vector UInt32 6) (line : List UInt8) :
    (handleDiagnostic buildTime cdc counters {} line).Complete := by
  have one {text : List UInt8} (fits : text.length ≤ replyLimit) :
      (ReplySink.write {} text).Complete :=
    @ReplySink.Complete.of_writes [text] (by rwa [List.flatten_singleton])
  have digits : (decimal buildTime).length ≤ 20 := decimal_length word
  have report := UartSmoke.responsePieces_length_le counters
  unfold handleDiagnostic
  rw [UartSmoke.formatResponse_eq counters (by decide)]
  split
  · exact @ReplySink.Complete.of_writes [] (Nat.zero_le _)
  split
  · apply one
    simp [ascii, replyLimit]
    omega
  split
  · exact one (Nat.le_trans report (by decide))
  · exact one (by decide)

/-- Each line is exact in the buffer that its caller passes. -/
structure LinesFit : Prop where
  nibbles : ∀ byte : UInt8, (hexDigits byte).map some =
    [(ascii "0123456789ABCDEF")[(byte >>> 4).toNat]?,
      (ascii "0123456789ABCDEF")[(byte &&& 0x0F).toNat]?]
  typed : ∀ ok total, FitsIn 48 (formatTyped · ok total) (typedText ok total)
  paired : ∀ address channel,
    FitsIn 64 (formatPaired · address channel) (pairedText address channel)
  connected : ∀ channel, FitsIn 32 (formatConnected · channel) (connectedText channel)
  radiotest : ∀ encoding acks,
    FitsIn 48 (formatRadiotest · encoding acks) (radiotestText encoding acks)
  status : ∀ (W : Type) (state : UnifyingState W),
    FitsIn 96 (formatStatus · state) (statusText state)
  switched : ∀ slot connected,
    FitsIn 48 (formatSwitched · slot connected) (switchedText slot connected)
  switchedEmpty : ∀ slot, FitsIn 48 (formatSwitchedEmpty · slot) (switchedEmptyText slot)

/-- Numbers are written as their numerals, lines are exact in their buffers, and no command of
either build panics or loses a part of its reply. -/
theorem replies_exact (buildTime : UInt64) :
    (∀ value : UInt32, IsNumeral value.toNat (decimal value.toNat) ∧
      (decimal value.toNat).length ≤ 10) ∧
    (∀ (out : List UInt8) (pos : Nat) (value : UInt32), checkedWriteU32 out pos value =
      if pos + (decimal value.toNat).length ≤ out.length then
        some (out.take pos ++ decimal value.toNat ++
            out.drop (pos + (decimal value.toNat).length),
          pos + (decimal value.toNat).length)
      else none) ∧
    checkedWriteU32 = writeU32 ∧ LinesFit ∧
    (∀ (W : Type) [Board W] [RustUnifying W] (handler : Handler W) (line : List UInt8),
      ∃ after, handleUnifyingCommand buildTime.toNat handler.ready line = some after ∧
        after.sink.Complete) ∧
    ∀ (cdc : Bool) (counters : Vector UInt32 6) (line : List UInt8),
      (handleDiagnostic buildTime.toNat cdc counters {} line).Complete := by
  have word := buildTime.toNat_lt
  refine ⟨?_, checkedWriteU32_decimal, checkedWriteU32_eq, ?_, ?_, ?_⟩
  · exact fun value => ⟨decimal_isNumeral _, word_length_le value⟩
  · exact ⟨hexDigits_listed, formatTyped_fits, formatPaired_fits, formatConnected_fits,
      formatRadiotest_fits, fun _ => formatStatus_fits, formatSwitched_fits,
      formatSwitchedEmpty_fits⟩
  · intro W _ _ handler line
    obtain ⟨after, bodies, done, answers, sink⟩ :=
      handleUnifyingCommand_writes handler.ready line buildTime.toNat
    refine ⟨after, done, ?_⟩
    rw [sink]
    exact .of_writes (answers.fits word)
  · exact fun cdc counters line => handleDiagnostic_complete word cdc counters line

end NrfUnifying.Radio
