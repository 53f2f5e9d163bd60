import NrfUnifying.Radio.Device

/-!
# Numbers and reply lines

Replies are written byte by byte into buffers of fixed size; an index past the
end panics, which is `none` here. `Wrote` says what a buffer holds so far.
-/

namespace NrfUnifying.Radio

open Lib.Bytes

/-- An ASCII hex byte of one or two digits. -/
def parseU8Hex (token : List UInt8) : Option UInt8 :=
  if token.isEmpty ∨ token.length > 2 then none
  else
    token.foldlM (fun value c =>
      let nibble : Option UInt8 :=
        if 0x30 ≤ c ∧ c ≤ 0x39 then some (c - 0x30)
        else if 0x61 ≤ c ∧ c ≤ 0x66 then some (c - 0x61 + 10)
        else if 0x41 ≤ c ∧ c ≤ 0x46 then some (c - 0x41 + 10)
        else none
      nibble.map fun nibble => (value <<< 4) ||| nibble) 0

/-- A buffer and the position up to which it is written. -/
abbrev Written := Option (List UInt8 × Nat)

/-- `out[pos] = byte` -/
def put (out : List UInt8) (pos : Nat) (byte : UInt8) : Option (List UInt8) :=
  if pos < out.length then some (out.set pos byte) else none

/-- Bytes one after another, and the position behind them. -/
def puts (out : List UInt8) (pos : Nat) : List UInt8 → Written
  | [] => some (out, pos)
  | byte :: rest => (put out pos byte).bind fun out => puts out (pos + 1) rest

def hexDigit (nibble : UInt8) : UInt8 := (ascii "0123456789ABCDEF").getD nibble.toNat 0

def hexByte (out : List UInt8) (index : Nat) (byte : UInt8) : Option (List UInt8) :=
  (put out index (hexDigit (byte >>> 4))).bind fun out =>
    put out (index + 1) (hexDigit (byte &&& 0x0F))

/-- Decimal digits, least significant first, into a buffer of `room` digits. -/
def digits : (room : Nat) → UInt32 → List UInt8
  | 0, _ => []
  | room + 1, value =>
      if value = 0 then [] else (0x30 + (value % 10).toUInt8) :: digits room (value / 10)

def writeU32 (out : List UInt8) (pos : Nat) (value : UInt32) : Written :=
  if value = 0 then puts out pos [0x30] else puts out pos (digits 10 value).reverse

/-- Every byte of an address as two digits. -/
def writeAddress (out : List UInt8) (pos : Nat) : List UInt8 → Written
  | [] => some (out, pos)
  | byte :: rest => (hexByte out pos byte).bind fun out => writeAddress out (pos + 2) rest

def formatTyped (out : List UInt8) (ok total : UInt32) : Written := do
  let (out, pos) ← puts out 0 (ascii "TYPED ")
  let (out, pos) ← writeU32 out pos ok
  let (out, pos) ← puts out pos (ascii "/")
  let (out, pos) ← writeU32 out pos total
  puts out pos (ascii "\r\n")

def formatPaired (out : List UInt8) (address : Vector UInt8 5) (channel : UInt8) : Written := do
  let (out, pos) ← puts out 0 (ascii "PAIRED ")
  let (out, pos) ← writeAddress out pos address.toList
  let (out, pos) ← puts out pos (ascii " CH=")
  let (out, pos) ← writeU32 out pos channel.toUInt32
  puts out pos (ascii "\r\n")

def formatConnected (out : List UInt8) (channel : UInt8) : Written := do
  let (out, pos) ← puts out 0 (ascii "CONNECTED CH=")
  let (out, pos) ← writeU32 out pos channel.toUInt32
  puts out pos (ascii "\r\n")

def formatRadiotest (out : List UInt8) (encoding : UInt8) (acks : UInt32) : Written := do
  let (out, pos) ← puts out 0 (ascii "RADIOTEST ENC=")
  let (out, pos) ← writeU32 out pos encoding.toUInt32
  let (out, pos) ← puts out pos (ascii " ACKS=")
  let (out, pos) ← writeU32 out pos acks
  puts out pos (ascii "\r\n")

def formatStatus {W : Type} (out : List UInt8) (state : UnifyingState W) : Written := do
  let (out, pos) ← puts out 0 (ascii "STATUS SLOT=")
  let (out, pos) ← writeU32 out pos state.activeSlot.toUInt32
  let (out, pos) ← puts out pos (ascii " PAIRED=")
  let (out, pos) ← puts out pos (if state.paired then ascii "1" else ascii "0")
  let (out, pos) ← puts out pos (ascii " CONN=")
  let (out, pos) ← puts out pos (if state.connected then ascii "1" else ascii "0")
  let (out, pos) ← puts out pos (ascii " CH=")
  let (out, pos) ← writeU32 out pos state.device.channel.toUInt32
  let (out, pos) ← puts out pos (ascii " CNT=")
  let (out, pos) ← writeU32 out pos state.device.aesCounter
  puts out pos (ascii "\r\n")

def formatSwitched (out : List UInt8) (slot : UInt8) (connected : Bool) : Written := do
  let (out, pos) ← puts out 0 (ascii "SWITCHED ")
  let (out, pos) ← writeU32 out pos slot.toUInt32
  let (out, pos) ← puts out pos (if connected then ascii " CONNECTED" else ascii " NOCONN")
  puts out pos (ascii "\r\n")

def formatSwitchedEmpty (out : List UInt8) (slot : UInt8) : Written := do
  let (out, pos) ← puts out 0 (ascii "SWITCHED ")
  let (out, pos) ← writeU32 out pos slot.toUInt32
  let (out, pos) ← puts out pos (ascii " EMPTY")
  puts out pos (ascii "\r\n")

/-! ## What the buffers hold -/

/-- The buffer starts with `text` and is written up to its end. -/
def Wrote (size : Nat) (text : List UInt8) (written : Written) : Prop :=
  ∃ out, written = some (out, text.length) ∧ out.length = size ∧ out.take text.length = text

theorem Wrote.start (size : Nat) : Wrote size [] (some (List.replicate size 0, 0)) :=
  ⟨_, rfl, List.length_replicate, rfl⟩

theorem Wrote.puts {size : Nat} {text : List UInt8} {out : List UInt8} {pos : Nat}
    (wrote : Wrote size text (some (out, pos))) (bytes : List UInt8)
    (room : text.length + bytes.length ≤ size) :
    Wrote size (text ++ bytes) (puts out pos bytes) := by
  induction bytes generalizing text out pos with
  | nil => simpa [Radio.puts] using wrote
  | cons byte rest ih =>
      obtain ⟨_, same, length, start⟩ := wrote
      obtain ⟨rfl, rfl⟩ := Prod.mk.inj (Option.some.inj same)
      rw [List.length_cons] at room
      rw [Radio.puts, put, if_pos (by omega)]
      have next :
          Wrote size (text ++ [byte]) (some (out.set text.length byte, text.length + 1)) := by
        refine ⟨out.set text.length byte, by rw [List.length_append]; rfl, by simpa using length,
          ?_⟩
        rw [List.length_append, List.length_singleton, List.take_add_one,
          List.take_set_of_le (Nat.le_refl _), start]
        simp [show text.length < out.length by omega]
      have done := ih next (by simp; omega)
      rw [List.append_assoc] at done
      exact done

/-- A text that fits is written into a fresh buffer. -/
theorem Wrote.of_puts {size : Nat} {text : List UInt8} (short : text.length ≤ size) :
    Wrote size text (Radio.puts (List.replicate size 0) 0 text) := by
  apply (Wrote.start size).puts text
  rw [List.length_nil, Nat.zero_add]
  exact short

/-- Bytes behind bytes are all of them at once. -/
theorem puts_andThen (out : List UInt8) (pos : Nat) (first second : List UInt8) :
    (puts out pos first >>= fun (out, pos) => puts out pos second) =
      puts out pos (first ++ second) := by
  induction first generalizing out pos with
  | nil => rfl
  | cons byte rest ih =>
      rw [List.cons_append, puts, puts]
      change ((put out pos byte).bind _).bind _ = _
      rw [Option.bind_assoc]
      apply congrArg
      funext out
      exact ih out (pos + 1)

/-- The decimal digits of a number. -/
def numeral (value : UInt32) : List UInt8 :=
  if value = 0 then [0x30] else (digits 10 value).reverse

theorem writeU32_eq (out : List UInt8) (pos : Nat) (value : UInt32) :
    writeU32 out pos value = puts out pos (numeral value) := by
  unfold writeU32 numeral
  split <;> rfl

theorem digits_length (room : Nat) (value : UInt32) : (digits room value).length ≤ room := by
  induction room generalizing value with
  | zero => exact Nat.le_refl 0
  | succ room ih =>
      rw [digits]
      split
      · exact Nat.zero_le _
      · exact Nat.succ_le_succ (ih _)

theorem numeral_length (value : UInt32) : (numeral value).length ≤ 10 := by
  unfold numeral
  split
  · exact Nat.le_of_ble_eq_true rfl
  · rw [List.length_reverse]
    exact digits_length 10 value

def hexDigits (byte : UInt8) : List UInt8 := [hexDigit (byte >>> 4), hexDigit (byte &&& 0x0F)]

theorem hexByte_eq (out : List UInt8) (index : Nat) (byte : UInt8) :
    (hexByte out index byte).map (·, index + 2) = puts out index (hexDigits byte) := by
  simp only [hexByte, hexDigits, puts]
  cases put out index (hexDigit (byte >>> 4)) with
  | none => rfl
  | some out =>
      simp only [Option.bind_some]
      cases put out (index + 1) (hexDigit (byte &&& 0x0F)) <;> rfl

theorem writeAddress_eq (out : List UInt8) (pos : Nat) (address : List UInt8) :
    writeAddress out pos address = puts out pos (address.flatMap hexDigits) := by
  induction address generalizing out pos with
  | nil => rfl
  | cons byte rest ih =>
      rw [writeAddress, List.flatMap_cons, ← puts_andThen, ← hexByte_eq]
      cases hexByte out pos byte with
      | none => rfl
      | some out => exact ih out (pos + 2)

theorem flatMap_hexDigits_length (bytes : List UInt8) :
    (bytes.flatMap hexDigits).length = 2 * bytes.length := by
  induction bytes with
  | nil => rfl
  | cons byte rest ih =>
      rw [List.flatMap_cons, List.length_append, ih, List.length_cons]
      simp [hexDigits]
      omega

/-! ## The reply lines -/

section Formats

variable (out : List UInt8)

theorem formatTyped_eq (ok total : UInt32) :
    formatTyped out ok total = puts out 0
      (ascii "TYPED " ++ numeral ok ++ ascii "/" ++ numeral total ++ ascii "\r\n") := by
  unfold formatTyped
  simp only [writeU32_eq, puts_andThen, List.append_assoc]

theorem formatTyped_wrote (ok total : UInt32) :
    Wrote 48 (ascii "TYPED " ++ numeral ok ++ ascii "/" ++ numeral total ++ ascii "\r\n")
      (formatTyped (List.replicate 48 0) ok total) := by
  have okBound := numeral_length ok
  have totalBound := numeral_length total
  rw [formatTyped_eq]
  apply Wrote.of_puts
  simp [ascii]
  omega

theorem formatPaired_eq (address : Vector UInt8 5) (channel : UInt8) :
    formatPaired out address channel = puts out 0
      (ascii "PAIRED " ++ address.toList.flatMap hexDigits ++ ascii " CH=" ++
        numeral channel.toUInt32 ++ ascii "\r\n") := by
  unfold formatPaired
  simp only [writeU32_eq, writeAddress_eq, puts_andThen, List.append_assoc]

theorem formatPaired_wrote (address : Vector UInt8 5) (channel : UInt8) :
    Wrote 64 (ascii "PAIRED " ++ address.toList.flatMap hexDigits ++ ascii " CH=" ++
        numeral channel.toUInt32 ++ ascii "\r\n")
      (formatPaired (List.replicate 64 0) address channel) := by
  have bound := numeral_length channel.toUInt32
  have length : (address.toList.flatMap hexDigits).length = 10 := by
    rw [flatMap_hexDigits_length, Vector.length_toList]
  rw [formatPaired_eq]
  apply Wrote.of_puts
  simp [ascii, length]
  omega

theorem formatConnected_eq (channel : UInt8) :
    formatConnected out channel = puts out 0
      (ascii "CONNECTED CH=" ++ numeral channel.toUInt32 ++ ascii "\r\n") := by
  unfold formatConnected
  simp only [writeU32_eq, puts_andThen, List.append_assoc]

theorem formatConnected_wrote (channel : UInt8) :
    Wrote 32 (ascii "CONNECTED CH=" ++ numeral channel.toUInt32 ++ ascii "\r\n")
      (formatConnected (List.replicate 32 0) channel) := by
  have bound := numeral_length channel.toUInt32
  rw [formatConnected_eq]
  apply Wrote.of_puts
  simp [ascii]
  omega

theorem formatRadiotest_eq (encoding : UInt8) (acks : UInt32) :
    formatRadiotest out encoding acks = puts out 0
      (ascii "RADIOTEST ENC=" ++ numeral encoding.toUInt32 ++ ascii " ACKS=" ++
        numeral acks ++ ascii "\r\n") := by
  unfold formatRadiotest
  simp only [writeU32_eq, puts_andThen, List.append_assoc]

theorem formatRadiotest_wrote (encoding : UInt8) (acks : UInt32) :
    Wrote 48 (ascii "RADIOTEST ENC=" ++ numeral encoding.toUInt32 ++ ascii " ACKS=" ++
        numeral acks ++ ascii "\r\n")
      (formatRadiotest (List.replicate 48 0) encoding acks) := by
  have encodingBound := numeral_length encoding.toUInt32
  have acksBound := numeral_length acks
  rw [formatRadiotest_eq]
  apply Wrote.of_puts
  simp [ascii]
  omega

theorem formatStatus_eq {W : Type} (state : UnifyingState W) :
    formatStatus out state = puts out 0
      (ascii "STATUS SLOT=" ++ numeral state.activeSlot.toUInt32 ++ ascii " PAIRED=" ++
        (if state.paired then ascii "1" else ascii "0") ++ ascii " CONN=" ++
        (if state.connected then ascii "1" else ascii "0") ++ ascii " CH=" ++
        numeral state.device.channel.toUInt32 ++ ascii " CNT=" ++
        numeral state.device.aesCounter ++ ascii "\r\n") := by
  unfold formatStatus
  simp only [writeU32_eq, puts_andThen, List.append_assoc]

theorem formatStatus_wrote {W : Type} (state : UnifyingState W) :
    Wrote 96 (ascii "STATUS SLOT=" ++ numeral state.activeSlot.toUInt32 ++ ascii " PAIRED=" ++
        (if state.paired then ascii "1" else ascii "0") ++ ascii " CONN=" ++
        (if state.connected then ascii "1" else ascii "0") ++ ascii " CH=" ++
        numeral state.device.channel.toUInt32 ++ ascii " CNT=" ++
        numeral state.device.aesCounter ++ ascii "\r\n")
      (formatStatus (List.replicate 96 0) state) := by
  have slot := numeral_length state.activeSlot.toUInt32
  have channel := numeral_length state.device.channel.toUInt32
  have counter := numeral_length state.device.aesCounter
  have flag (b : Bool) : (if b then ascii "1" else ascii "0").length = 1 := by cases b <;> rfl
  rw [formatStatus_eq]
  apply Wrote.of_puts
  simp only [List.length_append, flag]
  simp [ascii]
  omega

theorem formatSwitched_eq (slot : UInt8) (connected : Bool) :
    formatSwitched out slot connected = puts out 0
      (ascii "SWITCHED " ++ numeral slot.toUInt32 ++
        (if connected then ascii " CONNECTED" else ascii " NOCONN") ++ ascii "\r\n") := by
  unfold formatSwitched
  simp only [writeU32_eq, puts_andThen, List.append_assoc]

theorem formatSwitched_wrote (slot : UInt8) (connected : Bool) :
    Wrote 48 (ascii "SWITCHED " ++ numeral slot.toUInt32 ++
        (if connected then ascii " CONNECTED" else ascii " NOCONN") ++ ascii "\r\n")
      (formatSwitched (List.replicate 48 0) slot connected) := by
  have bound := numeral_length slot.toUInt32
  have link : (if connected then ascii " CONNECTED" else ascii " NOCONN").length ≤ 10 := by
    cases connected <;> decide
  rw [formatSwitched_eq]
  apply Wrote.of_puts
  simp only [List.length_append]
  simp [ascii] at link ⊢
  omega

theorem formatSwitchedEmpty_eq (slot : UInt8) :
    formatSwitchedEmpty out slot = puts out 0
      (ascii "SWITCHED " ++ numeral slot.toUInt32 ++ ascii " EMPTY" ++ ascii "\r\n") := by
  unfold formatSwitchedEmpty
  simp only [writeU32_eq, puts_andThen, List.append_assoc]

theorem formatSwitchedEmpty_wrote (slot : UInt8) :
    Wrote 48 (ascii "SWITCHED " ++ numeral slot.toUInt32 ++ ascii " EMPTY" ++ ascii "\r\n")
      (formatSwitchedEmpty (List.replicate 48 0) slot) := by
  have bound := numeral_length slot.toUInt32
  rw [formatSwitchedEmpty_eq]
  apply Wrote.of_puts
  simp [ascii]
  omega

end Formats

end NrfUnifying.Radio
