import NrfUnifying.Lib.Numerals
import NrfUnifying.Radio.Commands

/-!
# What a command replies

`Body` lists the texts that a command can write and `Answers` what each line is
answered with: one text, but for the empty line and the radio self-test. What
holds of all replies is read off the texts; so `IsLine`, which is what the
transport can carry: a text without line breaks, then CR and LF.
-/

namespace NrfUnifying.Radio

open Lib Lib.Bytes Storage

def NoBreak (text : List UInt8) : Prop := ∀ byte ∈ text, byte ≠ 0x0D ∧ byte ≠ 0x0A

instance (text : List UInt8) : Decidable (NoBreak text) := List.decidableBAll _ text

/-- One non-empty line that ends in CRLF and fits the reply buffer. -/
structure IsLine (body : List UInt8) : Prop where
  nonempty : 2 < body.length
  fits : body.length ≤ replyLimit
  ends : body.drop (body.length - 2) = ascii "\r\n"
  noBreak : NoBreak (body.take (body.length - 2))

instance (body : List UInt8) : Decidable (IsLine body) :=
  decidable_of_iff (2 < body.length ∧ body.length ≤ replyLimit ∧
      body.drop (body.length - 2) = ascii "\r\n" ∧ NoBreak (body.take (body.length - 2)))
    ⟨fun ⟨nonempty, fits, ends, noBreak⟩ => ⟨nonempty, fits, ends, noBreak⟩,
      fun line => ⟨line.nonempty, line.fits, line.ends, line.noBreak⟩⟩

theorem NoBreak.append {first second : List UInt8} (front : NoBreak first) (back : NoBreak second) :
    NoBreak (first ++ second) := by
  intro byte member
  rcases List.mem_append.mp member with inside | inside
  · exact front byte inside
  · exact back byte inside

theorem IsLine.of_text {text : List UInt8} (nonempty : 0 < text.length)
    (fits : text.length + 2 ≤ replyLimit) (noBreak : NoBreak text) :
    IsLine (text ++ ascii "\r\n") := by
  have length : (text ++ ascii "\r\n").length = text.length + 2 := List.length_append
  refine ⟨by omega, by omega, ?_, ?_⟩
  · rw [length, Nat.add_sub_cancel, List.drop_left]
  · rwa [length, Nat.add_sub_cancel, List.take_left]

/-- A line fits the empty reply. -/
theorem IsLine.write_empty {body : List UInt8} (line : IsLine body) :
    (({} : ReplySink).write body).bytes = body := by
  unfold ReplySink.write
  dsimp only
  rw [if_neg]
  · exact List.nil_append body
  · rw [List.length_nil, Nat.zero_add]
    exact Nat.not_lt.mpr line.fits

theorem NoBreak.digits (room : Nat) (value : UInt32) : NoBreak (digits room value) := by
  induction room generalizing value with
  | zero => exact fun _ member => absurd member List.not_mem_nil
  | succ room ih =>
      rw [Radio.digits]
      split
      · exact fun _ member => absurd member List.not_mem_nil
      · intro byte member
        rcases List.mem_cons.mp member with rfl | rest
        · have small : (value % 10).toNat < 10 := by
            rw [UInt32.toNat_mod]
            exact Nat.mod_lt _ (by decide)
          have digit : (0x30 + (value % 10).toUInt8).toNat = 0x30 + (value % 10).toNat := by
            rw [UInt8.toNat_add, UInt32.toNat_toUInt8]
            change (0x30 + (value % 10).toNat % 256) % 256 = _
            omega
          constructor
          · intro cr
            have same := digit.symm.trans (congrArg UInt8.toNat cr)
            change 0x30 + (value % 10).toNat = 13 at same
            omega
          · intro lf
            have same := digit.symm.trans (congrArg UInt8.toNat lf)
            change 0x30 + (value % 10).toNat = 10 at same
            omega
        · exact ih _ byte rest

theorem NoBreak.numeral (value : UInt32) : NoBreak (numeral value) := by
  rw [Radio.numeral]
  split
  · decide
  · intro byte member
    exact NoBreak.digits 10 value byte (List.mem_reverse.mp member)

theorem hexDigit_noBreak (nibble : UInt8) : hexDigit nibble ≠ 0x0D ∧ hexDigit nibble ≠ 0x0A := by
  have all : NoBreak (ascii "0123456789ABCDEF") := by decide
  rw [hexDigit, List.getD_eq_getElem?_getD]
  cases found : (ascii "0123456789ABCDEF")[nibble.toNat]? with
  | none => decide
  | some digit => exact all digit (List.mem_of_getElem? found)

theorem NoBreak.hexDigits (bytes : List UInt8) : NoBreak (bytes.flatMap hexDigits) := by
  intro digit member
  obtain ⟨byte, _, inside⟩ := List.mem_flatMap.mp member
  rcases List.mem_cons.mp inside with rfl | inside
  · exact hexDigit_noBreak _
  · rw [List.mem_singleton.mp inside]
    exact hexDigit_noBreak _

theorem NoBreak.decimal (value : Nat) : NoBreak (decimal value) := by
  intro byte member
  obtain ⟨char, inside, rfl⟩ := List.mem_map.mp member
  have digit := Nat.isDigit_of_mem_toDigits (by decide) (by decide) inside
  rw [Char.isDigit, Bool.and_eq_true, decide_eq_true_eq, decide_eq_true_eq] at digit
  have low : 48 ≤ char.toNat := digit.1
  have high : char.toNat ≤ 57 := digit.2
  have value : char.toNat.toUInt8.toNat = char.toNat := by
    rw [Nat.toUInt8_eq, UInt8.toNat_ofNat', Nat.mod_eq_of_lt (by omega)]
  constructor
  · intro cr
    rw [cr] at value
    change 13 = char.toNat at value
    omega
  · intro lf
    rw [lf] at value
    change 10 = char.toNat at value
    omega

theorem decimal_length {value : Nat} (word : value < 2 ^ 64) : (decimal value).length ≤ 20 :=
  Numerals.decimal_length_le (by decide) (Nat.lt_trans word (by decide))

/-! ## The formatted lines -/

theorem isLine_typed (ok total : UInt32) :
    IsLine (ascii "TYPED " ++ numeral ok ++ ascii "/" ++ numeral total ++ ascii "\r\n") := by
  have okBound := numeral_length ok
  have totalBound := numeral_length total
  refine .of_text (by simp [ascii]) ?_ ?_
  · simp [ascii, replyLimit]
    omega
  · exact ((NoBreak.append (by decide) (.numeral ok)).append (by decide)).append (.numeral total)

theorem isLine_paired (address : Vector UInt8 5) (channel : UInt8) :
    IsLine (ascii "PAIRED " ++ address.toList.flatMap hexDigits ++ ascii " CH=" ++
      numeral channel.toUInt32 ++ ascii "\r\n") := by
  have bound := numeral_length channel.toUInt32
  have length : (address.toList.flatMap hexDigits).length = 10 := by
    rw [flatMap_hexDigits_length, Vector.length_toList]
  refine .of_text (by simp [ascii]) ?_ ?_
  · simp [ascii, replyLimit, length]
    omega
  · exact ((NoBreak.append (by decide) (.hexDigits _)).append (by decide)).append (.numeral _)

theorem isLine_connected (channel : UInt8) :
    IsLine (ascii "CONNECTED CH=" ++ numeral channel.toUInt32 ++ ascii "\r\n") := by
  have bound := numeral_length channel.toUInt32
  refine .of_text (by simp [ascii]) ?_ (NoBreak.append (by decide) (.numeral _))
  simp [ascii, replyLimit]
  omega

theorem isLine_status {W : Type} (state : UnifyingState W) :
    IsLine (ascii "STATUS SLOT=" ++ numeral state.activeSlot.toUInt32 ++ ascii " PAIRED=" ++
      (if state.paired then ascii "1" else ascii "0") ++ ascii " CONN=" ++
      (if state.connected then ascii "1" else ascii "0") ++ ascii " CH=" ++
      numeral state.device.channel.toUInt32 ++ ascii " CNT=" ++
      numeral state.device.aesCounter ++ ascii "\r\n") := by
  have slot := numeral_length state.activeSlot.toUInt32
  have channel := numeral_length state.device.channel.toUInt32
  have counter := numeral_length state.device.aesCounter
  have length (flag : Bool) : (if flag then ascii "1" else ascii "0").length = 1 := by
    cases flag <;> rfl
  have flags (flag : Bool) : NoBreak (if flag then ascii "1" else ascii "0") := by
    cases flag <;> decide
  refine .of_text (by simp [ascii]) ?_ ?_
  · simp only [List.length_append, length]
    simp [ascii, replyLimit]
    omega
  · exact (((((((((NoBreak.append (by decide) (.numeral _)).append (by decide)).append
      (flags _)).append (by decide)).append (flags _)).append (by decide)).append
      (.numeral _)).append (by decide)).append (.numeral _))

theorem isLine_switched (slot : UInt8) (connected : Bool) :
    IsLine (ascii "SWITCHED " ++ numeral slot.toUInt32 ++
      (if connected then ascii " CONNECTED" else ascii " NOCONN") ++ ascii "\r\n") := by
  have bound := numeral_length slot.toUInt32
  refine .of_text (by simp [ascii]) ?_ ?_
  · cases connected <;> simp [ascii, replyLimit] <;> omega
  · refine (NoBreak.append (by decide) (.numeral _)).append ?_
    cases connected <;> decide

theorem isLine_switchedEmpty (slot : UInt8) :
    IsLine (ascii "SWITCHED " ++ numeral slot.toUInt32 ++ ascii " EMPTY" ++ ascii "\r\n") := by
  have bound := numeral_length slot.toUInt32
  refine .of_text (by simp [ascii]) ?_ ?_
  · simp [ascii, replyLimit]
    omega
  · exact (NoBreak.append (by decide) (.numeral _)).append (by decide)

theorem isLine_version {buildTime : Nat} (word : buildTime < 2 ^ 64) :
    IsLine (versionReply buildTime) := by
  have bound := decimal_length word
  refine .of_text (by simp [ascii]) ?_ (NoBreak.append (by decide) (.decimal _))
  simp [ascii, replyLimit]
  omega

/-! ## The texts of the commands -/

/-- The replies to arguments that a command does not take. -/
def refusals : List (List UInt8) := [ascii "ERR SLOT\r\n", ascii "ERR ARG\r\n"]

/-- The replies without a number in them. -/
def fixedTexts : List (List UInt8) := [ascii "ERR RADIO\r\n", ascii "ERR PAIR\r\n",
  ascii "ERR NOTPAIRED\r\n", ascii "ERR CONNECT\r\n", ascii "ERR NOTCONN\r\n", ascii "TICK\r\n",
  ascii "SLEEP\r\n", ascii "DELETED\r\n", ascii "DELETED ALL\r\n", commandList, sendReply true,
  sendReply false]

/-- What a command can write past the checks of its arguments. -/
inductive Accepted (buildTime : Nat) : List UInt8 → Prop where
  | fixed {text : List UInt8} (listed : text ∈ fixedTexts) : Accepted buildTime text
  | version : Accepted buildTime (versionReply buildTime)
  | typed (ok total : UInt32) : Accepted buildTime
      (ascii "TYPED " ++ numeral ok ++ ascii "/" ++ numeral total ++ ascii "\r\n")
  | paired (address : Vector UInt8 5) (channel : UInt8) : Accepted buildTime
      (ascii "PAIRED " ++ address.toList.flatMap hexDigits ++ ascii " CH=" ++
        numeral channel.toUInt32 ++ ascii "\r\n")
  | connected (channel : UInt8) : Accepted buildTime
      (ascii "CONNECTED CH=" ++ numeral channel.toUInt32 ++ ascii "\r\n")
  | status {W : Type} (state : UnifyingState W) : Accepted buildTime
      (ascii "STATUS SLOT=" ++ numeral state.activeSlot.toUInt32 ++ ascii " PAIRED=" ++
        (if state.paired then ascii "1" else ascii "0") ++ ascii " CONN=" ++
        (if state.connected then ascii "1" else ascii "0") ++ ascii " CH=" ++
        numeral state.device.channel.toUInt32 ++ ascii " CNT=" ++
        numeral state.device.aesCounter ++ ascii "\r\n")
  | switched (slot : UInt8) (connected : Bool) : Accepted buildTime
      (ascii "SWITCHED " ++ numeral slot.toUInt32 ++
        (if connected then ascii " CONNECTED" else ascii " NOCONN") ++ ascii "\r\n")
  | switchedEmpty (slot : UInt8) : Accepted buildTime
      (ascii "SWITCHED " ++ numeral slot.toUInt32 ++ ascii " EMPTY" ++ ascii "\r\n")

/-- What a command other than the self-test can write. -/
inductive Body (buildTime : Nat) : List UInt8 → Prop where
  | refused {text : List UInt8} (listed : text ∈ refusals) : Body buildTime text
  | accepted {text : List UInt8} (accepted : Accepted buildTime text) : Body buildTime text

def radiotestLine (encoding : UInt8) (acks : UInt32) : List UInt8 :=
  ascii "RADIOTEST ENC=" ++ numeral encoding.toUInt32 ++ ascii " ACKS=" ++ numeral acks ++
    ascii "\r\n"

/-- What a line is answered with, one text after another. -/
inductive Answers (buildTime : Nat) : (line : List UInt8) → List (List UInt8) → Prop where
  | nothing : Answers buildTime [] []
  | one {line body : List UInt8} (nonempty : line ≠ []) (other : line ≠ ascii "URADIOTEST")
      (text : Body buildTime body) : Answers buildTime line [body]
  | noRadio : Answers buildTime (ascii "URADIOTEST") [ascii "ERR RADIO\r\n"]
  | tested {acks : List UInt32} (whole : acks.length = EsbRadio.addrEncodings) :
      Answers buildTime (ascii "URADIOTEST")
        (List.zipWith radiotestLine addrEncodings acks ++ [ascii "RADIOTEST DONE\r\n"])

theorem Accepted.sendReply {buildTime : Nat} (ok : Bool) :
    Accepted buildTime (sendReply ok) := by
  cases ok with
  | true => exact .fixed (by simp [fixedTexts])
  | false => exact .fixed (by simp [fixedTexts])

theorem Accepted.isLine {buildTime : Nat} {text : List UInt8} (word : buildTime < 2 ^ 64)
    (accepted : Accepted buildTime text) : IsLine text := by
  have fixed : ∀ text ∈ fixedTexts, IsLine text := by decide +kernel
  cases accepted with
  | fixed listed => exact fixed text listed
  | version => exact isLine_version word
  | typed ok total => exact isLine_typed ok total
  | paired address channel => exact isLine_paired address channel
  | connected channel => exact isLine_connected channel
  | status state => exact isLine_status state
  | switched slot connected => exact isLine_switched slot connected
  | switchedEmpty slot => exact isLine_switchedEmpty slot

theorem Body.isLine {buildTime : Nat} {text : List UInt8} (word : buildTime < 2 ^ 64)
    (body : Body buildTime text) : IsLine text := by
  have refused : ∀ text ∈ refusals, IsLine text := by decide
  cases body with
  | refused listed => exact refused text listed
  | accepted accepted => exact accepted.isLine word

/-- Past the checks no command complains of its arguments. -/
theorem Accepted.not_refusal {buildTime : Nat} {text : List UInt8}
    (accepted : Accepted buildTime text) : text ∉ refusals := by
  have fixed : ∀ text ∈ fixedTexts, text ∉ refusals := by decide +kernel
  cases accepted with
  | fixed listed => exact fixed text listed
  | version => simp [refusals, versionReply, ascii]
  | typed ok total => simp [refusals, ascii]
  | paired address channel => simp [refusals, ascii]
  | connected channel => simp [refusals, ascii]
  | status state => simp [refusals, ascii]
  | switched slot connected => simp [refusals, ascii]
  | switchedEmpty slot => simp [refusals, ascii]

/-! ## Each command -/

/-- A command comes to its end and has written one of some texts. -/
def Replies {W : Type} (texts : List UInt8 → Prop) (before : Handler W)
    (result : Option (Handler W)) : Prop :=
  ∃ after body, result = some after ∧ texts body ∧ after.sink = before.sink.write body

section Commands

variable {W : Type} {handler other : Handler W} {body : List UInt8} {texts : List UInt8 → Prop}

theorem writeOut_of_wrote {size : Nat} {text : List UInt8} {written : Written}
    (wrote : Wrote size text written) (handler : Handler W) :
    handler.writeOut written = some (handler.write text) := by
  obtain ⟨out, rfl, length, start⟩ := wrote
  have inside : text.length ≤ out.length := by
    rw [← start, List.length_take]
    exact Nat.min_le_right _ _
  rw [Handler.writeOut, Option.bind_some]
  dsimp only
  rw [if_pos inside, start]

theorem Replies.write (same : other.sink = handler.sink) (text : texts body) :
    Replies texts handler (some (other.write body)) :=
  ⟨_, body, rfl, text, by rw [Handler.write, same]⟩

theorem Replies.writeOut {size : Nat} {written : Written} (wrote : Wrote size body written)
    (same : other.sink = handler.sink) (text : texts body) :
    Replies texts handler (other.writeOut written) := by
  rw [writeOut_of_wrote wrote]
  exact .write same text

theorem saveIfPaired_sink (handler : Handler W) : handler.saveIfPaired.sink = handler.sink := by
  rw [Handler.saveIfPaired]
  split <;> rfl

theorem Replies.saveIfPaired {result : Option (Handler W)}
    (replies : Replies texts handler result) :
    Replies texts handler (result.map Handler.saveIfPaired) := by
  obtain ⟨after, body, rfl, text, sink⟩ := replies
  exact ⟨_, body, rfl, text, (saveIfPaired_sink after).trans sink⟩

theorem Replies.accepted {buildTime : Nat} {result : Option (Handler W)}
    (replies : Replies (Accepted buildTime) handler result) :
    Replies (Body buildTime) handler result := by
  obtain ⟨after, body, done, text, sink⟩ := replies
  exact ⟨after, body, done, .accepted text, sink⟩

theorem Replies.refused {buildTime : Nat} (same : other.sink = handler.sink)
    (listed : body ∈ refusals) : Replies (Body buildTime) handler (some (other.write body)) :=
  .write same (.refused listed)

/-- A command that replies a text without numbers. -/
theorem Replies.fixed {buildTime : Nat} (same : other.sink = handler.sink)
    (listed : body ∈ fixedTexts) : Replies (Accepted buildTime) handler (some (other.write body)) :=
  .write same (.fixed listed)

variable [Board W] [RustUnifying W] (handler) (line rest : List UInt8) (buildTime : Nat)

theorem Handler.pairInto_replies (slot : UInt8) :
    Replies (Accepted buildTime) handler (handler.pairInto slot) := by
  unfold Handler.pairInto
  dsimp only
  split
  · exact .fixed rfl (by decide)
  split
  · exact .writeOut (formatPaired_wrote _ _) rfl (.paired _ _)
  · exact .fixed rfl (by decide)

theorem Handler.upair_replies : Replies (Body buildTime) handler (handler.upair line) := by
  unfold Handler.upair
  split
  · exact .refused rfl (by decide)
  · exact (handler.pairInto_replies buildTime _).accepted

theorem Handler.uconnect_replies : Replies (Accepted buildTime) handler handler.uconnect := by
  unfold Handler.uconnect
  split
  · exact .fixed rfl (by decide)
  split
  · exact .fixed rfl (by decide)
  split
  · exact .writeOut (formatConnected_wrote _) rfl (.connected _)
  · exact .fixed rfl (by decide)

omit [Board W] in
theorem Handler.ukeepalive_replies :
    Replies (Accepted buildTime) handler (some handler.ukeepalive) := by
  unfold Handler.ukeepalive
  split
  · exact .fixed rfl (by decide)
  · exact .fixed rfl (by decide)

omit [RustUnifying W] in
theorem Handler.usleep_replies : Replies (Accepted buildTime) handler (some handler.usleep) := by
  unfold Handler.usleep
  refine .fixed ?_ (by decide)
  split
  · exact saveIfPaired_sink _
  · rfl

omit [Board W] [RustUnifying W] in
theorem Handler.udelete_replies :
    Replies (Body buildTime) handler (some (handler.udelete line)) := by
  unfold Handler.udelete
  split
  · split
    · exact Replies.accepted (.fixed rfl (by decide))
    · exact .refused rfl (by decide)
  · exact Replies.accepted (.fixed rfl (by decide))

omit [Board W] in
theorem Handler.switchInto_replies (slot : UInt8) :
    Replies (Accepted buildTime) handler (handler.switchInto slot) := by
  unfold Handler.switchInto
  split
  · split
    · exact .writeOut (formatSwitched_wrote _ _) rfl (.switched _ _)
    · exact .fixed rfl (by decide)
  · exact .writeOut (formatSwitchedEmpty_wrote _) rfl (.switchedEmpty _)

omit [Board W] in
theorem Handler.uswitch_replies : Replies (Body buildTime) handler (handler.uswitch rest) := by
  unfold Handler.uswitch
  split
  · exact .refused rfl (by decide)
  · exact (handler.switchInto_replies buildTime _).accepted

theorem Handler.ukey_replies : Replies (Body buildTime) handler (some (handler.ukey rest)) := by
  unfold Handler.ukey
  split
  · exact Replies.accepted (.fixed rfl (by decide))
  dsimp only
  split
  · exact .refused rfl (by decide)
  · exact Replies.accepted (.write (saveIfPaired_sink _) (.sendReply _))

omit [Board W] in
theorem Handler.keyDown_sink (modifier : UInt8) (keys : Keys) :
    (handler.keyDown modifier keys).sink =
      handler.sink.write (sendReply (sendReport handler.state keys modifier).1) := by
  rw [Handler.keyDown]
  generalize sendReport handler.state keys modifier = result
  obtain ⟨ok, state⟩ := result
  change ReplySink.write (Handler.sink (ite _ _ _)) _ = _
  split
  · rw [saveIfPaired_sink]
  · rfl

omit [Board W] in
theorem Handler.keyDown_replies (modifier : UInt8) (keys : Keys) :
    Replies (Accepted buildTime) handler (some (handler.keyDown modifier keys)) :=
  ⟨_, _, rfl, .sendReply _, handler.keyDown_sink modifier keys⟩

theorem Handler.ukeydown_replies :
    Replies (Body buildTime) handler (some (handler.ukeydown rest)) := by
  unfold Handler.ukeydown
  split
  · exact Replies.accepted (.fixed rfl (by decide))
  dsimp only
  split
  · exact .refused rfl (by decide)
  · exact (Handler.keyDown_replies { handler with state := handler.state.wake } buildTime _
      _).accepted

theorem Handler.utype_replies : Replies (Accepted buildTime) handler (handler.utype rest) := by
  unfold Handler.utype
  split
  · exact .fixed rfl (by decide)
  · exact (Replies.writeOut (formatTyped_wrote _ _) rfl (.typed _ _)).saveIfPaired

theorem Handler.handleArguments_replies :
    Replies (Body buildTime) handler (handler.handleArguments line) := by
  unfold Handler.handleArguments
  split
  · exact handler.uswitch_replies _ buildTime
  split
  · exact handler.ukey_replies _ buildTime
  split
  · exact handler.ukeydown_replies _ buildTime
  split
  · exact (handler.utype_replies _ buildTime).accepted
  · exact Replies.accepted (.fixed rfl (by decide +kernel))

/-- Every encoding is reported on a line of its own. -/
theorem Handler.testEncodings_writes (encodings : List UInt8) :
    ∃ after acks, encodings.foldlM Handler.testEncoding handler = some after ∧
      acks.length = encodings.length ∧
      after.sink = (List.zipWith radiotestLine encodings acks).foldl ReplySink.write
        handler.sink := by
  induction encodings generalizing handler with
  | nil => exact ⟨handler, [], rfl, rfl, rfl⟩
  | cons encoding rest ih =>
      rw [List.foldlM_cons, Handler.testEncoding]
      dsimp only
      rw [writeOut_of_wrote (formatRadiotest_wrote _ _)]
      obtain ⟨after, acks, others, length, sink⟩ := ih _
      exact ⟨after, _ :: acks, others, congrArg (· + 1) length, sink⟩

/-- Every line is handled to its end, with the answer that is due. -/
theorem handleUnifyingCommand_writes :
    ∃ after bodies, handleUnifyingCommand buildTime handler line = some after ∧
      Answers buildTime line bodies ∧ after.sink = bodies.foldl ReplySink.write handler.sink := by
  by_cases empty : line = []
  · subst empty
    exact ⟨handler, [], rfl, .nothing, rfl⟩
  by_cases selfTest : line = ascii "URADIOTEST"
  · subst selfTest
    change ∃ after bodies, handler.uradiotest = some after ∧ _
    unfold Handler.uradiotest
    split
    · exact ⟨_, _, rfl, .noRadio, rfl⟩
    next device _ =>
      obtain ⟨after, acks, tested, length, sink⟩ :=
        (handler.setDevice device).testEncodings_writes addrEncodings
      rw [tested]
      refine ⟨_, _, rfl, .tested length, ?_⟩
      rw [List.foldl_append]
      exact congrArg (ReplySink.write · (ascii "RADIOTEST DONE\r\n")) sink
  have replies : Replies (Body buildTime) handler
      (handleUnifyingCommand buildTime handler line) := by
    rw [handleUnifyingCommand, if_neg (by simpa using empty), if_neg selfTest]
    split
    · exact handler.upair_replies line buildTime
    split
    · exact (handler.uconnect_replies buildTime).accepted
    split
    · exact (handler.ukeepalive_replies buildTime).accepted
    split
    · exact (handler.usleep_replies buildTime).accepted
    split
    · exact Replies.accepted (.writeOut (formatStatus_wrote _) rfl (.status _))
    split
    · exact Replies.accepted (.write rfl .version)
    split
    · exact handler.udelete_replies line buildTime
    · exact handler.handleArguments_replies line buildTime
  obtain ⟨after, body, done, text, sink⟩ := replies
  exact ⟨after, [body], done, .one empty selfTest text, sink⟩

/-- Every command line but the empty one and the self-test is answered by one line. -/
theorem handleUnifyingCommand_replies {buildTime : Nat} (word : buildTime < 2 ^ 64)
    (nonempty : line ≠ []) (other : line ≠ ascii "URADIOTEST") :
    Replies IsLine handler (handleUnifyingCommand buildTime handler line) := by
  obtain ⟨after, bodies, done, answers, sink⟩ :=
    handleUnifyingCommand_writes handler line buildTime
  cases answers with
  | nothing => exact absurd rfl nonempty
  | one _ _ body => exact ⟨after, _, done, body.isLine word, sink⟩
  | noRadio => exact absurd rfl other
  | tested _ => exact absurd rfl other

/-- No command panics. -/
theorem handleUnifyingCommand_isSome :
    (handleUnifyingCommand buildTime handler line).isSome = true := by
  obtain ⟨after, bodies, done, -⟩ := handleUnifyingCommand_writes handler line buildTime
  rw [done]
  rfl

end Commands

/-! ## The reply -/

theorem ReplySink.write_bytes {sink : ReplySink} {data : List UInt8}
    (room : sink.bytes.length + data.length ≤ replyLimit) :
    (sink.write data).bytes = sink.bytes ++ data :=
  if_neg (Nat.not_lt.mpr room)

theorem ReplySink.writes_bytes {bodies : List (List UInt8)} {sink : ReplySink}
    (room : sink.bytes.length + bodies.flatten.length ≤ replyLimit) :
    (bodies.foldl ReplySink.write sink).bytes = sink.bytes ++ bodies.flatten := by
  induction bodies generalizing sink with
  | nil => exact (List.append_nil _).symm
  | cons data rest ih =>
      rw [List.flatten_cons, List.length_append] at room
      have taken : (sink.write data).bytes = sink.bytes ++ data := write_bytes (by omega)
      have room' : (sink.write data).bytes.length + rest.flatten.length ≤ replyLimit := by
        rw [taken, List.length_append]
        omega
      rw [List.foldl_cons, ih room', taken, List.flatten_cons, List.append_assoc]

theorem ReplySink.writes_writes (bodies : List (List UInt8)) (sink : ReplySink) :
    (bodies.foldl ReplySink.write sink).writes = sink.writes ++ bodies := by
  induction bodies generalizing sink with
  | nil => exact (List.append_nil _).symm
  | cons data rest ih =>
      rw [List.foldl_cons, ih]
      exact List.append_assoc _ _ _

theorem radiotestLine_length (encoding : UInt8) (acks : UInt32) :
    (radiotestLine encoding acks).length ≤ 48 := by
  obtain ⟨out, -, length, start⟩ := formatRadiotest_wrote encoding acks
  unfold radiotestLine
  rw [← start, ← length]
  exact (List.take_sublist _ _).length_le

theorem radiotestLines_length (encodings : List UInt8) (acks : List UInt32) :
    (List.zipWith radiotestLine encodings acks).flatten.length ≤ 48 * encodings.length := by
  induction encodings generalizing acks with
  | nil => exact Nat.zero_le _
  | cons encoding rest ih =>
      cases acks with
      | nil => exact Nat.zero_le _
      | cons first acks =>
          have line := radiotestLine_length encoding first
          have lines := ih acks
          rw [List.zipWith_cons_cons, List.flatten_cons, List.length_append, List.length_cons]
          omega

/-- All that a line is answered with fits the reply. -/
theorem Answers.fits {buildTime : Nat} (word : buildTime < 2 ^ 64) {line : List UInt8}
    {bodies : List (List UInt8)} (answers : Answers buildTime line bodies) :
    bodies.flatten.length ≤ replyLimit := by
  cases answers with
  | nothing => exact Nat.zero_le _
  | one _ _ body =>
      rw [List.flatten_singleton]
      exact (body.isLine word).fits
  | noRadio => decide
  | @tested acks whole =>
      have lines := radiotestLines_length addrEncodings acks
      have four : 48 * addrEncodings.length + (ascii "RADIOTEST DONE\r\n").length ≤ replyLimit := by
        decide
      rw [List.flatten_append, List.length_append, List.flatten_singleton]
      omega

/-- Only the empty line is answered with nothing. -/
theorem Answers.nonempty {buildTime : Nat} (word : buildTime < 2 ^ 64) {line : List UInt8}
    {bodies : List (List UInt8)} (answers : Answers buildTime line bodies) (some : line ≠ []) :
    bodies.flatten ≠ [] := by
  cases answers with
  | nothing => exact absurd rfl some
  | one _ _ body =>
      rw [List.flatten_singleton]
      have long := (body.isLine word).nonempty
      rintro rfl
      cases long
  | noRadio => decide
  | tested whole =>
      rw [List.flatten_append]
      exact List.append_ne_nil_of_right_ne_nil _ (by decide)

end NrfUnifying.Radio
