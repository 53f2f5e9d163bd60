import NrfUnifying.Lib.Numerals
import NrfUnifying.Uart.RoundTrip

/-!
# The diagnostic UART

A build for wire tests exchanges numbered pings instead of commands. Its parser
answers each line once: with the number of a peer's ping, or as bad at its LF, at
the first byte that spoils it, or when the hardware reports damage. A host reads
the counters as one line, which fits the buffer it is formatted in.
-/

namespace NrfUnifying.UartSmoke

open Lib.Bytes
open UartLink (stripCr replyDigit upperDigits numberOf numberDigit numberDigits)

def peerPrefix : List UInt8 := ascii "#RP2040 PING "

def txPrefix : List UInt8 := ascii "#NRF52840 PING "

def lineLimit : Nat := 32

/-- The ping of this board, built in a buffer of 24 bytes. -/
def encodePing (sequence : UInt32) : List UInt8 :=
  let out := txPrefix ++ (List.replicate 24 0).drop txPrefix.length
  let out := (List.range 8).foldl
    (fun out index => out.set (txPrefix.length + index) (replyDigit sequence index)) out
  out.set 23 0x0A

/-- Text into an output of `size` bytes, or an error. -/
def writeStr (size : Nat) (out text : List UInt8) : Option (List UInt8) :=
  if out.length + text.length > size then none else some (out ++ text)

/-- The report of the counters, piece by piece. -/
def responsePieces (values : Vector UInt32 6) : List (List UInt8) :=
  [ascii "UARTTEST rxbytes=", decimal values[0].toNat, ascii " peerframes=",
    decimal values[1].toNat, ascii " badframes=", decimal values[2].toNat, ascii " uart_errors=",
    decimal values[3].toNat, ascii " lastseq=", numberDigits values[4], ascii " txframes=",
    decimal values[5].toNat, ascii "\r\n"]

def formatResponse (values : Vector UInt32 6) (size : Nat) : Option (List UInt8) :=
  (responsePieces values).foldlM (writeStr size) []

inductive Frame where
  | peer (sequence : UInt32)
  | bad
  deriving DecidableEq, Repr

/-- The bytes of the line so far; a line that is discarded ends at the next LF. -/
structure Parser where
  line : List UInt8 := []
  discard : Bool := false
  deriving DecidableEq, Repr

def nibble (byte : UInt8) : Option UInt8 :=
  if 0x30 ≤ byte ∧ byte ≤ 0x39 then some (byte - 0x30)
  else if 0x41 ≤ byte ∧ byte ≤ 0x46 then some (byte - 0x41 + 10)
  else none

def parseLine (line : List UInt8) : Option UInt32 :=
  (stripPrefix peerPrefix (stripCr line)).bind fun digits =>
    if digits.length ≠ 8 then none
    else digits.foldlM (fun sequence byte =>
      (nibble byte).map fun nibble => (sequence <<< 4) ||| nibble.toUInt32) 0

/-- Damage drops the line through its LF; true if it had not been dropped before. -/
def Parser.damaged (parser : Parser) : Bool × Parser :=
  (!parser.discard, { line := [], discard := true })

def Parser.push (parser : Parser) (byte : UInt8) : Option Frame × Parser :=
  if byte = 0x0A then
    (if parser.discard then none
      else some (match parseLine parser.line with
        | some sequence => .peer sequence
        | none => .bad), {})
  else if parser.discard then (none, parser)
  else if parser.line.length = lineLimit ∨ ¬(byte = 0x0D ∨ (0x20 ≤ byte ∧ byte ≤ 0x7E)) then
    (some .bad, parser.damaged.2)
  else (none, { parser with line := parser.line ++ [byte] })

/-! ## The report fits its buffer -/

theorem writeStr_foldlM {size : Nat} {out : List UInt8} {pieces : List (List UInt8)}
    (room : out.length + pieces.flatten.length ≤ size) :
    pieces.foldlM (writeStr size) out = some (out ++ pieces.flatten) := by
  induction pieces generalizing out with
  | nil => exact congrArg some (List.append_nil out).symm
  | cons piece rest ih =>
      rw [List.flatten_cons, List.length_append] at room
      have fits : ¬ out.length + piece.length > size := by omega
      have room' : (out ++ piece).length + rest.flatten.length ≤ size := by
        rw [List.length_append]
        omega
      rw [List.foldlM_cons, writeStr, if_neg fits]
      change rest.foldlM (writeStr size) (out ++ piece) = _
      rw [ih room', List.flatten_cons, List.append_assoc]

theorem responsePieces_length_le (values : Vector UInt32 6) :
    (responsePieces values).flatten.length ≤ 132 := by
  have digits (value : UInt32) : (decimal value.toNat).length ≤ 10 :=
    Lib.Numerals.decimal_length_le (by decide) (Nat.lt_trans value.toNat_lt (by decide))
  have rxbytes := digits values[0]
  have peerframes := digits values[1]
  have badframes := digits values[2]
  have uartErrors := digits values[3]
  have txframes := digits values[5]
  simp only [responsePieces, List.flatten_cons, List.flatten_nil, List.length_append,
    UartLink.numberDigits_length]
  simp [ascii]
  omega

theorem formatResponse_eq {size : Nat} (values : Vector UInt32 6) (large : 132 ≤ size) :
    formatResponse values size = some (responsePieces values).flatten := by
  have length := responsePieces_length_le values
  apply writeStr_foldlM
  rw [List.length_nil, Nat.zero_add]
  exact Nat.le_trans length large

/-! ## Runs -/

inductive Event where
  | push (byte : UInt8)
  | damaged
  deriving DecidableEq, Repr

/-- What an event yields: a frame, or the answer of `damaged`. -/
structure Yield where
  frame : Option Frame := none
  newlyDamaged : Bool := false
  deriving DecidableEq, Repr

def Parser.yield (parser : Parser) : Event → Yield
  | .push byte => { frame := (parser.push byte).1 }
  | .damaged => { newlyDamaged := parser.damaged.1 }

def Parser.next (parser : Parser) : Event → Parser
  | .push byte => (parser.push byte).2
  | .damaged => parser.damaged.2

/-- The yields of a run, in order. -/
def Parser.yields (parser : Parser) : List Event → List Yield
  | [] => []
  | event :: rest => parser.yield event :: (parser.next event).yields rest

def Yield.isPeer (yield : Yield) : Bool :=
  match yield.frame with
  | some (.peer _) => true
  | _ => false

def Yield.isBad (yield : Yield) : Bool := yield.frame = some .bad

/-! ## Every line is counted once -/

/-- One event: what it yields counts for the line it ends, or for the one it starts to drop. -/
theorem yield_accounts (parser : Parser) (event : Event) :
    (parser.yield event).isPeer.toNat + (parser.yield event).isBad.toNat +
        (parser.yield event).newlyDamaged.toNat + parser.discard.toNat =
      (decide (event = .push 0x0A)).toNat + (parser.next event).discard.toNat := by
  cases event with
  | damaged =>
      cases discarded : parser.discard
      all_goals
        simp [Parser.yield, Parser.next, Parser.damaged, Yield.isPeer, Yield.isBad, discarded]
  | push byte =>
      unfold Parser.yield Parser.next Parser.push
      by_cases ends : byte = 0x0A
      · subst ends
        cases discarded : parser.discard with
        | true => simp [Yield.isPeer, Yield.isBad]
        | false =>
            cases parseLine parser.line
            all_goals simp [Yield.isPeer, Yield.isBad]
      · by_cases discarded : parser.discard = true
        · simp [Yield.isPeer, Yield.isBad, ends, discarded]
        · have open_ : parser.discard = false := Bool.eq_false_iff.mpr discarded
          by_cases spoils : parser.line.length = lineLimit ∨
              ¬(byte = 0x0D ∨ (0x20 ≤ byte ∧ byte ≤ 0x7E))
          · simp only [if_neg ends, if_neg discarded, if_pos spoils]
            simp [Yield.isPeer, Yield.isBad, Parser.damaged, ends, open_]
          · simp only [if_neg ends, if_neg discarded, if_neg spoils]
            simp [Yield.isPeer, Yield.isBad, ends, open_]

theorem yields_account (parser : Parser) (events : List Event) :
    (parser.yields events).countP Yield.isPeer + (parser.yields events).countP Yield.isBad +
        (parser.yields events).countP Yield.newlyDamaged + parser.discard.toNat =
      events.count (.push 0x0A) + (events.foldl Parser.next parser).discard.toNat := by
  induction events generalizing parser with
  | nil => simp [Parser.yields]
  | cons event events ih =>
      have here := yield_accounts parser event
      have rest := ih (parser.next event)
      have counts (test : Yield → Bool) :
          (parser.yields (event :: events)).countP test =
            ((parser.next event).yields events).countP test +
              (test (parser.yield event)).toNat := by
        rw [Parser.yields, List.countP_cons]
        cases test (parser.yield event) <;> rfl
      have ends : (event :: events).count (.push 0x0A) =
          events.count (.push 0x0A) + (decide (event = .push 0x0A)).toNat := by
        rw [List.count_cons]
        by_cases same : event = .push 0x0A <;> simp [same]
      rw [counts, counts, counts, ends, List.foldl_cons]
      omega

/-! ## The line an LF ends -/

/-- The events since the last LF. -/
def lastLine (events : List Event) : List Event :=
  events.foldl (fun line event => if event = .push 0x0A then [] else line ++ [event]) []

def received (line : List Event) : List UInt8 :=
  line.filterMap fun
    | .push byte => some byte
    | .damaged => none

/-- A line that nothing has spoiled. -/
structure Intact (line : List Event) : Prop where
  whole : .damaged ∉ line
  short : (received line).length ≤ 32
  printable : ∀ byte ∈ received line, byte = 0x0D ∨ (0x20 ≤ byte ∧ byte ≤ 0x7E)

/-- The form of a peer's ping. -/
def PeerPing (line : List UInt8) (sequence : UInt32) : Prop :=
  ∃ digits, stripCr line = peerPrefix ++ digits ∧ digits.length = 8 ∧
    (∀ digit ∈ digits, digit ∈ upperDigits) ∧ numberOf digits = sequence.toNat

theorem intact_nil : Intact [] := ⟨List.not_mem_nil, Nat.zero_le _, by simp [received]⟩

theorem received_append (line : List Event) (event : Event) :
    received (line ++ [event]) = received line ++ received [event] := List.filterMap_append

theorem intact_push (line : List Event) (byte : UInt8) :
    Intact (line ++ [.push byte]) ↔
      Intact line ∧ (received line).length < 32 ∧ (byte = 0x0D ∨ (0x20 ≤ byte ∧ byte ≤ 0x7E)) := by
  have grown : received (line ++ [.push byte]) = received line ++ [byte] := received_append _ _
  constructor
  · rintro ⟨whole, short, printable⟩
    rw [grown] at short printable
    obtain ⟨before, last⟩ := List.forall_mem_append.mp printable
    rw [List.length_append, List.length_singleton] at short
    refine ⟨⟨?_, by omega, before⟩, short, last byte (List.mem_singleton_self _)⟩
    exact fun member => whole (List.mem_append_left _ member)
  · rintro ⟨⟨whole, short, printable⟩, room, fine⟩
    refine ⟨?_, ?_, ?_⟩
    · simpa using whole
    · rw [grown, List.length_append, List.length_singleton]
      omega
    · rw [grown]
      exact List.forall_mem_append.mpr ⟨printable, List.forall_mem_singleton.mpr fine⟩

/-- The state after the events of an unfinished line. -/
structure Parser.After (parser : Parser) (line : List Event) : Prop where
  reads : Intact line → parser = { line := received line, discard := false }
  skips : ¬Intact line → parser = { line := [], discard := true }

theorem Parser.After.push {parser : Parser} {line : List Event} (after : parser.After line)
    {byte : UInt8} (inside : byte ≠ 0x0A) :
    (parser.push byte).2.After (line ++ [.push byte]) := by
  have grown : received (line ++ [.push byte]) = received line ++ [byte] := received_append _ _
  unfold Parser.push
  rw [if_neg inside]
  by_cases intact : Intact line
  · obtain rfl := after.reads intact
    rw [if_neg Bool.false_ne_true]
    by_cases spoils : (received line).length = lineLimit ∨
        ¬(byte = 0x0D ∨ (0x20 ≤ byte ∧ byte ≤ 0x7E))
    · rw [if_pos spoils]
      constructor
      · intro still
        obtain ⟨-, room, fine⟩ := (intact_push line byte).mp still
        rcases spoils with full | strange
        · exact absurd full (Nat.ne_of_lt room)
        · exact absurd fine strange
      · exact fun _ => rfl
    · rw [if_neg spoils]
      obtain ⟨room, fine⟩ := not_or.mp spoils
      have short := intact.short
      have still : Intact (line ++ [.push byte]) :=
        (intact_push line byte).mpr ⟨intact, Nat.lt_of_le_of_ne short room,
          Decidable.not_not.mp fine⟩
      constructor
      · intro _
        rw [grown]
      · exact fun spoiled => absurd still spoiled
  · obtain rfl := after.skips intact
    rw [if_pos rfl]
    constructor
    · exact fun still => absurd ((intact_push line byte).mp still).1 intact
    · exact fun _ => rfl

theorem Parser.After.next {parser : Parser} {line : List Event} (after : parser.After line)
    (event : Event) :
    (parser.next event).After (if event = .push 0x0A then [] else line ++ [event]) := by
  cases event with
  | damaged =>
      rw [if_neg (by simp)]
      constructor
      · exact fun still => absurd (List.mem_append_right _ (List.mem_singleton_self _)) still.whole
      · exact fun _ => rfl
  | push byte =>
      by_cases ends : byte = 0x0A
      · subst ends
        rw [if_pos rfl]
        constructor
        · exact fun _ => rfl
        · exact fun spoiled => absurd intact_nil spoiled
      · rw [if_neg (by simpa using ends)]
        exact after.push ends

theorem after_run (events : List Event) :
    (events.foldl Parser.next {}).After (lastLine events) := by
  have run (parser : Parser) (line : List Event) (after : parser.After line) :
      (events.foldl Parser.next parser).After
        (events.foldl (fun line event => if event = .push 0x0A then [] else line ++ [event])
          line) := by
    induction events generalizing parser line with
    | nil => exact after
    | cons event events ih => exact ih _ _ (after.next event)
  exact run {} [] ⟨fun _ => rfl, fun spoiled => absurd intact_nil spoiled⟩

/-! ## The number of a ping -/

theorem nibble_eq (sequence : UInt32) (byte : UInt8) :
    ((nibble byte).map fun nibble => (sequence <<< 4) ||| nibble.toUInt32) =
      numberDigit sequence byte := by
  unfold nibble numberDigit UartLink.hex
  by_cases digit : 0x30 ≤ byte ∧ byte ≤ 0x39
  · rw [if_pos digit, if_pos (.inl digit), if_pos digit]
  · by_cases letter : 0x41 ≤ byte ∧ byte ≤ 0x46
    · rw [if_neg digit, if_pos letter, if_pos (.inr letter), if_neg digit, if_pos letter]
    · rw [if_neg digit, if_neg letter, if_neg (not_or.mpr ⟨digit, letter⟩)]
      rfl

theorem parseLine_prefixed {line digits : List UInt8} (form : stripCr line = peerPrefix ++ digits) :
    parseLine line = if digits.length ≠ 8 then none else UartLink.parseNumber digits := by
  unfold parseLine
  rw [form, stripPrefix_append, Option.bind_some]
  simp only [nibble_eq]
  rfl

theorem parseLine_eq_some (line : List UInt8) (sequence : UInt32) :
    parseLine line = some sequence ↔ PeerPing line sequence := by
  constructor
  · intro parsed
    obtain ⟨digits, starts, -⟩ := Option.bind_eq_some_iff.mp parsed
    have form := stripPrefix_eq_some starts
    rw [parseLine_prefixed form] at parsed
    split at parsed
    · cases parsed
    next eight =>
      have eight := Decidable.not_not.mp eight
      have upper := UartLink.upper_of_foldlM 0 parsed
      obtain ⟨number, read, value⟩ := UartLink.parseNumber_eq eight upper
      obtain rfl := Option.some.inj (parsed.symm.trans read)
      exact ⟨digits, form, eight, upper, value.symm⟩
  · rintro ⟨digits, form, eight, upper, value⟩
    obtain ⟨number, read, value'⟩ := UartLink.parseNumber_eq eight upper
    rw [parseLine_prefixed form, if_neg (not_not.mpr eight), read]
    exact congrArg some (UInt32.toNat_inj.mp (value'.trans value))

/-- The digits of a ping of this board. -/
def pingDigits (sequence : UInt32) : List UInt8 :=
  ((encodePing sequence).drop txPrefix.length).take 8

theorem encodePing_eq (sequence : UInt32) :
    encodePing sequence = txPrefix ++ UartLink.numberDigits sequence ++ [0x0A] := by
  unfold encodePing UartLink.numberDigits
  rfl

theorem pingDigits_eq (sequence : UInt32) :
    pingDigits sequence = UartLink.numberDigits sequence := by
  unfold pingDigits
  rw [encodePing_eq, List.append_assoc, List.drop_left, List.take_append_of_le_length (by simp),
    List.take_of_length_le (by simp)]

/-- The digits of a number behind the peer's prefix are read back. -/
theorem parseLine_pingDigits (sequence : UInt32) :
    parseLine (peerPrefix ++ pingDigits sequence) = some sequence := by
  rw [pingDigits_eq]
  have eight := UartLink.numberDigits_length sequence
  have plain : stripCr (peerPrefix ++ UartLink.numberDigits sequence) =
      peerPrefix ++ UartLink.numberDigits sequence := by
    apply UartLink.stripCr_of_last
    intro last
    have some : UartLink.numberDigits sequence ≠ [] := by
      intro none
      rw [none] at eight
      cases eight
    rw [List.getLast?_append_of_ne_nil _ some] at last
    have digit := UartLink.numberDigits_upper sequence _ (List.mem_of_getLast? last)
    exact absurd digit (by decide)
  rw [parseLine_prefixed plain, if_neg (not_not.mpr eight), UartLink.parseNumber_numberDigits]

/-- An LF yields a peer's number exactly when the line it ends is a peer's ping. -/
theorem peer_iff (events : List Event) (sequence : UInt32) :
    ((events.foldl Parser.next {}).yield (.push 0x0A)).frame = some (.peer sequence) ↔
      Intact (lastLine events) ∧ PeerPing (received (lastLine events)) sequence := by
  have after := after_run events
  generalize events.foldl Parser.next {} = parser at *
  generalize lastLine events = line at *
  rw [← parseLine_eq_some]
  by_cases intact : Intact line
  · obtain rfl := after.reads intact
    change some (match parseLine (received line) with
      | some sequence => Frame.peer sequence
      | none => .bad) = some (.peer sequence) ↔ _
    cases parseLine (received line) with
    | none => simp
    | some number => simp [intact]
  · obtain rfl := after.skips intact
    constructor
    · exact fun none => absurd none (by simp [Parser.yield, Parser.push])
    · exact fun both => absurd both.1 intact

/-- Nothing but an LF yields a peer's number. -/
theorem peer_only_at_lf (parser : Parser) (event : Event) (sequence : UInt32)
    (yielded : (parser.yield event).frame = some (.peer sequence)) : event = .push 0x0A := by
  cases event with
  | damaged => cases yielded
  | push byte =>
      by_cases ends : byte = 0x0A
      · rw [ends]
      · change (parser.push byte).1 = _ at yielded
        unfold Parser.push at yielded
        rw [if_neg ends] at yielded
        split at yielded
        · cases yielded
        · split at yielded
          · cases yielded
          · cases yielded

/--
For every sequence of events: a peer's number is yielded exactly at an LF that
ends an intact line with the form of a peer's ping; at every point the frames and
the damage reported add up to the LFs so far, plus one while a line is dropped;
and the digits of any number this board sends are read back behind the peer's prefix.
-/
theorem smoke_parser_accounts :
    (∀ (events : List Event) (event : Event) (sequence : UInt32),
      ((events.foldl Parser.next {}).yield event).frame = some (.peer sequence) ↔
        event = .push 0x0A ∧ Intact (lastLine events) ∧
          PeerPing (received (lastLine events)) sequence) ∧
    (∀ events : List Event,
      (({} : Parser).yields events).countP Yield.isPeer +
          (({} : Parser).yields events).countP Yield.isBad +
          (({} : Parser).yields events).countP Yield.newlyDamaged =
        events.count (.push 0x0A) + (events.foldl Parser.next {}).discard.toNat) ∧
    ∀ sequence : UInt32, parseLine (peerPrefix ++ pingDigits sequence) = some sequence := by
  refine ⟨?_, ?_, ?_⟩
  · intro events event sequence
    constructor
    · intro yielded
      obtain rfl := peer_only_at_lf _ event sequence yielded
      exact ⟨rfl, (peer_iff events sequence).mp yielded⟩
    · rintro ⟨rfl, ping⟩
      exact (peer_iff events sequence).mpr ping
  · exact yields_account {}
  · exact parseLine_pingDigits

end NrfUnifying.UartSmoke
